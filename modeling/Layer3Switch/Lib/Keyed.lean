import Mathlib.Data.List.Basic
import Mathlib.Tactic

namespace Layer3Switch.Lib

theorem map_modify_of_eq {α β : Type} {l : List α} {p : ℕ} {f : α → α} {g : α → β}
    (h : ∀ x, l[p]? = some x → g (f x) = g x) : (l.modify p f).map g = l.map g := by
  apply List.ext_getElem?
  intro i
  rw [List.getElem?_map, List.getElem?_map, List.getElem?_modify]
  by_cases hi : p = i
  · subst hi
    cases hx : l[p]? with
    | none => simp
    | some x => simp [h x hx]
  · simp [hi]

theorem forall₂_modify {α : Type} {R : α → α → Prop} {l : List α} {p : ℕ} {f : α → α}
    (hrefl : ∀ x, R x x) (h : ∀ x, l[p]? = some x → R x (f x)) :
    List.Forall₂ R l (l.modify p f) := by
  induction l generalizing p with
  | nil =>
    cases p with
    | zero => exact .nil
    | succ p => exact .nil
  | cons x l ih =>
    cases p with
    | zero => exact .cons (h x rfl) (List.forall₂_same.mpr fun y _ ↦ hrefl y)
    | succ p => exact .cons (hrefl x) (ih h)

theorem exists_of_forall₂_left {α β : Type} {R : α → β → Prop} {l : List α} {l' : List β}
    (h : List.Forall₂ R l l') {x : α} (hx : x ∈ l) : ∃ y ∈ l', R x y := by
  induction h with
  | nil => cases hx
  | cons hR _ ih =>
    obtain rfl | hx := List.mem_cons.mp hx
    · exact ⟨_, List.mem_cons_self, hR⟩
    · obtain ⟨y, hy, hxy⟩ := ih hx
      exact ⟨y, List.mem_cons_of_mem _ hy, hxy⟩

theorem exists_of_forall₂_right {α β : Type} {R : α → β → Prop} {l : List α} {l' : List β}
    (h : List.Forall₂ R l l') {y : β} (hy : y ∈ l') : ∃ x ∈ l, R x y :=
  exists_of_forall₂_left (List.Forall₂.flip h) hy

variable {α κ : Type} [DecidableEq κ] (key : α → κ)

def lookup (l : List α) (k : κ) : Option α := l.find? (key · == k)

def update (l : List α) (k : κ) (x : α) : List α :=
  match l with
  | [] => []
  | y :: l => if key y = k then x :: l else y :: update l k x

def remove (l : List α) (k : κ) : List α := l.eraseP (key · == k)

variable {key} {l : List α} {k k' : κ} {x y : α}

theorem lookup_cons : lookup key (y :: l) k = if key y = k then some y else lookup key l k := by
  by_cases h : key y = k <;> simp [lookup, h]

theorem lookup_mem (h : lookup key l k = some x) : x ∈ l := List.mem_of_find?_eq_some h

theorem lookup_key (h : lookup key l k = some x) : key x = k := by
  simpa using List.find?_some h

theorem lookup_append (hx : key x = k) (h : lookup key l k = none) :
    lookup key (l ++ [x]) k = some x := by
  rw [lookup, List.find?_append, ← lookup, h]
  simp [hx]

theorem lookup_append_ne (hx : key x ≠ k) : lookup key (l ++ [x]) k = lookup key l k := by
  rw [lookup, List.find?_append, ← lookup]
  simp [hx]

theorem update_cons : update key (y :: l) k x =
    if key y = k then x :: l else y :: update key l k x := rfl

theorem update_lookup (h : lookup key l k = some x) : update key l k x = l := by
  induction l with
  | nil => rfl
  | cons y l ih =>
    rw [lookup_cons] at h
    rw [update_cons]
    split at h
    · obtain rfl := Option.some.inj h
      rw [if_pos ‹_›]
    · rw [if_neg ‹_›, ih h]

theorem lookup_update (hx : key x = k) (h : (lookup key l k).isSome) :
    lookup key (update key l k x) k = some x := by
  induction l with
  | nil => cases h
  | cons y l ih =>
    rw [lookup_cons] at h
    rw [update_cons]
    split
    · rw [lookup_cons, if_pos hx]
    · rename_i hy
      rw [if_neg hy] at h
      rw [lookup_cons, if_neg hy]
      exact ih h

theorem lookup_update_ne (hx : key x = k) (hne : k' ≠ k) :
    lookup key (update key l k x) k' = lookup key l k' := by
  induction l with
  | nil => rfl
  | cons y l ih =>
    rw [update_cons]
    split
    · rename_i hy
      rw [lookup_cons, lookup_cons, if_neg, if_neg]
      · rw [hy]
        exact hne.symm
      · rw [hx]
        exact hne.symm
    · rw [lookup_cons, lookup_cons, ih]

theorem map_update {β : Type} {g : α → β} (h : ∀ y, lookup key l k = some y → g x = g y) :
    (update key l k x).map g = l.map g := by
  induction l with
  | nil => rfl
  | cons y l ih =>
    rw [update_cons]
    split
    · rename_i hy
      rw [List.map_cons, List.map_cons, h y (by rw [lookup_cons, if_pos hy])]
    · rename_i hy
      rw [List.map_cons, List.map_cons, ih]
      intro z hz
      exact h z (by rw [lookup_cons, if_neg hy]; exact hz)

theorem lookup_remove_ne (hne : k' ≠ k) : lookup key (remove key l k) k' = lookup key l k' := by
  induction l with
  | nil => rfl
  | cons y l ih =>
    rw [remove, List.eraseP_cons]
    by_cases hy : key y = k
    · have hy' : key y ≠ k' := by
        rw [hy]
        exact hne.symm
      rw [lookup_cons, if_neg hy', beq_iff_eq.mpr hy, cond_true]
    · rw [beq_eq_false_iff_ne.mpr hy, cond_false, lookup_cons, lookup_cons]
      exact congrArg _ ih

theorem perm_of_lookup (h : lookup key l k = some x) : l.Perm (x :: remove key l k) := by
  induction l with
  | nil => cases h
  | cons z l ih =>
    rw [lookup_cons] at h
    by_cases hz : key z = k
    · rw [if_pos hz] at h
      obtain rfl := Option.some.inj h
      simp [remove, hz]
    · rw [if_neg hz] at h
      have hrem : remove key (z :: l) k = z :: remove key l k := by simp [remove, hz]
      rw [hrem]
      exact ((ih h).cons z).trans (.swap x z _)

theorem update_perm (h : (lookup key l k).isSome) :
    (update key l k y).Perm (y :: remove key l k) := by
  induction l with
  | nil => cases h
  | cons z l ih =>
    rw [lookup_cons] at h
    rw [update_cons]
    by_cases hz : key z = k
    · rw [if_pos hz]
      simp [remove, hz]
    · rw [if_neg hz] at h ⊢
      have hrem : remove key (z :: l) k = z :: remove key l k := by simp [remove, hz]
      rw [hrem]
      exact ((ih h).cons z).trans (.swap y z _)

theorem lookup_isSome : (lookup key l k).isSome ↔ k ∈ l.map key := by
  rw [lookup, List.find?_isSome, List.mem_map]
  exact exists_congr fun x ↦ and_congr_right fun _ ↦ beq_iff_eq

theorem lookup_eq_none : lookup key l k = none ↔ k ∉ l.map key := by
  rw [← lookup_isSome, Option.not_isSome_iff_eq_none]

theorem lookup_of_mem (hl : (l.map key).Nodup) (hx : x ∈ l) : lookup key l (key x) = some x := by
  have hsome : (lookup key l (key x)).isSome := lookup_isSome.mpr (List.mem_map_of_mem hx)
  obtain ⟨y, hy⟩ := Option.isSome_iff_exists.mp hsome
  rw [hy, List.inj_on_of_nodup_map hl (lookup_mem hy) hx (lookup_key hy)]

theorem nodup_append_absent (hl : (l.map key).Nodup) (h : lookup key l (key x) = none) :
    ((l ++ [x]).map key).Nodup := by
  rw [List.map_append, List.nodup_append]
  refine ⟨hl, List.nodup_singleton _, ?_⟩
  intro a ha b hb
  rw [List.mem_singleton.mp hb]
  rintro rfl
  exact lookup_eq_none.mp h ha

theorem map_remove_sublist : List.Sublist ((remove key l k).map key) (l.map key) :=
  List.eraseP_sublist.map key

theorem lookup_remove (hl : (l.map key).Nodup) : lookup key (remove key l k) k = none := by
  induction l with
  | nil => rfl
  | cons y l ih =>
    obtain ⟨hy, hl⟩ := List.nodup_cons.mp hl
    rw [remove, List.eraseP_cons]
    by_cases hyk : key y = k
    · rw [beq_iff_eq.mpr hyk, cond_true, lookup_eq_none, ← hyk]
      exact hy
    · rw [beq_eq_false_iff_ne.mpr hyk, cond_false, lookup_cons, if_neg hyk]
      exact ih hl

section Owner

variable {β : Type} (key) (f : α → Option β)

def owner (l : List α) : Option (κ × β) := l.findSome? fun x ↦ (f x).map (key x, ·)

def OwnFirst (l : List α) (k : κ) : Prop :=
  ∀ l₁ x l₂, l = l₁ ++ x :: l₂ → (f x).isSome → key x = k ∨ ∃ y ∈ l₁, key y = k ∧ (f y).isSome

variable {key f} {b : β}

omit [DecidableEq κ] in
theorem owner_cons_some (h : f x = some b) : owner key f (x :: l) = some (key x, b) := by
  simp [owner, h]

omit [DecidableEq κ] in
theorem owner_cons_none (h : f x = none) : owner key f (x :: l) = owner key f l := by
  simp [owner, h]

theorem owner_lookup (hl : (l.map key).Nodup) (h : owner key f l = some (k, b)) :
    ∃ x, lookup key l k = some x ∧ f x = some b := by
  induction l with
  | nil => cases h
  | cons y l ih =>
    obtain ⟨hy, hl⟩ := List.nodup_cons.mp hl
    cases hfy : f y with
    | some c =>
      rw [owner_cons_some hfy] at h
      obtain ⟨rfl, rfl⟩ := Prod.mk.inj (Option.some.inj h)
      exact ⟨y, by rw [lookup_cons, if_pos rfl], hfy⟩
    | none =>
      rw [owner_cons_none hfy] at h
      obtain ⟨x, hx, hfx⟩ := ih hl h
      have hne : key y ≠ k := by
        rintro rfl
        exact hy (lookup_isSome.mp (by rw [hx]; rfl))
      exact ⟨x, by rw [lookup_cons, if_neg hne, hx], hfx⟩

omit [DecidableEq κ] in
theorem ownFirst_cons_some (h : (f x).isSome) : OwnFirst key f (x :: l) k ↔ key x = k := by
  constructor
  · intro hown
    obtain hx | ⟨y, hy, -⟩ := hown [] x l rfl h
    · exact hx
    · cases hy
  · intro hx l₁ z l₂ heq hz
    cases l₁ with
    | nil =>
      obtain ⟨rfl, -⟩ := List.cons.inj heq
      exact .inl hx
    | cons y l₁ =>
      obtain ⟨rfl, -⟩ := List.cons.inj heq
      exact .inr ⟨x, List.mem_cons_self, hx, h⟩

omit [DecidableEq κ] in
theorem ownFirst_cons_none (h : f x = none) : OwnFirst key f (x :: l) k ↔ OwnFirst key f l k := by
  constructor
  · intro hown l₁ z l₂ heq hz
    obtain hz | ⟨y, hy, hyk, hfy⟩ := hown (x :: l₁) z l₂ (by rw [heq]; rfl) hz
    · exact .inl hz
    · obtain rfl | hy := List.mem_cons.mp hy
      · rw [h] at hfy
        cases hfy
      · exact .inr ⟨y, hy, hyk, hfy⟩
  · intro hown l₁ z l₂ heq hz
    cases l₁ with
    | nil =>
      obtain ⟨rfl, -⟩ := List.cons.inj heq
      rw [h] at hz
      cases hz
    | cons y l₁ =>
      obtain ⟨-, htail⟩ := List.cons.inj heq
      obtain hz | ⟨y, hy, hyk, hfy⟩ := hown l₁ z l₂ htail hz
      · exact .inl hz
      · exact .inr ⟨y, List.mem_cons_of_mem _ hy, hyk, hfy⟩

theorem owner_ne_none (h : lookup key l k = some x) (hf : (f x).isSome) : owner key f l ≠ none := by
  intro hnone
  have hfx := List.findSome?_eq_none_iff.mp hnone x (lookup_mem h)
  rw [Option.map_eq_none_iff.mp hfx] at hf
  cases hf

theorem eq_nil_of_lookup (h : ∀ k, lookup key l k = none) : l = [] := by
  rw [List.eq_nil_iff_forall_not_mem]
  intro x hx
  exact lookup_eq_none.mp (h (key x)) (List.mem_map_of_mem hx)

omit [DecidableEq κ] in
theorem ownFirst_of_none (h : owner key f l = none) : OwnFirst key f l k := by
  intro l₁ x l₂ heq hx
  have hnone := List.findSome?_eq_none_iff.mp h x (by simp [heq])
  rw [Option.map_eq_none_iff.mp hnone] at hx
  cases hx

theorem owner_eq_own_iff (hl : (l.map key).Nodup) :
    owner key f l = ((lookup key l k).bind f).map (k, ·) ↔ OwnFirst key f l k := by
  induction l with
  | nil => exact iff_of_true rfl fun l₁ x l₂ heq ↦ absurd heq (by simp)
  | cons y l ih =>
    obtain ⟨hy, hl⟩ := List.nodup_cons.mp hl
    cases hfy : f y with
    | some c =>
      rw [owner_cons_some hfy, ownFirst_cons_some (by rw [hfy]; rfl), lookup_cons]
      constructor
      · intro heq
        obtain ⟨b, -, hb⟩ := Option.map_eq_some_iff.mp heq.symm
        exact (Prod.mk.inj hb).1.symm
      · intro hk
        rw [if_pos hk, Option.bind_some, hfy, hk]
        rfl
    | none =>
      rw [owner_cons_none hfy, ownFirst_cons_none hfy, ← ih hl, lookup_cons]
      by_cases hk : key y = k
      · have hnone : lookup key l k = none := lookup_eq_none.mpr (hk ▸ hy)
        rw [if_pos hk, hnone, Option.bind_some, hfy]
        rfl
      · rw [if_neg hk]

end Owner

end Layer3Switch.Lib
