import Layer3Switch.Lib.RbBalance

namespace Layer3Switch.Lib.Rbtree

variable {α κ : Type}

theorem descend_left {c d : Color} {n : ℕ} {l r : RbNode α} {a : α} {up : List (Frame α)}
    (ht : Balanced c n (.node d l a r)) (hu : Hole c n up) :
    ∃ e m, Balanced e m l ∧ Hole e m (.left d a r :: up) := by
  cases ht with
  | red hl hr => exact ⟨_, _, hl, .redLeft hr hu⟩
  | black hl hr => exact ⟨_, _, hl, .blackLeft hr hu⟩

theorem descend_right {c d : Color} {n : ℕ} {l r : RbNode α} {a : α} {up : List (Frame α)}
    (ht : Balanced c n (.node d l a r)) (hu : Hole c n up) :
    ∃ e m, Balanced e m r ∧ Hole e m (.right d l a :: up) := by
  cases ht with
  | red hl hr => exact ⟨_, _, hr, .redRight hl hu⟩
  | black hl hr => exact ⟨_, _, hr, .blackRight hl hu⟩

theorem unlink_isRb {c d : Color} {n : ℕ} {a : α} {x y child : RbNode α} {up : List (Frame α)}
    (ht : Balanced c n (.node d x a y)) (hc : child = x ∨ child = y) (hu : Hole c n up) :
    ∃ t', unlink d child up = some t' ∧ IsRb t' := by
  cases ht with
  | red hx hy =>
    refine ⟨_, rfl, (hu.any_of_red .black).zip ?_⟩
    rcases hc with rfl | rfl <;> assumption
  | black hx hy =>
    rcases hc with rfl | rfl
    · exact rbEraseColor_isRb hx hu
    · exact rbEraseColor_isRb hy hu

theorem Hole.relabel {c d : Color} {n : ℕ} {l : RbNode α} {a : α} (b : α)
    {path up : List (Frame α)} (h : Hole c n (path ++ .right d l a :: up)) :
    Hole c n (path ++ .right d l b :: up) := by
  induction path generalizing c n with
  | nil =>
    cases h with
    | redRight hl hu => exact .redRight hl hu
    | blackRight hl hu => exact .blackRight hl hu
  | cons f path ih =>
    cases h with
    | redLeft hr hu => exact .redLeft hr (ih hu)
    | redRight hl hu => exact .redRight hl (ih hu)
    | blackLeft hr hu => exact .blackLeft hr (ih hu)
    | blackRight hl hu => exact .blackRight hl (ih hu)

theorem leftmost_balanced {c d k : Color} {n : ℕ} {a b : α} {l x y : RbNode α}
    {path up : List (Frame α)} (ht : Balanced k n (.node d x b y))
    (hu : Hole k n (path ++ .right c l a :: up)) :
    let (e, s, child, path') := leftmost d b y path x
    ∃ m j, Balanced j m (.node e .nil s child) ∧ Hole j m (path' ++ .right c l a :: up) := by
  induction x generalizing d k n b y path with
  | nil => exact ⟨_, _, ht, hu⟩
  | node e x' b' y' ihx _ =>
    obtain ⟨j, m, hx, hux⟩ := descend_left ht hu
    exact ihx hx hux

theorem eraseAt_isRb {c d : Color} {n : ℕ} {l r : RbNode α} {a : α} {up : List (Frame α)}
    (ht : Balanced c n (.node d l a r)) (hu : Hole c n up) :
    ∃ t', eraseAt (.node d l a r) up = some t' ∧ IsRb t' := by
  cases l with
  | nil => exact unlink_isRb ht (.inr rfl) hu
  | node cl ll al rl =>
    cases r with
    | nil => exact unlink_isRb ht (.inl rfl) hu
    | node e x b y =>
      obtain ⟨j, m, hr, hur⟩ := descend_right ht hu
      have hur' : Hole j m ([] ++ .right d (.node cl ll al rl) a :: up) := hur
      obtain ⟨m', j', hs, hus⟩ := leftmost_balanced hr hur'
      exact unlink_isRb hs (.inr rfl) (Hole.relabel _ hus)

theorem locate_balanced {p : α → Bool} {c : Color} {n : ℕ} {t s : RbNode α}
    {up path : List (Frame α)} (ht : Balanced c n t) (hu : Hole c n up)
    (h : locate p t up = some (s, path)) : ∃ d m, Balanced d m s ∧ Hole d m path := by
  induction t generalizing c n up with
  | nil => cases h
  | node d l a r ihl ihr =>
    unfold locate at h
    split_ifs at h with hp
    · cases h
      exact ⟨_, _, ht, hu⟩
    · rcases Option.or_eq_some_iff.mp h with hl | ⟨-, hr⟩
      · obtain ⟨_, _, ht', hu'⟩ := descend_left ht hu
        exact ihl ht' hu' hl
      · obtain ⟨_, _, ht', hu'⟩ := descend_right ht hu
        exact ihr ht' hu' hr

theorem rbErase_isRb {p : α → Bool} {t : RbNode α} {a : α} (ht : IsRb t)
    (ha : a ∈ t.toList) (hp : p a = true) : ∃ t', rbErase p t = some t' ∧ IsRb t' := by
  obtain ⟨n, ht⟩ := ht
  obtain ⟨⟨s, up⟩, hs⟩ := locate_isSome [] ha hp
  obtain ⟨d, m, hb, hu⟩ := locate_balanced ht (.top n) hs
  obtain ⟨-, c, l, b, r, rfl, -⟩ := locate_spec hs
  simpa only [rbErase, hs] using eraseAt_isRb hb hu

section Ordered

variable [LinearOrder κ] (key : α → κ)

theorem descend_hole (k : κ) {c : Color} {n : ℕ} {t : RbNode α} {up : List (Frame α)}
    (ht : Balanced c n t) (hu : Hole c n up) : Hole .black 0 (descend key k t up) := by
  induction t generalizing c n up with
  | nil => cases ht; exact hu
  | node d l a r ihl ihr =>
    unfold descend
    split_ifs with hk
    · obtain ⟨_, _, ht', hu'⟩ := descend_left ht hu
      exact ihl ht' hu'
    · obtain ⟨_, _, ht', hu'⟩ := descend_right ht hu
      exact ihr ht' hu'

theorem rbInsert_isRb (a : α) {t : RbNode α} (ht : IsRb t) :
    ∃ t', rbInsert key a t = some t' ∧ IsRb t' := by
  obtain ⟨n, ht⟩ := ht
  exact rbInsertColor_isRb (.red .nil .nil) (descend_hole key (key a) ht (.top n))

theorem before_after_descend (k : κ) (t : RbNode α) (up : List (Frame α)) :
    before (descend key k t up) ++ after (descend key k t up) =
      before up ++ t.toList ++ after up := by
  induction t generalizing up with
  | nil => simp [descend]
  | node c l a r ihl ihr =>
    unfold descend
    split_ifs with hk
    · rw [ihl]; simp
    · rw [ihr]; simp

def Ordered (xs : List α) : Prop := xs.Pairwise (fun a b ↦ key a ≤ key b)

variable {key}

theorem descend_order {k : κ} {t : RbNode α} {up : List (Frame α)}
    (ht : Ordered key (before up ++ t.toList ++ after up))
    (hb : ∀ x ∈ before up, key x ≤ k) (ha : ∀ x ∈ after up, k ≤ key x) :
    (∀ x ∈ before (descend key k t up), key x ≤ k) ∧
      ∀ x ∈ after (descend key k t up), k ≤ key x := by
  induction t generalizing up with
  | nil => exact ⟨hb, ha⟩
  | node c l a r ihl ihr =>
    simp only [Ordered, RbNode.toList, List.append_assoc, List.cons_append] at ht
    unfold descend
    split_ifs with hk
    · refine ihl (by simpa [Ordered] using ht) hb ?_
      intro x hx
      have h : ∀ y ∈ r.toList ++ after up, key a ≤ key y :=
        (List.pairwise_cons.mp (List.pairwise_append.mp (List.pairwise_append.mp ht).2.1).2.1).1
      simp only [after, List.cons_append, List.mem_cons] at hx
      rcases hx with rfl | hx
      · exact hk.le
      · exact hk.le.trans (h x hx)
    · refine ihr (by simpa [Ordered] using ht) ?_ ha
      intro x hx
      have h : ∀ y ∈ l.toList, key y ≤ key a := fun y hy ↦
        (List.pairwise_append.mp (List.pairwise_append.mp ht).2.1).2.2 y hy a (by simp)
      simp only [before, List.append_assoc, List.mem_append, List.mem_singleton] at hx
      rcases hx with hx | hx | rfl
      · exact hb x hx
      · exact (h x hx).trans (not_lt.mp hk)
      · exact not_lt.mp hk

theorem rbInsert_toList {a : α} {t t' : RbNode α} (h : rbInsert key a t = some t') :
    ∃ xs ys, t.toList = xs ++ ys ∧ t'.toList = xs ++ a :: ys ∧
      (Ordered key t.toList → (∀ x ∈ xs, key x ≤ key a) ∧ ∀ x ∈ ys, key a ≤ key x) := by
  refine ⟨before (descend key (key a) t []), after (descend key (key a) t []), ?_, ?_, ?_⟩
  · simpa using (before_after_descend key (key a) t []).symm
  · simpa [toList_zip] using rbInsertColor_toList h
  · exact fun ht ↦ descend_order (by simpa using ht) (by simp) (by simp)

theorem rbSearch_some {k : κ} {t : RbNode α} {a : α} (h : rbSearch key k t = some a) :
    a ∈ t.toList ∧ key a = k := by
  induction t with
  | nil => cases h
  | node c l b r ihl ihr =>
    unfold rbSearch at h
    split_ifs at h with h₁ h₂
    · simp [ihl h]
    · simp [ihr h]
    · cases h
      exact ⟨by simp, le_antisymm (not_lt.mp h₁) (not_lt.mp h₂)⟩

theorem rbSearch_none {k : κ} {t : RbNode α} (ht : Ordered key t.toList)
    (h : rbSearch key k t = none) : ∀ a ∈ t.toList, key a ≠ k := by
  induction t with
  | nil => simp
  | node c l b r ihl ihr =>
    obtain ⟨hl, hbr, hlr⟩ := List.pairwise_append.mp ht
    obtain ⟨hb, hr⟩ := List.pairwise_cons.mp hbr
    unfold rbSearch at h
    intro a ha
    simp only [RbNode.toList, List.mem_append, List.mem_cons] at ha
    split_ifs at h with h₁ h₂
    · rcases ha with ha | rfl | ha
      · exact ihl hl h a ha
      · exact h₁.ne'
      · exact (h₁.trans_le (hb a ha)).ne'
    · rcases ha with ha | rfl | ha
      · exact ((hlr a ha b (by simp)).trans_lt h₂).ne
      · exact h₂.ne
      · exact ihr hr h a ha

theorem Ordered.insert {a : α} {xs ys : List α} (h : Ordered key (xs ++ ys))
    (hx : ∀ x ∈ xs, key x ≤ key a) (hy : ∀ y ∈ ys, key a ≤ key y) :
    Ordered key (xs ++ a :: ys) := by
  obtain ⟨h₁, h₂, h₃⟩ := List.pairwise_append.mp h
  refine List.pairwise_append.mpr ⟨h₁, List.pairwise_cons.mpr ⟨hy, h₂⟩, ?_⟩
  intro x hx' y hy'
  rcases List.mem_cons.mp hy' with rfl | hy'
  · exact hx x hx'
  · exact h₃ x hx' y hy'

theorem Ordered.erase {a : α} {xs ys : List α} (h : Ordered key (xs ++ a :: ys)) :
    Ordered key (xs ++ ys) :=
  h.sublist ((List.sublist_cons_self a ys).append_left xs)

variable (key)

/-- The tree of a `struct rb_root`: balanced, and ordered by `key`. -/
structure RbRoot where
  rbNode : RbNode α
  balanced : IsRb rbNode
  ordered : Ordered key rbNode.toList

variable {key}

namespace RbRoot

def empty : RbRoot key := ⟨.nil, ⟨0, .nil⟩, List.Pairwise.nil⟩

def toList (r : RbRoot key) : List α := r.rbNode.toList

instance : Membership α (RbRoot key) := ⟨fun r a ↦ a ∈ r.toList⟩

instance [DecidableEq α] (a : α) (r : RbRoot key) : Decidable (a ∈ r) :=
  inferInstanceAs (Decidable (a ∈ r.toList))

theorem mem_def {a : α} {r : RbRoot key} : a ∈ r ↔ a ∈ r.toList := Iff.rfl

@[simp] theorem toList_empty : (empty : RbRoot key).toList = [] := rfl

@[simp] theorem not_mem_empty {a : α} : a ∉ (empty : RbRoot key) := List.not_mem_nil

def insert (a : α) (r : RbRoot key) : RbRoot key :=
  have h : (rbInsert key a r.rbNode).isSome := by
    obtain ⟨t', ht', -⟩ := rbInsert_isRb key a r.balanced
    simp [ht']
  ⟨(rbInsert key a r.rbNode).get h, by
    obtain ⟨t', ht', hb⟩ := rbInsert_isRb key a r.balanced
    simpa [ht'] using hb, by
    obtain ⟨xs, ys, hr, ht, ho⟩ := rbInsert_toList (Option.some_get h).symm
    rw [ht]
    obtain ⟨hx, hy⟩ := ho r.ordered
    exact (hr ▸ r.ordered).insert hx hy⟩

theorem insert_perm (a : α) (r : RbRoot key) : (r.insert a).toList.Perm (a :: r.toList) := by
  have h : rbInsert key a r.rbNode = some (r.insert a).rbNode := (Option.some_get _).symm
  obtain ⟨xs, ys, hr, ht, -⟩ := rbInsert_toList h
  rw [toList, toList, hr, ht]
  exact List.perm_middle

@[simp] theorem mem_insert {a b : α} {r : RbRoot key} : b ∈ r.insert a ↔ b = a ∨ b ∈ r := by
  rw [mem_def, (insert_perm a r).mem_iff, List.mem_cons, mem_def]

def erase (p : α → Bool) (r : RbRoot key) : Option (RbRoot key) :=
  if h : (rbErase p r.rbNode).isSome then
    some ⟨(rbErase p r.rbNode).get h, by
      obtain ⟨xs, a, ys, hr, hp, -⟩ := rbErase_toList (Option.some_get h).symm
      obtain ⟨t', ht', hb⟩ := rbErase_isRb (p := p) (a := a) r.balanced (by simp [hr]) hp
      simpa [ht'] using hb, by
      obtain ⟨xs, a, ys, hr, hp, ht⟩ := rbErase_toList (Option.some_get h).symm
      rw [ht]
      exact (hr ▸ r.ordered).erase⟩
  else none

theorem erase_some {p : α → Bool} {r r' : RbRoot key} (h : r.erase p = some r') :
    ∃ xs a ys, r.toList = xs ++ a :: ys ∧ p a = true ∧ r'.toList = xs ++ ys := by
  unfold erase at h
  split_ifs at h with hs
  cases h
  exact rbErase_toList (Option.some_get hs).symm

theorem erase_isSome {p : α → Bool} {r : RbRoot key} {a : α} (ha : a ∈ r) (hp : p a = true) :
    ∃ r', r.erase p = some r' := by
  obtain ⟨t', ht', -⟩ := rbErase_isRb (p := p) r.balanced ha hp
  exact ⟨_, by simp [erase, ht']; rfl⟩

def search (k : κ) (r : RbRoot key) : Option α := rbSearch key k r.rbNode

theorem search_some {k : κ} {r : RbRoot key} {a : α} (h : r.search k = some a) :
    a ∈ r ∧ key a = k := rbSearch_some h

theorem search_none {k : κ} {r : RbRoot key} (h : r.search k = none) : ∀ a ∈ r, key a ≠ k :=
  rbSearch_none r.ordered h

def first (r : RbRoot key) : Option α := rbFirst r.rbNode

theorem first_eq_none {r : RbRoot key} : r.first = none ↔ r.toList = [] := by
  unfold first toList
  induction r.rbNode with
  | nil => simp [rbFirst]
  | node c l a r ihl _ => cases l <;> simp_all [rbFirst]

end RbRoot

end Ordered

end Layer3Switch.Lib.Rbtree
