import Mathlib.Data.List.Nodup

namespace Layer3Switch.Lib

variable {A σ : Type} [DecidableEq A]

def Segment (next : A → A) (null : A) : A → List A → A → Prop
  | p, [], q => p = q
  | p, a :: l, q => p = a ∧ a ≠ null ∧ Segment next null (next a) l q

abbrev Chain (next : A → A) (null p : A) (l : List A) : Prop := Segment next null p l null

/-- The first node from `p` on for which `found` holds, or `null`, with the node before it.
There is no result where the links do not end within the fuel. -/
def seek (next : A → A) (null : A) (found : A → Bool) : ℕ → A → A → Option (A × A)
  | 0, _, _ => none
  | fuel + 1, prev, p =>
    if p = null then some (prev, null)
    else if found p then some (prev, p)
    else seek next null found fuel p (next p)

def walk (next : σ → A → A) (null : A) (callback : σ → A → Option σ) :
    ℕ → σ → A → Option (List A × σ)
  | 0, _, _ => none
  | fuel + 1, x, p =>
    if p = null then some ([], x)
    else
      (callback x p).bind fun x ↦
        (walk next null callback fuel x (next x p)).map fun y ↦ (p :: y.1, y.2)

variable {next next' : A → A} {null p q v a b : A} {l l₁ l₂ : List A} {found : A → Bool}

namespace Segment

omit [DecidableEq A] in
theorem congr (h : Segment next null p l q) (heq : ∀ a ∈ l, next' a = next a) :
    Segment next' null p l q := by
  induction l generalizing p with
  | nil => exact h
  | cons a l ih =>
    obtain ⟨hp, ha, hl⟩ := h
    refine ⟨hp, ha, ih ?_ fun b hb ↦ heq b (List.mem_cons_of_mem a hb)⟩
    rw [heq a List.mem_cons_self]
    exact hl

omit [DecidableEq A] in
theorem append_iff :
    Segment next null p (l₁ ++ l₂) q ↔
      ∃ m, Segment next null p l₁ m ∧ Segment next null m l₂ q := by
  induction l₁ generalizing p with
  | nil => exact ⟨fun h ↦ ⟨p, rfl, h⟩, fun ⟨_, rfl, h⟩ ↦ h⟩
  | cons a l₁ ih => simp only [List.cons_append, Segment, ih, and_assoc, exists_and_left]

omit [DecidableEq A] in
theorem ne_null (h : Segment next null p l q) (ha : a ∈ l) : a ≠ null := by
  induction l generalizing p with
  | nil => cases ha
  | cons b l ih =>
    obtain ⟨-, hb, hl⟩ := h
    obtain rfl | ha := List.mem_cons.mp ha
    · exact hb
    · exact ih hl ha

theorem relink (h : Segment next null p (l ++ [b]) q) (hb : b ∉ l) (v : A) :
    Segment (Function.update next b v) null p (l ++ [b]) v := by
  obtain ⟨m, hl, rfl, hnull, -⟩ := append_iff.mp h
  refine append_iff.mpr ⟨m, hl.congr fun a ha ↦ ?_, rfl, hnull, ?_⟩
  · exact Function.update_of_ne (ne_of_mem_of_not_mem ha hb) _ _
  · exact Function.update_self _ _ _

theorem seek_pass (h : Segment next null p l q) (hl : ∀ a ∈ l, found a = false) (fuel : ℕ)
    (prev : A) :
    seek next null found (l.length + fuel) prev p =
      seek next null found fuel (l.getLastD prev) q := by
  induction l generalizing p prev with
  | nil =>
    obtain rfl : p = q := h
    rw [List.length_nil, Nat.zero_add, List.getLastD_nil]
  | cons a l ih =>
    obtain ⟨rfl, ha, hseg⟩ := h
    rw [List.length_cons, Nat.add_right_comm, seek, if_neg ha, hl p List.mem_cons_self,
      if_neg Bool.false_ne_true, ih hseg fun b hb ↦ hl b (List.mem_cons_of_mem p hb),
      List.getLastD_cons]

end Segment

namespace Chain

theorem seek_found {fuel : ℕ} (h : Chain next null p (l₁ ++ a :: l₂))
    (hl : ∀ b ∈ l₁, found b = false) (ha : found a = true) (hfuel : l₁.length < fuel) (prev : A) :
    seek next null found fuel prev p = some (l₁.getLastD prev, a) := by
  obtain ⟨m, hl₁, rfl, hm, -⟩ := Segment.append_iff.mp h
  obtain ⟨k, rfl⟩ := Nat.exists_eq_add_of_lt hfuel
  rw [Nat.add_assoc, hl₁.seek_pass hl, seek, if_neg hm, if_pos ha]

theorem seek_null {fuel : ℕ} (h : Chain next null p l) (hl : ∀ b ∈ l, found b = false)
    (hfuel : l.length < fuel) (prev : A) :
    seek next null found fuel prev p = some (l.getLastD prev, null) := by
  obtain ⟨k, rfl⟩ := Nat.exists_eq_add_of_lt hfuel
  rw [Nat.add_assoc, Segment.seek_pass h hl, seek, if_pos rfl]

theorem walk_eq {next : σ → A → A} {callback : σ → A → Option σ} {J : List A → σ → Prop} {x : σ}
    {fuel : ℕ}
    (hstep : ∀ a l x, J (a :: l) x → ∃ x', callback x a = some x' ∧ J l x' ∧
      ∀ b ∈ a :: l, next x' b = next x b)
    (h : Chain (next x) null p l) (hJ : J l x) (hfuel : l.length < fuel) :
    ∃ x', walk next null callback fuel x p = some (l, x') ∧ J [] x' := by
  induction l generalizing x p fuel with
  | nil =>
    obtain rfl : p = null := h
    obtain ⟨k, rfl⟩ := Nat.exists_eq_add_of_lt hfuel
    exact ⟨x, if_pos rfl, hJ⟩
  | cons a l ih =>
    obtain ⟨rfl, ha, hl⟩ := h
    obtain ⟨k, rfl⟩ := Nat.exists_eq_add_of_lt hfuel
    obtain ⟨x', hcall, hJ', hsame⟩ := hstep p l x hJ
    have hl' : Chain (next x') null (next x' p) l := by
      rw [hsame p List.mem_cons_self]
      exact hl.congr fun b hb ↦ hsame b (List.mem_cons_of_mem p hb)
    have hfuel' : l.length < (p :: l).length + k := by
      rw [List.length_cons]
      omega
    obtain ⟨x'', hwalk, hJ''⟩ := ih hl' hJ' hfuel'
    refine ⟨x'', ?_, hJ''⟩
    rw [walk, if_neg ha, hcall, Option.bind_some, hwalk]
    rfl

end Chain

end Layer3Switch.Lib
