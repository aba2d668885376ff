import Layer3Switch.Lib.Ends

namespace Layer3Switch.Lib

variable {σ α β : Type} {F : Prop}

/-- Every run of `m` from `s` ends with a result and a state in `Q`. Where it
breaks off instead, `F` is to blame. -/
def Safe (F : Prop) (m : StateT σ Option α) (s : σ) (Q : α → σ → Prop) : Prop :=
  (m s = none → F) ∧ Ends m s Q

variable {m : StateT σ Option α} {f : α → StateT σ Option β} {s : σ}

theorem Safe.mono {Q R : α → σ → Prop} (h : Safe F m s Q) (hQR : ∀ a s', Q a s' → R a s') :
    Safe F m s R :=
  ⟨h.1, h.2.mono hQR⟩

theorem Safe.pure {Q : α → σ → Prop} {a : α} (h : Q a s) :
    Safe F (Pure.pure a : StateT σ Option α) s Q :=
  ⟨fun hm ↦ absurd hm (Option.some_ne_none _), .pure h⟩

theorem Safe.andThen {P : α → σ → Prop} {Q : β → σ → Prop} (h : Safe F m s P)
    (h' : ∀ a s', P a s' → Safe F (f a) s' Q) : Safe F (m >>= f) s Q := by
  refine ⟨?_, h.2.andThen fun a s' hP ↦ (h' a s' hP).2⟩
  intro hnone
  have hnone' := Option.bind_eq_none_iff.mp hnone
  cases hm : m s with
  | none => exact h.1 hm
  | some r => exact (h' r.1 r.2 (h.2 r.1 r.2 hm)).1 (hnone' r hm)

theorem Safe.update {Q : Unit → σ → Prop} {g : σ → σ} (h : Q () (g s)) :
    Safe F (modify g : StateT σ Option Unit) s Q :=
  ⟨fun hm ↦ absurd hm (Option.some_ne_none _), .update h⟩

theorem Safe.ite {c : Prop} [Decidable c] {m₁ m₂ : StateT σ Option α} {Q : α → σ → Prop}
    (h₁ : c → Safe F m₁ s Q) (h₂ : ¬c → Safe F m₂ s Q) : Safe F (if c then m₁ else m₂) s Q := by
  by_cases hc : c
  · rw [if_pos hc]
    exact h₁ hc
  · rw [if_neg hc]
    exact h₂ hc

theorem Safe.onlyIf {c : Prop} [Decidable c] {m : StateT σ Option Unit} {Q : Unit → σ → Prop}
    (h₁ : c → Safe F m s Q) (h₂ : ¬c → Q () s) : Safe F (onlyIf c m) s Q :=
  .ite h₁ fun hc ↦ .pure (h₂ hc)

theorem Safe.forM_range {I : ℕ → σ → Prop} {f : ℕ → StateT σ Option Unit} {n : ℕ}
    (hstep : ∀ k < n, ∀ s, I k s → Safe F (f k) s fun _ s' ↦ I (k + 1) s') (h : I 0 s) :
    Safe F ((List.range n).forM f) s fun _ s' ↦ I n s' := by
  have hfrom : ∀ m k s, k + m = n → I k s →
      Safe F ((List.range' k m).forM f) s fun _ s' ↦ I n s' := by
    intro m
    induction m with
    | zero =>
      rintro k s rfl h
      exact .pure h
    | succ m ih =>
      intro k s hk h
      change Safe F (f k >>= fun _ ↦ (List.range' (k + 1) m).forM f) s _
      refine (hstep k (by omega) s h).andThen ?_
      intro _ s' h'
      exact ih (k + 1) s' (by omega) h'
  rw [List.range_eq_range']
  exact hfrom n 0 s (Nat.zero_add n) h

end Layer3Switch.Lib
