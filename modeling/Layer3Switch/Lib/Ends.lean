import Mathlib.Tactic

namespace Layer3Switch.Lib

variable {σ α β : Type}

def Ends (m : StateT σ Option α) (s : σ) (Q : α → σ → Prop) : Prop :=
  ∀ a s', m s = some (a, s') → Q a s'

def onlyIf (c : Prop) [Decidable c] (m : StateT σ Option Unit) : StateT σ Option Unit :=
  if c then m else pure ()

variable {m : StateT σ Option α} {f : α → StateT σ Option β} {s : σ}

theorem Ends.mono {Q R : α → σ → Prop} (h : Ends m s Q) (hQR : ∀ a s', Q a s' → R a s') :
    Ends m s R :=
  fun a s' hm ↦ hQR a s' (h a s' hm)

theorem Ends.and {Q R : α → σ → Prop} (h : Ends m s Q) (h' : Ends m s R) :
    Ends m s fun a s' ↦ Q a s' ∧ R a s' :=
  fun a s' hm ↦ ⟨h a s' hm, h' a s' hm⟩

theorem Ends.pure {Q : α → σ → Prop} {a : α} (h : Q a s) :
    Ends (Pure.pure a : StateT σ Option α) s Q := by
  intro a' s' hm
  obtain ⟨rfl, rfl⟩ := Prod.mk.inj (Option.some.inj hm)
  exact h

theorem Ends.bind {Q : β → σ → Prop} (h : Ends m s fun a s' ↦ Ends (f a) s' Q) :
    Ends (m >>= f) s Q := by
  intro b s'' hm
  obtain ⟨⟨a, s'⟩, h₁, h₂⟩ := Option.bind_eq_some_iff.mp hm
  exact h a s' h₁ b s'' h₂

theorem Ends.andThen {P : α → σ → Prop} {Q : β → σ → Prop} (h : Ends m s P)
    (h' : ∀ a s', P a s' → Ends (f a) s' Q) : Ends (m >>= f) s Q :=
  .bind (h.mono h')

theorem Ends.update {Q : Unit → σ → Prop} {g : σ → σ} (h : Q () (g s)) :
    Ends (modify g : StateT σ Option Unit) s Q := by
  intro a s' hm
  obtain ⟨-, rfl⟩ := Prod.mk.inj (Option.some.inj hm)
  exact h

theorem Ends.read {g : σ → StateT σ Option β} {Q : β → σ → Prop} (h : Ends (g s) s Q) :
    Ends (get >>= g) s Q := h

theorem Ends.write {s' : σ} {Q : Unit → σ → Prop} (h : Q () s') :
    Ends (set s' : StateT σ Option Unit) s Q := by
  intro a s'' hm
  obtain ⟨-, rfl⟩ := Prod.mk.inj (Option.some.inj hm)
  exact h

theorem Ends.ite {c : Prop} [Decidable c] {m₁ m₂ : StateT σ Option α} {Q : α → σ → Prop}
    (h₁ : c → Ends m₁ s Q) (h₂ : ¬c → Ends m₂ s Q) : Ends (if c then m₁ else m₂) s Q := by
  by_cases hc : c
  · rw [if_pos hc]
    exact h₁ hc
  · rw [if_neg hc]
    exact h₂ hc

theorem Ends.onlyIf {c : Prop} [Decidable c] {m : StateT σ Option Unit} {Q : Unit → σ → Prop}
    (h₁ : c → Ends m s Q) (h₂ : ¬c → Q () s) : Ends (onlyIf c m) s Q :=
  .ite h₁ fun hc ↦ .pure (h₂ hc)

theorem Ends.forM {I : List α → σ → Prop} {f : α → StateT σ Option Unit}
    (hstep : ∀ a l s, I (a :: l) s → Ends (f a) s fun _ s' ↦ I l s') {l : List α} (h : I l s) :
    Ends (l.forM f) s fun _ s' ↦ I [] s' := by
  induction l generalizing s with
  | nil => exact .pure h
  | cons a l ih =>
    change Ends (f a >>= fun _ ↦ l.forM f) s _
    exact (hstep a l s h).andThen fun _ s' hs' ↦ ih hs'

theorem Ends.forM_range {I : ℕ → σ → Prop} {f : ℕ → StateT σ Option Unit}
    (hstep : ∀ k s, I k s → Ends (f k) s fun _ s' ↦ I (k + 1) s') {n : ℕ} (h : I 0 s) :
    Ends ((List.range n).forM f) s fun _ s' ↦ I n s' := by
  have hfrom : ∀ n k s, I k s → Ends ((List.range' k n).forM f) s fun _ s' ↦ I (k + n) s' := by
    intro n
    induction n with
    | zero =>
      intro k s h
      exact .pure h
    | succ n ih =>
      intro k s h
      change Ends (f k >>= fun _ ↦ (List.range' (k + 1) n).forM f) s _
      refine (hstep k s h).andThen ?_
      intro _ s' h'
      have hk : k + (n + 1) = k + 1 + n := by omega
      rw [hk]
      exact ih (k + 1) s' h'
  rw [List.range_eq_range', ← Nat.zero_add n]
  simpa only [Nat.zero_add] using hfrom n 0 s h

end Layer3Switch.Lib
