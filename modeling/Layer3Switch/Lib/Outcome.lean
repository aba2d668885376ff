import Mathlib.Tactic

namespace Layer3Switch.Lib

variable {σ ε α β : Type}

def Outcome (m : StateT σ (Except ε) α) (s : σ) (E : ε → Prop) (Q : α → σ → Prop) : Prop :=
  (∀ e, m s = .error e → E e) ∧ ∀ a s', m s = .ok (a, s') → Q a s'

variable {m : StateT σ (Except ε) α} {f : α → StateT σ (Except ε) β} {s : σ} {E : ε → Prop}

theorem Outcome.mono {Q R : α → σ → Prop} (h : Outcome m s E Q) (hQR : ∀ a s', Q a s' → R a s') :
    Outcome m s E R :=
  ⟨h.1, fun a s' hm ↦ hQR a s' (h.2 a s' hm)⟩

theorem Outcome.pure {Q : α → σ → Prop} {a : α} (h : Q a s) :
    Outcome (Pure.pure a : StateT σ (Except ε) α) s E Q := by
  constructor
  · intro e hm
    cases hm
  · intro a' s' hm
    obtain ⟨rfl, rfl⟩ := Prod.mk.inj (Except.ok.inj hm)
    exact h

theorem Outcome.bind {Q : β → σ → Prop} (h : Outcome m s E fun a s' ↦ Outcome (f a) s' E Q) :
    Outcome (m >>= f) s E Q := by
  have heq : (m >>= f) s = (m s).bind fun x ↦ f x.1 x.2 := rfl
  cases hm : m s with
  | error e =>
    rw [hm] at heq
    refine ⟨fun e' he' ↦ ?_, fun b s' hb ↦ ?_⟩
    · obtain rfl := Except.error.inj (heq.symm.trans he')
      exact h.1 e hm
    · cases heq.symm.trans hb
  | ok x =>
    rw [hm] at heq
    have hx := h.2 x.1 x.2 hm
    exact ⟨fun e he ↦ hx.1 e (heq.symm.trans he), fun b s' hb ↦ hx.2 b s' (heq.symm.trans hb)⟩

theorem Outcome.andThen {P : α → σ → Prop} {Q : β → σ → Prop} (h : Outcome m s E P)
    (h' : ∀ a s', P a s' → Outcome (f a) s' E Q) : Outcome (m >>= f) s E Q :=
  .bind (h.mono h')

theorem Outcome.update {Q : Unit → σ → Prop} {g : σ → σ} (h : Q () (g s)) :
    Outcome (modify g : StateT σ (Except ε) Unit) s E Q := by
  constructor
  · intro e hm
    cases hm
  · intro a s' hm
    obtain ⟨-, rfl⟩ := Prod.mk.inj (Except.ok.inj hm)
    exact h

theorem Outcome.get {Q : β → σ → Prop} {f : σ → StateT σ (Except ε) β}
    (h : Outcome (f s) s E Q) : Outcome (MonadState.get >>= f) s E Q :=
  h

theorem Outcome.throw {Q : α → σ → Prop} {e : ε} (h : E e) :
    Outcome (MonadExcept.throw e : StateT σ (Except ε) α) s E Q := by
  constructor
  · intro e' he'
    obtain rfl := Except.error.inj he'
    exact h
  · intro a s' ha
    cases ha

theorem Outcome.ite {c : Prop} [Decidable c] {m₁ m₂ : StateT σ (Except ε) α} {Q : α → σ → Prop}
    (h₁ : c → Outcome m₁ s E Q) (h₂ : ¬c → Outcome m₂ s E Q) :
    Outcome (if c then m₁ else m₂) s E Q := by
  by_cases hc : c
  · rw [if_pos hc]
    exact h₁ hc
  · rw [if_neg hc]
    exact h₂ hc

theorem Outcome.of_toOption {Q : α → σ → Prop} {s' : σ} (h : Outcome m s E Q)
    (hm : (m s).toOption.map Prod.snd = some s') : ∃ a, Q a s' := by
  obtain ⟨⟨a, _⟩, hx, rfl⟩ := Option.map_eq_some_iff.mp hm
  cases hres : m s with
  | error e =>
    rw [hres] at hx
    cases hx
  | ok x =>
    rw [hres] at hx
    obtain rfl := Option.some.inj hx
    exact ⟨a, h.2 a _ hres⟩

end Layer3Switch.Lib
