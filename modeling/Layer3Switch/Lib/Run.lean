import Mathlib.Data.List.Basic
import Mathlib.Tactic

namespace Layer3Switch.Lib

variable {S E : Type}

/-- Runs of a partial step function in which every step meets `C`, a condition
on the state before the step and on the event. -/
inductive Run (step : S → E → Option S) (C : S → E → Prop) : S → List E → S → Prop
  | nil (s : S) : Run step C s [] s
  | cons {s s' s'' : S} {e : E} {es : List E} :
      C s e → step s e = some s' → Run step C s' es s'' → Run step C s (e :: es) s''

variable {step : S → E → Option S} {C D : S → E → Prop}

theorem Run.one {s s' : S} {e : E} (hc : C s e) (h : step s e = some s') :
    Run step C s [e] s' := .cons hc h (.nil s')

theorem Run.trans {s s' s'' : S} {es es' : List E} (h : Run step C s es s')
    (h' : Run step C s' es' s'') : Run step C s (es ++ es') s'' := by
  induction h with
  | nil => exact h'
  | cons hc hs _ ih => exact .cons hc hs (ih h')

theorem Run.mono (hCD : ∀ s e, C s e → D s e) {s s' : S} {es : List E}
    (h : Run step C s es s') : Run step D s es s' := by
  induction h with
  | nil => exact .nil _
  | cons hc hs _ ih => exact .cons (hCD _ _ hc) hs ih

theorem Run.invariant {I : S → Prop}
    (hstep : ∀ s e s', I s → C s e → step s e = some s' → I s')
    {s s' : S} {es : List E} (h : Run step C s es s') (hi : I s) : I s' := by
  induction h with
  | nil => exact hi
  | cons hc hs _ ih => exact ih (hstep _ _ _ hi hc hs)

theorem Run.split {s s'' : S} {es es' : List E} (h : Run step C s (es ++ es') s'') :
    ∃ s', Run step C s es s' ∧ Run step C s' es' s'' := by
  induction es generalizing s with
  | nil => exact ⟨s, .nil s, h⟩
  | cons e es ih =>
    cases h with
    | cons hc hs h =>
      obtain ⟨s', h₁, h₂⟩ := ih h
      exact ⟨s', .cons hc hs h₁, h₂⟩

theorem Run.iff_of_step {I P : S → Prop}
    (hI : ∀ s e s', I s → C s e → step s e = some s' → I s')
    (hP : ∀ s e s', I s → C s e → step s e = some s' → (P s' ↔ P s ∧ D s e))
    {s s' : S} {es : List E} (h : Run step C s es s') (hi : I s) :
    P s' ↔ P s ∧ Run step D s es s' := by
  induction h with
  | nil s => exact ⟨fun h ↦ ⟨h, .nil s⟩, fun h ↦ h.1⟩
  | cons hc hs _ ih =>
    rw [ih (hI _ _ _ hi hc hs), hP _ _ _ hi hc hs, and_assoc]
    refine and_congr_right fun _ ↦ ⟨fun ⟨hd, hrest⟩ ↦ .cons hd hs hrest, fun hrun ↦ ?_⟩
    cases hrun with
    | cons hd hs' hrest =>
      rw [hs] at hs'
      obtain rfl := Option.some.inj hs'
      exact ⟨hd, hrest⟩

theorem Run.always_iff {I P : S → Prop}
    (hI : ∀ s e s', I s → C s e → step s e = some s' → I s')
    (hP : ∀ s e s', I s → P s → C s e → step s e = some s' → (P s' ↔ D s e))
    {s s' : S} {es : List E} (h : Run step C s es s') (hi : I s) (hp : P s) :
    (∀ es₁ es₂ s₁, es = es₁ ++ es₂ → Run step C s es₁ s₁ → P s₁) ↔ Run step D s es s' := by
  induction h with
  | nil s =>
    refine ⟨fun _ ↦ .nil s, fun _ es₁ es₂ s₁ hsplit hrun ↦ ?_⟩
    obtain ⟨rfl, -⟩ := List.append_eq_nil_iff.mp hsplit.symm
    cases hrun
    exact hp
  | @cons s s₁ s₂ e es hc hs hrest ih =>
    have hi₁ := hI s e s₁ hi hc hs
    have hiff := hP s e s₁ hi hp hc hs
    constructor
    · intro hall
      have hp₁ := hall [e] es s₁ rfl (.one hc hs)
      refine .cons (hiff.mp hp₁) hs ((ih hi₁ hp₁).mp fun es₁ es₂ s₃ hsplit hrun ↦ ?_)
      exact hall (e :: es₁) es₂ s₃ (congrArg (e :: ·) hsplit) (.cons hc hs hrun)
    · intro hrun
      obtain ⟨hd, hrun₁⟩ : D s e ∧ Run step D s₁ es s₂ := by
        cases hrun with
        | cons hd hs' hrun =>
          rw [hs] at hs'
          exact ⟨hd, Option.some.inj hs' ▸ hrun⟩
      have hp₁ := hiff.mpr hd
      intro es₁ es₂ s₃ hsplit hrun₃
      cases hrun₃ with
      | nil => exact hp
      | cons hc' hs' hrun₃ =>
        obtain ⟨rfl, htail⟩ := List.cons.inj hsplit
        rw [hs] at hs'
        obtain rfl := Option.some.inj hs'
        exact (ih hi₁ hp₁).mpr hrun₁ _ es₂ s₃ htail hrun₃

def exec (step : S → E → Option S) : S → List E → Option S
  | s, [] => some s
  | s, e :: es => (step s e).bind fun s' ↦ exec step s' es

theorem run_of_exec {s s' : S} {es : List E} (h : exec step s es = some s') :
    Run step (fun _ _ ↦ True) s es s' := by
  induction es generalizing s with
  | nil =>
    obtain rfl := Option.some.inj h
    exact .nil _
  | cons e es ih =>
    obtain ⟨s₁, h₁, h₂⟩ := Option.bind_eq_some_iff.mp h
    exact .cons trivial h₁ (ih h₂)

/-- Conditions on what a lookup finds can be evaluated. -/
instance decidableForallSome {α : Type} {x : Option α} {P : α → Prop} [DecidablePred P] :
    Decidable (∀ a, x = some a → P a) :=
  match x with
  | none => .isTrue fun _ h ↦ nomatch h
  | some a => decidable_of_iff (P a) ⟨fun h _ ha ↦ Option.some.inj ha ▸ h, fun h ↦ h a rfl⟩

instance decidableExistsSome {α : Type} {x : Option α} {P : α → Prop} [DecidablePred P] :
    Decidable (∃ a, x = some a ∧ P a) :=
  match x with
  | none => .isFalse fun ⟨_, h, _⟩ ↦ nomatch h
  | some a => decidable_of_iff (P a) ⟨fun h ↦ ⟨a, rfl, h⟩, fun ⟨_, ha, h⟩ ↦ Option.some.inj ha ▸ h⟩

theorem Run.guarded [∀ s e, Decidable (C s e)] {s s' : S} {es : List E}
    (h : Run (fun s e ↦ if C s e then step s e else none) D s es s') : Run step C s es s' := by
  induction h with
  | nil => exact .nil _
  | cons _ hs _ ih =>
    obtain ⟨hc, hs⟩ := Option.ite_none_right_eq_some.mp hs
    exact .cons hc hs ih

end Layer3Switch.Lib
