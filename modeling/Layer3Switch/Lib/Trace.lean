import Layer3Switch.Lib.Run

namespace Layer3Switch.Lib

variable {S E L : Type}

inductive Trace (R : L → S → S → Prop) : S → List L → S → Prop
  | nil (s : S) : Trace R s [] s
  | cons {s s' s'' : S} {l : L} {ls : List L} :
      R l s s' → Trace R s' ls s'' → Trace R s (l :: ls) s''

variable {R : L → S → S → Prop} {s s' s'' : S} {l : L} {ls ls' : List L}

theorem Trace.trans (h : Trace R s ls s') (h' : Trace R s' ls' s'') :
    Trace R s (ls ++ ls') s'' := by
  induction h with
  | nil => exact h'
  | cons hl _ ih => exact .cons hl (ih h')

theorem Trace.one (h : R l s s') : Trace R s [l] s' := .cons h (.nil s')

theorem Trace.snoc (h : Trace R s ls s') (h' : R l s' s'') : Trace R s (ls ++ [l]) s'' :=
  h.trans (.one h')

theorem Trace.mono {R' : L → S → S → Prop} (hR : ∀ l s s', R l s s' → R' l s s')
    (h : Trace R s ls s') : Trace R' s ls s' := by
  induction h with
  | nil s => exact .nil s
  | cons hl _ ih => exact .cons (hR _ _ _ hl) ih

theorem Trace.labels (h : Trace R s ls s') : Trace (fun l s s' ↦ R l s s' ∧ l ∈ ls) s ls s' := by
  induction h with
  | nil s => exact .nil s
  | cons hl _ ih =>
    refine .cons ⟨hl, List.mem_cons_self⟩ (ih.mono fun l s s' h ↦ ?_)
    exact ⟨h.1, List.mem_cons_of_mem _ h.2⟩

theorem Trace.invariant {I : S → Prop} (hstep : ∀ l s s', R l s s' → I s → I s')
    (h : Trace R s ls s') (hi : I s) : I s' := by
  induction h with
  | nil => exact hi
  | cons hl _ ih => exact ih (hstep _ _ _ hl hi)

theorem Trace.history {J : List L → S → Prop}
    (hstep : ∀ past l s s', R l s s' → J past s → J (past ++ [l]) s')
    (h : Trace R s ls s') {past : List L} (hj : J past s) : J (past ++ ls) s' := by
  induction h generalizing past with
  | nil =>
    rw [List.append_nil]
    exact hj
  | @cons s s₁ s₂ l ls hl _ ih =>
    have htail := ih (hstep past l s s₁ hl hj)
    rw [List.append_assoc, List.singleton_append] at htail
    exact htail

/-- A run of a step function with the transitions that each step is made of. `J`
holds of the state and of what has happened, before the first step and after each. -/
inductive Chronicle (step : S → E → Option S) (R : L → S → S → Prop) (J : List L → S → Prop)
    (s : S) : List E → List L → S → Prop
  | nil : J [] s → Chronicle step R J s [] [] s
  | snoc {es : List E} {e : E} {ls ls' : List L} {s' s'' : S} : Chronicle step R J s es ls s' →
      step s' e = some s'' → Trace R s' ls' s'' → J (ls ++ ls') s'' →
      Chronicle step R J s (es ++ [e]) (ls ++ ls') s''

theorem Chronicle.trace {step : S → E → Option S} {J : List L → S → Prop} {es : List E}
    (h : Chronicle step R J s es ls s') : Trace R s ls s' := by
  induction h with
  | nil => exact .nil s
  | snoc _ _ ht _ ih => exact ih.trans ht

theorem Chronicle.holds {step : S → E → Option S} {J : List L → S → Prop} {es : List E}
    (h : Chronicle step R J s es ls s') : J ls s' := by
  cases h with
  | nil hj => exact hj
  | snoc _ _ _ hj => exact hj

theorem Chronicle.mono {step : S → E → Option S} {J J' : List L → S → Prop}
    (hJ : ∀ past s, J past s → J' past s) {es : List E} (h : Chronicle step R J s es ls s') :
    Chronicle step R J' s es ls s' := by
  induction h with
  | nil hj => exact .nil (hJ _ _ hj)
  | snoc _ hs ht hj ih => exact .snoc ih hs ht (hJ _ _ hj)

theorem Run.chronicle {step : S → E → Option S} {C : S → E → Prop} {J : List L → S → Prop}
    (hstep : ∀ past s e s', J past s → C s e → step s e = some s' →
      ∃ ls, Trace R s ls s' ∧ J (past ++ ls) s')
    {es : List E} (h : Run step C s es s') (hj : J [] s) :
    ∃ ls, Chronicle step R J s es ls s' := by
  have hfrom : ∀ {es es' : List E} {past : List L} {s₁ s₂ : S}, Chronicle step R J s es past s₁ →
      Run step C s₁ es' s₂ → ∃ ls, Chronicle step R J s (es ++ es') ls s₂ := by
    intro es es' past s₁ s₂ hpast hrun
    induction hrun generalizing es past with
    | nil =>
      rw [List.append_nil]
      exact ⟨past, hpast⟩
    | @cons s₁ s₂ s₃ e es' hc hs _ ih =>
      obtain ⟨ls, ht, hj'⟩ := hstep past s₁ e s₂ hpast.holds hc hs
      obtain ⟨ls', hall⟩ := ih (hpast.snoc hs ht hj')
      rw [List.append_assoc, List.singleton_append] at hall
      exact ⟨ls', hall⟩
  exact hfrom (.nil hj) h

theorem Run.history {step : S → E → Option S} {C : S → E → Prop} {J : List E → S → Prop}
    (hstep : ∀ past s e s', J past s → C s e → step s e = some s' → J (past ++ [e]) s')
    {es : List E} (h : Run step C s es s') (hj : J [] s) : J es s' := by
  have hfrom : ∀ {es : List E} {s s' : S}, Run step C s es s' → ∀ past, J past s →
      J (past ++ es) s' := by
    intro es s s' h
    induction h with
    | nil s =>
      intro past hj
      rw [List.append_nil]
      exact hj
    | @cons s s₁ s₂ e es hc hs _ ih =>
      intro past hj
      have htail := ih (past ++ [e]) (hstep past s e s₁ hj hc hs)
      rw [List.append_assoc, List.singleton_append] at htail
      exact htail
  exact hfrom h [] hj

section Past

variable {P Q : L → Prop} {past : List L}

def Since (P Q : L → Prop) (past : List L) : Prop :=
  ∃ before x after, past = before ++ x :: after ∧ P x ∧ ∀ y ∈ after, ¬Q y

theorem since_snoc : Since P Q (past ++ [l]) ↔ P l ∨ Since P Q past ∧ ¬Q l := by
  constructor
  · rintro ⟨before, x, after, heq, hx, hafter⟩
    obtain rfl | ⟨after, y, rfl⟩ := List.eq_nil_or_concat' after
    · obtain ⟨-, hl⟩ := List.append_inj' heq rfl
      obtain rfl := (List.cons.inj hl).1
      exact .inl hx
    · rw [← List.cons_append, ← List.append_assoc] at heq
      obtain ⟨hpast, hl⟩ := List.append_inj' heq rfl
      obtain rfl := (List.cons.inj hl).1
      refine .inr ⟨⟨before, x, after, hpast, hx, fun y hy ↦ ?_⟩, ?_⟩
      · exact hafter y (List.mem_append_left _ hy)
      · exact hafter l (List.mem_append_right _ (List.mem_singleton_self l))
  · rintro (hl | ⟨⟨before, x, after, rfl, hx, hafter⟩, hl⟩)
    · exact ⟨past, l, [], rfl, hl, fun y hy ↦ absurd hy List.not_mem_nil⟩
    · refine ⟨before, x, after ++ [l], by simp, hx, fun y hy ↦ ?_⟩
      obtain hy | hy := List.mem_append.mp hy
      · exact hafter y hy
      · rwa [List.mem_singleton.mp hy]

theorem Since.mem (h : Since P Q past) : ∃ x ∈ past, P x := by
  obtain ⟨before, x, after, rfl, hx, -⟩ := h
  exact ⟨x, List.mem_append_right _ List.mem_cons_self, hx⟩

theorem Since.of_append (h : Since P Q (past ++ ls)) (hls : ∀ l ∈ ls, ¬P l) : Since P Q past := by
  induction ls generalizing past with
  | nil => rwa [List.append_nil] at h
  | cons l ls ih =>
    rw [← List.singleton_append, ← List.append_assoc] at h
    have hfirst := ih h fun l' hl' ↦ hls l' (List.mem_cons_of_mem l hl')
    exact ((since_snoc.mp hfirst).resolve_left (hls l List.mem_cons_self)).1

def Separated (P Q : L → Prop) (past : List L) : Prop :=
  ∀ before x between y after, past = before ++ x :: (between ++ y :: after) → P x → P y →
    ∃ z ∈ between, Q z

theorem separated_nil : Separated P Q [] := by
  intro before x between y after heq
  exact absurd heq.symm (by simp)

theorem Separated.snoc (h : Separated P Q past) (hl : P l → ¬Since P Q past) :
    Separated P Q (past ++ [l]) := by
  intro before x between y after heq hx hy
  obtain rfl | ⟨after, z, rfl⟩ := List.eq_nil_or_concat' after
  · -- the second one has just happened
    rw [← List.cons_append, ← List.append_assoc] at heq
    obtain ⟨hpast, hlast⟩ := List.append_inj' heq rfl
    obtain rfl := (List.cons.inj hlast).1
    by_contra hnone
    push Not at hnone
    exact hl hy ⟨before, x, between, hpast, hx, hnone⟩
  · have hsplit : before ++ x :: (between ++ y :: (after ++ [z])) =
        before ++ x :: (between ++ y :: after) ++ [z] := by simp
    rw [hsplit] at heq
    exact h before x between y after (List.append_inj' heq rfl).1 hx hy

end Past

end Layer3Switch.Lib
