import Layer3Switch.Timers.Count
import Layer3Switch.Timers.Course

namespace Layer3Switch.Timers

open Lib Lib.Rbtree Function

variable {s s' : TimerMgr} {i : TimerId} {p t : TimerT} {n : AppTimer} {e : Event} {mem : Bool}

def PendingAgain (ticks : U32) (i : TimerId) (s s' : TimerMgr) : Prop :=
  ∃ p w n, s'.timers i = some p ∧ p.isRunning = true ∧ p.apptimer = some n.id ∧
    p.wheel = some w ∧ n ∈ s'.root w ∧ n.timer = i ∧ p.rmt = ticks ∧ p.exp = ticks + s.clk.tick

instance (e : Event) (i : TimerId) : Decidable (Cancels e i) := inferInstanceAs (Decidable (_ ∨ _))

theorem finishTimer_repeat (hserving : s.serving = some n) (hp : s.timers n.timer = some p)
    (hflags : p.flags = timerRepeat) (h : finishTimer mem s = some s') :
    mem = false ∧ s'.timers n.timer = some { p with apptimer := none } := by
  have honce : ¬p.flags &&& timerOnce ≠ 0 := by
    rw [hflags]
    decide
  have hrepeat : p.flags &&& timerRepeat ≠ 0 := by
    rw [hflags]
    decide
  simp only [finishTimer, hserving, hp, if_neg honce, if_pos hrepeat, timerRestart] at h
  cases mem with
  | true => cases h
  | false =>
    obtain rfl := Option.some.inj h
    exact ⟨rfl, update_self _ _ _⟩

theorem flags_run {C : TimerMgr → Event → Prop} {es : List Event} (hs : Wf s)
    (ht : s.timers i = some t) (honce : t.flags &&& timerOnce = 0)
    (h : Run step C s es s') : ∃ t', s'.timers i = some t' ∧ t'.flags = t.flags := by
  refine (h.invariant (I := fun s ↦ Wf s ∧ ∃ t', s.timers i = some t' ∧ t'.flags = t.flags) ?_
    ⟨hs, t, ht, rfl⟩).2
  rintro s₁ e s₂ ⟨hs₁, t₁, ht₁, hflags₁⟩ _ h₁
  obtain ⟨t₂, ht₂, hflags₂⟩ := flags_step hs₁ ht₁ (hflags₁ ▸ honce) h₁
  exact ⟨hs₁.step h₁, t₂, ht₂, hflags₂.trans hflags₁⟩

theorem startTimer_flags {ticks flags : U32} {data : ℕ} {handler : Option ℕ} {memApp : Bool}
    (hflags : flags ≠ 0) (h : startTimer ticks data handler flags mem memApp s =
      some (s', some i)) :
    ∃ t, s'.timers i = some t ∧ t.flags = flags := by
  obtain ⟨-, hnew, k, -, harm⟩ | ⟨-, hnone, -⟩ := startTimer_armed_or_failed h
  · obtain rfl := Option.some.inj hnew
    obtain ⟨-, rfl⟩ | ⟨w, k, -, rfl⟩ := armTimer_cases harm
    · exact ⟨_, update_self _ _ _, if_pos hflags⟩
    · exact ⟨_, update_self _ _ _, if_pos hflags⟩
  · cases hnone

/-- However a repeating timer came to expire, the pass that serves the expiry does not leave it
pending again. -/
theorem repeating_timer_pending_iff {es es' : List Event} {s₀ s₁ : TimerMgr} {ticks : U32}
    {data : ℕ} {handler : Option ℕ} {mem' memApp : Bool}
    (hbefore : Run step (fun _ _ ↦ True) initTimerMgr es s₀)
    (hstart : startTimer ticks data handler timerRepeat mem' memApp s₀ = some (s₁, some i))
    (hrun : Run step (fun _ e ↦ ¬Cancels e i) s₁ es' s) :
    (∀ n, s.serving = some n → n.timer = i →
      ∃ s', finishTimer mem s = some s' ∧ PendingAgain ticks i s s') ↔
    ∀ n, s.serving = some n → n.timer ≠ i := by
  have hs₀ := wf_init.run hbefore
  have hs₁ : Wf s₁ := hs₀.step (e := .startTimer ticks data handler timerRepeat mem' memApp) (by
    rw [step, hstart]
    rfl)
  obtain ⟨t, ht, hflags⟩ := startTimer_flags (by decide) hstart
  obtain ⟨t', ht', hflags'⟩ := flags_run hs₁ ht (by rw [hflags]; decide) hrun
  constructor
  · rintro hpass n hserving rfl
    obtain ⟨s', hfinish, p, w, m, hp, -, happ, -⟩ := hpass n hserving rfl
    obtain ⟨-, hnone⟩ := finishTimer_repeat hserving ht' (hflags'.trans hflags) hfinish
    rw [hnone] at hp
    obtain rfl := Option.some.inj hp
    cases happ
  · intro hother n hserving htimer
    exact absurd htimer (hother n hserving)

/-- Another timer is served first. -/
theorem repeating_timer_pending_iff_other : ∃ s₁ s,
    startTimer 100 7 (some 3) timerRepeat true true initTimerMgr = some (s₁, some 0) ∧
    Run step (fun _ e ↦ ¬Cancels e 0) s₁ [.startTimer 1 8 (some 4) 0 true true, .tick, .serve] s ∧
    (∃ n, s.serving = some n ∧ n.timer = 1) ∧
    ∀ n, s.serving = some n → n.timer = 0 →
      ∃ s', finishTimer true s = some s' ∧ PendingAgain 100 0 s s' := by
  have hcheck : ((startTimer 100 7 (some 3) timerRepeat true true initTimerMgr).any fun x ↦
      decide (x.2 = some 0) &&
      (exec (fun s e ↦ if ¬Cancels e 0 then step s e else none) x.1
        [.startTimer 1 8 (some 4) 0 true true, .tick, .serve]).any fun s ↦
          s.serving.any fun n ↦ n.timer = 1) = true := by
    decide +kernel
  simp only [Option.any_eq_true, Bool.and_eq_true, decide_eq_true_eq] at hcheck
  obtain ⟨⟨s₁, o⟩, hstart, rfl, s, hexec, n, hserving, htimer⟩ := hcheck
  have hrun := (run_of_exec hexec).guarded
  refine ⟨s₁, s, hstart, hrun, ⟨n, hserving, htimer⟩, ?_⟩
  refine (repeating_timer_pending_iff (.nil _) hstart hrun).mpr fun m hm hzero ↦ ?_
  obtain rfl := Option.some.inj (hserving.symm.trans hm)
  exact absurd (htimer.symm.trans hzero) one_ne_zero

/-- A timer of one tick is served, and then its new node's null pointer is read; where there is
no memory for a node, the timer is not pending. -/
theorem repeating_timer_reads_null : ∃ s s',
    Run step (fun _ _ ↦ True) initTimerMgr
      [.startTimer 1 7 (some 3) timerRepeat true true, .tick, .serve] s ∧
    (∃ n, s.serving = some n ∧ n.timer = 0) ∧ step s (.finish true) = none ∧
    step s (.finish false) = some s' ∧ timerPending s' (some 0) = some false := by
  have hcheck : ((exec step initTimerMgr
      [.startTimer 1 7 (some 3) timerRepeat true true, .tick, .serve]).any fun s ↦
        (s.serving.any fun n ↦ n.timer = 0) && (step s (.finish true)).isNone &&
        (step s (.finish false)).any fun s' ↦ timerPending s' (some 0) = some false) = true := by
    decide +kernel
  simp only [Option.any_eq_true, Bool.and_eq_true, decide_eq_true_eq, Option.isNone_iff_eq_none]
    at hcheck
  obtain ⟨s, hexec, ⟨hserving, hnull⟩, s', hfail, hidle⟩ := hcheck
  exact ⟨s, s', run_of_exec hexec, hserving, hnull, hfail, hidle⟩

end Layer3Switch.Timers
