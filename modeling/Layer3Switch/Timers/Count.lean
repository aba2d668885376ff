import Layer3Switch.Timers.Deadline

namespace Layer3Switch.Timers

open Lib Lib.Rbtree Function

variable {s s' : TimerMgr} {i : TimerId} {p : TimerT} {w : Wheel} {n : AppTimer} {e : Event}

section Shortcut

theorem tmProcess_of_not_pending (hs : Wf s) (h : timersPendingForService s = false) :
    tmProcessTickAndUpdateTimers s = some (s, 0) := by
  have hpass : ∀ w, s.clk.serves w = true → processTimers w s = some (s, 0) := fun w hw ↦
    processTimers_of_nil (serves_nil_of_not_pending hs h hw)
  unfold tmProcessTickAndUpdateTimers
  rw [hpass .tick rfl]
  by_cases hsec : s.clk.isNxtSecHappend = true
  · have hpass₁ := hpass .sec hsec
    by_cases hmin : s.clk.isNxtMinHappend = true
    · have hpass₂ := hpass .min (by rw [Clock.serves, hsec, hmin]; rfl)
      by_cases hhr : s.clk.isNxtHrHappend = true
      · have hpass₃ := hpass .hrs (by rw [Clock.serves, hsec, hmin, hhr]; rfl)
        simp [hsec, hpass₁, hmin, hpass₂, hhr, hpass₃]
      · simp [hsec, hpass₁, hmin, hpass₂, hhr]
    · simp [hsec, hpass₁, hmin]
  · simp [hsec]

/-- In every run the count covers the nodes in the trees, and whatever the clock, a service that
the shortcut leaves out would have moved nothing. -/
theorem service_shortcut_sound {es : List Event}
    (hrun : Run step (fun _ _ ↦ True) initTimerMgr es s) :
    Multiset.card s.root.nodes ≤ s.count ∧
      ∀ c, timersPendingForService { s with clk := c } = false →
        tmProcessTickAndUpdateTimers { s with clk := c } = some ({ s with clk := c }, 0) := by
  have hs := wf_init.run hrun
  have hcount := hs.count_le
  exact ⟨by omega, fun c ↦ tmProcess_of_not_pending (hs.clk c)⟩

theorem service_shortcut_sound_thirty : ∃ s, Run step (fun _ _ ↦ True) initTimerMgr
      [.setupTimer none 0 true, .modTimer (some 0) 30 true, .tick] s ∧
    timersPendingForService s = false ∧ s.count = 1 ∧
    tmProcessTickAndUpdateTimers s = some (s, 0) := by
  have hcheck : ((exec step initTimerMgr
      [.setupTimer none 0 true, .modTimer (some 0) 30 true, .tick]).any fun s ↦
        timersPendingForService s = false ∧ s.count = 1) = true := by
    decide +kernel
  simp only [Option.any_eq_true, decide_eq_true_eq] at hcheck
  obtain ⟨s, hexec, hnot, hcount⟩ := hcheck
  have hrun := run_of_exec hexec
  exact ⟨s, hrun, hnot, hcount, (service_shortcut_sound hrun).2 s.clk hnot⟩

end Shortcut

section Exact

def CountExact (s : TimerMgr) : Prop := s.count = Multiset.card s.root.nodes

def ArmsInRange (s : TimerMgr) : Event → Prop
  | .startTimer ticks _ _ _ mem memApp =>
    mem = true → memApp = true → (allocTimerId s).1 ≠ 0 → ticks.toNat % 368640000 ≠ 0
  | .modTimer timer secs mem =>
    timer.isSome = true → mem = true → (secs * tmGetTicksPerSecond).toNat % 368640000 ≠ 0
  | _ => True

instance (s : TimerMgr) : ∀ e, Decidable (ArmsInRange s e)
  | .startTimer .. => inferInstanceAs (Decidable (_ → _ → _ → _))
  | .modTimer .. => inferInstanceAs (Decidable (_ → _ → _))
  | .setupTimer .. | .stopTimer _ | .delTimer _ | .tick | .serve | .finish _ => .isTrue trivial

theorem CountExact.armTimer (hx : CountExact s) (h : armTimer i p s = some s') :
    CountExact s' ↔ p.rmt.toNat % 368640000 ≠ 0 := by
  rw [ne_eq, ← findTmrSlot_packTime_eq_none]
  unfold CountExact at hx ⊢
  obtain ⟨hnone, rfl⟩ | ⟨w, t, hsome, rfl⟩ := armTimer_cases h
  · refine iff_of_false ?_ (not_not.mpr hnone)
    simp only
    omega
  · refine iff_of_true ?_ (by rw [hsome]; nofun)
    simp only [Wheels.nodes_insert, Multiset.card_cons, hx]

theorem CountExact.unlinked (hx : CountExact s) (hs : Wf s) : s.unlinked = [] := by
  have hcount := hs.count_le
  unfold CountExact at hx
  exact List.eq_nil_of_length_eq_zero (by omega)

theorem CountExact.stopTimer (hx : CountExact s) (hs : Wf s) (h : stopTimer i s = some s') :
    CountExact s' := by
  have hunlinked := hx.unlinked hs
  obtain ⟨p, -, ⟨rfl, -⟩ | ⟨a, w, r, -, -, -, hr | ⟨-, hmem, -⟩, rfl⟩⟩ := stopTimer_cases h
  · exact hx
  · obtain ⟨n, -, -, hperm⟩ := erase_eq_some hr
    unfold CountExact at hx ⊢
    simp only [hx, Wheels.nodes_erase hperm, Multiset.card_cons, Nat.add_sub_cancel]
  · rw [hunlinked] at hmem
    cases hmem

theorem CountExact.updateTimes (hx : CountExact s) (hs : Wf s) (h : updateTimes s = some s') :
    CountExact s' := by
  refine updateTimes_invariant ?_ ?_ hs hx h
  · exact fun _ _ hx ↦ hx
  · intro s₁ w n s₂ hs₁ hx₁ hn _ h₁
    unfold CountExact at hx₁ ⊢
    obtain ⟨p, v, r, -, -, hr, ⟨-, rfl⟩ | ⟨u, t, -, rfl⟩⟩ :=
      processTimer_cases hs₁.wheels_nodup hn h₁
    · simp only [hx₁, Wheels.nodes_erase hr, Multiset.card_cons, Nat.add_sub_cancel]
    · simp only [hx₁, Wheels.nodes_erase hr, Wheels.nodes_insert, Multiset.card_cons]

theorem CountExact.step (hx : CountExact s) (hs : Wf s) (h : step s e = some s') :
    CountExact s' ↔ ArmsInRange s e := by
  cases e with
  | startTimer ticks data handler flags mem memApp =>
    obtain ⟨⟨s₁, o⟩, hcall, rfl⟩ := Option.map_eq_some_iff.mp h
    obtain ⟨⟨hmem, hmemApp, hidx⟩, -, k, -, harm⟩ | ⟨hfails, -, k, -, rfl⟩ :=
      startTimer_armed_or_failed hcall
    · have hnew : CountExact { s with indx := k, nextTimer := s.nextTimer + 1 } := hx
      rw [hnew.armTimer harm]
      exact ⟨fun hrange _ _ _ ↦ hrange, fun hrange ↦ hrange hmem hmemApp hidx⟩
    · exact iff_of_true hx fun hmem hmemApp hidx ↦ absurd ⟨hmem, hmemApp, hidx⟩ hfails
  | modTimer timer secs mem =>
    cases step_cases h with
    | modFail hfails =>
      refine iff_of_true hx fun htimer hmem ↦ ?_
      obtain rfl | rfl := hfails
      · cases htimer
      · cases hmem
    | mod hp harm =>
      rw [hx.armTimer harm]
      exact ⟨fun hrange _ _ ↦ hrange, fun hrange ↦ hrange rfl rfl⟩
    | stop he => obtain he | he := he <;> cases he
  | setupTimer handler data mem =>
    refine iff_of_true ?_ trivial
    cases step_cases h with
    | setupFail | setup => exact hx
    | stop he => obtain he | he := he <;> cases he
  | stopTimer j | delTimer j =>
    refine iff_of_true ?_ trivial
    cases step_cases h with
    | stop _ h => exact hx.stopTimer hs h
  | tick => exact iff_of_true (hx.updateTimes hs h) trivial
  | serve =>
    refine iff_of_true ?_ trivial
    obtain ⟨-, ⟨-, rfl⟩ | ⟨n, tl, p, -, -, rfl⟩⟩ := serveTimer_cases h
    · exact hx
    · exact hx
  | finish mem =>
    refine iff_of_true ?_ trivial
    obtain ⟨n, tl, p, o, -, -, -, -, rfl⟩ := finishTimer_cases hs h
    exact hx

theorem countExact_init : CountExact initTimerMgr := by
  simp [CountExact, initTimerMgr, Wheels.nodes]

def TimerMgr.pendingTimers (s : TimerMgr) : Finset TimerId :=
  (s.root.nodes.map AppTimer.timer).toFinset

theorem card_pendingTimers (hs : Wf s) (hi : ∀ i, Linked False s i) :
    s.pendingTimers.card = Multiset.card s.root.nodes := by
  rw [TimerMgr.pendingTimers, Multiset.toFinset_card_of_nodup, Multiset.card_map]
  refine Multiset.Nodup.map_on ?_ (Multiset.Nodup.of_map _ hs.wheels_nodup)
  intro n hn m hm htimer
  obtain ⟨w, hw⟩ := Wheels.mem_nodes.mp hn
  obtain ⟨v, hv⟩ := Wheels.mem_nodes.mp hm
  obtain ⟨hunheld, -⟩ | ⟨u, k, hholds, -⟩ := hi m.timer
  · exact absurd rfl (hunheld v m hv)
  · exact (hholds.only w n hw htimer).2.trans (hholds.only v m hv rfl).2.symm

def Event.takesId : Event → Bool
  | .setupTimer .. | .startTimer .. => true
  | _ => false

theorem indx_step (hs : Wf s) (h : step s e = some s') :
    s'.indx.toNat ≤ s.indx.toNat + if e.takesId then 1 else 0 := by
  cases step_cases h with
  | setupFail handler data mem k hle | setup handler data mem k hle => exact hle
  | startFail ticks data handler flags mem memApp k hle => exact hle
  | start harm hle =>
    obtain ⟨-, rfl⟩ | ⟨w, t, -, rfl⟩ := armTimer_cases harm
    · exact hle
    · exact hle
  | modFail => exact le_rfl
  | mod hp harm =>
    obtain ⟨-, rfl⟩ | ⟨w, t, -, rfl⟩ := armTimer_cases harm
    · exact le_rfl
    · exact le_rfl
  | stop _ h =>
    obtain ⟨p, -, ⟨rfl, -⟩ | ⟨a, w, r, -, -, -, -, rfl⟩⟩ := stopTimer_cases h
    · exact Nat.le_add_right _ _
    · exact Nat.le_add_right _ _
  | tick h =>
    refine updateTimes_invariant (I := fun s₁ ↦ s₁.indx.toNat ≤ s.indx.toNat) ?_ ?_ hs le_rfl h
    · exact fun _ _ h₁ ↦ h₁
    · intro s₁ w n s₂ hs₁ h₁ hn _ h₂
      obtain ⟨p, v, r, -, -, -, ⟨-, rfl⟩ | ⟨u, t, -, rfl⟩⟩ :=
        processTimer_cases hs₁.wheels_nodup hn h₂
      · exact h₁
      · exact h₁
  | serve h =>
    obtain ⟨-, ⟨-, rfl⟩ | ⟨n, tl, p, -, -, rfl⟩⟩ := serveTimer_cases h
    · exact le_rfl
    · exact le_rfl
  | finish h =>
    obtain ⟨n, tl, p, o, -, -, -, -, rfl⟩ := finishTimer_cases hs h
    exact le_rfl

theorem indx_run {es : List Event} {C : TimerMgr → Event → Prop} (hs : Wf s)
    (h : Run step C s es s') : s'.indx.toNat ≤ s.indx.toNat + es.countP Event.takesId := by
  induction h with
  | nil s => exact le_rfl
  | @cons s s₁ s₂ e es _ h₁ _ ih =>
    have hstep := indx_step hs h₁
    have hrest := ih (hs.step h₁)
    rw [List.countP_cons]
    omega

theorem allocTimerId_eq_zero (h : s.indx.toNat + 1 < 2 ^ 32) :
    (allocTimerId s).1 = 0 ↔ maxTimers < s.count := by
  rw [allocTimerId]
  split_ifs with hcount
  · exact iff_of_true rfl hcount
  · refine iff_of_false (fun hzero ↦ ?_) hcount
    have hsum := congrArg BitVec.toNat hzero
    rw [BitVec.toNat_add] at hsum
    change (s.indx.toNat + 1) % 2 ^ 32 = 0 at hsum
    omega

theorem modTimer_zero_step (hp : s.timers i = some p) :
    ∃ s₁ p₁, step s (.modTimer (some i) 0 true) = some s₁ ∧ s₁.timers i = some p₁ ∧
      s₁.count = s.count + 1 ∧ s₁.root = s.root := by
  obtain ⟨s₁, harm⟩ := armTimer_isSome i { p with rmt := 0 * tmGetTicksPerSecond } s
  have hstep : step s (.modTimer (some i) 0 true) = some s₁ := by
    simp only [step, modTimer, hp, harm, Bool.not_true, Bool.false_eq_true, if_false,
      Option.map_some]
  obtain ⟨-, rfl⟩ | ⟨w, t, hsome, -⟩ := armTimer_cases harm
  · exact ⟨_, _, hstep, update_self _ _ _, rfl, rfl⟩
  · rw [findTmrSlot_packTime_eq_none.mpr rfl] at hsome
    cases hsome

theorem modTimer_zero_run (hp : s.timers i = some p) (k : ℕ) :
    ∃ s', Run step (fun _ _ ↦ True) s (List.replicate k (.modTimer (some i) 0 true)) s' ∧
      s'.count = s.count + k ∧ s'.root = s.root := by
  induction k generalizing s p with
  | zero => exact ⟨s, .nil s, rfl, rfl⟩
  | succ k ih =>
    obtain ⟨s₁, p₁, hstep, hp₁, hcount₁, hroot₁⟩ := modTimer_zero_step hp
    obtain ⟨s', hrun, hcount, hroot⟩ := ih hp₁
    refine ⟨s', .cons trivial hstep hrun, ?_, hroot.trans hroot₁⟩
    rw [hcount, hcount₁, Nat.add_right_comm, Nat.add_assoc]

end Exact

end Layer3Switch.Timers
