import Layer3Switch.Timers.Pending

namespace Layer3Switch.Timers

open Lib Lib.Rbtree Function

variable {s s' : TimerMgr} {i j : TimerId} {p : TimerT} {w : Wheel} {n : AppTimer} {e : Event}

def Cancels (e : Event) (i : TimerId) : Prop := e = .stopTimer i ∨ e = .delTimer i

theorem step_of_cancels (he : Cancels e i) (s : TimerMgr) : step s e = stopTimer i s := by
  rcases he with rfl | rfl
  · rfl
  · exact delTimer_eq_stopTimer i s

def StopFrame (i : TimerId) (s s' : TimerMgr) : Prop :=
  ∀ w n, (n ∈ s'.root w → n ∈ s.root w) ∧ (n.timer ≠ i → n ∈ s.root w → n ∈ s'.root w)

/-- When `i` is running, its node is in the tree of its wheel; or the node was
never linked and that tree holds other nodes of `i` alone. -/
def StopSafe (s : TimerMgr) (i : TimerId) : Prop :=
  ∀ p a, s.timers i = some p → p.isRunning = true → p.apptimer = some a →
    ∃ w, p.wheel = some w ∧
      ((∃ n ∈ s.root w, n.id = a ∧ n.timer = i) ∨
        a ∈ s.unlinked ∧ ∀ n ∈ s.root w, n.id ≠ a ∧ n.timer = i)

theorem CleanStop.stopSafe (h : CleanStop s i) : StopSafe s i := by
  intro p a hp hrun ha
  obtain ⟨w, n, hw, hn, hid, ht⟩ := h p a hp hrun ha
  exact ⟨w, hw, .inl ⟨n, hn, hid, ht⟩⟩

theorem erase_eq_none {r : RbRoot AppTimer.key} {a : NodeId} (h : ∀ n ∈ r, n.id ≠ a) :
    r.erase (fun m ↦ m.id == a) = none := by
  cases he : r.erase (fun m ↦ m.id == a) with
  | none => rfl
  | some r' =>
    obtain ⟨n, hn, hid, -⟩ := erase_eq_some he
    exact absurd hid (h n hn)

theorem stopTimer_eq_self (hp : s.timers i = some p)
    (h : ¬(p.apptimer.isSome ∧ p.isRunning = true)) : stopTimer i s = some s := by
  unfold stopTimer
  cases ha : p.apptimer <;> cases hr : p.isRunning <;> simp_all

theorem stopTimer_of_running {a : NodeId} (hp : s.timers i = some p) (ha : p.apptimer = some a)
    (hrun : p.isRunning = true) :
    stopTimer i s = (timerDel a p.wheel s).map fun s₁ ↦ { s₁ with
      timers := update s₁.timers i (some { p with isRunning := false })
      unlinked := s₁.unlinked.erase a
      count := s₁.count - 1 } := by
  unfold stopTimer
  simp only [hp, ha, hrun]
  cases timerDel a p.wheel s <;> rfl

theorem StopSafe.stopTimer (h : StopSafe s i) (hs : Wf s) (hp : s.timers i = some p) :
    ∃ s', stopTimer i s = some s' ∧ StopFrame i s s' := by
  by_cases hno : p.apptimer.isSome ∧ p.isRunning = true
  case neg => exact ⟨s, stopTimer_eq_self hp hno, fun w n ↦ ⟨id, fun _ ↦ id⟩⟩
  obtain ⟨a, ha⟩ := Option.isSome_iff_exists.mp hno.1
  rw [stopTimer_of_running hp ha hno.2]
  obtain ⟨w, hw, ⟨n, hn, rfl, hni⟩ | ⟨hu, hall⟩⟩ := h p a hp hno.2 ha
  · obtain ⟨r, hr, hperm⟩ := erase_of_mem hn (Wheels.id_nodup hs.wheels_nodup w)
    simp only [hw, timerDel, hr]
    refine ⟨_, rfl, fun v m ↦ ⟨fun hm ↦ ?_, fun hmi ↦ ?_⟩⟩
    · have hmn : m ≠ n := fun he ↦ hs.not_mem_update hperm v (he ▸ hm)
      exact (mem_update_of_perm hperm hmn v).mp hm
    · exact (mem_update_of_perm hperm (ne_of_timer hni hmi).symm v).mpr
  · simp only [hw, timerDel, erase_eq_none fun n hn ↦ (hall n hn).1, hu, if_true]
    refine ⟨_, rfl, fun v m ↦ ⟨fun hm ↦ ?_, fun hmi hm ↦ ?_⟩⟩
    · by_cases hv : v = w
      · subst hv
        simp at hm
      · simpa [update_of_ne hv] using hm
    · have hv : v ≠ w := fun he ↦ hmi (hall m (he ▸ hm)).2
      simpa [update_of_ne hv] using hm

theorem stopSafe_of_frame (hs : Wf s) (h : stopTimer i s = some s') (hf : StopFrame i s s') :
    StopSafe s i := by
  intro p a hp hrun ha
  obtain ⟨q, hq, ⟨-, hno⟩ | ⟨b, w, r, hb, -, hw, hr, rfl⟩⟩ := stopTimer_cases h
  · obtain rfl := Option.some.inj (hp.symm.trans hq)
    simp [ha, hrun] at hno
  obtain rfl := Option.some.inj (hp.symm.trans hq)
  obtain rfl := Option.some.inj (ha.symm.trans hb)
  refine ⟨w, hw, ?_⟩
  rcases hr with hr | ⟨hr, hu, rfl⟩
  · obtain ⟨n, hn, hid, hperm⟩ := erase_eq_some hr
    refine .inl ⟨n, hn, hid, ?_⟩
    by_contra hni
    exact hs.not_mem_update hperm w ((hf w n).2 hni hn)
  · refine .inr ⟨hu, fun n hn ↦ ⟨fun hid ↦ ?_, ?_⟩⟩
    · obtain ⟨r', hr', -⟩ := erase_of_mem hn (Wheels.id_nodup hs.wheels_nodup w)
      rw [hid, hr] at hr'
      simp at hr'
    · by_contra hni
      have := (hf w n).2 hni hn
      simp at this

theorem stopTimer_timer {t : TimerT} (h : stopTimer i s = some s') (ht : s.timers j = some t) :
    ∃ t', s'.timers j = some t' ∧ t'.apptimer = t.apptimer ∧
      (t'.isRunning = true → t.isRunning = true) ∧
      (j = i → ¬(t'.apptimer.isSome ∧ t'.isRunning = true)) := by
  obtain ⟨p, hp, ⟨rfl, hno⟩ | ⟨a, w, r, -, -, -, -, rfl⟩⟩ := stopTimer_cases h
  · refine ⟨t, ht, rfl, id, fun hji ↦ ?_⟩
    subst hji
    obtain rfl := Option.some.inj (hp.symm.trans ht)
    exact hno
  · by_cases hji : j = i
    · subst hji
      obtain rfl := Option.some.inj (hp.symm.trans ht)
      exact ⟨_, update_self _ _ _, rfl, nofun, fun _ hrun ↦ Bool.false_ne_true hrun.2⟩
    · exact ⟨t, (update_of_ne hji _ _).trans ht, rfl, id, fun h ↦ absurd h hji⟩

theorem stopTimer_of_armTimer (hs : Wf s) (hrun : p.isRunning = false)
    (h : armTimer i p s = some s') :
    ∃ s₂, stopTimer i s' = some s₂ ∧ (∀ w n, n ∈ s₂.root w ↔ n ∈ s.root w) ∧
      s₂.expdTmrs = s.expdTmrs ∧ s₂.clk = s.clk ∧ (∀ j ≠ i, s₂.timers j = s.timers j) ∧
      ∃ p₂, s₂.timers i = some p₂ ∧ p₂.isRunning = false := by
  rcases armTimer_cases h with ⟨-, rfl⟩ | ⟨w, t, -, rfl⟩
  · refine ⟨_, stopTimer_eq_self (update_self _ _ _) (by simp [hrun]), fun _ _ ↦ Iff.rfl, rfl, rfl,
      ?_, _, update_self _ _ _, hrun⟩
    exact fun j hj ↦ update_of_ne hj _ _
  · -- the new node is the only one that bears its address
    have hfresh : ∀ m ∈ s.root w, m.id ≠ s.nextNode := fun m hm ↦
      Nat.ne_of_lt (hs.id_lt m (TimerMgr.mem_nodes.mpr (.inl ⟨w, hm⟩)))
    have hmem : (⟨s.nextNode, i, packTime 0 p.rmt, s.clk.get w + t⟩ : AppTimer) ∈
        (s.root w).insert ⟨s.nextNode, i, packTime 0 p.rmt, s.clk.get w + t⟩ :=
      RbRoot.mem_insert.mpr (.inl rfl)
    obtain ⟨r, hr⟩ := RbRoot.erase_isSome (p := fun m ↦ m.id == s.nextNode) hmem (by simp)
    obtain ⟨n, hn, hid, hperm⟩ := erase_eq_some hr
    have hnew : n = ⟨s.nextNode, i, packTime 0 p.rmt, s.clk.get w + t⟩ :=
      (RbRoot.mem_insert.mp hn).resolve_right fun hold ↦ hfresh n hold hid
    have hrest : ∀ m, m ∈ r ↔ m ∈ s.root w := by
      intro m
      have hboth : (s.root w).toList.Perm r.toList := by
        refine (List.perm_cons n).mp (.trans ?_ hperm)
        rw [hnew]
        exact ((s.root w).insert_perm _).symm
      rw [RbRoot.mem_def, RbRoot.mem_def, hboth.mem_iff]
    rw [stopTimer_of_running (update_self _ _ _) rfl rfl]
    simp only [timerDel, update_self, hr, Option.map_some]
    refine ⟨_, rfl, ?_, rfl, rfl, fun j hj ↦ ?_, _, update_self _ _ _, rfl⟩
    · intro v m
      by_cases hv : v = w
      · subst hv
        simp only [update_self]
        exact hrest m
      · simp only [update_of_ne hv]
    · simp only [update_of_ne hj]

def TimerMgr.waiting (s : TimerMgr) : List AppTimer :=
  if s.serving.isSome then s.expdTmrs.tail else s.expdTmrs

def Quiet (s : TimerMgr) (i : TimerId) : Prop := Unheld s i ∧ ∀ n ∈ s.waiting, n.timer ≠ i

def handlerCalled (s : TimerMgr) : Event → Option TimerId
  | .serve =>
    match s.serving, s.expdTmrs with
    | none, n :: _ =>
      match s.timers n.timer with
      | some p => if p.timeOutHandler.isSome then some n.timer else none
      | none => none
    | _, _ => none
  | _ => none

theorem Quiet.handlerCalled_ne (hq : Quiet s i) (e : Event) : handlerCalled s e ≠ some i := by
  intro h
  cases e with
  | serve =>
    simp only [handlerCalled] at h
    split at h
    · rename_i n tl hserv hexpd
      split at h
      · split_ifs at h
        exact hq.2 n (by simp [TimerMgr.waiting, hserv, hexpd]) (Option.some.inj h)
      · simp at h
    · simp at h
  | _ => simp [handlerCalled] at h

theorem mem_waiting_append {l : List AppTimer} {m : AppTimer} {o : Option AppTimer}
    (h : m ∈ if o.isSome then (l ++ [n]).tail else l ++ [n]) :
    m ∈ (if o.isSome then l.tail else l) ∨ m = n := by
  split_ifs at h ⊢
  · cases l with
    | nil => simp at h
    | cons x xs => simpa using h
  · simpa using h

theorem Quiet.processTimer (hq : Quiet s i) (hs : Wf s) (hn : n ∈ s.root w)
    (h : processTimer w n s = some s') : Quiet s' i := by
  have hni := hq.1 w n hn
  refine ⟨(processTimer_sameFor hs hn hni h).unheld hq.1, fun m hm ↦ ?_⟩
  obtain ⟨p, v, r, -, -, -, ⟨-, rfl⟩ | ⟨u, t, -, rfl⟩⟩ := processTimer_cases hs.wheels_nodup hn h
  · rcases mem_waiting_append hm with hm | rfl
    · exact hq.2 m hm
    · exact hni
  · exact hq.2 m hm

theorem Quiet.step (hq : Quiet s i) (hs : Wf s) (hi : i < s.nextTimer)
    (he : ∀ secs, e ≠ .modTimer (some i) secs true) (h : step s e = some s') : Quiet s' i := by
  cases step_cases h with
  | setupFail handler data mem k => exact hq
  | setup handler data mem k => exact hq
  | startFail ticks data handler flags mem memApp k => exact hq
  | start h =>
    have hsame := armTimer_sameFor (Nat.ne_of_gt hi) h
    refine ⟨hsame.unheld hq.1, ?_⟩
    rcases armTimer_cases h with ⟨-, rfl⟩ | ⟨w, t, -, rfl⟩
    · exact hq.2
    · exact hq.2
  | modFail => exact hq
  | @mod j secs p _ hp h =>
    have hji : j ≠ i := fun hji ↦ he secs (hji ▸ rfl)
    refine ⟨(armTimer_sameFor hji h).unheld hq.1, ?_⟩
    rcases armTimer_cases h with ⟨-, rfl⟩ | ⟨w, t, -, rfl⟩
    · exact hq.2
    · exact hq.2
  | stop _ h =>
    refine ⟨fun w n hn ↦ ?_, ?_⟩
    · obtain ⟨v, hv⟩ := Wheels.mem_nodes.mp
        (Multiset.mem_of_le (stopTimer_roots_le h) (Wheels.mem_nodes.mpr ⟨w, hn⟩))
      exact hq.1 v n hv
    · obtain ⟨p, -, ⟨rfl, -⟩ | ⟨a, w, r, -, -, -, -, rfl⟩⟩ := stopTimer_cases h
      · exact hq.2
      · exact hq.2
  | tick h =>
    refine updateTimes_invariant (I := fun s ↦ Quiet s i) (fun s c hq ↦ hq) ?_ hs hq h
    intro s w n s' hs hq hn _ h
    exact hq.processTimer hs hn h
  | serve h =>
    obtain ⟨hserv, ⟨-, rfl⟩ | ⟨n, tl, p, htl, -, rfl⟩⟩ := serveTimer_cases h
    · exact hq
    · refine ⟨hq.1, fun m hm ↦ hq.2 m ?_⟩
      simp only [TimerMgr.waiting, htl, Option.isSome_some, if_true, List.tail_cons] at hm
      simp [TimerMgr.waiting, hserv, htl, hm]
  | finish h =>
    obtain ⟨n, tl, p, o, hserv, htl, -, -, rfl⟩ := finishTimer_cases hs h
    refine ⟨hq.1, fun m hm ↦ hq.2 m ?_⟩
    simp only [TimerMgr.waiting, hserv, htl, Option.isSome_some, if_true, List.tail_cons]
    exact hm

theorem Quiet.run {es : List Event} (hq : Quiet s i) (hs : Wf s) (hi : i < s.nextTimer)
    (h : Run Timers.step (fun _ e ↦ ∀ secs, e ≠ .modTimer (some i) secs true) s es s') :
    Quiet s' i := by
  refine (h.invariant (I := fun s ↦ Wf s ∧ i < s.nextTimer ∧ Quiet s i) ?_ ⟨hs, hi, hq⟩).2.2
  rintro s₁ e s₂ ⟨hs₁, hi₁, hq₁⟩ he h₁
  exact ⟨hs₁.step h₁, hi₁.trans_le (nextTimer_le_step hs₁ h₁), hq₁.step hs₁ hi₁ he h₁⟩

def CancelSafe (s : TimerMgr) (i : TimerId) : Prop :=
  (∀ p, s.timers i = some p → p.isRunning = true → p.apptimer ≠ none) ∧
    ∀ n ∈ s.waiting, n.timer ≠ i

theorem quiet_iff_cancelSafe (hs : Wf s) (hl : Linked False s i) (h : stopTimer i s = some s') :
    Quiet s' i ↔ CancelSafe s i := by
  have hwait : s'.waiting = s.waiting := by
    obtain ⟨p, -, ⟨rfl, -⟩ | ⟨a, w, r, -, -, -, -, rfl⟩⟩ := stopTimer_cases h
    · rfl
    · rfl
  rw [Quiet, hwait, CancelSafe]
  refine and_congr_left fun _ ↦ ⟨fun hu p hp hrun ha ↦ ?_, fun hsafe ↦ ?_⟩
  · have hself : stopTimer i s = some s := stopTimer_eq_self hp (by simp [ha])
    obtain rfl := Option.some.inj (hself.symm.trans h)
    rcases hl with ⟨-, hl, -⟩ | ⟨w, n, hh, -⟩
    · simp [hl p hp] at hrun
    · exact hu w n hh.mem hh.timer
  · obtain ⟨p, hp, ⟨rfl, hno⟩ | ⟨w, n, r, -, -, -, hn, hni, hr, rfl⟩⟩ :=
      stopTimer_cases_clean hs hl.cleanStop h
    · refine hl.unheld hp ?_
      by_contra hrun
      rw [Bool.not_eq_false] at hrun
      exact hno ⟨Option.isSome_iff_ne_none.mpr (hsafe p hp hrun), hrun⟩
    · rcases hl with ⟨hu, -⟩ | ⟨w', n', hh, -⟩
      · exact absurd hni (hu w n hn)
      · obtain ⟨rfl, rfl⟩ := hh.only w n hn hni
        exact hh.erase hs hr

abbrev ArmsStopped : TimerMgr → Event → Prop := ArmIdle False

/-- In a run that never re-arms a running timer, a cancelled timer has no node
left that could call its handler exactly when the cancellation is safe, and
then its handler is not called before the next `mod_timer`. -/
theorem cancel_effective (es : List Event) (s s₁ : TimerMgr) (i : TimerId) (e : Event)
    (h : Run step ArmsStopped initTimerMgr es s) (he : Cancels e i) (h₁ : step s e = some s₁) :
    (Quiet s₁ i ↔ CancelSafe s i) ∧
      (CancelSafe s i → ∀ es' s₂ e₂,
        Run step (fun _ e ↦ ∀ secs, e ≠ .modTimer (some i) secs true) s₁ es' s₂ →
          handlerCalled s₂ e₂ ≠ some i) := by
  obtain ⟨hs, hl⟩ := Linked.run (fun _ _ _ hc ↦ hc) wf_init (linked_init False) h
  have hstop : stopTimer i s = some s₁ := step_of_cancels he s ▸ h₁
  have hiff := quiet_iff_cancelSafe hs (hl i) hstop
  refine ⟨hiff, fun hsafe es' s₂ e₂ h₂ ↦ ?_⟩
  have hi : i < s₁.nextTimer := by
    obtain ⟨p, hp, -⟩ := stopTimer_cases hstop
    exact (hs.lt_of_some hp).trans_le (nextTimer_le_step hs h₁)
  exact ((hiff.mpr hsafe).run (hs.step h₁) hi h₂).handlerCalled_ne e₂

theorem cancel_effective_first_arm :
    ∃ s s₁ s₂, Run step ArmsStopped initTimerMgr
        [.setupTimer (some 0) 0 true, .modTimer (some 0) 1 true] s ∧ CancelSafe s 0 ∧
      step s (.delTimer 0) = some s₁ ∧ step s₁ .tick = some s₂ ∧
      handlerCalled s₂ .serve ≠ some 0 := by
  have hrun : Run step ArmsStopped initTimerMgr
      [.setupTimer (some 0) 0 true, .modTimer (some 0) 1 true] _ :=
    .cons (by intro i secs he; simp at he) rfl (.one (by
      intro i secs he
      obtain ⟨rfl, -⟩ : 0 = i ∧ 1 = secs := by simpa using he
      exact ⟨by simp [setupTimer, allocTimerId, initTimerMgr], False.elim⟩) rfl)
  have hmain := cancel_effective _ _ _ 0 (.delTimer 0) hrun (.inr rfl) rfl
  have hsafe := hmain.1.mp ⟨fun w ↦ by cases w <;> decide, by decide⟩
  exact ⟨_, _, _, hrun, hsafe, rfl, rfl, hmain.2 hsafe [.tick] _ .serve (.one (by simp) rfl)⟩

/-- A timer that has expired is cancelled before the bottom half has run, and
its handler is called all the same. -/
theorem cancel_ineffective : ∃ es s s₁, Run step ArmsStopped initTimerMgr es s ∧
    step s (.delTimer 0) = some s₁ ∧ handlerCalled s₁ .serve = some 0 := by
  refine ⟨[.startTimer 1 0 (some 0) timerForever true true, .tick], _, _,
    .cons (by intro i secs he; simp at he) rfl (.one (by intro i secs he; simp at he) rfl), rfl, ?_⟩
  decide

end Layer3Switch.Timers
