import Layer3Switch.Timers.Deadline

namespace Layer3Switch.Timers

open Lib Lib.Rbtree Function

variable {s s' : TimerMgr} {i j : TimerId} {t p : TimerT} {n : AppTimer} {w : Wheel} {e : Event}

/-- What a tick makes of a timer: its expiry time stays, and if it is no longer
running, one of its nodes is among the nodes `ns` that have just expired. -/
structure Ticked (ns : List AppTimer) (i : TimerId) (t t' : TimerT) : Prop where
  exp : t'.exp = t.exp
  flags : t'.flags = t.flags
  running : t.isRunning = true → t'.isRunning = true ∨ ∃ n ∈ ns, n.timer = i

theorem Ticked.refl (ns : List AppTimer) (i : TimerId) (t : TimerT) : Ticked ns i t t :=
  ⟨rfl, rfl, .inl⟩

theorem processTimer_ticked (hs : Wf s) (hn : n ∈ s.root w) (h : processTimer w n s = some s') :
    ∃ ns, s'.expdTmrs = s.expdTmrs ++ ns ∧ s'.serving = s.serving ∧
      ∀ i t, s.timers i = some t → ∃ t', s'.timers i = some t' ∧ Ticked ns i t t' := by
  obtain ⟨p, v, r, hp, -, -, ⟨-, rfl⟩ | ⟨u, k, -, rfl⟩⟩ := processTimer_cases hs.wheels_nodup hn h
  · refine ⟨_, rfl, rfl, fun i t ht ↦ ?_⟩
    by_cases hi : i = n.timer
    · subst hi
      obtain rfl := Option.some.inj (hp.symm.trans ht)
      refine ⟨_, update_self _ _ _, rfl, rfl, fun _ ↦ .inr ?_⟩
      exact ⟨_, List.mem_singleton_self _, rfl⟩
    · exact ⟨t, (update_of_ne hi _ _).trans ht, .refl _ i t⟩
  · refine ⟨[], (List.append_nil _).symm, rfl, fun i t ht ↦ ?_⟩
    by_cases hi : i = n.timer
    · subst hi
      obtain rfl := Option.some.inj (hp.symm.trans ht)
      exact ⟨_, update_self _ _ _, rfl, rfl, fun _ ↦ .inl rfl⟩
    · exact ⟨t, (update_of_ne hi _ _).trans ht, .refl _ i t⟩

theorem updateTimes_ticked (hs : Wf s) (h : updateTimes s = some s') :
    ∃ ns, s'.expdTmrs = s.expdTmrs ++ ns ∧ s'.serving = s.serving ∧
      ∀ i t, s.timers i = some t → ∃ t', s'.timers i = some t' ∧ Ticked ns i t t' := by
  refine updateTimes_invariant (I := fun s₁ ↦ ∃ ns, s₁.expdTmrs = s.expdTmrs ++ ns ∧
      s₁.serving = s.serving ∧
      ∀ i t, s.timers i = some t → ∃ t', s₁.timers i = some t' ∧ Ticked ns i t t')
    (fun _ _ h ↦ h) ?_ hs ⟨[], (List.append_nil _).symm, rfl, fun i t ht ↦ ⟨t, ht, .refl _ i t⟩⟩ h
  intro s₁ w n s₂ hs₁ h₁ hn _ h₂
  obtain ⟨ns, hns, hserving, hall⟩ := h₁
  obtain ⟨ms, hms, hserving', hturn⟩ := processTimer_ticked hs₁ hn h₂
  refine ⟨ns ++ ms, by rw [hms, hns, List.append_assoc], hserving'.trans hserving, fun i t ht ↦ ?_⟩
  obtain ⟨t₁, ht₁, hexp₁, hflags₁, hrun₁⟩ := hall i t ht
  obtain ⟨t₂, ht₂, hexp₂, hflags₂, hrun₂⟩ := hturn i t₁ ht₁
  refine ⟨t₂, ht₂, hexp₂.trans hexp₁, hflags₂.trans hflags₁, fun hrun ↦ ?_⟩
  obtain hrun | ⟨m, hm, hmi⟩ := hrun₁ hrun
  · refine (hrun₂ hrun).imp_right ?_
    rintro ⟨m, hm, hmi⟩
    exact ⟨m, List.mem_append_right ns hm, hmi⟩
  · exact .inr ⟨m, List.mem_append_left ms hm, hmi⟩

/-- What a step makes of a timer that it neither arms nor cancels. -/
structure Kept (t t' : TimerT) : Prop where
  exp : t'.exp = t.exp
  flags : t'.flags = t.flags
  running : t'.isRunning = t.isRunning

theorem Kept.refl (t : TimerT) : Kept t t := ⟨rfl, rfl, rfl⟩

theorem finishTimer_kept {mem : Bool} (ht : s.timers i = some t)
    (honce : t.flags &&& timerOnce = 0) (h : finishTimer mem s = some s') :
    ∃ t', s'.timers i = some t' ∧ Kept t t' := by
  unfold finishTimer timerRestart at h
  cases hn : s.serving with
  | none =>
    rw [hn] at h
    cases h
  | some n =>
    simp only [hn] at h
    cases hp : s.timers n.timer with
    | none =>
      rw [hp] at h
      cases h
    | some p =>
      simp only [hp] at h
      by_cases hi : i = n.timer
      · subst hi
        obtain rfl := Option.some.inj (hp.symm.trans ht)
        rw [if_neg (not_not.mpr honce)] at h
        split_ifs at h
        all_goals
          obtain rfl := Option.some.inj h
          exact ⟨_, update_self _ _ _, rfl, rfl, rfl⟩
      · refine ⟨t, ?_, .refl t⟩
        split_ifs at h
        all_goals
          obtain rfl := Option.some.inj h
          exact (update_of_ne hi _ _).trans ht

theorem Leaves.kept (hc : Leaves i e) (he : e ≠ .tick) (hs : Wf s) (ht : s.timers i = some t)
    (honce : t.flags &&& timerOnce = 0) (h : step s e = some s') :
    ∃ t', s'.timers i = some t' ∧ Kept t t' := by
  have hi := hs.lt_of_some ht
  cases step_cases h with
  | setupFail handler data mem k => exact ⟨t, ht, .refl t⟩
  | setup handler data mem k => exact ⟨t, (update_of_ne (Nat.ne_of_lt hi) _ _).trans ht, .refl t⟩
  | startFail ticks data handler flags mem memApp k => exact ⟨t, ht, .refl t⟩
  | start h => exact ⟨t, (armTimer_sameFor (Nat.ne_of_gt hi) h).timer.trans ht, .refl t⟩
  | modFail => exact ⟨t, ht, .refl t⟩
  | @mod j secs p _ hp h =>
    have hji : j ≠ i := fun hji ↦ hc.1 secs (hji ▸ rfl)
    exact ⟨t, (armTimer_sameFor hji h).timer.trans ht, .refl t⟩
  | @stop j _ _ he h =>
    have hji : j ≠ i := fun hji ↦ hc.2 (hji ▸ he)
    exact ⟨t, (stopTimer_timers_of_ne hji h).trans ht, .refl t⟩
  | tick h => exact absurd rfl he
  | serve h =>
    obtain ⟨-, ⟨-, rfl⟩ | ⟨n, tl, p, -, -, rfl⟩⟩ := serveTimer_cases h
    · exact ⟨t, ht, .refl t⟩
    · exact ⟨t, ht, .refl t⟩
  | finish h => exact finishTimer_kept ht honce h

theorem armTimer_flags (hp : s.timers j = some p) (ht : s.timers i = some t) (rmt : U32)
    (h : armTimer j { p with rmt := rmt } s = some s') :
    ∃ t', s'.timers i = some t' ∧ t'.flags = t.flags := by
  by_cases hji : j = i
  · subst hji
    obtain rfl := Option.some.inj (hp.symm.trans ht)
    obtain ⟨-, rfl⟩ | ⟨w, k, -, rfl⟩ := armTimer_cases h
    · exact ⟨_, update_self _ _ _, rfl⟩
    · exact ⟨_, update_self _ _ _, rfl⟩
  · exact ⟨t, (armTimer_sameFor hji h).timer.trans ht, rfl⟩

theorem stopTimer_exp (ht : s.timers i = some t) (h : stopTimer j s = some s') :
    ∃ t', s'.timers i = some t' ∧ t'.exp = t.exp ∧ t'.flags = t.flags := by
  obtain ⟨p, hp, ⟨rfl, -⟩ | ⟨a, w, r, -, -, -, -, rfl⟩⟩ := stopTimer_cases h
  · exact ⟨t, ht, rfl, rfl⟩
  · by_cases hji : i = j
    · subst hji
      obtain rfl := Option.some.inj (hp.symm.trans ht)
      exact ⟨_, update_self _ _ _, rfl, rfl⟩
    · exact ⟨t, (update_of_ne hji _ _).trans ht, rfl, rfl⟩

theorem exp_step (hc : ∀ secs, e ≠ .modTimer (some i) secs true) (hs : Wf s)
    (ht : s.timers i = some t) (honce : t.flags &&& timerOnce = 0) (h : step s e = some s') :
    ∃ t', s'.timers i = some t' ∧ t'.exp = t.exp ∧ t'.flags = t.flags := by
  by_cases hcancel : Cancels e i
  · rw [step_of_cancels hcancel] at h
    exact stopTimer_exp ht h
  by_cases he : e = .tick
  · subst he
    obtain ⟨ns, -, -, hall⟩ := updateTimes_ticked hs h
    obtain ⟨t', ht', htick⟩ := hall i t ht
    exact ⟨t', ht', htick.exp, htick.flags⟩
  · obtain ⟨t', ht', hkept⟩ := Leaves.kept ⟨hc, hcancel⟩ he hs ht honce h
    exact ⟨t', ht', hkept.exp, hkept.flags⟩

theorem flags_step (hs : Wf s) (ht : s.timers i = some t) (honce : t.flags &&& timerOnce = 0)
    (h : step s e = some s') : ∃ t', s'.timers i = some t' ∧ t'.flags = t.flags := by
  by_cases harm : ∃ secs, e = .modTimer (some i) secs true
  · obtain ⟨secs, rfl⟩ := harm
    cases step_cases h with
    | mod hp h => exact armTimer_flags hp ht _ h
    | stop he _ => simp at he
    | modFail => exact ⟨t, ht, rfl⟩
  · obtain ⟨t', ht', -, hflags⟩ := exp_step (not_exists.mp harm) hs ht honce h
    exact ⟨t', ht', hflags⟩

def Lasting (s : TimerMgr) (i : TimerId) : Prop := ∃ t, s.timers i = some t ∧ t.flags = timerForever

theorem forever_not_once (hforever : t.flags = timerForever) : t.flags &&& timerOnce = 0 := by
  rw [hforever]
  decide

theorem Lasting.step (hl : Lasting s i) (hs : Wf s) (h : step s e = some s') : Lasting s' i := by
  obtain ⟨t, ht, hforever⟩ := hl
  obtain ⟨t', ht', hflags⟩ := flags_step hs ht (forever_not_once hforever) h
  exact ⟨t', ht', hflags.trans hforever⟩

theorem Lasting.run {C : TimerMgr → Event → Prop} {es : List Event} (hl : Lasting s i) (hs : Wf s)
    (h : Run Timers.step C s es s') : Lasting s' i := by
  refine (h.invariant (I := fun s ↦ Wf s ∧ Lasting s i) ?_ ⟨hs, hl⟩).2
  intro s₁ e s₂ hI _ h₁
  exact ⟨hI.1.step h₁, hI.2.step hI.1 h₁⟩

theorem exp_run {C : TimerMgr → Event → Prop}
    (hC : ∀ s e, C s e → ∀ secs, e ≠ .modTimer (some i) secs true) {es : List Event} (hs : Wf s)
    (ht : s.timers i = some t) (hforever : t.flags = timerForever)
    (h : Run Timers.step C s es s') : ∃ t', s'.timers i = some t' ∧ t'.exp = t.exp := by
  induction h generalizing t with
  | nil => exact ⟨t, ht, rfl⟩
  | @cons s s₁ s' e es hc h₁ _ ih =>
    obtain ⟨t₁, ht₁, hexp, hflags⟩ := exp_step (hC s e hc) hs ht (forever_not_once hforever) h₁
    obtain ⟨t', ht', hexp'⟩ := ih (hs.step h₁) ht₁ (hflags.trans hforever)
    exact ⟨t', ht', hexp'.trans hexp⟩

theorem timerPending_eq_true :
    timerPending s (some i) = some true ↔ ∃ t, s.timers i = some t ∧ t.isRunning = true :=
  Option.map_eq_some_iff

theorem timerPending_armTimer (h : armTimer i p s = some s')
    (hne : p.rmt.toNat % 368640000 ≠ 0) : timerPending s' (some i) = some true := by
  obtain ⟨hf, -⟩ | ⟨w, k, -, rfl⟩ := armTimer_cases h
  · exact absurd (findTmrSlot_packTime_eq_none.mp hf) hne
  · exact timerPending_eq_true.mpr ⟨_, update_self _ _ _, rfl⟩

theorem Leaves.pending (hc : Leaves i e) (he : e ≠ .tick) (hs : Wf s) (hl : Lasting s i)
    (hp : timerPending s (some i) = some true) (h : step s e = some s') :
    timerPending s' (some i) = some true := by
  obtain ⟨t, ht, hforever⟩ := hl
  obtain ⟨t₁, ht₁, hrun⟩ := timerPending_eq_true.mp hp
  obtain rfl := Option.some.inj (ht.symm.trans ht₁)
  obtain ⟨t', ht', hkept⟩ := hc.kept he hs ht (forever_not_once hforever) h
  exact timerPending_eq_true.mpr ⟨t', ht', hkept.running.trans hrun⟩

theorem waiting_of_expdTmrs (hs : Wf s) {ns : List AppTimer}
    (hexpd : s'.expdTmrs = s.expdTmrs ++ ns) (hserving : s'.serving = s.serving) :
    s'.waiting = s.waiting ++ ns := by
  unfold TimerMgr.waiting
  rw [hexpd, hserving]
  cases hn : s.serving with
  | none => rfl
  | some n =>
    obtain ⟨tl, htl⟩ := List.head?_eq_some_iff.mp (hs.serving_head n hn)
    rw [htl]
    rfl

theorem armTimer_expdTmrs (h : armTimer i p s = some s') :
    s'.expdTmrs = s.expdTmrs ∧ s'.serving = s.serving := by
  obtain ⟨-, rfl⟩ | ⟨w, k, -, rfl⟩ := armTimer_cases h
  · exact ⟨rfl, rfl⟩
  · exact ⟨rfl, rfl⟩

theorem waiting_step (hs : Wf s) (h : step s e = some s') :
    (∃ ns, s'.waiting = s.waiting ++ ns) ∨
      e = .serve ∧ ∃ n, s'.serving = some n ∧ s.waiting = n :: s'.waiting := by
  have hsame : s'.expdTmrs = s.expdTmrs → s'.serving = s.serving →
      (∃ ns, s'.waiting = s.waiting ++ ns) ∨
        e = .serve ∧ ∃ n, s'.serving = some n ∧ s.waiting = n :: s'.waiting := by
    intro hexpd hserving
    exact .inl ⟨[], waiting_of_expdTmrs hs (hexpd.trans (List.append_nil _).symm) hserving⟩
  cases step_cases h with
  | setupFail handler data mem k => exact hsame rfl rfl
  | setup handler data mem k => exact hsame rfl rfl
  | startFail ticks data handler flags mem memApp k => exact hsame rfl rfl
  | start h =>
    obtain ⟨hexpd, hserving⟩ := armTimer_expdTmrs h
    exact hsame hexpd hserving
  | modFail => exact hsame rfl rfl
  | mod hp h =>
    obtain ⟨hexpd, hserving⟩ := armTimer_expdTmrs h
    exact hsame hexpd hserving
  | stop _ h =>
    obtain ⟨p, -, ⟨rfl, -⟩ | ⟨a, w, r, -, -, -, -, rfl⟩⟩ := stopTimer_cases h
    · exact hsame rfl rfl
    · exact hsame rfl rfl
  | tick h =>
    obtain ⟨ns, hns, hserving, -⟩ := updateTimes_ticked hs h
    exact .inl ⟨ns, waiting_of_expdTmrs hs hns hserving⟩
  | serve h =>
    obtain ⟨hserving, ⟨-, rfl⟩ | ⟨n, tl, p, hexpd, -, rfl⟩⟩ := serveTimer_cases h
    · exact hsame rfl rfl
    · refine .inr ⟨rfl, n, rfl, ?_⟩
      simp only [TimerMgr.waiting, hserving, hexpd, Option.isSome_none, Option.isSome_some,
        Bool.false_eq_true, if_false, if_true, List.tail_cons]
  | finish h =>
    obtain ⟨n, tl, p, o, hserving, hexpd, -, -, rfl⟩ := finishTimer_cases hs h
    refine .inl ⟨[], ?_⟩
    simp only [TimerMgr.waiting, hserving, hexpd, Option.isSome_none, Option.isSome_some,
      Bool.false_eq_true, if_false, if_true, List.tail_cons, List.append_nil]

theorem mem_waiting_step (hs : Wf s) (he : e ≠ .serve) (h : step s e = some s')
    (hn : n ∈ s.waiting) : n ∈ s'.waiting := by
  obtain ⟨ns, hns⟩ | ⟨heq, -⟩ := waiting_step hs h
  · rw [hns]
    exact List.mem_append_left ns hn
  · exact absurd heq he

end Layer3Switch.Timers
