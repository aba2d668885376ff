import Layer3Switch.Timers.WellFormed

namespace Layer3Switch.Timers

open Lib Lib.Rbtree Function

def TimerMgr.expired (s : TimerMgr) (i : TimerId) : List AppTimer :=
  s.expdTmrs.filter (fun n ↦ n.timer = i)

def Unheld (s : TimerMgr) (i : TimerId) : Prop := ∀ w, ∀ n ∈ s.root w, n.timer ≠ i

/-- The trees hold one node of timer `i`: `n`, in wheel `w`. -/
structure Holds (s : TimerMgr) (i : TimerId) (w : Wheel) (n : AppTimer) : Prop where
  mem : n ∈ s.root w
  timer : n.timer = i
  only : ∀ v, ∀ m ∈ s.root v, m.timer = i → v = w ∧ m = n

/-- The two states agree on all that concerns timer `i`. -/
structure SameFor (i : TimerId) (s s' : TimerMgr) : Prop where
  wheel : ∀ w n, n.timer = i → (n ∈ s'.root w ↔ n ∈ s.root w)
  expired : s'.expired i = s.expired i
  timer : s'.timers i = s.timers i

section Frame

variable {s s' : TimerMgr} {i j : TimerId} {p : TimerT} {w u : Wheel} {n m : AppTimer}
  {r : RbRoot AppTimer.key}

theorem SameFor.unheld (h : SameFor i s s') (hi : Unheld s i) : Unheld s' i := by
  intro w n hn ht
  exact hi w n ((h.wheel w n ht).mp hn) ht

theorem SameFor.holds (h : SameFor i s s') (hi : Holds s i w n) : Holds s' i w n := by
  refine ⟨(h.wheel w n hi.timer).mpr hi.mem, hi.timer, ?_⟩
  intro v m hm ht
  exact hi.only v m ((h.wheel v m ht).mp hm) ht

theorem not_mem_both {v : Wheel} (hnodup : (s.nodes.map AppTimer.id).Nodup)
    (hn : n ∈ s.root v) (hm : m ∈ s.expdTmrs) : n.id ≠ m.id := by
  rw [TimerMgr.nodes, Multiset.map_add, Multiset.nodup_add] at hnodup
  intro heq
  refine Multiset.disjoint_left.mp hnodup.2.2
    (Multiset.mem_map_of_mem _ (Wheels.mem_nodes.mpr ⟨v, hn⟩)) ?_
  rw [heq]
  exact Multiset.mem_map_of_mem _ (Multiset.mem_coe.mpr hm)

theorem wheel_of_id {v : Wheel} (hnodup : (s.root.nodes.map AppTimer.id).Nodup)
    (hn : n ∈ s.root u) (hm : m ∈ s.root v) (hid : n.id = m.id) : u = v := by
  have heq : n = m := Multiset.inj_on_of_nodup_map hnodup n (Wheels.mem_nodes.mpr ⟨u, hn⟩) m
    (Wheels.mem_nodes.mpr ⟨v, hm⟩) hid
  subst heq
  by_contra huv
  obtain ⟨r, -, hr⟩ := erase_of_mem hn (Wheels.id_nodup hnodup u)
  rw [Wheels.nodes_erase hr, Multiset.map_cons, Multiset.nodup_cons] at hnodup
  refine hnodup.1 (Multiset.mem_map_of_mem _ (Wheels.mem_nodes.mpr ⟨v, ?_⟩))
  rwa [update_of_ne (Ne.symm huv)]

theorem mem_update_of_perm {root : Wheels} (hr : (root w).toList.Perm (n :: r.toList))
    (hm : m ≠ n) (v : Wheel) : m ∈ update root w r v ↔ m ∈ root v := by
  by_cases hv : v = w
  · subst hv
    rw [update_self, RbRoot.mem_def, RbRoot.mem_def, hr.mem_iff, List.mem_cons]
    simp [hm]
  · rw [update_of_ne hv]

theorem mem_update_insert {root : Wheels} {v : Wheel} :
    m ∈ update root u ((root u).insert n) v ↔ (v = u ∧ m = n) ∨ m ∈ root v := by
  by_cases hv : v = u
  · subst hv
    simp
  · simp [hv]

theorem ne_of_timer (h : m.timer = i) (h' : n.timer ≠ i) : m ≠ n := by
  rintro rfl
  exact h' h

theorem expired_append_of_ne {l : List AppTimer} (h : n.timer ≠ i) :
    (l ++ [n]).filter (fun n ↦ n.timer = i) = l.filter (fun n ↦ n.timer = i) := by
  simp [List.filter_append, h]

theorem processTimer_sameFor (hs : Wf s) (hn : n ∈ s.root w) (hi : n.timer ≠ i)
    (h : processTimer w n s = some s') : SameFor i s s' := by
  obtain ⟨p, v, r, -, -, hr, ⟨-, rfl⟩ | ⟨u, t, -, rfl⟩⟩ := processTimer_cases hs.wheels_nodup hn h
  · refine ⟨fun v m hm ↦ mem_update_of_perm hr (ne_of_timer hm hi) v, expired_append_of_ne hi, ?_⟩
    exact update_of_ne (Ne.symm hi) _ _
  · refine ⟨fun v m hm ↦ ?_, rfl, update_of_ne (Ne.symm hi) _ _⟩
    rw [mem_update_insert, mem_update_of_perm hr (ne_of_timer hm hi)]
    refine or_iff_right ?_
    rintro ⟨-, rfl⟩
    exact hi hm

theorem armTimer_sameFor (hi : j ≠ i) (h : armTimer j p s = some s') : SameFor i s s' := by
  rcases armTimer_cases h with ⟨-, rfl⟩ | ⟨w, t, -, rfl⟩
  · exact ⟨fun _ _ _ ↦ Iff.rfl, rfl, update_of_ne (Ne.symm hi) _ _⟩
  · refine ⟨fun v m hm ↦ ?_, rfl, update_of_ne (Ne.symm hi) _ _⟩
    rw [mem_update_insert]
    refine or_iff_right ?_
    rintro ⟨-, rfl⟩
    exact hi hm

def CleanStop (s : TimerMgr) (j : TimerId) : Prop :=
  ∀ p a, s.timers j = some p → p.isRunning = true → p.apptimer = some a →
    ∃ w n, p.wheel = some w ∧ n ∈ s.root w ∧ n.id = a ∧ n.timer = j

theorem stopTimer_cases_clean (hs : Wf s) (hc : CleanStop s j) (h : stopTimer j s = some s') :
    ∃ p, s.timers j = some p ∧
      (s' = s ∧ ¬(p.apptimer.isSome ∧ p.isRunning = true) ∨
        ∃ w n r, p.apptimer = some n.id ∧ p.isRunning = true ∧ p.wheel = some w ∧
          n ∈ s.root w ∧ n.timer = j ∧ (s.root w).toList.Perm (n :: r.toList) ∧
          s' = { s with
            root := update s.root w r
            timers := update s.timers j (some { p with isRunning := false })
            unlinked := s.unlinked.erase n.id
            count := s.count - 1 }) := by
  obtain ⟨p, hp, h | ⟨a, w, r, ha, hrun, hw, hr, rfl⟩⟩ := stopTimer_cases h
  · exact ⟨p, hp, .inl h⟩
  obtain ⟨w', n, hw', hn, rfl, hj⟩ := hc p a hp hrun ha
  obtain rfl : w' = w := Option.some.inj (hw'.symm.trans hw)
  obtain ⟨r', hr', hperm⟩ := erase_of_mem hn (Wheels.id_nodup hs.wheels_nodup w')
  rcases hr with hr | ⟨hr, -, -⟩
  · obtain rfl := Option.some.inj (hr'.symm.trans hr)
    exact ⟨p, hp, .inr ⟨w', n, r', ha, hrun, hw, hn, hj, hperm, rfl⟩⟩
  · simp [hr'] at hr

theorem stopTimer_sameFor (hs : Wf s) (hc : CleanStop s j) (hi : j ≠ i)
    (h : stopTimer j s = some s') : SameFor i s s' := by
  obtain ⟨p, -, ⟨rfl, -⟩ | ⟨w, n, r, -, -, -, -, rfl, hr, rfl⟩⟩ := stopTimer_cases_clean hs hc h
  · exact ⟨fun _ _ _ ↦ Iff.rfl, rfl, rfl⟩
  · exact ⟨fun v m hm ↦ mem_update_of_perm hr (ne_of_timer hm hi) v, rfl,
      update_of_ne (Ne.symm hi) _ _⟩

theorem finishTimer_sameFor {mem : Bool} (hs : Wf s) (hi : ∀ n ∈ s.serving, n.timer ≠ i)
    (h : finishTimer mem s = some s') : SameFor i s s' := by
  obtain ⟨n, tl, p, o, hn, htl, -, -, rfl⟩ := finishTimer_cases hs h
  have hni := hi n hn
  refine ⟨fun _ _ _ ↦ Iff.rfl, ?_, update_of_ne (Ne.symm hni) _ _⟩
  simp [TimerMgr.expired, htl, hni]

theorem serviceWheel_invariant {I : TimerMgr → Prop}
    (hproc : ∀ s₁ n s₂, Wf s₁ → s₁.clk = s.clk → I s₁ → n ∈ s₁.root w → n.rt = s.clk.get w →
      processTimer w n s₁ = some s₂ → I s₂)
    (hs : Wf s) (hi : I s) (h : serviceWheel w s = some s') : I s' := by
  unfold serviceWheel at h
  split_ifs at h
  · obtain ⟨⟨s₁, k⟩, h₁, rfl⟩ := Option.map_eq_some_iff.mp h
    refine (processTimers_invariant (I := fun s₁ ↦ (Wf s₁ ∧ s₁.clk = s.clk) ∧ I s₁) ?_
      ⟨⟨hs, rfl⟩, hi⟩ h₁).2
    rintro s₁ n s₂ ⟨⟨hs₁, hc₁⟩, hi₁⟩ hn hrt h₂
    exact ⟨⟨hs₁.processTimer hn h₂, (processTimer_clk hs₁ hn h₂).trans hc₁⟩,
      hproc s₁ n s₂ hs₁ hc₁ hi₁ hn hrt h₂⟩
  · exact Option.some.inj h ▸ hi

theorem updateTimes_invariant {I : TimerMgr → Prop}
    (hclk : ∀ s c, I s → I { s with clk := c })
    (hproc : ∀ s w n s', Wf s → I s → n ∈ s.root w → n.rt = s.clk.get w →
      processTimer w n s = some s' → I s')
    (hs : Wf s) (hi : I s) (h : updateTimes s = some s') : I s' := by
  have hservice (w : Wheel) {s s' : TimerMgr} (hs : Wf s) (hi : I s)
      (h : serviceWheel w s = some s') : I s' := by
    refine serviceWheel_invariant ?_ hs hi h
    intro s₁ n s₂ hs₁ hc₁ hi₁ hn hrt h₂
    exact hproc s₁ w n s₂ hs₁ hi₁ hn (hc₁ ▸ hrt) h₂
  rw [updateTimes_eq hs] at h
  obtain ⟨s₁, h₁, h⟩ := Option.bind_eq_some_iff.mp h
  obtain ⟨s₂, h₂, h⟩ := Option.bind_eq_some_iff.mp h
  obtain ⟨s₃, h₃, h⟩ := Option.bind_eq_some_iff.mp h
  have hs₁ := (hs.clk s.clk.next).serviceWheel h₁ |>.1
  have hs₂ := hs₁.serviceWheel h₂ |>.1
  have hs₃ := hs₂.serviceWheel h₃ |>.1
  have hi₁ := hservice _ (hs.clk _) (hclk s _ hi) h₁
  exact hservice _ hs₃ (hservice _ hs₂ (hservice _ hs₁ hi₁ h₂) h₃) h

end Frame

section Linked

variable {s s' : TimerMgr} {i j : TimerId} {p : TimerT} {w u : Wheel} {n m : AppTimer}
  {r : RbRoot AppTimer.key} {once : Prop}

def Linked (once : Prop) (s : TimerMgr) (i : TimerId) : Prop :=
  (Unheld s i ∧ (∀ p, s.timers i = some p → p.isRunning = false) ∧
      (once → (s.expired i).length ≤ 1)) ∨
    ∃ w n, Holds s i w n ∧
      (∀ p, s.timers i = some p →
        p.isRunning = true ∧ p.wheel = some w ∧ ∀ a, p.apptimer = some a → a = n.id) ∧
      (once → s.expired i = [] ∧ ∃ p, s.timers i = some p ∧ p.apptimer = some n.id)

theorem Linked.sameFor (hi : Linked once s i) (h : SameFor i s s') : Linked once s' i := by
  unfold Linked
  rw [h.expired, h.timer]
  rcases hi with ⟨hu, hi⟩ | ⟨w, n, hh, hi⟩
  · exact .inl ⟨h.unheld hu, hi⟩
  · exact .inr ⟨w, n, h.holds hh, hi⟩

theorem Linked.unheld (hi : Linked once s i) (hp : s.timers i = some p)
    (hrun : p.isRunning = false) : Unheld s i := by
  rcases hi with ⟨hu, -⟩ | ⟨w, n, -, hi, -⟩
  · exact hu
  · rw [(hi p hp).1] at hrun
    simp at hrun

theorem Linked.cleanStop (hi : Linked once s i) : CleanStop s i := by
  intro p a hp hrun ha
  rcases hi with ⟨-, hi, -⟩ | ⟨w, n, hh, hi, -⟩
  · rw [hi p hp] at hrun
    simp at hrun
  · obtain ⟨-, hw, hid⟩ := hi p hp
    exact ⟨w, n, hw, hh.mem, (hid a ha).symm, hh.timer⟩

theorem Wf.not_mem_update (hs : Wf s) (hr : (s.root w).toList.Perm (n :: r.toList)) (v : Wheel) :
    n ∉ update s.root w r v := by
  intro hv
  have hnd := hs.wheels_nodup
  rw [Wheels.nodes_erase hr, Multiset.map_cons, Multiset.nodup_cons] at hnd
  exact hnd.1 (Multiset.mem_map_of_mem _ (Wheels.mem_nodes.mpr ⟨v, hv⟩))

theorem Holds.erase (hh : Holds s i w n) (hs : Wf s)
    (hr : (s.root w).toList.Perm (n :: r.toList)) :
    ∀ v, ∀ m ∈ update s.root w r v, m.timer ≠ i := by
  intro v m hm ht
  by_cases hmn : m = n
  · exact hs.not_mem_update hr v (hmn ▸ hm)
  · exact hmn (hh.only v m ((mem_update_of_perm hr hmn v).mp hm) ht).2

theorem holds_insert {root : Wheels} (h : ∀ v, ∀ m ∈ root v, m.timer ≠ i) (hn : n.timer = i)
    (hroot : s.root = update root u ((root u).insert n)) : Holds s i u n := by
  refine ⟨?_, hn, ?_⟩
  · rw [hroot, mem_update_insert]
    exact .inl ⟨rfl, rfl⟩
  · intro v m hm ht
    rw [hroot, mem_update_insert] at hm
    rcases hm with hm | hm
    · exact hm
    · exact absurd ht (h v m hm)

theorem Linked.processTimer (hi : Linked once s i) (hs : Wf s) (hn : n ∈ s.root w)
    (h : processTimer w n s = some s') : Linked once s' i := by
  by_cases hni : n.timer = i
  case neg => exact hi.sameFor (processTimer_sameFor hs hn hni h)
  subst hni
  rcases hi with ⟨hu, -⟩ | ⟨w', n', hh, hi, ho⟩
  · exact absurd rfl (hu w n hn)
  obtain ⟨rfl, rfl⟩ := hh.only w n hn rfl
  obtain ⟨p, v, r, hp, hv, hr, ⟨-, rfl⟩ | ⟨u, t, -, rfl⟩⟩ := processTimer_cases hs.wheels_nodup hn h
  · refine .inl ⟨hh.erase hs hr, by simp, fun hone ↦ ?_⟩
    have he : s.expired n.timer = [] := (ho hone).1
    simp only [TimerMgr.expired, List.filter_append] at he ⊢
    simp [he]
  · refine .inr ⟨u, { n with ctime := n.ctime &&& wheelMask v, rt := s.clk.get u + t },
      holds_insert (hh.erase hs hr) rfl rfl, ?_, fun hone ↦ ⟨(ho hone).1, ?_⟩⟩
    · simpa using (hi p hp).2.2
    · obtain ⟨q, hq, ha⟩ := (ho hone).2
      obtain rfl := Option.some.inj (hp.symm.trans hq)
      exact ⟨_, update_self _ _ _, ha⟩

theorem linked_of_armTimer (h : armTimer i p s = some s') (hu : Unheld s i)
    (hrun : p.isRunning = false) (ho : once → s.expired i = []) : Linked once s' i := by
  rcases armTimer_cases h with ⟨-, rfl⟩ | ⟨w, t, -, rfl⟩
  · refine .inl ⟨hu, by simp [hrun], fun hone ↦ ?_⟩
    exact (congrArg List.length (ho hone)).trans_le (by simp)
  · exact .inr ⟨w, _, holds_insert hu rfl rfl, by simp,
      fun hone ↦ ⟨ho hone, _, update_self _ _ _, rfl⟩⟩

theorem Linked.stopTimer (hi : Linked once s i) (hs : Wf s) (h : stopTimer i s = some s') :
    Linked once s' i := by
  obtain ⟨p, hp, ⟨rfl, -⟩ | ⟨w, n, r, -, -, -, hn, hni, hr, rfl⟩⟩ :=
    stopTimer_cases_clean hs hi.cleanStop h
  · exact hi
  rcases hi with ⟨hu, -⟩ | ⟨w', n', hh, hi, ho⟩
  · exact absurd hni (hu w n hn)
  obtain ⟨rfl, rfl⟩ := hh.only w n hn hni
  refine .inl ⟨hh.erase hs hr, by simp, fun hone ↦ ?_⟩
  exact (congrArg List.length (ho hone).1).trans_le (by simp)

theorem Linked.finishTimer {mem : Bool} (hi : Linked once s i) (hs : Wf s)
    (h : finishTimer mem s = some s') : Linked once s' i := by
  by_cases hserv : ∀ n ∈ s.serving, n.timer ≠ i
  · exact hi.sameFor (finishTimer_sameFor hs hserv h)
  obtain ⟨n, tl, p, o, hn, htl, hp, ho, rfl⟩ := finishTimer_cases hs h
  have hni : n.timer = i := by simpa [hn] using hserv
  subst hni
  have hexp : s.expired n.timer = n :: tl.filter (fun m ↦ m.timer = n.timer) := by
    simp [TimerMgr.expired, htl]
  rcases hi with ⟨hu, hrun, hone⟩ | ⟨w, m, hh, hi, hone⟩
  · refine .inl ⟨hu, ?_, fun h1 ↦ ?_⟩
    · intro q hq
      rcases ho with rfl | rfl
      · simp at hq
      · simp only [update_self, Option.some.injEq] at hq
        exact hq ▸ hrun p hp
    · have := hone h1
      rw [hexp, List.length_cons] at this
      exact Nat.le_of_succ_le this
  · refine .inr ⟨w, m, ⟨hh.mem, hh.timer, hh.only⟩, ?_, fun h1 ↦ ?_⟩
    · intro q hq
      rcases ho with rfl | rfl
      · simp at hq
      · simp only [update_self, Option.some.injEq] at hq
        subst hq
        exact ⟨(hi p hp).1, (hi p hp).2.1, by simp⟩
    · have := (hone h1).1
      rw [hexp] at this
      simp at this

def ArmIdle (once : Prop) (s : TimerMgr) (e : Event) : Prop :=
  ∀ i secs, e = .modTimer (some i) secs true →
    (∀ p, s.timers i = some p → p.isRunning = false) ∧ (once → s.expired i = [])

theorem Wf.unheld_nextTimer (hs : Wf s) : Unheld s s.nextTimer := by
  intro w n hn ht
  exact absurd (hs.timer_lt n (TimerMgr.mem_nodes.mpr (.inl ⟨w, hn⟩))) (by simp [ht])

theorem Wf.expired_nextTimer (hs : Wf s) : s.expired s.nextTimer = [] := by
  refine List.filter_eq_nil_iff.mpr fun n hn ↦ ?_
  have := hs.timer_lt n (TimerMgr.mem_nodes.mpr (.inr hn))
  simpa using Nat.ne_of_lt this

theorem Linked.step {e : Event} (hs : Wf s) (hi : ∀ i, Linked once s i) (hc : ArmIdle once s e)
    (h : step s e = some s') (i : TimerId) : Linked once s' i := by
  cases step_cases h with
  | setupFail handler data mem k => exact (hi i).sameFor ⟨fun _ _ _ ↦ Iff.rfl, rfl, rfl⟩
  | setup handler data mem k =>
    by_cases hii : i = s.nextTimer
    · subst hii
      refine .inl ⟨hs.unheld_nextTimer, by simp, fun _ ↦ ?_⟩
      exact (congrArg List.length hs.expired_nextTimer).trans_le (by simp)
    · exact (hi i).sameFor ⟨fun _ _ _ ↦ Iff.rfl, rfl, update_of_ne hii _ _⟩
  | startFail ticks data handler flags mem memApp k =>
    exact (hi i).sameFor ⟨fun _ _ _ ↦ Iff.rfl, rfl, rfl⟩
  | @start _ _ _ _ _ _ k _ _ h =>
    by_cases hii : s.nextTimer = i
    · subst hii
      exact linked_of_armTimer h hs.unheld_nextTimer rfl fun _ ↦ hs.expired_nextTimer
    · have hi' : Linked once { s with indx := k, nextTimer := s.nextTimer + 1 } i :=
        (hi i).sameFor ⟨fun _ _ _ ↦ Iff.rfl, rfl, rfl⟩
      exact hi'.sameFor (armTimer_sameFor hii h)
  | modFail => exact hi i
  | @mod j secs p _ hp h =>
    by_cases hji : j = i
    · subst hji
      obtain ⟨hrun, ho⟩ := hc j secs rfl
      exact linked_of_armTimer h ((hi j).unheld hp (hrun p hp)) (hrun p hp) ho
    · exact (hi i).sameFor (armTimer_sameFor hji h)
  | @stop j e s' _ h =>
    by_cases hji : j = i
    · subst hji
      exact (hi j).stopTimer hs h
    · exact (hi i).sameFor (stopTimer_sameFor hs (hi j).cleanStop hji h)
  | tick h =>
    refine updateTimes_invariant (I := fun s ↦ Linked once s i) ?_ ?_ hs (hi i) h
    · exact fun s c hi ↦ hi.sameFor ⟨fun _ _ _ ↦ Iff.rfl, rfl, rfl⟩
    · exact fun s w n s' hs hi hn _ h ↦ hi.processTimer hs hn h
  | serve h =>
    obtain ⟨-, ⟨-, rfl⟩ | ⟨n, tl, p, -, -, rfl⟩⟩ := serveTimer_cases h
    · exact hi i
    · exact (hi i).sameFor ⟨fun _ _ _ ↦ Iff.rfl, rfl, rfl⟩
  | finish h => exact (hi i).finishTimer hs h

theorem linked_init (once : Prop) (i : TimerId) : Linked once initTimerMgr i :=
  .inl ⟨fun _ _ hn ↦ absurd hn RbRoot.not_mem_empty, by simp [initTimerMgr],
    fun _ ↦ by simp [TimerMgr.expired, initTimerMgr]⟩

theorem Linked.run {C : TimerMgr → Event → Prop}
    (hC : ∀ s e, (∀ i, Linked once s i) → C s e → ArmIdle once s e)
    {es : List Event} (hs : Wf s) (hi : ∀ i, Linked once s i) (h : Run Timers.step C s es s') :
    Wf s' ∧ ∀ i, Linked once s' i := by
  refine h.invariant (I := fun s ↦ Wf s ∧ ∀ i, Linked once s i) ?_ ⟨hs, hi⟩
  intro s e s' hi hc h
  exact ⟨hi.1.step h, Linked.step hi.1 hi.2 (hC s e hi.2 hc) h⟩

end Linked

end Layer3Switch.Timers
