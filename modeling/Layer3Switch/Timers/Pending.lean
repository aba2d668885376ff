import Layer3Switch.Timers.Linked

namespace Layer3Switch.Timers

open Lib Lib.Rbtree Function

variable {s s' : TimerMgr} {i : TimerId} {p : TimerT} {w : Wheel} {n : AppTimer} {e : Event}

theorem updateTimes_refs (hs : Wf s) (h : updateTimes s = some s') : s'.refs = s.refs := by
  refine updateTimes_invariant (I := fun s₁ ↦ s₁.refs = s.refs) ?_ ?_ hs rfl h
  · intro s₁ c h₁
    exact h₁
  · intro s₁ w n s₂ hs₁ h₁ hn _ h₂
    rw [processTimer_refs hs₁.wheels_nodup hn h₂, h₁]

theorem step_refs (hs : Wf s) (h : step s e = some s') :
    s'.refs ≤ s.refs ∨ ∃ i, s'.refs = (s.nextNode, i) ::ₘ s.refs ∧
      ((∃ secs, e = .modTimer (some i) secs true) ∨ i = s.nextTimer) := by
  cases step_cases h with
  | setupFail handler data mem k => exact .inl le_rfl
  | setup handler data mem k => exact .inl le_rfl
  | startFail ticks data handler flags mem memApp k => exact .inl le_rfl
  | start h =>
    rcases armTimer_refs h with he | he
    · exact .inl he.le
    · exact .inr ⟨_, he, .inr rfl⟩
  | modFail => exact .inl le_rfl
  | mod hp h =>
    rcases armTimer_refs h with he | he
    · exact .inl he.le
    · exact .inr ⟨_, he, .inl ⟨_, rfl⟩⟩
  | stop _ h => exact .inl (stopTimer_refs h)
  | tick h => exact .inl (updateTimes_refs hs h).le
  | serve h =>
    obtain ⟨-, ⟨-, rfl⟩ | ⟨n, tl, p, -, -, rfl⟩⟩ := serveTimer_cases h
    · exact .inl le_rfl
    · exact .inl le_rfl
  | finish h => exact .inl (finishTimer_refs hs h)

def OnlyNode (s : TimerMgr) (i : TimerId) (a : NodeId) :
    Prop := ∀ n ∈ s.nodes, n.timer = i → n.id = a

theorem onlyNode_iff_refs {a : NodeId} : OnlyNode s i a ↔ ∀ x ∈ s.refs, x.2 = i → x.1 = a := by
  simp only [OnlyNode, TimerMgr.refs, Multiset.mem_map, forall_exists_index, and_imp,
    forall_apply_eq_imp_iff₂]

theorem OnlyNode.step {a : NodeId} (ho : OnlyNode s i a) (hs : Wf s) (hi : i < s.nextTimer)
    (he : ∀ secs, e ≠ .modTimer (some i) secs true) (h : step s e = some s') :
    OnlyNode s' i a := by
  rw [onlyNode_iff_refs] at ho ⊢
  intro x hx hxi
  rcases step_refs hs h with hle | ⟨j, heq, hj⟩
  · exact ho x (Multiset.mem_of_le hle hx) hxi
  · rw [heq, Multiset.mem_cons] at hx
    rcases hx with rfl | hx
    · obtain rfl : j = i := hxi
      rcases hj with ⟨secs, rfl⟩ | rfl
      · exact absurd rfl (he secs)
      · exact absurd hi (lt_irrefl _)
    · exact ho x hx hxi

theorem armTimer_nextTimer (h : armTimer i p s = some s') : s'.nextTimer = s.nextTimer := by
  rcases armTimer_cases h with ⟨-, rfl⟩ | ⟨w, t, -, rfl⟩
  · rfl
  · rfl

theorem nextTimer_le_step (hs : Wf s) (h : step s e = some s') : s.nextTimer ≤ s'.nextTimer := by
  cases step_cases h with
  | setupFail handler data mem k => exact le_rfl
  | setup handler data mem k => exact Nat.le_succ _
  | startFail ticks data handler flags mem memApp k => exact le_rfl
  | start h => exact (Nat.le_succ _).trans_eq (armTimer_nextTimer h).symm
  | modFail => exact le_rfl
  | mod hp h => exact (armTimer_nextTimer h).ge
  | stop _ h =>
    obtain ⟨p, -, ⟨rfl, -⟩ | ⟨a, w, r, -, -, -, -, rfl⟩⟩ := stopTimer_cases h
    · exact le_rfl
    · exact le_rfl
  | tick h =>
    refine updateTimes_invariant (I := fun s₁ ↦ s.nextTimer ≤ s₁.nextTimer) ?_ ?_ hs le_rfl h
    · intro s₁ c h₁
      exact h₁
    · intro s₁ w n s₂ hs₁ h₁ hn _ h₂
      obtain ⟨p, v, r, -, -, -, ⟨-, rfl⟩ | ⟨u, t, -, rfl⟩⟩ :=
        processTimer_cases hs₁.wheels_nodup hn h₂
      · exact h₁
      · exact h₁
  | serve h =>
    obtain ⟨-, ⟨-, rfl⟩ | ⟨n, tl, p, -, -, rfl⟩⟩ := serveTimer_cases h
    · exact le_rfl
    · exact le_rfl
  | finish h =>
    obtain ⟨n, tl, p, o, -, -, -, -, rfl⟩ := finishTimer_cases hs h
    exact le_rfl

theorem OnlyNode.run {a : NodeId} {es : List Event} (ho : OnlyNode s i a) (hs : Wf s)
    (hi : i < s.nextTimer)
    (h : Run Timers.step (fun _ e ↦ ∀ secs, e ≠ .modTimer (some i) secs true) s es s') :
    OnlyNode s' i a := by
  refine (h.invariant (I := fun s ↦ Wf s ∧ i < s.nextTimer ∧ OnlyNode s i a) ?_ ⟨hs, hi, ho⟩).2.2
  rintro s₁ e s₂ ⟨hs₁, hi₁, ho₁⟩ he h₁
  exact ⟨hs₁.step h₁, hi₁.trans_le (nextTimer_le_step hs₁ h₁), ho₁.step hs₁ hi₁ he h₁⟩

def AtMostOnce (s : TimerMgr) : Prop :=
  ∀ i, s.nodes.countP (fun n ↦ n.timer = i) ≤ 1 ∧
    ∀ p, s.timers i = some p → p.isRunning = true →
      ∃ w n, p.wheel = some w ∧ n ∈ s.root w ∧ n.timer = i ∧ p.apptimer = some n.id

def ArmsIdle (s : TimerMgr) (e : Event) : Prop :=
  ∀ i secs, e = .modTimer (some i) secs true → ∀ n ∈ s.nodes, n.timer ≠ i

theorem countP_expdTmrs (s : TimerMgr) (i : TimerId) :
    (Multiset.ofList s.expdTmrs).countP (fun n ↦ n.timer = i) = (s.expired i).length := by
  rw [Multiset.coe_countP, List.countP_eq_length_filter]
  rfl

theorem Unheld.countP (h : Unheld s i) : s.root.nodes.countP (fun n ↦ n.timer = i) = 0 := by
  refine Multiset.countP_eq_zero.mpr fun n hn ↦ ?_
  obtain ⟨w, hw⟩ := Wheels.mem_nodes.mp hn
  exact h w n hw

theorem Holds.countP (h : Holds s i w n) (hs : Wf s) :
    s.root.nodes.countP (fun n ↦ n.timer = i) ≤ 1 := by
  have hnd : s.root.nodes.Nodup := Multiset.Nodup.of_map _ hs.wheels_nodup
  have hle : s.root.nodes.filter (fun n ↦ n.timer = i) ≤ {n} := by
    refine (Multiset.le_iff_subset (hnd.filter _)).mpr fun m hm ↦ ?_
    obtain ⟨hm, ht⟩ := Multiset.mem_filter.mp hm
    obtain ⟨v, hv⟩ := Wheels.mem_nodes.mp hm
    exact Multiset.mem_singleton.mpr (h.only v m hv ht).2
  rw [Multiset.countP_eq_card_filter]
  exact (Multiset.card_le_card hle).trans_eq (Multiset.card_singleton n)

theorem atMostOnce_of_linked (hs : Wf s) (h : ∀ i, Linked True s i) : AtMostOnce s := by
  intro i
  rw [TimerMgr.nodes, Multiset.countP_add, countP_expdTmrs]
  rcases h i with ⟨hu, hrun, he⟩ | ⟨w, n, hh, hp, ho⟩
  · rw [hu.countP]
    refine ⟨by simpa using he, fun p hp hr ↦ ?_⟩
    simp [hrun p hp] at hr
  · obtain ⟨he, p, hp', ha⟩ := ho trivial
    refine ⟨by simpa [he] using hh.countP hs, ?_⟩
    intro q hq _
    obtain rfl := Option.some.inj (hp'.symm.trans hq)
    exact ⟨w, n, (hp p hq).2.1, hh.mem, hh.timer, ha⟩

theorem armIdle_of_armsIdle (hl : ∀ i, Linked True s i) (h : ArmsIdle s e) : ArmIdle True s e := by
  intro i secs he
  have hi := h i secs he
  constructor
  · intro p hp
    rcases hl i with ⟨-, hrun, -⟩ | ⟨w, n, hh, -⟩
    · exact hrun p hp
    · exact absurd hh.timer (hi n (TimerMgr.mem_nodes.mpr (.inl ⟨w, hh.mem⟩)))
  · intro _
    refine List.filter_eq_nil_iff.mpr fun n hn ↦ ?_
    simpa using hi n (TimerMgr.mem_nodes.mpr (.inr hn))

theorem linked_of_run {es : List Event} (h : Run step ArmsIdle initTimerMgr es s) :
    Wf s ∧ ∀ i, Linked True s i :=
  Linked.run (fun _ _ ↦ armIdle_of_armsIdle) wf_init (linked_init True) h

theorem onlyNode_of_armTimer (h : armTimer i p s = some s') (hi : ∀ n ∈ s.nodes, n.timer ≠ i) :
    OnlyNode s' i s.nextNode := by
  have hi' : ∀ x ∈ s.refs, x.2 ≠ i := by
    simpa only [TimerMgr.refs, Multiset.mem_map, forall_exists_index, and_imp,
      forall_apply_eq_imp_iff₂] using hi
  rw [onlyNode_iff_refs]
  intro x hx hxi
  rcases armTimer_refs h with he | he
  · exact absurd hxi (hi' x (he ▸ hx))
  · rw [he, Multiset.mem_cons] at hx
    rcases hx with rfl | hx
    · rfl
    · exact absurd hxi (hi' x hx)

theorem not_onlyNode_of_armTimer (hs : Wf s) (h : armTimer i p s = some s') (hn : n ∈ s.nodes)
    (hni : n.timer = i) : ¬OnlyNode s' i s.nextNode := by
  rw [onlyNode_iff_refs]
  intro ho
  have hx : (n.id, n.timer) ∈ s.refs := Multiset.mem_map_of_mem _ hn
  have hx' : (n.id, n.timer) ∈ s'.refs := by
    rcases armTimer_refs h with he | he
    · rwa [he]
    · rw [he]
      exact Multiset.mem_cons_of_mem hx
  exact absurd (ho _ hx' hni) (Nat.ne_of_lt (hs.id_lt n hn))

/-- When `mod_timer` is called only on timers without a node, no timer ever has
two, and a running timer knows its node. The condition is sharp: the node just
made is the timer's only one exactly when it is met, and it then stays the only
one until the next `mod_timer` of that timer. -/
theorem pending_at_most_once (es : List Event) (s : TimerMgr)
    (h : Run step ArmsIdle initTimerMgr es s) :
    AtMostOnce s ∧
    ∀ i secs s₁, step s (.modTimer (some i) secs true) = some s₁ →
      (ArmsIdle s (.modTimer (some i) secs true) ↔
        AtMostOnce s₁ ∧ OnlyNode s₁ i s.nextNode) ∧
      (ArmsIdle s (.modTimer (some i) secs true) →
        ∀ es' s₂, Run step (fun _ e ↦ ∀ secs, e ≠ .modTimer (some i) secs true) s₁ es' s₂ →
          OnlyNode s₂ i s.nextNode) := by
  obtain ⟨hs, hl⟩ := linked_of_run h
  refine ⟨atMostOnce_of_linked hs hl, fun i secs s₁ h₁ ↦ ?_⟩
  have hs₁ := hs.step h₁
  cases step_cases h₁ with
  | modFail hf => simp at hf
  | stop he => simp at he
  | @mod _ _ p _ hp harm =>
    have hi₁ : i < s₁.nextTimer := armTimer_nextTimer harm ▸ hs.lt_of_some hp
    refine ⟨⟨fun hc ↦ ⟨?_, ?_⟩, ?_⟩, fun hc es' s₂ h₂ ↦ ?_⟩
    · exact atMostOnce_of_linked hs₁ (Linked.step hs hl (armIdle_of_armsIdle hl hc) h₁)
    · exact onlyNode_of_armTimer harm (hc i secs rfl)
    · rintro ⟨-, ho⟩ j secs' he n hn hni
      obtain ⟨rfl, -⟩ : i = j ∧ secs = secs' := by simpa using he
      exact not_onlyNode_of_armTimer hs harm hn hni ho
    · exact (onlyNode_of_armTimer harm (hc i secs rfl)).run hs₁ hi₁ h₂

theorem pending_at_most_once_first_arm :
    ∃ s s₁ s₂, Run step ArmsIdle initTimerMgr [.setupTimer (some 0) 0 true] s ∧
      step s (.modTimer (some 0) 1 true) = some s₁ ∧ step s₁ .tick = some s₂ ∧
      AtMostOnce s ∧ AtMostOnce s₁ ∧ OnlyNode s₂ 0 0 := by
  have hrun : Run step ArmsIdle initTimerMgr [.setupTimer (some 0) 0 true]
      (setupTimer (some 0) 0 true initTimerMgr).1 :=
    .one (by intro i secs he; simp at he) rfl
  have hc : ArmsIdle (setupTimer (some 0) 0 true initTimerMgr).1 (.modTimer (some 0) 1 true) := by
    intro i secs _ n hn
    obtain ⟨w, hw⟩ | hn := TimerMgr.mem_nodes.mp hn
    · exact absurd hw RbRoot.not_mem_empty
    · exact absurd hn List.not_mem_nil
  obtain ⟨honce, hmod⟩ := pending_at_most_once _ _ hrun
  have hnext := hmod 0 1 _ rfl
  exact ⟨_, _, _, hrun, rfl, rfl, honce, (hnext.1.mp hc).1,
    hnext.2 hc [.tick] _ (.one (by simp) rfl)⟩

/-- A timer set up, armed for one second and armed again for two has two
nodes. -/
theorem pending_twice : ∃ es s, Run step (fun _ _ ↦ True) initTimerMgr es s ∧ ¬AtMostOnce s := by
  refine ⟨[.setupTimer (some 0) 0 true, .modTimer (some 0) 1 true, .modTimer (some 0) 2 true], _,
    run_of_exec rfl, fun h ↦ ?_⟩
  exact absurd (h 0).1 (by decide)

end Layer3Switch.Timers
