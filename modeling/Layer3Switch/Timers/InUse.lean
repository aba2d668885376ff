import Layer3Switch.Timers.Cancel
import Layer3Switch.Timers.Course

namespace Layer3Switch.Timers

open Lib Lib.Rbtree Function

/-- The timers in `T` are there, and every node, in a wheel or on `expd_tmrs`, is
of one of them. -/
structure InUse (T : TimerId → Prop) (s : TimerMgr) : Prop where
  wf : Wf s
  node : ∀ x ∈ s.refs, T x.2
  lasting : ∀ i, T i → Lasting s i

def Gone (s : TimerMgr) (i : TimerId) : Prop := ∀ x ∈ s.refs, x.2 ≠ i

instance (s : TimerMgr) (i : TimerId) : Decidable (Gone s i) :=
  inferInstanceAs (Decidable (∀ x ∈ s.refs, x.2 ≠ i))

section InUse

variable {T T' : TimerId → Prop} {s s' : TimerMgr} {i : TimerId} {e : Event}

theorem inUse_init : InUse (fun _ ↦ False) initTimerMgr where
  wf := wf_init
  node := by simp [TimerMgr.refs, TimerMgr.nodes, Wheels.nodes, initTimerMgr]
  lasting _ h := h.elim

theorem InUse.congr (h : InUse T s) (hT : ∀ i, T' i ↔ T i) : InUse T' s :=
  ⟨h.wf, fun x hx ↦ (hT x.2).mpr (h.node x hx), fun i hi ↦ h.lasting i ((hT i).mp hi)⟩

theorem InUse.give_up (h : InUse T s) (hle : ∀ i, T' i → T i)
    (hT : ∀ i, T i → T' i ∨ Gone s i) : InUse T' s := by
  refine ⟨h.wf, ?_, fun i hi ↦ h.lasting i (hle i hi)⟩
  intro x hx
  obtain hx' | hgone := hT x.2 (h.node x hx)
  · exact hx'
  · exact absurd rfl (hgone x hx)

theorem InUse.step_le (h : InUse T s) (hs : step s e = some s') (hle : s'.refs ≤ s.refs) :
    InUse T s' :=
  ⟨h.wf.step hs, fun x hx ↦ h.node x (Multiset.mem_of_le hle hx),
    fun i hi ↦ (h.lasting i hi).step h.wf hs⟩

theorem step_modTimer {timer : Option TimerId} {secs : U32} {mem : Bool}
    (hm : step s (.modTimer timer secs mem) = some s') :
    s' = s ∨ ∃ i p, timer = some i ∧ s.timers i = some p ∧
      armTimer i { p with rmt := secs * tmGetTicksPerSecond } s = some s' := by
  obtain ⟨⟨_, r⟩, h, rfl⟩ := Option.map_eq_some_iff.mp hm
  obtain ⟨hs, -⟩ | ⟨i, p, hi, -, hp, harm⟩ := modTimer_cases h
  · exact .inl hs
  · exact .inr ⟨i, p, hi, hp, harm⟩

theorem modTimer_refs {timer : Option TimerId} {secs : U32} {mem : Bool}
    (hm : step s (.modTimer timer secs mem) = some s') :
    s'.refs = s.refs ∨ ∃ i, timer = some i ∧ s'.refs = (s.nextNode, i) ::ₘ s.refs := by
  obtain rfl | ⟨i, p, hi, -, harm⟩ := step_modTimer hm
  · exact .inl rfl
  · exact (armTimer_refs harm).imp id fun he ↦ ⟨i, hi, he⟩

theorem delTimer_refs (hd : step s (.delTimer i) = some s') : s'.refs ≤ s.refs :=
  stopTimer_refs ((delTimer_eq_stopTimer i s).symm.trans hd)

theorem InUse.modTimer {timer : Option TimerId} {secs : U32} {mem : Bool}
    (h : InUse T s) (ht : ∀ i, timer = some i → T i)
    (hm : step s (.modTimer timer secs mem) = some s') : InUse T s' := by
  refine ⟨h.wf.step hm, ?_, fun i hi ↦ (h.lasting i hi).step h.wf hm⟩
  intro x hx
  obtain he | ⟨i, hi, he⟩ := modTimer_refs hm
  · exact h.node x (he ▸ hx)
  · rw [he, Multiset.mem_cons] at hx
    obtain rfl | hx := hx
    · exact ht i hi
    · exact h.node x hx

theorem InUse.delTimer (h : InUse T s) (hd : step s (.delTimer i) = some s') : InUse T s' :=
  h.step_le hd (delTimer_refs hd)

theorem InUse.updateTimes (h : InUse T s) (ht : updateTimes s = some s') : InUse T s' :=
  h.step_le (e := .tick) ht (updateTimes_refs h.wf ht).le

theorem InUse.serveTimer (h : InUse T s) (hs : serveTimer s = some s') : InUse T s' := by
  refine h.step_le (e := .serve) hs ?_
  obtain ⟨-, ⟨-, rfl⟩ | ⟨n, tl, p, -, -, rfl⟩⟩ := serveTimer_cases hs
  · exact le_rfl
  · exact le_rfl

theorem InUse.finishTimer {mem : Bool} (h : InUse T s) (hf : finishTimer mem s = some s') :
    InUse T s' :=
  h.step_le (e := .finish mem) hf (finishTimer_refs h.wf hf)

theorem InUse.serving (h : InUse T s) {n : AppTimer} (hn : s.serving = some n) : T n.timer := by
  have hmem : n ∈ s.expdTmrs := List.mem_of_mem_head? (h.wf.serving_head n hn)
  exact h.node (n.id, n.timer) (Multiset.mem_map_of_mem _ (TimerMgr.mem_nodes.mpr (.inr hmem)))

end InUse

/-- Every node of timer `i` is the one that the timer itself names, so that
`del_timer` finds it. -/
def Revocable (s : TimerMgr) (i : TimerId) : Prop :=
  ∀ n ∈ s.nodes, n.timer = i → ∃ p ∈ s.timers i, p.isRunning = true ∧ p.apptimer = some n.id ∧
    ∃ w ∈ p.wheel, n ∈ s.root w

instance (s : TimerMgr) (i : TimerId) : Decidable (Revocable s i) :=
  inferInstanceAs (Decidable (∀ n ∈ s.nodes, n.timer = i → ∃ p ∈ s.timers i, p.isRunning = true ∧
    p.apptimer = some n.id ∧ ∃ w ∈ p.wheel, n ∈ s.root w))

section Revocable

variable {s s' : TimerMgr} {i j : TimerId} {n : AppTimer} {v w : Wheel}

theorem gone_iff_nodes : Gone s i ↔ ∀ n ∈ s.nodes, n.timer ≠ i := by
  simp only [Gone, TimerMgr.refs, Multiset.mem_map, forall_exists_index, and_imp,
    forall_apply_eq_imp_iff₂]

theorem Gone.revocable (h : Gone s i) : Revocable s i :=
  fun n hn hni ↦ absurd hni (gone_iff_nodes.mp h n hn)

theorem Revocable.gone {p : TimerT} (h : Revocable s i) (hp : s.timers i = some p)
    (hrun : p.isRunning = false) : Gone s i := by
  refine gone_iff_nodes.mpr ?_
  intro n hn hni
  obtain ⟨p', hp', hrun', -⟩ := h n hn hni
  obtain rfl := Option.some.inj (hp.symm.trans hp')
  exact Bool.false_ne_true (hrun.symm.trans hrun')

theorem stopTimer_mem (h : stopTimer j s = some s') (hn : n ∈ s'.root v) : n ∈ s.root v := by
  obtain ⟨p, -, ⟨rfl, -⟩ | ⟨a, w, r, -, -, -, hcase, rfl⟩⟩ := stopTimer_cases h
  · exact hn
  by_cases hv : v = w
  case neg => simpa only [update_of_ne hv] using hn
  subst hv
  simp only [update_self] at hn
  obtain hr | ⟨-, -, rfl⟩ := hcase
  · obtain ⟨m, -, -, hperm⟩ := erase_eq_some hr
    exact RbRoot.mem_def.mpr (hperm.mem_iff.mpr (List.mem_cons_of_mem _ (RbRoot.mem_def.mp hn)))
  · simp at hn

theorem stopTimer_mem_nodes (h : stopTimer j s = some s') (hn : n ∈ s'.nodes) : n ∈ s.nodes := by
  refine TimerMgr.mem_nodes.mpr ((TimerMgr.mem_nodes.mp hn).imp ?_ ?_)
  · rintro ⟨v, hv⟩
    exact ⟨v, stopTimer_mem h hv⟩
  · exact fun hexp ↦ stopTimer_expdTmrs h ▸ hexp

theorem Revocable.delTimer (hs : Wf s) (hr : Revocable s i)
    (hd : step s (.delTimer i) = some s') : Gone s' i := by
  have h : stopTimer i s = some s' := (delTimer_eq_stopTimer i s).symm.trans hd
  refine gone_iff_nodes.mpr ?_
  intro n hn hni
  obtain ⟨p, hp, ⟨rfl, hno⟩ | ⟨a, w, r, ha, -, hw, hcase, rfl⟩⟩ := stopTimer_cases h
  · obtain ⟨p', hp', hrun, ha, -⟩ := hr n hn hni
    obtain rfl := Option.some.inj (hp.symm.trans hp')
    exact hno ⟨Option.isSome_iff_exists.mpr ⟨_, ha⟩, hrun⟩
  · -- the node that is left would be the one in the wheel that the timer names
    obtain ⟨p', hp', -, ha', w', hw', hmem⟩ := hr n (stopTimer_mem_nodes h hn) hni
    obtain rfl := Option.some.inj (hp.symm.trans hp')
    obtain rfl := Option.some.inj (ha.symm.trans ha')
    obtain rfl := Option.some.inj (hw.symm.trans hw')
    obtain ⟨r', hr', hperm⟩ := erase_of_mem hmem (Wheels.id_nodup hs.wheels_nodup w)
    obtain hcase | ⟨hnone, -, -⟩ := hcase
    · obtain rfl := Option.some.inj (hcase.symm.trans hr')
      obtain ⟨v, hv⟩ | hexp := TimerMgr.mem_nodes.mp hn
      · exact hs.not_mem_update hperm v hv
      · exact not_mem_both hs.id_nodup hmem hexp rfl
    · cases hnone.symm.trans hr'

theorem Revocable.delTimer_ne (hs : Wf s) (hr : Revocable s i) (hj : j ≠ i)
    (hd : step s (.delTimer j) = some s') : Revocable s' i := by
  have h : stopTimer j s = some s' := (delTimer_eq_stopTimer j s).symm.trans hd
  intro n hn hni
  obtain ⟨p, hp, hrun, ha, w, hw, hmem⟩ := hr n (stopTimer_mem_nodes h hn) hni
  have htimers : s'.timers i = s.timers i := by
    obtain ⟨_, -, ⟨rfl, -⟩ | ⟨_, _, _, -, -, -, -, rfl⟩⟩ := stopTimer_cases h
    · rfl
    · exact update_of_ne (Ne.symm hj) _ _
  refine ⟨p, htimers.trans hp, hrun, ha, w, hw, ?_⟩
  obtain ⟨v, hv⟩ | hexp := TimerMgr.mem_nodes.mp hn
  · exact wheel_of_id hs.wheels_nodup (stopTimer_mem h hv) hmem rfl ▸ hv
  · exact absurd rfl (not_mem_both hs.id_nodup hmem (stopTimer_expdTmrs h ▸ hexp))

theorem Gone.modTimer {secs : U32} {mem : Bool} (hg : Gone s i)
    (hm : step s (.modTimer (some i) secs mem) = some s') : Revocable s' i := by
  have hnodes := gone_iff_nodes.mp hg
  obtain rfl | ⟨j, p, hj, -, harm⟩ := step_modTimer hm
  · exact hg.revocable
  obtain rfl := Option.some.inj hj
  obtain ⟨-, rfl⟩ | ⟨w, t, -, rfl⟩ := armTimer_cases harm
  · exact Gone.revocable (gone_iff_nodes.mpr hnodes)
  · intro n hn hni
    obtain ⟨v, hv⟩ | hexp := TimerMgr.mem_nodes.mp hn
    · obtain ⟨rfl, rfl⟩ | hv := mem_update_insert.mp hv
      · exact ⟨_, update_self _ _ _, rfl, rfl, v, rfl, mem_update_insert.mpr (.inl ⟨rfl, rfl⟩)⟩
      · exact absurd hni (hnodes n (TimerMgr.mem_nodes.mpr (.inl ⟨v, hv⟩)))
    · exact absurd hni (hnodes n (TimerMgr.mem_nodes.mpr (.inr hexp)))

theorem Revocable.modTimer_ne {timer : Option TimerId} {secs : U32} {mem : Bool}
    (hr : Revocable s i) (hne : timer ≠ some i)
    (hm : step s (.modTimer timer secs mem) = some s') : Revocable s' i := by
  obtain rfl | ⟨j, p, rfl, -, harm⟩ := step_modTimer hm
  · exact hr
  have hsame := armTimer_sameFor (fun hji ↦ hne (congrArg some hji)) harm
  intro n hn hni
  have hold : n ∈ s.nodes := by
    refine TimerMgr.mem_nodes.mpr ((TimerMgr.mem_nodes.mp hn).imp ?_ ?_)
    · rintro ⟨v, hv⟩
      exact ⟨v, (hsame.wheel v n hni).mp hv⟩
    · intro hexp
      have hmem : n ∈ s.expired i :=
        hsame.expired ▸ List.mem_filter.mpr ⟨hexp, decide_eq_true hni⟩
      exact (List.mem_filter.mp hmem).1
  obtain ⟨p, hp, hrun, ha, w, hw, hmem⟩ := hr n hold hni
  exact ⟨p, hsame.timer.trans hp, hrun, ha, w, hw, (hsame.wheel w n hni).mpr hmem⟩

theorem Gone.modTimer_ne {timer : Option TimerId} {secs : U32} {mem : Bool} (hg : Gone s i)
    (hne : timer ≠ some i) (hm : step s (.modTimer timer secs mem) = some s') : Gone s' i := by
  intro x hx hxi
  obtain he | ⟨j, hj, he⟩ := modTimer_refs hm
  · exact hg x (he ▸ hx) hxi
  · rw [he, Multiset.mem_cons] at hx
    obtain rfl | hx := hx
    · exact hne (hj.trans (congrArg some hxi))
    · exact hg x hx hxi

theorem Gone.delTimer (hg : Gone s i) (hd : step s (.delTimer j) = some s') : Gone s' i :=
  fun x hx ↦ hg x (Multiset.mem_of_le (delTimer_refs hd) hx)

theorem setupTimer_refs (handler : Option ℕ) (data : ℕ) (mem : Bool) :
    (setupTimer handler data mem s).1.refs = s.refs := by
  obtain ⟨k, -, hk⟩ | ⟨k, -, hk⟩ := setupTimer_cases handler data mem s
  · rw [hk]
    rfl
  · rw [hk]
    rfl

theorem Gone.setupTimer (hg : Gone s i) (handler : Option ℕ) (data : ℕ) (mem : Bool) :
    Gone (setupTimer handler data mem s).1 i :=
  fun x hx ↦ hg x (setupTimer_refs handler data mem ▸ hx)

theorem Revocable.setupTimer (hr : Revocable s i) (hi : i < s.nextTimer) (handler : Option ℕ)
    (data : ℕ) (mem : Bool) : Revocable (setupTimer handler data mem s).1 i := by
  obtain ⟨k, -, hk⟩ | ⟨k, -, hk⟩ := setupTimer_cases handler data mem s
  · rw [hk]
    exact hr
  · rw [hk]
    intro n hn hni
    obtain ⟨p, hp, hrest⟩ := hr n hn hni
    exact ⟨p, (update_of_ne (Nat.ne_of_lt hi) _ _).trans hp, hrest⟩

end Revocable

end Layer3Switch.Timers
