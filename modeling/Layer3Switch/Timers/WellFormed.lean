import Layer3Switch.Timers.Effects

namespace Layer3Switch.Timers

open Lib Lib.Rbtree Function

section Loop

variable {s s' : TimerMgr} {w : Wheel} {expires : U32}

theorem processTimersLoop_invariant {I : TimerMgr → Prop}
    (hI : ∀ s n s', I s → n ∈ s.root w → n.rt = expires → processTimer w n s = some s' → I s')
    (fuel k k' : ℕ) (s : TimerMgr) (hs : I s)
    (h : processTimersLoop w expires fuel k s = some (s', k')) : I s' := by
  induction fuel generalizing k s with
  | zero =>
    obtain ⟨rfl, -⟩ := Prod.mk.inj (Option.some.inj h)
    exact hs
  | succ fuel ih =>
    unfold processTimersLoop at h
    cases hn : timerTreeWalk s w expires with
    | none =>
      simp only [hn] at h
      obtain ⟨rfl, -⟩ := Prod.mk.inj (Option.some.inj h)
      exact hs
    | some n =>
      simp only [hn] at h
      obtain ⟨hmem, hkey⟩ := RbRoot.search_some hn
      cases hp : processTimer w n s with
      | none => simp [hp] at h
      | some s₁ =>
        simp only [hp] at h
        exact ih (k + 1) s₁ (hI s n s₁ hs hmem (BitVec.eq_of_toNat_eq hkey) hp) h

theorem processTimers_invariant {I : TimerMgr → Prop} {k : ℕ}
    (hI : ∀ s₁ n s₂, I s₁ → n ∈ s₁.root w → n.rt = s.clk.get w →
      processTimer w n s₁ = some s₂ → I s₂)
    (hs : I s) (h : processTimers w s = some (s', k)) : I s' :=
  processTimersLoop_invariant hI _ _ _ s hs h

end Loop

def Clock.serves (c : Clock) : Wheel → Bool
  | .tick => true
  | .sec => c.isNxtSecHappend
  | .min => c.isNxtSecHappend && c.isNxtMinHappend
  | .hrs => c.isNxtSecHappend && c.isNxtMinHappend && c.isNxtHrHappend

def serviceWheel (w : Wheel) (s : TimerMgr) : Option TimerMgr :=
  if s.clk.serves w then (processTimers w s).map Prod.fst else some s

def TimerMgr.nodes (s : TimerMgr) : Multiset AppTimer :=
  s.root.nodes + Multiset.ofList s.expdTmrs

theorem TimerMgr.mem_nodes {s : TimerMgr} {n : AppTimer} :
    n ∈ s.nodes ↔ (∃ w, n ∈ s.root w) ∨ n ∈ s.expdTmrs := by
  rw [TimerMgr.nodes, Multiset.mem_add, Wheels.mem_nodes, Multiset.mem_coe]

def TimerMgr.refs (s : TimerMgr) : Multiset (NodeId × TimerId) :=
  s.nodes.map fun n ↦ (n.id, n.timer)

/-- What holds in every run, whatever the calls: nodes are distinct blocks,
names are fresh, `tmrrq.count` covers the linked nodes, and the bottom half
serves the first node of `expd_tmrs`. -/
structure Wf (s : TimerMgr) : Prop where
  id_nodup : (s.nodes.map AppTimer.id).Nodup
  id_lt : ∀ n ∈ s.nodes, n.id < s.nextNode
  timer_lt : ∀ n ∈ s.nodes, n.timer < s.nextTimer
  timers_none : ∀ i, s.nextTimer ≤ i → s.timers i = none
  count_le : Multiset.card s.root.nodes + s.unlinked.length ≤ s.count
  serving_head : ∀ n, s.serving = some n → s.expdTmrs.head? = some n

section Wf

variable {s s' : TimerMgr} {i : TimerId} {p : TimerT} {w : Wheel} {n : AppTimer}

theorem wf_init : Wf initTimerMgr where
  id_nodup := by simp [TimerMgr.nodes, Wheels.nodes, initTimerMgr]
  id_lt := by simp [TimerMgr.nodes, Wheels.nodes, initTimerMgr]
  timer_lt := by simp [TimerMgr.nodes, Wheels.nodes, initTimerMgr]
  timers_none := by simp [initTimerMgr]
  count_le := by simp [Wheels.nodes, initTimerMgr]
  serving_head := by simp [initTimerMgr]

theorem Wf.wheels_nodup (hs : Wf s) : (s.root.nodes.map AppTimer.id).Nodup :=
  Multiset.nodup_of_le (Multiset.map_le_map (Multiset.le_add_right _ _)) hs.id_nodup

theorem Wf.lt_of_some (hs : Wf s) (hp : s.timers i = some p) : i < s.nextTimer := by
  by_contra h
  rw [hs.timers_none i (not_lt.mp h)] at hp
  simp at hp

theorem Wf.eq_of_id (hs : Wf s) {m : AppTimer} (hn : n ∈ s.nodes) (hm : m ∈ s.nodes)
    (h : n.id = m.id) : n = m :=
  Multiset.inj_on_of_nodup_map hs.id_nodup n hn m hm h

theorem Wf.timers_update (hs : Wf s) (hi : i < s.nextTimer) (o : Option TimerT) (j : TimerId)
    (hj : s.nextTimer ≤ j) : update s.timers i o j = none := by
  rw [update_of_ne (Nat.ne_of_gt (Nat.lt_of_lt_of_le hi hj))]
  exact hs.timers_none j hj

theorem Wf.of_le (hs : Wf s) (hle : s'.refs ≤ s.refs) (hnode : s'.nextNode = s.nextNode)
    (htimer : s'.nextTimer = s.nextTimer)
    (hnone : ∀ j, s.nextTimer ≤ j → s'.timers j = none)
    (hcount : Multiset.card s'.root.nodes + s'.unlinked.length ≤ s'.count)
    (hserving : ∀ n, s'.serving = some n → s'.expdTmrs.head? = some n) : Wf s' := by
  have hmem : ∀ n ∈ s'.nodes, ∃ m ∈ s.nodes, m.id = n.id ∧ m.timer = n.timer := by
    intro n hn
    have hn' := Multiset.mem_of_le hle (Multiset.mem_map_of_mem _ hn)
    obtain ⟨m, hm, he⟩ := Multiset.mem_map.mp hn'
    exact ⟨m, hm, Prod.mk.inj he⟩
  refine ⟨?_, ?_, ?_, ?_, hcount, hserving⟩
  · have h := Multiset.map_le_map (f := Prod.fst) hle
    simp only [TimerMgr.refs, Multiset.map_map, comp_def] at h
    exact Multiset.nodup_of_le h hs.id_nodup
  · intro n hn
    obtain ⟨m, hm, hid, -⟩ := hmem n hn
    exact hid ▸ hnode ▸ hs.id_lt m hm
  · intro n hn
    obtain ⟨m, hm, -, ht⟩ := hmem n hn
    exact ht ▸ htimer ▸ hs.timer_lt m hm
  · rwa [htimer]

theorem armTimer_refs (h : armTimer i p s = some s') :
    s'.refs = s.refs ∨ s'.refs = (s.nextNode, i) ::ₘ s.refs := by
  rcases armTimer_cases h with ⟨-, rfl⟩ | ⟨w, t, -, rfl⟩
  · exact .inl rfl
  · right
    rw [TimerMgr.refs, TimerMgr.nodes, Wheels.nodes_insert, Multiset.cons_add, Multiset.map_cons]
    rfl

theorem Wf.armTimer (hs : Wf s) (hi : i < s.nextTimer) (h : armTimer i p s = some s') : Wf s' := by
  have hcount := hs.count_le
  rcases armTimer_cases h with ⟨-, rfl⟩ | ⟨w, t, -, rfl⟩
  · refine ⟨hs.id_nodup, fun n hn ↦ Nat.lt_succ_of_lt (hs.id_lt n hn), hs.timer_lt,
      hs.timers_update hi _, ?_, hs.serving_head⟩
    simp only [List.length_cons]
    omega
  · have hnodes (m : AppTimer) (u : ℕ → Option TimerT) : TimerMgr.nodes { s with
        timers := u
        root := update s.root w ((s.root w).insert m)
        nextNode := s.nextNode + 1
        count := s.count + 1 } = m ::ₘ s.nodes := by
      rw [TimerMgr.nodes, Wheels.nodes_insert, Multiset.cons_add, TimerMgr.nodes]
    refine ⟨?_, ?_, ?_, hs.timers_update hi _, ?_, hs.serving_head⟩
    · rw [hnodes, Multiset.map_cons, Multiset.nodup_cons]
      refine ⟨?_, hs.id_nodup⟩
      intro hmem
      obtain ⟨m, hm, he⟩ := Multiset.mem_map.mp hmem
      exact absurd (hs.id_lt m hm) (by simp [he])
    · rw [hnodes]
      intro m hm
      rcases Multiset.mem_cons.mp hm with rfl | hm
      · exact Nat.lt_succ_self _
      · exact Nat.lt_succ_of_lt (hs.id_lt m hm)
    · rw [hnodes]
      intro m hm
      rcases Multiset.mem_cons.mp hm with rfl | hm
      · exact hi
      · exact hs.timer_lt m hm
    · rw [Wheels.nodes_insert, Multiset.card_cons]
      simp only
      omega

theorem stopTimer_roots_le (h : stopTimer i s = some s') : s'.root.nodes ≤ s.root.nodes := by
  obtain ⟨p, -, ⟨rfl, -⟩ | ⟨a, w, r, -, -, -, hr | ⟨-, -, rfl⟩, rfl⟩⟩ := stopTimer_cases h
  · exact le_rfl
  · obtain ⟨n, -, -, hperm⟩ := erase_eq_some hr
    exact Wheels.nodes_erase hperm ▸ Multiset.le_cons_self _ _
  · exact Wheels.nodes_empty_le _ _

theorem stopTimer_expdTmrs (h : stopTimer i s = some s') : s'.expdTmrs = s.expdTmrs := by
  obtain ⟨p, -, ⟨rfl, -⟩ | ⟨a, w, r, -, -, -, -, rfl⟩⟩ := stopTimer_cases h
  · rfl
  · rfl

theorem stopTimer_refs (h : stopTimer i s = some s') : s'.refs ≤ s.refs := by
  refine Multiset.map_le_map ?_
  rw [TimerMgr.nodes, TimerMgr.nodes, stopTimer_expdTmrs h]
  exact add_le_add_left (stopTimer_roots_le h) _

theorem Wf.stopTimer (hs : Wf s) (h : stopTimer i s = some s') : Wf s' := by
  have hcount := hs.count_le
  have hrefs := stopTimer_refs h
  obtain ⟨p, hp, ⟨rfl, -⟩ | ⟨a, w, r, -, -, -, hr, rfl⟩⟩ := stopTimer_cases h
  · exact hs
  refine hs.of_le hrefs rfl rfl (hs.timers_update (hs.lt_of_some hp) _) ?_ hs.serving_head
  rcases hr with hr | ⟨-, hu, rfl⟩
  · obtain ⟨n, -, -, hperm⟩ := erase_eq_some hr
    have hl := List.length_erase_le (a := a) (l := s.unlinked)
    rw [Wheels.nodes_erase hperm, Multiset.card_cons] at hcount
    simp only
    omega
  · have hle := Multiset.card_le_card (Wheels.nodes_empty_le s.root w)
    have hl := List.length_erase_of_mem hu
    have hpos := List.length_pos_of_mem hu
    simp only
    omega

theorem processTimer_refs (hid : (s.root.nodes.map AppTimer.id).Nodup) (hn : n ∈ s.root w)
    (h : processTimer w n s = some s') : s'.refs = s.refs := by
  obtain ⟨p, v, r, -, -, hr, ⟨-, rfl⟩ | ⟨u, t, -, rfl⟩⟩ := processTimer_cases hid hn h
  all_goals have he := Wheels.nodes_erase hr
  · simp only [TimerMgr.refs, TimerMgr.nodes, he, ← Multiset.coe_add, Multiset.map_add,
      Multiset.coe_singleton, Multiset.map_singleton, ← Multiset.singleton_add]
    abel
  · simp only [TimerMgr.refs, TimerMgr.nodes, he, Wheels.nodes_insert, Multiset.map_add,
      Multiset.map_cons]

theorem head?_append_of_some {l : List AppTimer} (m : AppTimer) (h : l.head? = some n) :
    (l ++ [m]).head? = some n := by
  rw [List.head?_append, h, Option.some_or]

theorem Wf.processTimer (hs : Wf s) (hn : n ∈ s.root w) (h : processTimer w n s = some s') :
    Wf s' := by
  have hcount := hs.count_le
  have hrefs := processTimer_refs hs.wheels_nodup hn h
  obtain ⟨p, v, r, hp, -, hr, ⟨-, rfl⟩ | ⟨u, t, -, rfl⟩⟩ :=
    processTimer_cases hs.wheels_nodup hn h
  all_goals rw [Wheels.nodes_erase hr, Multiset.card_cons] at hcount
  · refine hs.of_le hrefs.le rfl rfl (hs.timers_update (hs.lt_of_some hp) _) ?_
      fun m hm ↦ head?_append_of_some _ (hs.serving_head m hm)
    simp only
    omega
  · refine hs.of_le hrefs.le rfl rfl (hs.timers_update (hs.lt_of_some hp) _) ?_ hs.serving_head
    rw [Wheels.nodes_insert, Multiset.card_cons]
    simp only
    omega

theorem processTimer_clk (hs : Wf s) (hn : n ∈ s.root w) (h : processTimer w n s = some s') :
    s'.clk = s.clk := by
  obtain ⟨p, v, r, -, -, -, ⟨-, rfl⟩ | ⟨u, t, -, rfl⟩⟩ := processTimer_cases hs.wheels_nodup hn h
  · rfl
  · rfl

theorem Wf.clk (hs : Wf s) (c : Clock) : Wf { s with clk := c } :=
  ⟨hs.id_nodup, hs.id_lt, hs.timer_lt, hs.timers_none, hs.count_le, hs.serving_head⟩

theorem Wf.processTimers {k : ℕ} (hs : Wf s) (h : processTimers w s = some (s', k)) :
    Wf s' ∧ s'.clk = s.clk := by
  refine processTimers_invariant (I := fun s₁ ↦ Wf s₁ ∧ s₁.clk = s.clk) ?_ ⟨hs, rfl⟩ h
  intro s₁ n s₂ hs₁ hn _ h₁
  exact ⟨hs₁.1.processTimer hn h₁, (processTimer_clk hs₁.1 hn h₁).trans hs₁.2⟩

theorem Wf.serviceWheel (hs : Wf s) (h : serviceWheel w s = some s') : Wf s' ∧ s'.clk = s.clk := by
  unfold Timers.serviceWheel at h
  split_ifs at h
  · obtain ⟨⟨s₁, k⟩, h₁, rfl⟩ := Option.map_eq_some_iff.mp h
    exact hs.processTimers h₁
  · obtain rfl := Option.some.inj h
    exact ⟨hs, rfl⟩

theorem processTimer_due (hid : (s.root.nodes.map AppTimer.id).Nodup) (hn : n ∈ s.root w)
    (hrt : n.rt = s.clk.get w) (h : processTimer w n s = some s') :
    (s'.root w).toList.countP (fun m ↦ m.rt == s.clk.get w) + 1 =
      (s.root w).toList.countP (fun m ↦ m.rt == s.clk.get w) := by
  obtain ⟨p, v, r, -, -, hr, ⟨-, rfl⟩ | ⟨u, t, hf, rfl⟩⟩ := processTimer_cases hid hn h
  all_goals rw [hr.countP_eq, List.countP_cons_of_pos (by simp [hrt])]
  · simp only [update_self]
  · by_cases huw : u = w
    · subst huw
      simp only [update_self]
      rw [(RbRoot.insert_perm _ r).countP_eq, List.countP_cons_of_neg]
      simpa using (findTmrSlot_spec hf).2
    · simp only [update_of_ne (Ne.symm huw), update_self]

theorem processTimersLoop_done (fuel k : ℕ) {k' : ℕ} (hs : Wf s)
    (hfuel : (s.root w).toList.countP (fun m ↦ m.rt == s.clk.get w) ≤ fuel)
    (h : processTimersLoop w (s.clk.get w) fuel k s = some (s', k')) :
    ∀ m ∈ s'.root w, m.rt ≠ s.clk.get w := by
  induction fuel generalizing k s with
  | zero =>
    obtain ⟨rfl, -⟩ := Prod.mk.inj (Option.some.inj h)
    intro m hm
    have := List.countP_eq_zero.mp (Nat.le_zero.mp hfuel) m hm
    simpa using this
  | succ fuel ih =>
    unfold processTimersLoop at h
    cases hn : timerTreeWalk s w (s.clk.get w) with
    | none =>
      simp only [hn] at h
      obtain ⟨rfl, -⟩ := Prod.mk.inj (Option.some.inj h)
      intro m hm he
      exact RbRoot.search_none hn m hm (congrArg BitVec.toNat he)
    | some n =>
      simp only [hn] at h
      obtain ⟨hmem, hkey⟩ := RbRoot.search_some hn
      cases hp : Timers.processTimer w n s with
      | none => simp [hp] at h
      | some s₁ =>
        simp only [hp] at h
        have hclk := processTimer_clk hs hmem hp
        have hdue := processTimer_due hs.wheels_nodup hmem (BitVec.eq_of_toNat_eq hkey) hp
        rw [← hclk] at hdue hfuel h ⊢
        exact ih (k + 1) (hs.processTimer hmem hp) (by omega) h

theorem processTimers_done {k : ℕ} (hs : Wf s) (h : processTimers w s = some (s', k)) :
    ∀ m ∈ s'.root w, m.rt ≠ s.clk.get w :=
  processTimersLoop_done _ 0 hs List.countP_le_length h

theorem processTimers_of_nil (h : (s.root w).toList = []) : processTimers w s = some (s, 0) := by
  rw [Timers.processTimers, h]
  rfl

def serviceWheels (s : TimerMgr) : Option TimerMgr := do
  let s ← serviceWheel .tick s
  let s ← serviceWheel .sec s
  let s ← serviceWheel .min s
  serviceWheel .hrs s

theorem tmProcessTickAndUpdateTimers_eq (hs : Wf s) :
    (tmProcessTickAndUpdateTimers s).map Prod.fst = serviceWheels s := by
  unfold tmProcessTickAndUpdateTimers serviceWheels Timers.serviceWheel
  cases h₁ : Timers.processTimers .tick s with
  | none => simp [Clock.serves]
  | some r₁ =>
    obtain ⟨s₁, k₁⟩ := r₁
    obtain ⟨hs₁, hc₁⟩ := hs.processTimers h₁
    by_cases hsec : s.clk.isNxtSecHappend = true
    case neg => simp [Clock.serves, hc₁, hsec]
    cases h₂ : Timers.processTimers .sec s₁ with
    | none => simp [Clock.serves, hc₁, hsec, h₂]
    | some r₂ =>
      obtain ⟨s₂, k₂⟩ := r₂
      obtain ⟨hs₂, hc₂⟩ := hs₁.processTimers h₂
      rw [hc₁] at hc₂
      by_cases hmin : s.clk.isNxtMinHappend = true
      case neg => simp [Clock.serves, hc₁, hc₂, hsec, h₂, hmin]
      cases h₃ : Timers.processTimers .min s₂ with
      | none => simp [Clock.serves, hc₁, hc₂, hsec, h₂, hmin, h₃]
      | some r₃ =>
        obtain ⟨s₃, k₃⟩ := r₃
        have hc₃ := (hs₂.processTimers h₃).2
        rw [hc₂] at hc₃
        by_cases hhr : s.clk.isNxtHrHappend = true
        · cases h₄ : Timers.processTimers .hrs s₃ <;>
            simp [Clock.serves, hc₁, hc₂, hc₃, hsec, h₂, hmin, h₃, hhr, h₄]
        · simp [Clock.serves, hc₁, hc₂, hc₃, hsec, h₂, hmin, h₃, hhr]

theorem serves_nil_of_not_pending (hs : Wf s) (h : timersPendingForService s = false)
    (hw : s.clk.serves w = true) : (s.root w).toList = [] := by
  have hcount : s.count = 0 → (s.root w).toList = [] := by
    intro h0
    have hc := hs.count_le
    have hz : s.root.nodes = 0 := Multiset.card_eq_zero.mp (by omega)
    refine List.eq_nil_iff_forall_not_mem.mpr fun m hm ↦ ?_
    have hm' : m ∈ s.root.nodes := Wheels.mem_nodes.mpr ⟨w, hm⟩
    simp [hz] at hm'
  by_cases h0 : s.count = 0
  · exact hcount h0
  · refine RbRoot.first_eq_none.mp ?_
    cases w <;> simp_all [timersPendingForService, Clock.serves]

theorem updateTimes_eq (hs : Wf s) :
    updateTimes s = serviceWheels { s with clk := s.clk.next } := by
  unfold updateTimes
  have hs' := hs.clk s.clk.next
  generalize { s with clk := s.clk.next } = s₁ at hs'
  simp only
  by_cases h : timersPendingForService s₁ = true
  · rw [if_pos h, tmProcessTickAndUpdateTimers_eq hs']
  · have hid (w : Wheel) : Timers.serviceWheel w s₁ = some s₁ := by
      unfold Timers.serviceWheel
      split_ifs with hw
      · rw [processTimers_of_nil (serves_nil_of_not_pending hs' (by simpa using h) hw)]
        rfl
      · rfl
    simp [h, serviceWheels, hid]

theorem Wf.updateTimes (hs : Wf s) (h : updateTimes s = some s') : Wf s' := by
  rw [updateTimes_eq hs] at h
  obtain ⟨s₁, h₁, h⟩ := Option.bind_eq_some_iff.mp h
  obtain ⟨s₂, h₂, h⟩ := Option.bind_eq_some_iff.mp h
  obtain ⟨s₃, h₃, h⟩ := Option.bind_eq_some_iff.mp h
  exact ((((hs.clk _).serviceWheel h₁).1.serviceWheel h₂).1.serviceWheel h₃).1.serviceWheel h |>.1

theorem serveTimer_cases (h : serveTimer s = some s') :
    s.serving = none ∧
      (s.expdTmrs = [] ∧ s' = s ∨
        ∃ n tl p, s.expdTmrs = n :: tl ∧ s.timers n.timer = some p ∧
          s' = { s with serving := some n }) := by
  unfold serveTimer at h
  split at h
  · simp at h
  · exact ⟨‹_›, .inl ⟨‹_›, (Option.some.inj h).symm⟩⟩
  · rename_i n tl hserving hexpd
    cases hp : s.timers n.timer with
    | none => simp [hp] at h
    | some p =>
      simp only [hp] at h
      exact ⟨hserving, .inr ⟨n, tl, p, hexpd, hp, (Option.some.inj h).symm⟩⟩

theorem finishTimer_cases {mem : Bool} (hs : Wf s) (h : finishTimer mem s = some s') :
    ∃ n tl p o, s.serving = some n ∧ s.expdTmrs = n :: tl ∧ s.timers n.timer = some p ∧
      (o = none ∨ o = some { p with apptimer := none }) ∧
      s' = { s with serving := none, expdTmrs := tl, timers := update s.timers n.timer o } := by
  unfold finishTimer timerRestart at h
  cases hn : s.serving with
  | none => simp [hn] at h
  | some n =>
    obtain ⟨tl, htl⟩ := List.head?_eq_some_iff.mp (hs.serving_head n hn)
    cases hp : s.timers n.timer with
    | none => simp [hn, hp] at h
    | some p =>
      simp only [hn, hp, htl, List.eraseP_cons, beq_self_eq_true, cond_true] at h
      refine ⟨n, tl, p, ?_⟩
      split_ifs at h
      · exact ⟨none, rfl, htl, hp, .inl rfl, (Option.some.inj h).symm⟩
      all_goals exact ⟨_, rfl, htl, hp, .inr rfl, (Option.some.inj h).symm⟩

theorem finishTimer_refs {mem : Bool} (hs : Wf s) (h : finishTimer mem s = some s') :
    s'.refs ≤ s.refs := by
  obtain ⟨n, tl, p, o, -, htl, -, -, rfl⟩ := finishTimer_cases hs h
  refine Multiset.map_le_map ?_
  rw [TimerMgr.nodes, TimerMgr.nodes, htl]
  gcongr
  exact Multiset.coe_le.mpr (List.sublist_cons_self n tl).subperm

theorem Wf.finishTimer {mem : Bool} (hs : Wf s) (h : finishTimer mem s = some s') : Wf s' := by
  have hrefs := finishTimer_refs hs h
  obtain ⟨n, tl, p, o, -, -, hp, -, rfl⟩ := finishTimer_cases hs h
  exact hs.of_le hrefs rfl rfl (hs.timers_update (hs.lt_of_some hp) o) hs.count_le (by simp)

theorem Wf.serveTimer (hs : Wf s) (h : serveTimer s = some s') : Wf s' := by
  obtain ⟨-, ⟨-, rfl⟩ | ⟨n, tl, p, htl, -, rfl⟩⟩ := serveTimer_cases h
  · exact hs
  · refine ⟨hs.id_nodup, hs.id_lt, hs.timer_lt, hs.timers_none, hs.count_le, ?_⟩
    intro m hm
    rw [htl, Option.some.inj hm]
    rfl

theorem Wf.newTimer (hs : Wf s) (k : U32) :
    Wf { s with indx := k, nextTimer := s.nextTimer + 1 } :=
  ⟨hs.id_nodup, hs.id_lt, fun n hn ↦ Nat.lt_succ_of_lt (hs.timer_lt n hn),
    fun j hj ↦ hs.timers_none j (Nat.le_of_succ_le hj), hs.count_le, hs.serving_head⟩

theorem Wf.indx (hs : Wf s) (k : U32) : Wf { s with indx := k } :=
  ⟨hs.id_nodup, hs.id_lt, hs.timer_lt, hs.timers_none, hs.count_le, hs.serving_head⟩

theorem Wf.step {e : Event} (hs : Wf s) (h : step s e = some s') : Wf s' := by
  cases step_cases h with
  | setupFail handler data mem k => exact hs.indx k
  | setup handler data mem k =>
    have hs' := hs.newTimer k
    exact ⟨hs'.id_nodup, hs'.id_lt, hs'.timer_lt, hs'.timers_update (Nat.lt_succ_self _) _,
      hs'.count_le, hs'.serving_head⟩
  | startFail ticks data handler flags mem memApp k => exact hs.indx k
  | start h => exact (hs.newTimer _).armTimer (Nat.lt_succ_self _) h
  | modFail => exact hs
  | mod hp h => exact hs.armTimer (hs.lt_of_some hp) h
  | stop _ h => exact hs.stopTimer h
  | tick h => exact hs.updateTimes h
  | serve h => exact hs.serveTimer h
  | finish h => exact hs.finishTimer h

theorem Wf.run {C : TimerMgr → Event → Prop} {es : List Event} (hs : Wf s)
    (h : Run Timers.step C s es s') : Wf s' :=
  h.invariant (fun _ _ _ hs _ h ↦ hs.step h) hs

end Wf

end Layer3Switch.Timers
