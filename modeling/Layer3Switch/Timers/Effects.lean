import Layer3Switch.Timers.Tick

namespace Layer3Switch.Timers

open Lib.Rbtree Function

def Wheels.nodes (root : Wheels) : Multiset AppTimer :=
  Multiset.ofList (root .tick).toList + Multiset.ofList (root .sec).toList +
    Multiset.ofList (root .min).toList + Multiset.ofList (root .hrs).toList

theorem Wheels.mem_nodes {root : Wheels} {n : AppTimer} : n ∈ root.nodes ↔ ∃ w, n ∈ root w := by
  simp only [Wheels.nodes, Multiset.mem_add, Multiset.mem_coe, ← RbRoot.mem_def]
  constructor
  · rintro (((h | h) | h) | h) <;> exact ⟨_, h⟩
  · rintro ⟨_ | _ | _ | _, h⟩ <;> simp [h]

theorem Wheels.nodes_update (root : Wheels) (w : Wheel) (r : RbRoot AppTimer.key) :
    Wheels.nodes (update root w r) + Multiset.ofList (root w).toList =
      root.nodes + Multiset.ofList r.toList := by
  cases w <;> simp only [Wheels.nodes, update_self, ne_eq, reduceCtorEq, not_false_eq_true,
    update_of_ne] <;> abel

theorem Wheels.nodes_insert (root : Wheels) (w : Wheel) (n : AppTimer) :
    Wheels.nodes (update root w ((root w).insert n)) = n ::ₘ root.nodes := by
  have h := root.nodes_update w ((root w).insert n)
  rw [Multiset.coe_eq_coe.mpr ((root w).insert_perm n), ← Multiset.cons_coe,
    Multiset.add_cons, ← Multiset.cons_add] at h
  exact add_right_cancel h

theorem Wheels.nodes_erase {root : Wheels} {w : Wheel} {n : AppTimer} {r : RbRoot AppTimer.key}
    (h : (root w).toList.Perm (n :: r.toList)) :
    root.nodes = n ::ₘ Wheels.nodes (update root w r) := by
  have h' := root.nodes_update w r
  rw [Multiset.coe_eq_coe.mpr h, ← Multiset.cons_coe, Multiset.add_cons, ← Multiset.cons_add] at h'
  exact (add_right_cancel h').symm

theorem Wheels.nodes_empty_le (root : Wheels) (w : Wheel) :
    Wheels.nodes (update root w .empty) ≤ root.nodes := by
  have h := root.nodes_update w .empty
  rw [show Multiset.ofList (RbRoot.empty : RbRoot AppTimer.key).toList = 0 from rfl, add_zero] at h
  exact h ▸ Multiset.le_add_right _ _

theorem Wheels.id_nodup {root : Wheels} (h : (root.nodes.map AppTimer.id).Nodup) (w : Wheel) :
    ((root w).toList.map AppTimer.id).Nodup := by
  have hle : Multiset.ofList (root w).toList ≤ root.nodes := by
    have h := root.nodes_update w .empty
    rw [show Multiset.ofList (RbRoot.empty : RbRoot AppTimer.key).toList = 0 from rfl,
      add_zero] at h
    exact h ▸ Multiset.le_add_left _ _
  exact Multiset.coe_nodup.mp (Multiset.nodup_of_le (Multiset.map_le_map hle) h)

theorem erase_of_mem {r : RbRoot AppTimer.key} {n : AppTimer} (hn : n ∈ r)
    (hid : (r.toList.map AppTimer.id).Nodup) :
    ∃ r', r.erase (fun m ↦ m.id == n.id) = some r' ∧ r.toList.Perm (n :: r'.toList) := by
  obtain ⟨r', hr⟩ := RbRoot.erase_isSome (p := fun m ↦ m.id == n.id) hn (by simp)
  obtain ⟨xs, a, ys, hl, ha, hl'⟩ := RbRoot.erase_some hr
  have han : a = n := by
    have hmem : n ∈ xs ++ a :: ys := hl ▸ hn
    have hd : ((xs ++ a :: ys).map AppTimer.id).Nodup := hl ▸ hid
    exact List.inj_on_of_nodup_map hd (by simp) hmem (by simpa using ha)
  refine ⟨r', hr, ?_⟩
  rw [hl, hl', han]
  exact List.perm_middle

theorem erase_eq_some {r r' : RbRoot AppTimer.key} {a : NodeId}
    (h : r.erase (fun m ↦ m.id == a) = some r') :
    ∃ n, n ∈ r ∧ n.id = a ∧ r.toList.Perm (n :: r'.toList) := by
  obtain ⟨xs, n, ys, hl, hn, hl'⟩ := RbRoot.erase_some h
  refine ⟨n, ?_, by simpa using hn, ?_⟩
  · rw [RbRoot.mem_def, hl]
    simp
  · rw [hl, hl']
    exact List.perm_middle

theorem findTmrSlot_spec {ct t : U32} {w : Wheel} (h : findTmrSlot ct = some (w, t)) :
    t = getField w ct ∧ t ≠ 0 := by
  unfold findTmrSlot at h
  split_ifs at h with h₁ h₂ h₃ h₄ <;> cases h <;> exact ⟨rfl, ‹_›⟩

theorem findTmrSlot_isSome {ct : U32} (h : ct ≠ 0) : ∃ wt, findTmrSlot ct = some wt := by
  unfold findTmrSlot
  split_ifs with h₁ h₂ h₃ h₄
  · exact ⟨_, rfl⟩
  · exact ⟨_, rfl⟩
  · exact ⟨_, rfl⟩
  · exact ⟨_, rfl⟩
  · refine absurd (eq_zero_of_getField ct fun w ↦ ?_) h
    cases w <;> simp_all [getField]

/-- What one step does, by event. -/
inductive StepCase (s : TimerMgr) : Event → TimerMgr → Prop
  | setupFail (handler data mem k) : k.toNat ≤ s.indx.toNat + 1 →
      StepCase s (.setupTimer handler data mem) { s with indx := k }
  | setup (handler data mem k) : k.toNat ≤ s.indx.toNat + 1 →
      StepCase s (.setupTimer handler data mem) { s with
      indx := k
      timers := update s.timers s.nextTimer
        (some ⟨0, 0, none, k, timerForever, false, data, none, handler⟩)
      nextTimer := s.nextTimer + 1 }
  | startFail (ticks data handler flags mem memApp k) : k.toNat ≤ s.indx.toNat + 1 →
      StepCase s (.startTimer ticks data handler flags mem memApp) { s with indx := k }
  | start {ticks data handler flags mem memApp k f s'} :
      armTimer s.nextTimer ⟨ticks, 0, some .tick, k, f, false, data, none, handler⟩
        { s with indx := k, nextTimer := s.nextTimer + 1 } = some s' →
      k.toNat ≤ s.indx.toNat + 1 →
      StepCase s (.startTimer ticks data handler flags mem memApp) s'
  | modFail {timer secs mem} : timer = none ∨ mem = false → StepCase s (.modTimer timer secs mem) s
  | mod {i secs p s'} : s.timers i = some p →
      armTimer i { p with rmt := secs * tmGetTicksPerSecond } s = some s' →
      StepCase s (.modTimer (some i) secs true) s'
  | stop {i e s'} : e = .stopTimer i ∨ e = .delTimer i → stopTimer i s = some s' → StepCase s e s'
  | tick {s'} : updateTimes s = some s' → StepCase s .tick s'
  | serve {s'} : serveTimer s = some s' → StepCase s .serve s'
  | finish {mem s'} : finishTimer mem s = some s' → StepCase s (.finish mem) s'

section Inversion

variable {s s' : TimerMgr} {i : TimerId} {p : TimerT} {w : Wheel}

theorem armTimer_cases (h : armTimer i p s = some s') :
    (findTmrSlot (packTime 0 p.rmt) = none ∧
      s' = { s with
        timers := update s.timers i
          (some { p with apptimer := some s.nextNode, exp := p.rmt + s.clk.tick })
        unlinked := s.nextNode :: s.unlinked
        nextNode := s.nextNode + 1
        count := s.count + 1 }) ∨
    ∃ w t, findTmrSlot (packTime 0 p.rmt) = some (w, t) ∧
      s' = { s with
        timers := update s.timers i (some { p with
          apptimer := some s.nextNode, exp := p.rmt + s.clk.tick, wheel := some w,
          isRunning := true })
        root := update s.root w
          ((s.root w).insert ⟨s.nextNode, i, packTime 0 p.rmt, s.clk.get w + t⟩)
        nextNode := s.nextNode + 1
        count := s.count + 1 } := by
  simp only [armTimer, findTmrSlotAndPlace] at h
  cases hf : findTmrSlot (packTime 0 p.rmt) with
  | none =>
    rw [hf] at h
    exact .inl ⟨rfl, (Option.some.inj h).symm⟩
  | some wt =>
    obtain ⟨w, t⟩ := wt
    rw [hf] at h
    simp only [update_self, update_idem, timerAdd] at h
    exact .inr ⟨w, t, rfl, (Option.some.inj h).symm⟩

theorem armTimer_isSome (i : TimerId) (p : TimerT) (s : TimerMgr) :
    ∃ s', armTimer i p s = some s' := by
  simp only [armTimer, findTmrSlotAndPlace]
  cases findTmrSlot (packTime 0 p.rmt) <;> simp

theorem stopTimer_cases (h : stopTimer i s = some s') :
    ∃ p, s.timers i = some p ∧
      (s' = s ∧ ¬(p.apptimer.isSome ∧ p.isRunning = true) ∨
        ∃ a w r, p.apptimer = some a ∧ p.isRunning = true ∧ p.wheel = some w ∧
          ((s.root w).erase (fun m ↦ m.id == a) = some r ∨
            (s.root w).erase (fun m ↦ m.id == a) = none ∧ a ∈ s.unlinked ∧ r = .empty) ∧
          s' = { s with
            root := update s.root w r
            timers := update s.timers i (some { p with isRunning := false })
            unlinked := s.unlinked.erase a
            count := s.count - 1 }) := by
  unfold stopTimer at h
  cases hp : s.timers i with
  | none => simp [hp] at h
  | some p =>
    refine ⟨p, rfl, ?_⟩
    cases ha : p.apptimer with
    | none => simp_all
    | some a =>
      cases hr : p.isRunning with
      | false => simp_all
      | true =>
        right
        cases hw : p.wheel with
        | none => simp [hp, ha, hr, hw, timerDel] at h
        | some w =>
          cases he : (s.root w).erase (fun m ↦ m.id == a) with
          | some r =>
            simp only [hp, ha, hr, hw, timerDel, he] at h
            exact ⟨a, w, r, rfl, rfl, rfl, .inl he, (Option.some.inj h).symm⟩
          | none =>
            simp only [hp, ha, hr, hw, timerDel, he] at h
            split_ifs at h with hu
            exact ⟨a, w, .empty, rfl, rfl, rfl, .inr ⟨he, hu, rfl⟩, (Option.some.inj h).symm⟩

theorem delTimer_eq_stopTimer (i : TimerId) (s : TimerMgr) : delTimer i s = stopTimer i s := by
  unfold delTimer stopTimer
  cases s.timers i with
  | none => rfl
  | some p =>
    cases ha : p.apptimer <;> cases hr : p.isRunning <;> simp [ha, hr]

theorem modTimer_cases {timer : Option TimerId} {secs : U32} {mem : Bool} {r : ℤ}
    (h : modTimer timer secs mem s = some (s', r)) :
    s' = s ∧ (timer = none ∨ mem = false) ∨
      ∃ i p, timer = some i ∧ mem = true ∧ s.timers i = some p ∧
        armTimer i { p with rmt := secs * tmGetTicksPerSecond } s = some s' := by
  cases timer with
  | none => simp_all [modTimer]
  | some i =>
    cases mem with
    | false => simp_all [modTimer]
    | true =>
      cases hp : s.timers i with
      | none => simp [modTimer, hp] at h
      | some p =>
        obtain ⟨s₁, h₁⟩ := armTimer_isSome i { p with rmt := secs * tmGetTicksPerSecond } s
        simp only [modTimer, hp, h₁] at h
        obtain ⟨rfl, -⟩ := Prod.mk.inj (Option.some.inj h)
        exact .inr ⟨i, p, rfl, rfl, hp, h₁⟩

theorem allocTimerId_cases (s : TimerMgr) : allocTimerId s = (0, s) ∨
    allocTimerId s = (s.indx + 1, { s with indx := s.indx + 1 }) := by
  rw [allocTimerId]
  split
  · exact .inl rfl
  · exact .inr rfl

theorem toNat_succ_le (k : U32) : (k + 1).toNat ≤ k.toNat + 1 := by
  rw [BitVec.toNat_add]
  exact Nat.mod_le _ _

theorem startTimer_armed_or_failed {ticks flags : U32} {data : ℕ} {handler : Option ℕ}
    {mem memApp : Bool} {o : Option TimerId}
    (h : startTimer ticks data handler flags mem memApp s = some (s', o)) :
    ((mem = true ∧ memApp = true ∧ (allocTimerId s).1 ≠ 0) ∧ o = some s.nextTimer ∧
      ∃ k, k.toNat ≤ s.indx.toNat + 1 ∧ armTimer s.nextTimer ⟨ticks, 0, some .tick, k,
        if flags ≠ 0 then flags else timerOnce, false, data, none, handler⟩
        { s with indx := k, nextTimer := s.nextTimer + 1 } = some s') ∨
    ¬(mem = true ∧ memApp = true ∧ (allocTimerId s).1 ≠ 0) ∧ o = none ∧
      ∃ k, k.toNat ≤ s.indx.toNat + 1 ∧ s' = { s with indx := k } := by
  unfold startTimer at h
  obtain halloc | halloc := allocTimerId_cases s
  · rw [halloc] at h ⊢
    simp only [true_or, if_true] at h
    obtain ⟨rfl, rfl⟩ := Prod.mk.inj (Option.some.inj h)
    exact .inr ⟨fun harms ↦ harms.2.2 rfl, rfl, s.indx, Nat.le_succ _, rfl⟩
  · rw [halloc] at h ⊢
    dsimp only at h ⊢
    by_cases hrefused : s.indx + 1 = 0 ∨ mem = false
    · rw [if_pos hrefused] at h
      obtain ⟨rfl, rfl⟩ := Prod.mk.inj (Option.some.inj h)
      exact .inr ⟨fun harms ↦ hrefused.elim harms.2.2 (by rw [harms.1]; nofun), rfl, _,
        toNat_succ_le _, rfl⟩
    · rw [if_neg hrefused] at h
      obtain ⟨hidx, hmem⟩ := not_or.mp hrefused
      cases memApp with
      | false =>
        obtain ⟨rfl, rfl⟩ := Prod.mk.inj (Option.some.inj h)
        exact .inr ⟨fun harms ↦ Bool.noConfusion harms.2.1, rfl, _, toNat_succ_le _, rfl⟩
      | true =>
        refine .inl ⟨⟨Bool.eq_true_of_not_eq_false hmem, rfl, hidx⟩, ?_⟩
        split at h
        · rename_i hnot
          cases hnot
        · split at h
          · cases h
          · rename_i harm
            obtain ⟨rfl, rfl⟩ := Prod.mk.inj (Option.some.inj h)
            exact ⟨rfl, _, toNat_succ_le _, harm⟩

theorem setupTimer_cases (handler : Option ℕ) (data : ℕ) (mem : Bool) (s : TimerMgr) :
    (∃ k, k.toNat ≤ s.indx.toNat + 1 ∧ (setupTimer handler data mem s).1 = { s with indx := k }) ∨
      ∃ k, k.toNat ≤ s.indx.toNat + 1 ∧ (setupTimer handler data mem s).1 = { s with
        indx := k
        timers := update s.timers s.nextTimer
          (some ⟨0, 0, none, k, timerForever, false, data, none, handler⟩)
        nextTimer := s.nextTimer + 1 } := by
  unfold setupTimer
  obtain halloc | halloc := allocTimerId_cases s
  · exact .inl ⟨s.indx, Nat.le_succ _, by rw [halloc]; simp⟩
  · rw [halloc]
    dsimp only
    split
    · exact .inl ⟨_, toNat_succ_le _, rfl⟩
    · exact .inr ⟨_, toNat_succ_le _, rfl⟩

theorem step_cases {e : Event} (h : step s e = some s') : StepCase s e s' := by
  cases e with
  | setupTimer handler data mem =>
    obtain rfl := Option.some.inj h
    rcases setupTimer_cases handler data mem s with ⟨k, hle, hk⟩ | ⟨k, hle, hk⟩
    · rw [hk]
      exact .setupFail handler data mem k hle
    · rw [hk]
      exact .setup handler data mem k hle
  | startTimer ticks data handler flags mem memApp =>
    obtain ⟨⟨s₁, o⟩, h₁, rfl⟩ := Option.map_eq_some_iff.mp h
    obtain ⟨-, -, k, hle, h₂⟩ | ⟨-, -, k, hle, rfl⟩ := startTimer_armed_or_failed h₁
    · exact .start h₂ hle
    · exact .startFail _ _ _ _ _ _ k hle
  | modTimer timer secs mem =>
    obtain ⟨⟨s₁, r⟩, h₁, rfl⟩ := Option.map_eq_some_iff.mp h
    rcases modTimer_cases h₁ with ⟨rfl, ho⟩ | ⟨i, p, rfl, rfl, hp, h₂⟩
    · exact .modFail ho
    · exact .mod hp h₂
  | stopTimer i => exact .stop (.inl rfl) h
  | delTimer i => exact .stop (.inr rfl) ((delTimer_eq_stopTimer i s).symm.trans h)
  | tick => exact .tick h
  | serve => exact .serve h
  | finish mem => exact .finish h

theorem processTimer_cases {n : AppTimer} (hid : (s.root.nodes.map AppTimer.id).Nodup)
    (hn : n ∈ s.root w) (h : processTimer w n s = some s') :
    ∃ p v r, s.timers n.timer = some p ∧ p.wheel = some v ∧
      (s.root w).toList.Perm (n :: r.toList) ∧
      (n.ctime &&& wheelMask v = 0 ∧
        s' = { s with
          root := update s.root w r
          count := s.count - 1
          timers := update s.timers n.timer (some { p with isRunning := false })
          expdTmrs := s.expdTmrs ++ [{ n with ctime := 0 }] } ∨
      ∃ u t, findTmrSlot (n.ctime &&& wheelMask v) = some (u, t) ∧
        s' = { s with
          timers := update s.timers n.timer (some { p with wheel := some u, isRunning := true })
          root := update (update s.root w r) u ((update s.root w r u).insert
            { n with ctime := n.ctime &&& wheelMask v, rt := s.clk.get u + t }) }) := by
  obtain ⟨r, he, hperm⟩ := erase_of_mem hn (Wheels.id_nodup hid w)
  unfold processTimer clearWheelTimer at h
  cases hp : s.timers n.timer with
  | none => simp [hp] at h
  | some p =>
    cases hv : p.wheel with
    | none => simp [hp, hv] at h
    | some v =>
      refine ⟨p, v, r, rfl, hv, hperm, ?_⟩
      simp only [hp, hv, timerDel, he, timerExpiryAction] at h
      split_ifs at h with hz
      · exact .inl ⟨hz, by simpa [hz, hv] using h.symm⟩
      · right
        obtain ⟨⟨u, t⟩, hf⟩ := findTmrSlot_isSome hz
        refine ⟨u, t, hf, ?_⟩
        simp only [findTmrSlotAndPlace, hf, hp, timerAdd] at h
        exact (Option.some.inj h).symm

end Inversion

end Layer3Switch.Timers
