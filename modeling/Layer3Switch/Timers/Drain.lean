import Layer3Switch.Timers.Linked

namespace Layer3Switch.Timers

open Lib Lib.Rbtree Function

variable {s s₀ s₁ s' : TimerMgr} {w : Wheel} {n : AppTimer}

def TimerMgr.due (s : TimerMgr) (w : Wheel) : ℕ :=
  (s.root w).toList.countP fun m ↦ m.rt == s.clk.get w

/-- Nodes are distinct blocks, and the timer of each node that is due names a wheel. This may
be another wheel than the one the node is in. -/
structure Servable (s : TimerMgr) (w : Wheel) : Prop where
  nodup : (s.nodes.map AppTimer.id).Nodup
  names : ∀ n ∈ s.root w, n.rt = s.clk.get w →
    ∃ p v, s.timers n.timer = some p ∧ p.wheel = some v

/-- What a number of turns leaves as it was: the counters, the nodes that are not due, the
list of the expired ones up to its end, and which nodes there are. -/
structure Drains (w : Wheel) (s₀ s : TimerMgr) : Prop where
  clk : s.clk = s₀.clk
  refs : s.refs = s₀.refs
  kept : ∀ v, ∀ n ∈ s₀.root v, ¬(v = w ∧ n.rt = s₀.clk.get w) → n ∈ s.root v
  expired : s₀.expdTmrs <+: s.expdTmrs

theorem Drains.refl (w : Wheel) (s : TimerMgr) : Drains w s s :=
  ⟨rfl, rfl, fun _ _ hn _ ↦ hn, List.prefix_rfl⟩

theorem Drains.trans (h : Drains w s₀ s₁) (h' : Drains w s₁ s) : Drains w s₀ s := by
  refine ⟨h'.clk.trans h.clk, h'.refs.trans h.refs, ?_, h.expired.trans h'.expired⟩
  intro v n hn hnot
  refine h'.kept v n (h.kept v n hn hnot) ?_
  rwa [h.clk]

theorem nodup_of_refs (h : s.refs = s₀.refs) (hnodup : (s₀.nodes.map AppTimer.id).Nodup) :
    (s.nodes.map AppTimer.id).Nodup := by
  have hids := congrArg (Multiset.map Prod.fst) h
  simp only [TimerMgr.refs, Multiset.map_map] at hids
  change s.nodes.map AppTimer.id = s₀.nodes.map AppTimer.id at hids
  rwa [hids]

theorem Servable.wheels (h : Servable s w) : (s.root.nodes.map AppTimer.id).Nodup :=
  Multiset.nodup_of_le (Multiset.map_le_map (Multiset.le_add_right _ _)) h.nodup

theorem Servable.processTimer_isSome (h : Servable s w) (hn : n ∈ s.root w)
    (hrt : n.rt = s.clk.get w) : ∃ s', processTimer w n s = some s' := by
  obtain ⟨p, v, hp, hv⟩ := h.names n hn hrt
  obtain ⟨r, hr, -⟩ := erase_of_mem hn (Wheels.id_nodup h.wheels w)
  unfold processTimer clearWheelTimer
  simp only [hp, hv, timerDel, hr, timerExpiryAction]
  split_ifs with hzero
  · exact ⟨_, rfl⟩
  · obtain ⟨⟨u, t⟩, hslot⟩ := findTmrSlot_isSome hzero
    simp only [findTmrSlotAndPlace, hslot, hp]
    exact ⟨_, rfl⟩

theorem exists_wheel_update {timers : TimerId → Option TimerT} {i j : TimerId} {q : TimerT}
    (hq : q.wheel.isSome) (h : ∃ p v, timers j = some p ∧ p.wheel = some v) :
    ∃ p v, update timers i (some q) j = some p ∧ p.wheel = some v := by
  by_cases hji : j = i
  · subst hji
    obtain ⟨v, hv⟩ := Option.isSome_iff_exists.mp hq
    exact ⟨q, v, update_self _ _ _, hv⟩
  · rw [update_of_ne hji]
    exact h

theorem Servable.turn (h : Servable s w) (hn : n ∈ s.root w) (hrt : n.rt = s.clk.get w)
    (hturn : processTimer w n s = some s') :
    Servable s' w ∧ Drains w s s' ∧ s'.due w + 1 = s.due w := by
  have hrefs := processTimer_refs h.wheels hn hturn
  have hdue := processTimer_due h.wheels hn hrt hturn
  obtain ⟨p, v, r, hp, hv, hr, ⟨-, rfl⟩ | ⟨u, t, hslot, rfl⟩⟩ :=
    processTimer_cases h.wheels hn hturn
  · refine ⟨⟨nodup_of_refs hrefs h.nodup, ?_⟩, ⟨rfl, hrefs, ?_, List.prefix_append _ _⟩, hdue⟩
    · intro m hm hmrt
      simp only [update_self] at hm
      have hmem : m ∈ s.root w := hr.mem_iff.mpr (List.mem_cons_of_mem _ hm)
      exact exists_wheel_update (by simp [hv]) (h.names m hmem hmrt)
    · intro v' m hm hnot
      dsimp only
      by_cases hv' : v' = w
      · subst hv'
        rw [update_self]
        have hmn : m ≠ n := fun heq ↦ hnot ⟨rfl, heq ▸ hrt⟩
        exact (List.mem_cons.mp (hr.mem_iff.mp hm)).resolve_left hmn
      · rwa [update_of_ne hv']
  · have hlate : s.clk.get u + t ≠ s.clk.get u := by simpa using (findTmrSlot_spec hslot).2
    refine ⟨⟨nodup_of_refs hrefs h.nodup, ?_⟩, ⟨rfl, hrefs, ?_, List.prefix_rfl⟩, hdue⟩
    · intro m hm hmrt
      rw [mem_update_insert] at hm
      obtain ⟨rfl, rfl⟩ | hm := hm
      · exact absurd hmrt hlate
      · simp only [update_self] at hm
        have hmem : m ∈ s.root w := hr.mem_iff.mpr (List.mem_cons_of_mem _ hm)
        exact exists_wheel_update rfl (h.names m hmem hmrt)
    · intro v' m hm hnot
      rw [mem_update_insert]
      by_cases hv' : v' = w
      · subst hv'
        have hmn : m ≠ n := fun heq ↦ hnot ⟨rfl, heq ▸ hrt⟩
        rw [update_self]
        exact .inr ((List.mem_cons.mp (hr.mem_iff.mp hm)).resolve_left hmn)
      · rw [update_of_ne hv']
        exact .inr hm

theorem due_eq_zero : s.due w = 0 ↔ ∀ m ∈ s.root w, m.rt ≠ s.clk.get w := by
  simp [TimerMgr.due, List.countP_eq_zero, RbRoot.mem_def]

theorem timerTreeWalk_eq_none :
    timerTreeWalk s w (s.clk.get w) = none ↔ ∀ m ∈ s.root w, m.rt ≠ s.clk.get w := by
  constructor
  · intro hnone m hm hrt
    exact RbRoot.search_none hnone m hm (congrArg BitVec.toNat hrt)
  · intro hall
    cases hfound : timerTreeWalk s w (s.clk.get w) with
    | none => rfl
    | some m =>
      obtain ⟨hm, hkey⟩ := RbRoot.search_some hfound
      exact absurd (BitVec.eq_of_toNat_eq hkey) (hall m hm)

theorem Servable.loop {d : ℕ} (h : Servable s w) (hd : s.due w = d) (k : ℕ) :
    ∃ s', Drains w s s' ∧ s'.due w = 0 ∧
      ∀ fuel, d ≤ fuel → processTimersLoop w (s.clk.get w) fuel k s = some (s', k + d) := by
  -- the induction is on the number of nodes that are due
  induction d generalizing s k with
  | zero =>
    refine ⟨s, .refl w s, hd, fun fuel _ ↦ ?_⟩
    cases fuel with
    | zero => rfl
    | succ fuel =>
      rw [processTimersLoop, timerTreeWalk_eq_none.mpr (due_eq_zero.mp hd)]
      rfl
  | succ d ih =>
    cases hfound : timerTreeWalk s w (s.clk.get w) with
    | none =>
      rw [due_eq_zero.mpr (timerTreeWalk_eq_none.mp hfound)] at hd
      cases hd
    | some n =>
      obtain ⟨hn, hkey⟩ := RbRoot.search_some hfound
      have hrt := BitVec.eq_of_toNat_eq hkey
      obtain ⟨s₁, hturn⟩ := h.processTimer_isSome hn hrt
      obtain ⟨h₁, hdrains, hdue⟩ := h.turn hn hrt hturn
      obtain ⟨s', hdrains', hzero, hloop⟩ := ih h₁ (by omega) (k + 1)
      refine ⟨s', hdrains.trans hdrains', hzero, fun fuel hfuel ↦ ?_⟩
      obtain ⟨fuel, rfl⟩ : ∃ m, fuel = m + 1 := ⟨fuel - 1, by omega⟩
      rw [processTimersLoop, hfound]
      simp only [hturn]
      rw [← hdrains.clk, hloop fuel (by omega)]
      congr 2
      omega

def SettledNode (s : TimerMgr) (n : AppTimer) : Prop :=
  ((∃ m ∈ s.expdTmrs, m.id = n.id ∧ m.timer = n.timer) ∧ ∀ v, ∀ m ∈ s.root v, m.id ≠ n.id) ∨
    (∃! v, ∃ m ∈ s.root v, m.id = n.id ∧ m.timer = n.timer) ∧ ∀ m ∈ s.expdTmrs, m.id ≠ n.id

theorem Drains.settled (h : Drains w s₀ s) (hnodup : (s₀.nodes.map AppTimer.id).Nodup)
    (hn : n ∈ s₀.nodes) : SettledNode s n := by
  have hnodup' := nodup_of_refs h.refs hnodup
  have hwheels : (s.root.nodes.map AppTimer.id).Nodup :=
    Multiset.nodup_of_le (Multiset.map_le_map (Multiset.le_add_right _ _)) hnodup'
  have href : (n.id, n.timer) ∈ s.refs := h.refs ▸ Multiset.mem_map_of_mem _ hn
  obtain ⟨m, hm, heq⟩ := Multiset.mem_map.mp href
  obtain ⟨hid, htimer⟩ := Prod.mk.inj heq
  obtain ⟨v, hv⟩ | hm := TimerMgr.mem_nodes.mp hm
  · refine .inr ⟨⟨v, ⟨m, hv, hid, htimer⟩, ?_⟩, ?_⟩
    · rintro u ⟨m', hm', hid', -⟩
      exact wheel_of_id hwheels hm' hv (hid'.trans hid.symm)
    · intro m' hm' hid'
      exact not_mem_both hnodup' hv hm' (hid.trans hid'.symm)
  · refine .inl ⟨⟨m, hm, hid, htimer⟩, ?_⟩
    intro v m' hm' hid'
    exact not_mem_both hnodup' hm' hm (hid'.trans hid.symm)

/-- Servicing a wheel ends after one turn for each node that is due. No node of the tree is due
then, each that was is on `expd_tmrs` or in one tree, and the others are where they were. -/
theorem process_timers_complete {s : TimerMgr} {w : Wheel}
    (hnodup : (s.nodes.map AppTimer.id).Nodup)
    (hnames : ∀ n ∈ s.root w, n.rt = s.clk.get w →
      ∃ p v, s.timers n.timer = some p ∧ p.wheel = some v) :
    ∃ s', (∀ fuel, s.due w ≤ fuel →
        processTimersLoop w (s.clk.get w) fuel 0 s = some (s', s.due w)) ∧
      processTimers w s = some (s', s.due w) ∧
      timerTreeWalk s' w (s.clk.get w) = none ∧
      (∀ m ∈ s'.root w, m.rt ≠ s.clk.get w) ∧
      (∀ n ∈ s.root w, n.rt = s.clk.get w → SettledNode s' n) ∧
      (∀ v, ∀ n ∈ s.root v, ¬(v = w ∧ n.rt = s.clk.get w) → n ∈ s'.root v) ∧
      s.expdTmrs <+: s'.expdTmrs := by
  obtain ⟨s', hdrains, hzero, hloop⟩ := Servable.loop ⟨hnodup, hnames⟩ rfl 0
  simp only [Nat.zero_add] at hloop
  have hdone : ∀ m ∈ s'.root w, m.rt ≠ s.clk.get w := by
    rw [← hdrains.clk]
    exact due_eq_zero.mp hzero
  refine ⟨s', hloop, hloop _ List.countP_le_length, ?_, hdone, ?_, hdrains.kept, hdrains.expired⟩
  · rw [← hdrains.clk] at hdone ⊢
    exact timerTreeWalk_eq_none.mpr hdone
  · intro n hn _
    exact hdrains.settled hnodup (TimerMgr.mem_nodes.mpr (.inl ⟨w, hn⟩))

def sharedTimer : TimerMgr :=
  { initTimerMgr with
    clk := ⟨7, 0, 0, 0⟩
    root := update (update (fun _ ↦ .empty) .tick (RbRoot.empty.insert ⟨0, 0, 5, 7⟩)) .sec
      (RbRoot.empty.insert ⟨1, 0, packTime 0 300, 3⟩)
    timers := fun _ ↦ some ⟨0, 0, some .sec, 0, 0, true, 0, none, none⟩
    nextNode := 2
    nextTimer := 1 }

/-- The node that is found keeps its ticks, since the mask is that of the other wheel, and goes
back into the tree it came from. -/
theorem process_timers_complete_shared : ∃ s',
    processTimers .tick sharedTimer = some (s', 1) ∧
      (∀ m ∈ s'.root .tick, m.rt ≠ 7) ∧ SettledNode s' ⟨0, 0, 5, 7⟩ ∧
      (⟨1, 0, packTime 0 300, 3⟩ : AppTimer) ∈ s'.root .sec := by
  obtain ⟨s', -, hprocess, -, hdone, hsettled, hkept, -⟩ :=
    process_timers_complete (s := sharedTimer) (w := .tick) (by decide)
      (fun _ _ _ ↦ ⟨_, .sec, rfl, rfl⟩)
  refine ⟨s', hprocess, hdone, hsettled _ (by decide) rfl, hkept .sec _ (by decide) ?_⟩
  rintro ⟨hsec, -⟩
  cases hsec

end Layer3Switch.Timers
