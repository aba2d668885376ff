import Layer3Switch.Timers.OnTime

namespace Layer3Switch.Timers

open Lib Lib.Rbtree Function

section Duration

variable {c : Clock} {w : Wheel} {N : ℕ}

def expiryTicks (c : Clock) (N : ℕ) : ℕ :=
  let v := N % 368640000
  let gone :=
    if v < 6000 then 0
    else if v < 360000 then c.sec.toNat % 60
    else c.min.toNat % 60 * 60 + c.sec.toNat % 60
  if v < 100 then v else ticksLeft c.tick.toNat (v / 100 - gone) (v % 100)

def OnTime (c : Clock) (N : ℕ) : Prop :=
  N % 368640000 = 0 ∨
    N < 368640000 ∧
      (100 ≤ N → c.tick.toNat % 100 = 0 ∧ c.tick.toNat + (N - N % 100) ≤ 2 ^ 32) ∧
      (6000 ≤ N → c.sec.toNat % 60 = 0) ∧ (360000 ≤ N → c.min.toNat % 60 = 0)

theorem expiryTicks_le (c : Clock) (N : ℕ) : expiryTicks c N ≤ N % 368640000 := by
  unfold expiryTicks ticksLeft
  simp only
  split_ifs <;> omega

theorem le_expiryTicks_iff (hN : N % 368640000 ≠ 0) : N ≤ expiryTicks c N ↔ OnTime c N := by
  have ht := c.tick.isLt
  have hle := expiryTicks_le c N
  by_cases hlt : N < 368640000
  · rw [Nat.mod_eq_of_lt hlt] at hN
    unfold expiryTicks OnTime ticksLeft
    rw [Nat.mod_eq_of_lt hlt]
    simp only
    split_ifs <;> omega
  · have hmod := Nat.mod_lt N (show 0 < 368640000 by decide)
    unfold OnTime
    omega

theorem findTmrSlot_packTime_eq_none {x : U32} :
    findTmrSlot (packTime 0 x) = none ↔ x.toNat % 368640000 = 0 := by
  rw [findTmrSlot_eq_none, ← BitVec.toNat_inj, toNat_packTime]
  simp only [BitVec.ofNat_eq_ofNat, BitVec.toNat_ofNat, Nat.zero_mod]
  omega

theorem due_packTime {x t : U32} (a : NodeId) (i : TimerId)
    (h : findTmrSlot (packTime 0 x) = some (w, t)) :
    due c w ⟨a, i, packTime 0 x, c.get w + t⟩ = expiryTicks c x.toNat := by
  obtain ⟨ht, ht0⟩ := findTmrSlot_spec h
  have hpos : t.toNat ≠ 0 := fun h0 ↦ ht0 (BitVec.eq_of_toNat_eq h0)
  have hfield (u : Wheel) := toNat_getField_packTime u x
  have hcoarse (u : Wheel) (hu : w.idx < u.idx) : (getField u (packTime 0 x)).toNat = 0 := by
    rw [findTmrSlot_coarser h u hu]
    rfl
  have hs := hcoarse .sec
  have hm := hcoarse .min
  have hh := hcoarse .hrs
  rw [hfield] at hs hm hh
  rw [ht, hfield] at hpos
  by_cases hw : w = .tick
  · subst hw
    have hs' : x.toNat / 100 % 60 = 0 := hs (by decide)
    have hm' : x.toNat / 6000 % 60 = 0 := hm (by decide)
    have hh' : x.toNat / 360000 % 1024 = 0 := hh (by decide)
    have hdue : due c .tick ⟨a, i, packTime 0 x, c.get .tick + t⟩ = x.toNat % 100 := by
      rw [due, laps_add, ht, hfield]
    rw [hdue, expiryTicks]
    split_ifs <;> omega
  rw [due_of_ne_tick hw]
  have htick : (getTick (packTime 0 x)).toNat = x.toNat % 100 := hfield .tick
  have hleft : secsLeft c w ⟨a, i, packTime 0 x, c.get w + t⟩ =
      secsPer w * t.toNat - phase c w + secsBelow w (packTime 0 x) := by
    rw [secsLeft, laps_add]
  have hsecs : (getSecs (packTime 0 x)).toNat = x.toNat / 100 % 60 := hfield .sec
  have hmins : (getMins (packTime 0 x)).toNat = x.toNat / 6000 % 60 := hfield .min
  rw [hleft, htick, ht, hfield, expiryTicks]
  cases w with
  | tick => exact absurd rfl hw
  | sec =>
    replace hm := hm (by decide)
    replace hh := hh (by decide)
    simp only [secsPer, phase, secsBelow] at *
    rw [if_neg (by omega), if_pos (by omega)]
    congr 1 <;> omega
  | min =>
    replace hh := hh (by decide)
    simp only [secsPer, phase, secsBelow, hsecs] at *
    rw [if_neg (by omega), if_neg (by omega), if_pos (by omega)]
    congr 1 <;> omega
  | hrs =>
    simp only [secsPer, phase, secsBelow, hsecs, hmins] at *
    rw [if_neg (by omega), if_neg (by omega), if_neg (by omega)]
    congr 1 <;> omega

end Duration

section Arming

variable {s s' s₀ s₁ : TimerMgr} {i : TimerId} {p : TimerT} {w : Wheel} {n : AppTimer} {e : Event}
  {N : ℕ}

def ArmedFor (i : TimerId) (N : ℕ) (s : TimerMgr) (e : Event) : Prop :=
  (∃ secs, e = .modTimer (some i) secs true ∧ N = (secs * tmGetTicksPerSecond).toNat) ∨
    ∃ ticks data handler flags, e = .startTimer ticks data handler flags true true ∧
      i = s.nextTimer ∧ (allocTimerId s).1 ≠ 0 ∧ N = ticks.toNat

theorem ArmedFor.armTimer (ha : ArmedFor i N s e) (hs : Wf s) (h : step s e = some s₁) :
    ∃ p s₀, armTimer i p s₀ = some s₁ ∧ p.rmt.toNat = N ∧ Wf s₀ ∧ i < s₀.nextTimer ∧
      s₀.clk = s.clk ∧ s₀.root = s.root ∧ s₀.expdTmrs = s.expdTmrs ∧ s₀.timers = s.timers := by
  rcases ha with ⟨secs, rfl, rfl⟩ | ⟨ticks, data, handler, flags, rfl, rfl, hidx, rfl⟩
  · cases step_cases h with
    | modFail hf => simp at hf
    | stop he => simp at he
    | mod hp h =>
      exact ⟨_, s, h, rfl, hs, hs.lt_of_some hp, rfl, rfl, rfl, rfl⟩
  · obtain ⟨⟨s₂, o⟩, hcall, rfl⟩ := Option.map_eq_some_iff.mp h
    obtain ⟨-, -, k, -, h₂⟩ | ⟨hfails, -⟩ := startTimer_armed_or_failed hcall
    · exact ⟨_, _, h₂, rfl, hs.newTimer _, Nat.lt_succ_self _, rfl, rfl, rfl, rfl⟩
    · exact absurd ⟨rfl, rfl, hidx⟩ hfails

theorem not_mem_nodes_iff : (∀ n ∈ s.nodes, n.timer ≠ i) ↔ Unheld s i ∧ s.expired i = [] := by
  constructor
  · intro h
    refine ⟨fun w n hn ↦ h n (TimerMgr.mem_nodes.mpr (.inl ⟨w, hn⟩)), ?_⟩
    refine List.filter_eq_nil_iff.mpr fun n hn ↦ ?_
    simpa using h n (TimerMgr.mem_nodes.mpr (.inr hn))
  · rintro ⟨hu, hx⟩ n hn
    rcases TimerMgr.mem_nodes.mp hn with ⟨w, hw⟩ | hn
    · exact hu w n hw
    · simpa using List.filter_eq_nil_iff.mp hx n hn

theorem placed_packTime {x t : U32} (c : Clock) (a : NodeId) (i : TimerId)
    (h : findTmrSlot (packTime 0 x) = some (w, t)) :
    Placed c w ⟨a, i, packTime 0 x, c.get w + t⟩ := by
  obtain ⟨ht, hne⟩ := findTmrSlot_spec h
  refine ⟨findTmrSlot_coarser h, ?_, ?_⟩
  · rw [laps_add]
    exact Nat.pos_of_ne_zero fun h0 ↦ hne (BitVec.eq_of_toNat_eq h0)
  · rw [laps_add, ht]

theorem armTimer_placed (h : armTimer i p s = some s') (hne : p.rmt.toNat % 368640000 ≠ 0) :
    ∃ w n, n ∈ s'.root w ∧ n.id = s.nextNode ∧ n.timer = i ∧ Placed s'.clk w n ∧
      due s'.clk w n = expiryTicks s.clk p.rmt.toNat := by
  rcases armTimer_cases h with ⟨hf, rfl⟩ | ⟨w, t, hf, rfl⟩
  · exact absurd (findTmrSlot_packTime_eq_none.mp hf) hne
  · refine ⟨w, _, ?_, rfl, rfl, placed_packTime _ _ _ hf, due_packTime _ _ hf⟩
    exact mem_update_insert.mpr (.inl ⟨rfl, rfl⟩)

theorem waiting_of_armTimer (h : armTimer i p s = some s') (hu : Unheld s i)
    (hx : s.expired i = []) :
    (p.rmt.toNat % 368640000 = 0 ∧ Unheld s' i) ∨
      (p.rmt.toNat % 368640000 ≠ 0 ∧
        Waiting s' i (p.rmt + s.clk.tick) (expiryTicks s.clk p.rmt.toNat)) := by
  rcases armTimer_cases h with ⟨hf, rfl⟩ | ⟨w, t, hf, rfl⟩
  · exact .inl ⟨findTmrSlot_packTime_eq_none.mp hf, hu⟩
  · refine .inr ⟨fun h0 ↦ ?_, w, _, ⟨holds_insert hu rfl rfl, _, update_self _ _ _, rfl, rfl, rfl⟩,
      placed_packTime _ _ _ hf, due_packTime _ _ hf, hx⟩
    rw [findTmrSlot_packTime_eq_none.mpr h0] at hf
    cases hf

def Live (s : TimerMgr) : Prop :=
  ∀ w, ∀ n ∈ s.root w, ∃ p v, s.timers n.timer = some p ∧ p.wheel = some v

theorem Live.processTimer_isSome (hl : Live s) (hs : Wf s) (hn : n ∈ s.root w) :
    ∃ s', processTimer w n s = some s' := by
  obtain ⟨p, v, hp, hv⟩ := hl w n hn
  obtain ⟨r, hr, -⟩ := erase_of_mem hn (Wheels.id_nodup hs.wheels_nodup w)
  simp only [Timers.processTimer, clearWheelTimer, hp, hv, timerDel, hr, timerExpiryAction]
  split_ifs with hz
  · exact ⟨_, rfl⟩
  · obtain ⟨ut, hf⟩ := findTmrSlot_isSome hz
    simp only [findTmrSlotAndPlace, hf, hp]
    exact ⟨_, rfl⟩

theorem Live.processTimer (hl : Live s) (hs : Wf s) (hn : n ∈ s.root w)
    (h : processTimer w n s = some s') : Live s' := by
  intro v m hm
  obtain ⟨p, q, r, hp, hq, hr, hcase⟩ := processTimer_cases hs.wheels_nodup hn h
  have hkeep (o : Option TimerT) {v : Wheel} (hm : m ∈ update s.root w r v)
    (hmn : m.timer ≠ n.timer) :
      ∃ p v, update s.timers n.timer o m.timer = some p ∧ p.wheel = some v := by
    have hne : m ≠ n := fun he ↦ hmn (he ▸ rfl)
    rw [update_of_ne hmn]
    exact hl v m ((mem_update_of_perm hr hne v).mp hm)
  rcases hcase with ⟨-, rfl⟩ | ⟨u, t, -, rfl⟩
  · by_cases hmn : m.timer = n.timer
    · exact ⟨_, q, (congrArg _ hmn).trans (update_self _ _ _), hq⟩
    · exact hkeep _ hm hmn
  · by_cases hmn : m.timer = n.timer
    · exact ⟨_, u, (congrArg _ hmn).trans (update_self _ _ _), rfl⟩
    · rcases mem_update_insert.mp hm with ⟨-, rfl⟩ | hm
      · exact absurd rfl hmn
      · exact hkeep _ hm hmn

theorem Live.processTimersLoop (expires : U32) (fuel k : ℕ) (hl : Live s) (hs : Wf s) :
    ∃ s' k', processTimersLoop w expires fuel k s = some (s', k') ∧ Live s' := by
  induction fuel generalizing k s with
  | zero => exact ⟨s, k, rfl, hl⟩
  | succ fuel ih =>
    unfold Timers.processTimersLoop
    cases hn : timerTreeWalk s w expires with
    | none => exact ⟨s, k, rfl, hl⟩
    | some n =>
      have hmem := (RbRoot.search_some hn).1
      obtain ⟨s₁, h₁⟩ := hl.processTimer_isSome hs hmem
      simp only [h₁]
      exact ih (k + 1) (hl.processTimer hs hmem h₁) (hs.processTimer hmem h₁)

theorem Live.serviceWheel (hl : Live s) (hs : Wf s) :
    ∃ s', serviceWheel w s = some s' ∧ Live s' := by
  unfold Timers.serviceWheel processTimers
  split_ifs
  · obtain ⟨s', k', h, hl'⟩ := hl.processTimersLoop (s.clk.get w) (s.root w).toList.length 0 hs
    exact ⟨s', by rw [h]; rfl, hl'⟩
  · exact ⟨s, rfl, hl⟩

theorem Live.updateTimes (hl : Live s) (hs : Wf s) : ∃ s', updateTimes s = some s' ∧ Live s' := by
  rw [updateTimes_eq hs]
  have hl₀ : Live { s with clk := s.clk.next } := hl
  obtain ⟨s₁, h₁, hl₁⟩ := hl₀.serviceWheel (w := .tick) (hs.clk _)
  have hs₁ := ((hs.clk _).serviceWheel h₁).1
  obtain ⟨s₂, h₂, hl₂⟩ := hl₁.serviceWheel (w := .sec) hs₁
  have hs₂ := (hs₁.serviceWheel h₂).1
  obtain ⟨s₃, h₃, hl₃⟩ := hl₂.serviceWheel (w := .min) hs₂
  have hs₃ := (hs₂.serviceWheel h₃).1
  obtain ⟨s₄, h₄, hl₄⟩ := hl₃.serviceWheel (w := .hrs) hs₃
  exact ⟨s₄, by simp [serviceWheels, h₁, h₂, h₃, h₄], hl₄⟩

theorem spares_tick (i : TimerId) (s : TimerMgr) : Spares i s .tick :=
  ⟨⟨by simp, by simp [Cancels]⟩, by simp [Cancels]⟩

theorem Live.ticks (i : TimerId) (k : ℕ) (hl : Live s) (hs : Wf s) :
    ∃ s', Run step (Spares i) s (List.replicate k .tick) s' ∧ Live s' := by
  induction k generalizing s with
  | zero => exact ⟨s, .nil s, hl⟩
  | succ k ih =>
    obtain ⟨s₁, h₁, hl₁⟩ := hl.updateTimes hs
    obtain ⟨s', h', hl'⟩ := ih hl₁ (hs.updateTimes h₁)
    exact ⟨s', .cons (spares_tick i s) h₁ h', hl'⟩

theorem Live.armTimer (hl : Live s) (hu : Unheld s i) (h : armTimer i p s = some s') : Live s' := by
  intro v m hm
  have hkeep (o : Option TimerT) {v : Wheel} (hm : m ∈ s.root v) :
      ∃ p v, update s.timers i o m.timer = some p ∧ p.wheel = some v := by
    rw [update_of_ne (hu v m hm)]
    exact hl v m hm
  rcases armTimer_cases h with ⟨-, rfl⟩ | ⟨w, t, -, rfl⟩
  · exact hkeep _ hm
  · rcases mem_update_insert.mp hm with ⟨-, rfl⟩ | hm
    · exact ⟨_, w, update_self _ _ _, rfl⟩
    · exact hkeep _ hm

end Arming

section Expiry

variable {s s' s₁ s₂ s₃ : TimerMgr} {i : TimerId} {e : Event} {exp : U32} {d N : ℕ}

def Appended (i : TimerId) (s s' : TimerMgr) : Prop := ∃ n, s'.expired i = s.expired i ++ [n]

theorem not_appended (h : (s'.expired i).length ≤ (s.expired i).length) : ¬Appended i s s' := by
  rintro ⟨n, hn⟩
  rw [hn, List.length_append, List.length_singleton] at h
  omega

theorem Waiting.appended_iff (hw : Waiting s i exp d) (hs : Wf s) (hi : i < s.nextTimer)
    (hd : s.clk.Steady d) (hc : Spares i s e) (h : step s e = some s') :
    Appended i s s' ↔ e = .tick ∧ d = 1 := by
  by_cases he : e = .tick
  case neg =>
    have hsame := (hw.same_of_spares hc hs hi he h).1
    exact iff_of_false (not_appended (hsame.expired ▸ le_rfl)) fun h' ↦ he h'.1
  subst he
  obtain ⟨hsec, hmin⟩ := hd.one hw.pos
  obtain ⟨w, n, -, -, -, hx⟩ := id hw
  rcases hw.tick hs hsec hmin h with ⟨rfl, -, hn⟩ | ⟨d', rfl, hw'⟩
  · exact iff_of_true hn ⟨rfl, rfl⟩
  · obtain ⟨-, -, -, -, -, hx'⟩ := id hw'
    have hpos := hw'.pos
    refine iff_of_false (not_appended ?_) fun h' ↦ by omega
    rw [hx, hx']

theorem Waiting.remaining (hw : Waiting s i exp d)
    (h : 0 ≤ (exp - s.clk.tick).toInt) :
    timerGetRemainingTime s (some i) = some (exp - s.clk.tick, false) := by
  obtain ⟨w, n, ht, -⟩ := hw
  obtain ⟨p, hp, hrun, -, rfl⟩ := ht.timer
  simp only [timerGetRemainingTime, hp, hrun, Bool.not_true, Bool.false_eq_true, if_false]
  rw [if_neg (not_lt.mpr h)]

theorem sub_toInt_nonneg {x t : U32} {k : ℕ} (hk : k ≤ x.toNat) (hx : x.toNat < 2 ^ 31) :
    0 ≤ (x + t - (t + BitVec.ofNat 32 k)).toInt := by
  have hle : BitVec.ofNat 32 k ≤ x := by
    rw [BitVec.le_def, BitVec.toNat_ofNat, Nat.mod_eq_of_lt (by omega)]
    exact hk
  have he : x + t - (t + BitVec.ofNat 32 k) = x - BitVec.ofNat 32 k := by ring
  rw [he, BitVec.toInt_eq_toNat_of_lt]
  · exact Int.natCast_nonneg _
  · rw [BitVec.toNat_sub_of_le hle]
    omega

theorem Waiting.reaches (hw : Waiting s i exp d) (hs : Wf s) (hi : i < s.nextTimer)
    (hd : s.clk.Steady d) (hl : Live s) :
    ∃ s₂ s₃, Run step (Spares i) s (List.replicate (d - 1) .tick) s₂ ∧
      step s₂ .tick = some s₃ ∧ Appended i s₂ s₃ := by
  have hpos := hw.pos
  obtain ⟨s₂, h₂, hl₂⟩ := hl.ticks i (d - 1) hs
  obtain ⟨hs₂, hi₂, ⟨d', hcount, hw₂, hd₂⟩ | ⟨-, hcount⟩⟩ :=
    hw.run (fun _ _ hc ↦ hc.1) hs hi hd h₂
  · rw [List.count_replicate_self] at hcount
    obtain ⟨s₃, h₃, -⟩ := hl₂.updateTimes hs₂
    refine ⟨s₂, s₃, h₂, h₃, ?_⟩
    exact (hw₂.appended_iff (e := .tick) hs₂ hi₂ hd₂ (spares_tick i s₂) h₃).mpr ⟨rfl, by omega⟩
  · have := hcount fun _ _ hc ↦ hc
    rw [List.count_replicate_self] at this
    omega

theorem ArmedFor.waiting (ha : ArmedFor i N s e) (hs : Wf s) (h₁ : step s e = some s₁)
    (hidle : ∀ n ∈ s.nodes, n.timer ≠ i) :
    Wf s₁ ∧ i < s₁.nextTimer ∧ s₁.clk = s.clk ∧ (Live s → Live s₁) ∧
      ((N % 368640000 = 0 ∧ Unheld s₁ i) ∨
        ∃ x : U32, x.toNat = N ∧ N % 368640000 ≠ 0 ∧
          Waiting s₁ i (x + s.clk.tick) (expiryTicks s.clk N)) := by
  obtain ⟨p, s₀, harm, rfl, hs₀, hi, hclk, hroot, hexpd, htimers⟩ := ha.armTimer hs h₁
  obtain ⟨hu, hx⟩ := not_mem_nodes_iff.mp hidle
  have hu₀ : Unheld s₀ i := by
    intro w n hn
    exact hu w n (hroot ▸ hn)
  have hx₀ : s₀.expired i = [] := by
    rw [TimerMgr.expired, hexpd]
    exact hx
  refine ⟨hs.step h₁, armTimer_nextTimer harm ▸ hi, (armTimer_clk harm).trans hclk, ?_, ?_⟩
  · intro hl
    refine Live.armTimer ?_ hu₀ harm
    intro w n hn
    rw [htimers]
    exact hl w n (hroot ▸ hn)
  · rw [← hclk]
    exact (waiting_of_armTimer harm hu₀ hx₀).imp_right fun h ↦ ⟨p.rmt, rfl, h⟩

end Expiry

end Layer3Switch.Timers
