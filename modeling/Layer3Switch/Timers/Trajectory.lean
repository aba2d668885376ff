import Layer3Switch.Timers.WellFormed

namespace Layer3Switch.Timers

def Wheel.idx : Wheel → ℕ
  | .tick => 0
  | .sec => 1
  | .min => 2
  | .hrs => 3

def dueTo (c : Clock) (w : Wheel) (n : AppTimer) : Option (Wheel × AppTimer) :=
  (findTmrSlot (n.ctime &&& wheelMask w)).map fun (u, t) ↦
    (u, { n with ctime := n.ctime &&& wheelMask w, rt := c.get u + t })

def nextPlace (c : Clock) (w : Wheel) (n : AppTimer) : Option (Wheel × AppTimer) :=
  if c.serves w = true ∧ n.rt = c.get w then dueTo c w n else some (w, n)

def laps (c : Clock) (w : Wheel) (n : AppTimer) : ℕ := (n.rt - c.get w).toNat

/-- The node waits in wheel `w`, and its packed time has no coarser field. -/
structure Placed (c : Clock) (w : Wheel) (n : AppTimer) : Prop where
  coarser : ∀ u : Wheel, w.idx < u.idx → getField u n.ctime = 0
  laps_pos : 0 < laps c w n
  laps_le : laps c w n ≤ (getField w n.ctime).toNat

def secsPer : Wheel → ℕ
  | .tick => 0
  | .sec => 1
  | .min => 60
  | .hrs => 3600

def phase (c : Clock) : Wheel → ℕ
  | .tick => 0
  | .sec => 0
  | .min => c.sec.toNat % 60
  | .hrs => c.min.toNat % 60 * 60 + c.sec.toNat % 60

def secsBelow (w : Wheel) (ct : U32) : ℕ :=
  match w with
  | .tick => 0
  | .sec => 0
  | .min => (getSecs ct).toNat
  | .hrs => 60 * (getMins ct).toNat + (getSecs ct).toNat

def secsOf (ct : U32) : ℕ :=
  3600 * (getHrs ct).toNat + 60 * (getMins ct).toNat + (getSecs ct).toNat

def secsLeft (c : Clock) (w : Wheel) (n : AppTimer) : ℕ :=
  secsPer w * laps c w n - phase c w + secsBelow w n.ctime

/-- Ticks until `r` second boundaries and `t` more ticks have passed. The
boundary at which `clk[TICK]` wraps to zero comes four ticks too soon. -/
def ticksLeft (tick r t : ℕ) : ℕ :=
  let x := 100 * r - tick % 100
  x - (if 2 ^ 32 < tick + x then 4 else 0) + t

def due (c : Clock) (w : Wheel) (n : AppTimer) : ℕ :=
  match w with
  | .tick => laps c .tick n
  | w => ticksLeft c.tick.toNat (secsLeft c w n) (getTick n.ctime).toNat

theorem succ_mod_cases {tick : ℕ} (ht : tick < 2 ^ 32) :
    (tick + 1 < 2 ^ 32 ∧ (tick + 1) % 2 ^ 32 = tick + 1) ∨
      (tick = 4294967295 ∧ (tick + 1) % 2 ^ 32 = 0) := by
  omega

theorem ticksLeft_within {tick r : ℕ} (t : ℕ) (hr : 0 < r) (ht : tick < 2 ^ 32)
    (h : (tick + 1) % 2 ^ 32 % 100 ≠ 0) :
    ticksLeft ((tick + 1) % 2 ^ 32) r t + 1 = ticksLeft tick r t := by
  rcases succ_mod_cases ht with ⟨hlt, he⟩ | ⟨-, he⟩
  · rw [he] at h ⊢
    unfold ticksLeft
    simp only
    split_ifs <;> omega
  · rw [he] at h
    simp at h

theorem ticksLeft_boundary {tick r : ℕ} (t : ℕ) (hr : 0 < r) (hr' : r < 2 ^ 22) (ht : tick < 2 ^ 32)
    (h : (tick + 1) % 2 ^ 32 % 100 = 0) :
    ticksLeft ((tick + 1) % 2 ^ 32) (r - 1) t + 1 = ticksLeft tick r t := by
  rcases succ_mod_cases ht with ⟨hlt, he⟩ | ⟨hlt, he⟩
  · rw [he] at h ⊢
    unfold ticksLeft
    simp only
    split_ifs <;> omega
  · rw [he, hlt]
    unfold ticksLeft
    simp only
    split_ifs <;> omega

theorem ticksLeft_zero (tick t : ℕ) : ticksLeft tick 0 t = t := by
  unfold ticksLeft
  simp only
  split_ifs <;> omega

theorem umod_eq_zero_iff (x m : U32) : x % m = 0#32 ↔ x.toNat % m.toNat = 0 := by
  rw [← BitVec.toNat_inj]
  simp

theorem toNat_succ (x : U32) : (x + 1#32).toNat = (x.toNat + 1) % 2 ^ 32 := by
  rw [BitVec.toNat_add]
  rfl

theorem toNat_succ_of_lt {x : U32} (h : x.toNat + 1 < 2 ^ 32) : (x + 1#32).toNat = x.toNat + 1 := by
  rw [toNat_succ, Nat.mod_eq_of_lt h]

theorem succ_ne_zero_of_lt {x : U32} (h : x.toNat + 1 < 2 ^ 32) : x + 1#32 ≠ 0#32 := by
  intro h0
  have := toNat_succ_of_lt h
  rw [h0] at this
  simp at this

/-- The counters of the wheels up to index `k` have moved by one, and exactly
these wheels are served. -/
structure Moves (c c' : Clock) (k : ℕ) : Prop where
  serves : ∀ w, c'.serves w = decide (w.idx ≤ k)
  get : ∀ w, c'.get w = if w.idx ≤ k then c.get w + 1 else c.get w
  second : 1 ≤ k ↔ (c.tick.toNat + 1) % 2 ^ 32 % 100 = 0
  minute : 2 ≤ k ↔ 1 ≤ k ∧ (c.sec.toNat + 1) % 60 = 0
  hour : 3 ≤ k ↔ 2 ≤ k ∧ (c.min.toNat + 1) % 60 = 0

theorem Clock.moves_next {c : Clock} (hs : c.sec.toNat + 1 < 2 ^ 32)
    (hm : c.min.toNat + 1 < 2 ^ 32) : ∃ k, Moves c c.next k := by
  suffices h : ∃ k, (∀ w, c.next.serves w = decide (w.idx ≤ k)) ∧
      (∀ w, c.next.get w = if w.idx ≤ k then c.get w + 1 else c.get w) ∧
      (1 ≤ k ↔ (c.tick.toNat + 1) % 2 ^ 32 % 100 = 0) ∧
      (2 ≤ k ↔ 1 ≤ k ∧ (c.sec.toNat + 1) % 60 = 0) ∧
      (3 ≤ k ↔ 2 ≤ k ∧ (c.min.toNat + 1) % 60 = 0) by
    obtain ⟨k, h₁, h₂, h₃, h₄, h₅⟩ := h
    exact ⟨k, h₁, h₂, h₃, h₄, h₅⟩
  have ht : (c.tick + 1#32) % tmGetTicksPerSecond = 0#32 ↔
      (c.tick.toNat + 1) % 2 ^ 32 % 100 = 0 := by
    rw [umod_eq_zero_iff, toNat_succ]
    rfl
  have hs' : (c.sec + 1#32) % 60#32 = 0#32 ↔ (c.sec.toNat + 1) % 60 = 0 := by
    rw [umod_eq_zero_iff, toNat_succ_of_lt hs]
    rfl
  have hm' : (c.min + 1#32) % 60#32 = 0#32 ↔ (c.min.toNat + 1) % 60 = 0 := by
    rw [umod_eq_zero_iff, toNat_succ_of_lt hm]
    rfl
  have hs0 := succ_ne_zero_of_lt hs
  have hm0 := succ_ne_zero_of_lt hm
  rw [← ht, ← hs', ← hm']
  by_cases h₁ : (c.tick + 1#32) % tmGetTicksPerSecond = 0#32
  case neg =>
    have hn : c.next = { c with tick := c.tick + 1 } := by simp [Clock.next, h₁]
    refine ⟨0, fun w ↦ ?_, fun w ↦ ?_, by simp [h₁], by simp, by simp⟩
    · cases w <;> simp [hn, Clock.serves, Clock.isNxtSecHappend, h₁, Wheel.idx]
    · cases w <;> simp [hn, Clock.get, Wheel.idx]
  by_cases h₂ : (c.sec + 1#32) % 60#32 = 0#32
  case neg =>
    have hn : c.next = { c with tick := c.tick + 1, sec := c.sec + 1 } := by
      simp [Clock.next, h₁, h₂]
    refine ⟨1, fun w ↦ ?_, fun w ↦ ?_, by simp [h₁], by simp [h₂], by simp⟩
    · cases w <;> simp [hn, Clock.serves, Clock.isNxtSecHappend, Clock.isNxtMinHappend, h₁, h₂,
        Wheel.idx]
    · cases w <;> simp [hn, Clock.get, Wheel.idx]
  by_cases h₃ : (c.min + 1#32) % 60#32 = 0#32
  case neg =>
    have hn : c.next = { c with tick := c.tick + 1, sec := c.sec + 1, min := c.min + 1 } := by
      simp [Clock.next, h₁, h₂, h₃]
    refine ⟨2, fun w ↦ ?_, fun w ↦ ?_, by simp [h₁], by simp [h₂], by simp [h₃]⟩
    · cases w <;> simp [hn, Clock.serves, Clock.isNxtSecHappend, Clock.isNxtMinHappend,
        Clock.isNxtHrHappend, h₁, h₂, h₃, hs0, Wheel.idx]
    · cases w <;> simp [hn, Clock.get, Wheel.idx]
  · have hn : c.next = ⟨c.tick + 1, c.sec + 1, c.min + 1, c.hrs + 1⟩ := by
      simp [Clock.next, h₁, h₂, h₃]
    refine ⟨3, fun w ↦ ?_, fun w ↦ ?_, by simp [h₁], by simp [h₂], by simp [h₃]⟩
    · cases w <;> simp [hn, Clock.serves, Clock.isNxtSecHappend, Clock.isNxtMinHappend,
        Clock.isNxtHrHappend, h₁, h₂, h₃, hs0, hm0, Wheel.idx]
    · cases w <;> simp [hn, Clock.get, Wheel.idx]

theorem laps_of_moved {c c' : Clock} {w : Wheel} {n : AppTimer} (h : c'.get w = c.get w + 1)
    (hp : 0 < laps c w n) : laps c' w n + 1 = laps c w n := by
  unfold laps at *
  rw [h]
  have h' : n.rt - (c.get w + 1) = n.rt - c.get w - 1#32 := by
    rw [← BitVec.sub_sub]
    rfl
  rw [h', BitVec.toNat_sub_of_le]
  · simp only [BitVec.toNat_ofNat]
    omega
  · exact BitVec.le_def.mpr (Nat.succ_le_of_lt hp)

theorem laps_eq_zero_iff {c : Clock} {w : Wheel} {n : AppTimer} :
    laps c w n = 0 ↔ n.rt = c.get w := by
  unfold laps
  constructor
  · intro h
    have h0 : n.rt - c.get w = 0#32 := BitVec.eq_of_toNat_eq (by simpa using h)
    exact sub_eq_zero.mp h0
  · intro h
    rw [h, BitVec.sub_self]
    rfl

section Step

variable {c c' : Clock} {w u : Wheel} {n : AppTimer} {k : ℕ}

theorem idx_pos (hw : w ≠ .tick) : 1 ≤ w.idx := by
  cases w with
  | tick => exact absurd rfl hw
  | sec => exact le_rfl
  | min => exact Nat.le_succ 1
  | hrs => exact Nat.le_add_left 1 2

theorem getField_mask {ct : U32} (h : ∀ u : Wheel, w.idx < u.idx → getField u ct = 0) (u : Wheel) :
    getField u (ct &&& wheelMask w) = if u.idx < w.idx then getField u ct else 0 := by
  rw [getField_and_wheelMask]
  by_cases huw : u = w
  · simp [huw]
  · have hne : u.idx ≠ w.idx := by cases u <;> cases w <;> simp_all [Wheel.idx]
    rw [if_neg huw]
    split_ifs with hlt
    · rfl
    · exact h u (by omega)

theorem findTmrSlot_coarser {ct t : U32} (h : findTmrSlot ct = some (u, t)) (v : Wheel)
    (hv : u.idx < v.idx) : getField v ct = 0 := by
  unfold findTmrSlot at h
  split_ifs at h with h₁ h₂ h₃ h₄ <;> cases h <;> cases v <;> simp_all [Wheel.idx, getField]

theorem findTmrSlot_eq_none {ct : U32} : findTmrSlot ct = none ↔ ct = 0 := by
  constructor
  · intro h
    by_contra hne
    obtain ⟨wt, hf⟩ := findTmrSlot_isSome hne
    simp [hf] at h
  · rintro rfl
    decide

theorem Moves.laps_of_le (h : Moves c c' k) (hw : w.idx ≤ k) (hp : 0 < laps c w n) :
    laps c' w n + 1 = laps c w n :=
  laps_of_moved ((h.get w).trans (if_pos hw)) hp

theorem Moves.laps_of_lt (h : Moves c c' k) (hw : k < w.idx) : laps c' w n = laps c w n := by
  rw [laps, h.get w, if_neg (by omega), laps]

theorem Moves.sec_toNat (h : Moves c c' k) (hs : c.sec.toNat + 1 < 2 ^ 32) :
    1 ≤ k ∧ c'.sec.toNat = c.sec.toNat + 1 ∨ k = 0 ∧ c'.sec.toNat = c.sec.toNat := by
  by_cases hk : Wheel.sec.idx ≤ k
  · have hg : c'.sec = c.sec + 1 := (h.get .sec).trans (if_pos hk)
    exact .inl ⟨hk, hg ▸ toNat_succ_of_lt hs⟩
  · have hg : c'.sec = c.sec := (h.get .sec).trans (if_neg hk)
    exact .inr ⟨Nat.lt_one_iff.mp (not_le.mp hk), hg ▸ rfl⟩

theorem Moves.min_toNat (h : Moves c c' k) (hm : c.min.toNat + 1 < 2 ^ 32) :
    2 ≤ k ∧ c'.min.toNat = c.min.toNat + 1 ∨ k ≤ 1 ∧ c'.min.toNat = c.min.toNat := by
  by_cases hk : Wheel.min.idx ≤ k
  · have hg : c'.min = c.min + 1 := (h.get .min).trans (if_pos hk)
    exact .inl ⟨hk, hg ▸ toNat_succ_of_lt hm⟩
  · have hg : c'.min = c.min := (h.get .min).trans (if_neg hk)
    exact .inr ⟨Nat.le_of_lt_succ (not_le.mp hk), hg ▸ rfl⟩

theorem Moves.secsLeft_stay (h : Moves c c' k) (hs : c.sec.toNat + 1 < 2 ^ 32)
    (hm : c.min.toNat + 1 < 2 ^ 32) (hw : w ≠ .tick) (hp : 0 < laps c w n)
    (hp' : 0 < laps c' w n) : secsLeft c' w n = secsLeft c w n - (if 1 ≤ k then 1 else 0) := by
  have hsec := h.sec_toNat hs
  have hmin := h.min_toNat hm
  have hmn := h.minute
  have hhr := h.hour
  have hl : k < w.idx ∧ laps c' w n = laps c w n ∨ w.idx ≤ k ∧ laps c' w n + 1 = laps c w n := by
    rcases lt_or_ge k w.idx with hk | hk
    · exact .inl ⟨hk, h.laps_of_lt hk⟩
    · exact .inr ⟨hk, h.laps_of_le hk hp⟩
  unfold secsLeft
  generalize laps c w n = l, laps c' w n = l', secsBelow w n.ctime = f at *
  cases w with
  | tick => exact absurd rfl hw
  | sec =>
    simp only [secsPer, phase, Wheel.idx] at hl ⊢
    split_ifs <;> omega
  | min =>
    simp only [secsPer, phase, Wheel.idx] at hl ⊢
    split_ifs <;> omega
  | hrs =>
    simp only [secsPer, phase, Wheel.idx] at hl ⊢
    split_ifs <;> omega

theorem laps_add (c : Clock) (u : Wheel) (i : NodeId) (j : TimerId) (ct t : U32) :
    laps c u ⟨i, j, ct, c.get u + t⟩ = t.toNat := by
  simp only [laps, add_sub_cancel_left]

theorem secsOf_eq {ct : U32} (h : ∀ v : Wheel, u.idx < v.idx → getField v ct = 0) :
    secsOf ct = secsPer u * (getField u ct).toNat + secsBelow u ct := by
  have hs := h .sec
  have hm := h .min
  have hh := h .hrs
  cases u <;> simp only [Wheel.idx, getField] at hs hm hh <;>
    simp_all [secsOf, secsPer, secsBelow, getField]
  omega

theorem secsOf_mask {ct : U32} (h : ∀ v : Wheel, w.idx < v.idx → getField v ct = 0) :
    secsOf (ct &&& wheelMask w) = secsBelow w ct := by
  have hs := getField_mask h .sec
  have hm := getField_mask h .min
  have hh := getField_mask h .hrs
  simp only [getField] at hs hm hh
  cases w <;> simp [secsOf, secsBelow, hs, hm, hh, Wheel.idx]

theorem Moves.phase_due (h : Moves c c' k) (hs : c.sec.toNat + 1 < 2 ^ 32)
    (hm : c.min.toNat + 1 < 2 ^ 32) (hk : w.idx ≤ k) (hw : w ≠ .tick) :
    phase c w + 1 = secsPer w ∧ ∀ u : Wheel, u.idx < w.idx → phase c' u = 0 := by
  have hsec := h.sec_toNat hs
  have hmin := h.min_toNat hm
  have hmn := h.minute
  have hhr := h.hour
  constructor
  · cases w <;> simp only [phase, secsPer, Wheel.idx] at hk hw ⊢ <;>
      first | omega | exact absurd rfl hw
  · intro u hu
    cases w <;> cases u <;> simp only [phase, Wheel.idx] at hk hu ⊢ <;> omega

theorem Moves.placed_due (h : Moves c c' k) (hs : c.sec.toNat + 1 < 2 ^ 32)
    (hm : c.min.toNat + 1 < 2 ^ 32) (hp : Placed c w n) (hk : w.idx ≤ k) (hl : laps c w n = 1)
    {t : U32} (hf : findTmrSlot (n.ctime &&& wheelMask w) = some (u, t)) :
    u.idx < w.idx ∧
    Placed c' u ⟨n.id, n.timer, n.ctime &&& wheelMask w, c'.get u + t⟩ ∧
    secsLeft c' u ⟨n.id, n.timer, n.ctime &&& wheelMask w, c'.get u + t⟩ + 1 = secsLeft c w n ∧
    getTick (n.ctime &&& wheelMask w) = getTick n.ctime := by
  obtain ⟨ht, ht0⟩ := findTmrSlot_spec hf
  have hcoarse := findTmrSlot_coarser hf
  have hmask := getField_mask hp.coarser
  have huw : u.idx < w.idx := by
    by_contra hge
    rw [hmask, if_neg hge] at ht
    exact ht0 ht
  have hw : w ≠ .tick := by
    rintro rfl
    simp [Wheel.idx] at huw
  have htick : getTick (n.ctime &&& wheelMask w) = getTick n.ctime :=
    (hmask .tick).trans (if_pos ((Nat.zero_le _).trans_lt huw))
  obtain ⟨hphase, hzero⟩ := h.phase_due hs hm hk hw
  refine ⟨huw, ⟨hcoarse, ?_, ?_⟩, ?_, htick⟩
  · rw [laps_add]
    exact Nat.pos_of_ne_zero fun h0 ↦ ht0 (BitVec.eq_of_toNat_eq h0)
  · rw [laps_add, ht]
  · rw [secsLeft, secsLeft, laps_add, hl, hzero u huw, ht, Nat.sub_zero, ← secsOf_eq hcoarse,
      secsOf_mask hp.coarser]
    omega

theorem phase_lt (c : Clock) (hw : w ≠ .tick) : phase c w < secsPer w := by
  cases w <;> simp only [phase, secsPer] at hw ⊢ <;> first | omega | exact absurd rfl hw

theorem Placed.secsLeft_pos (hp : Placed c w n) (hw : w ≠ .tick) : 0 < secsLeft c w n := by
  have h := phase_lt c hw
  have hl := Nat.le_mul_of_pos_right (secsPer w) hp.laps_pos
  unfold secsLeft
  omega

theorem Placed.secsLeft_lt (hp : Placed c w n) : secsLeft c w n < 2 ^ 22 := by
  have hl := hp.laps_le.trans_lt (getField_lt w n.ctime)
  have hs := getField_lt .sec n.ctime
  have hm := getField_lt .min n.ctime
  simp only [getField] at hs hm
  unfold secsLeft
  cases w <;> simp only [secsPer, secsBelow] <;> omega

theorem due_of_ne_tick (hw : w ≠ .tick) :
    due c w n = ticksLeft c.tick.toNat (secsLeft c w n) (getTick n.ctime).toNat := by
  cases w <;> first | rfl | exact absurd rfl hw

theorem secsLeft_tick : secsLeft c .tick n = 0 := by
  simp [secsLeft, secsPer, secsBelow]

theorem Moves.tick_toNat (h : Moves c c' k) : c'.tick.toNat = (c.tick.toNat + 1) % 2 ^ 32 := by
  have hg : c'.tick = c.tick + 1 := (h.get .tick).trans (if_pos (Nat.zero_le k))
  rw [hg]
  exact toNat_succ c.tick

theorem Moves.stay (h : Moves c c' k) (hs : c.sec.toNat + 1 < 2 ^ 32)
    (hm : c.min.toNat + 1 < 2 ^ 32) (hp : Placed c w n)
    (hno : ¬(w.idx ≤ k ∧ laps c w n = 1)) :
    Placed c' w n ∧ due c' w n + 1 = due c w n := by
  have hpos := hp.laps_pos
  have hl : 0 < laps c' w n ∧ laps c' w n ≤ laps c w n := by
    rcases lt_or_ge k w.idx with hk | hk
    · rw [h.laps_of_lt hk]
      exact ⟨hpos, le_rfl⟩
    · have := h.laps_of_le hk hpos
      omega
  refine ⟨⟨hp.coarser, hl.1, hl.2.trans hp.laps_le⟩, ?_⟩
  by_cases hw : w = .tick
  · subst hw
    exact h.laps_of_le (Nat.zero_le k) hpos
  rw [due_of_ne_tick hw, due_of_ne_tick hw, h.secsLeft_stay hs hm hw hpos hl.1, h.tick_toNat]
  split_ifs with hk
  · exact ticksLeft_boundary _ (hp.secsLeft_pos hw) hp.secsLeft_lt c.tick.isLt (h.second.mp hk)
  · exact ticksLeft_within _ (hp.secsLeft_pos hw) c.tick.isLt fun h0 ↦ hk (h.second.mpr h0)

theorem Moves.cascade (h : Moves c c' k) (hs : c.sec.toNat + 1 < 2 ^ 32)
    (hm : c.min.toNat + 1 < 2 ^ 32) (hp : Placed c w n) (hk : w.idx ≤ k) (hl : laps c w n = 1)
    {t : U32} (hf : findTmrSlot (n.ctime &&& wheelMask w) = some (u, t)) :
    u.idx < w.idx ∧ Placed c' u ⟨n.id, n.timer, n.ctime &&& wheelMask w, c'.get u + t⟩ ∧
    due c' u ⟨n.id, n.timer, n.ctime &&& wheelMask w, c'.get u + t⟩ + 1 = due c w n := by
  obtain ⟨huw, hp', hleft, htick⟩ := h.placed_due hs hm hp hk hl hf
  have hw : w ≠ .tick := by
    rintro rfl
    simp [Wheel.idx] at huw
  have hsecond : 1 ≤ k := (idx_pos hw).trans hk
  refine ⟨huw, hp', ?_⟩
  have hdue : due c' u ⟨n.id, n.timer, n.ctime &&& wheelMask w, c'.get u + t⟩ =
      ticksLeft c'.tick.toNat (secsLeft c w n - 1) (getTick n.ctime).toNat := by
    rw [← hleft, Nat.add_sub_cancel, ← htick]
    by_cases hu : u = .tick
    · subst hu
      rw [secsLeft_tick, ticksLeft_zero]
      exact (laps_add _ _ _ _ _ _).trans (congrArg BitVec.toNat (findTmrSlot_spec hf).1)
    · exact due_of_ne_tick hu
  rw [hdue, due_of_ne_tick hw, h.tick_toNat]
  exact ticksLeft_boundary _ (hp.secsLeft_pos hw) hp.secsLeft_lt c.tick.isLt (h.second.mp hsecond)

theorem Moves.expire (h : Moves c c' k) (hs : c.sec.toNat + 1 < 2 ^ 32)
    (hm : c.min.toNat + 1 < 2 ^ 32) (hp : Placed c w n) (hk : w.idx ≤ k) (hl : laps c w n = 1)
    (hz : n.ctime &&& wheelMask w = 0) : due c w n = 1 := by
  by_cases hw : w = .tick
  · subst hw
    exact hl
  have hsecond : 1 ≤ k := (idx_pos hw).trans hk
  have htick : getTick n.ctime = 0 := by
    have hmask := (getField_mask hp.coarser .tick).trans (if_pos (idx_pos hw))
    rw [hz] at hmask
    exact hmask.symm.trans (by decide)
  have hleft : secsLeft c w n = 1 := by
    have hbelow := secsOf_mask hp.coarser
    rw [hz] at hbelow
    have hphase := (h.phase_due hs hm hk hw).1
    have h0 : secsOf 0 = 0 := by decide
    unfold secsLeft
    rw [hl]
    omega
  have hb := ticksLeft_boundary 0 (hp.secsLeft_pos hw) hp.secsLeft_lt c.tick.isLt
    (h.second.mp hsecond)
  rw [hleft, Nat.sub_self, ticksLeft_zero] at hb
  rw [due_of_ne_tick hw, hleft, htick]
  exact hb.symm

theorem due_nextPlace (hs : c.sec.toNat + 1 < 2 ^ 32) (hm : c.min.toNat + 1 < 2 ^ 32)
    (hp : Placed c w n) :
    (nextPlace c.next w n = none ∧ due c w n = 1) ∨
    ∃ u m, nextPlace c.next w n = some (u, m) ∧ Placed c.next u m ∧
      due c.next u m + 1 = due c w n ∧ (u = w ∧ m = n ∨ u.idx < w.idx) := by
  obtain ⟨k, h⟩ := Clock.moves_next hs hm
  unfold nextPlace
  by_cases hdue : w.idx ≤ k ∧ laps c w n = 1
  · have hcond : c.next.serves w = true ∧ n.rt = c.next.get w := by
      refine ⟨(h.serves w).trans (by simp [hdue.1]), laps_eq_zero_iff.mp ?_⟩
      have := h.laps_of_le hdue.1 hp.laps_pos
      omega
    rw [if_pos hcond, dueTo]
    cases hf : findTmrSlot (n.ctime &&& wheelMask w) with
    | none =>
      exact .inl ⟨rfl, h.expire hs hm hp hdue.1 hdue.2 (findTmrSlot_eq_none.mp hf)⟩
    | some ut =>
      obtain ⟨huw, hp', hd⟩ := h.cascade hs hm hp hdue.1 hdue.2 hf
      exact .inr ⟨_, _, rfl, hp', hd, .inr huw⟩
  · have hcond : ¬(c.next.serves w = true ∧ n.rt = c.next.get w) := by
      rintro ⟨hserve, hrt⟩
      have hk : w.idx ≤ k := by simpa using (h.serves w).symm.trans hserve
      have := h.laps_of_le hk hp.laps_pos
      rw [laps_eq_zero_iff.mpr hrt] at this
      exact hdue ⟨hk, this.symm⟩
    obtain ⟨hp', hd⟩ := h.stay hs hm hp hdue
    exact .inr ⟨w, n, if_neg hcond, hp', hd, .inl ⟨rfl, rfl⟩⟩

end Step

end Layer3Switch.Timers
