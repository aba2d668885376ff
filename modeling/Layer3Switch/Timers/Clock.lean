import Layer3Switch.Timers.OnTime

namespace Layer3Switch.Timers

open Lib Lib.Rbtree Function

section Packed

/-- The fields of a time word are in range and make up the number of ticks. -/
structure Faithful (ct tick : U32) : Prop where
  mins : (getMins ct).toNat < 60
  secs : (getSecs ct).toNat < 60
  ticks : (getTick ct).toNat < 100
  total : (getHrs ct).toNat * 360000 + (getMins ct).toNat * 6000 + (getSecs ct).toNat * 100 +
    (getTick ct).toNat = tick.toNat

theorem clearWheelTimer_getField {ptmr : AppTimer} {s : TimerMgr} {p : TimerT} {w : Wheel}
    (hp : s.timers ptmr.timer = some p) (hw : p.wheel = some w) :
    ∃ ct, clearWheelTimer ptmr s = some { ptmr with ctime := ct } ∧
      ∀ v, getField v ct = if v = w then 0 else getField v ptmr.ctime := by
  refine ⟨ptmr.ctime &&& wheelMask w, ?_, fun v ↦ getField_and_wheelMask w v ptmr.ctime⟩
  simp only [clearWheelTimer, hp, hw]

/-- The hours have ten bits, so that the packed time is faithful below 1024 hours only.
Clearing a wheel is exact for every time word. -/
theorem packed_time_faithful_iff (tick : U32) :
    (Faithful (packTime 0 tick) tick ↔ tick.toNat < 1024 * 360000) ∧
      ∀ ptmr s p w, s.timers ptmr.timer = some p → p.wheel = some w →
        ∃ ct, clearWheelTimer ptmr s = some { ptmr with ctime := ct } ∧
          ∀ v, getField v ct = if v = w then 0 else getField v ptmr.ctime := by
  refine ⟨?_, fun ptmr s p w hp hw ↦ clearWheelTimer_getField hp hw⟩
  have hhrs := toNat_getField_packTime .hrs tick
  have hmins := toNat_getField_packTime .min tick
  have hsecs := toNat_getField_packTime .sec tick
  have hticks := toNat_getField_packTime .tick tick
  simp only [getField] at hhrs hmins hsecs hticks
  have hlt := tick.isLt
  constructor
  · intro h
    have htotal := h.total
    rw [hhrs, hmins, hsecs, hticks] at htotal
    omega
  · intro h
    refine ⟨?_, ?_, ?_, ?_⟩
    · omega
    · omega
    · omega
    · rw [hhrs, hmins, hsecs, hticks]
      omega

/-- An hour, a minute, a second and a tick. -/
theorem packed_time_faithful_hour :
    Faithful (packTime 0 366101) 366101 ∧
      ∃ ct, clearWheelTimer ⟨0, 0, packTime 0 366101, 0⟩
          { initTimerMgr with
            timers := fun _ ↦ some ⟨0, 0, some .min, 0, 0, false, 0, none, none⟩ } =
            some ⟨0, 0, ct, 0⟩ ∧ getHrs ct = 1 ∧ getMins ct = 0 := by
  obtain ⟨hiff, hclear⟩ := packed_time_faithful_iff 366101
  obtain ⟨ct, hct, hfield⟩ := hclear ⟨0, 0, packTime 0 366101, 0⟩
    { initTimerMgr with timers := fun _ ↦ some ⟨0, 0, some .min, 0, 0, false, 0, none, none⟩ }
    _ .min rfl rfl
  refine ⟨hiff.mpr (by decide), ct, hct, ?_, ?_⟩
  · exact (hfield .hrs).trans (by decide)
  · exact (hfield .min).trans (by decide)

/-- 1024 hours are packed like no time at all. -/
theorem packed_time_overflows :
    packTime 0 368640000 = 0 ∧ ¬Faithful (packTime 0 368640000) 368640000 := by
  have hzero : packTime 0 368640000 = 0 := by decide
  refine ⟨hzero, fun h ↦ ?_⟩
  have htotal := h.total
  rw [hzero] at htotal
  exact absurd htotal (by decide)

end Packed

/-- The counters of seconds, minutes and hours agree with the number of ticks. -/
structure Clock.Exact (c : Clock) (n : ℕ) : Prop where
  sec : c.sec.toNat = n / 100 % 2 ^ 32
  min : c.min.toNat = n / 6000 % 2 ^ 32
  hrs : c.hrs.toNat = n / 360000 % 2 ^ 32

def Clock.exact (n : ℕ) : Clock :=
  ⟨BitVec.ofNat 32 n, BitVec.ofNat 32 (n / 100), BitVec.ofNat 32 (n / 6000),
    BitVec.ofNat 32 (n / 360000)⟩

theorem Clock.exact_exact (n : ℕ) : (exact n).Exact n :=
  ⟨BitVec.toNat_ofNat _ _, BitVec.toNat_ofNat _ _, BitVec.toNat_ofNat _ _⟩

theorem ofNat_succ_mod_ne_zero {n k : ℕ} (hn : n + 1 < 2 ^ 32) (hk : k < 2 ^ 32) :
    (BitVec.ofNat 32 n + 1) % BitVec.ofNat 32 k ≠ 0 ↔ (n + 1) % k ≠ 0 := by
  have hone : BitVec.ofNat 32 n + 1 = BitVec.ofNat 32 (n + 1) := (BitVec.ofNat_add n 1).symm
  rw [hone, ne_eq, ← BitVec.toNat_inj, BitVec.toNat_umod, BitVec.toNat_ofNat, BitVec.toNat_ofNat,
    Nat.mod_eq_of_lt hn, Nat.mod_eq_of_lt hk]
  rfl

theorem Clock.next_exact {n : ℕ} (hn : n + 1 < 2 ^ 32) : (exact n).next = exact (n + 1) := by
  have hsucc : ∀ a b : ℕ, b = a + 1 → BitVec.ofNat 32 a + 1 = BitVec.ofNat 32 b := by
    rintro a _ rfl
    exact (BitVec.ofNat_add a 1).symm
  have htick : (BitVec.ofNat 32 n + 1) % tmGetTicksPerSecond ≠ 0 ↔ (n + 1) % 100 ≠ 0 :=
    ofNat_succ_mod_ne_zero hn (by decide)
  have hsec := ofNat_succ_mod_ne_zero (n := n / 100) (k := 60) (by omega) (by decide)
  have hmin := ofNat_succ_mod_ne_zero (n := n / 6000) (k := 60) (by omega) (by decide)
  unfold next
  dsimp only [exact]
  by_cases h₁ : (n + 1) % 100 ≠ 0
  · rw [if_pos (htick.mpr h₁), hsucc n _ rfl]
    have e₁ : (n + 1) / 100 = n / 100 := by omega
    have e₂ : (n + 1) / 6000 = n / 6000 := by omega
    have e₃ : (n + 1) / 360000 = n / 360000 := by omega
    rw [e₁, e₂, e₃]
  · rw [if_neg (mt htick.mp h₁), hsucc n _ rfl]
    have e₁ : (n + 1) / 100 = n / 100 + 1 := by omega
    by_cases h₂ : (n / 100 + 1) % 60 ≠ 0
    · rw [if_pos (hsec.mpr h₂), hsucc (n / 100) _ e₁]
      have e₂ : (n + 1) / 6000 = n / 6000 := by omega
      have e₃ : (n + 1) / 360000 = n / 360000 := by omega
      rw [e₂, e₃]
    · rw [if_neg (mt hsec.mp h₂), hsucc (n / 100) _ e₁]
      have e₂ : (n + 1) / 6000 = n / 6000 + 1 := by omega
      by_cases h₃ : (n / 6000 + 1) % 60 ≠ 0
      · rw [if_pos (hmin.mpr h₃), hsucc (n / 6000) _ e₂]
        have e₃ : (n + 1) / 360000 = n / 360000 := by omega
        rw [e₃]
      · rw [if_neg (mt hmin.mp h₃), hsucc (n / 6000) _ e₂]
        have e₃ : (n + 1) / 360000 = n / 360000 + 1 := by omega
        rw [hsucc (n / 360000) _ e₃]

theorem Clock.next_wrap : (exact (2 ^ 32 - 1)).next.sec = 42949673 := by decide

section Runs

variable {s s' : TimerMgr} {es : List Event} {C : TimerMgr → Event → Prop}

theorem run_clk_exact {n : ℕ} (hs : Wf s) (hclk : s.clk = Clock.exact n)
    (h : Run step C s es s') (hn : n + es.count .tick < 2 ^ 32) :
    s'.clk = Clock.exact (n + es.count .tick) := by
  induction h generalizing n with
  | nil => exact hclk
  | @cons s s₁ s₂ e es _ hstep _ ih =>
    have hclk₁ := step_clk hs hstep
    by_cases he : e = .tick
    · subst he
      rw [List.count_cons_self] at hn ⊢
      rw [if_pos rfl, hclk, Clock.next_exact (by omega)] at hclk₁
      rw [ih (hs.step hstep) hclk₁ (by omega)]
      congr 1
      omega
    · rw [List.count_cons_of_ne he] at hn ⊢
      rw [if_neg he, hclk] at hclk₁
      exact ih (hs.step hstep) hclk₁ hn

theorem exists_split_tick {k : ℕ} (h : k < es.count .tick) :
    ∃ es₁ es₂, es = es₁ ++ .tick :: es₂ ∧ es₁.count .tick = k := by
  induction es generalizing k with
  | nil => simp at h
  | cons e es ih =>
    by_cases he : e = .tick
    · subst he
      cases k with
      | zero => exact ⟨[], es, rfl, rfl⟩
      | succ k =>
        rw [List.count_cons_self] at h
        obtain ⟨es₁, es₂, rfl, hk⟩ := ih (Nat.lt_of_succ_lt_succ h)
        exact ⟨.tick :: es₁, es₂, rfl, by rw [List.count_cons_self, hk]⟩
    · rw [List.count_cons_of_ne he] at h
      obtain ⟨es₁, es₂, rfl, hk⟩ := ih h
      exact ⟨e :: es₁, es₂, rfl, by rw [List.count_cons_of_ne he, hk]⟩

theorem not_exact_of_wrap (h : Run step C initTimerMgr es s) (hcount : es.count .tick = 2 ^ 32 - 1)
    (hstep : step s .tick = some s') : ¬s'.clk.Exact (2 ^ 32) := by
  intro hexact
  have hclk := run_clk_exact (n := 0) wf_init rfl h (by rw [hcount]; decide)
  rw [Nat.zero_add, hcount] at hclk
  have hnext := step_clk (wf_init.run h) hstep
  rw [if_pos rfl, hclk] at hnext
  have hsec := hexact.sec
  rw [hnext, Clock.next_wrap] at hsec
  exact absurd hsec (by decide)

/-- The counters agree with the number of ticks all through a run just when it has fewer
than 2^32 of them. -/
theorem clock_exact_iff (h : Run step (fun _ _ ↦ True) initTimerMgr es s) :
    (∀ es₁ es₂ s₁, es = es₁ ++ es₂ → Run step (fun _ _ ↦ True) initTimerMgr es₁ s₁ →
      s₁.clk.Exact (es₁.count .tick)) ↔ es.count .tick < 2 ^ 32 := by
  constructor
  · intro hall
    by_contra hge
    obtain ⟨es₁, es₂, rfl, hk⟩ :=
      exists_split_tick (k := 2 ^ 32 - 1) (by omega : 2 ^ 32 - 1 < es.count .tick)
    obtain ⟨s₁, hrun₁, hrun₂⟩ := h.split
    cases hrun₂ with
    | @cons _ s₂ _ _ _ _ hstep hrest =>
      have hexact := hall (es₁ ++ [.tick]) es₂ s₂ (by simp) (hrun₁.trans (.one trivial hstep))
      rw [List.count_append, hk] at hexact
      exact not_exact_of_wrap hrun₁ hk hstep hexact
  · rintro hlt es₁ es₂ s₁ rfl hrun₁
    rw [List.count_append] at hlt
    rw [run_clk_exact (n := 0) wf_init rfl hrun₁ (by omega), Nat.zero_add]
    exact Clock.exact_exact _

theorem run_ticks (n : ℕ) : ∃ c, Run step (fun _ _ ↦ True) initTimerMgr (List.replicate n .tick)
    { initTimerMgr with clk := c } := by
  induction n with
  | zero => exact ⟨_, .nil _⟩
  | succ n ih =>
    obtain ⟨c, hrun⟩ := ih
    rw [List.replicate_succ']
    exact ⟨c.next, hrun.trans (.one trivial rfl)⟩

theorem clock_exact_first_second : ∃ s, Run step (fun _ _ ↦ True) initTimerMgr
    (List.replicate 100 .tick) s ∧ s.clk.Exact 100 ∧ s.clk.sec = 1 := by
  obtain ⟨c, hrun⟩ := run_ticks 100
  have hexact := (clock_exact_iff hrun).mpr (by rw [List.count_replicate_self]; decide)
    _ [] _ (List.append_nil _).symm hrun
  rw [List.count_replicate_self] at hexact
  exact ⟨_, hrun, hexact, BitVec.eq_of_toNat_eq hexact.sec⟩

/-- After 2^32 ticks the seconds are one ahead. -/
theorem clock_drifts_at_wrap : ∃ s, Run step (fun _ _ ↦ True) initTimerMgr
    (List.replicate (2 ^ 32) .tick) s ∧ ¬s.clk.Exact (2 ^ 32) := by
  obtain ⟨c, hrun⟩ := run_ticks (2 ^ 32 - 1)
  have hstep : step { initTimerMgr with clk := c } .tick =
      some { initTimerMgr with clk := c.next } := rfl
  refine ⟨_, ?_, not_exact_of_wrap hrun List.count_replicate_self hstep⟩
  have hall := hrun.trans (.one trivial hstep)
  rwa [← List.replicate_succ'] at hall

end Runs

end Layer3Switch.Timers
