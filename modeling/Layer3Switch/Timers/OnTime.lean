import Layer3Switch.Timers.Expiry

namespace Layer3Switch.Timers

open Lib Lib.Rbtree Function

section Steps

variable {s s' : TimerMgr} {i j : TimerId} {p : TimerT} {w u : Wheel} {n m : AppTimer} {e : Event}
  {exp : U32} {d : ℕ}

theorem updateTimes_clk (hs : Wf s) (h : updateTimes s = some s') : s'.clk = s.clk.next := by
  rw [updateTimes_eq hs] at h
  obtain ⟨s₁, h₁, h⟩ := Option.bind_eq_some_iff.mp h
  obtain ⟨s₂, h₂, h⟩ := Option.bind_eq_some_iff.mp h
  obtain ⟨s₃, h₃, h⟩ := Option.bind_eq_some_iff.mp h
  obtain ⟨hs₁, hc₁⟩ := (hs.clk s.clk.next).serviceWheel h₁
  obtain ⟨hs₂, hc₂⟩ := hs₁.serviceWheel h₂
  obtain ⟨hs₃, hc₃⟩ := hs₂.serviceWheel h₃
  rw [(hs₃.serviceWheel h).2, hc₃, hc₂, hc₁]

theorem armTimer_clk (h : armTimer i p s = some s') : s'.clk = s.clk := by
  rcases armTimer_cases h with ⟨-, rfl⟩ | ⟨w, t, -, rfl⟩
  · rfl
  · rfl

theorem step_clk (hs : Wf s) (h : step s e = some s') :
    s'.clk = if e = .tick then s.clk.next else s.clk := by
  cases step_cases h with
  | setupFail handler data mem k => rfl
  | setup handler data mem k => rfl
  | startFail ticks data handler flags mem memApp k => rfl
  | start h => simpa using armTimer_clk h
  | modFail => rfl
  | mod hp h => simpa using armTimer_clk h
  | @stop j e s' he h =>
    have hne : e ≠ .tick := by rcases he with rfl | rfl <;> simp
    rw [if_neg hne]
    obtain ⟨p, -, ⟨rfl, -⟩ | ⟨a, w, r, -, -, -, -, rfl⟩⟩ := stopTimer_cases h
    · rfl
    · rfl
  | tick h => simpa using updateTimes_clk hs h
  | serve h =>
    obtain ⟨-, ⟨-, rfl⟩ | ⟨n, tl, p, -, -, rfl⟩⟩ := serveTimer_cases h
    · rfl
    · rfl
  | finish h =>
    obtain ⟨n, tl, p, o, -, -, -, -, rfl⟩ := finishTimer_cases hs h
    rfl

def Leaves (i : TimerId) (e : Event) : Prop :=
  (∀ secs, e ≠ .modTimer (some i) secs true) ∧ ¬Cancels e i

def StopSpares (i : TimerId) (s : TimerMgr) (j : TimerId) : Prop :=
  ∀ p a w, s.timers j = some p → p.isRunning = true → p.apptimer = some a → p.wheel = some w →
    (∃ n ∈ s.root w, n.id = a ∧ n.timer ≠ i) ∨ ∀ n ∈ s.root w, n.timer ≠ i

def Spares (i : TimerId) (s : TimerMgr) (e : Event) : Prop :=
  Leaves i e ∧ ∀ j, Cancels e j → StopSpares i s j

theorem stopTimer_timers_of_ne (hj : j ≠ i) (h : stopTimer j s = some s') :
    s'.timers i = s.timers i := by
  obtain ⟨p, -, ⟨rfl, -⟩ | ⟨a, w, r, -, -, -, -, rfl⟩⟩ := stopTimer_cases h
  · rfl
  · exact update_of_ne (Ne.symm hj) _ _

theorem stopTimer_expired (i : TimerId) (h : stopTimer j s = some s') :
    s'.expired i = s.expired i := by
  rw [TimerMgr.expired, stopTimer_expdTmrs h, TimerMgr.expired]

theorem StopSpares.sameFor (hc : StopSpares i s j) (hs : Wf s) (hj : j ≠ i)
    (h : stopTimer j s = some s') : SameFor i s s' := by
  refine ⟨?_, stopTimer_expired i h, stopTimer_timers_of_ne hj h⟩
  intro v n hni
  obtain ⟨p, hp, ⟨rfl, -⟩ | ⟨a, w, r, ha, hrun, hw, hr, rfl⟩⟩ := stopTimer_cases h
  · exact Iff.rfl
  rcases hr with hr | ⟨hr, -, rfl⟩
  · obtain ⟨m, hm, hma, hperm⟩ := erase_eq_some hr
    have hmi : m.timer ≠ i := by
      rcases hc p a w hp hrun ha hw with ⟨m', hm', hm'a, hm'i⟩ | hall
      · have heq := hs.eq_of_id (TimerMgr.mem_nodes.mpr (.inl ⟨w, hm⟩))
          (TimerMgr.mem_nodes.mpr (.inl ⟨w, hm'⟩)) (hma.trans hm'a.symm)
        exact heq ▸ hm'i
      · exact hall m hm
    exact mem_update_of_perm hperm (ne_of_timer hni hmi) v
  · have hall : ∀ n ∈ s.root w, n.timer ≠ i := by
      rcases hc p a w hp hrun ha hw with ⟨m, hm, rfl, -⟩ | hall
      · obtain ⟨r, hr', -⟩ := erase_of_mem hm (Wheels.id_nodup hs.wheels_nodup w)
        simp [hr] at hr'
      · exact hall
    by_cases hv : v = w
    · subst hv
      exact iff_of_false (by simp) fun hn ↦ hall n hn hni
    · simp [update_of_ne hv]

theorem Holds.lost (hh : Holds s i w n) (hs : Wf s) (hc : ¬StopSpares i s j)
    (h : stopTimer j s = some s') : Unheld s' i := by
  unfold StopSpares at hc
  push Not at hc
  obtain ⟨p, a, v, hp, hrun, ha, hv, hid, m, hm, hmi⟩ := hc
  obtain ⟨rfl, rfl⟩ := hh.only v m hm hmi
  obtain ⟨q, hq, ⟨-, hno⟩ | ⟨b, u, r, hb, -, hu, hr, rfl⟩⟩ := stopTimer_cases h
  · obtain rfl := Option.some.inj (hp.symm.trans hq)
    simp [ha, hrun] at hno
  obtain rfl := Option.some.inj (hp.symm.trans hq)
  obtain rfl := Option.some.inj (ha.symm.trans hb)
  obtain rfl := Option.some.inj (hv.symm.trans hu)
  rcases hr with hr | ⟨-, -, rfl⟩
  · obtain ⟨m', hm', hma, hperm⟩ := erase_eq_some hr
    obtain ⟨-, rfl⟩ := hh.only v m' hm' (hid m' hm' hma)
    exact hh.erase hs hperm
  · intro u x hx hxi
    by_cases huv : u = v
    · subst huv
      simp at hx
    · simp only [update_of_ne huv] at hx
      exact huv (hh.only u x hx hxi).1

theorem Spares.sameFor (hc : Spares i s e) (hs : Wf s) (hi : i < s.nextTimer) (he : e ≠ .tick)
    (hx : ∀ mem, e = .finish mem → ∀ n ∈ s.serving, n.timer ≠ i) (h : step s e = some s') :
    SameFor i s s' := by
  cases step_cases h with
  | setupFail handler data mem k => exact ⟨fun _ _ _ ↦ Iff.rfl, rfl, rfl⟩
  | setup handler data mem k =>
    exact ⟨fun _ _ _ ↦ Iff.rfl, rfl, update_of_ne (Nat.ne_of_lt hi) _ _⟩
  | startFail ticks data handler flags mem memApp k => exact ⟨fun _ _ _ ↦ Iff.rfl, rfl, rfl⟩
  | start h =>
    have hsame := armTimer_sameFor (Nat.ne_of_gt hi) h
    exact ⟨hsame.wheel, hsame.expired, hsame.timer⟩
  | modFail => exact ⟨fun _ _ _ ↦ Iff.rfl, rfl, rfl⟩
  | @mod j secs p _ hp h => exact armTimer_sameFor (fun hji ↦ hc.1.1 secs (hji ▸ rfl)) h
  | @stop j e s' hj h => exact (hc.2 j hj).sameFor hs (fun hji ↦ hc.1.2 (hji ▸ hj)) h
  | tick h => exact absurd rfl he
  | serve h =>
    obtain ⟨-, ⟨-, rfl⟩ | ⟨n, tl, p, -, -, rfl⟩⟩ := serveTimer_cases h
    · exact ⟨fun _ _ _ ↦ Iff.rfl, rfl, rfl⟩
    · exact ⟨fun _ _ _ ↦ Iff.rfl, rfl, rfl⟩
  | finish h => exact finishTimer_sameFor hs (hx _ rfl) h

theorem Unheld.step (hu : Unheld s i) (hc : Leaves i e) (hs : Wf s) (hi : i < s.nextTimer)
    (h : step s e = some s') : Unheld s' i ∧ (s'.expired i).length ≤ (s.expired i).length := by
  have hof (hsame : SameFor i s s') :
      Unheld s' i ∧ (s'.expired i).length ≤ (s.expired i).length :=
    ⟨hsame.unheld hu, hsame.expired ▸ le_rfl⟩
  cases step_cases h with
  | setupFail handler data mem k => exact hof ⟨fun _ _ _ ↦ Iff.rfl, rfl, rfl⟩
  | setup handler data mem k => exact ⟨hu, le_rfl⟩
  | startFail ticks data handler flags mem memApp k => exact hof ⟨fun _ _ _ ↦ Iff.rfl, rfl, rfl⟩
  | start h =>
    have hsame := armTimer_sameFor (Nat.ne_of_gt hi) h
    exact hof ⟨hsame.wheel, hsame.expired, hsame.timer⟩
  | modFail => exact ⟨hu, le_rfl⟩
  | @mod j secs p _ hp h => exact hof (armTimer_sameFor (fun hji ↦ hc.1 secs (hji ▸ rfl)) h)
  | stop _ h =>
    refine ⟨fun w n hn ↦ ?_, (congrArg List.length (stopTimer_expired i h)).le⟩
    obtain ⟨v, hv⟩ := Wheels.mem_nodes.mp
      (Multiset.mem_of_le (stopTimer_roots_le h) (Wheels.mem_nodes.mpr ⟨w, hn⟩))
    exact hu v n hv
  | tick h =>
    have hinv : Unheld s' i ∧ s'.expired i = s.expired i := by
      refine updateTimes_invariant (I := fun s₁ ↦ Unheld s₁ i ∧ s₁.expired i = s.expired i) ?_ ?_
        hs ⟨hu, rfl⟩ h
      · intro s₁ c h₁
        exact h₁
      · rintro s₁ w n s₂ hs₁ ⟨hu₁, hx₁⟩ hn _ h₂
        have hsame := processTimer_sameFor hs₁ hn (hu₁ w n hn) h₂
        exact ⟨hsame.unheld hu₁, hsame.expired.trans hx₁⟩
    exact ⟨hinv.1, hinv.2 ▸ le_rfl⟩
  | serve h =>
    obtain ⟨-, ⟨-, rfl⟩ | ⟨n, tl, p, -, -, rfl⟩⟩ := serveTimer_cases h
    · exact ⟨hu, le_rfl⟩
    · exact ⟨hu, le_rfl⟩
  | finish h =>
    obtain ⟨n, tl, p, o, -, htl, -, -, rfl⟩ := finishTimer_cases hs h
    refine ⟨hu, ?_⟩
    simp only [TimerMgr.expired, htl]
    exact ((List.sublist_cons_self n tl).filter _).length_le

theorem Placed.due_pos {c : Clock} (hp : Placed c w n) : 0 < due c w n := by
  by_cases hw : w = .tick
  · subst hw
    exact hp.laps_pos
  rw [due_of_ne_tick hw]
  have hr := hp.secsLeft_pos hw
  have ht := c.tick.isLt
  unfold ticksLeft
  simp only
  split_ifs <;> omega

def Waiting (s : TimerMgr) (i : TimerId) (exp : U32) (d : ℕ) : Prop :=
  ∃ w n, Track s i exp w n ∧ Placed s.clk w n ∧ due s.clk w n = d ∧ s.expired i = []

theorem Waiting.pos (hw : Waiting s i exp d) : 0 < d := by
  obtain ⟨w, n, -, hp, rfl, -⟩ := hw
  exact hp.due_pos

theorem Waiting.tick (hw : Waiting s i exp d) (hs : Wf s) (hsec : s.clk.sec.toNat + 1 < 2 ^ 32)
    (hmin : s.clk.min.toNat + 1 < 2 ^ 32) (h : updateTimes s = some s') :
    (d = 1 ∧ Unheld s' i ∧ ∃ n, s'.expired i = s.expired i ++ [n]) ∨
      ∃ d', d = d' + 1 ∧ Waiting s' i exp d' := by
  obtain ⟨w, n, ht, hp, rfl, hx⟩ := hw
  have ha := ht.updateTimes hs h
  rcases due_nextPlace hsec hmin hp with ⟨hnone, hd⟩ | ⟨u, m, hsome, hp', hd, -⟩
  · rw [hnone] at ha
    exact .inl ⟨hd, ha.1, _, ha.2⟩
  · rw [hsome] at ha
    refine .inr ⟨due s.clk.next u m, hd.symm, u, m, ha.1, ?_, ?_, ha.2.trans hx⟩
    · exact updateTimes_clk hs h ▸ hp'
    · rw [updateTimes_clk hs h]

theorem Waiting.finer (hw : Waiting s i exp d) (hs : Wf s) (hsec : s.clk.sec.toNat + 1 < 2 ^ 32)
    (hmin : s.clk.min.toNat + 1 < 2 ^ 32) (h : updateTimes s = some s') (hh : Holds s i w n)
    (hh' : Holds s' i u m) : u = w ∧ m = n ∨ u.idx < w.idx := by
  obtain ⟨w', n', ht, hp, -, -⟩ := hw
  obtain ⟨rfl, rfl⟩ := ht.holds.only w n hh.mem hh.timer
  have ha := ht.updateTimes hs h
  rcases due_nextPlace hsec hmin hp with ⟨hnone, -⟩ | ⟨u', m', hsome, -, -, hfin⟩
  · rw [hnone] at ha
    exact absurd hh'.timer (ha.1 u m hh'.mem)
  · rw [hsome] at ha
    obtain ⟨rfl, rfl⟩ := ha.1.holds.only u m hh'.mem hh'.timer
    exact hfin

theorem Wf.serving_ne (hs : Wf s) (hx : s.expired i = []) : ∀ n ∈ s.serving, n.timer ≠ i := by
  intro n hn
  have hmem : n ∈ s.expdTmrs := List.mem_of_mem_head? (hs.serving_head n hn)
  simpa using List.filter_eq_nil_iff.mp hx n hmem

theorem Waiting.sameFor (hw : Waiting s i exp d) (h : SameFor i s s') (hc : s'.clk = s.clk) :
    Waiting s' i exp d := by
  obtain ⟨w, n, ht, hp, hd, hx⟩ := hw
  exact ⟨w, n, ht.sameFor h, hc ▸ hp, hc ▸ hd, h.expired.trans hx⟩

theorem Waiting.same_of_spares (hw : Waiting s i exp d) (hc : Spares i s e) (hs : Wf s)
    (hi : i < s.nextTimer) (he : e ≠ .tick) (h : step s e = some s') :
    SameFor i s s' ∧ Waiting s' i exp d := by
  have hx : s.expired i = [] := by
    obtain ⟨w, n, -, -, -, hx⟩ := hw
    exact hx
  have hsame := hc.sameFor hs hi he (fun _ _ ↦ hs.serving_ne hx) h
  refine ⟨hsame, hw.sameFor hsame ?_⟩
  rw [step_clk hs h, if_neg he]

theorem Clock.next_le (c : Clock) :
    c.next.sec.toNat ≤ c.sec.toNat + 1 ∧ c.next.min.toNat ≤ c.min.toNat + 1 := by
  have hle (x : U32) : (x + 1).toNat ≤ x.toNat + 1 := by
    rw [BitVec.toNat_add]
    exact Nat.mod_le _ _
  unfold Clock.next
  simp only
  split_ifs
  · exact ⟨Nat.le_succ _, Nat.le_succ _⟩
  · exact ⟨hle _, Nat.le_succ _⟩
  · exact ⟨hle _, hle _⟩
  · exact ⟨hle _, hle _⟩

theorem Clock.next_tick (c : Clock) : c.next.tick = c.tick + 1 := by
  unfold Clock.next
  simp only
  split_ifs <;> rfl

/-- The second and minute counters do not wrap within `d` ticks. -/
def Clock.Steady (c : Clock) (d : ℕ) : Prop :=
  c.sec.toNat + d < 2 ^ 32 ∧ c.min.toNat + d < 2 ^ 32

theorem Clock.Steady.next {c : Clock} (h : c.Steady (d + 1)) : c.next.Steady d := by
  obtain ⟨h₁, h₂⟩ := c.next_le
  obtain ⟨h₃, h₄⟩ := h
  constructor <;> omega

theorem Clock.Steady.one {c : Clock} (h : c.Steady d) (hd : 0 < d) :
    c.sec.toNat + 1 < 2 ^ 32 ∧ c.min.toNat + 1 < 2 ^ 32 := by
  obtain ⟨h₁, h₂⟩ := h
  constructor <;> omega

theorem Unheld.run {C : TimerMgr → Event → Prop} (hC : ∀ s e, C s e → Leaves i e)
    {es : List Event} (hu : Unheld s i) (hs : Wf s) (hi : i < s.nextTimer)
    (h : Run Timers.step C s es s') : Wf s' ∧ i < s'.nextTimer ∧ Unheld s' i := by
  refine h.invariant (I := fun s ↦ Wf s ∧ i < s.nextTimer ∧ Unheld s i) ?_ ⟨hs, hi, hu⟩
  rintro s₁ e s₂ ⟨hs₁, hi₁, hu₁⟩ hc h₁
  exact ⟨hs₁.step h₁, hi₁.trans_le (nextTimer_le_step hs₁ h₁), (hu₁.step (hC _ _ hc) hs₁ hi₁ h₁).1⟩

theorem Leaves.lost (hc : Leaves i e) (hno : ¬Spares i s e) (hs : Wf s) (hh : Holds s i w n)
    (h : step s e = some s') : Unheld s' i ∧ s'.expired i = s.expired i := by
  obtain ⟨j, hj, hbad⟩ : ∃ j, Cancels e j ∧ ¬StopSpares i s j := by
    by_contra hall
    push Not at hall
    exact hno ⟨hc, hall⟩
  rw [step_of_cancels hj] at h
  exact ⟨hh.lost hs hbad h, stopTimer_expired i h⟩

theorem Waiting.run {C : TimerMgr → Event → Prop} (hC : ∀ s e, C s e → Leaves i e)
    {es : List Event} (hw : Waiting s i exp d) (hs : Wf s) (hi : i < s.nextTimer)
    (hd : s.clk.Steady d) (h : Run Timers.step C s es s') :
    Wf s' ∧ i < s'.nextTimer ∧
      ((∃ d', d = es.count .tick + d' ∧ Waiting s' i exp d' ∧ s'.clk.Steady d') ∨
        Unheld s' i ∧ ((∀ s e, C s e → Spares i s e) → d ≤ es.count .tick)) := by
  induction h generalizing d with
  | nil => exact ⟨hs, hi, .inl ⟨d, (Nat.zero_add d).symm, hw, hd⟩⟩
  | @cons s s₁ s' e es hc h₁ hrun ih =>
    have hs₁ := hs.step h₁
    have hi₁ := hi.trans_le (nextTimer_le_step hs h₁)
    by_cases hspares : Spares i s e
    case neg =>
      obtain ⟨w, n, ht, -⟩ := id hw
      obtain ⟨hs', hi', hu'⟩ := ((hC s e hc).lost hspares hs ht.holds h₁).1.run hC hs₁ hi₁ hrun
      exact ⟨hs', hi', .inr ⟨hu', fun hall ↦ absurd (hall s e hc) hspares⟩⟩
    by_cases he : e = .tick
    case neg =>
      rw [List.count_cons_of_ne he]
      obtain ⟨-, hw₁⟩ := hw.same_of_spares hspares hs hi he h₁
      refine ih hw₁ hs₁ hi₁ ?_
      rwa [step_clk hs h₁, if_neg he]
    subst he
    rw [List.count_cons_self]
    obtain ⟨hsec, hmin⟩ := hd.one hw.pos
    rcases hw.tick hs hsec hmin h₁ with ⟨rfl, hu, -⟩ | ⟨d', rfl, hw₁⟩
    · obtain ⟨hs', hi', hu'⟩ := hu.run hC hs₁ hi₁ hrun
      exact ⟨hs', hi', .inr ⟨hu', fun _ ↦ Nat.le_add_left 1 _⟩⟩
    · have hd₁ : s₁.clk.Steady d' := by
        rw [step_clk hs h₁, if_pos rfl]
        exact hd.next
      obtain ⟨hs', hi', hcase⟩ := ih hw₁ hs₁ hi₁ hd₁
      refine ⟨hs', hi', hcase.imp ?_ ?_⟩
      · rintro ⟨d₂, rfl, hw₂⟩
        exact ⟨d₂, by omega, hw₂⟩
      · rintro ⟨hu', hle⟩
        exact ⟨hu', fun hall ↦ Nat.succ_le_succ (hle hall)⟩

theorem run_clk_tick {es : List Event} {C : TimerMgr → Event → Prop} (hs : Wf s)
    (h : Run Timers.step C s es s') :
    s'.clk.tick = s.clk.tick + BitVec.ofNat 32 (es.count .tick) := by
  induction h with
  | nil => simp
  | @cons s s₁ s' e es hc h₁ hrun ih =>
    rw [ih (hs.step h₁), step_clk hs h₁]
    by_cases he : e = .tick
    · subst he
      rw [if_pos rfl, Clock.next_tick, List.count_cons_self, add_assoc, Nat.add_comm,
        BitVec.ofNat_add]
      rfl
    · rw [if_neg he, List.count_cons_of_ne he]

theorem run_clk_le {es : List Event} {C : TimerMgr → Event → Prop} (hs : Wf s)
    (h : Run Timers.step C s es s') :
    s'.clk.sec.toNat ≤ s.clk.sec.toNat + es.count .tick ∧
      s'.clk.min.toNat ≤ s.clk.min.toNat + es.count .tick := by
  induction h with
  | nil => exact ⟨le_rfl, le_rfl⟩
  | @cons s s₁ s' e es hc h₁ hrun ih =>
    obtain ⟨ih₁, ih₂⟩ := ih (hs.step h₁)
    have hclk := step_clk hs h₁
    by_cases he : e = .tick
    · subst he
      rw [if_pos rfl] at hclk
      rw [hclk] at ih₁ ih₂
      obtain ⟨h₂, h₃⟩ := s.clk.next_le
      rw [List.count_cons_self]
      constructor <;> omega
    · rw [if_neg he] at hclk
      rw [hclk] at ih₁ ih₂
      rw [List.count_cons_of_ne he]
      exact ⟨ih₁, ih₂⟩

end Steps

end Layer3Switch.Timers
