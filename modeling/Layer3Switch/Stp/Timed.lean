import Layer3Switch.Stp.Priority
import Layer3Switch.Stp.Traces

namespace Layer3Switch.Stp

open Lib Lib.Bytes
open Timers (U32 TimerId TimerMgr)

/-- What happens on a switch, as far as an instance and the timers are concerned:
an action, a tick, a step of the bottom half, or a call by someone else. -/
inductive TimedEvent (κ Φ : Type)
  | act (a : Action κ TimerMgr Φ)
  | tick
  | serve
  | finish (mem : Bool)
  | other (ev : Timers.Event)

variable {κ Φ : Type}

def timeOut (br : StpInstance κ) (i : TimerId) : Option (Event TimerMgr Φ) :=
  let entry (timer : StpPortEntry κ → TimerRef) := br.portList.findIdx? fun q ↦ timer q == some i
  if br.helloTimer = some i then some .helloTimer
  else if br.tcnTimer = some i then some .tcnTimer
  else if br.topologyChangeTimer = some i then some .topologyChangeTimer
  else ((entry (·.messageAgeTimer)).map .messageAgeTimer).or
    (((entry (·.forwardDelayTimer)).map .forwardDelayTimer).or
      ((entry (·.holdTimer)).map .holdTimer))

def Action.Commanded : Action κ TimerMgr Φ → Prop
  | .event ev => match ev with
    | .helloTimer | .tcnTimer | .topologyChangeTimer | .messageAgeTimer _ | .forwardDelayTimer _
    | .holdTimer _ | .host _ => False
    | _ => True
  | _ => True

def Permits (w : World κ TimerMgr Φ) : TimedEvent κ Φ → Prop
  | .act a => a.Commanded
  | .other ev => (∀ i, some i ∈ w.br.timers → Timers.Leaves i ev) ∧ ev ≠ .tick ∧ ev ≠ .serve ∧
      ∀ mem, ev ≠ .finish mem
  | _ => True

def NewNumbers (w : World κ TimerMgr Φ) : TimedEvent κ Φ → Prop
  | .act a => NewNumber w a
  | _ => True

instance (w : World κ TimerMgr Φ) (ev : TimedEvent κ Φ) : Decidable (NewNumbers w ev) :=
  match ev with
  | .act a => inferInstanceAs (Decidable (NewNumber w a))
  | .tick | .serve | .finish _ | .other _ => inferInstanceAs (Decidable True)

def TimedEvent.plain : TimedEvent κ Φ → Bool
  | .act (.event ev) => match ev with
    | .helloTimer | .tcnTimer | .topologyChangeTimer | .messageAgeTimer _ | .forwardDelayTimer _
    | .holdTimer _ | .host _ => false
    | _ => true
  | .other _ => false
  | _ => true

theorem permits_of_plain {ev : TimedEvent κ Φ} (h : ev.plain = true) (w : World κ TimerMgr Φ) :
    Permits w ev := by
  cases ev with
  | act a =>
    cases a with
    | event ev =>
      cases ev with
      | helloTimer | tcnTimer | topologyChangeTimer | messageAgeTimer | forwardDelayTimer
      | holdTimer | host => cases h
      | _ => exact trivial
    | _ => exact trivial
  | other ev => cases h
  | _ => exact trivial

section Step

variable [Add κ] [LT κ] [DecidableLT κ] [OfNat κ 0] [OfNat κ 20000]
variable (e : Endian) (stackByte : U8) (W : Wire κ Φ)

def serveTimed (w : World κ TimerMgr Φ) : Option (World κ TimerMgr Φ) :=
  (Timers.serveTimer w.env).bind fun env ↦
    match env.serving.bind fun n ↦ timeOut w.br n.timer with
    | none => some { w with env := env }
    | some ev => step (timerHost e stackByte) W { w with env := env } (.event ev)

def timedStep (w : World κ TimerMgr Φ) : TimedEvent κ Φ → Option (World κ TimerMgr Φ)
  | .act a => step (timerHost e stackByte) W w a
  | .tick => (Timers.updateTimes w.env).map fun env ↦ { w with env := env }
  | .serve => serveTimed e stackByte W w
  | .finish mem => (Timers.finishTimer mem w.env).map fun env ↦ { w with env := env }
  | .other ev => (Timers.step w.env ev).map fun env ↦ { w with env := env }

end Step

section Inversion

variable {br : StpInstance κ} {i : TimerId} {p : ℕ} {q : StpPortEntry κ}

theorem timeOut_hold (h : Apart br.timers) (hq : br.portList[p]? = some q)
    (hi : q.holdTimer = some i) : timeOut (Φ := Φ) br i = some (.holdTimer p) := by
  have hmem := List.mem_of_getElem? hq
  have hbridge := h.bridge hmem (hi ▸ hold_mem_timers q)
  simp only [List.mem_cons, List.not_mem_nil, or_false, not_or] at hbridge
  obtain ⟨hhello, htcn, htc⟩ := hbridge
  obtain ⟨hstart, hage⟩ := h.hold hmem hi
  have hnone : ∀ timer : StpPortEntry κ → TimerRef, (∀ q' ∈ br.portList, timer q' ≠ some i) →
      (br.portList.findIdx? fun q ↦ timer q == some i) = none := by
    intro timer htimer
    refine List.findIdx?_eq_none_iff.mpr fun q' hq' ↦ ?_
    exact beq_eq_false_iff_ne.mpr (htimer q' hq')
  have hdelay : ∀ q' ∈ br.portList, q'.forwardDelayTimer ≠ some i := by
    intro q' hq' heq
    exact hstart (heq ▸ List.mem_append_right _ (List.mem_map_of_mem hq'))
  have hhold : (br.portList.findIdx? fun q ↦ q.holdTimer == some i) = some p := by
    obtain ⟨hp, rfl⟩ := List.getElem?_eq_some_iff.mp hq
    refine List.findIdx?_eq_some_iff_getElem.mpr ⟨hp, beq_iff_eq.mpr hi, ?_⟩
    intro j hj hj'
    have hj'' := eq_of_beq hj'
    have hjq := List.getElem?_eq_getElem (hj.trans hp)
    exact absurd (h.position hjq hq (hj'' ▸ hold_mem_timers _) (hi ▸ hold_mem_timers _))
      (Nat.ne_of_lt hj)
  rw [timeOut]
  dsimp only
  rw [if_neg (Ne.symm hhello), if_neg (Ne.symm htcn), if_neg (Ne.symm htc), hnone _ hage,
    hnone _ hdelay, hhold]
  rfl

theorem Action.Commanded.own {a : Action κ TimerMgr Φ} (h : a.Commanded) : a.Own := by
  cases a with
  | event ev =>
    cases ev with
    | host env => exact h
    | _ => exact trivial
  | _ => exact trivial

theorem timeOut_internal {ev : Event TimerMgr Φ} (h : timeOut br i = some ev) :
    ev.Internal := by
  unfold timeOut at h
  dsimp only at h
  split_ifs at h
  · exact Option.some.inj h ▸ trivial
  · exact Option.some.inj h ▸ trivial
  · exact Option.some.inj h ▸ trivial
  · obtain h | ⟨-, h⟩ := Option.or_eq_some_iff.mp h
    · obtain ⟨p, -, rfl⟩ := Option.map_eq_some_iff.mp h
      trivial
    · obtain h | ⟨-, h⟩ := Option.or_eq_some_iff.mp h
      · obtain ⟨p, -, rfl⟩ := Option.map_eq_some_iff.mp h
        trivial
      · obtain ⟨p, -, rfl⟩ := Option.map_eq_some_iff.mp h
        trivial

theorem timeOut_isSome (h : some i ∈ br.timers) : (timeOut (Φ := Φ) br i).isSome := by
  have hfind : ∀ (timer : StpPortEntry κ → TimerRef) q, q ∈ br.portList → some i = timer q →
      (br.portList.findIdx? fun q ↦ timer q == some i).isSome := by
    intro timer q hq hi
    rw [List.findIdx?_isSome, List.any_eq_true]
    exact ⟨q, hq, beq_iff_eq.mpr hi.symm⟩
  unfold timeOut
  dsimp only
  split_ifs with hhello htcn htc
  · rfl
  · rfl
  · rfl
  obtain hb | hports := List.mem_append.mp h
  · simp only [List.mem_cons, List.not_mem_nil, or_false] at hb
    obtain hb | hb | hb := hb
    · exact absurd hb.symm hhello
    · exact absurd hb.symm htcn
    · exact absurd hb.symm htc
  · obtain ⟨q, hq, hi⟩ := List.mem_flatMap.mp hports
    simp only [StpPortEntry.timers, List.mem_cons, List.not_mem_nil, or_false] at hi
    rw [Option.isSome_or, Option.isSome_or, Option.isSome_map, Option.isSome_map, Option.isSome_map,
      Bool.or_eq_true, Bool.or_eq_true]
    obtain hi | hi | hi := hi
    · exact .inl (hfind _ q hq hi)
    · exact .inr (.inl (hfind _ q hq hi))
    · exact .inr (.inr (hfind _ q hq hi))

theorem timeOut_own {ev : Event TimerMgr Φ} (h : timeOut br i = some ev) :
    (Action.event (κ := κ) ev).Own := by
  have hev := timeOut_internal h
  cases ev with
  | host env => exact hev
  | _ => trivial

theorem leaves_serve (i : TimerId) : Timers.Leaves i .serve := ⟨nofun, by simp [Timers.Cancels]⟩

theorem leaves_finish (i : TimerId) (mem : Bool) : Timers.Leaves i (.finish mem) :=
  ⟨nofun, by simp [Timers.Cancels]⟩

variable [Add κ] [LT κ] [DecidableLT κ] [OfNat κ 0] [OfNat κ 20000]
variable {e : Endian} {stackByte : U8} {W : Wire κ Φ} {w w' : World κ TimerMgr Φ}

theorem step_worked {H : Host TimerMgr} {a : Action κ TimerMgr Φ} (ha : a.Own)
    (h : step H W w a = some w') : Worked H W w w' := by
  obtain ⟨⟨_, _⟩, hact, rfl⟩ := Option.map_eq_some_iff.mp h
  exact act_worked ha w _ _ hact

theorem serveTimed_cases (h : serveTimed e stackByte W w = some w') :
    ∃ env, Timers.step w.env .serve = some env ∧
      (w' = { w with env := env } ∧
        (env.serving.bind fun n ↦ timeOut (Φ := Φ) w.br n.timer) = none ∨
        ∃ n ev, env.serving = some n ∧ timeOut w.br n.timer = some ev ∧
          step (timerHost e stackByte) W { w with env := env } (.event ev) = some w') := by
  obtain ⟨env, henv, h⟩ := Option.bind_eq_some_iff.mp h
  refine ⟨env, henv, ?_⟩
  cases hev : env.serving.bind fun n ↦ timeOut (Φ := Φ) w.br n.timer with
  | none =>
    rw [hev] at h
    exact .inl ⟨(Option.some.inj h).symm, rfl⟩
  | some ev =>
    rw [hev] at h
    obtain ⟨n, hn, hout⟩ := Option.bind_eq_some_iff.mp hev
    exact .inr ⟨n, ev, hn, hout, h⟩

theorem timedStep_trace {ev : TimedEvent κ Φ} (hw : Sound w) (hev : Permits w ev)
    (h : timedStep e stackByte W w ev = some w') : ∃ ls, Trace (Did e stackByte W) w ls w' := by
  have hworked : ∀ {w w' : World κ TimerMgr Φ}, Worked (timerHost e stackByte) W w w' →
      ∃ ls, Trace (Did e stackByte W) w ls w' := by
    rintro w w' ⟨ls, ht⟩
    exact ⟨ls, ht.mono fun _ _ _ ↦ .works⟩
  cases ev with
  | act a => exact hworked (step_worked hev.own h)
  | tick =>
    obtain ⟨env, henv, rfl⟩ := Option.map_eq_some_iff.mp h
    obtain ⟨ns, hns, -⟩ := Timers.updateTimes_ticked hw.wf henv
    exact ⟨_, .one (.tick w env ns henv hns)⟩
  | serve =>
    obtain ⟨env, henv, hcase⟩ := serveTimed_cases h
    have hserve : Did e stackByte W (.manager .serve) w { w with env := env } :=
      .manager w env .serve nofun (fun i _ ↦ leaves_serve i) henv
    obtain ⟨rfl, -⟩ | ⟨n, ev, -, hout, hstep⟩ := hcase
    · exact ⟨_, .one hserve⟩
    · obtain ⟨ls, ht⟩ := hworked (step_worked (timeOut_own hout) hstep)
      exact ⟨_, .cons hserve ht⟩
  | finish mem =>
    obtain ⟨env, henv, rfl⟩ := Option.map_eq_some_iff.mp h
    exact ⟨_, .one (.manager w env (.finish mem) nofun (fun i _ ↦ leaves_finish i mem) henv)⟩
  | other ev =>
    obtain ⟨env, henv, rfl⟩ := Option.map_eq_some_iff.mp h
    exact ⟨_, .one (.manager w env ev hev.2.1 hev.1 henv)⟩

theorem Sound.timedStep {ev : TimedEvent κ Φ} (hw : Sound w) (hev : Permits w ev)
    (h : timedStep e stackByte W w ev = some w') : Sound w' := by
  obtain ⟨ls, ht⟩ := timedStep_trace hw hev h
  exact ht.invariant (fun _ _ _ hd hw ↦ hd.sound hw) hw

theorem Sound.timedRun {C : World κ TimerMgr Φ → TimedEvent κ Φ → Prop}
    {evs : List (TimedEvent κ Φ)}
    (hC : ∀ w ev, C w ev → Permits w ev) (hw : Sound w)
    (h : Run (Stp.timedStep e stackByte W) C w evs w') : Sound w' :=
  h.invariant (fun _ _ _ hw hc hs ↦ hw.timedStep (hC _ _ hc) hs) hw

theorem timedRun_trace {evs : List (TimedEvent κ Φ)} (hw : Sound w)
    (h : Run (Stp.timedStep e stackByte W) Permits w evs w') :
    ∃ ls, Trace (Did e stackByte W) w ls w' := by
  obtain ⟨ls, hls⟩ := h.chronicle (J := fun _ w ↦ Sound w) (by
    intro past w ev w' hw hev hs
    obtain ⟨ls, ht⟩ := timedStep_trace hw hev hs
    exact ⟨ls, ht, hw.timedStep hev hs⟩) hw
  exact ⟨ls, hls.trace⟩

theorem timedStep_actions {ev : TimedEvent κ Φ}
    {C : World κ TimerMgr Φ → Action κ TimerMgr Φ → Prop}
    (hact : ∀ a, ev = .act a → C w a) (hevent : ∀ w ev, C w (.event ev))
    (h : timedStep e stackByte W w ev = some w') :
    ∃ as, Run (step (timerHost e stackByte) W) C w as w' := by
  have hhost : ∀ env, step (timerHost e stackByte) W w (.event (.host env)) =
      some { w with env := env } := fun _ ↦ rfl
  cases ev with
  | act a => exact ⟨[a], .one (hact a rfl) h⟩
  | serve =>
    obtain ⟨env, -, ⟨rfl, -⟩ | ⟨n, ev, -, -, hstep⟩⟩ := serveTimed_cases h
    · exact ⟨_, .one (hevent w _) (hhost env)⟩
    · exact ⟨_, .cons (hevent w _) (hhost env) (.one (hevent _ _) hstep)⟩
  | tick | finish | other =>
    obtain ⟨env, -, rfl⟩ := Option.map_eq_some_iff.mp h
    exact ⟨_, .one (hevent w _) (hhost env)⟩

theorem timedRun_actions {C : World κ TimerMgr Φ → TimedEvent κ Φ → Prop}
    {D : World κ TimerMgr Φ → Action κ TimerMgr Φ → Prop} {evs : List (TimedEvent κ Φ)}
    (hact : ∀ w a, C w (.act a) → D w a) (hevent : ∀ w ev, D w (.event ev))
    (h : Run (timedStep e stackByte W) C w evs w') :
    ∃ as, Run (step (timerHost e stackByte) W) D w as w' := by
  induction h with
  | nil w => exact ⟨[], .nil w⟩
  | cons hc hs _ ih =>
    obtain ⟨as, has⟩ := ih
    obtain ⟨as₁, has₁⟩ := timedStep_actions (fun a ha ↦ hact _ a (ha ▸ hc)) hevent hs
    exact ⟨as₁ ++ as, has₁.trans has⟩

end Inversion

end Layer3Switch.Stp
