import Layer3Switch.Rstp.Instance
import Layer3Switch.Stp.Cli
import Layer3Switch.Stp.RoundTrip

namespace Layer3Switch.Rstp

open Lib Lib.Bytes
open Timers (U32)
open Stp (Host IfStatus TimerRef MacAddress PortT maxPorts CparserResult TimerCommand TimerLimits
  TimeParams bridgeTimerRelation timerHandler timerHandler_keeps inRange chosen_inRange newInstance
  newInstance_legal TimerRequest ThreeTimes Truthful SetsIf timerHandler_eq truthful_accepted
  truthful_rejected chosen_eq inRange_iff stpTimerLimits)

def bstpProtoStp : Int32 := 0
def bstpProtoRstp : Int32 := 2

/-- A `bstp_state` with the fields `bs_bridge_…` and `bs_protover`, and the timers. -/
structure TimedBstp (τ : Type) where
  bs : BstpState
  bridgeMaxAge : U16
  bridgeFdelay : U16
  bridgeHtime : U16
  protover : Int32
  env : τ

variable {τ Φ : Type} (H : Host τ) (M : Machines τ Φ)

def TimedBstp.create (vlanId : U16) (env : τ) : TimedBstp τ where
  bs := (bstpAttach H vlanId env).1
  bridgeMaxAge := bstpDefaultMaxAge
  bridgeFdelay := bstpDefaultForwardDelay
  bridgeHtime := bstpDefaultHelloTime
  protover := bstpProtoRstp
  env := (bstpAttach H vlanId env).2

abbrev BstpM (τ : Type) := StateT (TimedBstp τ) Option

def reinit : BstpM τ Unit :=
  fun s ↦ (bstpReinit H M s.bs s.env).map fun (bs, env) ↦ ((), { s with bs := bs, env := env })

def bstpSetTime (range : Int32 × Int32) (set : U16 → TimedBstp τ → TimedBstp τ) (t : Int32) :
    BstpM τ Int :=
  if t < range.1 ∨ range.2 < t then pure (-1)
  else do
    modify (set (t.toBitVec.setWidth 16))
    reinit H M
    pure 0

def bstpTimerLimits : TimerLimits where
  hello := (bstpMinHelloTime, bstpMaxHelloTime)
  forwardDelay := (bstpMinForwardDelay, bstpMaxForwardDelay)
  maxAge := (bstpMinMaxAge, bstpMaxMaxAge)

def bstpSetHtime : Int32 → BstpM τ Int :=
  bstpSetTime H M bstpTimerLimits.hello fun t s ↦ { s with bridgeHtime := t }

def bstpSetFdelay : Int32 → BstpM τ Int :=
  bstpSetTime H M bstpTimerLimits.forwardDelay fun t s ↦ { s with bridgeFdelay := t }

def bstpSetMaxage : Int32 → BstpM τ Int :=
  bstpSetTime H M bstpTimerLimits.maxAge fun t s ↦ { s with bridgeMaxAge := t }

def bstpSetProtocol (loop : BstpState → τ → ℕ → IfState) (proto : Int32) : BstpM τ Int :=
  if proto = bstpProtoStp ∨ proto = bstpProtoRstp then do
    modify fun s ↦ { s with
      protover := proto
      bridgeHtime := bstpDefaultHelloTime
      bs := s.bs.setStates (loop s.bs s.env) }
    reinit H M
    pure 0
  else pure (-1)

def promoted (t : U16) : Int32 := .ofBitVec (t.setWidth 32)

def rstpSetBridgeHelloTime (hello : U32) : BstpM τ Int := do
  let s ← get
  if bridgeTimerRelation (promoted s.bridgeFdelay) (promoted s.bridgeMaxAge) (.ofBitVec hello) = 0
  then bstpSetHtime H M (.ofBitVec hello)
  else pure (-1)

def rstpSetBridgeFdly (fdly : U32) : BstpM τ Int := do
  let s ← get
  if bridgeTimerRelation (.ofBitVec fdly) (promoted s.bridgeMaxAge) (promoted s.bridgeHtime) = 0
  then bstpSetFdelay H M (.ofBitVec fdly)
  else pure (-1)

def rstpSetBridgeMaxAge (maxAge : U32) : BstpM τ Int := do
  let s ← get
  if bridgeTimerRelation (promoted s.bridgeFdelay) (.ofBitVec maxAge) (promoted s.bridgeHtime) = 0
  then bstpSetMaxage H M (.ofBitVec maxAge)
  else pure (-1)

def rstpSetBridgeTimes (fdly maxage htime : Int32) : BstpM τ Int := do
  let s ← get
  let htime := if htime < 0 then promoted s.bridgeHtime else htime
  let fdly := if fdly < 0 then promoted s.bridgeFdelay else fdly
  let maxage := if maxage < 0 then promoted s.bridgeMaxAge else maxage
  if bridgeTimerRelation fdly maxage htime ≠ 0 then pure (-1)
  else do
    modify fun s ↦ { s with
      bridgeMaxAge := maxage.toBitVec.setWidth 16
      bridgeFdelay := fdly.toBitVec.setWidth 16
      bridgeHtime := htime.toBitVec.setWidth 16 }
    reinit H M
    pure 0

def cparserCmdConfigSpanningTreeRstpHelloTime (htimesecs : Int32)
    (fdlysecs maxagesecs : Option Int32) : BstpM τ CparserResult :=
  timerHandler bstpTimerLimits (rstpSetBridgeTimes H M)
    (rstpSetBridgeHelloTime H M htimesecs.toBitVec) (fdlysecs.isNone && maxagesecs.isNone)
    fdlysecs maxagesecs (some htimesecs)

def cparserCmdConfigSpanningTreeRstpForwardDelay (fdlysecs : Int32)
    (maxagesecs htimesecs : Option Int32) : BstpM τ CparserResult :=
  timerHandler bstpTimerLimits (rstpSetBridgeTimes H M)
    (rstpSetBridgeFdly H M fdlysecs.toBitVec) (htimesecs.isNone && maxagesecs.isNone)
    (some fdlysecs) maxagesecs htimesecs

def cparserCmdConfigSpanningTreeRstpMaxAge (maxagesecs : Int32)
    (fdlysecs htimesecs : Option Int32) : BstpM τ CparserResult :=
  timerHandler bstpTimerLimits (rstpSetBridgeTimes H M)
    (rstpSetBridgeMaxAge H M maxagesecs.toBitVec) (fdlysecs.isNone && htimesecs.isNone)
    fdlysecs (some maxagesecs) htimesecs

/-- The commands that change the configured times of an RSTP instance. -/
inductive RstpCommand (τ : Type)
  | timers (c : TimerCommand)
  | setProtocol (loop : BstpState → τ → ℕ → IfState) (proto : Int32)

def RstpCommand.run : RstpCommand τ → BstpM τ Unit
  | .timers (.helloTime h fdly maxage) => do
    let _ ← cparserCmdConfigSpanningTreeRstpHelloTime H M h fdly maxage
  | .timers (.forwardDelay fdly maxage h) => do
    let _ ← cparserCmdConfigSpanningTreeRstpForwardDelay H M fdly maxage h
  | .timers (.maxAge maxage fdly h) => do
    let _ ← cparserCmdConfigSpanningTreeRstpMaxAge H M maxage fdly h
  | .setProtocol loop proto => do
    let _ ← bstpSetProtocol H M loop proto

def TimedBstp.timeParams (s : TimedBstp τ) : TimeParams where
  forwardDelay := s.bridgeFdelay.toNat
  maxAge := s.bridgeMaxAge.toNat
  hello := s.bridgeHtime.toNat

section Legal

variable {H M} {s : TimedBstp τ}

theorem setWidth_promoted (t : U16) : (promoted t).toBitVec.setWidth 16 = t := by
  simp [promoted]

theorem toInt_promoted (t : U16) : (promoted t).toInt = t.toNat := by
  have hlt := t.isLt
  have hwidth : (t.setWidth 32).toNat = t.toNat := by
    rw [BitVec.toNat_setWidth, Nat.mod_eq_of_lt (by omega)]
  rw [promoted, Int32.toInt_ofBitVec, BitVec.toInt_eq_toNat_of_lt (by omega), hwidth]

theorem legal_of_relation {fdly maxage h : Int32} (hfdly : 0 ≤ fdly.toInt ∧ fdly.toInt ≤ 30)
    (hmaxage : 6 ≤ maxage.toInt ∧ maxage.toInt ≤ 40) (hh : 1 ≤ h.toInt ∧ h.toInt ≤ 10)
    (hrel : bridgeTimerRelation fdly maxage h = 0) :
    TimeParams.Legal ⟨(fdly.toBitVec.setWidth 16).toNat, (maxage.toBitVec.setWidth 16).toNat,
      (h.toBitVec.setWidth 16).toNat⟩ := by
  have hlegal := TimeParams.Legal.of_relation hfdly hmaxage hh hrel
  have hfdly' := hlegal.forwardDelay.2
  have hmaxage' := hlegal.maxAge.2
  have hh' := hlegal.hello.2
  dsimp only at hfdly' hmaxage' hh'
  rw [BitVec.toNat_setWidth, BitVec.toNat_setWidth, BitVec.toNat_setWidth,
    Nat.mod_eq_of_lt (by omega), Nat.mod_eq_of_lt (by omega), Nat.mod_eq_of_lt (by omega)]
  exact hlegal

theorem reinit_legal (h : s.timeParams.Legal) :
    Ends (reinit H M) s fun _ s' ↦ s'.timeParams.Legal := by
  intro _ s' hs
  obtain ⟨r, -, heq⟩ := Option.map_eq_some_iff.mp hs
  obtain ⟨-, rfl⟩ := Prod.mk.inj heq
  exact h

theorem set_legal {g : TimedBstp τ → TimedBstp τ} (h : (g s).timeParams.Legal) :
    Ends (do modify g; reinit H M; pure 0 : BstpM τ Int) s fun _ s' ↦ s'.timeParams.Legal :=
  .bind (.update ((reinit_legal h).andThen fun _ _ h ↦ .pure h))

theorem bstpSetTime_legal {range : Int32 × Int32} {set : U16 → TimedBstp τ → TimedBstp τ}
    {t : Int32} (hs : s.timeParams.Legal)
    (h : range.1.toInt ≤ t.toInt → t.toInt ≤ range.2.toInt →
      (set (t.toBitVec.setWidth 16) s).timeParams.Legal) :
    Ends (bstpSetTime H M range set t) s fun _ s' ↦ s'.timeParams.Legal := by
  refine .ite (fun _ ↦ .pure hs) fun hin ↦ set_legal ?_
  rw [not_or, Int32.not_lt, Int32.not_lt, Int32.le_iff_toInt_le, Int32.le_iff_toInt_le] at hin
  exact h hin.1 hin.2

theorem toInt_of_legal (hs : s.timeParams.Legal) :
    (4 ≤ (promoted s.bridgeFdelay).toInt ∧ (promoted s.bridgeFdelay).toInt ≤ 30) ∧
      (6 ≤ (promoted s.bridgeMaxAge).toInt ∧ (promoted s.bridgeMaxAge).toInt ≤ 40) ∧
      1 ≤ (promoted s.bridgeHtime).toInt ∧ (promoted s.bridgeHtime).toInt ≤ 10 := by
  rw [toInt_promoted, toInt_promoted, toInt_promoted]
  exact ⟨hs.forwardDelay, hs.maxAge, hs.hello⟩

theorem rstpSetBridgeHelloTime_legal (hello : U32) (hs : s.timeParams.Legal) :
    Ends (rstpSetBridgeHelloTime H M hello) s fun _ s' ↦ s'.timeParams.Legal := by
  refine .read (.ite (fun hrel ↦ bstpSetTime_legal hs fun hmin hmax ↦ ?_) fun _ ↦ .pure hs)
  obtain ⟨hfdly, hmaxage, -⟩ := toInt_of_legal hs
  have hlegal := legal_of_relation (by omega) hmaxage ⟨hmin, hmax⟩ hrel
  rw [setWidth_promoted, setWidth_promoted] at hlegal
  exact hlegal

theorem rstpSetBridgeFdly_legal (fdly : U32) (hs : s.timeParams.Legal) :
    Ends (rstpSetBridgeFdly H M fdly) s fun _ s' ↦ s'.timeParams.Legal := by
  refine .read (.ite (fun hrel ↦ bstpSetTime_legal hs fun hmin hmax ↦ ?_) fun _ ↦ .pure hs)
  obtain ⟨-, hmaxage, hhello⟩ := toInt_of_legal hs
  have hlegal := legal_of_relation ⟨le_trans (by decide) hmin, hmax⟩ hmaxage hhello hrel
  rw [setWidth_promoted, setWidth_promoted] at hlegal
  exact hlegal

theorem rstpSetBridgeMaxAge_legal (maxAge : U32) (hs : s.timeParams.Legal) :
    Ends (rstpSetBridgeMaxAge H M maxAge) s fun _ s' ↦ s'.timeParams.Legal := by
  refine .read (.ite (fun hrel ↦ bstpSetTime_legal hs fun hmin hmax ↦ ?_) fun _ ↦ .pure hs)
  obtain ⟨hfdly, -, hhello⟩ := toInt_of_legal hs
  have hlegal := legal_of_relation (by omega) ⟨hmin, hmax⟩ hhello hrel
  rw [setWidth_promoted, setWidth_promoted] at hlegal
  exact hlegal

theorem rstpSetBridgeTimes_legal {fdly maxage htime : Option Int32} (hs : s.timeParams.Legal)
    (hhtime : htime.all (inRange bstpTimerLimits.hello) = true)
    (hfdly : fdly.all (inRange bstpTimerLimits.forwardDelay) = true)
    (hmaxage : maxage.all (inRange bstpTimerLimits.maxAge) = true) :
    Ends (rstpSetBridgeTimes H M (fdly.getD (-1)) (maxage.getD (-1)) (htime.getD (-1))) s
      fun _ s' ↦ s'.timeParams.Legal := by
  obtain ⟨hf, hm, hh⟩ := toInt_of_legal hs
  have hf' := chosen_inRange (by decide) hfdly hf
  have hm' := chosen_inRange (by decide) hmaxage hm
  have hh' := chosen_inRange (by decide) hhtime hh
  refine .read (.ite (fun _ ↦ .pure hs) fun hrel ↦ set_legal ?_)
  exact legal_of_relation ⟨le_trans (by decide) hf'.1, hf'.2⟩ hm' hh' (not_not.mp hrel)

theorem bstpSetProtocol_legal (loop : BstpState → τ → ℕ → IfState) (proto : Int32)
    (hs : s.timeParams.Legal) :
    Ends (bstpSetProtocol H M loop proto) s fun _ s' ↦ s'.timeParams.Legal := by
  refine .ite (fun _ ↦ set_legal ?_) fun _ ↦ .pure hs
  have hrange : (1 : ℤ) ≤ 2 ∧ (2 : ℤ) ≤ 10 := by decide
  have hfits : (2 : ℤ) * (2 + 1) ≤ 6 := by decide
  exact ⟨hrange, hs.maxAge, hs.forwardDelay, hs.relation.1, hfits.trans hs.maxAge.1⟩

theorem RstpCommand.run_legal (c : RstpCommand τ) (hs : s.timeParams.Legal) :
    Ends (c.run H M) s fun _ s' ↦ s'.timeParams.Legal := by
  cases c with
  | timers c =>
    cases c with
    | helloTime h fdly maxage =>
      exact (timerHandler_keeps (P := fun s : TimedBstp τ ↦ s.timeParams.Legal) hs
        (rstpSetBridgeHelloTime_legal _ hs)
        (rstpSetBridgeTimes_legal hs)).andThen fun _ _ h ↦ .pure h
    | forwardDelay fdly maxage h =>
      exact (timerHandler_keeps (P := fun s : TimedBstp τ ↦ s.timeParams.Legal) hs
        (rstpSetBridgeFdly_legal _ hs)
        (rstpSetBridgeTimes_legal hs)).andThen fun _ _ h ↦ .pure h
    | maxAge maxage fdly h =>
      exact (timerHandler_keeps (P := fun s : TimedBstp τ ↦ s.timeParams.Legal) hs
        (rstpSetBridgeMaxAge_legal _ hs)
        (rstpSetBridgeTimes_legal hs)).andThen fun _ _ h ↦ .pure h
  | setProtocol loop proto =>
    exact (bstpSetProtocol_legal loop proto hs).andThen fun _ _ h ↦ .pure h

end Legal

theorem create_legal (vlanId : U16) (env : τ) :
    (TimedBstp.create H vlanId env).timeParams.Legal := TimeParams.legal_default

/-- After any timer commands the configured times of an STP and of an RSTP
instance lie in their ranges and satisfy the relation of 802.1D. -/
theorem bridge_times_stay_legal {κ : Type} [OfNat κ 0] [OfNat κ 20000] {vlanId : U16}
    {addr : MacAddress} {egressPorts : List U32} {portCdb : Vector PortT maxPorts} {env : τ}
    {cmds : List TimerCommand} {w : Stp.World κ τ Φ} {rstpCmds : List (RstpCommand τ)}
    {s : TimedBstp τ}
    (hstp : Run (fun w c ↦ (c.stp w).map Prod.snd) (fun _ _ ↦ True)
      (newInstance H vlanId addr egressPorts portCdb env) cmds w)
    (hrstp : Run (fun s c ↦ (RstpCommand.run H M c s).map Prod.snd) (fun _ _ ↦ True)
      (TimedBstp.create H vlanId env) rstpCmds s) :
    w.br.timeParams.Legal ∧ s.timeParams.Legal := by
  constructor
  · refine hstp.invariant (I := fun w ↦ w.br.timeParams.Legal) ?_
      (newInstance_legal H vlanId addr egressPorts portCdb env)
    rintro w c w' hw - hstep
    obtain ⟨⟨r, _⟩, hrun, rfl⟩ := Option.map_eq_some_iff.mp hstep
    exact c.stp_legal hw r _ hrun
  · refine hrstp.invariant (I := fun s ↦ s.timeParams.Legal) ?_ (create_legal H vlanId env)
    rintro s c s' hs - hstep
    obtain ⟨⟨r, _⟩, hrun, rfl⟩ := Option.map_eq_some_iff.mp hstep
    exact c.run_legal hs r _ hrun

def discardingMachines : Machines Timers.TimerMgr (List U8) :=
  ⟨fun _ _ _ ↦ .discarding, fun _ _ _ _ ↦ .discarding, fun _ _ _ _ ↦ .discarding,
    fun _ _ _ _ _ ↦ .discarding, fun _ _ _ ↦ .discarding⟩

/-- The hello time alone, then max age and forward delay at the edge of the
relation, and for RSTP the protocol at last. -/
theorem bridge_times_stay_legal_at_edge :
    ∃ (w : Stp.World Int32 Timers.TimerMgr (List U8)) (s : TimedBstp Timers.TimerMgr),
      (w.br.bridgeForwardDelay, w.br.bridgeMaxAge, w.br.bridgeHelloTime) = (6, 10, 4) ∧
      (s.bridgeFdelay, s.bridgeMaxAge, s.bridgeHtime) = (6, 10, 2) ∧
      w.br.timeParams.Legal ∧ s.timeParams.Legal := by
  have hstp : ((exec (fun w (c : TimerCommand) ↦ (c.stp w).map Prod.snd) Stp.relayStart
      [.helloTime 4 none none, .maxAge 10 (some 6) none]).any fun w ↦
        (w.br.bridgeForwardDelay, w.br.bridgeMaxAge, w.br.bridgeHelloTime) = (6, 10, 4)) =
          true := by
    decide +kernel
  have hrstp : ((exec (fun s c ↦
    (RstpCommand.run Stp.relayHost discardingMachines c s).map Prod.snd)
      (TimedBstp.create Stp.relayHost 1 Timers.initTimerMgr)
      [.timers (.helloTime 4 none none), .timers (.maxAge 10 (some 6) none),
        .setProtocol (fun _ _ _ ↦ .discarding) bstpProtoStp]).any fun s ↦
        (s.bridgeFdelay, s.bridgeMaxAge, s.bridgeHtime) = (6, 10, 2)) = true := by
    decide +kernel
  simp only [Option.any_eq_true, decide_eq_true_eq] at hstp hrstp
  obtain ⟨w, hw, hset⟩ := hstp
  obtain ⟨s, hs, hset'⟩ := hrstp
  exact ⟨w, s, hset, hset', bridge_times_stay_legal Stp.relayHost discardingMachines
    (run_of_exec hw)
    (run_of_exec hs)⟩

section Answers

def answerOf : TimerCommand → BstpM τ CparserResult
  | .helloTime h fdly maxage => cparserCmdConfigSpanningTreeRstpHelloTime H M h fdly maxage
  | .forwardDelay fdly maxage h => cparserCmdConfigSpanningTreeRstpForwardDelay H M fdly maxage h
  | .maxAge maxage fdly h => cparserCmdConfigSpanningTreeRstpMaxAge H M maxage fdly h

def TimedBstp.configured (s : TimedBstp τ) : ThreeTimes where
  forwardDelay := promoted s.bridgeFdelay
  maxAge := promoted s.bridgeMaxAge
  hello := promoted s.bridgeHtime

variable {H M} {s : TimedBstp τ}

/-- A state in which the request is carried out, if `bstp_reinit` returns. -/
structure CarriedOut (H : Host τ) (M : Machines τ Φ) (s : TimedBstp τ) (req : TimerRequest)
    (o : Option (TimedBstp τ)) : Prop where
  returns : (bstpReinit H M s.bs s.env).isSome → o.isSome
  configured : ∀ s', o = some s' → s'.configured = req.asked s.configured

theorem promoted_setWidth {x : Int32} {range : Int32 × Int32} (hx : inRange range x = true)
    (hmin : 0 ≤ range.1.toInt) (hmax : range.2.toInt < 2 ^ 16) :
    promoted (x.toBitVec.setWidth 16) = x := by
  rw [inRange_iff] at hx
  have hnat := Stp.toNat_toBitVec_eq_toInt (hmin.trans hx.1)
  have hwidth : (x.toBitVec.setWidth 16).setWidth 32 = x.toBitVec := by
    apply BitVec.eq_of_toNat_eq
    rw [BitVec.toNat_setWidth, BitVec.toNat_setWidth]
    omega
  rw [promoted, hwidth]
  rfl

theorem exists_carriedOut {req : TimerRequest} {g : TimedBstp τ → TimedBstp τ}
    (hbs : (g s).bs = s.bs) (henv : (g s).env = s.env)
    (hg : (g s).configured = req.asked s.configured) :
    ∃ o, (do modify g; reinit H M; pure 0 : BstpM τ Int) s = (o.map fun s' ↦ (0, s')) ∧
      CarriedOut H M s req o := by
  refine ⟨(bstpReinit H M s.bs s.env).map fun (bs, env) ↦ { g s with bs := bs, env := env },
    ?_, ?_, ?_⟩
  · change (((bstpReinit H M (g s).bs (g s).env).map _).bind _ : Option (Int × TimedBstp τ)) = _
    rw [hbs, henv]
    cases bstpReinit H M s.bs s.env with
    | none => rfl
    | some x => rfl
  · intro hsome
    rw [Option.isSome_map]
    exact hsome
  · intro s' hs'
    obtain ⟨x, -, rfl⟩ := Option.map_eq_some_iff.mp hs'
    exact hg

def CarriesOut (H : Host τ) (M : Machines τ Φ) (req : TimerRequest) (m : BstpM τ Int)
    (s : TimedBstp τ) : Prop :=
  ∃ o, SetsIf (req.Acceptable bstpTimerLimits s.configured) m s o ∧
    (req.Acceptable bstpTimerLimits s.configured → CarriedOut H M s req o)

theorem carriesOut_of_rejected {req : TimerRequest} {m : BstpM τ Int}
    (hacc : ¬req.Acceptable bstpTimerLimits s.configured) (hm : m s = some (-1, s)) :
    CarriesOut H M req m s :=
  ⟨none, hm.trans (if_neg hacc).symm, fun h ↦ absurd h hacc⟩

theorem carriesOut_of_accepted {req : TimerRequest} {m : BstpM τ Int}
    {g : TimedBstp τ → TimedBstp τ} (hacc : req.Acceptable bstpTimerLimits s.configured)
    (hm : m s = (do modify g; reinit H M; pure 0 : BstpM τ Int) s)
    (hbs : (g s).bs = s.bs) (henv : (g s).env = s.env)
    (hg : (g s).configured = req.asked s.configured) : CarriesOut H M req m s := by
  obtain ⟨o, ho, hout⟩ := exists_carriedOut (H := H) (M := M) hbs henv hg
  exact ⟨o, (hm.trans ho).trans (if_pos hacc).symm, fun _ ↦ hout⟩

theorem carriesOut_of_tests {req : TimerRequest} {range : Int32 × Int32} {x : Int32}
    {rel : TimedBstp τ → Int} {set : U16 → TimedBstp τ → TimedBstp τ}
    (hacc : req.Acceptable bstpTimerLimits s.configured ↔ inRange range x = true ∧ rel s = 0)
    (hbs : (set (x.toBitVec.setWidth 16) s).bs = s.bs)
    (henv : (set (x.toBitVec.setWidth 16) s).env = s.env)
    (hset : inRange range x = true →
      (set (x.toBitVec.setWidth 16) s).configured = req.asked s.configured) :
    CarriesOut H M req (do
      let s ← get
      if rel s = 0 then bstpSetTime H M range set x else pure (-1)) s := by
  have hm : (do
      let s ← get
      if rel s = 0 then bstpSetTime H M range set x else pure (-1) : BstpM τ Int) s =
      (if rel s = 0 then bstpSetTime H M range set x else pure (-1)) s := rfl
  by_cases hrel : rel s = 0
  · by_cases hout : x < range.1 ∨ range.2 < x
    · refine carriesOut_of_rejected (fun h ↦ ?_) (hm.trans ?_)
      · have hin := inRange_iff.mp (hacc.mp h).1
        rw [← Int32.le_iff_toInt_le, ← Int32.le_iff_toInt_le, ← Int32.not_lt, ← Int32.not_lt] at hin
        exact hout.elim hin.1 hin.2
      · rw [if_pos hrel, bstpSetTime, if_pos hout]
        rfl
    · have hin : inRange range x = true := by
        rw [inRange_iff, ← Int32.le_iff_toInt_le, ← Int32.le_iff_toInt_le]
        rw [not_or, Int32.not_lt, Int32.not_lt] at hout
        exact hout
      refine carriesOut_of_accepted (hacc.mpr ⟨hin, hrel⟩) (hm.trans ?_) hbs henv (hset hin)
      rw [if_pos hrel, bstpSetTime, if_neg hout]
  · refine carriesOut_of_rejected (fun h ↦ hrel (hacc.mp h).2) (hm.trans ?_)
    rw [if_neg hrel]
    rfl

theorem rstpSetBridgeHelloTime_carriesOut (h : Int32) :
    CarriesOut H M ⟨none, none, some h⟩ (rstpSetBridgeHelloTime H M h.toBitVec) s := by
  refine carriesOut_of_tests ?_ rfl rfl fun hin ↦ ?_
  · simp [TimerRequest.Acceptable, TimerRequest.within, TimerRequest.asked, TimedBstp.configured]
  · exact congrArg (ThreeTimes.mk _ _) (promoted_setWidth hin (by decide) (by decide))

theorem rstpSetBridgeFdly_carriesOut (fdly : Int32) :
    CarriesOut H M ⟨some fdly, none, none⟩ (rstpSetBridgeFdly H M fdly.toBitVec) s := by
  refine carriesOut_of_tests ?_ rfl rfl fun hin ↦ ?_
  · simp [TimerRequest.Acceptable, TimerRequest.within, TimerRequest.asked, TimedBstp.configured]
  · exact congrArg (ThreeTimes.mk · _ _) (promoted_setWidth hin (by decide) (by decide))

theorem rstpSetBridgeMaxAge_carriesOut (maxAge : Int32) :
    CarriesOut H M ⟨none, some maxAge, none⟩ (rstpSetBridgeMaxAge H M maxAge.toBitVec) s := by
  refine carriesOut_of_tests ?_ rfl rfl fun hin ↦ ?_
  · simp [TimerRequest.Acceptable, TimerRequest.within, TimerRequest.asked, TimedBstp.configured]
  · exact congrArg (ThreeTimes.mk _ · _) (promoted_setWidth hin (by decide) (by decide))

theorem promoted_asked {given : Option Int32} {range : Int32 × Int32} (t : U16)
    (hgiven : given.all (inRange range) = true) (hmin : 0 ≤ range.1.toInt)
    (hmax : range.2.toInt < 2 ^ 16) :
    promoted ((given.getD (promoted t)).toBitVec.setWidth 16) = given.getD (promoted t) := by
  cases given with
  | none => exact congrArg promoted (setWidth_promoted t)
  | some x => exact promoted_setWidth hgiven hmin hmax

theorem rstpSetBridgeTimes_carriesOut {req : TimerRequest}
    (hwithin : req.within bstpTimerLimits = true) :
    CarriesOut H M req (rstpSetBridgeTimes H M (req.forwardDelay.getD (-1)) (req.maxAge.getD (-1))
      (req.hello.getD (-1))) s := by
  have hw := hwithin
  rw [TimerRequest.within, Bool.and_eq_true, Bool.and_eq_true] at hw
  have hhello := chosen_eq (promoted s.bridgeHtime) (by decide) hw.1.1
  have hfdly := chosen_eq (promoted s.bridgeFdelay) (by decide) hw.1.2
  have hmaxage := chosen_eq (promoted s.bridgeMaxAge) (by decide) hw.2
  let t := req.asked s.configured
  let g : TimedBstp τ → TimedBstp τ := fun s ↦ { s with
    bridgeMaxAge := t.maxAge.toBitVec.setWidth 16
    bridgeFdelay := t.forwardDelay.toBitVec.setWidth 16
    bridgeHtime := t.hello.toBitVec.setWidth 16 }
  have hm : rstpSetBridgeTimes H M (req.forwardDelay.getD (-1)) (req.maxAge.getD (-1))
      (req.hello.getD (-1)) s =
      (if bridgeTimerRelation t.forwardDelay t.maxAge t.hello ≠ 0 then pure (-1)
        else do modify g; reinit H M; pure 0 : BstpM τ Int) s := by
    change (if bridgeTimerRelation _ _ _ ≠ 0 then _ else _ : BstpM τ Int) s = _
    simp only [hhello, hfdly, hmaxage]
    rfl
  by_cases hrel : bridgeTimerRelation t.forwardDelay t.maxAge t.hello = 0
  · rw [if_neg (not_not.mpr hrel)] at hm
    refine carriesOut_of_accepted ⟨hwithin, hrel⟩ hm rfl rfl ?_
    change ThreeTimes.mk (promoted
      ((req.forwardDelay.getD (promoted s.bridgeFdelay)).toBitVec.setWidth 16))
      (promoted ((req.maxAge.getD (promoted s.bridgeMaxAge)).toBitVec.setWidth 16))
      (promoted ((req.hello.getD (promoted s.bridgeHtime)).toBitVec.setWidth 16)) = _
    rw [promoted_asked _ hw.1.1 (by decide) (by decide),
      promoted_asked _ hw.1.2 (by decide) (by decide),
        promoted_asked _ hw.2 (by decide) (by decide)]
    rfl
  · rw [if_pos hrel] at hm
    exact carriesOut_of_rejected (fun h ↦ hrel h.2) hm

/-- What is true of the answer of a command, and whether it comes. -/
structure Answered (H : Host τ) (M : Machines τ Φ) (req : TimerRequest) (alone : Bool)
    (m : BstpM τ CparserResult) (s : TimedBstp τ) : Prop where
  returns : (bstpReinit H M s.bs s.env).isSome → (m s).isSome
  truthful : Ends m s fun r s' ↦
    (Truthful r (req.Acceptable bstpTimerLimits s.configured ∧
      s'.configured = req.asked s.configured)
        ((s'.bridgeFdelay, s'.bridgeMaxAge, s'.bridgeHtime) =
          (s.bridgeFdelay, s.bridgeMaxAge, s.bridgeHtime)) ↔
      alone = true ∨ ¬req.Acceptable bstpTimerLimits s.configured)

theorem timerHandler_answered (req : TimerRequest) {single : BstpM τ Int} {alone : Bool}
    (hsingle : alone = true → CarriesOut H M req single s) :
    Answered H M req alone (timerHandler bstpTimerLimits (rstpSetBridgeTimes H M) single alone
      req.forwardDelay req.maxAge req.hello) s := by
  obtain ⟨heq, hacc⟩ | ⟨hacc, o, hout, heq⟩ := timerHandler_eq hsingle rstpSetBridgeTimes_carriesOut
  · refine ⟨fun _ ↦ by rw [heq]; rfl, fun r s' hrun ↦ ?_⟩
    rw [heq] at hrun
    obtain ⟨rfl, rfl⟩ := Prod.mk.inj (Option.some.inj hrun)
    exact iff_of_true (truthful_rejected (fun h ↦ hacc h.1) rfl) (.inr hacc)
  · refine ⟨fun hsome ↦ ?_, fun r s' hrun ↦ ?_⟩
    · rw [heq, Option.isSome_map]
      exact hout.returns hsome
    · rw [heq] at hrun
      obtain ⟨s'', rfl, hpair⟩ := Option.map_eq_some_iff.mp hrun
      obtain ⟨rfl, rfl⟩ := Prod.mk.inj hpair
      rw [truthful_accepted ⟨hacc, hout.configured s'' rfl⟩, or_iff_left (not_not.mpr hacc)]

theorem rstp_answered (c : TimerCommand) (s : TimedBstp τ) :
    Answered H M c.request c.alone (answerOf H M c) s := by
  cases c with
  | helloTime h fdly maxage =>
    refine timerHandler_answered ⟨fdly, maxage, some h⟩ fun halone ↦ ?_
    rw [TimerCommand.alone, Bool.and_eq_true, Option.isNone_iff_eq_none,
      Option.isNone_iff_eq_none] at halone
    obtain ⟨rfl, rfl⟩ := halone
    exact rstpSetBridgeHelloTime_carriesOut h
  | forwardDelay fdly maxage h =>
    refine timerHandler_answered ⟨some fdly, maxage, h⟩ fun halone ↦ ?_
    rw [TimerCommand.alone, Bool.and_eq_true, Option.isNone_iff_eq_none,
      Option.isNone_iff_eq_none] at halone
    obtain ⟨rfl, rfl⟩ := halone
    exact rstpSetBridgeFdly_carriesOut fdly
  | maxAge maxage fdly h =>
    refine timerHandler_answered ⟨fdly, some maxage, h⟩ fun halone ↦ ?_
    rw [TimerCommand.alone, Bool.and_eq_true, Option.isNone_iff_eq_none,
      Option.isNone_iff_eq_none] at halone
    obtain ⟨rfl, rfl⟩ := halone
    exact rstpSetBridgeMaxAge_carriesOut maxage

/-- A timer command tells the truth about what it did just when it gives one time
only or is turned down. -/
theorem timer_command_truthful_iff {κ : Type} (c : TimerCommand) (w : Stp.World κ τ Φ) (H : Host τ)
    (M : Machines τ Φ) (s : TimedBstp τ) :
    (∃ r w', c.stp w = some (r, w') ∧
      (Truthful r (c.request.Acceptable stpTimerLimits w.br.configured ∧
          w'.br.Follows c.request w.br.configured) (w'.br.times = w.br.times) ↔
        c.alone = true ∨ ¬c.request.Acceptable stpTimerLimits w.br.configured)) ∧
    Answered H M c.request c.alone (answerOf H M c) s :=
  ⟨c.stp_truthful w, rstp_answered c s⟩

end Answers

/-- A hello time alone, which is set and answered with `CPARSER_OK`. -/
theorem timer_command_truthful_iff_hello : ∃ r w',
    (TimerCommand.helloTime 4 none none).stp Stp.relayStart = some (r, w') ∧
    Truthful r ((TimerCommand.helloTime 4 none none).request.Acceptable stpTimerLimits
        Stp.relayStart.br.configured ∧ w'.br.Follows
        (TimerCommand.helloTime 4 none none).request Stp.relayStart.br.configured)
      (w'.br.times = Stp.relayStart.br.times) := by
  obtain ⟨⟨r, w', hrun, hiff⟩, -⟩ := timer_command_truthful_iff (.helloTime 4 none none)
    Stp.relayStart Stp.relayHost discardingMachines
    (TimedBstp.create Stp.relayHost 1 Timers.initTimerMgr)
  exact ⟨r, w', hrun, hiff.mpr (.inl rfl)⟩

/-- A hello time and a forward delay are set, and the answer is `CPARSER_NOT_OK`. -/
theorem combined_times_set_but_not_ok :
    ¬(∀ (c : TimerCommand) (w : Stp.World Int32 Timers.TimerMgr (List U8)), ∃ r w',
      c.stp w = some (r, w') ∧
      Truthful r (c.request.Acceptable stpTimerLimits w.br.configured ∧
        w'.br.Follows c.request w.br.configured) (w'.br.times = w.br.times)) ∧
    ¬(∀ (c : TimerCommand) (s : TimedBstp Timers.TimerMgr), ∃ r s',
      answerOf Stp.relayHost discardingMachines c s = some (r, s') ∧
      Truthful r (c.request.Acceptable bstpTimerLimits s.configured ∧
        s'.configured = c.request.asked s.configured)
        ((s'.bridgeFdelay, s'.bridgeMaxAge, s'.bridgeHtime) =
          (s.bridgeFdelay, s.bridgeMaxAge, s.bridgeHtime))) := by
  constructor
  · intro h
    obtain ⟨r, w', hrun, htrue⟩ := h (.helloTime 4 (some 12) none) Stp.relayStart
    have hset : ((TimerCommand.helloTime 4 (some 12) none).stp Stp.relayStart).any (fun x ↦
        x.1 = .notOk ∧ x.2.br.bridgeHelloTime = 4 ∧ Stp.relayStart.br.bridgeHelloTime = 2) =
          true := by
      decide +kernel
    rw [hrun, Option.any_some, decide_eq_true_eq] at hset
    obtain ⟨hnotOk, hnew, hold⟩ := hset
    have hsame := congrArg Stp.BridgeTimes.bridgeHelloTime (htrue.2 hnotOk)
    exact absurd (hnew.symm.trans (hsame.trans hold)) (by decide)
  · intro h
    obtain ⟨r, s', hrun, htrue⟩ := h (.helloTime 4 (some 12) none)
      (TimedBstp.create Stp.relayHost 1 Timers.initTimerMgr)
    have hset : (answerOf Stp.relayHost discardingMachines (.helloTime 4 (some 12) none)
        (TimedBstp.create Stp.relayHost 1 Timers.initTimerMgr)).any (fun x ↦
        x.1 = .notOk ∧ x.2.bridgeHtime = 4) = true := by
      decide +kernel
    rw [hrun, Option.any_some, decide_eq_true_eq] at hset
    obtain ⟨hnotOk, hnew⟩ := hset
    have hsame := (Prod.mk.inj (Prod.mk.inj (htrue.2 hnotOk)).2).2
    exact absurd (hnew.symm.trans hsame) (by decide)

end Layer3Switch.Rstp
