import Layer3Switch.Lib.Run
import Layer3Switch.Stp.Create
import Layer3Switch.Stp.Times

namespace Layer3Switch.Stp

open Lib Lib.Bytes
open Timers (U32)

inductive CparserResult
  | ok
  | notOk
  deriving DecidableEq, Repr

/-- The timer commands of the CLI, each with its own time and the two that may follow. -/
inductive TimerCommand
  | helloTime (htimesecs : Int32) (fdlysecs maxagesecs : Option Int32)
  | forwardDelay (fdlysecs : Int32) (maxagesecs htimesecs : Option Int32)
  | maxAge (maxagesecs : Int32) (fdlysecs htimesecs : Option Int32)
  deriving DecidableEq, Repr

structure TimerLimits where
  hello : Int32 × Int32
  forwardDelay : Int32 × Int32
  maxAge : Int32 × Int32

def inRange (range : Int32 × Int32) (x : Int32) : Bool := range.1 ≤ x ∧ x ≤ range.2

section Handlers

variable {σ : Type}

def answer (m : StateT σ Option Int) : StateT σ Option CparserResult := do
  let r ← m
  pure (if r = 0 then .ok else .notOk)

/-- The end of every handler, which reports a failure whatever `times` returns. -/
def setTimers (limits : TimerLimits) (times : Int32 → Int32 → Int32 → StateT σ Option Int)
    (fdlysecs maxagesecs htimesecs : Option Int32) : StateT σ Option CparserResult :=
  if !(htimesecs.all (inRange limits.hello) && fdlysecs.all (inRange limits.forwardDelay) &&
    maxagesecs.all (inRange limits.maxAge)) then pure .notOk
  else do
    let _ ← times (fdlysecs.getD (-1)) (maxagesecs.getD (-1)) (htimesecs.getD (-1))
    pure .notOk

def timerHandler (limits : TimerLimits) (times : Int32 → Int32 → Int32 → StateT σ Option Int)
    (single : StateT σ Option Int) (alone : Bool) (fdlysecs maxagesecs htimesecs : Option Int32) :
    StateT σ Option CparserResult :=
  if alone then answer single else setTimers limits times fdlysecs maxagesecs htimesecs

end Handlers

def stpTimerLimits : TimerLimits where
  hello := (stpMinHelloTime, stpMaxHelloTime)
  forwardDelay := (stpMinForwardDelay, stpMaxForwardDelay)
  maxAge := (stpMinMaxAge, stpMaxMaxAge)

variable {κ τ Φ : Type}

def cparserCmdConfigSpanningTreeHelloTime (htimesecs : Int32) (fdlysecs maxagesecs : Option Int32) :
    StpM κ τ Φ CparserResult :=
  timerHandler stpTimerLimits stpSetBridgeTimes (stpSetBridgeHelloTime htimesecs)
    (fdlysecs.isNone && maxagesecs.isNone) fdlysecs maxagesecs (some htimesecs)

def cparserCmdConfigSpanningTreeForwardDelay (fdlysecs : Int32)
    (maxagesecs htimesecs : Option Int32) : StpM κ τ Φ CparserResult :=
  timerHandler stpTimerLimits stpSetBridgeTimes (stpSetBridgeForwardDelay fdlysecs)
    (htimesecs.isNone && maxagesecs.isNone) (some fdlysecs) maxagesecs htimesecs

def cparserCmdConfigSpanningTreeMaxAge (maxagesecs : Int32) (fdlysecs htimesecs : Option Int32) :
    StpM κ τ Φ CparserResult :=
  timerHandler stpTimerLimits stpSetBridgeTimes (stpSetBridgeMaxAge maxagesecs)
    (fdlysecs.isNone && htimesecs.isNone) fdlysecs (some maxagesecs) htimesecs

def TimerCommand.stp : TimerCommand → StpM κ τ Φ CparserResult
  | .helloTime h fdly maxage => cparserCmdConfigSpanningTreeHelloTime h fdly maxage
  | .forwardDelay fdly maxage h => cparserCmdConfigSpanningTreeForwardDelay fdly maxage h
  | .maxAge maxage fdly h => cparserCmdConfigSpanningTreeMaxAge maxage fdly h

/-- The times that a bridge is configured with, in seconds. -/
structure TimeParams where
  forwardDelay : ℤ
  maxAge : ℤ
  hello : ℤ

/-- The ranges of the three times and the relation of 802.1D between them. -/
structure TimeParams.Legal (t : TimeParams) : Prop where
  hello : 1 ≤ t.hello ∧ t.hello ≤ 10
  maxAge : 6 ≤ t.maxAge ∧ t.maxAge ≤ 40
  forwardDelay : 4 ≤ t.forwardDelay ∧ t.forwardDelay ≤ 30
  relation : 2 * (t.forwardDelay - 1) ≥ t.maxAge ∧ t.maxAge ≥ 2 * (t.hello + 1)

def StpInstance.timeParams (br : StpInstance κ) : TimeParams where
  forwardDelay := br.bridgeForwardDelay.toNat
  maxAge := br.bridgeMaxAge.toNat
  hello := br.bridgeHelloTime.toNat

section Arithmetic

variable {fdly maxage h x : Int32}

theorem bridgeTimerRelation_eq_zero (hfdly : 0 ≤ fdly.toInt ∧ fdly.toInt ≤ 3600)
    (hh : 0 ≤ h.toInt ∧ h.toInt ≤ 3600) :
    bridgeTimerRelation fdly maxage h = 0 ↔
      maxage.toInt ≤ 2 * (fdly.toInt - 1) ∧ 2 * (h.toInt + 1) ≤ maxage.toInt := by
  have hleft : (2 * (fdly - 1)).toInt = 2 * (fdly.toInt - 1) := by
    rw [Int32.toInt_mul, Int32.toInt_sub]
    change (2 * (fdly.toInt - 1).bmod (2 ^ 32)).bmod (2 ^ 32) = _
    rw [Int.mul_bmod_bmod, Int.bmod_eq_of_le (by omega) (by omega)]
  have hright : (2 * (h + 1)).toInt = 2 * (h.toInt + 1) := by
    rw [Int32.toInt_mul, Int32.toInt_add]
    change (2 * (h.toInt + 1).bmod (2 ^ 32)).bmod (2 ^ 32) = _
    rw [Int.mul_bmod_bmod, Int.bmod_eq_of_le (by omega) (by omega)]
  simp only [bridgeTimerRelation, Int32.lt_iff_toInt_lt, hleft, hright]
  by_cases hviolated : 2 * (fdly.toInt - 1) < maxage.toInt ∨ maxage.toInt < 2 * (h.toInt + 1)
  · rw [if_pos hviolated]
    omega
  · rw [if_neg hviolated]
    omega

theorem toNat_toBitVec_eq_toInt (hx : 0 ≤ x.toInt) : (x.toBitVec.toNat : ℤ) = x.toInt := by
  have hcond := BitVec.toInt_eq_toNat_cond x.toBitVec
  rw [Int32.toInt_toBitVec] at hcond
  have hlt := x.toBitVec.isLt
  omega

theorem TimeParams.Legal.of_relation (hfdly : 0 ≤ fdly.toInt ∧ fdly.toInt ≤ 30)
    (hmaxage : 6 ≤ maxage.toInt ∧ maxage.toInt ≤ 40) (hh : 1 ≤ h.toInt ∧ h.toInt ≤ 10)
    (hrel : bridgeTimerRelation fdly maxage h = 0) :
    TimeParams.Legal ⟨fdly.toBitVec.toNat, maxage.toBitVec.toNat, h.toBitVec.toNat⟩ := by
  have hrel' := (bridgeTimerRelation_eq_zero (by omega) (by omega)).mp hrel
  rw [toNat_toBitVec_eq_toInt hfdly.1, toNat_toBitVec_eq_toInt (by omega),
    toNat_toBitVec_eq_toInt (by omega)]
  refine ⟨hh, hmaxage, ⟨?_, hfdly.2⟩, hrel'⟩
  -- The smallest max age leaves no forward delay below four seconds.
  dsimp only
  omega

theorem TimeParams.Legal.toInt {b b₁ b₂ : U32}
    (hb : TimeParams.Legal ⟨b.toNat, b₁.toNat, b₂.toNat⟩) :
    (4 ≤ (Int32.ofBitVec b).toInt ∧ (Int32.ofBitVec b).toInt ≤ 30) ∧
      (6 ≤ (Int32.ofBitVec b₁).toInt ∧ (Int32.ofBitVec b₁).toInt ≤ 40) ∧
      1 ≤ (Int32.ofBitVec b₂).toInt ∧ (Int32.ofBitVec b₂).toInt ≤ 10 := by
  obtain ⟨h₂, h₁, h₀, -⟩ := hb
  dsimp only at h₀ h₁ h₂
  rw [Int32.toInt_ofBitVec, Int32.toInt_ofBitVec, Int32.toInt_ofBitVec,
    BitVec.toInt_eq_toNat_of_lt (by omega), BitVec.toInt_eq_toNat_of_lt (by omega),
    BitVec.toInt_eq_toNat_of_lt (by omega)]
  exact ⟨h₀, h₁, h₂⟩

theorem inRange_iff {range : Int32 × Int32} :
    inRange range x = true ↔ range.1.toInt ≤ x.toInt ∧ x.toInt ≤ range.2.toInt := by
  rw [inRange, decide_eq_true_eq, Int32.le_iff_toInt_le, Int32.le_iff_toInt_le]

theorem chosen_inRange {range : Int32 × Int32} {given : Option Int32}
    (hrange : 0 ≤ range.1.toInt) (hgiven : given.all (inRange range) = true)
    (hx : range.1.toInt ≤ x.toInt ∧ x.toInt ≤ range.2.toInt) :
    range.1.toInt ≤ (if given.getD (-1) < 0 then x else given.getD (-1)).toInt ∧
      (if given.getD (-1) < 0 then x else given.getD (-1)).toInt ≤ range.2.toInt := by
  cases given with
  | none => exact hx
  | some t =>
    have ht := inRange_iff.mp hgiven
    have hpos : ¬t < 0 := by
      rw [Int32.lt_iff_toInt_lt]
      exact not_lt.mpr (hrange.trans ht.1)
    rw [Option.getD_some, if_neg hpos]
    exact ht

end Arithmetic

section Legal

variable {σ : Type} {s : σ} {P : σ → Prop}

theorem timerHandler_keeps {limits : TimerLimits}
    {times : Int32 → Int32 → Int32 → StateT σ Option Int} {single : StateT σ Option Int}
    {alone : Bool} {fdlysecs maxagesecs htimesecs : Option Int32} (hs : P s)
    (hsingle : Ends single s fun _ s' ↦ P s')
    (htimes : htimesecs.all (inRange limits.hello) = true →
      fdlysecs.all (inRange limits.forwardDelay) = true →
      maxagesecs.all (inRange limits.maxAge) = true →
      Ends (times (fdlysecs.getD (-1)) (maxagesecs.getD (-1)) (htimesecs.getD (-1))) s
        fun _ s' ↦ P s') :
    Ends (timerHandler limits times single alone fdlysecs maxagesecs htimesecs) s
      fun _ s' ↦ P s' := by
  refine .ite (fun _ ↦ hsingle.andThen fun _ _ h ↦ .pure h) fun _ ↦ .ite (fun _ ↦ .pure hs) ?_
  intro hchecks
  rw [Bool.not_eq_true', Bool.not_eq_false, Bool.and_eq_true, Bool.and_eq_true] at hchecks
  exact (htimes hchecks.1.1 hchecks.1.2 hchecks.2).andThen fun _ _ h ↦ .pure h

variable {w : World κ τ Φ}

theorem ends_setBridge {g : StpInstance κ → StpInstance κ} {r : Int}
    {Q : Int → World κ τ Φ → Prop} (h : Q r { w with br := g w.br }) :
    Ends (do setBridge g; pure r : StpM κ τ Φ Int) w Q :=
  .bind (.update (.pure h))

theorem stpSetBridgeHelloTime_legal (hello : Int32) (hw : w.br.timeParams.Legal) :
    Ends (stpSetBridgeHelloTime hello) w fun _ w' ↦ w'.br.timeParams.Legal := by
  refine .bind (ends_bridge (.ite (fun _ ↦ .pure hw) fun hin ↦
    .ite (fun _ ↦ .pure hw) fun hrel ↦ ?_))
  rw [not_or, Int32.not_lt, Int32.not_lt, Int32.le_iff_toInt_le, Int32.le_iff_toInt_le] at hin
  obtain ⟨hfdly, hmaxage, -⟩ := TimeParams.Legal.toInt hw
  exact ends_setBridge (.of_relation (by omega) hmaxage hin (not_not.mp hrel))

theorem stpSetBridgeForwardDelay_legal (fwdDly : Int32) (hw : w.br.timeParams.Legal) :
    Ends (stpSetBridgeForwardDelay fwdDly) w fun _ w' ↦ w'.br.timeParams.Legal := by
  refine .bind (ends_bridge (.ite (fun _ ↦ .pure hw) fun hin ↦
    .ite (fun _ ↦ .pure hw) fun hrel ↦ ?_))
  rw [not_or, Int32.not_lt, Int32.not_lt, Int32.le_iff_toInt_le, Int32.le_iff_toInt_le] at hin
  obtain ⟨-, hmaxage, hhello⟩ := TimeParams.Legal.toInt hw
  have hmin : 0 ≤ fwdDly.toInt := le_trans (by decide) hin.1
  exact ends_setBridge (.of_relation ⟨hmin, hin.2⟩ hmaxage hhello (not_not.mp hrel))

theorem stpSetBridgeMaxAge_legal (maxAge : Int32) (hw : w.br.timeParams.Legal) :
    Ends (stpSetBridgeMaxAge maxAge) w fun _ w' ↦ w'.br.timeParams.Legal := by
  refine .bind (ends_bridge (.ite (fun _ ↦ .pure hw) fun hin ↦
    .ite (fun _ ↦ .pure hw) fun hrel ↦ ?_))
  rw [not_or, Int32.not_lt, Int32.not_lt, Int32.le_iff_toInt_le, Int32.le_iff_toInt_le] at hin
  obtain ⟨hfdly, -, hhello⟩ := TimeParams.Legal.toInt hw
  exact ends_setBridge (.of_relation (by omega) hin hhello (not_not.mp hrel))

theorem stpSetBridgeTimes_legal {fdly maxage htime : Option Int32} (hw : w.br.timeParams.Legal)
    (hhtime : htime.all (inRange stpTimerLimits.hello) = true)
    (hfdly : fdly.all (inRange stpTimerLimits.forwardDelay) = true)
    (hmaxage : maxage.all (inRange stpTimerLimits.maxAge) = true) :
    Ends (stpSetBridgeTimes (fdly.getD (-1)) (maxage.getD (-1)) (htime.getD (-1))) w
      fun _ w' ↦ w'.br.timeParams.Legal := by
  obtain ⟨hf, hm, hh⟩ := TimeParams.Legal.toInt hw
  have hf' := chosen_inRange (by decide) hfdly ⟨le_trans (by decide) hf.1, hf.2⟩
  have hm' := chosen_inRange (by decide) hmaxage hm
  have hh' := chosen_inRange (by decide) hhtime hh
  refine .bind (ends_bridge (.ite (fun _ ↦ .pure hw) fun hrel ↦ ends_setBridge ?_))
  have hlegal := TimeParams.Legal.of_relation ⟨le_trans (by decide) hf'.1, hf'.2⟩ hm' hh'
    (not_not.mp hrel)
  cases hroot : stpIsRootBridge w.br with
  | false =>
    simp only [Bool.false_eq_true, if_false]
    exact hlegal
  | true =>
    simp only [if_true]
    exact hlegal

theorem TimerCommand.stp_legal (c : TimerCommand) (hw : w.br.timeParams.Legal) :
    Ends c.stp w fun _ w' ↦ w'.br.timeParams.Legal := by
  cases c with
  | helloTime h fdly maxage =>
    exact timerHandler_keeps (P := fun w : World κ τ Φ ↦ w.br.timeParams.Legal) hw
      (stpSetBridgeHelloTime_legal h hw) (stpSetBridgeTimes_legal hw)
  | forwardDelay fdly maxage h =>
    exact timerHandler_keeps (P := fun w : World κ τ Φ ↦ w.br.timeParams.Legal) hw
      (stpSetBridgeForwardDelay_legal fdly hw) (stpSetBridgeTimes_legal hw)
  | maxAge maxage fdly h =>
    exact timerHandler_keeps (P := fun w : World κ τ Φ ↦ w.br.timeParams.Legal) hw
      (stpSetBridgeMaxAge_legal maxage hw) (stpSetBridgeTimes_legal hw)

theorem TimeParams.legal_default : TimeParams.Legal ⟨15, 20, 2⟩ :=
  ⟨by decide, by decide, by decide, by decide⟩

theorem newInstance_legal [OfNat κ 0] [OfNat κ 20000] (H : Host τ) (vlanId : U16)
    (addr : MacAddress) (egressPorts : List U32) (portCdb : Vector PortT maxPorts) (env : τ) :
    (newInstance H vlanId addr egressPorts portCdb env : World κ τ Φ).br.timeParams.Legal := by
  have hcreate : ∀ w : World κ τ Φ, w.br.timeParams.Legal →
      (egressPorts.foldl (fun w portNo ↦ (stpCreatePort H addr portNo w).1)
        w).br.timeParams.Legal := by
    induction egressPorts with
    | nil => exact fun _ hw ↦ hw
    | cons portNo ports ih =>
      intro w hw
      have hkept : (stpCreatePort H addr portNo w).1.br.timeParams = w.br.timeParams := by
        unfold stpCreatePort
        split <;> rfl
      refine ih _ ?_
      rw [hkept]
      exact hw
  exact hcreate _ TimeParams.legal_default

end Legal

section Answers

structure TimerRequest where
  forwardDelay : Option Int32
  maxAge : Option Int32
  hello : Option Int32

def TimerCommand.request : TimerCommand → TimerRequest
  | .helloTime h fdly maxage => ⟨fdly, maxage, some h⟩
  | .forwardDelay fdly maxage h => ⟨some fdly, maxage, h⟩
  | .maxAge maxage fdly h => ⟨fdly, some maxage, h⟩

def TimerCommand.alone : TimerCommand → Bool
  | .helloTime _ fdly maxage => fdly.isNone && maxage.isNone
  | .forwardDelay _ maxage h => h.isNone && maxage.isNone
  | .maxAge _ fdly h => fdly.isNone && h.isNone

structure ThreeTimes where
  forwardDelay : Int32
  maxAge : Int32
  hello : Int32

namespace TimerRequest

def asked (req : TimerRequest) (t : ThreeTimes) : ThreeTimes where
  forwardDelay := req.forwardDelay.getD t.forwardDelay
  maxAge := req.maxAge.getD t.maxAge
  hello := req.hello.getD t.hello

theorem asked_asked (req : TimerRequest) (t : ThreeTimes) :
    req.asked (req.asked t) = req.asked t := by
  obtain ⟨_ | _, _ | _, _ | _⟩ := req <;> rfl

def within (limits : TimerLimits) (req : TimerRequest) : Bool :=
  req.hello.all (inRange limits.hello) && req.forwardDelay.all (inRange limits.forwardDelay) &&
    req.maxAge.all (inRange limits.maxAge)

def Acceptable (limits : TimerLimits) (t : ThreeTimes) (req : TimerRequest) : Prop :=
  req.within limits = true ∧
    bridgeTimerRelation (req.asked t).forwardDelay (req.asked t).maxAge (req.asked t).hello = 0

instance (limits : TimerLimits) (t : ThreeTimes) (req : TimerRequest) :
    Decidable (req.Acceptable limits t) :=
  inferInstanceAs (Decidable (_ ∧ _))

end TimerRequest

def Truthful (r : CparserResult) (applied unchanged : Prop) : Prop :=
  (r = .ok ↔ applied) ∧ (r = .notOk → unchanged)

theorem chosen_eq {range : Int32 × Int32} {given : Option Int32} (x : Int32)
    (hrange : 0 ≤ range.1.toInt) (hgiven : given.all (inRange range) = true) :
    (if given.getD (-1) < 0 then x else given.getD (-1)) = given.getD x := by
  cases given with
  | none => rfl
  | some t =>
    have ht := inRange_iff.mp hgiven
    have hpos : ¬t < 0 := by
      rw [Int32.lt_iff_toInt_lt]
      exact not_lt.mpr (hrange.trans ht.1)
    exact if_neg hpos

variable {σ : Type} {s : σ}

/-- If `c` holds, the setter `m` returns 0 in a state that `o` may have, and otherwise
it returns -1 and does nothing. -/
def SetsIf (c : Prop) [Decidable c] (m : StateT σ Option Int) (s : σ) (o : Option σ) : Prop :=
  m s = if c then o.map fun s' ↦ (0, s') else some (-1, s)

theorem timerHandler_eq {limits : TimerLimits} {t : ThreeTimes} {req : TimerRequest}
    {times : Int32 → Int32 → Int32 → StateT σ Option Int} {single : StateT σ Option Int}
    {alone : Bool} {Q : Option σ → Prop}
    (hsingle : alone = true → ∃ o, SetsIf (req.Acceptable limits t) single s o ∧
      (req.Acceptable limits t → Q o))
    (htimes : req.within limits = true → ∃ o, SetsIf (req.Acceptable limits t)
      (times (req.forwardDelay.getD (-1)) (req.maxAge.getD (-1)) (req.hello.getD (-1))) s o ∧
      (req.Acceptable limits t → Q o)) :
    timerHandler limits times single alone req.forwardDelay req.maxAge req.hello s =
        some (.notOk, s) ∧ ¬req.Acceptable limits t ∨
      req.Acceptable limits t ∧ ∃ o, Q o ∧
        timerHandler limits times single alone req.forwardDelay req.maxAge req.hello s =
          o.map fun s' ↦ (if alone then .ok else .notOk, s') := by
  by_cases hacc : req.Acceptable limits t
  · refine .inr ⟨hacc, ?_⟩
    cases alone with
    | true =>
      obtain ⟨o, hset, ho⟩ := hsingle rfl
      refine ⟨o, ho hacc, ?_⟩
      change (single s).bind _ = _
      rw [hset, if_pos hacc]
      cases o with
      | none => rfl
      | some s' => rfl
    | false =>
      obtain ⟨o, hset, ho⟩ := htimes hacc.1
      refine ⟨o, ho hacc, ?_⟩
      change (if (!req.within limits) = true then _ else _ : StateT σ Option CparserResult) s = _
      rw [hacc.1]
      change (times _ _ _ s).bind _ = _
      rw [hset, if_pos hacc]
      cases o with
      | none => rfl
      | some s' => rfl
  · refine .inl ⟨?_, hacc⟩
    cases alone with
    | true =>
      obtain ⟨o, hset, -⟩ := hsingle rfl
      change (single s).bind _ = _
      rw [hset, if_neg hacc]
      rfl
    | false =>
      change (if (!req.within limits) = true then _ else _ : StateT σ Option CparserResult) s = _
      cases hwithin : req.within limits with
      | false => rfl
      | true =>
        obtain ⟨o, hset, -⟩ := htimes hwithin
        change (times _ _ _ s).bind _ = _
        rw [hset, if_neg hacc]
        rfl

theorem truthful_accepted {alone : Bool} {applied unchanged : Prop} (happlied : applied) :
    Truthful (if alone then .ok else .notOk) applied unchanged ↔ alone = true := by
  cases alone with
  | true => exact iff_of_true ⟨iff_of_true rfl happlied, nofun⟩ rfl
  | false => exact iff_of_false (fun h ↦ absurd (h.1.mpr happlied) nofun) nofun

theorem truthful_rejected {applied unchanged : Prop} (happlied : ¬applied)
    (hunchanged : unchanged) : Truthful .notOk applied unchanged :=
  ⟨iff_of_false nofun happlied, fun _ ↦ hunchanged⟩

variable {w : World κ τ Φ}

def StpInstance.configured (br : StpInstance κ) : ThreeTimes where
  forwardDelay := .ofBitVec br.bridgeForwardDelay
  maxAge := .ofBitVec br.bridgeMaxAge
  hello := .ofBitVec br.bridgeHelloTime

def StpInstance.timesInUse (br : StpInstance κ) : ThreeTimes where
  forwardDelay := .ofBitVec br.forwardDelay
  maxAge := .ofBitVec br.maxAge
  hello := .ofBitVec br.helloTime

/-- The given times are configured, the others are as before, and the root goes by
what is given. -/
structure StpInstance.Follows (br : StpInstance κ) (req : TimerRequest) (t : ThreeTimes) :
    Prop where
  configured : br.configured = req.asked t
  inUse : stpIsRootBridge br = true → req.asked br.timesInUse = br.timesInUse

theorem setsIf_of_tests {c : Prop} [Decidable c] {low high x : Int32}
    {rel : StpInstance κ → Int} {f : StpInstance κ → StpInstance κ}
    (hc : c ↔ inRange (low, high) x = true ∧ rel w.br = 0) :
    SetsIf c (do
      let br ← bridge
      if x < low ∨ high < x then pure (-1)
      else if rel br ≠ 0 then pure (-1)
      else do
        setBridge f
        pure 0 : StpM κ τ Φ Int) w (some { w with br := f w.br }) := by
  rw [inRange_iff, ← Int32.le_iff_toInt_le, ← Int32.le_iff_toInt_le] at hc
  rw [SetsIf]
  change (if x < low ∨ high < x then pure (-1) else if rel w.br ≠ 0 then pure (-1)
    else do setBridge f; pure 0 : StpM κ τ Φ Int) w = _
  by_cases hrange : x < low ∨ high < x
  · have hout : ¬c := by
      intro h
      rw [hc, ← Int32.not_lt, ← Int32.not_lt] at h
      exact hrange.elim h.1.1 h.1.2
    rw [if_pos hrange, if_neg hout]
    rfl
  · rw [if_neg hrange]
    rw [not_or, Int32.not_lt, Int32.not_lt] at hrange
    by_cases hrel : rel w.br = 0
    · rw [if_neg (not_not.mpr hrel), if_pos (hc.mpr ⟨hrange, hrel⟩)]
      rfl
    · rw [if_pos hrel, if_neg (fun h ↦ hrel (hc.mp h).2)]
      rfl

def CarriesOut (req : TimerRequest) (m : StpM κ τ Φ Int) (w : World κ τ Φ) : Prop :=
  ∃ o, SetsIf (req.Acceptable stpTimerLimits w.br.configured) m w o ∧
    (req.Acceptable stpTimerLimits w.br.configured →
      ∃ br : StpInstance κ, o = some { w with br := br } ∧ br.Follows req w.br.configured)

theorem stpSetBridgeHelloTime_carries (hello : Int32) :
    CarriesOut ⟨none, none, some hello⟩ (stpSetBridgeHelloTime hello) w := by
  refine ⟨_, setsIf_of_tests ?_, fun _ ↦ ⟨w.br.setTimes { w.br.times with
    bridgeHelloTime := hello.toBitVec
    helloTime := if stpIsRootBridge w.br then hello.toBitVec else w.br.helloTime }, rfl, rfl,
    fun hroot ↦ ?_⟩⟩
  · simp [TimerRequest.Acceptable, TimerRequest.within, TimerRequest.asked, StpInstance.configured,
      stpTimerLimits]
  · change stpIsRootBridge w.br = true at hroot
    simp only [if_pos hroot]
    rfl

theorem stpSetBridgeForwardDelay_carries (fwdDly : Int32) :
    CarriesOut ⟨some fwdDly, none, none⟩ (stpSetBridgeForwardDelay fwdDly) w := by
  refine ⟨_, setsIf_of_tests ?_, fun _ ↦ ⟨w.br.setTimes { w.br.times with
    bridgeForwardDelay := fwdDly.toBitVec
    forwardDelay := if stpIsRootBridge w.br then fwdDly.toBitVec else w.br.forwardDelay }, rfl, rfl,
    fun hroot ↦ ?_⟩⟩
  · simp [TimerRequest.Acceptable, TimerRequest.within, TimerRequest.asked, StpInstance.configured,
      stpTimerLimits]
  · change stpIsRootBridge w.br = true at hroot
    simp only [if_pos hroot]
    rfl

theorem stpSetBridgeMaxAge_carries (maxAge : Int32) :
    CarriesOut ⟨none, some maxAge, none⟩ (stpSetBridgeMaxAge maxAge) w := by
  refine ⟨_, setsIf_of_tests ?_, fun _ ↦ ⟨w.br.setTimes { w.br.times with
    bridgeMaxAge := maxAge.toBitVec
    maxAge := if stpIsRootBridge w.br then maxAge.toBitVec else w.br.maxAge }, rfl, rfl,
    fun hroot ↦ ?_⟩⟩
  · simp [TimerRequest.Acceptable, TimerRequest.within, TimerRequest.asked, StpInstance.configured,
      stpTimerLimits]
  · change stpIsRootBridge w.br = true at hroot
    simp only [if_pos hroot]
    rfl

theorem stpSetBridgeTimes_carries {req : TimerRequest}
    (hwithin : req.within stpTimerLimits = true) :
    CarriesOut req (stpSetBridgeTimes (req.forwardDelay.getD (-1)) (req.maxAge.getD (-1))
      (req.hello.getD (-1))) w := by
  have hw := hwithin
  rw [TimerRequest.within, Bool.and_eq_true, Bool.and_eq_true] at hw
  have hhello := chosen_eq (.ofBitVec w.br.bridgeHelloTime) (by decide) hw.1.1
  have hfdly := chosen_eq (.ofBitVec w.br.bridgeForwardDelay) (by decide) hw.1.2
  have hmaxage := chosen_eq (.ofBitVec w.br.bridgeMaxAge) (by decide) hw.2
  let t := req.asked w.br.configured
  let f : StpInstance κ → StpInstance κ := fun br ↦
    if stpIsRootBridge br then br.setTimes ⟨t.maxAge.toBitVec, t.hello.toBitVec,
      t.forwardDelay.toBitVec, t.maxAge.toBitVec, t.hello.toBitVec, t.forwardDelay.toBitVec⟩
    else br.setTimes { br.times with
      bridgeMaxAge := t.maxAge.toBitVec
      bridgeHelloTime := t.hello.toBitVec
      bridgeForwardDelay := t.forwardDelay.toBitVec }
  have hset : stpSetBridgeTimes (req.forwardDelay.getD (-1)) (req.maxAge.getD (-1))
      (req.hello.getD (-1)) w =
      (if bridgeTimerRelation t.forwardDelay t.maxAge t.hello ≠ 0 then pure (-1)
        else do setBridge f; pure 0 : StpM κ τ Φ Int) w := by
    change (if bridgeTimerRelation _ _ _ ≠ 0 then _ else _ : StpM κ τ Φ Int) w = _
    simp only [hhello, hfdly, hmaxage]
    rfl
  refine ⟨some { w with br := f w.br }, ?_, fun _ ↦ ⟨f w.br, rfl, ?_, ?_⟩⟩
  · rw [SetsIf, hset]
    by_cases hrel : bridgeTimerRelation t.forwardDelay t.maxAge t.hello = 0
    · rw [if_neg (not_not.mpr hrel), if_pos ⟨hwithin, hrel⟩]
      rfl
    · rw [if_pos hrel, if_neg fun hacc ↦ hrel hacc.2]
      rfl
  · by_cases hroot : stpIsRootBridge w.br = true
    · simp only [f, if_pos hroot]
      rfl
    · simp only [f, if_neg hroot]
      rfl
  · intro hroot
    have hroot' : stpIsRootBridge w.br = true := by
      simp only [f] at hroot
      split_ifs at hroot with h
      · exact h
      · exact hroot
    simp only [f, if_pos hroot']
    exact req.asked_asked w.br.configured

theorem timerHandler_truthful (req : TimerRequest) {single : StpM κ τ Φ Int} {alone : Bool}
    (hsingle : alone = true → CarriesOut req single w) :
    ∃ r w', timerHandler stpTimerLimits stpSetBridgeTimes single alone req.forwardDelay req.maxAge
        req.hello w = some (r, w') ∧
      (Truthful r (req.Acceptable stpTimerLimits w.br.configured ∧
          w'.br.Follows req w.br.configured) (w'.br.times = w.br.times) ↔
        alone = true ∨ ¬req.Acceptable stpTimerLimits w.br.configured) := by
  obtain ⟨heq, hacc⟩ | ⟨hacc, o, ⟨br, rfl, hfollows⟩, heq⟩ := timerHandler_eq hsingle
    stpSetBridgeTimes_carries
  · exact ⟨_, _, heq, iff_of_true (truthful_rejected (fun h ↦ hacc h.1) rfl) (.inr hacc)⟩
  · refine ⟨_, _, heq, ?_⟩
    rw [truthful_accepted ⟨hacc, hfollows⟩, or_iff_left (not_not.mpr hacc)]

theorem TimerCommand.stp_truthful (c : TimerCommand) (w : World κ τ Φ) :
    ∃ r w', c.stp w = some (r, w') ∧
      (Truthful r (c.request.Acceptable stpTimerLimits w.br.configured ∧
          w'.br.Follows c.request w.br.configured) (w'.br.times = w.br.times) ↔
        c.alone = true ∨ ¬c.request.Acceptable stpTimerLimits w.br.configured) := by
  cases c with
  | helloTime h fdly maxage =>
    refine timerHandler_truthful ⟨fdly, maxage, some h⟩ fun halone ↦ ?_
    rw [Bool.and_eq_true, Option.isNone_iff_eq_none, Option.isNone_iff_eq_none] at halone
    obtain ⟨rfl, rfl⟩ := halone
    exact stpSetBridgeHelloTime_carries h
  | forwardDelay fdly maxage h =>
    refine timerHandler_truthful ⟨some fdly, maxage, h⟩ fun halone ↦ ?_
    rw [Bool.and_eq_true, Option.isNone_iff_eq_none, Option.isNone_iff_eq_none] at halone
    obtain ⟨rfl, rfl⟩ := halone
    exact stpSetBridgeForwardDelay_carries fdly
  | maxAge maxage fdly h =>
    refine timerHandler_truthful ⟨fdly, some maxage, h⟩ fun halone ↦ ?_
    rw [Bool.and_eq_true, Option.isNone_iff_eq_none, Option.isNone_iff_eq_none] at halone
    obtain ⟨rfl, rfl⟩ := halone
    exact stpSetBridgeMaxAge_carries maxage

end Answers

end Layer3Switch.Stp
