import Layer3Switch.Stp.Delays
import Layer3Switch.Timers.Deadline

namespace Layer3Switch.Stp

open Lib Lib.Bytes
open Timers (U32 TimerMgr TimerId TimerT Placed due expiryTicks armTimer_placed tmGetTicksPerSecond)

variable {κ τ Φ : Type}

theorem World.modifyPort_modifyPort (w : World κ τ Φ) (p : ℕ)
    (f g : StpPortEntry κ → StpPortEntry κ) :
    (w.modifyPort p f).modifyPort p g = w.modifyPort p (g ∘ f) := by
  simp only [World.modifyPort, List.modify_modify_eq]

theorem World.getElem?_modifyPort {w : World κ τ Φ} {p : ℕ} {q : StpPortEntry κ}
    (hq : w.br.portList[p]? = some q) (f : StpPortEntry κ → StpPortEntry κ) :
    (w.modifyPort p f).br.portList[p]? = some (f q) := by
  simp only [World.modifyPort, List.getElem?_modify_eq, hq, Option.map_eq_map, Option.map_some]

theorem World.modifyPort_self {w : World κ τ Φ} {p : ℕ} {q : StpPortEntry κ}
    {f : StpPortEntry κ → StpPortEntry κ} (hq : w.br.portList[p]? = some q) (hf : f q = q) :
    w.modifyPort p f = w :=
  congrArg (fun br ↦ { w with br := br }) (Stp.modifyPort_self hq hf)

section Reception

variable [Add κ] [LT κ] [DecidableLT κ] [OfNat κ 0] (H : Host τ) (W : Wire κ Φ)

def afterRecording (p : ℕ) (bpdu : StpBpdu κ) (wasRoot : Bool) : StpM κ τ Φ Unit := do
  configurationUpdate H
  stpPortStateSelection H W
  let br ← bridge
  onlyIf (!stpIsRootBridge br && wasRoot) (ceaseToBeRoot H W)
  let q ← port p
  let br ← bridge
  onlyIf (q.portNo = br.rootPort) (receivedOnRootPort H W bpdu)

def receivedBranch (p : ℕ) (bpdu : StpBpdu κ) (wasRoot supersedes : Bool) : StpM κ τ Φ Unit :=
  if supersedes then do
    stpRecordConfigInformation H p bpdu
    afterRecording H W p bpdu wasRoot
  else do
    let q ← port p
    let br ← bridge
    onlyIf (stpIsDesignatedPort br q) (stpTransmitConfig H W p)

theorem stpReceivedConfigBpdu_eq {w : World κ τ Φ} {p : ℕ} {q : StpPortEntry κ}
    (hq : w.br.portList[p]? = some q) (bpdu : StpBpdu κ) :
    stpReceivedConfigBpdu H W p bpdu w =
      receivedBranch H W p bpdu (stpIsRootBridge w.br)
        (stpSupersedesPortInfo H.endian w.br { q with isOwnBpdu := false } bpdu).1
        (w.modifyPort p ({ · with isOwnBpdu := false })) := by
  let w₁ := w.modifyPort p ({ · with isOwnBpdu := false })
  have hq₁ : w₁.br.portList[p]? = some { q with isOwnBpdu := false } :=
    World.getElem?_modifyPort hq _
  have hsupersedes : supersedesPortInfo H p bpdu w₁ =
      some ((stpSupersedesPortInfo H.endian w.br { q with isOwnBpdu := false } bpdu).1, w₁) := by
    have hset : w₁.modifyPort p (fun _ ↦ { q with isOwnBpdu := false }) = w₁ :=
      World.modifyPort_self hq₁ rfl
    have hport : port p w₁ = some ({ q with isOwnBpdu := false }, w₁) := by
      rw [port, reads, hq₁, Option.map_some]
    change (port p w₁).bind _ = _
    rw [hport]
    change some ((stpSupersedesPortInfo H.endian w₁.br { q with isOwnBpdu := false } bpdu).1,
      w₁.modifyPort p fun _ ↦
        (stpSupersedesPortInfo H.endian w₁.br { q with isOwnBpdu := false } bpdu).2) = _
    rw [stpSupersedesPortInfo_snd H.endian w₁.br rfl bpdu, hset]
    rfl
  change (supersedesPortInfo H p bpdu w₁).bind _ = _
  rw [hsupersedes]
  cases (stpSupersedesPortInfo H.endian w.br { q with isOwnBpdu := false } bpdu).1 with
  | false => rfl
  | true =>
    change (recordSuperior H W p bpdu (stpIsRootBridge w.br) >>= _) w₁ = _
    simp only [recordSuperior, receivedBranch, afterRecording, bind_assoc, if_true]
    rfl

def lifetime (br : StpInstance κ) (bpdu : StpBpdu κ) : U32 :=
  br.maxAge - bpdu.messageAge.setWidth 32

omit [Add κ] [LT κ] [DecidableLT κ] [OfNat κ 0] in
theorem stpRecordConfigInformation_eq {w : World κ τ Φ} {p : ℕ} {q : StpPortEntry κ}
    (hq : w.br.portList[p]? = some q) (bpdu : StpBpdu κ) :
    stpRecordConfigInformation H p bpdu w =
      (H.modTimer q.messageAgeTimer (lifetime w.br bpdu) w.env).map fun env ↦
        ((), { w.modifyPort p (recordConfig bpdu) with env := env }) := by
  have hport : port p (w.modifyPort p (recordConfig bpdu)) =
      some (recordConfig bpdu q, w.modifyPort p (recordConfig bpdu)) := by
    rw [port, reads, World.getElem?_modifyPort hq]
    rfl
  change (port p (w.modifyPort p (recordConfig bpdu))).bind _ = _
  rw [hport]
  rfl

theorem stpReceivedConfigBpdu_of_supersedes {w : World κ τ Φ} {p : ℕ} {q : StpPortEntry κ}
    {bpdu : StpBpdu κ} (hq : w.br.portList[p]? = some q)
    (hsup : (stpSupersedesPortInfo H.endian w.br { q with isOwnBpdu := false } bpdu).1 = true) :
    stpReceivedConfigBpdu H W p bpdu w =
      (H.modTimer q.messageAgeTimer (lifetime w.br bpdu) w.env).bind fun env ↦
        afterRecording H W p bpdu (stpIsRootBridge w.br)
          { w.modifyPort p (fun q ↦ recordConfig bpdu { q with isOwnBpdu := false }) with
            env := env } := by
  have hrecord := stpRecordConfigInformation_eq H
    (World.getElem?_modifyPort hq ({ · with isOwnBpdu := false })) bpdu
  rw [World.modifyPort_modifyPort] at hrecord
  rw [stpReceivedConfigBpdu_eq H W hq, hsup]
  change (stpRecordConfigInformation H p bpdu _).bind _ = _
  rw [hrecord, Option.bind_map]
  rfl

end Reception

/-- The information of a port has a lifetime of at least one second and at most
`max_age`, which is their true difference, and the node `a` of its timer is due
within that time. -/
structure SaneLifetime (br : StpInstance κ) (bpdu : StpBpdu κ) (i : TimerId) (a : ℕ)
    (env : TimerMgr) : Prop where
  one_le : 1 ≤ (lifetime br bpdu).toNat
  le_maxAge : (lifetime br bpdu).toNat ≤ br.maxAge.toNat
  exact : (lifetime br bpdu).toNat + bpdu.messageAge.toNat = br.maxAge.toNat
  expires : ∃ wheel n, n ∈ env.root wheel ∧ n.id = a ∧ n.timer = i ∧ Placed env.clk wheel n ∧
    0 < due env.clk wheel n ∧ due env.clk wheel n ≤ 100 * br.maxAge.toNat

theorem lifetime_toNat {br : StpInstance κ} {bpdu : StpBpdu κ}
    (h : bpdu.messageAge.toNat < br.maxAge.toNat) :
    (lifetime br bpdu).toNat = br.maxAge.toNat - bpdu.messageAge.toNat := by
  have hage := bpdu.messageAge.isLt
  have hmax := br.maxAge.isLt
  have hwide : (bpdu.messageAge.setWidth 32).toNat = bpdu.messageAge.toNat := by
    rw [BitVec.toNat_setWidth, Nat.mod_eq_of_lt (by omega)]
  rw [lifetime, BitVec.toNat_sub, hwide]
  omega

section Runs

/-- The ages that a bridge uses and is configured with fit a BPDU. -/
structure AgesFit (br : StpInstance κ) : Prop where
  maxAge : br.maxAge.toNat < 2 ^ 16
  bridgeMaxAge : br.bridgeMaxAge.toNat < 2 ^ 16

theorem AgesFit.of_times {br br' : StpInstance κ} (h : AgesFit br) (heq : br'.times = br.times) :
    AgesFit br' := by
  constructor
  · change br'.times.maxAge.toNat < 2 ^ 16
    rw [heq]
    exact h.maxAge
  · change br'.times.bridgeMaxAge.toNat < 2 ^ 16
    rw [heq]
    exact h.bridgeMaxAge

def MaxAgeChecked : Action κ τ Φ → Prop
  | .setBridgeTimes _ maxage _ => maxage ≤ stpMaxMaxAge
  | _ => True

theorem toNat_lt_of_le_maxMaxAge {x : Int32} (hneg : ¬x < 0) (h : x ≤ stpMaxMaxAge) :
    x.toBitVec.toNat < 2 ^ 16 := by
  rw [Int32.lt_iff_toInt_lt] at hneg
  rw [Int32.le_iff_toInt_le] at h
  have hcond := BitVec.toInt_eq_toNat_cond x.toBitVec
  rw [Int32.toInt_toBitVec] at hcond
  have hzero : (0 : Int32).toInt = 0 := by decide
  have hforty : stpMaxMaxAge.toInt = 40 := by decide
  rw [hzero] at hneg
  rw [hforty] at h
  have hlt := x.toBitVec.isLt
  omega

variable {W : Wire κ Φ} {w : World κ τ Φ} {a : Action κ τ Φ} {t : BridgeTimes}

theorem AgesFit.admitted {w₀ : World κ τ Φ} (h₀ : AgesFit w₀.br) (h : AgesFit w.br)
    (hc : MaxAgeChecked a)
    (hadm : Admits W w₀ a w (.times t)) :
      t.maxAge.toNat < 2 ^ 16 ∧ t.bridgeMaxAge.toNat < 2 ^ 16 := by
  cases hadm with
  | adopt _ portNo frame bpdu _ =>
    refine ⟨?_, h.bridgeMaxAge⟩
    have hlt := bpdu.maxAge.isLt
    simp only [StpBpdu.times, BitVec.toNat_setWidth]
    omega
  | becomeRoot _ _ => exact ⟨h.bridgeMaxAge, h.bridgeMaxAge⟩
  | setBridgeHelloTime _ _ _ => exact ⟨h₀.maxAge, h₀.bridgeMaxAge⟩
  | setBridgeForwardDelay _ _ _ => exact ⟨h₀.maxAge, h₀.bridgeMaxAge⟩
  | setBridgeMaxAge maxAge hmin hmax =>
    have hneg : ¬maxAge < 0 := by
      rw [Int32.not_lt]
      exact Int32.le_trans (by decide) hmin
    have hlt := toNat_lt_of_le_maxMaxAge hneg hmax
    refine ⟨?_, hlt⟩
    dsimp only
    split
    · exact hlt
    · exact h₀.maxAge
  | setBridgeTimes fdly maxage htime _ _ hmaxage _ hroot hnot =>
    have hbridge : t.bridgeMaxAge.toNat < 2 ^ 16 := by
      rw [hmaxage]
      split
      · exact h₀.bridgeMaxAge
      · exact toNat_lt_of_le_maxMaxAge ‹_› hc
    refine ⟨?_, hbridge⟩
    cases his : stpIsRootBridge w.br with
    | true =>
      rw [(hroot his).2.1]
      exact hbridge
    | false =>
      rw [(hnot his).2.1]
      exact h₀.maxAge

variable [Add κ] [LT κ] [DecidableLT κ] [OfNat κ 0] [OfNat κ 20000] {H : Host τ}

/-- In every run the ages fit a BPDU. -/
theorem agesFit_of_run {vlanId : U16} {addr : MacAddress} {portCdb : Vector PortT maxPorts}
    {env : τ} {as : List (Action κ τ Φ)}
    (h : Run (step H W) (fun _ a ↦ MaxAgeChecked a)
      (newInstance H vlanId addr [] portCdb env) as w) :
    AgesFit w.br := by
  have hdefault : stpDefMaxAge.toNat < 2 ^ 16 := by decide
  have hw : RootFound w.br ∧ AgesFit w.br := by
    refine h.invariant (I := fun w ↦ RootFound w.br ∧ AgesFit w.br) ?_
      ⟨(newInstance_rooted vlanId addr portCdb env).toRootFound, hdefault, hdefault⟩
    intro w a w' hI hc hs
    refine ⟨hI.1.step hs, ?_⟩
    refine (step_leads hI.1 hs).invariant (I := AgesFit) ?_ ?_ hI.2
    · exact fun heq hfit ↦ hfit.of_times (congrArg StpInstance.times heq :)
    · intro w₁ m br' hadm _ hfit hm
      by_cases ht : ∃ t, m = .times t
      · obtain ⟨t, rfl⟩ := ht
        obtain rfl := Option.some.inj hm
        obtain ⟨hmax, hbridge⟩ := hI.2.admitted ⟨hfit.maxAge, hfit.bridgeMaxAge⟩ hc hadm
        exact ⟨hmax, hbridge⟩
      · exact hfit.of_times (Move.times_kept (not_exists.mp ht) hm)
  exact hw.2

instance (a : Action κ τ Φ) : Decidable (MaxAgeChecked a) :=
  match a with
  | .setBridgeTimes _ maxage _ => inferInstanceAs (Decidable (maxage ≤ stpMaxMaxAge))
  | .event _ | .createPort _ _ | .setPathCost _ _ | .setBridgePriority _ | .changeBridgeId _
  | .setBridgeHelloTime _ | .setBridgeForwardDelay _ | .setBridgeMaxAge _ => .isTrue trivial

/-- A bridge with a root is given other times, and the root then announces its own. -/
theorem agesFit_of_run_leaf :
    ∃ w, Run (step relayHost (frames .little)) (fun _ a ↦ MaxAgeChecked a) leafStart
        (leafActions ++ [.setBridgeTimes 30 40 2, .event (.receive 1 ((frames .little).config
          (macAddress 0 0 0 0 0 1) { rootHello with maxAge := 30 }))]) w ∧
      w.br.bridgeMaxAge = 40 ∧ w.br.maxAge = 30 ∧ AgesFit w.br := by
  have hcheck : ((exec (fun w a ↦ if MaxAgeChecked a then step relayHost (frames .little) w a
      else none) leafStart (leafActions ++ [.setBridgeTimes 30 40 2, .event (.receive 1
        ((frames .little).config (macAddress 0 0 0 0 0 1) { rootHello with maxAge := 30 }))])).any
      fun w ↦ w.br.bridgeMaxAge = 40 ∧ w.br.maxAge = 30) = true := by
    decide +kernel
  simp only [Option.any_eq_true, decide_eq_true_eq] at hcheck
  obtain ⟨w, hexec, hbridge, hmax⟩ := hcheck
  have hrun := (run_of_exec hexec).guarded
  exact ⟨w, hrun, hbridge, hmax, agesFit_of_run hrun⟩

end Runs

section Recording

variable [Add κ] [LT κ] [DecidableLT κ] [OfNat κ 0] {W : Wire κ Φ}
variable {w : World κ TimerMgr Φ} {p : ℕ} {q : StpPortEntry κ} {i : TimerId} {t : TimerT}
variable {bpdu : StpBpdu κ}

/-- A BPDU is recorded with a sane lifetime exactly if it is younger than the
`max_age` that the bridge goes by at that time. -/
theorem recorded_lifetime_iff (e : Endian) (stackByte : U8) (W : Wire κ Φ)
    (hq : w.br.portList[p]? = some q) (hi : q.messageAgeTimer = some i)
    (ht : w.env.timers i = some t) (hfit : AgesFit w.br)
    (hsup : (stpSupersedesPortInfo e w.br { q with isOwnBpdu := false } bpdu).1 = true) :
    ∃ env, (timerHost e stackByte).modTimer q.messageAgeTimer (lifetime w.br bpdu)
      w.env = some env ∧
      stpReceivedConfigBpdu (timerHost e stackByte) W p bpdu w =
        afterRecording (timerHost e stackByte) W p bpdu (stpIsRootBridge w.br)
          { w.modifyPort p (fun q ↦ recordConfig bpdu { q with isOwnBpdu := false }) with
            env := env } ∧
      (SaneLifetime w.br bpdu i w.env.nextNode env ↔
        bpdu.messageAge.toNat < w.br.maxAge.toNat) := by
  obtain ⟨env, harm⟩ := Timers.armTimer_isSome i
    { t with rmt := lifetime w.br bpdu * tmGetTicksPerSecond } w.env
  have hmod : (timerHost e stackByte).modTimer q.messageAgeTimer (lifetime w.br bpdu) w.env =
      some env := by
    simp only [timerHost, Timers.modTimer, hi, ht, harm]
    rfl
  refine ⟨env, hmod, ?_, ?_⟩
  · rw [stpReceivedConfigBpdu_of_supersedes (timerHost e stackByte) W hq hsup, hmod]
    rfl
  · constructor
    · intro h
      have hone := h.one_le
      have hexact := h.exact
      omega
    · intro hlt
      have hsecs := lifetime_toNat hlt
      have hmax := hfit.maxAge
      have hrmt : (lifetime w.br bpdu * tmGetTicksPerSecond).toNat =
          100 * (w.br.maxAge.toNat - bpdu.messageAge.toNat) := by
        rw [BitVec.toNat_mul, hsecs, tmGetTicksPerSecond]
        simp only [BitVec.ofNat_eq_ofNat, BitVec.toNat_ofNat]
        omega
      obtain ⟨wheel, n, hn, hid, htimer, hplaced, hdue⟩ := armTimer_placed harm (by
        dsimp only
        rw [hrmt]
        omega)
      refine ⟨by omega, by omega, by omega, wheel, n, hn, hid, htimer, hplaced,
        hplaced.due_pos, ?_⟩
      have hle := Timers.expiryTicks_le w.env.clk (lifetime w.br bpdu * tmGetTicksPerSecond).toNat
      rw [hdue]
      rw [hrmt] at hle ⊢
      omega

end Recording

def leafListening : Option (World Int32 TimerMgr (List U8)) :=
  exec (step relayHost (frames .little)) leafStart (leafActions.take 4)

theorem recorded_lifetime_of_hello :
    ∃ w q i env, leafListening = some w ∧ w.br.portList[0]? = some q ∧
      relayHost.modTimer q.messageAgeTimer (lifetime w.br rootHello) w.env = some env ∧
      rootHello.messageAge.toNat < w.br.maxAge.toNat ∧
      SaneLifetime w.br rootHello i w.env.nextNode env := by
  have hcheck : (leafListening.any fun w ↦ w.br.portList[0]?.any fun q ↦
      q.messageAgeTimer.any fun i ↦ (w.env.timers i).any fun _ ↦
        w.br.maxAge.toNat < 2 ^ 16 ∧ w.br.bridgeMaxAge.toNat < 2 ^ 16 ∧
        rootHello.messageAge.toNat < w.br.maxAge.toNat ∧
        (stpSupersedesPortInfo .little w.br { q with isOwnBpdu := false } rootHello).1 = true) =
      true := by
    decide +kernel
  simp only [Option.any_eq_true, decide_eq_true_eq] at hcheck
  obtain ⟨w, hw, q, hq, i, hi, t, ht, hmax, hbridge, hage, hsup⟩ := hcheck
  obtain ⟨env, hmod, -, hiff⟩ :=
    recorded_lifetime_iff .little 0 (frames .little) hq hi ht ⟨hmax, hbridge⟩ hsup
  exact ⟨w, q, i, env, hw, hq, hmod, hage, hiff.mpr hage⟩

/-- A hello as old as `max_age` is recorded with a timer that never expires. One that
is older by a second would be kept for 4294967295 seconds. -/
theorem stale_information_never_expires :
    ∃ w w' q i, leafListening = some w ∧
      step relayHost (frames .little) w (.event (.receive 1
        ((frames .little).config (macAddress 0 0 0 0 0 1) { rootHello with messageAge := 20 }))) =
        some w' ∧
      w'.br.rootPort = 1 ∧ w'.br.portList[0]? = some q ∧ q.portNo = 1 ∧
      q.designatedRoot = rootHello.rootId ∧ q.messageAgeTimer = some i ∧
      w'.env.nodes.countP (fun n ↦ n.timer = i) = 0 ∧
      lifetime w.br { rootHello with messageAge := 20 } = 0 ∧
      lifetime w.br { rootHello with messageAge := 21 } = 4294967295 := by
  have hcheck : (leafListening.any fun w ↦
      (step relayHost (frames .little) w (.event (.receive 1
        ((frames .little).config (macAddress 0 0 0 0 0 1)
          { rootHello with messageAge := 20 })))).any
        fun w' ↦ w'.br.portList[0]?.any fun q ↦ q.messageAgeTimer.any fun i ↦
          w'.br.rootPort = 1 ∧ q.portNo = 1 ∧ q.designatedRoot = rootHello.rootId ∧
          w'.env.nodes.countP (fun n ↦ n.timer = i) = 0 ∧
          lifetime w.br { rootHello with messageAge := 20 } = 0 ∧
          lifetime w.br { rootHello with messageAge := 21 } = 4294967295) = true := by
    decide +kernel
  simp only [Option.any_eq_true, decide_eq_true_eq] at hcheck
  obtain ⟨w, hw, w', hw', q, hq, i, hi, hroot, hno, hdes, hnodes, hzero, hwrap⟩ := hcheck
  exact ⟨w, w', q, i, hw, hw', hroot, hq, hno, hdes, hi, hnodes, hzero, hwrap⟩

end Layer3Switch.Stp
