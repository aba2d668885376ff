import Layer3Switch.Stp.World

namespace Layer3Switch.Stp

open Lib Lib.Bytes
open Timers (U32 tmGetTicksPerSecond)

variable {κ τ Φ : Type} [Add κ] [LT κ] [DecidableLT κ] [OfNat κ 0]
variable (H : Host τ) (W : Wire κ Φ)

/-- The tail of `stp_send_bpdu`, for a frame that waits for its source address. -/
def stpSendBpdu (portNo : U32) (frame : MacAddress → Φ) : StpM κ τ Φ Unit := do
  let mem ← askEnv fun env ↦ some (H.tmMalloc env)
  onlyIf mem do
    let t ← portCdb portNo
    sendPacket (frame t.ifPhysAddress) portNo

def stpSendConfigBpdu (p : StpPortEntry κ) (bpdu : StpBpdu κ) : StpM κ τ Φ Unit := do
  let br ← bridge
  onlyIf br.stpEnabled do
    stpSendBpdu H p.portNo fun smac ↦ W.config smac bpdu

def stpSendTcnBpdu (p : Option (StpPortEntry κ)) : StpM κ τ Φ Unit :=
  match p with
  | none => pure ()
  | some p => do
    let br ← bridge
    onlyIf br.stpEnabled do
      stpSendBpdu H p.portNo W.tcn

def stpTransmitTcn : StpM κ τ Φ Unit := do
  let br ← bridge
  stpSendTcnBpdu H W (stpGetPort br (br.rootPort.setWidth 16))

def flagByte (b : Bool) : U8 := (BitVec.ofBool b).setWidth 8

def configBpdu (stack : U8) (br : StpInstance κ) (p : StpPortEntry κ) (messageAge : U16) :
    StpBpdu κ where
  flags := stack ||| flagByte br.topologyChange ||| flagByte p.topologyChangeAck
  rootId := br.designatedRoot
  rootPathCost := br.rootPathCost
  bridgeId := br.bridgeId
  portId := p.portId
  messageAge := messageAge
  maxAge := br.maxAge.setWidth 16
  helloTime := br.helloTime.setWidth 16
  forwardDelay := br.forwardDelay.setWidth 16

def messageAge (br : StpInstance κ) : StpM κ τ Φ U16 :=
  if stpIsRootBridge br then pure 0
  else do
    let root ← deref (stpGetPort br (br.rootPort.setWidth 16))
    let rmt ← timerGetRemainingTime H root.messageAgeTimer
    pure ((br.maxAge - rmt / tmGetTicksPerSecond + messageAgeIncr).setWidth 16)

def stpTransmitConfig (p : ℕ) : StpM κ τ Φ Unit := do
  let q ← port p
  let pending ← timerPending H q.holdTimer
  if pending then
    setPort p ({ · with configPending := true })
  else do
    let br ← bridge
    let age ← messageAge H br
    let stack ← askEnv fun env ↦ some (H.stackByte env)
    onlyIf (age.setWidth 32 < br.maxAge) do
      stpSendConfigBpdu H W q (configBpdu stack br q age)
      setPort p ({ · with topologyChangeAck := false, configPending := false })
      modTimer H q.holdTimer 1

def recordConfig (bpdu : StpBpdu κ) (p : StpPortEntry κ) : StpPortEntry κ :=
  { p with
    designatedRoot := bpdu.rootId
    designatedCost := bpdu.rootPathCost
    designatedBridge := bpdu.bridgeId
    designatedPort := bpdu.portId }

def stpRecordConfigInformation (p : ℕ) (bpdu : StpBpdu κ) : StpM κ τ Φ Unit := do
  setPort p (recordConfig bpdu)
  let q ← port p
  let br ← bridge
  modTimer H q.messageAgeTimer (br.maxAge - bpdu.messageAge.setWidth 32)

def stpRecordConfigTimeoutValues (bpdu : StpBpdu κ) : StpM κ τ Φ Unit :=
  setBridge fun br ↦ { br with
    maxAge := bpdu.maxAge.setWidth 32
    helloTime := bpdu.helloTime.setWidth 32
    forwardDelay := bpdu.forwardDelay.setWidth 32
    topologyChange := bpdu.flags &&& tcBit == tcBit }

def stpTopologyChangeAcknowledged : StpM κ τ Φ Unit := do
  setBridge ({ · with topologyChangeDetected := false })
  let br ← bridge
  delTimer H br.tcnTimer

def stpTopologyChangeDetection : StpM κ τ Φ Unit := do
  let br ← bridge
  onlyIf br.stpEnabled do
    if stpIsRootBridge br then do
      setBridge ({ · with topologyChange := true })
      modTimer H br.topologyChangeTimer (br.bridgeForwardDelay + br.bridgeMaxAge)
      setBridge ({ · with topologyChangeDetected := true })
    else do
      onlyIf (!br.topologyChangeDetected) do
        stpTransmitTcn H W
        modTimer H br.tcnTimer br.bridgeHelloTime
      setBridge ({ · with topologyChangeDetected := true })

def stpConfigBpduGeneration : StpM κ τ Φ Unit :=
  forPorts fun p ↦ do
    let q ← port p
    let br ← bridge
    onlyIf (q.state ≠ .disabled ∧ stpIsDesignatedPort br q) do
      stpTransmitConfig H W p

def stpBecomeRootBridge : StpM κ τ Φ Unit := do
  setBridge fun br ↦ { br with
    maxAge := br.bridgeMaxAge
    helloTime := br.bridgeHelloTime
    forwardDelay := br.bridgeForwardDelay }
  stpTopologyChangeDetection H W
  let br ← bridge
  delTimer H br.tcnTimer
  stpConfigBpduGeneration H W
  modTimer H br.helloTimer br.helloTime

def configurationUpdate : StpM κ τ Φ Unit :=
  fun w ↦ (stpConfigurationUpdate H.endian w.br).map fun br ↦ ((), { w with br := br })

def becomeDesignatedPort (p : ℕ) : StpM κ τ Φ Unit := do
  let br ← bridge
  setPort p (stpBecomeDesignatedPort br)

def stpMakeBlocking (p : ℕ) : StpM κ τ Φ Unit := do
  let q ← port p
  onlyIf (q.state ≠ .disabled ∧ q.state ≠ .blocking) do
    onlyIf (q.state = .forwarding ∨ q.state = .learning) (stpTopologyChangeDetection H W)
    setPort p ({ · with state := .blocking })
    delTimer H q.forwardDelayTimer

def stpMakeForwarding (p : ℕ) : StpM κ τ Φ Unit := do
  let q ← port p
  let br ← bridge
  onlyIf (q.state = .blocking) do
    if br.forwardDelay = 0 then do
      setPort p ({ · with state := .forwarding })
      stpTopologyChangeDetection H W
      delTimer H q.forwardDelayTimer
    else do
      setPort p ({ · with state := if br.stpEnabled then .listening else .learning })
      modTimer H q.forwardDelayTimer br.forwardDelay

def selectPortState (p : ℕ) : StpM κ τ Φ Unit := do
  let q ← port p
  let br ← bridge
  onlyIf (q.state ≠ .disabled) do
    if q.portNo = br.rootPort then do
      setPort p ({ · with configPending := false, topologyChangeAck := false })
      stpMakeForwarding H W p
    else if !q.isOwnBpdu && stpIsDesignatedPort br q then do
      delTimer H q.messageAgeTimer
      stpMakeForwarding H W p
    else do
      setPort p ({ · with configPending := false, topologyChangeAck := false })
      stpMakeBlocking H W p

def stpPortStateSelection : StpM κ τ Φ Unit := forPorts (selectPortState H W)

def stpTopologyChangeAcknowledge (p : ℕ) : StpM κ τ Φ Unit := do
  setPort p ({ · with topologyChangeAck := true })
  stpTransmitConfig H W p

def ceaseToBeRoot : StpM κ τ Φ Unit := do
  let br ← bridge
  delTimer H br.helloTimer
  onlyIf br.topologyChangeDetected do
    delTimer H br.topologyChangeTimer
    stpTransmitTcn H W
    modTimer H br.tcnTimer br.bridgeHelloTime

def recordSuperior (p : ℕ) (bpdu : StpBpdu κ) (wasRoot : Bool) : StpM κ τ Φ Unit := do
  stpRecordConfigInformation H p bpdu
  configurationUpdate H
  stpPortStateSelection H W
  let br ← bridge
  onlyIf (!stpIsRootBridge br && wasRoot) (ceaseToBeRoot H W)

def receivedOnRootPort (bpdu : StpBpdu κ) : StpM κ τ Φ Unit := do
  stpRecordConfigTimeoutValues bpdu
  stpConfigBpduGeneration H W
  onlyIf (bpdu.flags &&& tcAckBit ≠ 0) (stpTopologyChangeAcknowledged H)

def supersedesPortInfo (p : ℕ) (bpdu : StpBpdu κ) : StpM κ τ Φ Bool := do
  let q ← port p
  let br ← bridge
  let supersedes := stpSupersedesPortInfo H.endian br q bpdu
  setPort p fun _ ↦ supersedes.2
  pure supersedes.1

def stpReceivedConfigBpdu (p : ℕ) (bpdu : StpBpdu κ) : StpM κ τ Φ Unit := do
  let br ← bridge
  setPort p ({ · with isOwnBpdu := false })
  let supersedes ← supersedesPortInfo H p bpdu
  if supersedes then do
    recordSuperior H W p bpdu (stpIsRootBridge br)
    let q ← port p
    let br ← bridge
    onlyIf (q.portNo = br.rootPort) (receivedOnRootPort H W bpdu)
  else do
    let q ← port p
    let br ← bridge
    onlyIf (stpIsDesignatedPort br q) (stpTransmitConfig H W p)

def stpReceivedTcnBpdu (p : ℕ) : StpM κ τ Φ Unit := do
  let q ← port p
  let br ← bridge
  onlyIf (stpIsDesignatedPort br q) do
    stpTopologyChangeDetection H W
    stpTopologyChangeAcknowledge H W p

def stpGetPortEntry (br : StpInstance κ) (port : U16) : Option ℕ :=
  br.portList.findIdx? fun p ↦ p.portNo == port.setWidth 32

def validateTcBpdu (_ : Φ) : Bool := true

def validateConfigBpdu (_ : Φ) : Bool := true

def bpduConfigType : U8 := 0x00
def bpduTcType : U8 := 0x80

def stpProcessBpdu (portNo : U16) (frame : Φ) : StpM κ τ Φ Int := do
  let br ← bridge
  match stpGetPortEntry br portNo with
  | none => pure (-1)
  | some p => do
    let q ← port p
    if !q.enabled || q.state = .disabled then pure (-1)
    else do
      let type ← deref (W.type frame)
      if type = bpduConfigType then
        if !validateConfigBpdu frame then pure (-1)
        else do
          let bpdu ← deref (W.decode frame)
          stpReceivedConfigBpdu H W p bpdu
          pure 0
      else if type = bpduTcType then
        if !validateTcBpdu frame then pure (-1)
        else do
          stpReceivedTcnBpdu H W p
          pure 0
      else pure 0

end Layer3Switch.Stp
