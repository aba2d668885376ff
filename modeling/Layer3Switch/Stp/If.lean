import Layer3Switch.Stp.Main

namespace Layer3Switch.Stp

open Lib Lib.Bytes
open Timers (U32)

variable {κ τ Φ : Type} [Add κ] [LT κ] [DecidableLT κ] [OfNat κ 0]

def stpMakePortId (priority : U8) (portNo : U16) : U16 :=
  priority.setWidth 16 <<< stpPortBits ||| portNo &&& (1#16 <<< stpPortBits - 1)

def initPort (br : StpInstance κ) (p : StpPortEntry κ) : StpPortEntry κ :=
  let p := { p with portId := stpMakePortId (p.priority.setWidth 8) (p.portNo.setWidth 16) }
  { stpBecomeDesignatedPort br p with
    state := .blocking
    topologyChangeAck := false
    configPending := false
    isOwnBpdu := false
    enabled := true }

def stpInitPort (p : ℕ) : StpM κ τ Φ Unit := do
  let br ← bridge
  setPort p (initPort br)
  let q ← port p
  setIfStpInfo q.portNo q.self

variable (H : Host τ) (W : Wire κ Φ)

def stpEnablePort (p : ℕ) : StpM κ τ Φ Unit := do
  let q ← port p
  let t ← portCdb q.portNo
  onlyIf (t.ifOperStatus ≠ .down) do
    stpInitPort p
    stpPortStateSelection H W

def becomeRootIfElected (wasRoot : Bool) : StpM κ τ Φ Unit := do
  configurationUpdate H
  stpPortStateSelection H W
  let br ← bridge
  onlyIf (stpIsRootBridge br && !wasRoot) (stpBecomeRootBridge H W)

def stpDisablePort (p : ℕ) : StpM κ τ Φ Unit := do
  let br ← bridge
  setPort p (stpBecomeDesignatedPort br)
  setPort p ({ · with
    state := .disabled, topologyChangeAck := false, configPending := false, isOwnBpdu := false })
  let q ← port p
  delTimer H q.messageAgeTimer
  delTimer H q.forwardDelayTimer
  delTimer H q.holdTimer
  becomeRootIfElected H W (stpIsRootBridge br)

def stpEnable : StpM κ τ Φ Unit := do
  setBridge ({ · with stpEnabled := true })
  let br ← bridge
  modTimer H br.helloTimer br.helloTime
  stpConfigBpduGeneration H W
  forPorts (stpEnablePort H W)

def stpDisableHead : StpM κ τ Φ Unit := do
  let q ← port 0
  onlyIf (q.state ≠ .disabled) (stpDisablePort H W 0)
  setBridge fun br ↦ { br with portList := br.portList.tail }

def stpDisable : StpM κ τ Φ Unit := do
  forPorts fun _ ↦ stpDisableHead H W
  setBridge ({ · with topologyChange := false, topologyChangeDetected := false })
  let br ← bridge
  delTimer H br.helloTimer
  delTimer H br.topologyChangeTimer
  delTimer H br.tcnTimer

def stpSetState (state : Bool) : StpM κ τ Φ Unit := do
  (if state then stpEnable H W else stpDisable H W)
  setBridge ({ · with stpEnabled := state })

def stpEnableOrDisablePort (portNo : U16) (state : IfStatus) : StpM κ τ Φ Unit := do
  let br ← bridge
  let p ← deref (stpGetPortEntry br portNo)
  match state with
  | .up => stpEnablePort H W p
  | .down => stpDisablePort H W p

def renamePort (newprio : U8) (br : StpInstance κ) (p : StpPortEntry κ) : StpPortEntry κ :=
  let newPortId := stpMakePortId newprio (p.portNo.setWidth 16)
  { p with
    designatedPort := if stpIsDesignatedPort br p then newPortId else p.designatedPort
    portId := newPortId
    priority := newprio.setWidth 32 }

def stpSetPortPriority (p : ℕ) (newprio : U8) : StpM κ τ Φ Unit := do
  let br ← bridge
  setPort p (renamePort newprio br)
  let q ← port p
  onlyIf (br.bridgeId = q.designatedBridge ∧ q.portId < q.designatedPort) do
    becomeDesignatedPort p
    stpPortStateSelection H W

def stpSetPathCost (p : ℕ) (pathCost : κ) : StpM κ τ Φ Unit := do
  setPort p ({ · with pathCost := pathCost })
  configurationUpdate H
  stpPortStateSelection H W

def stpSetBridgePriority (newprio : U16) : StpM κ τ Φ Unit := do
  let br ← bridge
  setBridge fun br ↦ { br with
    portList := br.portList.map fun p ↦
      if p.state ≠ .disabled ∧ stpIsDesignatedPort br p then
        { p with designatedBridge := { p.designatedBridge with prio := newprio } }
      else p
    bridgeId := { br.bridgeId with prio := newprio } }
  becomeRootIfElected H W (stpIsRootBridge br)

def replaceAddr (old new : MacAddress) (b : BridgeId) : BridgeId :=
  if b.addr = old then { b with addr := new } else b

def stpChangeBridgeId (addr : MacAddress) : StpM κ τ Φ Unit := do
  let br ← bridge
  setBridge fun br ↦ { br with
    portList := br.portList.map fun p ↦ { p with
      designatedBridge := replaceAddr br.bridgeId.addr addr p.designatedBridge
      designatedRoot := replaceAddr br.bridgeId.addr addr p.designatedRoot }
    bridgeId := { br.bridgeId with addr := addr } }
  becomeRootIfElected H W (stpIsRootBridge br)

def stpHelloTimerExpired : StpM κ τ Φ Unit := do
  stpConfigBpduGeneration H W
  let br ← bridge
  modTimer H br.helloTimer br.helloTime

def stpMessageAgeTimerExpired (p : ℕ) : StpM κ τ Φ Unit := do
  let q ← port p
  let br ← bridge
  onlyIf (q.state ≠ .disabled) do
    setPort p ({ · with isOwnBpdu := false })
    becomeDesignatedPort p
    becomeRootIfElected H W (stpIsRootBridge br)

def stpIsDesignatedForSomePort (br : StpInstance κ) : Bool :=
  br.portList.any fun p ↦ p.state ≠ .disabled && p.designatedBridge == br.bridgeId

def stpForwardDelayTimerExpired (p : ℕ) : StpM κ τ Φ Unit := do
  let q ← port p
  let br ← bridge
  if q.state = .listening then do
    setPort p ({ · with state := .learning })
    modTimer H q.forwardDelayTimer br.forwardDelay
  else
    onlyIf (q.state = .learning) do
      setPort p ({ · with state := .forwarding })
      let br ← bridge
      onlyIf (stpIsDesignatedForSomePort br) (stpTopologyChangeDetection H W)

def stpTcnTimerExpired : StpM κ τ Φ Unit := do
  stpTransmitTcn H W
  let br ← bridge
  modTimer H br.tcnTimer br.bridgeHelloTime

def stpTopologyChangeTimerExpired : StpM κ τ Φ Unit :=
  setBridge ({ · with topologyChangeDetected := false, topologyChange := false })

def stpHoldTimerExpired (p : ℕ) : StpM κ τ Φ Unit := do
  let q ← port p
  onlyIf q.configPending (stpTransmitConfig H W p)

end Layer3Switch.Stp
