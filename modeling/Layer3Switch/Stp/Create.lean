import Layer3Switch.Stp.World

namespace Layer3Switch.Stp

open Lib Lib.Bytes
open Timers (U32)

variable {κ τ Φ : Type} [OfNat κ 0] [OfNat κ 20000] (H : Host τ)

def stpInitStpInstance (vlanId : U16) (addr : MacAddress) (env : τ) : StpInstance κ × τ :=
  let hello := H.setupTimer .hello env
  let tcn := H.setupTimer .tcn hello.1
  let topologyChange := H.setupTimer .topologyChange tcn.1
  ({ portList := []
     stpEnabled := false
     designatedRoot := ⟨stpDefPriority, addr⟩
     bridgeId := ⟨stpDefPriority, addr⟩
     maxAge := stpDefMaxAge
     helloTime := stpDefHelloTime
     forwardDelay := stpDefFwdDelay
     bridgeMaxAge := stpDefMaxAge
     bridgeHelloTime := stpDefHelloTime
     bridgeForwardDelay := stpDefFwdDelay
     helloTimer := hello.2
     tcnTimer := tcn.2
     topologyChangeTimer := topologyChange.2
     rootPathCost := 0
     rootPort := 0
     vlanId := vlanId
     topologyChange := false
     topologyChangeDetected := true }, topologyChange.1)

/-- The new entry, zero where `stp_create_port` sets nothing, and the timers of
`stp_port_timer_init`. -/
def newPort (addr : MacAddress) (portNo : U32) (env : τ) : StpPortEntry κ × τ :=
  let messageAge := H.setupTimer (.messageAge portNo) env
  let forwardDelay := H.setupTimer (.forwardDelay portNo) messageAge.1
  let hold := H.setupTimer (.hold portNo) forwardDelay.1
  ({ priority := stpDefPortPrio
     state := .disabled
     designatedCost := 20000
     pathCost := 20000
     designatedRoot := ⟨0, addr⟩
     designatedBridge := ⟨0, addr⟩
     forwardDelayTimer := forwardDelay.2
     holdTimer := hold.2
     messageAgeTimer := messageAge.2
     designatedPort := 0
     portId := 0
     portNo := portNo
     topologyChangeAck := false
     configPending := false
     isOwnBpdu := false
     enabled := false
     self := H.blockAddr env }, hold.1)

def stpCreatePort (addr : MacAddress) (portNo : U32) (w : World κ τ Φ) : World κ τ Φ × Int :=
  if !H.tmMalloc w.env then (w, -1)
  else
    let new := newPort H addr portNo w.env
    ({ w with br := { w.br with portList := w.br.portList ++ [new.1] }, env := new.2 }, 0)

def newInstance (vlanId : U16) (addr : MacAddress) (egressPorts : List U32)
    (portCdb : Vector PortT maxPorts) (env : τ) : World κ τ Φ :=
  let new := stpInitStpInstance H vlanId addr env
  egressPorts.foldl (fun w portNo ↦ (stpCreatePort H addr portNo w).1) ⟨new.1, new.2, portCdb, []⟩

/-- The bridge takes itself for the root, and no port has been enabled. -/
structure StpInstance.Fresh (br : StpInstance κ) : Prop where
  designatedRoot : br.designatedRoot = br.bridgeId
  rootPathCost : br.rootPathCost = 0
  ports : ∀ p ∈ br.portList, p.state = .disabled ∧ p.enabled = false

omit [OfNat κ 20000] in
theorem stpInitStpInstance_fresh (vlanId : U16) (addr : MacAddress) (env : τ) :
    (stpInitStpInstance (κ := κ) H vlanId addr env).1.Fresh := by
  refine ⟨rfl, rfl, ?_⟩
  intro p hp
  cases hp

theorem stpCreatePort_fresh (addr : MacAddress) (portNo : U32) {w : World κ τ Φ}
    (h : w.br.Fresh) : (stpCreatePort H addr portNo w).1.br.Fresh := by
  unfold stpCreatePort
  split
  · exact h
  · refine ⟨h.designatedRoot, h.rootPathCost, ?_⟩
    intro p hp
    obtain hp | hp := List.mem_append.mp hp
    · exact h.ports p hp
    · rw [List.mem_singleton.mp hp]
      exact ⟨rfl, rfl⟩

theorem newInstance_fresh (vlanId : U16) (addr : MacAddress) (egressPorts : List U32)
    (portCdb : Vector PortT maxPorts) (env : τ) :
    (newInstance (κ := κ) (Φ := Φ) H vlanId addr egressPorts portCdb env).br.Fresh := by
  have hfold : ∀ (ns : List U32) (w : World κ τ Φ), w.br.Fresh →
      (ns.foldl (fun w portNo ↦ (stpCreatePort H addr portNo w).1) w).br.Fresh := by
    intro ns
    induction ns with
    | nil => exact fun _ h ↦ h
    | cons n ns ih => exact fun w h ↦ ih _ (stpCreatePort_fresh H addr n h)
  exact hfold egressPorts _ (stpInitStpInstance_fresh H vlanId addr env)

end Layer3Switch.Stp
