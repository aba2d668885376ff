import Layer3Switch.Stp.Events
import Layer3Switch.Vlan.Effects

namespace Layer3Switch.Vlan

open Lib Lib.Bytes
open Timers (U32)
open Stp (IfStatus StpInstance StpM PortT maxPorts)
open Rstp (BstpState)

/-- What the task of `stpmgr_main.c` takes from its queue. -/
inductive Message (Φ : Type)
  | bpdu (frame : Φ)
  | link (status : IfStatus)

/-- The time-outs of STP. Ports are given as pointers to their entries. -/
inductive Expiry
  | hello
  | tcn
  | topologyChange
  | messageAge (p : ℕ)
  | forwardDelay (p : ℕ)
  | hold (p : ℕ)
  deriving DecidableEq, Repr

/-- What can happen to a switch. The queue may delay a message, so that the
manager can turn to any message at any time. -/
inductive Input (τ Φ : Type)
  | command (c : Command)
  | message (vlanId port : U16) (m : Message Φ)
  | interface (i : Fin maxPorts) (status : IfStatus)
  | expiry (vlanId : U16) (timer : Expiry)
  | bstpTick (vlanId : U16)
  | host (env : τ)

variable {κ τ Φ : Type}

def Message.event (port : U16) : Message Φ → Stp.Event τ Φ
  | .bpdu frame => .receive port frame
  | .link status => .link port status

def Expiry.event : Expiry → Stp.Event τ Φ
  | .hello => .helloTimer
  | .tcn => .tcnTimer
  | .topologyChange => .topologyChangeTimer
  | .messageAge p => .messageAgeTimer p
  | .forwardDelay p => .forwardDelayTimer p
  | .hold p => .holdTimer p

section Search

variable (s : Switch κ τ Φ)

def Switch.stpGetPortEntry (port : U16) : Option (U16 × ℕ) :=
  owner StpInstance.vlanId (Stp.stpGetPortEntry · port) s.stpInstanceHead

def Switch.rstpGetPortInfo (port : U16) : Option (U16 × ℕ) :=
  owner BstpState.vlanId (Rstp.rstpGetPortInfo · port) s.bstpList

def Switch.vlanGetThisBridgeStpMode (vlanId : U16) : Option StpMode :=
  (s.vlan vlanId).bind VlanStaticEntry.stpMode

end Search

variable [Add κ] [LT κ] [DecidableLT κ] [OfNat κ 0] [OfNat κ 20000] (P : Platform κ τ Φ)

def stpProcessBpdu (port : U16) (frame : Φ) : SwitchM κ τ Φ Int := do
  let s ← get
  match s.stpGetPortEntry port with
  | none => pure (-1)
  | some (v, _) => onStp (some v) (Stp.stpProcessBpdu P.host P.wire port frame)

def stpEnableOrDisablePort (port : U16) (state : IfStatus) : SwitchM κ τ Φ Unit := do
  let s ← get
  match s.stpGetPortEntry port with
  | none => throw .nullPort
  | some (v, _) => onStp (some v) (Stp.stpEnableOrDisablePort P.host P.wire port state)

def rstpProcessBpdu (port : U16) (frame : Φ) : SwitchM κ τ Φ Int := do
  let s ← get
  match s.rstpGetPortInfo port with
  | none => pure (-1)
  | some (v, p) => do
    onRstp (some v) (Rstp.rstpProcessBpdu P.machines p frame)
    pure 0

def rstpEnableOrDisablePort (port : U16) (state : IfStatus) : SwitchM κ τ Φ Unit := do
  let s ← get
  match s.rstpGetPortInfo port with
  | none => throw .nullPort
  | some (v, p) => onRstp (some v) (Rstp.rstpEnableOrDisablePort P.host P.machines p state)

def stpProcessEvents (port : U16) (event : IfStatus) (vlanid : U16) : SwitchM κ τ Φ Unit := do
  let s ← get
  match s.vlanGetThisBridgeStpMode vlanid with
  | some .stp => stpEnableOrDisablePort P port event
  | some .rstp => rstpEnableOrDisablePort P port event
  | none => pure ()

def processBpdu (frame : Φ) (port vlanid : U16) : SwitchM κ τ Φ Int := do
  let s ← get
  match s.vlanGetThisBridgeStpMode vlanid with
  | some .stp => do
    let _ ← stpProcessBpdu P port frame
    pure 0
  | some .rstp => do
    let _ ← rstpProcessBpdu P port frame
    pure 0
  | none => pure 0

def processMessage (vlanid port : U16) : Message Φ → SwitchM κ τ Φ Unit
  | .bpdu frame => do
    let _ ← processBpdu P frame port vlanid
    pure ()
  | .link status => stpProcessEvents P port status vlanid

def Switch.setOperStatus (s : Switch κ τ Φ) (i : Fin maxPorts) (status : IfStatus) :
    Switch κ τ Φ :=
  { s with portCdb := s.portCdb.set i { s.portCdb.get i with ifOperStatus := status } i.isLt }

def react : Input τ Φ → SwitchM κ τ Φ Unit
  | .command c => do
    let _ ← command P c
    pure ()
  | .message v port m => processMessage P v port m
  | .interface i status => modify (Switch.setOperStatus · i status)
  | .expiry v timer => onStp (some v) (Stp.handle P.host P.wire timer.event)
  | .bstpTick v => onRstp (some v) (Rstp.bstpTick P.host P.machines)
  | .host env => modify ({ · with env := env })

def feed (s : Switch κ τ Φ) (i : Input τ Φ) : Option (Switch κ τ Φ) :=
  (react P i s).toOption.map Prod.snd

end Layer3Switch.Vlan
