import Layer3Switch.Lib.Outcome
import Layer3Switch.Rstp.Instance
import Layer3Switch.Stp.Actions
import Layer3Switch.Vlan.Entry

namespace Layer3Switch.Vlan

open Lib Lib.Bytes
open Timers (U32)
open Stp (Host Wire StpInstance StpM World PortT IfStatus MacAddress maxPorts)
open Rstp (BstpState Machines)

/-- What the switch stands on: the host, the frames, the state machines of RSTP,
and the address of `this_bridge`. -/
structure Platform (κ τ Φ : Type) where
  host : Host τ
  wire : Wire κ Φ
  machines : Machines τ Φ
  thisBridge : MacAddress

/-- The global variables `vlan_db`, `stp_instance_head`, `bstp_list` and
`port_cdb`, the state of the host, and the frames sent by STP. -/
structure Switch (κ τ Φ : Type) where
  vlanDb : List VlanStaticEntry
  stpInstanceHead : List (StpInstance κ)
  bstpList : List BstpState
  env : τ
  portCdb : Vector PortT maxPorts
  sent : List (U32 × Φ)

/-- How a call can break off: a null pointer to an instance or to a port, a
pointer to an instance that has been freed, a bit outside the port lists, or a
bad access inside one of the two protocols. -/
inductive Fault
  | nullInstance
  | nullPort
  | freed
  | portList
  | stp
  | rstp
  deriving DecidableEq, Repr

abbrev SwitchM (κ τ Φ : Type) := StateT (Switch κ τ Φ) (Except Fault)

variable {κ τ Φ α : Type}

section State

variable (s : Switch κ τ Φ) (vlanId : U16)

def Switch.vlan : Option VlanStaticEntry := lookup VlanStaticEntry.vlanId s.vlanDb vlanId

def Switch.stp : Option (StpInstance κ) := lookup StpInstance.vlanId s.stpInstanceHead vlanId

def Switch.rstp : Option BstpState := lookup BstpState.vlanId s.bstpList vlanId

def Switch.world (br : StpInstance κ) : World κ τ Φ := ⟨br, s.env, s.portCdb, s.sent⟩

def Switch.putVlan (e : VlanStaticEntry) : Switch κ τ Φ :=
  { s with vlanDb := update VlanStaticEntry.vlanId s.vlanDb e.vlanId e }

def Switch.putStp (w : World κ τ Φ) : Switch κ τ Φ :=
  { s with
    stpInstanceHead := update StpInstance.vlanId s.stpInstanceHead vlanId w.br
    env := w.env
    portCdb := w.portCdb
    sent := w.sent }

def Switch.putRstp (bs : BstpState) (env : τ) : Switch κ τ Φ :=
  { s with bstpList := update BstpState.vlanId s.bstpList vlanId bs, env := env }

end State

def onStp (inst : Option U16) (m : StpM κ τ Φ α) : SwitchM κ τ Φ α := fun s ↦
  match inst with
  | none => .error .nullInstance
  | some v =>
    match s.stp v with
    | none => .error .freed
    | some br =>
      match m (s.world br) with
      | none => .error .stp
      | some (a, w) => .ok (a, s.putStp v w)

def onRstp (inst : Option U16) (m : BstpState → τ → Option (BstpState × τ)) :
    SwitchM κ τ Φ Unit := fun s ↦
  match inst with
  | none => .error .nullInstance
  | some v =>
    match s.rstp v with
    | none => .error .freed
    | some bs =>
      match m bs s.env with
      | none => .error .rstp
      | some (bs, env) => .ok ((), s.putRstp v bs env)

def liftFault (f : Fault) : Option α → SwitchM κ τ Φ α
  | none => throw f
  | some a => pure a

variable [Add κ] [LT κ] [DecidableLT κ] [OfNat κ 0] [OfNat κ 20000] (P : Platform κ τ Φ)

def vlanInvalidId : U16 := 0x7fff

def maxVlanIds : ℕ := 4096

def stpCreateStpInstance (vlanId : U16) : SwitchM κ τ Φ Int := do
  let s ← get
  if (s.stp vlanId).isSome then pure 0
  else if vlanId ≠ vlanInvalidId ∧ P.host.tmMalloc s.env = false then pure (-1)
  else do
    let new := Stp.stpInitStpInstance P.host vlanId P.thisBridge s.env
    set { s with stpInstanceHead := s.stpInstanceHead ++ [new.1], env := new.2 }
    pure 0

def stpDeleteStpInstance (inst : Option U16) : SwitchM κ τ Φ Unit := do
  match inst with
  | none => throw .nullInstance
  | some v =>
    let s ← get
    match s.stp v with
    | none => throw .freed
    | some _ =>
      set { s with stpInstanceHead := remove StpInstance.vlanId s.stpInstanceHead v }

def stpCreatePorts (ports : List U32) : StpM κ τ Φ Unit :=
  ports.forM fun port ↦ modify fun w ↦ (Stp.stpCreatePort P.host P.thisBridge port w).1

def startStp (ports : List U32) : StpM κ τ Φ Unit := do
  stpCreatePorts P ports
  Stp.stpSetState P.host P.wire true

def stopStp : Option U16 → SwitchM κ τ Φ Unit
  | none => pure ()
  | some v => onStp (some v) (Stp.stpSetState P.host P.wire false)

def rstpCreateInstance (vlanId : U16) : SwitchM κ τ Φ Int := do
  let s ← get
  if (s.rstp vlanId).isSome then pure 0
  else if vlanId ≠ vlanInvalidId ∧ P.host.tmMalloc s.env = false then pure (-1)
  else do
    let new := Rstp.bstpAttach P.host vlanId s.env
    set { s with bstpList := s.bstpList ++ [new.1], env := new.2 }
    pure 0

def rstpCreatePorts (cdb : Vector PortT maxPorts) (ports : List U32) (bs : BstpState) (env : τ) :
    Option (BstpState × τ) :=
  ports.foldlM (fun x port ↦ cdb[(port - 1).toNat]?.bind fun t ↦
    Rstp.rstpCreatePort P.host P.machines (port.setWidth 16) t.ifOperStatus x.1 x.2) (bs, env)

def startRstp (cdb : Vector PortT maxPorts) (ports : List U32) (bs : BstpState) (env : τ) :
    Option (BstpState × τ) :=
  (rstpCreatePorts P cdb ports bs env).bind fun x ↦ Rstp.bstpInit P.host P.machines x.1 x.2

def vlanCreateVlan (vlanId : U16) : SwitchM κ τ Φ Int := do
  let s ← get
  if vlanId = 0 ∨ vlanId.toNat > 4096 then pure (-1)
  else if (s.vlan vlanId).isSome then pure 0
  else if s.vlanDb.length ≥ maxVlanIds then pure (-1)
  else do
    set { s with vlanDb := s.vlanDb ++ [newVlan vlanId] }
    pure 0

def vlanCreateStpPort (e : VlanStaticEntry) (port : U32) : SwitchM κ τ Φ Unit := do
  let s ← get
  if e.stpMode = some .stp ∧ P.host.tmMalloc s.env then
    onStp e.stpInstance (stpCreatePorts P [port])
  else pure ()

def editLists (edit : Vector U8 4 → ℕ → U32 → Option (Vector U8 4)) (e : VlanStaticEntry)
    (port : U32) (type : MemberType) : Option (Vector U8 4) :=
  match type.list with
  | none => some e.portLists
  | some list => edit e.portLists list port

def vlanAddPort (vlanId : U16) (port : U32) (type : MemberType) : SwitchM κ τ Φ Int := do
  let s ← get
  match s.vlan vlanId with
  | none => pure (-1)
  | some e =>
    let lists ← liftFault .portList (editLists setPortList e port type)
    modify (Switch.putVlan · { e with portLists := lists })
    vlanCreateStpPort P e port
    pure 0

def vlanDelPort (vlanId : U16) (port : U32) (type : MemberType) : SwitchM κ τ Φ Int := do
  let s ← get
  match s.vlan vlanId with
  | none => pure (-1)
  | some e =>
    let lists ← liftFault .portList (editLists resetPortList e port type)
    modify (Switch.putVlan · { e with portLists := lists })
    pure 0

def enableStp (e : VlanStaticEntry) : SwitchM κ τ Φ Int := do
  let r ← stpCreateStpInstance P e.vlanId
  if r < 0 then pure (-1)
  else do
    modify (Switch.putVlan · { e with stpInstance := some e.vlanId })
    onStp (some e.vlanId) (startStp P e.egressPorts)
    modify (Switch.putVlan ·
      { e with stpInstance := some e.vlanId, stpEnabled := true, stpMode := some .stp })
    pure 0

def enableRstp (e : VlanStaticEntry) : SwitchM κ τ Φ Int := do
  let r ← rstpCreateInstance P e.vlanId
  if r < 0 then pure (-1)
  else do
    modify (Switch.putVlan · { e with rstpInstance := some e.vlanId })
    let s ← get
    onRstp (some e.vlanId) (startRstp P s.portCdb e.egressPorts)
    stopStp P e.stpInstance
    modify (Switch.putVlan ·
      { e with rstpInstance := some e.vlanId, stpEnabled := true, stpMode := some .rstp })
    pure 0

def vlanSpanningTreeEnableOnVlan (vlanId : U16) (mode : StpMode) : SwitchM κ τ Φ Int := do
  let s ← get
  match s.vlan vlanId with
  | none => pure (-1)
  | some e =>
    if e.stpEnabled ∧ e.stpMode = some mode then pure 0
    else
      match mode with
      | .stp => enableStp P e
      | .rstp => enableRstp P e

def disableStp (e : VlanStaticEntry) : SwitchM κ τ Φ Int := do
  modify (Switch.putVlan · { e with stpEnabled := false })
  stpDeleteStpInstance e.stpInstance
  modify (Switch.putVlan · { e with stpEnabled := false, stpInstance := none })
  pure 0

def disableRstp (e : VlanStaticEntry) : SwitchM κ τ Φ Int := do
  match e.stpInstance with
  | none =>
    modify (Switch.putVlan · { e with stpEnabled := false, rstpInstance := none })
    pure 0
  | some v =>
    modify (Switch.putVlan ·
      { e with stpEnabled := true, stpMode := some .stp, rstpInstance := none })
    onStp (some v) (startStp P e.egressPorts)
    pure 0

def vlanSpanningTreeDisableOnVlan (vlanId : U16) (mode : StpMode) : SwitchM κ τ Φ Int := do
  let s ← get
  match s.vlan vlanId with
  | none => pure (-1)
  | some e =>
    if ¬e.stpEnabled then pure 0
    else
      match mode with
      | .stp => disableStp e
      | .rstp => disableRstp P e

/-- The commands that edit VLANs and their spanning trees. -/
inductive Command
  | createVlan (vlanId : U16)
  | addPort (vlanId : U16) (port : U32) (type : MemberType)
  | delPort (vlanId : U16) (port : U32) (type : MemberType)
  | enable (vlanId : U16) (mode : StpMode)
  | disable (vlanId : U16) (mode : StpMode)
  deriving DecidableEq, Repr

def command : Command → SwitchM κ τ Φ Int
  | .createVlan v => vlanCreateVlan v
  | .addPort v port type => vlanAddPort P v port type
  | .delPort v port type => vlanDelPort v port type
  | .enable v mode => vlanSpanningTreeEnableOnVlan P v mode
  | .disable v mode => vlanSpanningTreeDisableOnVlan P v mode

def issue (s : Switch κ τ Φ) (c : Command) : Option (Switch κ τ Φ) :=
  (command P c s).toOption.map Prod.snd

end Layer3Switch.Vlan
