import Layer3Switch.Lib.Run
import Layer3Switch.Stp.Create
import Layer3Switch.Stp.Events
import Layer3Switch.Stp.Selection

namespace Layer3Switch.Stp

open Lib Lib.Bytes
open Timers (U32)

/-- Everything that is done to an instance: what happens to a bridge, and what
its operator commands. -/
inductive Action (κ τ Φ : Type)
  | event (ev : Event τ Φ)
  | createPort (addr : MacAddress) (portNo : U32)
  | setPathCost (p : ℕ) (pathCost : κ)
  | setBridgePriority (newprio : U16)
  | changeBridgeId (addr : MacAddress)
  | setBridgeHelloTime (hello : Int32)
  | setBridgeForwardDelay (fwdDly : Int32)
  | setBridgeMaxAge (maxAge : Int32)
  | setBridgeTimes (fdly maxage htime : Int32)

variable {κ τ Φ : Type}

section Definitions

variable [Add κ] [LT κ] [DecidableLT κ] [OfNat κ 0] [OfNat κ 20000] (H : Host τ) (W : Wire κ Φ)

def act : Action κ τ Φ → StpM κ τ Φ Unit
  | .event ev => handle H W ev
  | .createPort addr portNo => modify fun w ↦ (stpCreatePort H addr portNo w).1
  | .setPathCost p pathCost => stpSetPathCost H W p pathCost
  | .setBridgePriority newprio => stpSetBridgePriority H W newprio
  | .changeBridgeId addr => stpChangeBridgeId H W addr
  | .setBridgeHelloTime hello => do
    let _ ← stpSetBridgeHelloTime hello
    pure ()
  | .setBridgeForwardDelay fwdDly => do
    let _ ← stpSetBridgeForwardDelay fwdDly
    pure ()
  | .setBridgeMaxAge maxAge => do
    let _ ← stpSetBridgeMaxAge maxAge
    pure ()
  | .setBridgeTimes fdly maxage htime => do
    let _ ← stpSetBridgeTimes fdly maxage htime
    pure ()

def step (w : World κ τ Φ) (a : Action κ τ Φ) : Option (World κ τ Φ) := (act H W a w).map Prod.snd

end Definitions

section Stages

variable [Add κ] [LT κ] [DecidableLT κ] [OfNat κ 0] (H : Host τ) (W : Wire κ Φ)

/-- The tree has been moved on. Nothing but notifications is sent meanwhile. -/
structure Moved (m : Move κ) (w w' : World κ τ Φ) : Prop where
  apply : m.apply H.endian w.br.tree = some w'.br.tree
  operStatus : ∀ n, w'.operStatus n = w.operStatus n
  sent : SendsFrom W (fun _ ↦ False) w w'
  silent : Silent w.br → Silent w'.br

def Move.Valid (br : StpInstance κ) : Move κ → Prop
  | .enable p => ∀ q, br.portList[p]? = some q → InTable q.portNo
  | .create q => q.state = .disabled ∧ q.isOwnBpdu = false
  | .removeHead => ∀ q, br.portList[0]? = some q → q.state = .disabled
  | _ => True

/-- One stage of an action: a move that `adm` admits, talk, or a change outside
the instance. -/
inductive Stage (adm : World κ τ Φ → Move κ → Prop) : World κ τ Φ → World κ τ Φ → Prop
  | move {w w' : World κ τ Φ} (m : Move κ) :
      adm w m → m.Valid w.br → Moved H W m w w' → Stage adm w w'
  | talk {w w' : World κ τ Φ} : Quiet W w w' → Stage adm w w'
  | outside {w w' : World κ τ Φ} : w'.br = w.br → w'.sent = w.sent → Stage adm w w'

def Wire.Config (W : Wire κ Φ) (frame : Φ) (bpdu : StpBpdu κ) : Prop :=
  W.type frame = some bpduConfigType ∧ W.decode frame = some bpdu

instance (W : Wire κ Φ) (frame : Φ) {P : StpBpdu κ → Prop} [DecidablePred P] :
    Decidable (∀ bpdu, W.Config frame bpdu → P bpdu) :=
  decidable_of_iff (W.type frame = some bpduConfigType →
    ∀ bpdu, W.decode frame = some bpdu → P bpdu)
    ⟨fun h bpdu hbpdu ↦ h hbpdu.1 bpdu hbpdu.2, fun h ht bpdu hd ↦ h bpdu ⟨ht, hd⟩⟩

/-- The moves that an action on `w₀` can make. An election comes before any
other stage, except when the ports are taken away one by one. -/
inductive Admits (w₀ : World κ τ Φ) : Action κ τ Φ → World κ τ Φ → Move κ → Prop
  | clearOwn (portNo : U16) (frame : Φ) (p : ℕ) :
      Admits w₀ (.event (.receive portNo frame)) w₀ (.clearOwn p)
  | record (portNo : U16) (frame : Φ) (p : ℕ) (q : StpPortEntry κ) (bpdu : StpBpdu κ) :
      stpGetPortEntry w₀.br portNo = some p → w₀.br.portList[p]? = some q →
      q.state ≠ .disabled → W.Config frame bpdu →
      Admits w₀ (.event (.receive portNo frame)) w₀ (.elect (.record p bpdu))
  | adopt (w : World κ τ Φ) (portNo : U16) (frame : Φ) (bpdu : StpBpdu κ) :
      W.Config frame bpdu → Admits w₀ (.event (.receive portNo frame)) w (.times (bpdu.times w.br))
  | becomeRoot (a : Action κ τ Φ) (w : World κ τ Φ) : stpIsRootBridge w.br →
      Admits w₀ a w (.times w.br.ownTimes)
  | expireAge (p : ℕ) : Admits w₀ (.event (.messageAgeTimer p)) w₀ (.elect (.expireAge p))
  | advance (p : ℕ) : Admits w₀ (.event (.forwardDelayTimer p)) w₀ (.advance p)
  | linkUp (portNo : U16) (p : ℕ) (q : StpPortEntry κ) :
      stpGetPortEntry w₀.br portNo = some p → w₀.br.portList[p]? = some q →
      w₀.operStatus q.portNo ≠ some .down →
      Admits w₀ (.event (.link portNo .up)) w₀ (.enable p)
  | linkDown (portNo : U16) (p : ℕ) : stpGetPortEntry w₀.br portNo = some p →
      Admits w₀ (.event (.link portNo .down)) w₀ (.elect (.disable p))
  | setEnabled (w : World κ τ Φ) (state : Bool) :
      Admits w₀ (.event (.setState state)) w (.setEnabled state)
  | enable (w : World κ τ Φ) (p : ℕ) (q : StpPortEntry κ) : w.br.portList[p]? = some q →
      w₀.operStatus q.portNo ≠ some .down → Admits w₀ (.event (.setState true)) w (.enable p)
  | disable (w : World κ τ Φ) : Admits w₀ (.event (.setState false)) w (.elect (.disable 0))
  | removeHead (w : World κ τ Φ) : Admits w₀ (.event (.setState false)) w .removeHead
  | setPortPriority (p : ℕ) (newprio : U8) :
      Admits w₀ (.event (.setPortPriority p newprio)) w₀ (.setPortPriority p newprio)
  | create (addr : MacAddress) (portNo : U32) (q : StpPortEntry κ) : q.portNo = portNo →
      Admits w₀ (.createPort addr portNo) w₀ (.create q)
  | setPathCost (p : ℕ) (pathCost : κ) :
      Admits w₀ (.setPathCost p pathCost) w₀ (.elect (.setPathCost p pathCost))
  | setBridgePriority (newprio : U16) :
      Admits w₀ (.setBridgePriority newprio) w₀ (.elect (.setBridgePriority newprio))
  | changeBridgeId (addr : MacAddress) :
      Admits w₀ (.changeBridgeId addr) w₀ (.elect (.changeBridgeId addr))
  | setBridgeHelloTime (hello : Int32) : stpMinHelloTime ≤ hello → hello ≤ stpMaxHelloTime →
      Admits w₀ (.setBridgeHelloTime hello) w₀ (.times { w₀.br.times with
        bridgeHelloTime := hello.toBitVec
        helloTime := if stpIsRootBridge w₀.br then hello.toBitVec else w₀.br.helloTime })
  | setBridgeForwardDelay (fwdDly : Int32) : stpMinForwardDelay ≤ fwdDly →
      fwdDly ≤ stpMaxForwardDelay →
      Admits w₀ (.setBridgeForwardDelay fwdDly) w₀ (.times { w₀.br.times with
        bridgeForwardDelay := fwdDly.toBitVec
        forwardDelay := if stpIsRootBridge w₀.br then fwdDly.toBitVec else w₀.br.forwardDelay })
  | setBridgeMaxAge (maxAge : Int32) : stpMinMaxAge ≤ maxAge → maxAge ≤ stpMaxMaxAge →
      Admits w₀ (.setBridgeMaxAge maxAge) w₀ (.times { w₀.br.times with
        bridgeMaxAge := maxAge.toBitVec
        maxAge := if stpIsRootBridge w₀.br then maxAge.toBitVec else w₀.br.maxAge })
  | setBridgeTimes (fdly maxage htime : Int32) (t : BridgeTimes) :
      t.bridgeForwardDelay = (if fdly < 0 then w₀.br.bridgeForwardDelay else fdly.toBitVec) →
      t.bridgeMaxAge = (if maxage < 0 then w₀.br.bridgeMaxAge else maxage.toBitVec) →
      t.bridgeHelloTime = (if htime < 0 then w₀.br.bridgeHelloTime else htime.toBitVec) →
      (stpIsRootBridge w₀.br → t.forwardDelay = t.bridgeForwardDelay ∧
        t.maxAge = t.bridgeMaxAge ∧ t.helloTime = t.bridgeHelloTime) →
      (stpIsRootBridge w₀.br = false → t.forwardDelay = w₀.br.forwardDelay ∧
        t.maxAge = w₀.br.maxAge ∧ t.helloTime = w₀.br.helloTime) →
      Admits w₀ (.setBridgeTimes fdly maxage htime) w₀ (.times t)

def Leads (adm : World κ τ Φ → Move κ → Prop) : World κ τ Φ → World κ τ Φ → Prop :=
  Relation.ReflTransGen (Stage H W adm)

end Stages

end Layer3Switch.Stp
