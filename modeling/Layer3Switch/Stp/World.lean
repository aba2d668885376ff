import Layer3Switch.Lib.Ends
import Layer3Switch.Stp.Election

namespace Layer3Switch.Stp

open Lib Lib.Bytes
open Timers (U32)

/-- `IF_UP` and `IF_DOWN`. -/
inductive IfStatus
  | up
  | down
  deriving DecidableEq, Repr

/-- What the protocol uses of `port_t`. The pointer `pstp_info` is the address of
an entry. -/
structure PortT where
  ifOperStatus : IfStatus
  ifPhysAddress : MacAddress
  pstpInfo : Option ℕ
  deriving DecidableEq, Repr

def maxPorts : ℕ := 12

instance : NeZero maxPorts := ⟨by decide⟩

/-- The handlers that are given to `setup_timer`, those of a port with its number.
The last one is the only one of RSTP. -/
inductive TimerHandler
  | hello
  | tcn
  | topologyChange
  | messageAge (portNo : U32)
  | forwardDelay (portNo : U32)
  | hold (portNo : U32)
  | bstpTick
  deriving DecidableEq, Repr

/-- The host: its byte order, the timer library over a state `τ`, whether
`tm_malloc` finds memory and at which address, and what an uninitialised byte on
the stack holds. A timer call that reads through a bad pointer gives `none`. -/
structure Host (τ : Type) where
  endian : Endian
  setupTimer : TimerHandler → τ → τ × TimerRef
  modTimer : TimerRef → U32 → τ → Option τ
  delTimer : TimerRef → τ → Option τ
  timerPending : TimerRef → τ → Option Bool
  timerGetRemainingTime : TimerRef → τ → Option U32
  tmMalloc : τ → Bool
  blockAddr : τ → ℕ
  stackByte : τ → U8

/-- Frames of type `Φ`: those that the two sending functions build, given the
source address, and what the receiver reads from a frame. -/
structure Wire (κ Φ : Type) where
  config : MacAddress → StpBpdu κ → Φ
  tcn : MacAddress → Φ
  type : Φ → Option U8
  decode : Φ → Option (StpBpdu κ)

/-- The state the protocol runs on: an instance, the state of the timers, the
interface table, and the frames handed to `send_packet` so far. -/
structure World (κ τ Φ : Type) where
  br : StpInstance κ
  env : τ
  portCdb : Vector PortT maxPorts
  sent : List (U32 × Φ)

variable {κ τ Φ α : Type}

def World.modifyPort (w : World κ τ Φ) (p : ℕ) (f : StpPortEntry κ → StpPortEntry κ) :
    World κ τ Φ :=
  { w with br := { w.br with portList := w.br.portList.modify p f } }

def World.operStatus (w : World κ τ Φ) (port : U32) : Option IfStatus :=
  w.portCdb[(port - 1).toNat]?.map PortT.ifOperStatus

/-- A run is `none` when the code reads or writes outside its objects. -/
abbrev StpM (κ τ Φ : Type) := StateT (World κ τ Φ) Option

def reads (g : World κ τ Φ → Option α) : StpM κ τ Φ α := fun w ↦ (g w).map fun a ↦ (a, w)

def deref (x : Option α) : StpM κ τ Φ α := reads fun _ ↦ x

def port (p : ℕ) : StpM κ τ Φ (StpPortEntry κ) := reads fun w ↦ w.br.portList[p]?

def setPort (p : ℕ) (f : StpPortEntry κ → StpPortEntry κ) : StpM κ τ Φ Unit :=
  modify fun w ↦ w.modifyPort p f

def bridge : StpM κ τ Φ (StpInstance κ) := reads fun w ↦ some w.br

def setBridge (f : StpInstance κ → StpInstance κ) : StpM κ τ Φ Unit :=
  modify fun w ↦ { w with br := f w.br }

def forPorts (f : ℕ → StpM κ τ Φ Unit) : StpM κ τ Φ Unit :=
  fun w ↦ (List.range w.br.portList.length).forM f w

def portCdb (port : U32) : StpM κ τ Φ PortT := reads fun w ↦ w.portCdb[(port - 1).toNat]?

def setIfStpInfo (port : U32) (entry : ℕ) : StpM κ τ Φ Unit := do
  let t ← portCdb port
  modify fun w ↦
    { w with portCdb := w.portCdb.setIfInBounds (port - 1).toNat { t with pstpInfo := some entry } }

def sendPacket (frame : Φ) (port : U32) : StpM κ τ Φ Unit :=
  modify fun w ↦ { w with sent := w.sent ++ [(port, frame)] }

def askEnv (g : τ → Option α) : StpM κ τ Φ α := reads fun w ↦ g w.env

def callEnv (g : τ → Option τ) : StpM κ τ Φ Unit :=
  fun w ↦ (g w.env).map fun env ↦ ((), { w with env := env })

variable (H : Host τ)

def modTimer (timer : TimerRef) (secs : U32) : StpM κ τ Φ Unit := callEnv (H.modTimer timer secs)

def delTimer (timer : TimerRef) : StpM κ τ Φ Unit := callEnv (H.delTimer timer)

def timerPending (timer : TimerRef) : StpM κ τ Φ Bool := askEnv (H.timerPending timer)

def timerGetRemainingTime (timer : TimerRef) : StpM κ τ Φ U32 :=
  askEnv (H.timerGetRemainingTime timer)

section Rules

variable {w : World κ τ Φ} {p : ℕ}

theorem ends_reads {g : World κ τ Φ → Option α} {Q : α → World κ τ Φ → Prop}
    (h : ∀ a, g w = some a → Q a w) : Ends (reads g) w Q := by
  intro a w' hm
  obtain ⟨b, hb, heq⟩ := Option.map_eq_some_iff.mp hm
  obtain ⟨rfl, rfl⟩ := Prod.mk.inj heq
  exact h b hb

theorem ends_bridge {Q : StpInstance κ → World κ τ Φ → Prop} (h : Q w.br w) :
    Ends bridge w Q := by
  apply ends_reads
  intro br hbr
  exact Option.some.inj hbr ▸ h

theorem ends_callEnv {g : τ → Option τ} {Q : Unit → World κ τ Φ → Prop}
    (h : ∀ env, g w.env = some env → Q () { w with env := env }) : Ends (callEnv g) w Q := by
  intro a w' hm
  obtain ⟨env, henv, heq⟩ := Option.map_eq_some_iff.mp hm
  obtain ⟨-, rfl⟩ := Prod.mk.inj heq
  exact h env henv

theorem ends_forPorts {I : World κ τ Φ → Prop} {f : ℕ → StpM κ τ Φ Unit}
    (hstep : ∀ p w, I w → Ends (f p) w fun _ w' ↦ I w') (h : I w) :
    Ends (forPorts f) w fun _ w' ↦ I w' :=
  Ends.forM (I := fun _ ↦ I) (fun p _ w ↦ hstep p w) h

end Rules

end Layer3Switch.Stp
