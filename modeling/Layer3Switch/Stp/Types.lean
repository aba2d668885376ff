import Layer3Switch.Lib.Bytes
import Layer3Switch.Timers.Manager

namespace Layer3Switch.Stp

open Lib.Bytes
open Timers (U32 TimerId)

abbrev MacAddress := Vector U8 6

def macAddress (a b c d e f : U8) : MacAddress := #v[a, b, c, d, e, f]

def firstOctet (addr : MacAddress) : U8 := addr.head

/-- `BRIDGEID`, with the priority in host byte order. -/
structure BridgeId where
  prio : U16
  addr : MacAddress
  deriving DecidableEq, Repr

def BridgeId.image (e : Endian) (b : BridgeId) : List U8 := e.store 2 b.prio.toNat ++ b.addr.toList

def BridgeId.memcmp (e : Endian) (a b : BridgeId) : Ordering :=
  Lib.Bytes.memcmp (a.image e) (b.image e)

def BridgeId.rank (e : Endian) (b : BridgeId) : ℕ := value (b.image e)

@[simp] theorem BridgeId.length_image (e : Endian) (b : BridgeId) : (b.image e).length = 8 := by
  simp [image]

theorem BridgeId.memcmp_eq_compare (e : Endian) (a b : BridgeId) :
    memcmp e a b = compare (a.rank e) (b.rank e) :=
  Lib.Bytes.memcmp_eq_compare (by simp)

theorem BridgeId.rank_injective (e : Endian) : Function.Injective (BridgeId.rank e) := by
  intro a b h
  obtain ⟨p, x⟩ := a
  obtain ⟨q, y⟩ := b
  have hi : image e ⟨p, x⟩ = image e ⟨q, y⟩ := value_inj (by simp) h
  obtain ⟨hp, hx⟩ := List.append_inj hi (by simp)
  have hl : p.toNat % 256 ^ 2 = q.toNat % 256 ^ 2 := by
    rw [← load_store e, ← load_store e]
    exact congrArg e.load hp
  have hpq : p.toNat = q.toNat := by
    have h₁ := p.isLt
    have h₂ := q.isLt
    omega
  have hxy : x = y := Vector.toList_inj.mp hx
  rw [BitVec.eq_of_toNat_eq hpq, hxy]

theorem BridgeId.memcmp_eq_gt {e : Endian} {a b : BridgeId} :
    memcmp e a b = .gt ↔ b.rank e < a.rank e := by
  rw [memcmp_eq_compare, Nat.compare_eq_gt]

theorem BridgeId.memcmp_eq_eq {e : Endian} {a b : BridgeId} : memcmp e a b = .eq ↔ a = b := by
  rw [memcmp_eq_compare, Nat.compare_eq_eq, (rank_injective e).eq_iff]

inductive PortState
  | disabled
  | listening
  | learning
  | forwarding
  | blocking
  deriving DecidableEq, Repr

/-- `TIMER_ID`, `none` for a null pointer. -/
abbrev TimerRef := Option TimerId

/-- `struct stp_port_entry`, with its own address in `self`. Costs are taken from
a type `κ`. -/
structure StpPortEntry (κ : Type) where
  priority : U32
  state : PortState
  designatedCost : κ
  pathCost : κ
  designatedRoot : BridgeId
  designatedBridge : BridgeId
  forwardDelayTimer : TimerRef
  holdTimer : TimerRef
  messageAgeTimer : TimerRef
  designatedPort : U16
  portId : U16
  portNo : U32
  topologyChangeAck : Bool
  configPending : Bool
  isOwnBpdu : Bool
  enabled : Bool
  self : ℕ
  deriving DecidableEq, Repr

/-- `struct stp_instance`. -/
structure StpInstance (κ : Type) where
  portList : List (StpPortEntry κ)
  stpEnabled : Bool
  designatedRoot : BridgeId
  bridgeId : BridgeId
  maxAge : U32
  helloTime : U32
  forwardDelay : U32
  bridgeMaxAge : U32
  bridgeHelloTime : U32
  bridgeForwardDelay : U32
  helloTimer : TimerRef
  tcnTimer : TimerRef
  topologyChangeTimer : TimerRef
  rootPathCost : κ
  rootPort : U32
  vlanId : U16
  topologyChange : Bool
  topologyChangeDetected : Bool
  deriving DecidableEq, Repr

/-- The fields of `STP_BPDU_T` after the common header. -/
structure StpBpdu (κ : Type) where
  flags : U8
  rootId : BridgeId
  rootPathCost : κ
  bridgeId : BridgeId
  portId : U16
  messageAge : U16
  maxAge : U16
  helloTime : U16
  forwardDelay : U16
  deriving DecidableEq, Repr

def tcBit : U8 := 0x01
def tcAckBit : U8 := 0x80

def messageAgeIncr : U32 := 1

def stpPortBits : ℕ := 10

def stpDefPriority : U16 := 32768
def stpDefMaxAge : U32 := 20
def stpDefHelloTime : U32 := 2
def stpDefFwdDelay : U32 := 15
def stpDefPortPrio : U32 := 128

end Layer3Switch.Stp
