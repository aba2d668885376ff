import Layer3Switch.Rstp.Instance
import Layer3Switch.Rstp.Ranking

namespace Layer3Switch.Bstp

open Lib.Bytes
open Timers (U32)
open Stp (IfStatus MacAddress macAddress)
open Rstp (IfState PriVector)

/-- The constants `BSTP_ROLE_…`. -/
inductive Role
  | disabled
  | root
  | designated
  | alternate
  | backup
  deriving DecidableEq, Repr

/-- The constants `BSTP_TCSTATE_…`. -/
inductive TcState
  | active
  | detected
  | inactive
  | learning
  | propag
  | ack
  | tc
  | tcn
  deriving DecidableEq, Repr

/-- The constants `BSTP_INFO_…`: where the information of a port comes from. -/
inductive InfoIs
  | received
  | mine
  | aged
  | disabled
  deriving DecidableEq, Repr

/-- The constants `BSTP_PROTO_STP` and `BSTP_PROTO_RSTP`. -/
inductive Proto
  | stp
  | rstp
  deriving DecidableEq, Repr

/-- The constants `BSTP_PDU_…` of `bstp_pdu_rcvtype`. -/
inductive RcvType
  | superior
  | repeated
  | inferior
  | inferiorAlt
  | other
  deriving DecidableEq, Repr

structure BstpTimer where
  active : Bool
  latched : Bool
  value : ℤ
  deriving DecidableEq, Repr

/-- Message age, maximum age, forward delay and hello time. A port has them for itself
and for what it sends, the bridge for its root. -/
structure Times where
  msgAge : U16
  maxAge : U16
  fdelay : U16
  htime : U16
  deriving DecidableEq, Repr

/-- The bits of `bp_flags`. -/
structure PortFlags where
  canmigrate : Bool
  newinfo : Bool
  disputed : Bool
  admcost : Bool
  autoedge : Bool
  autoptp : Bool
  admedge : Bool
  pndcost : Bool
  deriving DecidableEq, Repr

structure BstpConfigUnit where
  pv : PriVector
  times : Times
  messageType : U8
  topologyChangeAck : Bool
  topologyChange : Bool
  proposal : Bool
  agree : Bool
  learning : Bool
  forwarding : Bool
  role : Role
  deriving DecidableEq, Repr

/-- `struct bstp_port` without its links. -/
structure BstpPort where
  ifp : U16
  active : Bool
  protover : Proto
  flags : PortFlags
  pathCost : U32
  portTimes : Times
  desgTimes : Times
  edgeDelayTimer : BstpTimer
  forwardDelayTimer : BstpTimer
  helloTimer : BstpTimer
  messageAgeTimer : BstpTimer
  migrateDelayTimer : BstpTimer
  recentBackupTimer : BstpTimer
  recentRootTimer : BstpTimer
  tcTimer : BstpTimer
  msgCu : BstpConfigUnit
  desgPv : PriVector
  portPv : PriVector
  portId : U16
  state : IfState
  tcstate : TcState
  role : Role
  infois : InfoIs
  tcAck : Bool
  tcProp : Bool
  fdbflush : Bool
  priority : U8
  ptpLink : Bool
  agree : Bool
  agreed : Bool
  sync : Bool
  synced : Bool
  proposing : Bool
  proposed : Bool
  operedge : Bool
  reroot : Bool
  rcvdtc : Bool
  rcvdtca : Bool
  rcvdtcn : Bool
  forwardTransitions : U32
  txcount : U8
  deriving DecidableEq, Repr

/-- `struct bstp_state` without its links, its callout and its callbacks. The root port is
given by its position. -/
structure BstpState where
  vlanId : U16
  running : Bool
  bridgePv : PriVector
  rootPv : PriVector
  rootPort : Option ℕ
  protover : Proto
  migrationDelay : U16
  bridgeMaxAge : U16
  bridgeFdelay : U16
  bridgeHtime : U16
  rootTimes : Times
  bridgePriority : U16
  txholdcount : U8
  allsynced : Bool
  linkTimer : BstpTimer
  bplist : List BstpPort
  deriving DecidableEq, Repr

/-- `struct bstp_cbpdu`, each number as it stands in memory. -/
structure BstpCbpdu where
  etherDhost : MacAddress
  etherShost : MacAddress
  etherType : U16
  dsap : U8
  ssap : U8
  ctl : U8
  protoid : U16
  protover : U8
  bpdutype : U8
  flags : U8
  rootpri : U16
  rootaddr : MacAddress
  rootpathcost : U32
  bridgepri : U16
  bridgeaddr : MacAddress
  portid : U16
  messageage : U16
  maxage : U16
  hellotime : U16
  forwarddelay : U16
  versionlen : U8
  deriving DecidableEq

/-- `struct bstp_tbpdu`. -/
structure BstpTbpdu where
  etherDhost : MacAddress
  etherShost : MacAddress
  etherType : U16
  dsap : U8
  ssap : U8
  ctl : U8
  protoid : U16
  protover : U8
  bpdutype : U8
  deriving DecidableEq

/-- What is handed to `send_packet`. -/
inductive Packet
  | config (bpdu : BstpCbpdu)
  | tcn (bpdu : BstpTbpdu)
  deriving DecidableEq

/-- What does not change under a running bridge. -/
structure Host where
  endian : Endian
  bridgeAddr : MacAddress
  portAddr : U16 → MacAddress

/-- An instance and its surroundings: the links, what functions find in memory that they
do not initialise, and the packets sent, each with its interface. -/
structure World where
  bs : BstpState
  operState : U16 → IfStatus
  stackWord : U32
  stackByte : U8
  sent : List (U16 × Packet)

def bstpDefaultMigrateDelay : U16 := 3
def bstpDefaultHoldCount : U8 := 6
def bstpDefaultBridgePriority : U16 := 0x8000
def bstpDefaultPortPriority : U8 := 0x80
def bstpMinHoldCount : ℤ := 1
def bstpMaxHoldCount : ℤ := 10
def bstpMaxPriority : ℤ := 61440
def bstpMaxPortPriority : ℤ := 240
def bstpMaxPathCost : U32 := 200000000
def bstpMessageAgeIncr : U16 := 1
def bstpLinkTimer : U16 := 15

def bstpMsgtypeCfg : U8 := 0x00
def bstpMsgtypeRstp : U8 := 0x02
def bstpMsgtypeTcn : U8 := 0x80
def bstpProtoId : U16 := 0x00
def bstpProtoMax : U8 := 0x02
def bstpBpduStpLen : U16 := 38
def bstpBpduRstpLen : U16 := 39
def llc8021dLsap : U8 := 0x42
def llcUi : U8 := 0x3
def bstpEtheraddr : MacAddress := macAddress 0x01 0x80 0xc2 0x00 0x00 0x00

def Proto.number : Proto → U8
  | .stp => 0x00
  | .rstp => 0x02

namespace World

variable (w : World) (i : ℕ)

def port : Option BstpPort := w.bs.bplist[i]?

def onBs (f : BstpState → BstpState) : World := { w with bs := f w.bs }

def onPort (f : BstpPort → BstpPort) : World :=
  w.onBs fun bs ↦ { bs with bplist := bs.bplist.modify i f }

def onPorts (f : BstpPort → BstpPort) : World :=
  w.onBs fun bs ↦ { bs with bplist := bs.bplist.map f }

def withPort (k : BstpPort → World) : World := (w.port i).elim w k

def forPorts (f : ℕ → World → World) : World :=
  (List.range w.bs.bplist.length).foldl (fun w i ↦ f i w) w

end World

end Layer3Switch.Bstp
