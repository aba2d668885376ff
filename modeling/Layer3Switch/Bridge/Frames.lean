import Layer3Switch.Bridge.Fdb
import Layer3Switch.Mem.MsgQueue
import Layer3Switch.Stp.Wire

namespace Layer3Switch.Bridge

open Lib Lib.Bytes Mem Timers Stp

def stpMaxMsg : ℕ := 100

/-- The bytes of a `struct stp_msg`. -/
def sizeofStpMsg : ℕ := 24

structure EtherHdr where
  dmac : MacAddress
  smac : MacAddress
  deriving DecidableEq

/-- The type of a message with what its pointer is then. Frame buffers are
numbered in the order in which `process_pkt` is given them. -/
inductive StpMsgBody where
  | bpdu (pkt : ℕ)
  | events (event : IfStatus)
  deriving DecidableEq

/-- `struct stp_msg`. -/
structure StpMsg where
  body : StpMsgBody
  port : ℤ
  vlanid : ℤ
  len : ℤ

/-- What a sender writes into a block. The length is `none` where it is left as it is. -/
structure StpMsgInit where
  body : StpMsgBody
  port : ℤ
  vlanid : ℤ
  len : Option ℤ

def StpMsgInit.write (d : StpMsgInit) (x : StpMsg) : StpMsg :=
  ⟨d.body, d.port, d.vlanid, d.len.getD x.len⟩

/-- Received frames on their way to the STP task: the ports, the database, the pool of
messages with the memory of its blocks, and the queue of messages. `given` counts the
frames and `freed` lists the calls of `free`. -/
structure Rx where
  oper : U16 → IfStatus
  admin : U16 → IfStatus
  fdb : Fdb
  pool : MemInfo
  mem : ℤ → StpMsg
  queue : Q ℤ
  given : ℕ
  freed : List ℕ

section Code

variable (e : Endian) (fdbSalt : U32)

def isMacUcastMac (addr : MacAddress) : Bool := !(firstOctet addr &&& 0xFF != 0)

def isDestStpGroupAddress (mac : MacAddress) : Bool := compareEtherAddr e mac brGroupAddress = 0

/-- The fields of a message are written to its block. -/
def Rx.fill (d : StpMsgInit) (msg : ℤ) (s : Rx) : Rx :=
  { s with mem := Function.update s.mem msg (d.write (s.mem msg)) }

/-- The message is sent. The answer of `msg_send` is not read. -/
def Rx.post (msg : ℤ) (s : Rx) : Option Rx :=
  (msgSend s.queue msg).map fun x ↦ { s with queue := x.2 }

/-- The common body of `stp_rcv_bpdu` and `stp_send_event`. -/
def sendMsg (d : StpMsgInit) (s : Rx) : Option (ℤ × Rx) :=
  match allocBlock s.pool with
  | (none, pool) => some (-1, { s with pool := pool })
  | (some msg, pool) => (({ s with pool := pool }.fill d msg).post msg).map fun s ↦ (0, s)

def bpduMsg (pkt : ℕ) (port vlanid len : ℤ) : StpMsgInit := ⟨.bpdu pkt, port, vlanid, some len⟩

def eventMsg (event : IfStatus) (port vlanid : ℤ) : StpMsgInit :=
  ⟨.events event, port, vlanid, none⟩

def stpRcvBpdu (pkt : ℕ) (port vlanid len : ℤ) : Rx → Option (ℤ × Rx) :=
  sendMsg (bpduMsg pkt port vlanid len)

/-- `process_pkt` up to the call of `stp_rcv_bpdu`, and whether it makes one. `allowed`
and `secs` are what `mac_address_update` reads. -/
def takePkt (allowed : Bool) (secs : U32) (p : EtherHdr) (port : U16) (s : Rx) : Bool × Rx :=
  let pkt := s.given
  let s := { s with given := s.given + 1 }
  if s.oper port = .down ∨ s.admin port = .down then (false, { s with freed := s.freed ++ [pkt] })
  else
    (isDestStpGroupAddress e p.dmac,
      if isMacUcastMac p.smac then
        { s with fdb := (macAddressUpdate e fdbSalt allowed s.fdb p.smac port.toNat secs).2 }
      else s)

/-- A frame comes in. -/
def processPkt (allowed : Bool) (secs : U32) (p : EtherHdr) (len : ℤ) (port : U16) (s : Rx) :
    Option Rx :=
  match takePkt e fdbSalt allowed secs p port s with
  | (true, s') => (stpRcvBpdu s.given port.toNat 1 len s').map Prod.snd
  | (false, s') => some s'

/-- What `cli_set_port_enable` and `cli_set_port_disable` do before they send the event. -/
def Rx.setPort (port : U16) (status : IfStatus) (s : Rx) : Rx :=
  { s with
    oper := Function.update s.oper port status
    admin := Function.update s.admin port status }

/-- The state that `stpmgr_init` leaves, before any frame. -/
def Rx.start (fdb : Fdb) (mem : ℤ → StpMsg) (poolAddr : ℤ) (queueAddr : ℕ) : Rx where
  oper := fun _ ↦ .down
  admin := fun _ ↦ .down
  fdb := fdb
  pool := memPoolCreate (stpMaxMsg * sizeofStpMsg) stpMaxMsg poolAddr
  mem := mem
  queue := (msgQInit 0).activate stpMaxMsg sizeofStpMsg queueAddr
  given := 0
  freed := []

end Code

theorem Rx.works_start (fdb : Fdb) (mem : ℤ → StpMsg) (poolAddr : ℤ) {queueAddr : ℕ}
    (hqueue : queueAddr ≠ 0) : (Rx.start fdb mem poolAddr queueAddr).queue.Works :=
  Q.works_activate (by decide) (by decide) hqueue rfl

theorem takePkt_cases (e : Endian) (fdbSalt : U32) (allowed : Bool) (secs : U32) (p : EtherHdr)
    (port : U16) (s : Rx) :
    (s.oper port = .down ∨ s.admin port = .down) ∧ takePkt e fdbSalt allowed secs p port s =
        (false, { s with given := s.given + 1, freed := s.freed ++ [s.given] }) ∨
      ¬(s.oper port = .down ∨ s.admin port = .down) ∧
        takePkt e fdbSalt allowed secs p port s = (isDestStpGroupAddress e p.dmac,
          { s with
            given := s.given + 1
            fdb := if isMacUcastMac p.smac then
                (macAddressUpdate e fdbSalt allowed s.fdb p.smac port.toNat secs).2
              else s.fdb }) := by
  unfold takePkt
  by_cases hdown : s.oper port = .down ∨ s.admin port = .down
  · exact .inl ⟨hdown, if_pos hdown⟩
  · refine .inr ⟨hdown, (if_neg hdown).trans ?_⟩
    cases isMacUcastMac p.smac <;> rfl

theorem sendMsg_fdb {s : Rx} (h : s.queue.Works) (d : StpMsgInit) :
    ∃ r s', sendMsg d s = some (r, s') ∧ s'.fdb = s.fdb := by
  unfold sendMsg
  obtain ⟨msg, pool⟩ := allocBlock s.pool
  cases msg with
  | none => exact ⟨-1, { s with pool := pool }, rfl, rfl⟩
  | some msg =>
    obtain ⟨q, hsend, -⟩ := h.send msg
    refine ⟨0, { { s with pool := pool }.fill d msg with queue := q }, ?_, rfl⟩
    simp only [Rx.post, Rx.fill, hsend, Option.map_some]

/-- A database and a memory to start with. -/
def Rx.boot : Rx :=
  Rx.start (fdbInit 4096 16777216 fun _ ↦ ⟨.replicate 6 0, 0, false, 0⟩)
    (fun _ ↦ ⟨.events .down, 0, 0, 0⟩) 1000 500000

end Layer3Switch.Bridge
