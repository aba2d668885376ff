import Layer3Switch.Lib.Reader
import Layer3Switch.Stp.Main

namespace Layer3Switch.Stp

open Lib Lib.Bytes
open Timers (U32)

variable (e : Endian)

def htons (x : U16) : U16 := BitVec.ofNat 16 (e.hton 2 x.toNat)
def htonl (x : U32) : U32 := BitVec.ofNat 32 (e.hton 4 x.toNat)
def ntohs (x : U16) : U16 := BitVec.ofNat 16 (e.ntoh 2 x.toNat)
def ntohl (x : U32) : U32 := BitVec.ofNat 32 (e.ntoh 4 x.toNat)

def stpEncodeBpdu (cpdu : StpBpdu Int32) : StpBpdu Int32 :=
  { cpdu with
    rootId.prio := htons e cpdu.rootId.prio
    bridgeId.prio := htons e cpdu.bridgeId.prio
    rootPathCost := Int32.ofBitVec (htonl e cpdu.rootPathCost.toBitVec)
    messageAge := htons e cpdu.messageAge
    maxAge := htons e cpdu.maxAge
    helloTime := htons e cpdu.helloTime
    forwardDelay := htons e cpdu.forwardDelay }

def stpDecodeBpdu (cpdu : StpBpdu Int32) : StpBpdu Int32 :=
  { cpdu with
    rootId.prio := ntohs e cpdu.rootId.prio
    bridgeId.prio := ntohs e cpdu.bridgeId.prio
    rootPathCost := Int32.ofBitVec (ntohl e cpdu.rootPathCost.toBitVec)
    messageAge := ntohs e cpdu.messageAge
    maxAge := ntohs e cpdu.maxAge
    helloTime := ntohs e cpdu.helloTime
    forwardDelay := ntohs e cpdu.forwardDelay
    portId := ntohs e cpdu.portId }

def ethP8023 : U16 := 0x0001
def ethP8022 : U16 := 0x0004

def llcPduTypeU : U8 := 3
def llc1PduCmdUi : U8 := 0x00
def llcSapBspan : U8 := 0x42

def brGroupAddress : MacAddress := macAddress 0x01 0x80 0xc2 0x00 0x00 0x00

def llcMacHdrInit (daddr saddr : MacAddress) (type len : U16) : List U8 :=
  daddr.toList ++ saddr.toList ++
    e.store 2 (htons e (if type ≠ ethP8023 ∧ type ≠ ethP8022 then type else len)).toNat

def llcPduHeaderInit (ssap dsap cr : U8) : List U8 := [dsap, ssap ||| cr]

def llcPduInitAsUiCmd : List U8 := [llcPduTypeU ||| llc1PduCmdUi]

def bpduPacket (smac : MacAddress) (data : List U8) : List U8 :=
  llcMacHdrInit e brGroupAddress smac 0x4 (BitVec.ofNat 16 (data.length + 3)) ++
    llcPduHeaderInit llcSapBspan llcSapBspan llc1PduCmdUi ++ llcPduInitAsUiCmd ++ data

def shiftedByte (x : U32) (k : ℕ) : U8 := (x.sshiftRight k).setWidth 8

def configBuf (bpdu : StpBpdu Int32) : List U8 :=
  [0, 0, 0, bpduConfigType, bpdu.flags] ++
    e.store 2 bpdu.rootId.prio.toNat ++ bpdu.rootId.addr.toList ++
    [24, 16, 8, 0].map (shiftedByte bpdu.rootPathCost.toBitVec) ++
    e.store 2 bpdu.bridgeId.prio.toNat ++ bpdu.bridgeId.addr.toList ++
    [8, 0].map (shiftedByte (bpdu.portId.setWidth 32)) ++
    e.store 2 bpdu.messageAge.toNat ++ e.store 2 bpdu.maxAge.toNat ++
    e.store 2 bpdu.helloTime.toNat ++ e.store 2 bpdu.forwardDelay.toNat

def tcnBuf : List U8 := [0, 0, 0, bpduTcType]

def readU8 : Reader U8 := (BitVec.ofNat 8 <| value ·) <$> readBytes 1

def readU16 : Reader U16 := (BitVec.ofNat 16 <| e.load ·) <$> readBytes 2

def readInt32 : Reader Int32 := (Int32.ofBitVec <| BitVec.ofNat 32 <| e.load ·) <$> readBytes 4

def readMacAddress : Reader MacAddress := (fun bs ↦ Vector.ofFn (bs.getD · 0)) <$> readBytes 6

def readBridgeId : Reader BridgeId := do
  let prio ← readU16 e
  let addr ← readMacAddress
  pure ⟨prio, addr⟩

def readType : Reader U8 := do
  let _macHdr ← readBytes 14
  let _ethHdr ← readBytes 3
  let _protocol ← readBytes 2
  let _version ← readBytes 1
  readU8

def readStpBpdu : Reader (StpBpdu Int32) := do
  let _type ← readType
  let flags ← readU8
  let rootId ← readBridgeId e
  let rootPathCost ← readInt32 e
  let bridgeId ← readBridgeId e
  let portId ← readU16 e
  let messageAge ← readU16 e
  let maxAge ← readU16 e
  let helloTime ← readU16 e
  let forwardDelay ← readU16 e
  pure ⟨flags, rootId, rootPathCost, bridgeId, portId, messageAge, maxAge, helloTime, forwardDelay⟩

def frames : Wire Int32 (List U8) where
  config := fun smac bpdu ↦ bpduPacket e smac (configBuf e (stpEncodeBpdu e bpdu))
  tcn := fun smac ↦ bpduPacket e smac tcnBuf
  type := fun frame ↦ readType.run' frame
  decode := fun frame ↦ (stpDecodeBpdu e <$> readStpBpdu e).run' frame

def networkConfig (bpdu : StpBpdu Int32) : List U8 :=
  [bpdu.flags] ++ (bpdu.rootId.image .big ++ (digits 4 bpdu.rootPathCost.toBitVec.toNat ++
    (bpdu.bridgeId.image .big ++ (digits 2 bpdu.portId.toNat ++ (digits 2 bpdu.messageAge.toNat ++
      (digits 2 bpdu.maxAge.toNat ++ (digits 2 bpdu.helloTime.toNat ++
        digits 2 bpdu.forwardDelay.toNat)))))))

def conveyedCost (cost : Int32) : Int32 := Int32.ofBitVec (htonl e cost.toBitVec)

section Sender

theorem shiftedByte_eq {k : ℕ} (x : U32) (hk : k + 8 ≤ 32) :
    shiftedByte x k = BitVec.ofNat 8 (x.toNat / 2 ^ k) := by
  apply BitVec.eq_of_getLsbD_eq
  intro i hi
  have hlt : k + i < 32 := by omega
  have hi' : ¬32 ≤ i := by omega
  rw [shiftedByte, BitVec.getLsbD_setWidth, BitVec.getLsbD_sshiftRight, BitVec.getLsbD_ofNat,
    Nat.testBit_div_two_pow, Nat.add_comm i k, BitVec.testBit_toNat]
  simp only [hi, hi', hlt, decide_true, decide_false, Bool.not_false, Bool.true_and, if_true]

theorem shiftedByte_cost (x : U32) : [24, 16, 8, 0].map (shiftedByte x) = digits 4 x.toNat := by
  rw [List.map, List.map, List.map, List.map, List.map, shiftedByte_eq x (by decide),
    shiftedByte_eq x (by decide), shiftedByte_eq x (by decide), shiftedByte_eq x (by decide)]
  rfl

theorem shiftedByte_portId (x : U16) :
    [8, 0].map (shiftedByte (x.setWidth 32)) = digits 2 x.toNat := by
  have hx : (x.setWidth 32).toNat = x.toNat := by
    rw [BitVec.toNat_setWidth, Nat.mod_eq_of_lt (x.isLt.trans (by decide))]
  rw [List.map, List.map, List.map, shiftedByte_eq _ (by decide), shiftedByte_eq _ (by decide), hx]
  rfl

theorem store_htons (x : U16) : e.store 2 (htons e x).toNat = digits 2 x.toNat := by
  have h : e.hton 2 x.toNat < 2 ^ 16 := hton_lt e 2 _
  rw [htons, BitVec.toNat_ofNat, Nat.mod_eq_of_lt h, store_hton]

theorem image_big (b : BridgeId) : b.image .big = digits 2 b.prio.toNat ++ b.addr.toList := rfl

theorem configBuf_encode (bpdu : StpBpdu Int32) :
    configBuf e (stpEncodeBpdu e bpdu) = [0, 0, 0, bpduConfigType] ++
      networkConfig { bpdu with rootPathCost := conveyedCost e bpdu.rootPathCost } := by
  simp only [configBuf, stpEncodeBpdu, networkConfig, image_big, conveyedCost, store_htons,
    shiftedByte_cost, shiftedByte_portId, List.append_assoc]
  rfl

theorem conveyedCost_big (cost : Int32) : conveyedCost .big cost = cost := by
  rw [conveyedCost, htonl, hton_big (BitVec.isLt _), BitVec.ofNat_toNat, BitVec.setWidth_eq]
  rfl

end Sender

section Receiver

theorem reads_readU8 (b : U8) : Reads readU8 [b] b := by
  have h : Reads readU8 [b] (BitVec.ofNat 8 (value [b])) :=
    (reads_readBytes (List.length_singleton (a := b))).map _
  rwa [value, value, List.length_nil, Nat.pow_zero, Nat.mul_one, Nat.add_zero, BitVec.ofNat_toNat,
    BitVec.setWidth_eq] at h

theorem reads_readU16 {bs : List U8} (h : bs.length = 2) :
    Reads (readU16 e) bs (BitVec.ofNat 16 (e.load bs)) :=
  (reads_readBytes h).map _

theorem reads_readInt32 {bs : List U8} (h : bs.length = 4) :
    Reads (readInt32 e) bs (Int32.ofBitVec (BitVec.ofNat 32 (e.load bs))) :=
  (reads_readBytes h).map _

theorem reads_readMacAddress (addr : MacAddress) : Reads readMacAddress addr.toList addr := by
  have h := (reads_readBytes addr.length_toList).map fun bs ↦
    (Vector.ofFn (bs.getD · 0) : MacAddress)
  have hv : (Vector.ofFn (addr.toList.getD · 0) : MacAddress) = addr := by
    ext i hi
    simp
  rwa [hv] at h

theorem ntohs_load (x : U16) : ntohs e (BitVec.ofNat 16 (e.load (digits 2 x.toNat))) = x :=
  ntoh_ofNat_load e (by decide) x

theorem ntohl_load (x : U32) : ntohl e (BitVec.ofNat 32 (e.load (digits 4 x.toNat))) = x :=
  ntoh_ofNat_load e (by decide) x

theorem reads_readBridgeId (b : BridgeId) :
    Reads (readBridgeId e) (b.image .big)
      ⟨BitVec.ofNat 16 (e.load (digits 2 b.prio.toNat)), b.addr⟩ := by
  rw [image_big, ← List.append_nil b.addr.toList]
  apply (reads_readU16 e (length_digits 2 _)).bind
  exact (reads_readMacAddress b.addr).bind (.pure _)

theorem length_llcMacHdrInit (daddr saddr : MacAddress) (type len : U16) :
    (llcMacHdrInit e daddr saddr type len).length = 14 := by
  simp [llcMacHdrInit]

theorem reads_readType (smac : MacAddress) (type : U8) (data : List U8) :
    ∃ head, bpduPacket e smac ([0, 0, 0, type] ++ data) = head ++ data ∧
      Reads readType head type := by
  refine ⟨llcMacHdrInit e brGroupAddress smac 0x4 (BitVec.ofNat 16 (data.length + 7)) ++
    ([0x42, 0x42, 3] ++ ([0, 0] ++ ([0] ++ [type]))), ?_, ?_⟩
  · simp only [bpduPacket, List.append_assoc]
    rfl
  · apply (reads_readBytes (length_llcMacHdrInit e _ _ _ _)).bind
    apply (reads_readBytes (by rfl)).bind
    apply (reads_readBytes (by rfl)).bind
    apply (reads_readBytes (by rfl)).bind
    exact reads_readU8 type

def unconverted (bpdu : StpBpdu Int32) : StpBpdu Int32 :=
  let word := fun x : U16 ↦ BitVec.ofNat 16 (e.load (digits 2 x.toNat))
  { bpdu with
    rootId.prio := word bpdu.rootId.prio
    bridgeId.prio := word bpdu.bridgeId.prio
    rootPathCost := Int32.ofBitVec
      (BitVec.ofNat 32 (e.load (digits 4 bpdu.rootPathCost.toBitVec.toNat)))
    messageAge := word bpdu.messageAge
    maxAge := word bpdu.maxAge
    helloTime := word bpdu.helloTime
    forwardDelay := word bpdu.forwardDelay
    portId := word bpdu.portId }

theorem reads_readStpBpdu {head : List U8} {type : U8} (h : Reads readType head type)
    (bpdu : StpBpdu Int32) :
    Reads (readStpBpdu e) (head ++ networkConfig bpdu) (unconverted e bpdu) := by
  have hword := fun x : U16 ↦ reads_readU16 e (length_digits 2 x.toNat)
  apply h.bind
  apply (reads_readU8 bpdu.flags).bind
  apply (reads_readBridgeId e bpdu.rootId).bind
  apply (reads_readInt32 e (length_digits 4 bpdu.rootPathCost.toBitVec.toNat)).bind
  apply (reads_readBridgeId e bpdu.bridgeId).bind
  apply (hword bpdu.portId).bind
  apply (hword bpdu.messageAge).bind
  apply (hword bpdu.maxAge).bind
  apply (hword bpdu.helloTime).bind
  rw [← List.append_nil (digits 2 bpdu.forwardDelay.toNat)]
  exact (hword bpdu.forwardDelay).bind (.pure _)

theorem stpDecodeBpdu_unconverted (bpdu : StpBpdu Int32) :
    stpDecodeBpdu e (unconverted e bpdu) = bpdu := by
  simp only [stpDecodeBpdu, unconverted, ntohs_load, Int32.toBitVec_ofBitVec,
    ntohl_load, Int32.ofBitVec_toBitVec]

end Receiver

theorem decode_config (e' : Endian) (smac : MacAddress) (bpdu : StpBpdu Int32) :
    (frames e').decode ((frames e).config smac bpdu) =
      some { bpdu with rootPathCost := conveyedCost e bpdu.rootPathCost } := by
  have hbuf := configBuf_encode e bpdu
  generalize { bpdu with rootPathCost := conveyedCost e bpdu.rootPathCost } = conveyed at hbuf ⊢
  obtain ⟨head, hhead, htype⟩ := reads_readType e smac bpduConfigType (networkConfig conveyed)
  have hread := (reads_readStpBpdu e' htype conveyed).map (stpDecodeBpdu e')
  rw [stpDecodeBpdu_unconverted, ← hhead, ← hbuf] at hread
  exact hread.run

theorem type_packet (smac : MacAddress) (type : U8) (data : List U8) :
    readType.run' (bpduPacket e smac ([0, 0, 0, type] ++ data)) = some type := by
  obtain ⟨head, hhead, htype⟩ := reads_readType e smac type data
  rw [hhead, StateT.run', htype]
  rfl

theorem type_config (e' : Endian) (smac : MacAddress) (bpdu : StpBpdu Int32) :
    (frames e').type ((frames e).config smac bpdu) = some bpduConfigType := by
  have h := type_packet e smac bpduConfigType
    (networkConfig { bpdu with rootPathCost := conveyedCost e bpdu.rootPathCost })
  rwa [← configBuf_encode] at h

end Layer3Switch.Stp
