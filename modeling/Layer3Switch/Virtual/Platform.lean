import Layer3Switch.Mem.Pool
import Layer3Switch.Lib.Bytes
import Layer3Switch.Stp.World
import Mathlib.Data.List.GetD

namespace Layer3Switch.Virtual

open Lib Lib.Bytes Mem Timers
open Stp (maxPorts)

def maxMtu : ℕ := 1500
def ethFrameLen : ℕ := 1514

def sizeofInst : ℕ := 2

def sendPacket (tmInst : U32) (port : U16) (buf : List U8) : Option (List U8) :=
  if sizeofInst + buf.length ≤ maxMtu then some ([tmInst.setWidth 8, port.setWidth 8] ++ buf)
  else none

/-- What `packet_processing_task` keeps: its buffer, of which `maxMtu` bytes are its
own, and its count of failed allocations. -/
structure Receiver where
  buf : ℕ → U8
  retry : ℕ
  cpuPktCount : U32

inductive Verdict where
  | overflow
  | dropped
  | outOfMemory (size : ℕ)
  | exit (size : ℕ)
  | processed (pkt : List U8) (len : ℤ) (port : U8)

def packetProcessingTask (tmInst : U32) (granted : Bool) (s : Receiver) (datagram : List U8) :
    Verdict × Receiver :=
  let datagram := datagram.take ethFrameLen
  let len := datagram.length
  if maxMtu < len then (.overflow, s)
  else
    -- bytes that the datagram does not have are those of the one before
    let buf := fun i ↦ datagram.getD i (s.buf i)
    if (buf 0).setWidth 32 ≠ tmInst then (.dropped, { s with buf := buf })
    else
      let size := (((len : ℤ) - sizeofInst) % 2 ^ 64).toNat
      if granted = false ∨ 2 ^ 63 ≤ size then
        (if s.retry + 1 = 3 then .exit size else .outOfMemory size,
          { s with buf := buf, retry := s.retry + 1 })
      else
        (.processed ((List.range size).map fun i ↦ buf (i + sizeofInst)) (int size) (buf 1),
          { s with buf := buf, cpuPktCount := s.cpuPktCount + 1 })

def Faithful (datagram : List U8) : Verdict → Prop
  | .overflow => False
  | .dropped => True
  | .outOfMemory _ => True
  | .exit size => size ≤ ethFrameLen
  | .processed pkt len port => sizeofInst ≤ datagram.length ∧ pkt = datagram.drop sizeofInst ∧
      len = datagram.length - sizeofInst ∧ 1 ≤ port.toNat ∧ port.toNat ≤ maxPorts

def WellFramed (tmInst : U32) (granted : Bool) (s : Receiver) (datagram : List U8) : Prop :=
  datagram.length ≤ maxMtu ∧
    ((datagram.getD 0 (s.buf 0)).setWidth 32 = tmInst →
      if sizeofInst ≤ datagram.length then
        granted = true → 1 ≤ (datagram.getD 1 0).toNat ∧ (datagram.getD 1 0).toNat ≤ maxPorts
      else s.retry ≠ 2)

variable {tmInst : U32} {granted : Bool} {s : Receiver} {datagram : List U8}

theorem take_ethFrameLen (h : datagram.length ≤ maxMtu) : datagram.take ethFrameLen = datagram := by
  apply List.take_of_length_le
  unfold maxMtu at h
  unfold ethFrameLen
  omega

theorem payload_eq (buf : ℕ → U8) : ((List.range (datagram.length - sizeofInst)).map fun i ↦
    datagram.getD (i + sizeofInst) (buf (i + sizeofInst))) = datagram.drop sizeofInst := by
  apply List.ext_getElem
  · rw [List.length_map, List.length_range, List.length_drop]
  · intro i hi hi'
    rw [List.length_drop] at hi'
    have hlt : i + sizeofInst < datagram.length := by omega
    rw [List.getElem_map, List.getElem_range, List.getElem_drop,
      List.getD_eq_getElem _ _ hlt]
    congr 1
    omega

theorem packetProcessingTask_other (hmtu : datagram.length ≤ maxMtu)
    (hinst : (datagram.getD 0 (s.buf 0)).setWidth 32 ≠ tmInst) :
    (packetProcessingTask tmInst granted s datagram).1 = .dropped := by
  simp only [packetProcessingTask, take_ethFrameLen hmtu, if_neg (not_lt.mpr hmtu), if_pos hinst]

theorem packetProcessingTask_framed (hmtu : datagram.length ≤ maxMtu)
    (hlen : sizeofInst ≤ datagram.length)
      (hinst : (datagram.getD 0 (s.buf 0)).setWidth 32 = tmInst) :
    (packetProcessingTask tmInst granted s datagram).1 =
      if granted = true then
        .processed (datagram.drop sizeofInst) (datagram.length - sizeofInst) (datagram.getD 1 0)
      else if s.retry + 1 = 3 then .exit (datagram.length - sizeofInst)
      else .outOfMemory (datagram.length - sizeofInst) := by
  have hsize : (((datagram.length : ℤ) - sizeofInst) % 2 ^ 64).toNat =
      datagram.length - sizeofInst := by
    unfold maxMtu at hmtu
    omega
  have hint : int ((datagram.length - sizeofInst : ℕ) : ℤ) = datagram.length - sizeofInst := by
    unfold maxMtu at hmtu
    rw [int_eq (by omega) (by omega)]
    omega
  have hsmall : ¬(2 ^ 63 ≤ datagram.length - sizeofInst) := by
    unfold maxMtu at hmtu
    omega
  have hport : ∀ b, datagram.getD 1 b = datagram.getD 1 0 := by
    intro b
    unfold sizeofInst at hlen
    rw [List.getD_eq_getElem _ _ hlen, List.getD_eq_getElem _ _ hlen]
  simp only [packetProcessingTask, take_ethFrameLen hmtu, if_neg (not_lt.mpr hmtu), hinst, ne_eq,
    not_true_eq_false, if_false, hsize, hsmall, or_false, hint, payload_eq, hport]
  cases granted <;> rfl

theorem packetProcessingTask_short (granted : Bool) (hlen : datagram.length < sizeofInst)
    (hinst : (datagram.getD 0 (s.buf 0)).setWidth 32 = tmInst) :
    ∃ size, 2 ^ 63 ≤ size ∧ (packetProcessingTask tmInst granted s datagram).1 =
      if s.retry + 1 = 3 then .exit size else .outOfMemory size := by
  have hmtu : datagram.length ≤ maxMtu := by
    unfold sizeofInst at hlen
    unfold maxMtu
    omega
  have hsize : 2 ^ 63 ≤ (((datagram.length : ℤ) - sizeofInst) % 2 ^ 64).toNat := by
    unfold sizeofInst at *
    omega
  refine ⟨_, hsize, ?_⟩
  simp only [packetProcessingTask, take_ethFrameLen hmtu, if_neg (not_lt.mpr hmtu), hinst, ne_eq,
    not_true_eq_false, if_false, hsize, or_true, if_true]

theorem faithful_iff :
    Faithful datagram (packetProcessingTask tmInst granted s datagram).1 ↔
      WellFramed tmInst granted s datagram := by
  by_cases hmtu : datagram.length ≤ maxMtu
  · rw [WellFramed, and_iff_right hmtu]
    by_cases hinst : (datagram.getD 0 (s.buf 0)).setWidth 32 = tmInst
    · rw [forall_prop_of_true hinst]
      by_cases hlen : sizeofInst ≤ datagram.length
      · rw [packetProcessingTask_framed hmtu hlen hinst, if_pos hlen]
        cases granted with
        | true =>
          simp only [if_true, Faithful, hlen, true_and, true_implies]
        | false =>
          refine iff_of_true ?_ nofun
          rw [if_neg Bool.false_ne_true]
          by_cases hretry : s.retry + 1 = 3
          · rw [if_pos hretry]
            unfold Faithful maxMtu ethFrameLen at *
            omega
          · rw [if_neg hretry]
            trivial
      · obtain ⟨size, hsize, hverdict⟩ :=
          packetProcessingTask_short granted (not_le.mp hlen) hinst
        rw [hverdict, if_neg hlen]
        by_cases hretry : s.retry + 1 = 3
        · rw [if_pos hretry]
          unfold Faithful ethFrameLen
          omega
        · rw [if_neg hretry]
          exact iff_of_true trivial (by omega)
    · refine iff_of_true ?_ fun h ↦ absurd h hinst
      rw [packetProcessingTask_other hmtu hinst]
      trivial
  · refine iff_of_false ?_ fun h ↦ hmtu h.1
    have hover : maxMtu < (datagram.take ethFrameLen).length := by
      rw [List.length_take]
      unfold maxMtu ethFrameLen at *
      omega
    simp only [packetProcessingTask, if_pos hover]
    exact id

theorem sendPacket_iff {port : U16} {frame : List U8} :
    (∃ d, sendPacket tmInst port frame = some d ∧
      (packetProcessingTask tmInst true s d).1 =
        .processed frame frame.length (port.setWidth 8)) ↔
      sizeofInst + frame.length ≤ maxMtu ∧ tmInst.toNat < 256 := by
  have hinst : ((tmInst.setWidth 8).setWidth 32 = tmInst) ↔ tmInst.toNat < 256 := by
    constructor
    · intro h
      rw [← h]
      simp only [BitVec.toNat_setWidth]
      omega
    · intro h
      apply BitVec.eq_of_toNat_eq
      simp only [BitVec.toNat_setWidth]
      omega
  constructor
  · rintro ⟨d, hsend, hprocessed⟩
    obtain ⟨hmtu, hd⟩ := Option.ite_none_right_eq_some.mp hsend
    obtain rfl := Option.some.inj hd
    refine ⟨hmtu, hinst.mp ?_⟩
    by_contra hne
    have hlen : ([tmInst.setWidth 8, port.setWidth 8] ++ frame).length ≤ maxMtu := by
      rw [List.length_append]
      exact hmtu
    rw [packetProcessingTask_other hlen hne] at hprocessed
    cases hprocessed
  · rintro ⟨hmtu, hsmall⟩
    refine ⟨_, if_pos hmtu, ?_⟩
    have hlen : ([tmInst.setWidth 8, port.setWidth 8] ++ frame).length ≤ maxMtu := by
      rw [List.length_append]
      exact hmtu
    have hlen' : sizeofInst ≤ ([tmInst.setWidth 8, port.setWidth 8] ++ frame).length := by
      rw [List.length_append]
      exact Nat.le_add_right 2 _
    rw [packetProcessingTask_framed hlen hlen' (hinst.mpr hsmall), if_pos rfl]
    have hframe : (([tmInst.setWidth 8, port.setWidth 8] ++ frame).length : ℤ) - sizeofInst =
        frame.length := by
      rw [List.length_append]
      simp [sizeofInst]
    rw [hframe]
    rfl

/-- A frame arrives as it was sent just when it fits the buffer with its header and
the instance has a number of one byte; and what a datagram may lead to, it leads to
only where it is well framed. -/
theorem platform_framing_iff (tmInst : U32) (port : U16) (frame datagram : List U8)
    (granted : Bool) (s : Receiver) :
    ((∃ d, sendPacket tmInst port frame = some d ∧
      (packetProcessingTask tmInst true s d).1 =
        .processed frame frame.length (port.setWidth 8)) ↔
      sizeofInst + frame.length ≤ maxMtu ∧ tmInst.toNat < 256) ∧
    (Faithful datagram (packetProcessingTask tmInst granted s datagram).1 ↔
      WellFramed tmInst granted s datagram) := ⟨sendPacket_iff, faithful_iff⟩

/-- A frame of 1500 bytes leaves the buffer, a datagram of 1501 bytes as well. A
datagram for port 13 is processed, and the third one without a byte ends the switch. -/
theorem platform_framing_breaks :
    sendPacket 1 1 (List.replicate 1500 0) = none ∧
    (packetProcessingTask 1 true ⟨fun _ ↦ 0, 0, 0⟩ (List.replicate 1501 0)).1 = .overflow ∧
    (packetProcessingTask 1 true ⟨fun _ ↦ 0, 0, 0⟩ [1, 13, 7]).1 = .processed [7] 1 13 ∧
    (packetProcessingTask 1 true ⟨fun _ ↦ 1, 2, 0⟩ []).1 = .exit (2 ^ 64 - 2) := by
  refine ⟨?_, ?_, rfl, rfl⟩
  · rw [sendPacket, List.length_replicate]
    rfl
  · simp only [packetProcessingTask, List.take_replicate, List.length_replicate]
    rfl

end Layer3Switch.Virtual
