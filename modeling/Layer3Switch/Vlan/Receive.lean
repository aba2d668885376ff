import Layer3Switch.Bridge.Tasks
import Layer3Switch.Vlan.Isolation

namespace Layer3Switch.Vlan

open Lib Lib.Bytes
open Timers (U32)
open Stp (StpInstance StpBpdu MacAddress IfStatus macAddress frames bpduConfigType bpduTcType)

/-- The header as `process_pkt` reads it. There is no answer where the frame ends before it. -/
def readEtherHdr : Reader Bridge.EtherHdr := do
  let dmac ← Stp.readMacAddress
  let smac ← Stp.readMacAddress
  pure ⟨dmac, smac⟩

inductive Reached
  | config (bpdu : StpBpdu Int32)
  | tcn
  | nothing

/-- The branches of `stp_process_bpdu`. -/
def stpReached (e : Endian) (frame : List U8) : Option Reached := do
  let type ← (frames e).type frame
  if type = bpduConfigType then (frames e).decode frame |>.map .config
  else if type = bpduTcType then some .tcn
  else some .nothing

/-- From `process_pkt` to the branches of `stp_process_bpdu`. -/
def reached (e : Endian) (frame : List U8) : Option Reached := do
  let p ← readEtherHdr.run' frame
  if Bridge.isDestStpGroupAddress e p.dmac then stpReached e frame else some .nothing

variable {τ : Type} (P : Platform Int32 τ (List U8))

/-- What the messages of the queue are for the switch. `bytes` are the contents of the
frame buffers. The length is not used. -/
def work (bytes : ℕ → List U8) (m : Bridge.StpMsg) : SwitchM Int32 τ (List U8) Unit :=
  processMessage P (.ofInt 16 m.vlanid) (.ofInt 16 m.port) <|
    match m.body with
    | .bpdu pkt => .bpdu (bytes pkt)
    | .events event => .link event

/-- The checks of `rstp_process_bpdu`: the LLC header and the protocol id. -/
def HeaderOk (frame : List U8) : Prop :=
  frame[14]? = some 0x42 ∧ frame[15]? = some 0x42 ∧ frame[16]? = some 0x03 ∧
    frame[17]? = some 0 ∧ frame[18]? = some 0

/-- A complete configuration BPDU. -/
def IsConfigBpdu (frame : List U8) : Prop :=
  17 + 35 ≤ frame.length ∧ HeaderOk frame ∧ frame[20]? = some 0x00

/-- A complete topology change notification. -/
def IsTcnBpdu (frame : List U8) : Prop :=
  17 + 4 ≤ frame.length ∧ HeaderOk frame ∧ frame[20]? = some 0x80

/-- A frame is taken for what it is, and not read beyond its end. -/
structure Exact (frame : List U8) (r : Option Reached) : Prop where
  config : (∃ bpdu, r = some (.config bpdu)) ↔ IsConfigBpdu frame
  tcn : r = some .tcn ↔ IsTcnBpdu frame
  inside : r ≠ none

/-- The frames that need none of the checks that the receiver leaves out. -/
def Harmless (frame : List U8) : Prop :=
  17 + 4 ≤ frame.length ∧
    (frame[20]? = some 0x00 → 17 + 35 ≤ frame.length ∧ HeaderOk frame) ∧
    (frame[20]? = some 0x80 → HeaderOk frame)

/-- What the switch does with the frame, on the entry `p` of the instance of `v`. -/
def carryOut (v : U16) (p : ℕ) : Option Reached → SwitchM Int32 τ (List U8) Unit
  | none => throw .stp
  | some (.config bpdu) => onStp (some v) (Stp.stpReceivedConfigBpdu P.host P.wire p bpdu)
  | some .tcn => onStp (some v) (Stp.stpReceivedTcnBpdu P.host P.wire p)
  | some .nothing => pure ()

/-- The port is one of an STP instance, and enabled there, and VLAN 1 runs STP. -/
structure EnabledPort (s : Switch Int32 τ (List U8)) (port v : U16) (br : StpInstance Int32)
    (p : ℕ) : Prop where
  mode : s.vlanGetThisBridgeStpMode 1 = some .stp
  entry : s.stpGetPortEntry port = some (v, p)
  inst : s.stp v = some br
  found : Stp.stpGetPortEntry br port = some p
  on : ∃ q, br.portList[p]? = some q ∧ q.enabled = true ∧ q.state ≠ .disabled

section Bytes

variable {e : Endian} {frame : List U8}

theorem takes_readBridgeId (e : Endian) : Takes (Stp.readBridgeId e) 8 :=
  ((takes_readBytes 2).map _).bind fun _ ↦ ((takes_readBytes 6).map _).bind fun _ ↦ .pure _

theorem takes_readType : Takes Stp.readType 21 :=
  (takes_readBytes 14).bind fun _ ↦ (takes_readBytes 3).bind fun _ ↦
    (takes_readBytes 2).bind fun _ ↦ (takes_readBytes 1).bind fun _ ↦ (takes_readBytes 1).map _

theorem takes_readStpBpdu (e : Endian) : Takes (Stp.readStpBpdu e) 52 := by
  have hword : Takes (Stp.readU16 e) 2 := (takes_readBytes 2).map _
  refine takes_readType.bind fun _ ↦ (((takes_readBytes 1).map _).bind fun _ ↦
    (takes_readBridgeId e).bind fun _ ↦ ((takes_readBytes 4).map _).bind fun _ ↦
    (takes_readBridgeId e).bind fun _ ↦ hword.bind fun _ ↦ hword.bind fun _ ↦
    hword.bind fun _ ↦ hword.bind fun _ ↦ hword.bind fun _ ↦ .pure _ : Takes _ 31)

theorem decode_isSome (e : Endian) (frame : List U8) :
    ((frames e).decode frame).isSome = true ↔ 17 + 35 ≤ frame.length :=
  ((takes_readStpBpdu e).map _).run_isSome frame

theorem reads_readType_of_length {bs : List U8} (h : bs.length = 20) (b : U8) :
    Reads Stp.readType (bs ++ [b]) b := by
  rw [← List.take_append_drop 14 bs, List.append_assoc]
  apply (reads_readBytes (by simp [h])).bind
  rw [← List.take_append_drop 3 (bs.drop 14), List.append_assoc]
  apply (reads_readBytes (by simp [h])).bind
  rw [← List.take_append_drop 2 ((bs.drop 14).drop 3), List.append_assoc]
  apply (reads_readBytes (by simp [h])).bind
  apply (reads_readBytes (by simp [h])).bind
  exact Stp.reads_readU8 b

theorem type_eq (e : Endian) (frame : List U8) : (frames e).type frame = frame[20]? := by
  by_cases hlen : 21 ≤ frame.length
  · have hsplit : frame = (frame.take 20 ++ [frame[20]]) ++ frame.drop 21 := by
      rw [List.append_assoc, List.singleton_append, List.getElem_cons_drop, List.take_append_drop]
    have hhead : (frame.take 20).length = 20 := by
      rw [List.length_take]
      omega
    have hread := reads_readType_of_length hhead frame[20]
    have hrun : Stp.readType frame = some (frame[20], frame.drop 21) := by
      conv_lhs => rw [hsplit]
      exact hread _
    rw [List.getElem?_eq_getElem hlen]
    change (Stp.readType frame).map Prod.fst = _
    rw [hrun]
    rfl
  · rw [List.getElem?_eq_none (by omega)]
    have hnone := mt (takes_readType.run_isSome frame).mp hlen
    exact Option.not_isSome_iff_eq_none.mp hnone

theorem takes_readEtherHdr : Takes readEtherHdr 12 :=
  ((takes_readBytes 6).map _).bind fun _ ↦ ((takes_readBytes 6).map _).bind fun _ ↦ .pure _

theorem readEtherHdr_group (hgroup : frame.take 6 = Stp.brGroupAddress.toList)
    {p : Bridge.EtherHdr} (hp : readEtherHdr.run' frame = some p) :
    Bridge.isDestStpGroupAddress e p.dmac = true := by
  have hsplit : frame = Stp.brGroupAddress.toList ++ frame.drop 6 := by
    rw [← hgroup, List.take_append_drop]
  have hdmac : p.dmac = Stp.brGroupAddress := by
    change (readEtherHdr frame).map Prod.fst = some p at hp
    have hread : readEtherHdr frame = ((Stp.readMacAddress (frame.drop 6)).bind fun x ↦
        some (⟨Stp.brGroupAddress, x.1⟩, x.2)) := by
      have hbind : ∀ bs, readEtherHdr bs = (Stp.readMacAddress bs).bind fun x ↦
          (Stp.readMacAddress x.2).bind fun y ↦ some (⟨x.1, y.1⟩, y.2) := fun _ ↦ rfl
      rw [hbind]
      conv_lhs => rw [hsplit]
      rw [Stp.reads_readMacAddress]
      rfl
    rw [hread] at hp
    obtain ⟨x, hx, rfl⟩ := Option.map_eq_some_iff.mp hp
    obtain ⟨y, -, hy⟩ := Option.bind_eq_some_iff.mp hx
    obtain rfl := Option.some.inj hy
    rfl
  rw [Bridge.isDestStpGroupAddress, decide_eq_true_eq, Bridge.compareEtherAddr_eq_zero]
  exact hdmac

theorem reached_group (hgroup : frame.take 6 = Stp.brGroupAddress.toList)
    (hlen : 12 ≤ frame.length) : reached e frame = stpReached e frame := by
  obtain ⟨p, hp⟩ := Option.isSome_iff_exists.mp ((takes_readEtherHdr.run_isSome frame).mpr hlen)
  have hp : readEtherHdr.run' frame = some p := hp
  rw [reached, hp]
  exact if_pos (readEtherHdr_group hgroup hp)

theorem exact_reached_iff (hgroup : frame.take 6 = Stp.brGroupAddress.toList) :
    Exact frame (reached e frame) ↔ Harmless frame := by
  by_cases hlen : 17 + 4 ≤ frame.length
  · have hreached := reached_group (e := e) hgroup (by omega)
    obtain ⟨type, hbyte⟩ : ∃ type, frame[20]? = some type :=
      ⟨frame[20], List.getElem?_eq_getElem _⟩
    have hother : ∀ x, x ≠ type → frame[20]? ≠ some x :=
      fun x hx hat ↦ hx (Option.some.inj (hat.symm.trans hbyte))
    have hcases : stpReached e frame = if type = bpduConfigType then
        ((frames e).decode frame).map .config
        else if type = bpduTcType then some .tcn else some .nothing := by
      rw [stpReached, type_eq, hbyte]
      rfl
    rw [hreached, hcases]
    by_cases hconfig : type = bpduConfigType
    · subst hconfig
      have hnot := hother 0x80 (by decide)
      rw [if_pos rfl]
      by_cases hfull : 17 + 35 ≤ frame.length
      · obtain ⟨bpdu, hbpdu⟩ := Option.isSome_iff_exists.mp ((decode_isSome e frame).mpr hfull)
        rw [hbpdu]
        refine ⟨fun h ↦ ⟨hlen, fun _ ↦ ⟨hfull, ?_⟩, fun h' ↦ absurd h' hnot⟩, fun h ↦
          ⟨?_, ?_, nofun⟩⟩
        · exact (h.config.mp ⟨bpdu, rfl⟩).2.1
        · exact iff_of_true ⟨bpdu, rfl⟩ ⟨hfull, (h.2.1 hbyte).2, hbyte⟩
        · exact iff_of_false nofun fun h' ↦ hnot h'.2.2
      · have hnone : (frames e).decode frame = none :=
          Option.not_isSome_iff_eq_none.mp (mt (decode_isSome e frame).mp hfull)
        rw [hnone]
        exact iff_of_false (fun h ↦ h.inside rfl) fun h ↦ hfull (h.2.1 hbyte).1
    · rw [if_neg hconfig]
      have hnot := hother 0x00 (Ne.symm hconfig)
      by_cases htcn : type = bpduTcType
      · subst htcn
        rw [if_pos rfl]
        refine ⟨fun h ↦ ⟨hlen, fun h' ↦ absurd h' hnot, fun _ ↦ ?_⟩, fun h ↦ ⟨?_, ?_, nofun⟩⟩
        · exact (h.tcn.mp rfl).2.1
        · exact iff_of_false (fun ⟨_, h'⟩ ↦ by cases h') fun h' ↦ hnot h'.2.2
        · exact iff_of_true rfl ⟨hlen, h.2.2 hbyte, hbyte⟩
      · rw [if_neg htcn]
        have hnot' := hother 0x80 (Ne.symm htcn)
        refine iff_of_true ⟨?_, ?_, nofun⟩
          ⟨hlen, fun h' ↦ absurd h' hnot, fun h' ↦ absurd h' hnot'⟩
        · exact iff_of_false (fun ⟨_, h'⟩ ↦ by cases h') fun h' ↦ hnot h'.2.2
        · exact iff_of_false nofun fun h' ↦ hnot' h'.2.2
  · have hnone : reached e frame = none := by
      by_cases hhdr : 12 ≤ frame.length
      · have htype : (frames e).type frame = none := by
          rw [type_eq, List.getElem?_eq_none (by omega)]
        rw [reached_group hgroup hhdr, stpReached, htype]
        rfl
      · have hshort : readEtherHdr.run' frame = none :=
          Option.not_isSome_iff_eq_none.mp (mt (takes_readEtherHdr.run_isSome frame).mp hhdr)
        rw [reached, hshort]
        rfl
    rw [hnone]
    exact iff_of_false (fun h ↦ h.inside rfl) fun h ↦ hlen h.1

end Bytes

section Path

variable {P} {s : Switch Int32 τ (List U8)} {port v : U16} {br : StpInstance Int32} {p : ℕ}

theorem stpProcessBpdu_reached {H : Stp.Host τ} {w : Stp.World Int32 τ (List U8)} {e : Endian}
    {q : Stp.StpPortEntry Int32} (hp : Stp.stpGetPortEntry w.br port = some p)
    (hq : w.br.portList[p]? = some q) (hon : q.enabled = true) (hlive : q.state ≠ .disabled)
    (frame : List U8) :
    Stp.stpProcessBpdu H (frames e) port frame w = (stpReached e frame).bind fun
      | .config bpdu => (Stp.stpReceivedConfigBpdu H (frames e) p bpdu w).map fun x ↦
          ((0 : Int), x.2)
      | .tcn => (Stp.stpReceivedTcnBpdu H (frames e) p w).map fun x ↦ (0, x.2)
      | .nothing => some (0, w) := by
  have hbridge : ∀ f : StpInstance Int32 → Stp.StpM Int32 τ (List U8) Int,
      (Stp.bridge >>= f) w = f w.br w := fun _ ↦ rfl
  have hport : ∀ f : Stp.StpPortEntry Int32 → Stp.StpM Int32 τ (List U8) Int,
      (Stp.port p >>= f) w = f q w := by
    intro f
    change ((w.br.portList[p]?.map fun q ↦ (q, w)).bind fun x ↦ f x.1 x.2) = _
    rw [hq]
    rfl
  have hderef : ∀ {α : Type} (x : Option α) (f : α → Stp.StpM Int32 τ (List U8) Int),
      (Stp.deref x >>= f) w = x.bind fun a ↦ f a w := by
    intro α x f
    cases x <;> rfl
  have hpure : ∀ m : Stp.StpM Int32 τ (List U8) Unit,
      (do m; pure 0) w = (m w).map fun x ↦ ((0 : Int), x.2) := by
    intro m
    change ((m w).bind fun x ↦ some ((0 : Int), x.2)) = _
    cases m w <;> rfl
  have hoff : ¬(!q.enabled || decide (q.state = .disabled)) = true := by simp [hon, hlive]
  rw [Stp.stpProcessBpdu, hbridge, hp]
  dsimp only
  rw [hport, if_neg hoff, stpReached, hderef]
  cases (frames e).type frame with
  | none => rfl
  | some type =>
    change (if type = bpduConfigType then _ else _ : Stp.StpM Int32 τ (List U8) Int) w =
      (if type = bpduConfigType then _ else _ : Option Reached).bind _
    by_cases hconfig : type = bpduConfigType
    · rw [if_pos hconfig, if_pos hconfig]
      change (Stp.deref ((frames e).decode frame) >>= fun bpdu ↦ do
        Stp.stpReceivedConfigBpdu H (frames e) p bpdu; pure 0) w = _
      rw [hderef]
      cases (frames e).decode frame with
      | none => rfl
      | some bpdu => exact hpure _
    · rw [if_neg hconfig, if_neg hconfig]
      by_cases htcn : type = bpduTcType
      · rw [if_pos htcn, if_pos htcn]
        exact hpure _
      · rw [if_neg htcn, if_neg htcn]
        rfl

theorem work_eq (h : EnabledPort s port v br p) (hwire : P.wire = frames P.host.endian)
    (bytes : ℕ → List U8) (n : ℕ) (len : ℤ) :
    work P bytes ⟨.bpdu n, port.toNat, 1, len⟩ s =
      carryOut P v p (stpReached P.host.endian (bytes n)) s := by
  obtain ⟨hmode, hentry, hinst, hfound, q, hq, hon, hlive⟩ := h
  have hput : s.putStp v (s.world br) = s := by
    rw [Switch.putStp]
    change { s with stpInstanceHead := update _ s.stpInstanceHead v br } = s
    rw [update_lookup hinst]
  have hworld := stpProcessBpdu_reached (H := P.host) (w := s.world br) (e := P.host.endian)
    hfound hq hon hlive (bytes n)
  have hget : ∀ {α : Type} (f : Switch Int32 τ (List U8) → SwitchM Int32 τ (List U8) α),
      (get >>= f) s = f s s := fun _ ↦ rfl
  have hprocess : processBpdu P (bytes n) port 1 s =
      (onStp (some v) (Stp.stpProcessBpdu P.host P.wire port (bytes n)) s).bind
        fun x ↦ .ok (0, x.2) := by
    rw [processBpdu, hget, hmode]
    change (stpProcessBpdu P port (bytes n) s).bind _ = _
    rw [stpProcessBpdu, hget, hentry]
    rfl
  have hport : BitVec.ofInt 16 ((port.toNat : ℕ) : ℤ) = port := by
    rw [BitVec.ofInt_natCast, BitVec.ofNat_toNat, BitVec.setWidth_eq]
  simp only [work, hport]
  change (processBpdu P (bytes n) port 1 s).bind (fun x ↦ .ok ((), x.2)) = _
  rw [hprocess, hwire]
  simp only [onStp, hinst]
  rw [hworld]
  cases stpReached P.host.endian (bytes n) with
  | none => rfl
  | some r =>
    cases r with
    | config bpdu =>
      simp only [Option.bind_some, carryOut, onStp, hinst, hwire]
      cases Stp.stpReceivedConfigBpdu P.host (frames P.host.endian) p bpdu (s.world br) <;> rfl
    | tcn =>
      simp only [Option.bind_some, carryOut, onStp, hinst, hwire]
      cases Stp.stpReceivedTcnBpdu P.host (frames P.host.endian) p (s.world br) <;> rfl
    | nothing =>
      change Except.ok ((), s.putStp v (s.world br)) = Except.ok ((), s)
      rw [hput]

end Path

open Bridge (Tasks TaskStep) in
/-- A frame for the group address is taken for what it is just when it needs none of the
checks that the receiver leaves out. In a run in which the calls on the pool of messages
do not overlap and no message is dropped, a frame that comes in on a port that is up
reaches the manager in one message. What the manager then does to the switch, in whatever
state with the port enabled, is what the frame is taken for. -/
theorem stp_receiver_exact_iff {P : Platform Int32 τ (List U8)} (fdbSalt : U32)
    (hwire : P.wire = frames P.host.endian) (frame : List U8)
    (hgroup : frame.take 6 = Stp.brGroupAddress.toList) :
    (Exact frame (reached P.host.endian frame) ↔ Harmless frame) ∧
    ∀ hdr port t t' t'' (after : List TaskStep), readEtherHdr.run' frame = some hdr →
      Tasks.Arrives P.host.endian fdbSalt hdr frame.length port t t' →
      Run (Tasks.step P.host.endian fdbSalt) (Tasks.Orderly P.host.endian) t' after t'' →
      (∀ m ∈ Tasks.worked P.host.endian fdbSalt t' after, m.body = .bpdu t.rx.given →
        ∀ bytes s v br p, bytes t.rx.given = frame → EnabledPort s port v br p →
          work P bytes m s = carryOut P v p (reached P.host.endian frame) s) ∧
      (t''.AtRest → t''.rx.queue.messages = [] → t''.mgr = .waiting →
        (Tasks.worked P.host.endian fdbSalt t' after).countP
          (fun m ↦ m.body = .bpdu t.rx.given) = 1) := by
  refine ⟨exact_reached_iff hgroup, ?_⟩
  intro hdr port t t' t'' after hhdr harrives hrun
  obtain ⟨hmessage, honce⟩ := harrives.worked hrun
  refine ⟨?_, honce⟩
  intro m hm hbody bytes s v br p hbytes henabled
  have hlen : 12 ≤ frame.length := by
    refine (takes_readEtherHdr.run_isSome frame).mp ?_
    rw [hhdr]
    rfl
  rw [hmessage m hm hbody, work_eq henabled hwire, hbytes, reached_group hgroup hlen]

instance (frame : List U8) : Decidable (HeaderOk frame) :=
  inferInstanceAs (Decidable (_ ∧ _ ∧ _ ∧ _ ∧ _))

instance (frame : List U8) : Decidable (IsConfigBpdu frame) :=
  inferInstanceAs (Decidable (_ ∧ _ ∧ _))

instance (frame : List U8) : Decidable (IsTcnBpdu frame) :=
  inferInstanceAs (Decidable (_ ∧ _ ∧ _))

instance (frame : List U8) : Decidable (Harmless frame) :=
  inferInstanceAs (Decidable (_ ∧ (_ → _) ∧ (_ → _)))

def helloFrame : List U8 := (frames .little).config (macAddress 0 0 0 0 0 1) Stp.rootHello

def tcnFrame : List U8 := (frames .little).tcn (macAddress 0 0 0 0 0 1)

def Reached.isConfig : Reached → Bool
  | .config _ => true
  | _ => false

def Reached.isTcn : Reached → Bool
  | .tcn => true
  | _ => false

/-- The hello is accepted with another DSAP, and read beyond its end without its
last byte. A notification is accepted with another protocol id. -/
theorem stp_receiver_accepts_malformed :
    (∃ bpdu, reached .little (helloFrame.set 14 0xaa) = some (.config bpdu)) ∧
    ¬IsConfigBpdu (helloFrame.set 14 0xaa) ∧
    reached .little (helloFrame.take 51) = none ∧
    ∃ frame, reached .little frame = some .tcn ∧ ¬IsTcnBpdu frame := by
  have hconfig : (reached .little (helloFrame.set 14 0xaa)).any Reached.isConfig = true := by
    decide +kernel
  have hshort : (reached .little (helloFrame.take 51)).isNone = true := by
    decide +kernel
  have htcn : (reached .little (tcnFrame.set 17 1)).any Reached.isTcn = true := by
    decide +kernel
  obtain ⟨r, hr, his⟩ := (Option.any_eq_true _ _).mp hconfig
  obtain ⟨r', hr', his'⟩ := (Option.any_eq_true _ _).mp htcn
  refine ⟨?_, by decide +kernel, Option.isNone_iff_eq_none.mp hshort, tcnFrame.set 17 1, ?_,
    by decide +kernel⟩
  · cases r with
    | config bpdu => exact ⟨bpdu, hr⟩
    | tcn | nothing => cases his
  · cases r' with
    | tcn => exact hr'
    | config _ | nothing => cases his'

open Bridge (Tasks) in
/-- The port of the first VLAN comes up and hears a hello. -/
theorem stp_receiver_exact_hello :
    ∃ (s : Switch Int32 _ (List U8)) (br : StpInstance Int32) (m : Bridge.StpMsg),
      Run (feed plainPlatform) (fun _ _ ↦ True) plainBoot
        (sharedPort ++ [.message 1 1 (.link .up)]) s ∧ EnabledPort s 1 1 br 0 ∧
      Exact helloFrame (reached .little helloFrame) ∧ m.body = .bpdu 0 ∧
      work plainPlatform (fun _ ↦ helloFrame) m s =
        carryOut plainPlatform 1 0 (reached .little helloFrame) s := by
  have hcheck : ((exec (feed plainPlatform) plainBoot
      (sharedPort ++ [.message 1 1 (.link .up)])).any fun s ↦ (s.stp 1).any fun br ↦
        (br.portList[0]?).any fun q ↦ decide (
          s.vlanGetThisBridgeStpMode 1 = some .stp ∧ s.stpGetPortEntry 1 = some (1, 0) ∧
          Stp.stpGetPortEntry br 1 = some 0 ∧ q.enabled = true ∧ q.state ≠ .disabled)) = true := by
    decide +kernel
  simp only [Option.any_eq_true, decide_eq_true_eq] at hcheck
  obtain ⟨s, hexec, br, hbr, q, hq, hmode, hentry, hfound, hon, hlive⟩ := hcheck
  have henabled : EnabledPort s 1 1 br 0 := ⟨hmode, hentry, hbr, hfound, q, hq, hon, hlive⟩
  -- the manager has worked on the port event when the hello comes in
  let step := fun t ev ↦ if Tasks.Orderly .little t ev then Tasks.step .little 7 t ev else none
  let hdr : Bridge.EtherHdr := ⟨Stp.brGroupAddress, macAddress 0 0 0 0 0 1⟩
  let event : Bridge.TaskStep := .frame true 5 hdr helloFrame.length 1
  let after := Bridge.TaskStep.allocates .driver 0 ++ [.send .driver, .rcv, .work] ++
    List.replicate 6 .free
  obtain ⟨t, hbefore, t', hstep, t'', hafter, hgiven, halone, hoper, hadmin, hrest,
    hempty, hwaiting⟩ :
      ∃ t, exec step (.start .boot) (Bridge.linkUp 1) = some t ∧
      ∃ t', t.step .little 7 event = some t' ∧ ∃ t'', exec step t' after = some t'' ∧
      t.rx.given = 0 ∧ t.Alone .little event ∧ t.rx.oper 1 ≠ .down ∧ t.rx.admin 1 ≠ .down ∧
      t''.AtRest ∧ t''.rx.queue.messages = [] ∧ t''.mgr = .waiting := by
    decide +kernel
  obtain ⟨hiff, hpath⟩ := stp_receiver_exact_iff (P := plainPlatform) 7 rfl helloFrame
    (by decide +kernel)
  obtain ⟨hworks, honce⟩ := hpath hdr 1 t t' t'' after (by decide +kernel)
    ⟨⟨_, _, _, _, _, by decide, by decide, (run_of_exec hbefore).guarded⟩, ⟨true, 5, halone, hstep⟩,
      hoper, hadmin, by decide +kernel⟩ (run_of_exec hafter).guarded
  have hone := honce hrest hempty hwaiting
  obtain ⟨m, hm, hbody⟩ := List.countP_pos_iff.mp (Nat.lt_of_lt_of_eq Nat.zero_lt_one hone.symm)
  rw [decide_eq_true_eq] at hbody
  exact ⟨s, br, m, run_of_exec hexec, henabled, hiff.mpr (by decide +kernel), hgiven ▸ hbody,
    hworks m hm hbody _ s 1 br 0 rfl henabled⟩

end Layer3Switch.Vlan
