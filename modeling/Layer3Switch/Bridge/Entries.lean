import Layer3Switch.Bridge.Frames
import Layer3Switch.Lib.Run

namespace Layer3Switch.Bridge

open Lib Lib.Bytes Mem Timers Stp

variable {e : Endian} {fdbSalt : U32} {s s' : Fdb} {lost : List ℤ} {mac : MacAddress} {x : FdbT}

inductive FdbOp where
  | add (mac : MacAddress) (portno : ℤ) (isStatic : Bool) (secs : U32)
  | update (allowed : Bool) (mac : MacAddress) (port : ℤ) (secs : U32)
  | age (secs : MacAddress → U32)

def FdbOp.isAdd : FdbOp → Bool
  | .add _ _ _ _ => true
  | _ => false

def Fdb.operate (e : Endian) (fdbSalt : U32) (s : Fdb) : FdbOp → Option Fdb
  | .add mac portno isStatic secs => some (fdbAddEntry e fdbSalt s mac portno isStatic secs).2
  | .update allowed mac port secs => some (macAddressUpdate e fdbSalt allowed s mac port secs).2
  | .age secs => agingTimerExpired e fdbSalt secs s

def FdbOp.Spares (mac : MacAddress) (x : FdbT) : FdbOp → Prop
  | .age secs => secs mac < x.expiry
  | _ => True

theorem Stocked.operate (h : Stocked e fdbSalt s lost) (op : FdbOp) :
    ∃ s' lost', s.operate e fdbSalt op = some s' ∧ Stocked e fdbSalt s' lost' := by
  cases op with
  | add mac portno isStatic secs =>
    obtain ⟨_, s', lost', hcall, -, hbecomes, -⟩ := h.fdbAddEntry mac portno isStatic secs
    exact ⟨s', lost', by rw [Fdb.operate, hcall], hbecomes.stocked⟩
  | update allowed mac port secs =>
    cases allowed with
    | false => exact ⟨s, lost, rfl, h⟩
    | true => exact ⟨_, lost, rfl, (h.update mac port secs).1.stocked⟩
  | age secs =>
    obtain ⟨s', hage, hbecomes⟩ := h.age secs
    exact ⟨s', lost, hage, hbecomes.stocked⟩

theorem Stocked.exec (h : Stocked e fdbSalt s lost) (ops : List FdbOp) :
    ∃ s' lost', exec (Fdb.operate e fdbSalt) s ops = some s' ∧ Stocked e fdbSalt s' lost' := by
  induction ops generalizing s lost with
  | nil => exact ⟨s, lost, rfl, h⟩
  | cons op ops ih =>
    obtain ⟨s₁, lost₁, hop, h₁⟩ := h.operate op
    obtain ⟨s₂, lost₂, hexec, h₂⟩ := ih h₁
    refine ⟨s₂, lost₂, ?_, h₂⟩
    rw [Lib.exec, hop]
    exact hexec

theorem Records.update_static (r : Records) (room : Bool) (port : ℤ) (expiry : U32)
    (mac' : MacAddress) (hstatic : x.isStatic = true) :
    r.update room mac' port expiry mac = some x ↔ r mac = some x := by
  by_cases heq : mac = mac'
  · subst heq
    cases hy : r mac with
    | none =>
      cases room with
      | false => simp [update, hy]
      | true =>
        simp only [update, hy, if_true, Function.update_self, Option.some.injEq, reduceCtorEq,
          iff_false]
        rintro rfl
        cases hstatic
    | some y =>
      cases hys : y.isStatic with
      | true => simp [update, hy, hys]
      | false =>
        simp only [update, hy, hys, Bool.false_eq_true, if_false, Function.update_self,
          Option.some.injEq]
        refine iff_of_false ?_ ?_
        · rintro rfl
          cases hstatic
        · rintro rfl
          rw [hys] at hstatic
          cases hstatic
  · cases hy : r mac' with
    | none => cases room <;> simp [update, hy, Function.update_of_ne heq]
    | some y => cases hys : y.isStatic <;> simp [update, hy, hys, Function.update_of_ne heq]

theorem Stocked.static_step {op : FdbOp} (h : Stocked e fdbSalt s lost) (hadd : op.isAdd = false)
    (hop : s.operate e fdbSalt op = some s') (hstatic : x.isStatic = true) :
    s'.record e fdbSalt mac = some x ↔ s.record e fdbSalt mac = some x ∧ op.Spares mac x := by
  cases op with
  | add mac portno isStatic secs => cases hadd
  | update allowed mac' port secs =>
    obtain rfl := Option.some.inj hop
    cases allowed with
    | false => exact (and_iff_left trivial).symm
    | true =>
      rw [(h.update mac' port secs).1.record, Records.update_static _ _ _ _ _ hstatic]
      exact (and_iff_left trivial).symm
  | age secs =>
    obtain ⟨t, hage, hbecomes⟩ := h.age secs
    obtain rfl := Option.some.inj (hage.symm.trans hop)
    rw [hbecomes.record, Records.age, Records.ageOn, if_pos rfl, Option.filter_eq_some_iff,
      FdbOp.Spares, Bool.not_eq_true', decide_eq_false_iff_not, BitVec.not_le]

theorem Stocked.static_run {ops : List FdbOp} (h : Stocked e fdbSalt s lost)
    (hadd : ∀ op ∈ ops, op.isAdd = false) (hexec : Lib.exec (Fdb.operate e fdbSalt) s ops = some s')
    (hstatic : x.isStatic = true) :
    s'.record e fdbSalt mac = some x ↔
      s.record e fdbSalt mac = some x ∧ ∀ op ∈ ops, op.Spares mac x := by
  induction ops generalizing s lost with
  | nil =>
    obtain rfl := Option.some.inj hexec
    simp
  | cons op ops ih =>
    obtain ⟨s₁, lost₁, hop, h₁⟩ := h.operate op
    rw [Lib.exec, hop] at hexec
    rw [ih h₁ (fun o ho ↦ hadd o (List.mem_cons_of_mem op ho)) hexec,
      h.static_step (hadd op List.mem_cons_self) hop hstatic, List.forall_mem_cons, and_assoc]

/-- Updates and ageing passes leave a static entry where it is just when every
ageing pass comes before the entry is due. -/
theorem static_entries_stay_iff {hashAddr poolAddr : ℤ} {mem : ℤ → FdbT} (e : Endian)
    (fdbSalt : U32) (hhash : 0 < hashAddr) (hpool : 0 < poolAddr) (content calls : List FdbOp)
    (hcalls : ∀ op ∈ calls, op.isAdd = false) :
    ∃ s s', Lib.exec (Fdb.operate e fdbSalt) (fdbInit hashAddr poolAddr mem) content = some s ∧
      Lib.exec (Fdb.operate e fdbSalt) s calls = some s' ∧
      ∀ mac x, s.record e fdbSalt mac = some x → x.isStatic = true →
        ((∃ y, s'.record e fdbSalt mac = some y ∧ y.isStatic = true ∧ y.port = x.port) ↔
          ∀ secs, FdbOp.age secs ∈ calls → secs mac < x.expiry) := by
  have hinit : Stocked e fdbSalt (fdbInit hashAddr poolAddr mem) [] := stocked_fdbInit hhash hpool
  obtain ⟨s, lost, hcontent, h⟩ := hinit.exec content
  obtain ⟨s', lost', hexec, -⟩ := h.exec calls
  refine ⟨s, s', hcontent, hexec, fun mac x hx hstatic ↦ ?_⟩
  have hspares : (∀ op ∈ calls, op.Spares mac x) ↔
      ∀ secs, FdbOp.age secs ∈ calls → secs mac < x.expiry := by
    constructor
    · intro hall secs hsecs
      exact hall _ hsecs
    · intro hall op hop
      cases op with
      | add | update => trivial
      | age secs => exact hall secs hop
  rw [← hspares]
  constructor
  · rintro ⟨y, hy, hystatic, -⟩
    obtain ⟨hold, hall⟩ := (h.static_run hcalls hexec hystatic).mp hy
    obtain rfl := Option.some.inj (hx.symm.trans hold)
    exact hall
  · intro hall
    exact ⟨x, (h.static_run hcalls hexec hstatic).mpr ⟨hx, hall⟩, hstatic, rfl⟩

theorem static_entries_stay_before_due :
    ∃ s s', Lib.exec (Fdb.operate .little 7)
        (fdbInit 4096 16777216 fun _ ↦ ⟨.replicate 6 0, 0, false, 0⟩)
        [.add (.replicate 6 1) 3 true 0, .add (.replicate 6 2) 5 false 0] = some s ∧
      Lib.exec (Fdb.operate .little 7) s
        [.update true (.replicate 6 1) 4 100, .age fun _ ↦ 299] = some s' ∧
      ∀ mac x, s.record .little 7 mac = some x → x.isStatic = true →
        ((∃ y, s'.record .little 7 mac = some y ∧ y.isStatic = true ∧ y.port = x.port) ↔
          ∀ secs, FdbOp.age secs ∈ [.update true (.replicate 6 1) 4 100, .age fun _ ↦ 299] →
            secs mac < x.expiry) := by
  refine static_entries_stay_iff .little 7 (by decide) (by decide) _ _ ?_
  intro op hop
  simp only [List.mem_cons, List.not_mem_nil, or_false] at hop
  obtain rfl | rfl := hop <;> rfl

/-- A static entry is gone when the ageing time is over. -/
theorem static_entry_ages_out : ∃ s s',
    Lib.exec (Fdb.operate .little 7) (fdbInit 4096 16777216 fun _ ↦ ⟨.replicate 6 0, 0, false, 0⟩)
      [.add (.replicate 6 1) 3 true 0] = some s ∧
    Lib.exec (Fdb.operate .little 7) s [.age fun _ ↦ 300] = some s' ∧
    s.record .little 7 (.replicate 6 1) = some ⟨.replicate 6 1, 3, true, 300⟩ ∧
    s'.record .little 7 (.replicate 6 1) = none := by
  have h : Stocked .little 7 (fdbInit 4096 16777216 fun _ ↦ ⟨.replicate 6 0, 0, false, 0⟩) [] :=
    stocked_fdbInit (by decide) (by decide)
  obtain ⟨_, s, lost, hcall, -, hbecomes, -⟩ := h.fdbAddEntry (.replicate 6 1) 3 true 0
  obtain ⟨s', hage, hbecomes'⟩ := hbecomes.stocked.age fun _ ↦ 300
  have hroom : (fdbInit 4096 16777216 fun _ ↦ ⟨.replicate 6 0, 0, false, 0⟩).room = true := by
    decide +kernel
  have hs : s.record .little 7 (.replicate 6 1) = some ⟨.replicate 6 1, 3, true, 300⟩ := by
    rw [hbecomes.record, hroom, Records.add, if_pos ⟨rfl, rfl⟩, Function.update_self]
    rfl
  refine ⟨s, s', ?_, ?_, hs, ?_⟩
  · simp only [Lib.exec, Fdb.operate, hcall, Option.bind_some]
  · simp only [Lib.exec, Fdb.operate, hage, Option.bind_some]
  · rw [hbecomes'.record, Records.age, Records.ageOn, if_pos rfl, hs]
    rfl

section Source

def IsUnicast (mac : MacAddress) : Prop := firstOctet mac &&& 1 = 0

def Fdb.Maps (e : Endian) (fdbSalt : U32) (s : Fdb) (mac : MacAddress) (port : U16) : Prop :=
  ∃ x, s.record e fdbSalt mac = some x ∧ x.port = port.toNat

/-- The source of a frame is mapped to its port just when it is unicast, and the
records stay as they are if it is not. -/
structure LearnsSource (e : Endian) (fdbSalt : U32) (s s' : Fdb) (smac : MacAddress) (port : U16) :
    Prop where
  maps : s'.Maps e fdbSalt smac port ↔ IsUnicast smac
  group : ¬IsUnicast smac → s'.record e fdbSalt = s.record e fdbSalt

theorem isMacUcastMac_iff (addr : MacAddress) :
    isMacUcastMac addr = true ↔ firstOctet addr = 0 := by
  have hand : firstOctet addr &&& (0xFF : U8) = firstOctet addr := by
    rw [show (0xFF : U8) = BitVec.allOnes 8 from rfl, BitVec.and_allOnes]
  simp only [isMacUcastMac, hand, Bool.not_eq_true', bne_eq_false_iff_eq]

theorem processPkt_fdb {s : Rx} {port : U16} (h : s.queue.Works) (hoper : s.oper port = .up)
    (hadmin : s.admin port = .up) (e : Endian) (fdbSalt : U32) (allowed : Bool) (secs : U32)
    (p : EtherHdr) (len : ℤ) :
    ∃ s', processPkt e fdbSalt allowed secs p len port s = some s' ∧
      s'.fdb = if isMacUcastMac p.smac then
          (macAddressUpdate e fdbSalt allowed s.fdb p.smac port.toNat secs).2
        else s.fdb := by
  obtain ⟨hdown, -⟩ | ⟨-, htake⟩ := takePkt_cases e fdbSalt allowed secs p port s
  · rw [hoper, hadmin] at hdown
    exact absurd hdown (by decide)
  · rw [processPkt, htake]
    cases isDestStpGroupAddress e p.dmac with
    | false => exact ⟨_, rfl, rfl⟩
    | true =>
      obtain ⟨r, s', hsend, hfdb⟩ := sendMsg_fdb (s := { s with
        given := s.given + 1
        fdb := if isMacUcastMac p.smac then
            (macAddressUpdate e fdbSalt allowed s.fdb p.smac port.toNat secs).2
          else s.fdb }) h (bpduMsg s.given port.toNat 1 len)
      refine ⟨s', ?_, hfdb⟩
      simp only [stpRcvBpdu, hsend, Option.map_some]

/-- The source address of a frame is learnt as it should be just when its first
octet is zero or the database was right about it before. -/
theorem source_learning_iff {s : Rx} {p : EtherHdr} {port : U16} (secs : U32) (len : ℤ)
    (h : s.queue.Works) (hfdb : Stocked e fdbSalt s.fdb lost) (hoper : s.oper port = .up)
    (hadmin : s.admin port = .up) (hroom : s.fdb.room = true)
    (hdynamic : ∀ x, s.fdb.record e fdbSalt p.smac = some x → x.isStatic = false) :
    ∃ s', processPkt e fdbSalt true secs p len port s = some s' ∧
      (LearnsSource e fdbSalt s.fdb s'.fdb p.smac port ↔
        firstOctet p.smac = 0 ∨ (s.fdb.Maps e fdbSalt p.smac port ↔ IsUnicast p.smac)) := by
  obtain ⟨s', hcall, hfdb'⟩ := processPkt_fdb h hoper hadmin e fdbSalt true secs p len
  refine ⟨s', hcall, ?_⟩
  by_cases hzero : firstOctet p.smac = 0
  · have hunicast : IsUnicast p.smac := by
      rw [IsUnicast, hzero]
      rfl
    rw [if_pos ((isMacUcastMac_iff _).mpr hzero)] at hfdb'
    refine iff_of_true ⟨iff_of_true ?_ hunicast, fun hgroup ↦ absurd hunicast hgroup⟩ (.inl hzero)
    rw [Fdb.Maps, hfdb', (hfdb.update p.smac port.toNat secs).1.record]
    cases hx : s.fdb.record e fdbSalt p.smac with
    | none =>
      refine ⟨⟨p.smac, port.toNat, false, secs + s.fdb.agingTime⟩, ?_, rfl⟩
      simp [Records.update, hx, hroom]
    | some x =>
      refine ⟨{ x with port := port.toNat, expiry := secs + s.fdb.agingTime }, ?_, rfl⟩
      simp [Records.update, hx, hdynamic x hx]
  · rw [if_neg (mt (isMacUcastMac_iff _).mp hzero)] at hfdb'
    rw [hfdb', or_iff_right hzero]
    exact ⟨fun hl ↦ hl.maps, fun hmaps ↦ ⟨hmaps, fun _ ↦ rfl⟩⟩

def Rx.bootUp : Rx := { Rx.boot with oper := fun _ ↦ .up, admin := fun _ ↦ .up }

theorem works_bootUp : Rx.bootUp.queue.Works :=
  show Rx.boot.queue.Works from Rx.works_start _ _ _ (by decide)

theorem source_learning_of_zero_octet :
    ∃ s', processPkt .little 7 true 5 ⟨.replicate 6 9, #v[0, 1, 2, 3, 4, 5]⟩ 60 3 Rx.bootUp =
        some s' ∧
      (LearnsSource .little 7 Rx.bootUp.fdb s'.fdb #v[0, 1, 2, 3, 4, 5] 3 ↔
        firstOctet #v[0, 1, 2, 3, 4, 5] = 0 ∨
          (Rx.bootUp.fdb.Maps .little 7 #v[0, 1, 2, 3, 4, 5] 3 ↔
            IsUnicast #v[0, 1, 2, 3, 4, 5])) :=
  source_learning_iff (p := ⟨.replicate 6 9, #v[0, 1, 2, 3, 4, 5]⟩) 5 60 works_bootUp
    (stocked_fdbInit (by decide) (by decide)) rfl rfl (by decide +kernel)
    (fun _ hx ↦ absurd (hx.symm.trans rfl) (Option.some_ne_none _))

/-- A station with a locally administered address is not learnt. -/
theorem local_address_not_learnt : ∃ s',
    Rx.bootUp.queue.Works ∧ Stocked .little 7 Rx.bootUp.fdb [] ∧ Rx.bootUp.oper 3 = .up ∧
    Rx.bootUp.admin 3 = .up ∧ Rx.bootUp.fdb.room = true ∧
    Rx.bootUp.fdb.record .little 7 #v[2, 1, 2, 3, 4, 5] = none ∧
    processPkt .little 7 true 5 ⟨.replicate 6 9, #v[2, 1, 2, 3, 4, 5]⟩ 60 3 Rx.bootUp = some s' ∧
    IsUnicast #v[2, 1, 2, 3, 4, 5] ∧ ¬s'.fdb.Maps .little 7 #v[2, 1, 2, 3, 4, 5] 3 := by
  have hup : Rx.bootUp.oper 3 = .up := rfl
  obtain ⟨s', hcall, hfdb⟩ := processPkt_fdb works_bootUp hup rfl .little 7 true 5
    ⟨.replicate 6 9, #v[2, 1, 2, 3, 4, 5]⟩ 60
  refine ⟨s', works_bootUp, stocked_fdbInit (by decide) (by decide), rfl, rfl, by decide +kernel,
    rfl, hcall, rfl, ?_⟩
  rintro ⟨x, hx, -⟩
  rw [hfdb, if_neg (by decide)] at hx
  cases hx

end Source

end Layer3Switch.Bridge
