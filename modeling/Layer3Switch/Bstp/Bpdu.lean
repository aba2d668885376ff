import Layer3Switch.Bstp.Runs

namespace Layer3Switch.Bstp

open Lib Lib.Bytes
open Timers (U32)
open Stp (macAddress htons ntohs htonl ntohl)
open Rstp (U64 bridgeIdWord)

variable {H H' : Host} {p q : BstpPort}

/-! ### Numbers and ids in a packet -/

theorem ntohs_htons (e : Endian) (x : U16) : ntohs e (htons e x) = x := Stp.ntohs_load e x

theorem ntohl_htonl (e : Endian) (x : U32) : ntohl e (htonl e x) = x := Stp.ntohl_load e x

theorem bridgeIdWord_pv2addr (id : U64) :
    bridgeIdWord ((id >>> 48).setWidth 16) (pv2addr id) = id := by
  have hlt := id.isLt
  apply BitVec.eq_of_toNat_eq
  rw [Rstp.toNat_bridgeIdWord, Rstp.value_macAddress]
  simp only [pv2addr, macAddress, BitVec.toNat_setWidth, BitVec.toNat_ushiftRight,
    Nat.shiftRight_eq_div_pow, Vector.getElem_mk, List.getElem_toArray, List.getElem_cons_zero,
    List.getElem_cons_succ]
  omega

/-! ### Flags -/

def Role.code : Role → U8
  | .disabled => 0
  | .alternate | .backup => 1
  | .root => 2
  | .designated => 3

theorem bstpPduFlags_rstp (h : p.protover = .rstp) :
    bstpPduFlags p &&& 0x7f = bstpPduFlags p ∧ bstpPduFlags p &&& 0x80 = 0 ∧
      (bstpPduFlags p &&& 0x01 ≠ 0 ↔ p.tcTimer.active = true) ∧
      (bstpPduFlags p &&& 0x02 ≠ 0 ↔ (p.proposing && p.state ≠ .forwarding) = true) ∧
      (bstpPduFlags p &&& 0x40 ≠ 0 ↔ p.agree = true) ∧
      (bstpPduFlags p &&& 0x10 ≠ 0 ↔ (p.state = .learning || p.state = .forwarding) = true) ∧
      (bstpPduFlags p &&& 0x20 ≠ 0 ↔ p.state = .forwarding) ∧
      (bstpPduFlags p &&& 0x0c) >>> 2 = p.role.code := by
  unfold bstpPduFlags
  rw [h]
  generalize p.proposing = proposing, p.agree = agree, p.tcTimer.active = tc, p.tcAck = tcAck,
    p.state = state, p.role = role
  cases state <;> cases role <;> revert proposing agree tc tcAck <;> decide +kernel

theorem bstpPduFlags_stp (h : p.protover = .stp) :
    bstpPduFlags p &&& 0x81 = bstpPduFlags p ∧ (bstpPduFlags p &&& 0x80 ≠ 0 ↔ p.tcAck = true) ∧
      (bstpPduFlags p &&& 0x01 ≠ 0 ↔ p.tcTimer.active = true) ∧
      bstpPduFlags p &&& 0x02 = 0 ∧ bstpPduFlags p &&& 0x40 = 0 ∧ bstpPduFlags p &&& 0x10 = 0 ∧
      bstpPduFlags p &&& 0x20 = 0 ∧ (bstpPduFlags p &&& 0x0c) >>> 2 = 0 := by
  unfold bstpPduFlags
  rw [h]
  generalize p.proposing = proposing, p.agree = agree, p.tcTimer.active = tc, p.tcAck = tcAck,
    p.state = state, p.role = role
  cases state <;> cases role <;> revert proposing agree tc tcAck <;> decide +kernel

/-! ### Both ends of a link -/

def BstpPort.heardBy (p q : BstpPort) : BstpConfigUnit :=
  match p.protover with
  | .rstp => {
      pv := { p.desgPv with pvDportId := p.portId, pvPortId := q.portId }
      times := p.desgTimes
      messageType := bstpMsgtypeRstp
      topologyChangeAck := false
      topologyChange := p.tcTimer.active
      proposal := p.proposing && p.state ≠ .forwarding
      agree := p.agree
      learning := p.state = .learning || p.state = .forwarding
      forwarding := p.state = .forwarding
      role := match p.role with
        | .root => .root
        | .alternate | .backup => .alternate
        | .designated => .designated
        | .disabled => q.msgCu.role }
  | .stp => {
      pv := { p.desgPv with pvDportId := p.portId, pvPortId := q.portId }
      times := p.desgTimes
      messageType := bstpMsgtypeCfg
      topologyChangeAck := p.tcAck
      topologyChange := p.tcTimer.active
      proposal := false
      agree := false
      learning := false
      forwarding := false
      role := .designated }

def BstpCbpdu.readOn (e e' : Endian) (cpdu : BstpCbpdu) : BstpCbpdu :=
  { cpdu with
    etherType := htons e' (ntohs e cpdu.etherType)
    protoid := htons e' (ntohs e cpdu.protoid)
    rootpri := htons e' (ntohs e cpdu.rootpri)
    rootpathcost := htonl e' (ntohl e cpdu.rootpathcost)
    bridgepri := htons e' (ntohs e cpdu.bridgepri)
    portid := htons e' (ntohs e cpdu.portid)
    messageage := htons e' (ntohs e cpdu.messageage)
    maxage := htons e' (ntohs e cpdu.maxage)
    hellotime := htons e' (ntohs e cpdu.hellotime)
    forwarddelay := htons e' (ntohs e cpdu.forwarddelay) }

/-- A port makes of a packet what the port at the other end has put into it, whatever the
byte orders of the two bridges. -/
theorem decode_of_transmitted (stackByte : U8) :
    bstpDecodeBpdu H' q ((bstpCbpdu H stackByte p).readOn H.endian H'.endian) q.msgCu =
      p.heardBy q := by
  have hnumber : Proto.rstp.number ≠ Proto.stp.number := by decide
  unfold bstpDecodeBpdu BstpPort.heardBy
  cases h : p.protover with
  | rstp =>
    obtain ⟨hmask, htca, htc, hprop, hagree, hlearn, hfwd, hrole⟩ := bstpPduFlags_rstp h
    simp only [BstpCbpdu.readOn, bstpCbpdu, h, hnumber, if_false, if_true, hmask,
      ntohs_htons, ntohl_htonl,
      bridgeIdWord_pv2addr, hrole, htca, htc, hprop, hagree, hlearn, hfwd]
    cases p.role <;> simp [Role.code]
  | stp =>
    obtain ⟨hmask, htca, htc, hprop, hagree, hlearn, hfwd, hrole⟩ := bstpPduFlags_stp h
    simp only [BstpCbpdu.readOn, bstpCbpdu, h, if_true, hmask, ntohs_htons, ntohl_htonl,
      bridgeIdWord_pv2addr, hrole, htca, htc, hprop, hagree, hlearn, hfwd]
    simp

/-! ### Messages that say nothing new -/

theorem bstpSameBridgeid_self (x : U64) : bstpSameBridgeid x x = true := by
  have hzip : ∀ l : List U8, (l.zip l).foldl
      (fun d x ↦ if d = 0 then (x.1.toNat : ℤ) - (x.2.toNat : ℤ) else d) 0 = 0 := by
    intro l
    induction l with
    | nil => rfl
    | cons a l ih => rw [List.zip_cons_cons, List.foldl_cons, if_pos rfl, sub_self, ih]
  exact decide_eq_true (hzip _)

theorem bstpPduRcvtype_ne_repeated (bp : BstpPort) (cu : BstpConfigUnit) :
    bstpPduRcvtype bp cu ≠ .repeated := by
  intro h
  unfold bstpPduRcvtype at h
  split at h
  · split_ifs at h with hsup hsame
    have hrank := bstpInfoCmp_same_iff.mp hsame
    simp only [rank, toLex_inj, Prod.mk.injEq, BitVec.toNat_inj] at hrank
    obtain ⟨-, -, hbridge, hport⟩ := hrank
    refine hsup ?_
    rw [bstpInfoSuperior, hbridge, hport, bstpSameBridgeid_self]
    simp
  · split_ifs at h
  · split_ifs at h
  · split_ifs at h
  · exact RcvType.noConfusion h

/-- No message is taken for one that repeats what the port has heard: one of the designated
port that it has heard before is superior, so every hello starts an election. -/
theorem no_message_repeats {w : World} {i : ℕ} {bp : BstpPort} (hp : w.port i = some bp)
    (cu : BstpConfigUnit) :
    bstpPduRcvtype bp cu ≠ .repeated ∧
    (cu.role = .designated → cu.pv.pvDbridgeId = bp.portPv.pvDbridgeId →
      cu.pv.pvDportId = bp.portPv.pvDportId →
      bstpPduRcvtype bp cu = .superior ∧
      (bp.infois = .received ∨ bp.infois = .mine →
        bstpReceivedBpdu H cu i w = bstpUpdateState H i (bstpAssignRoles H
          ((w.onBs ({ · with allsynced := false })).onPort i (recordSuperior cu))))) := by
  refine ⟨bstpPduRcvtype_ne_repeated bp cu, fun hrole hbridge hport ↦ ?_⟩
  have hsup : bstpPduRcvtype bp cu = .superior := by
    have hsame : bstpInfoSuperior bp.portPv cu.pv = true := by
      rw [bstpInfoSuperior, hbridge, hport, bstpSameBridgeid_self]
      simp
    rw [bstpPduRcvtype, hrole]
    exact if_pos hsame
  refine ⟨hsup, fun hinfo ↦ ?_⟩
  have hlive : ¬(bp.infois = .disabled || bp.infois = .aged : Bool) = true := by
    obtain hinfo | hinfo := hinfo <;> simp [hinfo]
  rw [bstpReceivedBpdu, withPort_some hp, if_neg hlive, hsup]

/-- The hello that the first port has heard comes again. -/
theorem no_message_repeats_after_hello :
    ∃ w bp, exec (step smallHost) smallStart smallSetup = some w ∧ w.port 0 = some bp ∧
      bp.portTimes = bp.msgCu.times ∧ bstpPduRcvtype bp bp.msgCu = .superior ∧
      bstpReceivedBpdu smallHost bp.msgCu 0 w = bstpUpdateState smallHost 0
        (bstpAssignRoles smallHost ((w.onBs ({ · with allsynced := false })).onPort 0
          (recordSuperior bp.msgCu))) := by
  obtain ⟨w, hw, bp, hp, htimes, hinfo, hrole, hbridge, hport⟩ :
      ∃ w, exec (step smallHost) smallStart smallSetup = some w ∧ ∃ bp ∈ w.port 0,
        bp.portTimes = bp.msgCu.times ∧ bp.infois = .received ∧ bp.msgCu.role = .designated ∧
        bp.msgCu.pv.pvDbridgeId = bp.portPv.pvDbridgeId ∧
        bp.msgCu.pv.pvDportId = bp.portPv.pvDportId := by
    decide +kernel
  obtain ⟨hsup, helect⟩ := (no_message_repeats hp bp.msgCu).2 hrole hbridge hport
  exact ⟨w, bp, hw, hp, htimes, hsup, helect (.inl hinfo)⟩

end Layer3Switch.Bstp
