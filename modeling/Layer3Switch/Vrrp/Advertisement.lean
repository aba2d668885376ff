import Layer3Switch.Vrrp.Packet

namespace Layer3Switch.Vrrp

open Lib.Bytes Lib.Checksum Lib.CString

variable {e : Endian} {vsrv : VrrpRt} {ip : ℤ → U8} {l as bs cs : List U8}
  {a n ipId : ℕ} {prio : U8}

def Holds (ip : ℤ → U8) (l : List U8) : Prop := ∀ (k : ℕ) b, l[k]? = some b → ip k = b

theorem length_bytesAt (ip : ℤ → U8) (a : ℤ) (n : ℕ) : (bytesAt ip a n).length = n := by
  rw [bytesAt, List.length_map, List.length_range]

theorem Holds.front (h : Holds ip l) (hl : as <+: l) : Holds ip as := by
  obtain ⟨cs, rfl⟩ := hl
  intro k b hk
  obtain ⟨hlt, -⟩ := List.getElem?_eq_some_iff.mp hk
  refine h k b ?_
  rw [List.getElem?_append_left hlt, hk]

theorem Holds.bytesAt_eq (h : Holds ip (as ++ bs)) (ha : as.length = a) (hn : bs.length = n) :
    bytesAt ip a n = bs := by
  refine List.ext_getElem ((length_bytesAt ip a n).trans hn.symm) fun k hk hk' ↦ ?_
  have hget : (as ++ bs)[a + k]? = some bs[k] := by
    rw [List.getElem?_append_right (by omega), ha, Nat.add_sub_cancel_left,
      List.getElem?_eq_getElem hk']
  have hbyte := h (a + k) _ hget
  rw [Nat.cast_add] at hbyte
  simpa [bytesAt] using hbyte

theorem length_vrrpAddrs (e : Endian) (vsrv : VrrpRt) :
    (vrrpAddrs e vsrv).length = 4 * vsrv.vaddr.length := by
  rw [vrrpAddrs]
  induction vsrv.vaddr with
  | nil => rfl
  | cons addr addrs ih =>
    rw [List.flatMap_cons, List.length_append, ih, length_store, List.length_cons]
    omega

theorem length_vrrpFields : (vrrpFields vsrv prio).length = 6 := rfl

theorem length_vrrpAuth (vsrv : VrrpRt) : (vrrpAuth vsrv).length = 8 := by
  rw [vrrpAuth]
  split_ifs
  · exact vsrv.authData.length_bytes
  · rfl

theorem length_vrrpBuildVrrp : (vrrpBuildVrrp e vsrv prio).length = vrrpHdLen vsrv := by
  simp only [vrrpBuildVrrp, List.length_append, length_vrrpFields, length_store, length_vrrpAddrs,
    length_vrrpAuth, vrrpHdLen, sizeofVrrpPkt, vrrpAuthLen]
  omega

theorem length_vrrpBuildIp : (vrrpBuildIp e vsrv ipId).length = 20 := by
  simp [vrrpBuildIp]

theorem vrrpBuildIp_front (e : Endian) (vsrv : VrrpRt) (ipId : ℕ) : ∃ a b,
    [0x45#8, 0#8, BitVec.ofNat 8 ((20 + vrrpHdLen vsrv) / 256),
      BitVec.ofNat 8 (20 + vrrpHdLen vsrv), a, b, 0#8, 0#8, vrrpIpTtl] <+:
        vrrpBuildIp e vsrv ipId := by
  obtain ⟨a, b, hid⟩ := List.length_eq_two.mp (length_store e 2 (ipId + 1))
  refine ⟨a, b, ?_⟩
  simp [vrrpBuildIp, store_hton, hid, digits]

section Built

variable (h : Holds ip (vrrpBuildPkt e vsrv ipId prio))
include h

theorem Holds.ipHl_eq : ipHl ip = 20 := by
  obtain ⟨a, b, hfront⟩ := vrrpBuildIp_front e vsrv ipId
  have hbyte : ip 0 = 0x45#8 := h.front (hfront.trans (List.prefix_append _ _)) 0 _ rfl
  rw [ipHl, hbyte]
  rfl

theorem Holds.ttl_eq : ip 8 = vrrpIpTtl := by
  obtain ⟨a, b, hfront⟩ := vrrpBuildIp_front e vsrv ipId
  exact h.front (hfront.trans (List.prefix_append _ _)) 8 _ rfl

theorem Holds.ipTotLen_eq (hlen : vrrpHdLen vsrv < 2 ^ 15) :
    ipTotLen e ip = 20 + vrrpHdLen vsrv := by
  obtain ⟨a, b, hfront⟩ := vrrpBuildIp_front e vsrv ipId
  have hbytes := h.front (hfront.trans (List.prefix_append _ _))
  have hhigh : ip 2 = BitVec.ofNat 8 ((20 + vrrpHdLen vsrv) / 256) := hbytes 2 _ rfl
  have hlow : ip 3 = BitVec.ofNat 8 (20 + vrrpHdLen vsrv) := hbytes 3 _ rfl
  have hbytes : bytesAt ip 2 2 = digits 2 (20 + vrrpHdLen vsrv) := by
    have hpair : bytesAt ip 2 2 = [ip 2, ip 3] := rfl
    rw [hpair, hhigh, hlow]
    simp [digits]
  have hvalue := ntoh_load e (digits 2 (20 + vrrpHdLen vsrv))
  rw [length_digits, value_digits, Nat.mod_eq_of_lt (by omega)] at hvalue
  rw [ipTotLen, hbytes, hvalue, Nat.cast_add]
  rfl

theorem Holds.fields_eq : bytesAt ip 20 6 = vrrpFields vsrv prio := by
  have hfront : Holds ip (vrrpBuildIp e vsrv ipId ++ vrrpFields vsrv prio) := by
    refine h.front ?_
    rw [vrrpBuildPkt, vrrpBuildVrrp, List.append_assoc (vrrpFields vsrv prio),
      List.append_assoc (vrrpFields vsrv prio), ← List.append_assoc]
    exact List.prefix_append _ _
  exact hfront.bytesAt_eq length_vrrpBuildIp length_vrrpFields

theorem Holds.vrrp_eq : bytesAt ip 20 (vrrpHdLen vsrv) = vrrpBuildVrrp e vsrv prio :=
  h.bytesAt_eq length_vrrpBuildIp length_vrrpBuildVrrp

theorem Holds.auth_eq : bytesAt ip (12 + vrrpHdLen vsrv) 8 = vrrpAuth vsrv := by
  rw [vrrpBuildPkt, vrrpBuildVrrp, ← List.append_assoc] at h
  refine h.bytesAt_eq (a := 12 + vrrpHdLen vsrv) ?_ (length_vrrpAuth vsrv)
  simp only [List.length_append, length_vrrpBuildIp, length_vrrpFields, length_store,
    length_vrrpAddrs, vrrpHdLen, sizeofVrrpPkt, vrrpAuthLen]
  omega

end Built

def advertSum (e : Endian) (vsrv : VrrpRt) (prio : U8) : ℕ :=
  wordSum e (vrrpFields vsrv prio) + wordSum e (vrrpAddrs e vsrv)

theorem wordSum_fields_pos : 0 < wordSum e (vrrpFields vsrv prio) := by
  have hword : 0 < e.load [BitVec.ofNat 8 (vrrpVersion * 16 + vrrpPktAdvert),
      BitVec.ofInt 8 vsrv.vrid] := by
    cases e <;> simp [Endian.load, value, vrrpVersion, vrrpPktAdvert]
  exact Nat.add_pos_left hword _

theorem advertSum_lt (hn : vsrv.vaddr.length ≤ 255) : advertSum e vsrv prio < 2 ^ 25 + 2 ^ 17 := by
  have hfields : wordSum e (vrrpFields vsrv prio) ≤ 65535 * 3 := wordSum_lt length_vrrpFields
  have haddrs : wordSum e (vrrpAddrs e vsrv) ≤ 65535 * (2 * vsrv.vaddr.length) :=
    wordSum_lt ((length_vrrpAddrs e vsrv).trans (by omega))
  rw [advertSum]
  omega

theorem inCsum_vrrpBuildVrrp (hn : vsrv.vaddr.length ≤ 255) :
    inCsum e (vrrpBuildVrrp e vsrv prio) 0 = 0 ↔ wordSum e (vrrpAuth vsrv) % 65535 = 0 := by
  have hfields : (vrrpFields vsrv prio).length = 2 * 3 := length_vrrpFields
  have haddrs : (vrrpAddrs e vsrv).length = 2 * (2 * vsrv.vaddr.length) :=
    (length_vrrpAddrs e vsrv).trans (by omega)
  have hbefore : inCsum e (vrrpFields vsrv prio ++ [0#8, 0#8] ++ vrrpAddrs e vsrv ++
      List.replicate vrrpAuthLen 0#8) 0 = complement (advertSum e vsrv prio) := by
    have hzeros : wordSum e (List.replicate vrrpAuthLen 0#8) = 0 := wordSum_zeros 4
    have hfield : wordSum e [0#8, 0#8] = 0 := wordSum_zeros 1
    rw [inCsum, List.append_assoc, List.append_assoc, wordSum_append hfields,
      wordSum_append (n := 1) rfl, wordSum_append haddrs, hzeros, hfield, advertSum]
    simp only [Nat.zero_add, Nat.add_zero]
  have hlt := complement_lt (advertSum e vsrv prio)
  have hsum : wordSum e (vrrpBuildVrrp e vsrv prio) = advertSum e vsrv prio +
      complement (advertSum e vsrv prio) + wordSum e (vrrpAuth vsrv) := by
    rw [vrrpBuildVrrp, hbefore, List.append_assoc, List.append_assoc, wordSum_append hfields,
      wordSum_append (n := 1) (length_store e 2 _), wordSum_append haddrs, wordSum_store hlt,
      advertSum]
    omega
  have hpos : 0 < wordSum e (vrrpFields vsrv prio) := wordSum_fields_pos
  have hbound : advertSum e vsrv prio < 2 ^ 25 + 2 ^ 17 := advertSum_lt hn
  have hauth : wordSum e (vrrpAuth vsrv) ≤ 65535 * 4 := wordSum_lt (length_vrrpAuth vsrv)
  have hcancel : (advertSum e vsrv prio + complement (advertSum e vsrv prio)) % 65535 = 0 :=
    add_complement (by omega)
  rw [inCsum, complement_eq_zero_iff (by omega), hsum]
  have hadvert : 0 < advertSum e vsrv prio := Nat.add_pos_left hpos _
  omega

structure Configured (vsrv : VrrpRt) : Prop where
  vrid : 1 ≤ vsrv.vrid ∧ vsrv.vrid ≤ 255
  naddr : 1 ≤ vsrv.vaddr.length ∧ vsrv.vaddr.length ≤ 255
  adverInt : ∃ s : ℤ, 1 ≤ s ∧ s ≤ 255 ∧ vsrv.adverInt = s * vrrpTimerHz
  auth : vsrv.authType = vrrpAuthNone ∧ vsrv.authData.bytes = List.replicate vrrpAuthLen 0#8 ∨
    vsrv.authType = vrrpAuthPass

theorem toNat_ofInt_byte {x : ℤ} (h0 : 0 ≤ x) (h : x ≤ 255) :
    ((BitVec.ofInt 8 x).toNat : ℤ) = x := by
  rw [BitVec.toNat_ofInt]
  omega

theorem Holds.accepted_iff (h : Holds ip (vrrpBuildPkt e vsrv ipId prio)) (hc : Configured vsrv) :
    vrrpInChk e vsrv ip = 0 ↔ inCsum e (vrrpBuildVrrp e vsrv prio) 0 = 0 := by
  have hhd : vrrpHdLen vsrv = 16 + 4 * vsrv.vaddr.length := by
    rw [vrrpHdLen, sizeofVrrpPkt, vrrpAuthLen]
    omega
  have hnaddr := hc.naddr
  have hihl := h.ipHl_eq
  have htot := h.ipTotLen_eq (by omega)
  have hfields : [ip 20, ip 21, ip 22, ip 23, ip 24, ip 25] = vrrpFields vsrv prio := h.fields_eq
  simp only [vrrpFields, List.cons.injEq, and_true] at hfields
  obtain ⟨hvers, hvrid, -, -, hauth, hadver⟩ := hfields
  have hvrid₀ : 0 ≤ vsrv.vrid := by linarith [hc.vrid.1]
  obtain ⟨s, hs, hs', hint⟩ := hc.adverInt
  have hsecs : vsrv.adverInt.tdiv vrrpTimerHz = s := by
    rw [hint, vrrpTimerHz]
    exact Int.mul_tdiv_cancel s (by decide)
  have htype : 0 ≤ vsrv.authType ∧ vsrv.authType ≤ 255 := by
    obtain ⟨hnone, -⟩ | hpass := hc.auth
    · rw [hnone, vrrpAuthNone]
      decide
    · rw [hpass, vrrpAuthPass]
      decide
  have hpassword : vsrv.authType = vrrpAuthPass ∨
      bytesAt ip (ipTotLen e ip - vrrpAuthLen) vrrpAuthLen = vsrv.authData.bytes := by
    obtain ⟨hnone, hzero⟩ | hpass := hc.auth
    · right
      have hstart : ipTotLen e ip - vrrpAuthLen = 12 + vrrpHdLen vsrv := by
        rw [htot, vrrpAuthLen]
        omega
      rw [hstart]
      refine h.auth_eq.trans ?_
      rw [hzero, vrrpAuth, hnone]
      rfl
    · exact .inl hpass
  rw [vrrpInChk_eq_zero_iff, and_iff_left hpassword]
  constructor
  · intro hvalid
    have hchksum := hvalid.chksum
    rw [hihl, h.vrrp_eq] at hchksum
    exact hchksum
  · intro hchksum
    refine ⟨h.ttl_eq, ?_, .inr ?_, ?_, ?_, ?_, ?_⟩
    · rw [hihl, hvers]
      rfl
    · rw [hihl, htot, sizeofVrrpPkt]
      omega
    · rw [hihl, h.vrrp_eq]
      exact hchksum
    · rw [hihl]
      exact (toNat_ofInt_byte htype.1 htype.2).symm.trans (by rw [← hauth]; rfl)
    · rw [hihl]
      exact (toNat_ofInt_byte hvrid₀ hc.vrid.2).symm.trans (by rw [← hvrid]; rfl)
    · rw [hihl]
      refine (hsecs.trans (toNat_ofInt_byte (by omega) hs').symm).trans ?_
      rw [← hsecs, ← hadver]
      rfl

/-- A router accepts the advertisement of its own group without authentication, and with a
password only where the words of the password add up to zero. -/
theorem own_advertisement_accepted_iff (e : Endian) (vsrv : VrrpRt) (ipId : ℕ) (prio : U8)
    (hc : Configured vsrv) (h : Holds ip (vrrpBuildPkt e vsrv ipId prio)) :
    vrrpInChk e vsrv ip = 0 ↔
      vsrv.authType = vrrpAuthNone ∨ wordSum e vsrv.authData.bytes % 65535 = 0 := by
  rw [h.accepted_iff hc, inCsum_vrrpBuildVrrp hc.naddr.2, vrrpAuth]
  obtain ⟨hnone, -⟩ | hpass := hc.auth
  · have hzeros : wordSum e (List.replicate vrrpAuthLen 0#8) = 0 := wordSum_zeros 4
    rw [hnone, if_neg (by decide), hzeros]
    exact iff_of_true rfl (.inl rfl)
  · rw [if_pos hpass, hpass]
    exact (or_iff_right (by decide)).symm

theorem holds_received (pkt : List U8) : Holds (received pkt) pkt := by
  intro k b hk
  rw [received, if_pos (Int.natCast_nonneg k), Int.toNat_natCast, hk]
  rfl

def openRouter : VrrpRt :=
  ⟨1, [0xc0a80001#32], 0xc0a80002#32, vrrpAuthNone, strncpy vrrpAuthLen [], 1000000⟩

theorem own_advertisement_accepted_open :
    vrrpInChk .little openRouter (received (vrrpBuildPkt .little openRouter 0 100#8)) = 0 :=
  (own_advertisement_accepted_iff .little openRouter 0 100#8
    ⟨by decide, by decide, ⟨1, by decide⟩, .inl ⟨rfl, rfl⟩⟩ (holds_received _)).mpr (.inl rfl)

/-- With the key `07 00 .. 00` a router refuses its own packet. -/
theorem own_advertisement_refused :
    vrrpInChk .little (passwordRouter 7#8)
      (received (vrrpBuildPkt .little (passwordRouter 7#8) 0 100#8)) = 1 := by
  decide +kernel

end Layer3Switch.Vrrp
