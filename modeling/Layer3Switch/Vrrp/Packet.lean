import Layer3Switch.Lib.Checksum
import Layer3Switch.Lib.CString

namespace Layer3Switch.Vrrp

open Lib.Bytes Lib.Checksum Lib.CString

def vrrpIpTtl : U8 := 255#8
def ipprotoVrrp : U8 := 112#8
def vrrpVersion : ℕ := 2
def vrrpPktAdvert : ℕ := 1
def vrrpAuthNone : ℤ := 0
def vrrpAuthPass : ℤ := 1
def vrrpAuthLen : ℕ := 8
def vrrpTimerHz : ℤ := 1000000
def inaddrVrrpGroup : ℕ := 0xe0000012
def sizeofVrrpPkt : ℕ := 8

/-- `vrrp_rt`, as far as packets go. Its `naddr` is the length of `vaddr`. -/
structure VrrpRt where
  vrid : ℤ
  vaddr : List (BitVec 32)
  primaryIp : BitVec 32
  authType : ℤ
  authData : Field vrrpAuthLen
  adverInt : ℤ

def vrrpHdLen (vsrv : VrrpRt) : ℕ := sizeofVrrpPkt + vsrv.vaddr.length * 4 + vrrpAuthLen

def bytesAt (mem : ℤ → U8) (a : ℤ) (n : ℕ) : List U8 := (List.range n).map fun k : ℕ ↦ mem (a + k)

section Check

variable (e : Endian) (vsrv : VrrpRt) (ip : ℤ → U8)

def ipHl : ℤ := ((ip 0).toNat % 16 * 4 : ℕ)

def ipTotLen : ℤ := (e.ntoh 2 (e.load (bytesAt ip 2 2)) : ℕ)

def vrrpInChk : ℤ :=
  let ihl := ipHl ip
  let hd := fun k : ℤ ↦ ip (ihl + k)
  if ip 8 ≠ vrrpIpTtl then 1
  else if (hd 0).toNat / 16 ≠ vrrpVersion then 1
  else if 0 ≤ ipTotLen e ip - ihl ∧ ipTotLen e ip - ihl ≤ sizeofVrrpPkt then 1
  else if inCsum e (bytesAt ip ihl (vrrpHdLen vsrv)) 0 ≠ 0 then 1
  else if vsrv.authType ≠ (hd 4).toNat then 1
  else if (hd 4).toNat ≠ vrrpAuthPass ∧
    bytesAt ip (ipTotLen e ip - vrrpAuthLen) vrrpAuthLen ≠ vsrv.authData.bytes then 1
  else if vsrv.vrid ≠ (hd 1).toNat then 1
  else if vsrv.adverInt.tdiv vrrpTimerHz ≠ (hd 5).toNat then 1
  else 0

end Check

section Build

variable (e : Endian) (vsrv : VrrpRt)

def vrrpBuildIp (ipId : ℕ) : List U8 :=
  let head : List U8 := [0x45#8, 0#8] ++
    e.store 2 (e.hton 2 (5 * 4 + vrrpHdLen vsrv)) ++ e.store 2 (ipId + 1) ++
    [0#8, 0#8, vrrpIpTtl, ipprotoVrrp]
  let addrs : List U8 := e.store 4 (e.hton 4 vsrv.primaryIp.toNat) ++
    e.store 4 (e.hton 4 inaddrVrrpGroup)
  head ++ e.store 2 (inCsum e (head ++ [0#8, 0#8] ++ addrs) 0) ++ addrs

def vrrpFields (prio : U8) : List U8 :=
  [BitVec.ofNat 8 (vrrpVersion * 16 + vrrpPktAdvert), BitVec.ofInt 8 vsrv.vrid, prio,
    BitVec.ofNat 8 vsrv.vaddr.length, BitVec.ofInt 8 vsrv.authType,
    BitVec.ofInt 8 (vsrv.adverInt.tdiv vrrpTimerHz)]

def vrrpAddrs : List U8 := vsrv.vaddr.flatMap fun addr ↦ e.store 4 (e.hton 4 addr.toNat)

def vrrpAuth : List U8 :=
  if vsrv.authType = vrrpAuthPass then vsrv.authData.bytes else List.replicate vrrpAuthLen 0#8

def vrrpBuildVrrp (prio : U8) : List U8 :=
  let chksum := inCsum e (vrrpFields vsrv prio ++ [0#8, 0#8] ++ vrrpAddrs e vsrv ++
    List.replicate vrrpAuthLen 0#8) 0
  vrrpFields vsrv prio ++ e.store 2 chksum ++ vrrpAddrs e vsrv ++ vrrpAuth vsrv

def vrrpBuildPkt (ipId : ℕ) (prio : U8) : List U8 :=
  vrrpBuildIp e vsrv ipId ++ vrrpBuildVrrp e vsrv prio

end Build

variable {e : Endian} {vsrv : VrrpRt} {ip : ℤ → U8}

structure OtherwiseValid (e : Endian) (vsrv : VrrpRt) (ip : ℤ → U8) : Prop where
  ttl : ip 8 = vrrpIpTtl
  version : (ip (ipHl ip)).toNat / 16 = vrrpVersion
  length : ipTotLen e ip < ipHl ip ∨ ipHl ip + sizeofVrrpPkt < ipTotLen e ip
  chksum : inCsum e (bytesAt ip (ipHl ip) (vrrpHdLen vsrv)) 0 = 0
  authType : vsrv.authType = (ip (ipHl ip + 4)).toNat
  vrid : vsrv.vrid = (ip (ipHl ip + 1)).toNat
  adverInt : vsrv.adverInt.tdiv vrrpTimerHz = (ip (ipHl ip + 5)).toNat

theorem refuse_eq_zero_iff {p : Prop} [Decidable p] {r : ℤ} :
    (if p then 1 else r) = 0 ↔ ¬p ∧ r = 0 := by
  by_cases h : p <;> simp [h]

theorem vrrpInChk_eq_zero_iff : vrrpInChk e vsrv ip = 0 ↔ OtherwiseValid e vsrv ip ∧
    (vsrv.authType = vrrpAuthPass ∨
      bytesAt ip (ipTotLen e ip - vrrpAuthLen) vrrpAuthLen = vsrv.authData.bytes) := by
  simp only [vrrpInChk, Int.add_zero, refuse_eq_zero_iff, not_not, not_and_or, not_le]
  constructor
  · rintro ⟨httl, hversion, hlength, hchksum, hauth, hpass, hvrid, hadver, -⟩
    refine ⟨⟨httl, hversion, by omega, hchksum, hauth, hvrid, hadver⟩, ?_⟩
    rw [hauth]
    exact hpass
  · rintro ⟨hvalid, hpass⟩
    have hlength := hvalid.length
    refine ⟨hvalid.ttl, hvalid.version, by omega, hvalid.chksum, hvalid.authType, ?_, hvalid.vrid,
      hvalid.adverInt, trivial⟩
    rw [← hvalid.authType]
    exact hpass

def Enforced (e : Endian) (vsrv : VrrpRt) (ip : ℤ → U8) : Prop :=
  vrrpInChk e vsrv ip = 0 → ((ip (ipHl ip + 4)).toNat : ℤ) = vrrpAuthPass ∧
    bytesAt ip (ipTotLen e ip - vrrpAuthLen) vrrpAuthLen = vsrv.authData.bytes

/-- The key of a router with a password does not matter. The password is enforced only where
the packet is wrong in another way, or has the key all the same. -/
theorem vrrp_password_enforced_iff (e : Endian) (ip : ℤ → U8) (h : vsrv.authType = vrrpAuthPass) :
    (Enforced e vsrv ip ↔ ¬OtherwiseValid e vsrv ip ∨
      bytesAt ip (ipTotLen e ip - vrrpAuthLen) vrrpAuthLen = vsrv.authData.bytes) ∧
    ∀ key, vrrpInChk e { vsrv with authData := key } ip = vrrpInChk e vsrv ip := by
  have haccept : vrrpInChk e vsrv ip = 0 ↔ OtherwiseValid e vsrv ip := by
    rw [vrrpInChk_eq_zero_iff]
    exact and_iff_left (.inl h)
  refine ⟨?_, ?_⟩
  · rw [Enforced, haccept]
    constructor
    · intro henforced
      by_cases hvalid : OtherwiseValid e vsrv ip
      · exact .inr (henforced hvalid).2
      · exact .inl hvalid
    · intro hor hvalid
      refine ⟨?_, hor.resolve_left (not_not.mpr hvalid)⟩
      rw [← hvalid.authType, h]
  · intro key
    have hpass : vsrv.authType ≠ ((ip (ipHl ip + 4)).toNat : ℤ) ∨
        ¬((ip (ipHl ip + 4)).toNat : ℤ) ≠ vrrpAuthPass := by
      rw [h, not_not]
      exact (em _).symm.imp_right Eq.symm
    obtain hauth | hpass := hpass
    · simp only [vrrpInChk, vrrpHdLen, if_pos hauth]
    · simp only [vrrpInChk, vrrpHdLen, if_neg fun hboth ↦ hpass (And.left hboth)]

def passwordRouter (k : U8) : VrrpRt :=
  ⟨1, [0xc0a80001#32], 0xc0a80002#32, vrrpAuthPass, strncpy vrrpAuthLen [k], 1000000⟩

def received (pkt : List U8) (a : ℤ) : U8 :=
  if 0 ≤ a then (pkt[a.toNat]?).getD 0#8 else 0#8

theorem vrrp_password_enforced_same_key :
    Enforced .little (passwordRouter 0#8)
      (received (vrrpBuildPkt .little (passwordRouter 0#8) 0 100#8)) :=
  (vrrp_password_enforced_iff .little _ rfl).1.mpr (.inr (by decide +kernel))

/-- A router whose key begins with 7 accepts a packet whose password is all zero. -/
theorem vrrp_wrong_password_accepted :
    vrrpInChk .little (passwordRouter 7#8)
        (received (vrrpBuildPkt .little (passwordRouter 0#8) 0 100#8)) = 0 ∧
      ¬Enforced .little (passwordRouter 7#8)
        (received (vrrpBuildPkt .little (passwordRouter 0#8) 0 100#8)) := by
  have haccept : vrrpInChk .little (passwordRouter 7#8)
      (received (vrrpBuildPkt .little (passwordRouter 0#8) 0 100#8)) = 0 := by decide +kernel
  refine ⟨haccept, fun henforced ↦ ?_⟩
  have hkey := (henforced haccept).2
  revert hkey
  decide +kernel

end Layer3Switch.Vrrp
