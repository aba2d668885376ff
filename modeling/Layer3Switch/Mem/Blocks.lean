import Layer3Switch.Mem.Pool

namespace Layer3Switch.Mem

open Lib

theorem poolBytes_lt (size nBlks : ℕ) : poolBytes size nBlks < 2 ^ 32 := by
  rw [poolBytes]
  split
  · exact Nat.mod_lt _ (by decide)
  · exact Nat.mod_lt _ (by decide)

section Free

variable {p : MemInfo} {out : List ℤ} {addr : ℤ}

/-- `free_blk` where addresses have 64 bits, so that the sum in `in_range` wraps around. -/
def freeBlkPtr (p : MemInfo) (addr : ℤ) : Option (ℤ × MemInfo) :=
  if p.saddr ≤ addr ∧ (addr + p.size) % 2 ^ 64 ≤ p.eaddr then freeInRange p addr else some (-1, p)

def MemInfo.index (p : MemInfo) (addr : ℤ) : Option ℤ :=
  let offset := int (addr - p.saddr)
  if (p.saddr ≤ addr ∧ (addr + p.size) % 2 ^ 64 ≤ p.eaddr) ∧ offset.tmod p.size = 0 then
    some (offset.tdiv p.size)
  else none

theorem freeBlkPtr_eq (haddr : 0 ≤ addr) (hsize : 0 ≤ p.size) (hwrap : addr + p.size < 2 ^ 64) :
    freeBlkPtr p addr = freeBlk p addr := by
  rw [freeBlkPtr, freeBlk, Int.emod_eq_of_lt (by omega) hwrap]

theorem index_lt_of_freeBlkPtr {r : ℤ × MemInfo} {i : ℤ} (hsize : 0 < p.size)
    (hfree : freeBlkPtr p addr = some r) (hi : p.index addr = some i) :
    0 ≤ i ∧ i < p.addrBlks.length := by
  obtain ⟨hcond, heq⟩ := Option.ite_none_right_eq_some.mp hi
  obtain ⟨hrange, hmod⟩ := hcond
  have hmul : int (addr - p.saddr) = i * p.size := by
    rw [← Option.some.inj heq]
    exact (Int.tdiv_mul_cancel (Int.dvd_of_tmod_eq_zero hmod)).symm
  rw [freeBlkPtr, if_pos hrange, freeInRange_of_mul hsize hmul] at hfree
  have hneg : ¬i < 0 := by
    intro hneg
    rw [if_pos hneg] at hfree
    cases hfree
  rw [if_neg hneg] at hfree
  refine ⟨not_lt.mp hneg, ?_⟩
  by_contra hlen
  rw [List.getElem?_eq_none (by omega)] at hfree
  cases hfree

theorem Gives.free_other (h : Gives p out) (hspan : p.eaddr < p.saddr + 2 ^ 32)
    (ha : addr ∉ out) :
    freeBlk p addr = some (-1, p) ∨
      freeBlk p addr = none ∧ p.saddr + p.size * p.nblks ≤ addr ∧ addr + p.size ≤ p.eaddr := by
  have hsize := h.ok.size_pos
  have hfits := h.ok.fits
  have hlen := h.ok.nblks
  by_cases hrange : p.saddr ≤ addr ∧ addr + p.size ≤ p.eaddr
  swap
  · exact .inl (if_neg hrange)
  by_cases hmod : (int (addr - p.saddr)).tmod p.size = 0
  swap
  · refine .inl ?_
    rw [freeBlk, if_pos hrange]
    simp only [freeInRange, if_neg hsize.ne', ne_eq, hmod, not_false_eq_true, if_true]
  obtain ⟨k, hk⟩ := Int.dvd_of_tmod_eq_zero hmod
  rw [mul_comm] at hk
  by_cases hbehind : p.saddr + p.size * p.nblks ≤ addr
  · refine .inr ⟨?_, hbehind, hrange.2⟩
    rw [freeBlk, if_pos hrange, freeInRange_of_mul hsize hk]
    by_cases hneg : k < 0
    · rw [if_pos hneg]
    · have hpos : 0 ≤ k * p.size := Int.mul_nonneg (not_lt.mp hneg) hsize.le
      -- An offset of 2 ^ 31 or more would be a negative `int`.
      have hoffset : addr - p.saddr = k * p.size := by
        rw [int, Int.bmod_def] at hk
        omega
      have hmul : p.nblks * p.size ≤ k * p.size := by
        rw [mul_comm p.nblks]
        omega
      have hlast := le_of_mul_le_mul_right hmul hsize
      rw [if_neg hneg, List.getElem?_eq_none (by omega)]
  · have hoffset : addr - p.saddr = k * p.size := by
      rw [← hk, int_eq (by omega) (by omega)]
    have hmul : k * p.size < p.nblks * p.size := by
      rw [mul_comm p.nblks]
      omega
    have hlast := lt_of_mul_lt_mul_right hmul hsize.le
    have hfirst : 0 ≤ k := nonneg_of_mul_nonneg_left (by omega) hsize
    have haddr : addr = p.block k.toNat := by
      rw [MemInfo.block, Int.toNat_of_nonneg hfirst]
      omega
    rw [haddr] at ha ⊢
    exact .inl (h.free_again (by omega) ha)

end Free

namespace Ledger

variable {size nBlks : ℕ} {saddr : ℤ} {s s' : Ledger} {p : MemInfo} {addr : ℤ}

def ptrCall (s : Ledger) : Call → Option Ledger
  | .alloc => s.call .alloc
  | .free addr =>
    (freeBlkPtr s.pool addr).map fun x ↦
      { s with pool := x.2, outstanding := s.outstanding.erase addr }

def Below (size : ℕ) (addr : ℤ) : Prop := 0 ≤ addr ∧ addr + size < 2 ^ 64

instance : Decidable (Below size addr) := inferInstanceAs (Decidable (_ ∧ _))

def FreesBelow (size : ℕ) (_ : Ledger) : Call → Prop
  | .alloc => True
  | .free addr => Below size addr

instance (s : Ledger) : DecidablePred (FreesBelow size s)
  | .alloc => inferInstanceAs (Decidable True)
  | .free addr => inferInstanceAs (Decidable (Below size addr))

/-- `free_blk` accepts the address just when it is that of a block that is handed out,
does nothing otherwise, and does not leave the array. -/
structure ExactAt (s : Ledger) (addr : ℤ) : Prop where
  answers : ∃ r p', freeBlkPtr s.pool addr = some (r, p') ∧ (r = 0 ↔ addr ∈ s.outstanding) ∧
    (r ≠ 0 → r = -1 ∧ p' = s.pool)
  index : ∀ i, s.pool.index addr = some i → 0 ≤ i ∧ i < s.pool.nblks

theorem freeBlkPtr_pool (h : Kept (memPoolCreate size nBlks saddr) s) (hsize : size < 2 ^ 31)
    (hn : nBlks < 2 ^ 31) (hbelow : Below size addr) :
    freeBlkPtr s.pool addr = freeBlk s.pool addr := by
  have hsound := h.sound hsize hn
  refine freeBlkPtr_eq hbelow.1 h.gives.ok.size_pos.le ?_
  rw [hsound.size_eq]
  exact hbelow.2

theorem Kept.span (h : Kept (memPoolCreate size nBlks saddr) s) (hsize : size < 2 ^ 31)
    (hn : nBlks < 2 ^ 31) : s.pool.eaddr < s.pool.saddr + 2 ^ 32 := by
  have hsound := h.sound hsize hn
  rw [hsound.eaddr, hsound.saddr_eq]
  have hlt := poolBytes_lt size nBlks
  omega

theorem Kept.ptrCall {c : Call} (h : Kept (memPoolCreate size nBlks saddr) s)
    (hsize : size < 2 ^ 31) (hn : nBlks < 2 ^ 31) (hc : FreesBelow size s c)
    (hcall : s.ptrCall c = some s') : Kept (memPoolCreate size nBlks saddr) s' := by
  cases c with
  | alloc =>
    obtain ⟨s'', hs'', hkept⟩ := h.call (c := .alloc) trivial
    rw [Ledger.ptrCall, hs''] at hcall
    exact Option.some.inj hcall ▸ hkept
  | free addr =>
    rw [Ledger.ptrCall, freeBlkPtr_pool h hsize hn hc] at hcall
    by_cases hout : addr ∈ s.outstanding
    · obtain ⟨p', hfree, hgives, hfixed⟩ := h.gives.free hout
      rw [hfree] at hcall
      rw [← Option.some.inj hcall]
      exact ⟨hgives, fun a ha ↦ h.returned_of_fixed hgives.ok hfixed ha, hfixed.trans h.fixed⟩
    · obtain hfree | ⟨hfree, -⟩ := h.gives.free_other (h.span hsize hn) hout
      · rw [hfree, Option.map_some, List.erase_of_not_mem hout] at hcall
        exact Option.some.inj hcall ▸ h
      · rw [hfree] at hcall
        cases hcall

def SmallPad (size nBlks : ℕ) :
    Prop := machineAlignement < size ∨ size * nBlks % machineAlignement = 0

instance : Decidable (SmallPad size nBlks) := inferInstanceAs (Decidable (_ ∨ _))

theorem smallPad_iff (hsize : 1 ≤ size) (hfits : size * nBlks < 2 ^ 31) :
    SmallPad size nBlks ↔ poolBytes size nBlks < size * nBlks + size := by
  have hmod : size * nBlks % 2 ^ 32 = size * nBlks := Nat.mod_eq_of_lt (by omega)
  unfold SmallPad poolBytes machineAlignement
  simp only [hmod]
  by_cases halign : size * nBlks % 8 = 0
  · rw [if_pos halign]
    omega
  · rw [if_neg halign]
    omega

theorem Kept.exactAt (h : Kept (memPoolCreate size nBlks saddr) s) (hsize : 1 ≤ size)
    (hfits : size * nBlks < 2 ^ 31) (hsize' : size < 2 ^ 31) (hn : nBlks < 2 ^ 31)
    (hpad : SmallPad size nBlks) (hbelow : Below size addr) : ExactAt s addr := by
  have hptr := freeBlkPtr_pool h hsize' hn hbelow
  have hanswers : ∃ r p', freeBlkPtr s.pool addr = some (r, p') ∧ (r = 0 ↔ addr ∈ s.outstanding) ∧
      (r ≠ 0 → r = -1 ∧ p' = s.pool) := by
    rw [hptr]
    by_cases hout : addr ∈ s.outstanding
    · obtain ⟨p', hfree, -⟩ := h.gives.free hout
      exact ⟨0, p', hfree, iff_of_true rfl hout, fun hne ↦ absurd rfl hne⟩
    · obtain hfree | ⟨-, hbehind, hin⟩ := h.gives.free_other (h.span hsize' hn) hout
      · exact ⟨-1, s.pool, hfree, iff_of_false (by decide) hout, fun _ ↦ ⟨rfl, rfl⟩⟩
      · exfalso
        have hsound := h.sound hsize' hn
        rw [hsound.eaddr] at hin
        rw [hsound.saddr_eq, hsound.nblks_eq] at hbehind
        rw [hsound.size_eq] at hin hbehind
        have hbytes := (smallPad_iff hsize hfits).mp hpad
        have hbytes' : (poolBytes size nBlks : ℤ) < size * nBlks + size := by exact_mod_cast hbytes
        omega
  refine ⟨hanswers, fun i hi ↦ ?_⟩
  obtain ⟨r, p', hfree, -⟩ := hanswers
  rw [h.gives.ok.nblks]
  exact index_lt_of_freeBlkPtr h.gives.ok.size_pos hfree hi

theorem Kept.not_exactAt (h : Kept (memPoolCreate size nBlks saddr) s) (hsize : 1 ≤ size)
    (hfits : size * nBlks < 2 ^ 31) (hsize' : size < 2 ^ 31) (hn : nBlks < 2 ^ 31)
    (hpad : ¬SmallPad size nBlks) (hbelow : Below size (saddr + size * nBlks)) :
    ¬ExactAt s (saddr + size * nBlks) := by
  intro hexact
  have hsound := h.sound hsize' hn
  have hbytes := mt (smallPad_iff hsize hfits).mpr hpad
  have hbytes' : (size : ℤ) * nBlks + size ≤ poolBytes size nBlks := by
    exact_mod_cast not_lt.mp hbytes
  have hfits' : (size : ℤ) * nBlks < 2 ^ 31 := by exact_mod_cast hfits
  have hoffset : int (saddr + size * nBlks - s.pool.saddr) = nBlks * s.pool.size := by
    rw [hsound.saddr_eq, hsound.size_eq, add_sub_cancel_left,
      int_eq (by positivity) hfits', mul_comm]
  have hindex : s.pool.index (saddr + size * nBlks) = some (nBlks : ℤ) := by
    have hrange : s.pool.saddr ≤ saddr + size * nBlks ∧
        (saddr + size * nBlks + s.pool.size) % 2 ^ 64 ≤ s.pool.eaddr := by
      rw [hsound.saddr_eq, hsound.eaddr, hsound.size_eq]
      have hwrap := Int.emod_eq_of_lt (by have := hbelow.1; omega) hbelow.2
      rw [hwrap]
      have hpos : (0 : ℤ) ≤ size * nBlks := by positivity
      omega
    have hsize_pos := h.gives.ok.size_pos
    simp only [MemInfo.index, hoffset, Int.mul_tmod_left, Int.mul_tdiv_cancel _ hsize_pos.ne',
      and_true, if_pos hrange]
  have hlt := (hexact.index _ hindex).2
  rw [hsound.nblks_eq] at hlt
  exact lt_irrefl _ hlt

end Ledger

section Contained

variable {size nBlks : ℕ} {saddr : ℤ}

/-- The pool has all its blocks: as many as it says, each inside of its memory, and no
two of them overlap. -/
structure Contained (size : ℕ) (p : MemInfo) : Prop where
  length : p.addrBlks.length = p.nblks.toNat
  address : ∀ b ∈ p.addrBlks, b.isSome
  apart : ∀ (i j : ℕ) (a b : ℤ), p.addrBlks[i]? = some (some a) →
    p.addrBlks[j]? = some (some b) → i ≠ j →
    a + size ≤ b ∨ b + size ≤ a
  inside : ∀ (i : ℕ) (a : ℤ), p.addrBlks[i]? = some (some a) → p.saddr ≤ a ∧ a + size ≤ p.eaddr

/-- The size of the memory does not overflow, and neither does the place of a block. -/
structure NoOverflow (size nBlks : ℕ) : Prop where
  bytes : size * nBlks < 2 ^ 32
  aligned : size * nBlks % machineAlignement = 0 ∨ size * nBlks + machineAlignement < 2 ^ 32
  last : size * (nBlks - 1) < 2 ^ 31

theorem le_poolBytes_iff : size * nBlks ≤ poolBytes size nBlks ↔
    size * nBlks < 2 ^ 32 ∧
      (size * nBlks % machineAlignement = 0 ∨ size * nBlks + machineAlignement < 2 ^ 32) := by
  have hlt := poolBytes_lt size nBlks
  unfold poolBytes machineAlignement at *
  generalize size * nBlks = bytes at *
  by_cases hbytes : bytes < 2 ^ 32
  · simp only [Nat.mod_eq_of_lt hbytes] at hlt ⊢
    by_cases halign : bytes % 8 = 0
    · rw [if_pos halign]
      omega
    · rw [if_neg halign] at hlt ⊢
      omega
  · omega

theorem addrBlks_memPoolCreate {i : ℕ} {b : Option ℤ} :
    (memPoolCreate size nBlks saddr).addrBlks[i]? = some b ↔
      i < (int nBlks).toNat ∧ b = some (saddr + int (i * int size)) := by
  rw [memPoolCreate, buildFreeMemBlkList, List.getElem?_map]
  by_cases hi : i < (int nBlks).toNat
  · rw [List.getElem?_range hi]
    simp [hi, eq_comm]
  · rw [List.getElem?_eq_none (by simpa using hi)]
    simp [hi]

theorem int_nonpos {n : ℕ} (h : 2 ^ 31 ≤ n) (h' : n < 2 ^ 32) : int n < 0 := by
  rw [int, Int.bmod_def]
  omega

theorem place_eq (hlast : size * (nBlks - 1) < 2 ^ 31) {i : ℕ} (hi : i < nBlks) :
    int (i * int size) = i * size := by
  obtain rfl | hpos := Nat.eq_zero_or_pos i
  · rw [Nat.cast_zero, zero_mul, zero_mul]
    rfl
  · have hmul : i * size ≤ size * (nBlks - 1) := by
      rw [mul_comm]
      exact Nat.mul_le_mul_left size (by omega)
    have hle : size ≤ i * size := Nat.le_mul_of_pos_left size hpos
    rw [int_eq (n := size) (by omega) (by omega)]
    have hcast : (i : ℤ) * size < 2 ^ 31 := by
      exact_mod_cast lt_of_le_of_lt hmul hlast
    exact int_eq (by positivity) hcast

theorem contained_of
    (hapart : ∀ (i j : ℕ) (a b : ℤ), (memPoolCreate size nBlks saddr).addrBlks[i]? = some (some a) →
      (memPoolCreate size nBlks saddr).addrBlks[j]? = some (some b) → i ≠ j →
      a + size ≤ b ∨ b + size ≤ a)
    (hinside : ∀ (i : ℕ) (a : ℤ), (memPoolCreate size nBlks saddr).addrBlks[i]? = some (some a) →
      saddr ≤ a ∧ a + size ≤ saddr + poolBytes size nBlks) :
    Contained size (memPoolCreate size nBlks saddr) := by
  refine ⟨?_, ?_, hapart, hinside⟩
  · simp [memPoolCreate, buildFreeMemBlkList]
  · intro b hb
    obtain ⟨i, hi⟩ := List.mem_iff_getElem?.mp hb
    rw [(addrBlks_memPoolCreate.mp hi).2]
    rfl

theorem NoOverflow.contained (h : NoOverflow size nBlks) (hn : nBlks < 2 ^ 31) :
    Contained size (memPoolCreate size nBlks saddr) := by
  have hint : (int nBlks).toNat = nBlks := by
    rw [int_eq (by omega) (by omega), Int.toNat_natCast]
  have hbytes : (size : ℤ) * nBlks ≤ poolBytes size nBlks := by
    exact_mod_cast le_poolBytes_iff.mpr ⟨h.bytes, h.aligned⟩
  have hplace : ∀ (i : ℕ) (a : ℤ), (memPoolCreate size nBlks saddr).addrBlks[i]? = some (some a) →
      i < nBlks ∧ a = saddr + i * size := by
    intro i a hi
    obtain ⟨hlt, ha⟩ := addrBlks_memPoolCreate.mp hi
    rw [hint] at hlt
    rw [place_eq h.last hlt] at ha
    exact ⟨hlt, Option.some.inj ha⟩
  have hstep : ∀ i j : ℕ, i < j → (i : ℤ) * size + size ≤ j * size := by
    intro i j hij
    have hmul : (i + 1) * size ≤ j * size := Nat.mul_le_mul_right size hij
    rw [add_mul, one_mul] at hmul
    exact_mod_cast hmul
  refine contained_of ?_ ?_
  · intro i j a b hi hj hij
    obtain ⟨-, rfl⟩ := hplace i a hi
    obtain ⟨-, rfl⟩ := hplace j b hj
    obtain hlt | hgt := Nat.lt_or_gt_of_ne hij
    · have := hstep i j hlt
      exact .inl (by omega)
    · have := hstep j i hgt
      exact .inr (by omega)
  · intro i a hi
    obtain ⟨hlt, rfl⟩ := hplace i a hi
    have hend := hstep i nBlks hlt
    rw [mul_comm (nBlks : ℤ)] at hend
    have hpos : (0 : ℤ) ≤ i * size :=
      Int.mul_nonneg (Int.natCast_nonneg i) (Int.natCast_nonneg size)
    omega

theorem Contained.noOverflow (h : Contained size (memPoolCreate size nBlks saddr))
    (hn : nBlks < 2 ^ 31) : NoOverflow size nBlks := by
  have hint : (int nBlks).toNat = nBlks := by
    rw [int_eq (by omega) (by omega), Int.toNat_natCast]
  have hlt := poolBytes_lt size nBlks
  have hinside : ∀ i < nBlks, 0 ≤ int (i * int size) ∧
      int (i * int size) + size ≤ poolBytes size nBlks := by
    intro i hi
    have hblock := h.inside i _ (addrBlks_memPoolCreate.mpr ⟨hint.symm ▸ hi, rfl⟩)
    simp only [memPoolCreate] at hblock
    omega
  obtain rfl | hpos := Nat.eq_zero_or_pos nBlks
  · exact ⟨by omega, .inl rfl, by omega⟩
  have hfirst := hinside 0 hpos
  rw [Nat.cast_zero, zero_mul, int_eq le_rfl (by decide)] at hfirst
  have hlast : size * (nBlks - 1) < 2 ^ 31 := by
    by_contra hover
    have hsize_pos : 0 < size := by
      by_contra hzero
      rw [Nat.eq_zero_of_not_pos hzero, zero_mul] at hover
      exact hover (by decide)
    have htwo : 1 < nBlks := by
      by_contra hone
      rw [show nBlks - 1 = 0 by omega, mul_zero] at hover
      exact hover (by decide)
    have hsize : size < 2 ^ 31 := by
      by_contra hbig
      have hneg := int_nonpos (n := size) (by omega) (by omega)
      have hblock := (hinside 1 htwo).1
      rw [Nat.cast_one, one_mul, int, Int.bmod_def] at hblock
      rw [int, Int.bmod_def] at hneg hblock
      omega
    -- The first block whose place is no `int`.
    let i := (2 ^ 31 - 1) / size + 1
    have hge : 2 ^ 31 - 1 < size * i := Nat.lt_mul_div_succ _ hsize_pos
    have hle : (2 ^ 31 - 1) / size * size ≤ 2 ^ 31 - 1 := Nat.div_mul_le_self _ _
    have hi : i < nBlks := by
      have hlt' : (2 ^ 31 - 1) / size * size < (nBlks - 1) * size := by
        rw [mul_comm (nBlks - 1)]
        omega
      have := lt_of_mul_lt_mul_right hlt' (Nat.zero_le size)
      omega
    have hneg := int_nonpos (n := size * i) (by omega) (by
      rw [show size * i = (2 ^ 31 - 1) / size * size + size by simp only [i]; ring]
      omega)
    have hblock := (hinside i hi).1
    rw [int_eq (n := size) (by omega) (by omega), mul_comm] at hblock
    push_cast at hneg
    omega
  have hbytes : size * nBlks ≤ poolBytes size nBlks := by
    have hblock := (hinside (nBlks - 1) (by omega)).2
    rw [place_eq hlast (by omega)] at hblock
    have hmul : (nBlks - 1) * size + size = size * nBlks := by
      rw [← Nat.succ_mul, Nat.succ_eq_add_one, Nat.sub_add_cancel hpos, mul_comm]
    have hcast : (((nBlks - 1) * size + size : ℕ) : ℤ) ≤ poolBytes size nBlks := by
      exact_mod_cast hblock
    rw [hmul] at hcast
    exact_mod_cast hcast
  obtain ⟨hbytes, haligned⟩ := le_poolBytes_iff.mp hbytes
  exact ⟨hbytes, haligned, hlast⟩

/-- A pool has all its blocks just when it has none or nothing overflows. The count is
given by its 32 bits, which from 2 ^ 31 on are those of a negative `int`. -/
theorem pool_contains_blocks_iff (size nBlks : ℕ) (saddr : ℤ) (hn : nBlks < 2 ^ 32) :
    Contained size (memPoolCreate size nBlks saddr) ↔ 2 ^ 31 ≤ nBlks ∨ NoOverflow size nBlks := by
  by_cases hneg : 2 ^ 31 ≤ nBlks
  · refine iff_of_true ?_ (.inl hneg)
    have hint : (int nBlks).toNat = 0 := Int.toNat_of_nonpos (int_nonpos hneg hn).le
    have hnil : (memPoolCreate size nBlks saddr).addrBlks = [] := by
      simp [memPoolCreate, buildFreeMemBlkList, hint]
    refine contained_of ?_ ?_
    · intro i j a b hi
      rw [hnil] at hi
      cases hi
    · intro i a hi
      rw [hnil] at hi
      cases hi
  · rw [or_iff_right hneg]
    exact ⟨fun h ↦ h.noOverflow (by omega), fun h ↦ h.contained (by omega)⟩

/-- The pool of a hash table with 256 buckets. -/
theorem pool_contains_blocks_iff_buckets :
    Contained (8 * 256) (memPoolCreate (8 * 256) 256 4096) :=
  (pool_contains_blocks_iff (8 * 256) 256 4096 (by decide)).mpr
    (.inr ⟨by decide, by decide, by decide⟩)

/-- The pool of a hash table with 23171 buckets, which gets 194632 bytes for more than
2 ^ 32. -/
theorem pool_too_small_for_blocks :
    ¬∀ (size nBlks : ℕ) (saddr : ℤ), nBlks < 2 ^ 32 → 0 < saddr →
      Contained size (memPoolCreate size nBlks saddr) := by
  intro h
  have hcontained := h (8 * 23171) 23171 4096 (by decide) (by decide)
  exact absurd (hcontained.noOverflow (by decide)).bytes (by decide)

end Contained

end Layer3Switch.Mem
