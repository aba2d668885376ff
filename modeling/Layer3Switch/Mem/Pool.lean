import Layer3Switch.Lib.Run
import Mathlib.Data.List.Sigma

namespace Layer3Switch.Mem

open Lib

/-- `struct mem_info`. Addresses are integers, and a null pointer is `none`. A
pool is passed as it is, not by its `memid`. -/
structure MemInfo where
  saddr : ℤ
  eaddr : ℤ
  addrBlks : List (Option ℤ)
  nblks : ℤ
  useblks : ℤ
  fblks : ℤ
  size : ℤ
  deriving DecidableEq, Repr

def int (n : ℤ) : ℤ := n.bmod (2 ^ 32)

theorem int_eq {n : ℤ} (h : 0 ≤ n) (h' : n < 2 ^ 31) : int n = n := by
  rw [int, Int.bmod_def]
  omega

def machineAlignement : ℕ := 8

def poolBytes (size nBlks : ℕ) : ℕ :=
  let bytes := size * nBlks % 2 ^ 32
  if bytes % machineAlignement = 0 then bytes else (bytes + machineAlignement) % 2 ^ 32

def buildFreeMemBlkList (saddr size nblks : ℤ) : List (Option ℤ) :=
  (List.range nblks.toNat).map fun i : ℕ ↦ some (saddr + int (i * size))

def memPoolCreate (size nBlks : ℕ) (saddr : ℤ) : MemInfo where
  saddr := saddr
  eaddr := saddr + poolBytes size nBlks
  addrBlks := buildFreeMemBlkList saddr (int size) (int nBlks)
  nblks := int nBlks
  useblks := 0
  fblks := int nBlks
  size := int size

def takeBlock : List (Option ℤ) → Option (ℤ × List (Option ℤ))
  | [] => none
  | some addr :: l => some (addr, none :: l)
  | none :: l => (takeBlock l).map fun x ↦ (x.1, none :: x.2)

def allocBlock (p : MemInfo) : Option ℤ × MemInfo :=
  if p.fblks = 0 then (none, p)
  else
    match takeBlock p.addrBlks with
    | none => (none, p)
    | some (addr, blks) =>
      (some addr, { p with addrBlks := blks, fblks := p.fblks - 1, useblks := p.useblks + 1 })

/-- `free_blk` for an address that passed `in_range`. There is no result where the
code divides by zero or leaves the array. -/
def freeInRange (p : MemInfo) (addr : ℤ) : Option (ℤ × MemInfo) :=
  let offset := int (addr - p.saddr)
  if p.size = 0 then none
  else if offset.tmod p.size ≠ 0 then some (-1, p)
  else
    let idx := offset.tdiv p.size
    if idx < 0 then none
    else
      match p.addrBlks[idx.toNat]? with
      | none => none
      | some none =>
        some (0, { p with
          addrBlks := p.addrBlks.set idx.toNat (some addr)
          fblks := p.fblks + 1
          useblks := p.useblks - 1 })
      | some (some _) => some (-1, p)

def freeBlk (p : MemInfo) (addr : ℤ) : Option (ℤ × MemInfo) :=
  if p.saddr ≤ addr ∧ addr + p.size ≤ p.eaddr then freeInRange p addr else some (-1, p)

def MemInfo.block (p : MemInfo) (i : ℕ) : ℤ := p.saddr + i * p.size

section Taken

variable (f : ℕ → ℤ)

def taken (l : List (Option ℤ)) : List ℤ :=
  l.zipIdx.filterMap fun x ↦ if x.1 = none then some (f x.2) else none

variable {f} {l : List (Option ℤ)} {i : ℕ} {addr : ℤ}

theorem mem_taken {a : ℤ} : a ∈ taken f l ↔ ∃ i, l[i]? = some none ∧ a = f i := by
  simp only [taken, List.mem_filterMap, Prod.exists, List.mk_mem_zipIdx_iff_getElem?]
  constructor
  · rintro ⟨b, i, hi, ha⟩
    split at ha
    · rename_i hb
      exact ⟨i, hb ▸ hi, (Option.some.inj ha).symm⟩
    · cases ha
  · rintro ⟨i, hi, rfl⟩
    exact ⟨none, i, hi, if_pos rfl⟩

theorem taken_perm {l₁ l₂ : List (Option ℤ)} :
    (taken f (l₁ ++ none :: l₂)).Perm (f l₁.length :: taken f (l₁ ++ some addr :: l₂)) := by
  simp [taken, List.zipIdx_append, List.filterMap_append]

theorem length_taken : (taken f l).length + l.countP Option.isSome = l.length := by
  have hcount : (taken f l).length = l.countP fun b ↦ b = none := by
    rw [taken, List.length_filterMap_eq_countP]
    conv_rhs => rw [← List.zipIdx_map_fst 0 l, List.countP_map]
    congr 1
    funext x
    by_cases hx : x.1 = none <;> simp [hx]
  rw [hcount, add_comm, List.length_eq_countP_add_countP Option.isSome]
  congr 2
  funext b
  cases b <;> rfl

theorem nodup_taken (hf : Function.Injective f) : (taken f l).Nodup := by
  refine List.Nodup.filterMap ?_ (List.Nodup.of_map _ (List.nodup_zipIdx_map_snd l))
  rintro ⟨b, i⟩ ⟨b', i'⟩ a ha ha'
  simp only [Option.mem_def, Option.ite_none_right_eq_some, Option.some.injEq] at ha ha'
  obtain ⟨rfl, rfl⟩ := ha
  obtain ⟨rfl, heq⟩ := ha'
  rw [hf heq]

end Taken

theorem takeBlock_cases (l : List (Option ℤ)) :
    takeBlock l = none ∧ l.countP Option.isSome = 0 ∨
    ∃ l₁ addr l₂, l = l₁ ++ some addr :: l₂ ∧ takeBlock l = some (addr, l₁ ++ none :: l₂) := by
  induction l with
  | nil => exact .inl ⟨rfl, rfl⟩
  | cons b l ih =>
    cases b with
    | some addr => exact .inr ⟨[], addr, l, rfl, rfl⟩
    | none =>
      obtain ⟨hnone, hcount⟩ | ⟨l₁, addr, l₂, rfl, htake⟩ := ih
      · refine .inl ⟨?_, ?_⟩
        · rw [takeBlock, hnone]
          rfl
        · rw [List.countP_cons, hcount]
          rfl
      · refine .inr ⟨none :: l₁, addr, l₂, rfl, ?_⟩
        rw [takeBlock, htake]
        rfl

/-- The numbers of a pool agree with its array, whose entries are null or the
address that belongs at their place. -/
structure MemInfo.Ok (p : MemInfo) : Prop where
  saddr_pos : 0 < p.saddr
  size_pos : 0 < p.size
  nblks : p.nblks = p.addrBlks.length
  fits : p.size * p.nblks < 2 ^ 31
  eaddr : p.saddr + p.size * p.nblks ≤ p.eaddr
  entry : ∀ i addr, p.addrBlks[i]? = some (some addr) → addr = p.block i
  fblks : p.fblks = p.addrBlks.countP Option.isSome
  total : p.fblks + p.useblks = p.nblks

def MemInfo.used (p : MemInfo) : List ℤ := taken p.block p.addrBlks

structure Gives (p : MemInfo) (out : List ℤ) : Prop where
  ok : p.Ok
  out : out.Perm p.used

def MemInfo.fixed (p : MemInfo) : ℤ × ℤ × ℤ × ℤ := (p.saddr, p.eaddr, p.nblks, p.size)

section Pool

variable {p p' : MemInfo} {out : List ℤ} {addr : ℤ}

theorem MemInfo.Ok.block_injective (h : p.Ok) : Function.Injective p.block := by
  intro i j hij
  have hmul : (i : ℤ) * p.size = j * p.size := by
    unfold MemInfo.block at hij
    omega
  have hsize := h.size_pos
  exact Int.ofNat_inj.mp (Int.eq_of_mul_eq_mul_right hsize.ne' hmul)

theorem Gives.perm {out' : List ℤ} (h : Gives p out) (hout : out'.Perm out) : Gives p out' :=
  ⟨h.ok, hout.trans h.out⟩

theorem Gives.nodup (h : Gives p out) : out.Nodup :=
  h.out.nodup_iff.mpr (nodup_taken h.ok.block_injective)

theorem Gives.mem_iff (h : Gives p out) : addr ∈ out ↔ ∃ i, p.addrBlks[i]? = some none ∧
    addr = p.block i := by
  rw [h.out.mem_iff]
  exact mem_taken

theorem Gives.length (h : Gives p out) : (out.length : ℤ) + p.fblks = p.nblks := by
  have hlen := length_taken (f := p.block) (l := p.addrBlks)
  rw [h.ok.fblks, h.ok.nblks, h.out.length_eq]
  exact_mod_cast hlen

theorem Gives.useblks (h : Gives p out) : p.useblks = out.length := by
  have hlen := h.length
  have htotal := h.ok.total
  omega

theorem MemInfo.Ok.block_bounds (h : p.Ok) {i : ℕ} (hi : i < p.addrBlks.length) :
    p.saddr ≤ p.block i ∧ p.block i + p.size ≤ p.saddr + p.size * p.nblks := by
  have hsize := h.size_pos
  have hlow : 0 ≤ (i : ℤ) * p.size := Int.mul_nonneg (Int.natCast_nonneg i) hsize.le
  have hhigh : ((i : ℤ) + 1) * p.size ≤ p.nblks * p.size := by
    apply Int.mul_le_mul_of_nonneg_right _ hsize.le
    rw [h.nblks]
    exact_mod_cast hi
  rw [add_mul, one_mul, mul_comm p.nblks] at hhigh
  unfold MemInfo.block
  omega

theorem Gives.inside (h : Gives p out) (ha : addr ∈ out) :
    p.saddr ≤ addr ∧ addr + p.size ≤ p.eaddr := by
  obtain ⟨i, hi, rfl⟩ := h.mem_iff.mp ha
  obtain ⟨hlt, -⟩ := List.getElem?_eq_some_iff.mp hi
  have hbounds := h.ok.block_bounds hlt
  have headdr := h.ok.eaddr
  omega

theorem Gives.apart {addr' : ℤ} (h : Gives p out) (ha : addr ∈ out) (ha' : addr' ∈ out)
    (hne : addr ≠ addr') : addr + p.size ≤ addr' ∨ addr' + p.size ≤ addr := by
  obtain ⟨i, -, rfl⟩ := h.mem_iff.mp ha
  obtain ⟨j, -, rfl⟩ := h.mem_iff.mp ha'
  have hsize := h.ok.size_pos
  have hstep : ∀ i j : ℕ, i < j → p.block i + p.size ≤ p.block j := by
    intro i j hij
    have hmul : ((i : ℤ) + 1) * p.size ≤ j * p.size := by
      apply Int.mul_le_mul_of_nonneg_right _ hsize.le
      exact_mod_cast hij
    rw [add_mul, one_mul] at hmul
    unfold MemInfo.block
    omega
  obtain hij | rfl | hji := lt_trichotomy i j
  · exact .inl (hstep i j hij)
  · exact absurd rfl hne
  · exact .inr (hstep j i hji)

theorem poolBytes_ge {size nBlks : ℕ} (hfits : size * nBlks < 2 ^ 31) :
    size * nBlks ≤ poolBytes size nBlks := by
  have hmod : size * nBlks % 2 ^ 32 = size * nBlks := Nat.mod_eq_of_lt (by omega)
  unfold poolBytes machineAlignement
  simp only [hmod]
  by_cases halign : size * nBlks % 8 = 0
  · rw [if_pos halign]
  · rw [if_neg halign]
    omega

theorem memPoolCreate_eq {size nBlks : ℕ} (saddr : ℤ) (hsize : size < 2 ^ 31)
    (hn : nBlks < 2 ^ 31) : memPoolCreate size nBlks saddr =
      ⟨saddr, saddr + poolBytes size nBlks,
        (List.range nBlks).map fun i : ℕ ↦ some (saddr + int (i * size)),
        nBlks, 0, nBlks, size⟩ := by
  have hintSize : int size = size := int_eq (by omega) (by omega)
  have hintN : int nBlks = nBlks := int_eq (by omega) (by omega)
  rw [memPoolCreate, buildFreeMemBlkList, hintSize, hintN, Int.toNat_natCast]

theorem gives_memPoolCreate {size nBlks : ℕ} {saddr : ℤ} (hsize : 1 ≤ size) (hn : 1 ≤ nBlks)
    (hfits : size * nBlks < 2 ^ 31) (hsaddr : 0 < saddr) :
    Gives (memPoolCreate size nBlks saddr) [] := by
  have hsize' : size < 2 ^ 31 := lt_of_le_of_lt (Nat.le_mul_of_pos_right size hn) hfits
  have hn' : nBlks < 2 ^ 31 := lt_of_le_of_lt (Nat.le_mul_of_pos_left nBlks hsize) hfits
  have hprod : (size : ℤ) * nBlks < 2 ^ 31 := by exact_mod_cast hfits
  have hbytes : (size : ℤ) * nBlks ≤ poolBytes size nBlks := by
    exact_mod_cast poolBytes_ge hfits
  rw [memPoolCreate_eq saddr hsize' hn']
  generalize poolBytes size nBlks = bytes at hbytes
  have hcount : ((List.range nBlks).map fun i : ℕ ↦ some (saddr + int (i * size))).countP
      Option.isSome = nBlks := by
    rw [List.countP_map]
    exact (List.countP_eq_length.mpr fun _ _ ↦ rfl).trans List.length_range
  refine ⟨⟨hsaddr, Int.ofNat_lt.mpr hsize, ?_, hprod, ?_, ?_, ?_, add_zero _⟩, ?_⟩
  · simp
  · exact Int.add_le_add_left hbytes saddr
  · intro i addr hi
    rw [List.getElem?_map] at hi
    obtain ⟨j, hj, haddr⟩ := Option.map_eq_some_iff.mp hi
    obtain ⟨hlt, hij⟩ := List.getElem?_eq_some_iff.mp hj
    rw [List.getElem_range] at hij
    rw [List.length_range] at hlt
    subst hij
    have hmul : (i : ℤ) * size < 2 ^ 31 := by
      refine lt_of_le_of_lt ?_ hprod
      rw [mul_comm]
      exact_mod_cast Nat.mul_le_mul_left size hlt.le
    rw [int_eq (by positivity) hmul] at haddr
    exact (Option.some.inj haddr).symm
  · rw [hcount]
  · rw [List.nil_perm]
    apply List.eq_nil_of_length_eq_zero
    have hlen := length_taken (f := fun i : ℕ ↦ saddr + i * (size : ℤ))
      (l := (List.range nBlks).map fun i : ℕ ↦ some (saddr + int (i * size)))
    rw [hcount, List.length_map, List.length_range] at hlen
    exact Nat.add_eq_right.mp hlen

theorem MemInfo.Ok.replace {l₁ l₂ : List (Option ℤ)} {b b' : Option ℤ} {fblks useblks : ℤ}
    (h : p.Ok) (hl : p.addrBlks = l₁ ++ b :: l₂) (hb : ∀ a, b' = some a → a = p.block l₁.length)
    (hcount : fblks = (l₁ ++ b' :: l₂).countP Option.isSome) (htotal : fblks + useblks = p.nblks) :
    MemInfo.Ok
      { p with addrBlks := l₁ ++ b' :: l₂, fblks := fblks, useblks := useblks } where
  saddr_pos := h.saddr_pos
  size_pos := h.size_pos
  nblks := by
    rw [h.nblks, hl]
    simp
  fits := h.fits
  eaddr := h.eaddr
  entry := by
    intro i addr hi
    by_cases hil : i = l₁.length
    · subst hil
      rw [List.getElem?_append_right le_rfl, Nat.sub_self] at hi
      exact hb addr (Option.some.inj hi)
    · apply h.entry i addr
      rw [hl]
      obtain hlt | hgt := Nat.lt_or_gt_of_ne hil
      · rw [List.getElem?_append_left hlt] at hi ⊢
        exact hi
      · rw [List.getElem?_append_right hgt.le] at hi ⊢
        rw [List.getElem?_cons, if_neg (by omega)] at hi ⊢
        exact hi
  fblks := hcount
  total := htotal

theorem Gives.alloc (h : Gives p out) :
    allocBlock p = (none, p) ∧ (out.length : ℤ) = p.nblks ∨
    ∃ addr p', allocBlock p = (some addr, p') ∧ (out.length : ℤ) < p.nblks ∧ addr ∉ out ∧
      Gives p' (addr :: out) ∧ p'.fixed = p.fixed := by
  have hlen := h.length
  by_cases hzero : p.fblks = 0
  · refine .inl ⟨?_, by omega⟩
    rw [allocBlock, if_pos hzero]
  · have hfblks := h.ok.fblks
    obtain ⟨-, hnone⟩ | ⟨l₁, addr, l₂, hl, htake⟩ := takeBlock_cases p.addrBlks
    · rw [hnone] at hfblks
      exact absurd hfblks hzero
    · have haddr : addr = p.block l₁.length := by
        apply h.ok.entry
        rw [hl]
        simp
      have hmem : addr ∉ out := by
        rw [h.mem_iff]
        rintro ⟨i, hi, heq⟩
        have hi' := h.ok.block_injective (haddr.symm.trans heq)
        rw [← hi', hl] at hi
        simp at hi
      refine .inr ⟨addr, { p with
        addrBlks := l₁ ++ none :: l₂, fblks := p.fblks - 1, useblks := p.useblks + 1 },
        ?_, ?_, hmem, ⟨?_, ?_⟩, rfl⟩
      · rw [allocBlock, if_neg hzero, htake]
      · omega
      · refine h.ok.replace hl nofun ?_ ?_
        · rw [hfblks, hl]
          simp only [List.countP_append, List.countP_cons, Option.isSome_some, Option.isSome_none]
          push_cast
          omega
        · have htotal := h.ok.total
          omega
      · refine (h.out.cons addr).trans ?_
        rw [haddr, MemInfo.used, hl]
        exact taken_perm.symm

theorem freeInRange_of_mul {k : ℤ} (hsize : 0 < p.size) (hk : int (addr - p.saddr) = k * p.size) :
    freeInRange p addr =
      if k < 0 then none
      else
        match p.addrBlks[k.toNat]? with
        | none => none
        | some none =>
          some (0, { p with
            addrBlks := p.addrBlks.set k.toNat (some addr)
            fblks := p.fblks + 1
            useblks := p.useblks - 1 })
        | some (some _) => some (-1, p) := by
  have hmod : (k * p.size).tmod p.size = 0 := Int.mul_tmod_left _ _
  have hdiv : (k * p.size).tdiv p.size = k := Int.mul_tdiv_cancel _ hsize.ne'
  simp only [freeInRange, hk, if_neg hsize.ne', hmod, hdiv, ne_eq, not_true_eq_false, if_false]

theorem freeBlk_block {i : ℕ} (h : p.Ok) (hi : i < p.addrBlks.length) :
    freeBlk p (p.block i) =
      match p.addrBlks[i]? with
      | none => none
      | some none =>
        some (0, { p with
          addrBlks := p.addrBlks.set i (some (p.block i))
          fblks := p.fblks + 1
          useblks := p.useblks - 1 })
      | some (some _) => some (-1, p) := by
  obtain ⟨hlow, hhigh⟩ := h.block_bounds hi
  have hsize := h.size_pos
  have hfits := h.fits
  have headdr := h.eaddr
  have hrange : p.saddr ≤ p.block i ∧ p.block i + p.size ≤ p.eaddr := by omega
  have hmul : (0 : ℤ) ≤ i * p.size := by positivity
  have hoffset : int (p.block i - p.saddr) = i * p.size := by
    have hsub : p.block i - p.saddr = i * p.size := by
      rw [MemInfo.block]
      ring
    rw [hsub, int_eq hmul (by omega)]
  have hidx : ¬((i : ℤ) < 0) := by omega
  rw [freeBlk, if_pos hrange, freeInRange_of_mul hsize hoffset, if_neg hidx, Int.toNat_natCast]

theorem Gives.free (h : Gives p out) (ha : addr ∈ out) :
    ∃ p', freeBlk p addr = some (0, p') ∧ Gives p' (out.erase addr) ∧ p'.fixed = p.fixed := by
  obtain ⟨i, hi, rfl⟩ := h.mem_iff.mp ha
  obtain ⟨hlt, hnone⟩ := List.getElem?_eq_some_iff.mp hi
  have hl : p.addrBlks = p.addrBlks.take i ++ none :: p.addrBlks.drop (i + 1) := by
    conv_lhs => rw [← List.take_append_drop i p.addrBlks, List.drop_eq_getElem_cons hlt, hnone]
  have hlen : (p.addrBlks.take i).length = i := List.length_take_of_le hlt.le
  have hset : p.addrBlks.set i (some (p.block i)) =
      p.addrBlks.take i ++ some (p.block i) :: p.addrBlks.drop (i + 1) :=
    List.set_eq_take_append_cons_drop.trans (if_pos hlt)
  refine ⟨{ p with
    addrBlks := p.addrBlks.take i ++ some (p.block i) :: p.addrBlks.drop (i + 1)
    fblks := p.fblks + 1
    useblks := p.useblks - 1 }, ?_, ⟨?_, ?_⟩, rfl⟩
  · rw [freeBlk_block h.ok hlt, hi, hset]
  · refine h.ok.replace hl ?_ ?_ ?_
    · intro a ha
      rw [hlen]
      exact (Option.some.inj ha).symm
    · have hfblks := h.ok.fblks
      rw [hl] at hfblks
      simp only [List.countP_append, List.countP_cons, Option.isSome_some,
        Option.isSome_none] at hfblks ⊢
      push_cast at hfblks ⊢
      omega
    · have htotal := h.ok.total
      omega
  · have hperm : (taken p.block (p.addrBlks.take i ++ none :: p.addrBlks.drop (i + 1))).Perm
        (p.block (p.addrBlks.take i).length ::
          taken p.block (p.addrBlks.take i ++ some (p.block i) :: p.addrBlks.drop (i + 1))) :=
      taken_perm
    rw [← hl, hlen] at hperm
    have herase := (h.out.trans hperm).erase (p.block i)
    rw [List.erase_cons_head] at herase
    exact herase

theorem Gives.free_again {i : ℕ} (h : Gives p out) (hi : i < p.addrBlks.length)
    (ha : p.block i ∉ out) : freeBlk p (p.block i) = some (-1, p) := by
  rw [freeBlk_block h.ok hi, List.getElem?_eq_getElem hi]
  cases hb : p.addrBlks[i] with
  | some addr => rfl
  | none =>
    exfalso
    apply ha
    rw [h.mem_iff]
    exact ⟨i, by rw [List.getElem?_eq_getElem hi, hb], rfl⟩

end Pool

inductive Call where
  | alloc
  | free (addr : ℤ)

/-- A pool, every address that `alloc_block` has returned, and those that have
not been given back since. -/
structure Ledger where
  pool : MemInfo
  returned : List ℤ
  outstanding : List ℤ

namespace Ledger

def create (size nBlks : ℕ) (saddr : ℤ) : Ledger := ⟨memPoolCreate size nBlks saddr, [], []⟩

def call (s : Ledger) : Call → Option Ledger
  | .alloc =>
    match allocBlock s.pool with
    | (none, p) => some { s with pool := p }
    | (some addr, p) => some ⟨p, addr :: s.returned, addr :: s.outstanding⟩
  | .free addr =>
    (freeBlk s.pool addr).map fun x ↦
      { s with pool := x.2, outstanding := s.outstanding.erase addr }

def Earlier (s : Ledger) : Call → Prop
  | .alloc => True
  | .free addr => addr ∈ s.returned

instance (s : Ledger) : DecidablePred s.Earlier
  | .alloc => inferInstanceAs (Decidable True)
  | .free addr => inferInstanceAs (Decidable (addr ∈ s.returned))

/-- The pool's own record agrees with what was returned and given back. -/
structure Kept (p : MemInfo) (s : Ledger) : Prop where
  gives : Gives s.pool s.outstanding
  returned : ∀ addr ∈ s.returned, ∃ i < s.pool.addrBlks.length, addr = s.pool.block i
  fixed : s.pool.fixed = p.fixed

variable {s s' : Ledger} {p : MemInfo} {addr : ℤ}

theorem Kept.free_again (h : Kept p s) (hret : addr ∈ s.returned) (hout : addr ∉ s.outstanding) :
    freeBlk s.pool addr = some (-1, s.pool) := by
  obtain ⟨i, hi, rfl⟩ := h.returned addr hret
  exact h.gives.free_again hi hout

theorem Kept.returned_of_fixed {p' : MemInfo} (h : Kept p s) (hok : p'.Ok)
    (hfixed : p'.fixed = s.pool.fixed) {addr : ℤ} (ha : addr ∈ s.returned) :
    ∃ i < p'.addrBlks.length, addr = p'.block i := by
  simp only [MemInfo.fixed, Prod.mk.injEq] at hfixed
  obtain ⟨hsaddr, -, hnblks, hsize⟩ := hfixed
  obtain ⟨i, hi, rfl⟩ := h.returned addr ha
  refine ⟨i, ?_, ?_⟩
  · have hlen := h.gives.ok.nblks
    have hlen' := hok.nblks
    omega
  · rw [MemInfo.block, MemInfo.block, hsaddr, hsize]

theorem Kept.call {c : Call} (h : Kept p s) (hc : s.Earlier c) :
    ∃ s', s.call c = some s' ∧ Kept p s' := by
  cases c with
  | alloc =>
    obtain ⟨halloc, -⟩ | ⟨addr, p', halloc, -, -, hgives, hfixed⟩ := h.gives.alloc
    · refine ⟨s, ?_, h⟩
      rw [Ledger.call, halloc]
    · refine ⟨⟨p', addr :: s.returned, addr :: s.outstanding⟩, ?_, hgives, ?_,
        hfixed.trans h.fixed⟩
      · rw [Ledger.call, halloc]
      · intro a ha
        obtain rfl | ha := List.mem_cons.mp ha
        · obtain ⟨i, hi, heq⟩ := hgives.mem_iff.mp List.mem_cons_self
          exact ⟨i, (List.getElem?_eq_some_iff.mp hi).1, heq⟩
        · exact h.returned_of_fixed hgives.ok hfixed ha
  | free addr =>
    by_cases hout : addr ∈ s.outstanding
    · obtain ⟨p', hfree, hgives, hfixed⟩ := h.gives.free hout
      refine ⟨⟨p', s.returned, s.outstanding.erase addr⟩, ?_, hgives, ?_, hfixed.trans h.fixed⟩
      · rw [Ledger.call, hfree]
        rfl
      · exact fun a ha ↦ h.returned_of_fixed hgives.ok hfixed ha
    · refine ⟨s, ?_, h⟩
      rw [Ledger.call, h.free_again hc hout, List.erase_of_not_mem hout]
      rfl

theorem Kept.run {calls : List Call} (h : Kept p s)
    (hrun : Run Ledger.call Earlier s calls s') : Kept p s' := by
  refine hrun.invariant (I := Kept p) ?_ h
  intro t c t' ht hc hcall
  obtain ⟨u, hu, hkept⟩ := ht.call hc
  rw [hcall] at hu
  exact Option.some.inj hu ▸ hkept

/-- The properties of a pool of `nBlks` blocks of `size` bytes at `saddr`. -/
structure Sound (size nBlks : ℕ) (saddr : ℤ) (s : Ledger) : Prop where
  saddr_eq : s.pool.saddr = saddr
  size_eq : s.pool.size = size
  nblks_eq : s.pool.nblks = nBlks
  total : s.pool.fblks + s.pool.useblks = s.pool.nblks
  fblks : s.pool.fblks = s.pool.addrBlks.countP Option.isSome
  length : s.pool.addrBlks.length = nBlks
  entry : ∀ (i : ℕ) (b : Option ℤ), s.pool.addrBlks[i]? = some b →
    b = none ∨ b = some (saddr + i * size)
  nodup : s.outstanding.Nodup
  inside : ∀ addr ∈ s.outstanding, saddr ≤ addr ∧ addr + size ≤ s.pool.eaddr
  eaddr : s.pool.eaddr = saddr + poolBytes size nBlks
  apart : ∀ addr ∈ s.outstanding, ∀ addr' ∈ s.outstanding, addr ≠ addr' →
    addr + size ≤ addr' ∨ addr' + size ≤ addr
  full : (allocBlock s.pool).1 = none ↔ s.outstanding.length = nBlks
  again : ∀ addr ∈ s.returned, addr ∉ s.outstanding → freeBlk s.pool addr = some (-1, s.pool)
  answers : ∀ c, s.Earlier c → ∃ s', s.call c = some s'

theorem Kept.sound {size nBlks : ℕ} {saddr : ℤ} (hsize : size < 2 ^ 31) (hn : nBlks < 2 ^ 31)
    (h : Kept (memPoolCreate size nBlks saddr) s) : Sound size nBlks saddr s := by
  have hfixed := h.fixed
  rw [memPoolCreate_eq saddr hsize hn] at hfixed
  simp only [MemInfo.fixed, Prod.mk.injEq] at hfixed
  obtain ⟨hs, he, hk, hz⟩ := hfixed
  have hgives := h.gives
  refine ⟨hs, hz, hk, hgives.ok.total, hgives.ok.fblks, ?_, ?_, hgives.nodup, ?_, he, ?_, ?_, ?_,
    ?_⟩
  · have hlen := hgives.ok.nblks
    omega
  · intro i b hb
    cases b with
    | none => exact .inl rfl
    | some addr =>
      refine .inr ?_
      rw [hgives.ok.entry i addr hb, MemInfo.block, hs, hz]
  · intro addr ha
    have hinside := hgives.inside ha
    rw [hs, hz] at hinside
    exact hinside
  · intro addr ha addr' ha' hne
    have hapart := hgives.apart ha ha' hne
    rw [hz] at hapart
    exact hapart
  · obtain ⟨halloc, hlen⟩ | ⟨addr, p', halloc, hlen, -⟩ := hgives.alloc
    · rw [halloc]
      exact iff_of_true rfl (by omega)
    · rw [halloc]
      exact iff_of_false nofun (by omega)
  · exact fun addr hret hout ↦ h.free_again hret hout
  · intro c hc
    obtain ⟨s', hs', -⟩ := h.call hc
    exact ⟨s', hs'⟩

end Ledger

end Layer3Switch.Mem
