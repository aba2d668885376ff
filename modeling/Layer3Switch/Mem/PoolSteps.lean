import Layer3Switch.Mem.Pool

namespace Layer3Switch.Mem

/-- A call of `alloc_block` or `free_blk` under way. Neither takes a lock, so other
tasks come in between its accesses to the pool. An access reads what `next` goes on
with, or writes. -/
inductive BlockCall where
  | ret (r : Option ℤ)
  | access (write : MemInfo → MemInfo) (next : MemInfo → BlockCall)

namespace BlockCall

def load {α : Type} (read : MemInfo → α) (next : α → BlockCall) : BlockCall :=
  .access id fun p ↦ next (read p)

def store (write : MemInfo → MemInfo) (next : BlockCall) : BlockCall := .access write fun _ ↦ next

/-- What is left of the call is made without a break. -/
def finish : BlockCall → MemInfo → Option ℤ × MemInfo
  | .ret r, p => (r, p)
  | .access write next, p => (next p).finish (write p)

/-- The block at a place where an address was seen. The address is read once more. -/
def allocAt (i : ℕ) : BlockCall :=
  load (·.addrBlks[i]?.join) fun retaddr ↦
    store (fun p ↦ { p with addrBlks := p.addrBlks.set i none }) <|
      load (·.fblks) fun fblks ↦ store ({ · with fblks := fblks - 1 }) <|
        load (·.useblks) fun useblks ↦ store ({ · with useblks := useblks + 1 }) (.ret retaddr)

/-- The search through `k` places from `i` on. -/
def allocFrom : ℕ → ℕ → BlockCall
  | 0, _ => .ret none
  | k + 1, i => load (·.addrBlks[i]?.join) fun blk ↦
      if blk = none then allocFrom k (i + 1) else allocAt i

def allocBlock (nblks : ℤ) : BlockCall :=
  load (·.fblks) fun fblks ↦ if fblks = 0 then .ret none else allocFrom nblks.toNat 0

def freeAt (idx : ℕ) (addr : ℤ) : BlockCall :=
  load (·.addrBlks[idx]?.join) fun blk ↦
    if blk = none then
      store (fun p ↦ { p with addrBlks := p.addrBlks.set idx (some addr) }) <|
        load (·.fblks) fun fblks ↦ store ({ · with fblks := fblks + 1 }) <|
          load (·.useblks) fun useblks ↦ store ({ · with useblks := useblks - 1 }) (.ret (some 0))
    else .ret (some (-1))

/-- The checks of the address read only what never changes. There is no result where the
code divides by zero or leaves the array. -/
def freeBlk (p : MemInfo) (addr : ℤ) : Option BlockCall :=
  if p.saddr ≤ addr ∧ addr + p.size ≤ p.eaddr then
    let offset := int (addr - p.saddr)
    if p.size = 0 then none
    else if offset.tmod p.size ≠ 0 then some (.ret (some (-1)))
    else
      let idx := offset.tdiv p.size
      if idx < 0 ∨ p.addrBlks.length ≤ idx.toNat then none else some (freeAt idx.toNat addr)
  else some (.ret (some (-1)))

variable {p : MemInfo}

theorem allocFrom_finish {k i : ℕ} (h : p.addrBlks.length = i + k) :
    (allocFrom k i).finish p = match takeBlock (p.addrBlks.drop i) with
      | none => (none, p)
      | some (addr, blks) => (some addr, { p with
          addrBlks := p.addrBlks.take i ++ blks, fblks := p.fblks - 1
          useblks := p.useblks + 1 }) := by
  induction k generalizing i with
  | zero =>
    rw [List.drop_eq_nil_of_le (by omega)]
    rfl
  | succ k ih =>
    have hlt : i < p.addrBlks.length := by omega
    have hget := List.getElem?_eq_getElem hlt
    have hrest := ih (i := i + 1) (by omega)
    rw [List.drop_eq_getElem_cons hlt]
    cases hblk : p.addrBlks[i] with
    | none =>
      have hstep : (allocFrom (k + 1) i).finish p = (allocFrom k (i + 1)).finish p := by
        simp only [allocFrom, load, finish, hget, hblk, Option.join_some, if_true, id]
      rw [hstep, hrest, takeBlock]
      have htake : p.addrBlks.take (i + 1) = p.addrBlks.take i ++ [none] := by
        rw [← List.take_append_getElem hlt, hblk]
      cases takeBlock (p.addrBlks.drop (i + 1)) with
      | none => rfl
      | some x => simp only [Option.map_some, htake, List.append_assoc, List.singleton_append]
    | some addr =>
      have hset : p.addrBlks.set i none = p.addrBlks.take i ++ none :: p.addrBlks.drop (i + 1) :=
        List.set_eq_take_append_cons_drop.trans (if_pos hlt)
      simp [allocFrom, allocAt, load, store, finish, hget, hblk, hset, takeBlock]

theorem allocBlock_finish (h : p.nblks = p.addrBlks.length) :
    (allocBlock p.nblks).finish p = Mem.allocBlock p := by
  simp only [allocBlock, load, finish, Mem.allocBlock, id]
  by_cases hzero : p.fblks = 0
  · rw [if_pos hzero, if_pos hzero]
    rfl
  · rw [if_neg hzero, if_neg hzero, allocFrom_finish (by rw [h]; simp), List.drop_zero]
    cases takeBlock p.addrBlks <;> rfl

theorem freeBlk_finish (addr : ℤ) :
    (freeBlk p addr).map (fun c ↦ (c.finish p).2) = (Mem.freeBlk p addr).map Prod.snd := by
  by_cases hin : p.saddr ≤ addr ∧ addr + p.size ≤ p.eaddr
  case neg => rw [freeBlk, Mem.freeBlk, if_neg hin, if_neg hin]; rfl
  rw [freeBlk, Mem.freeBlk, if_pos hin, if_pos hin, freeInRange]
  generalize int (addr - p.saddr) = offset
  by_cases hsize : p.size = 0
  case pos => rw [if_pos hsize, if_pos hsize]; rfl
  rw [if_neg hsize, if_neg hsize]
  by_cases hmod : offset.tmod p.size ≠ 0
  case pos => rw [if_pos hmod, if_pos hmod]; rfl
  rw [if_neg hmod, if_neg hmod]
  dsimp only
  generalize offset.tdiv p.size = idx
  by_cases hneg : idx < 0
  case pos => rw [if_pos (.inl hneg), if_pos hneg]; rfl
  by_cases hlen : p.addrBlks.length ≤ idx.toNat
  case pos =>
    rw [if_pos (.inr hlen), if_neg hneg, List.getElem?_eq_none hlen]
    rfl
  have hget := List.getElem?_eq_getElem (not_le.mp hlen)
  rw [if_neg (not_or.mpr ⟨hneg, hlen⟩), if_neg hneg]
  cases hblk : p.addrBlks[idx.toNat] with
  | none => simp [freeAt, load, store, finish, hget, hblk]
  | some a => simp [freeAt, load, finish, hget, hblk]

end BlockCall

end Layer3Switch.Mem
