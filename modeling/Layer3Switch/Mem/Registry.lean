import Layer3Switch.Lib.Ends
import Layer3Switch.Mem.Pool

namespace Layer3Switch.Mem

open Lib

/-- A control block of the list `hd_mcb` with the pool that it describes. The mark says
that `free_mem` has been called for it. -/
structure Mcb where
  memid : ℤ
  info : MemInfo
  freed : Bool

def Mcb.badge (m : Mcb) : ℤ × Bool := (m.memid, m.freed)

/-- The list `hd_mcb` and the counter of `get_next_free_mcb`, with the identifiers that
`mem_pool_create` has returned and those that `mem_pool_delete` has accepted. -/
structure Registry where
  hdMcb : List Mcb
  i : ℤ
  created : List ℤ
  deleted : List ℤ

abbrev RegistryM := StateT Registry Option

namespace Registry

def find (memid : ℤ) : List Mcb → Option (Option Mcb)
  | [] => some none
  | pmem :: l =>
    if pmem.freed then none
    else if pmem.memid = memid then some (some pmem)
    else find memid l

def getMemInfo (memid : ℤ) : RegistryM (Option Mcb) :=
  fun s ↦ (find memid s.hdMcb).map fun p ↦ (p, s)

def memInit : Registry := ⟨[], 0, [], []⟩

def addToMcb (m : Mcb) : RegistryM Unit := fun s ↦
  if s.hdMcb.getLast?.any Mcb.freed then none
  else some ((), { s with hdMcb := s.hdMcb ++ [m], created := s.created ++ [m.memid] })

def memPoolCreate (size nBlks : ℕ) (mcb : Bool) (saddr : Option ℤ) : RegistryM ℤ := do
  let s ← get
  if !mcb then pure (-1)
  else if s.i + 1 = 2 ^ 31 then StateT.lift none
  else do
    set { s with i := s.i + 1 }
    match saddr with
    | none => pure (-1)
    | some addr => do
      addToMcb ⟨s.i + 1, Mem.memPoolCreate size nBlks addr, false⟩
      pure (s.i + 1)

def memPoolDelete (poolId : ℤ) : RegistryM ℤ := do
  match ← getMemInfo poolId with
  | none => pure (-1)
  | some p => do
    modify fun s ↦ { s with
      hdMcb := s.hdMcb.map fun m ↦ if m.memid = p.memid then { m with freed := true } else m
      deleted := s.deleted ++ [poolId] }
    pure 0

def putInfo (memid : ℤ) (info : MemInfo) : RegistryM Unit :=
  modify fun s ↦ { s with
    hdMcb := s.hdMcb.map fun m ↦ if m.memid = memid then { m with info := info } else m }

def allocBlock (memid : ℤ) : RegistryM (Option ℤ) := do
  match ← getMemInfo memid with
  | none => StateT.lift none
  | some p => do
    putInfo memid (Mem.allocBlock p.info).2
    pure (Mem.allocBlock p.info).1

def freeBlk (memid : ℤ) (addr : ℤ) : RegistryM ℤ := do
  match ← getMemInfo memid with
  | none => pure (-1)
  | some p => do
    let x ← StateT.lift (Mem.freeBlk p.info addr)
    putInfo memid x.2
    pure x.1

def defaultHashBuckets : ℕ := 52

def createHashTable (buckets : ℕ) (htable mcb : Bool) (saddr : Option ℤ) (bucketArray : Bool) :
    RegistryM Unit := do
  if !htable then pure ()
  else do
    let buckets := if buckets = 0 then defaultHashBuckets else buckets
    let poolId ← memPoolCreate (8 * buckets) buckets mcb saddr
    if poolId < 0 then pure ()
    else if !bucketArray then do
      let _ ← memPoolDelete poolId
    else pure ()

def destroyHashTable (poolId : ℤ) (entries : List ℤ) : RegistryM Unit := do
  entries.forM fun hentry ↦ do
    let _ ← freeBlk poolId hentry
  let _ ← memPoolDelete poolId

inductive PoolCall
  | create (size nBlks : ℕ) (mcb : Bool) (saddr : Option ℤ)
  | delete (poolId : ℤ)
  | alloc (memid : ℤ)
  | free (memid addr : ℤ)
  | createTable (buckets : ℕ) (htable mcb : Bool) (saddr : Option ℤ) (bucketArray : Bool)
  | destroyTable (poolId : ℤ) (entries : List ℤ)

def call : PoolCall → RegistryM Unit
  | .create size nBlks mcb saddr => do
    let _ ← memPoolCreate size nBlks mcb saddr
  | .delete poolId => do
    let _ ← memPoolDelete poolId
  | .alloc memid => do
    let _ ← allocBlock memid
  | .free memid addr => do
    let _ ← freeBlk memid addr
  | .createTable buckets htable mcb saddr bucketArray =>
    createHashTable buckets htable mcb saddr bucketArray
  | .destroyTable poolId entries => destroyHashTable poolId entries

def step (s : Registry) (c : PoolCall) : Option Registry := (call c s).map Prod.snd

/-- The list holds the pools that were created and not deleted, each once, and can be
walked along. -/
structure Exact (s : Registry) : Prop where
  registered : ∀ id, id ∈ s.hdMcb.map Mcb.memid ↔ id ∈ s.created ∧ id ∉ s.deleted
  once : (s.hdMcb.map Mcb.memid).Nodup
  lookup : ∀ id, ∃ p, getMemInfo id s = some (p, s) ∧ (p.isSome ↔ id ∈ s.created ∧ id ∉ s.deleted)
  again : ∀ id ∈ s.deleted, memPoolDelete id s = some (-1, s)
  live : ∀ m ∈ s.hdMcb, m.freed = false

section Lookup

variable {memid : ℤ} {l : List Mcb} {p : Mcb}

theorem find_eq_none (h : find memid l = some none) : memid ∉ l.map Mcb.memid := by
  induction l with
  | nil => exact List.not_mem_nil
  | cons m l ih =>
    rw [find] at h
    split_ifs at h with hfreed hid
    · cases h
    · rw [List.map_cons, List.mem_cons, not_or]
      exact ⟨Ne.symm hid, ih h⟩

theorem find_eq_some (h : find memid l = some (some p)) :
    p ∈ l ∧ p.memid = memid ∧ p.freed = false := by
  induction l with
  | nil => cases h
  | cons m l ih =>
    rw [find] at h
    split_ifs at h with hfreed hid
    · obtain rfl := Option.some.inj (Option.some.inj h)
      exact ⟨List.mem_cons_self, hid, Bool.eq_false_iff.mpr hfreed⟩
    · exact ⟨List.mem_cons_of_mem _ (ih h).1, (ih h).2⟩

theorem exists_find (memid : ℤ) (hlive : ∀ m ∈ l, m.freed = false) :
    ∃ p, find memid l = some p := by
  induction l with
  | nil => exact ⟨none, rfl⟩
  | cons m l ih =>
    rw [find, hlive m List.mem_cons_self]
    by_cases hid : m.memid = memid
    · exact ⟨some m, if_pos hid⟩
    · obtain ⟨p, hp⟩ := ih fun m hm ↦ hlive m (List.mem_cons_of_mem _ hm)
      exact ⟨p, (if_neg hid).trans hp⟩

theorem ends_getMemInfo {α : Type} {s : Registry} {f : Option Mcb → RegistryM α}
    {Q : α → Registry → Prop}
    (hnone : memid ∉ s.hdMcb.map Mcb.memid → Ends (f none) s Q)
    (hsome : ∀ p ∈ s.hdMcb, p.memid = memid → p.freed = false → Ends (f (some p)) s Q) :
    Ends (getMemInfo memid >>= f) s Q := by
  refine .bind fun p s' h ↦ ?_
  obtain ⟨p', hp, heq⟩ := Option.map_eq_some_iff.mp h
  obtain ⟨rfl, rfl⟩ := Prod.mk.inj heq
  cases p' with
  | none => exact hnone (find_eq_none hp)
  | some p =>
    obtain ⟨hmem, hid, hfreed⟩ := find_eq_some hp
    exact hsome p hmem hid hfreed

end Lookup

/-- Every control block stays in the list, and the deleted ones are marked. -/
structure Ok (s : Registry) : Prop where
  created : s.created = (s.hdMcb.map Mcb.badge).map Prod.fst
  nodup : s.created.Nodup
  counter : 0 ≤ s.i
  bound : ∀ id ∈ s.created, id ≤ s.i
  freed : ∀ b ∈ s.hdMcb.map Mcb.badge, b.2 = true ↔ b.1 ∈ s.deleted
  deleted : ∀ id ∈ s.deleted, id ∈ s.created

variable {s s' : Registry}

theorem ok_memInit : memInit.Ok :=
  ⟨rfl, List.nodup_nil, le_rfl, nofun, nofun, nofun⟩

theorem map_fst_badge (l : List Mcb) : (l.map Mcb.badge).map Prod.fst = l.map Mcb.memid :=
  List.map_map

theorem Ok.memids (h : s.Ok) : s.hdMcb.map Mcb.memid = s.created := by
  rw [h.created, map_fst_badge]

theorem Ok.exact_iff (h : s.Ok) : s.Exact ↔ s.deleted = [] := by
  constructor
  · intro hexact
    by_contra hne
    obtain ⟨id, hid⟩ := List.exists_mem_of_ne_nil _ hne
    have hreg : id ∈ s.hdMcb.map Mcb.memid := by
      rw [h.memids]
      exact h.deleted id hid
    exact ((hexact.registered id).mp hreg).2 hid
  · intro hnil
    have hmem : ∀ id, id ∈ s.created ∧ id ∉ s.deleted ↔ id ∈ s.created := by
      intro id
      rw [hnil]
      exact and_iff_left List.not_mem_nil
    have hlive : ∀ m ∈ s.hdMcb, m.freed = false := by
      intro m hm
      have hfreed : m.freed = true ↔ m.memid ∈ s.deleted := h.freed m.badge (List.mem_map_of_mem hm)
      rw [hnil] at hfreed
      exact Bool.eq_false_iff.mpr fun ht ↦ List.not_mem_nil (hfreed.mp ht)
    refine ⟨?_, ?_, ?_, ?_, hlive⟩
    · intro id
      rw [hmem, h.memids]
    · rw [h.memids]
      exact h.nodup
    · intro id
      obtain ⟨p, hp⟩ := exists_find id hlive
      refine ⟨p, congrArg (Option.map fun p ↦ (p, s)) hp, ?_⟩
      rw [hmem, ← h.memids]
      cases p with
      | none => exact iff_of_false nofun (find_eq_none hp)
      | some p =>
        obtain ⟨hmem, rfl, -⟩ := find_eq_some hp
        exact iff_of_true rfl (List.mem_map_of_mem hmem)
    · rw [hnil]
      exact nofun

structure Same (s s' : Registry) : Prop where
  badges : s'.hdMcb.map Mcb.badge = s.hdMcb.map Mcb.badge
  i : s.i ≤ s'.i
  created : s'.created = s.created
  deleted : s'.deleted = s.deleted

theorem Same.refl (s : Registry) : Same s s := ⟨rfl, le_rfl, rfl, rfl⟩

theorem Same.trans {s'' : Registry} (h : Same s s') (h' : Same s' s'') : Same s s'' :=
  ⟨h'.badges.trans h.badges, h.i.trans h'.i, h'.created.trans h.created,
    h'.deleted.trans h.deleted⟩

theorem Ok.same (h : s.Ok) (hsame : Same s s') : s'.Ok where
  created := by rw [hsame.created, hsame.badges, h.created]
  nodup := by
    rw [hsame.created]
    exact h.nodup
  counter := h.counter.trans hsame.i
  bound := by
    rw [hsame.created]
    exact fun id hid ↦ (h.bound id hid).trans hsame.i
  freed := by
    rw [hsame.badges, hsame.deleted]
    exact h.freed
  deleted := by
    rw [hsame.created, hsame.deleted]
    exact h.deleted

theorem ends_putInfo {memid : ℤ} {info : MemInfo} :
    Ends (putInfo memid info) s fun _ s' ↦ Same s s' := by
  refine .update ⟨?_, le_rfl, rfl, rfl⟩
  rw [List.map_map]
  refine List.map_congr_left fun m _ ↦ ?_
  simp only [Function.comp_apply]
  split_ifs
  · rfl
  · rfl

theorem ends_allocBlock {memid : ℤ} : Ends (allocBlock memid) s fun _ s' ↦ Same s s' := by
  refine ends_getMemInfo (fun _ ↦ nofun) fun p _ _ _ ↦ ?_
  exact ends_putInfo.andThen fun _ _ h ↦ .pure h

theorem ends_freeBlk {memid addr : ℤ} : Ends (freeBlk memid addr) s fun _ s' ↦ Same s s' := by
  refine ends_getMemInfo (fun _ ↦ .pure (.refl s)) fun p _ _ _ ↦ .bind fun x s' hx ↦ ?_
  obtain ⟨_, -, heq⟩ := Option.bind_eq_some_iff.mp hx
  obtain ⟨-, rfl⟩ := Prod.mk.inj (Option.some.inj heq)
  exact ends_putInfo.andThen fun _ _ h ↦ .pure h

theorem Ok.added {info : MemInfo} (h : s.Ok) : Ok
    { s with
      hdMcb := s.hdMcb ++ [⟨s.i + 1, info, false⟩]
      i := s.i + 1
      created := s.created ++ [s.i + 1] } := by
  have hnew : s.i + 1 ∉ s.created := by
    intro hmem
    have hle := h.bound _ hmem
    omega
  refine ⟨?_, ?_, ?_, ?_, ?_, ?_⟩
  · simp only [List.map_append, h.created]
    rfl
  · exact h.nodup.append (List.nodup_singleton _) (by simpa using hnew)
  · have hcounter := h.counter
    change 0 ≤ s.i + 1
    omega
  · intro id hid
    change id ≤ s.i + 1
    obtain hid | hid := List.mem_append.mp hid
    · have hle := h.bound id hid
      omega
    · rw [List.mem_singleton.mp hid]
  · intro b hb
    rw [List.map_append] at hb
    obtain hb | hb := List.mem_append.mp hb
    · exact h.freed b hb
    · rw [List.mem_singleton.mp hb]
      exact iff_of_false nofun fun hdel ↦ hnew (h.deleted _ hdel)
  · exact fun id hid ↦ List.mem_append_left _ (h.deleted id hid)

theorem ends_memPoolCreate {size nBlks : ℕ} {mcb : Bool} {saddr : Option ℤ} (h : s.Ok) :
    Ends (memPoolCreate size nBlks mcb saddr) s fun r s' ↦ s'.Ok ∧ s'.deleted = s.deleted ∧
      (r < 0 ↔ ¬(mcb = true ∧ saddr.isSome = true)) ∧ (0 ≤ r → r ∈ s'.hdMcb.map Mcb.memid) := by
  have hcounter := h.counter
  refine .read ?_
  cases mcb with
  | false => exact .pure ⟨h, rfl, iff_of_true (by decide) nofun, nofun⟩
  | true =>
    refine .ite nofun fun _ ↦ .ite (fun _ ↦ nofun) fun _ ↦ .bind (.write ?_)
    cases saddr with
    | none =>
      refine .pure ⟨h.same ⟨rfl, ?_, rfl, rfl⟩, rfl, iff_of_true (by decide) nofun, nofun⟩
      change s.i ≤ s.i + 1
      omega
    | some addr =>
      refine .bind fun _ s' hadd ↦ ?_
      obtain ⟨-, heq⟩ := Option.ite_none_left_eq_some.mp hadd
      obtain ⟨-, rfl⟩ := Prod.mk.inj (Option.some.inj heq)
      refine .pure ⟨h.added, rfl, iff_of_false (by omega) (not_not.mpr ⟨rfl, rfl⟩), fun _ ↦ ?_⟩
      rw [List.map_append]
      exact List.mem_append_right _ (List.mem_singleton_self _)

def mark (poolId : ℤ) (b : ℤ × Bool) : ℤ × Bool := if b.1 = poolId then (b.1, true) else b

theorem Ok.marked {poolId : ℤ} (h : s.Ok) (hreg : poolId ∈ s.created)
    (hbadges : s'.hdMcb.map Mcb.badge = (s.hdMcb.map Mcb.badge).map (mark poolId))
    (hi : s'.i = s.i) (hcreated : s'.created = s.created)
    (hdeleted : s'.deleted = s.deleted ++ [poolId]) : s'.Ok := by
  have hfst : ∀ b, (mark poolId b).1 = b.1 := by
    intro b
    rw [mark]
    split_ifs
    · rfl
    · rfl
  refine ⟨?_, ?_, ?_, ?_, ?_, ?_⟩
  · rw [hcreated, h.created, hbadges, List.map_map (l := s.hdMcb.map Mcb.badge)]
    exact List.map_congr_left fun b _ ↦ (hfst b).symm
  · rw [hcreated]
    exact h.nodup
  · rw [hi]
    exact h.counter
  · rw [hcreated, hi]
    exact h.bound
  · rw [hbadges, hdeleted]
    intro b hb
    obtain ⟨b, hb', rfl⟩ := List.mem_map.mp hb
    by_cases hid : b.1 = poolId
    · rw [mark, if_pos hid]
      exact iff_of_true rfl (List.mem_append_right _ (List.mem_singleton.mpr hid))
    · rw [mark, if_neg hid, h.freed b hb', List.mem_append, List.mem_singleton, or_iff_left hid]
  · rw [hcreated, hdeleted]
    intro id hid
    obtain hid | hid := List.mem_append.mp hid
    · exact h.deleted id hid
    · rw [List.mem_singleton.mp hid]
      exact hreg

theorem ends_memPoolDelete {poolId : ℤ} (h : s.Ok) :
    Ends (memPoolDelete poolId) s fun _ s' ↦ s'.Ok ∧
      (s'.deleted = [] ↔ s.deleted = [] ∧ poolId ∉ s.hdMcb.map Mcb.memid) := by
  refine ends_getMemInfo (fun hnone ↦ .pure ⟨h, (and_iff_left hnone).symm⟩) ?_
  rintro p hp rfl -
  have hreg : p.memid ∈ s.hdMcb.map Mcb.memid := List.mem_map_of_mem hp
  refine .bind (.update (.pure ⟨h.marked (h.memids ▸ hreg) ?_ rfl rfl rfl, ?_⟩))
  · simp only [List.map_map]
    refine List.map_congr_left fun m _ ↦ ?_
    simp only [Function.comp_apply]
    by_cases hid : m.memid = p.memid
    · rw [if_pos hid]
      exact (if_pos hid).symm
    · rw [if_neg hid]
      exact (if_neg hid).symm
  · refine iff_of_false ?_ fun hand ↦ hand.2 hreg
    exact List.append_ne_nil_of_right_ne_nil _ (List.cons_ne_nil _ _)

def Deletes (s : Registry) : PoolCall → Prop
  | .create _ _ _ _ => False
  | .delete poolId => poolId ∈ s.hdMcb.map Mcb.memid
  | .alloc _ => False
  | .free _ _ => False
  | .createTable _ htable mcb saddr bucketArray =>
    htable = true ∧ (mcb = true ∧ saddr.isSome = true) ∧ bucketArray = false
  | .destroyTable poolId _ => poolId ∈ s.hdMcb.map Mcb.memid

instance (s : Registry) : DecidablePred s.Deletes
  | .create _ _ _ _ => inferInstanceAs (Decidable False)
  | .delete _ => inferInstanceAs (Decidable (_ ∈ _))
  | .alloc _ => inferInstanceAs (Decidable False)
  | .free _ _ => inferInstanceAs (Decidable False)
  | .createTable _ _ _ _ _ => inferInstanceAs (Decidable (_ ∧ _))
  | .destroyTable _ _ => inferInstanceAs (Decidable (_ ∈ _))

theorem ends_createHashTable {buckets : ℕ} {htable mcb : Bool} {saddr : Option ℤ}
    {bucketArray : Bool} (h : s.Ok) :
    Ends (createHashTable buckets htable mcb saddr bucketArray) s fun _ s' ↦ s'.Ok ∧
      (s'.deleted = [] ↔ s.deleted = [] ∧
        ¬(htable = true ∧ (mcb = true ∧ saddr.isSome = true) ∧ bucketArray = false)) := by
  cases htable with
  | false => exact .pure ⟨h, (and_iff_left nofun).symm⟩
  | true =>
    refine .ite nofun fun _ ↦ (ends_memPoolCreate h).andThen fun r s₁ ⟨hok, hdel, hneg, hreg⟩ ↦ ?_
    refine .ite (fun hr ↦ .pure ⟨hok, ?_⟩) fun hr ↦ ?_
    · rw [hdel]
      exact (and_iff_left fun hand ↦ hneg.mp hr hand.2.1).symm
    · have hcreated := not_not.mp (mt hneg.mpr hr)
      cases bucketArray with
      | false =>
        refine .ite (fun _ ↦ ?_) nofun
        refine (ends_memPoolDelete hok).andThen fun _ s₂ ⟨hok₂, hiff⟩ ↦ .pure ⟨hok₂, ?_⟩
        rw [hiff]
        exact iff_of_false (fun hand ↦ hand.2 (hreg (not_lt.mp hr)))
          fun hand ↦ hand.2 ⟨rfl, hcreated, rfl⟩
      | true =>
        refine .ite nofun fun _ ↦ .pure ⟨hok, ?_⟩
        rw [hdel]
        exact (and_iff_left nofun).symm

theorem ends_destroyHashTable {poolId : ℤ} {entries : List ℤ} (h : s.Ok) :
    Ends (destroyHashTable poolId entries) s fun _ s' ↦ s'.Ok ∧
      (s'.deleted = [] ↔ s.deleted = [] ∧ poolId ∉ s.hdMcb.map Mcb.memid) := by
  have hflush : Ends (entries.forM fun hentry ↦ do
      let _ ← freeBlk poolId hentry : RegistryM Unit) s fun _ s' ↦ Same s s' := by
    refine .forM (I := fun _ s' ↦ Same s s') (fun a _ s' hs' ↦ ?_) (.refl s)
    exact ends_freeBlk.andThen fun _ _ h' ↦ .pure (hs'.trans h')
  refine hflush.andThen fun _ s₁ hsame ↦ ?_
  refine (ends_memPoolDelete (h.same hsame)).andThen fun _ s₂ ⟨hok, hiff⟩ ↦ .pure ⟨hok, ?_⟩
  rw [hiff, hsame.deleted, (h.same hsame).memids, h.memids, hsame.created]

theorem ends_call (c : PoolCall) (h : s.Ok) :
    Ends (call c) s fun _ s' ↦ s'.Ok ∧ (s'.deleted = [] ↔ s.deleted = [] ∧ ¬s.Deletes c) := by
  have hused : ∀ s', Same s s' → s'.Ok ∧ (s'.deleted = [] ↔ s.deleted = [] ∧ ¬False) := by
    intro s' hsame
    refine ⟨h.same hsame, ?_⟩
    rw [hsame.deleted]
    exact (and_iff_left not_false).symm
  cases c with
  | create size nBlks mcb saddr =>
    refine (ends_memPoolCreate h).andThen fun _ s' ⟨hok, hdel, _⟩ ↦ .pure ⟨hok, ?_⟩
    rw [hdel]
    exact (and_iff_left not_false).symm
  | delete poolId => exact (ends_memPoolDelete h).andThen fun _ _ h' ↦ .pure h'
  | alloc memid => exact ends_allocBlock.andThen fun _ s' hsame ↦ .pure (hused s' hsame)
  | free memid addr => exact ends_freeBlk.andThen fun _ s' hsame ↦ .pure (hused s' hsame)
  | createTable buckets htable mcb saddr bucketArray => exact ends_createHashTable h
  | destroyTable poolId entries => exact ends_destroyHashTable h

end Registry

open Registry in
/-- The list of pools is exact just in the runs in which no pool is deleted. -/
theorem registry_exact_iff {calls : List PoolCall} {s : Registry}
    (hrun : Run Registry.step (fun _ _ ↦ True) memInit calls s) :
    s.Exact ↔ Run Registry.step (fun s c ↦ ¬s.Deletes c) memInit calls s := by
  have hstep : ∀ s c s', s.Ok → True → Registry.step s c = some s' →
      s'.Ok ∧ (s'.deleted = [] ↔ s.deleted = [] ∧ ¬s.Deletes c) := by
    intro s c s' hok _ hs
    obtain ⟨x, hcall, rfl⟩ := Option.map_eq_some_iff.mp hs
    exact ends_call c hok x.1 x.2 hcall
  have hok : s.Ok :=
    hrun.invariant (fun s c s' hs ht h ↦ (hstep s c s' hs ht h).1) ok_memInit
  rw [hok.exact_iff, hrun.iff_of_step (P := fun s ↦ s.deleted = [])
    (fun s c s' hs ht h ↦ (hstep s c s' hs ht h).1)
    (fun s c s' hs ht h ↦ (hstep s c s' hs ht h).2) ok_memInit]
  exact and_iff_right rfl

open Registry in
/-- Two pools and the pool of a hash table, with a block in use and the deletion of a
pool that there is not. -/
theorem registry_exact_iff_three : ∃ s : Registry, s.created = [1, 2, 3] ∧ s.Exact := by
  have hcheck : ((exec (fun s c ↦ if ¬s.Deletes c then Registry.step s c else none) memInit
      [.create 16 2 true (some 4096), .create 24 1 true (some 8192), .alloc 1, .free 1 4096,
        .delete 7, .createTable 4 true true (some 16384) true]).any fun s ↦
        s.created = [1, 2, 3]) = true := by
    decide +kernel
  simp only [Option.any_eq_true, decide_eq_true_eq] at hcheck
  obtain ⟨s, hexec, hcreated⟩ := hcheck
  have hrun := (run_of_exec hexec).guarded
  exact ⟨s, hcreated, (registry_exact_iff (hrun.mono fun _ _ _ ↦ trivial)).mpr hrun⟩

open Registry in
/-- A pool is deleted, and then another one is used: the walk reads the control block of
the first, which has been freed. -/
theorem deleted_pool_still_registered :
    ¬(∀ (calls : List PoolCall) (s : Registry),
      Run Registry.step (fun _ _ ↦ True) memInit calls s → s.Exact) ∧
    ∃ s : Registry, Run Registry.step (fun _ _ ↦ True) memInit
      [.create 16 2 true (some 4096), .create 24 1 true (some 8192), .delete 1] s ∧
      getMemInfo 2 s = none ∧ memPoolDelete 1 s = none := by
  have hcheck : ((exec Registry.step memInit
      [.create 16 2 true (some 4096), .create 24 1 true (some 8192), .delete 1]).any fun s ↦
        (getMemInfo 2 s).isNone ∧ (memPoolDelete 1 s).isNone) = true := by
    decide +kernel
  simp only [Option.any_eq_true, decide_eq_true_eq] at hcheck
  obtain ⟨s, hexec, hget, hdelete⟩ := hcheck
  have hrun := run_of_exec hexec
  rw [Option.isNone_iff_eq_none] at hget hdelete
  refine ⟨fun h ↦ ?_, s, hrun, hget, hdelete⟩
  obtain ⟨p, hp, -⟩ := (h _ s hrun).lookup 2
  cases hget.symm.trans hp

end Layer3Switch.Mem
