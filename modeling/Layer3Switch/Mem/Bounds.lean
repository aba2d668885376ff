import Layer3Switch.Lib.Run
import Layer3Switch.Mem.HashTable

namespace Layer3Switch.Mem.HashLib

open HashTable Lib

variable {κ σ : Type} {n : ℕ}

/-- The element of `bucket_array` at an index, if it has one. -/
def bucketAt (n : ℕ) (i : ℤ) : Option (Fin n) :=
  if h : 0 ≤ i ∧ i.toNat < n then some ⟨i.toNat, h.2⟩ else none

theorem bucketAt_eq_none {i : ℤ} : bucketAt n i = none ↔ i < 0 ∨ (n : ℤ) ≤ i := by
  unfold bucketAt
  split_ifs with h
  · simp only [false_iff]
    omega
  · simp only [true_iff]
    omega

theorem bucketAt_val (i : Fin n) : bucketAt n (i.val : ℤ) = some i := by
  simp [bucketAt]

/-- The bytes of a `hash_bucket_t`: three pointers. -/
def sizeofHashBucket : ℤ := 24

/-- A block at the end of a chain, for a key that is not there. There is no result where
the entry is written past the end of its block. -/
def appendEntry (i : Fin n) (string : κ) (data : ℤ) (htbl : HashTable κ n) :
    Option (ℤ × HashTable κ n) :=
  match allocBlock htbl.hmemPool with
  | (none, pool) => some (-1, { htbl with hmemPool := pool })
  | (some hentry, pool) =>
    if htbl.hmemPool.size < sizeofHashBucket then none
    else some (0, ⟨Function.update htbl.bucketArray i
      (htbl.bucketArray i ++ [⟨hentry, string, data⟩]), htbl.nentries + 1, pool⟩)

section Indexed

-- The operations of a table whose `hash_index_gen` returns any number. They have
-- no result where `bucket_array` is read outside of its bounds, or where an entry
-- is larger than its block.
variable (cmpFunc : κ → κ → ℤ) (hashIndexGen : κ → ℤ)

def findHashEntry (key : κ) (htbl : HashTable κ n) : Option (Option (HashBucket κ)) :=
  let whichBucket := hashIndexGen key
  if whichBucket > n then some none
  else (bucketAt n whichBucket).map fun i ↦ HashTable.findHashEntry cmpFunc (fun _ ↦ i) key htbl

def hashDeleteEntry (freeData : σ → ℤ → Option σ) (string : κ) (x : σ) (htbl : HashTable κ n) :
    Option (ℤ × σ × HashTable κ n) :=
  let theBucket := hashIndexGen string
  if theBucket > n then some (-1, x, htbl)
  else (bucketAt n theBucket).bind fun i ↦
    HashTable.hashDeleteEntry cmpFunc (fun _ ↦ i) freeData string x htbl

/-- The search comes first. It finds nothing where the bucket is refused, and the
function then refuses the bucket as well. -/
def hashAddEntry (string : κ) (htbl : HashTable κ n) (data : ℤ) : Option (ℤ × HashTable κ n) :=
  (findHashEntry cmpFunc hashIndexGen string htbl).bind fun hentry ↦
    match hentry with
    | some _ => some (0, htbl)
    | none =>
      let bucket := hashIndexGen string
      if bucket > n then some (-1, htbl)
      else (bucketAt n bucket).bind fun i ↦ appendEntry i string data htbl

def hashTblAdd (key : κ) (htbl : HashTable κ n) (data : ℤ) : Option (ℤ × HashTable κ n) :=
  (hashAddEntry cmpFunc hashIndexGen key htbl data).map fun y ↦ (if y.1 < 0 then -1 else 0, y.2)

def hashTblDelete (freeData : σ → ℤ → Option σ) (string : κ) (x : σ) (htbl : HashTable κ n) :
    Option (ℤ × σ × HashTable κ n) :=
  (hashDeleteEntry cmpFunc hashIndexGen freeData string x htbl).map fun y ↦
    (if y.1 < 0 then -1 else 0, y.2)

end Indexed

/-- `get_hash_bucket`. -/
def getHashBucket (bucket : ℤ) (table : HashTable κ n) : Option (List (HashBucket κ)) :=
  if bucket < n then (bucketAt n bucket).map table.bucketArray else some []

/-- The walk, with a callback that leaves the table as it is. -/
def hashWalk (callback : σ → ℤ → σ) (htbl : HashTable κ n) (x : σ) : Option σ :=
  (List.range n).foldlM (fun x (slot : ℕ) ↦ (getHashBucket slot htbl).map fun chain ↦
    chain.foldl (fun x bc ↦ callback x bc.data) x) x

/-- One entry is released: its data, and its block. -/
def releaseEntry (freeData : σ → ℤ → σ) (y : σ × MemInfo) (hentry : HashBucket κ) :
    Option (σ × MemInfo) :=
  (freeBlk y.2 hentry.addr).map fun z ↦ (freeData y.1 hentry.data, z.2)

def flushBucket (freeData : σ → ℤ → σ) (y : σ × HashTable κ n) (i : ℕ) :
    Option (σ × HashTable κ n) :=
  (bucketAt n i).bind fun i ↦
    ((y.2.bucketArray i).foldlM (releaseEntry freeData) (y.1, y.2.hmemPool)).map fun z ↦
      (z.1, ⟨Function.update y.2.bucketArray i [], y.2.nentries, z.2⟩)

def flushHashTable (freeData : σ → ℤ → σ) (htbl : HashTable κ n) (x : σ) :
    Option (σ × HashTable κ n) :=
  (List.range n).foldlM (flushBucket freeData) (x, htbl)

/-- The entries are the blocks that the pool of the table has handed out, which are of
the size that `create_hash_table` asks for: a pointer for each bucket. -/
structure Held (t : HashTable κ n) : Prop where
  gives : Gives t.hmemPool (t.entries.map HashBucket.addr)
  size : t.hmemPool.size = 8 * n

inductive Op (κ : Type) where
  | add (key : κ) (data : ℤ)
  | delete (key : κ)

def Op.key : Op κ → κ
  | .add key _ => key
  | .delete key => key

variable {cmpFunc : κ → κ → ℤ} {hashIndexGen : κ → ℤ} {t : HashTable κ n} {key : κ} {i : Fin n}

theorem Held.append (h : Held t) (hn : 3 ≤ n) (i : Fin n) (string : κ) (data : ℤ) :
    ∃ r t', appendEntry i string data t = some (r, t') ∧ Held t' ∧
      (r = 0 ∧ (∃ addr, t'.entries.Perm (⟨addr, string, data⟩ :: t.entries)) ∨
        r = -1 ∧ t' = t) := by
  obtain ⟨halloc, -⟩ | ⟨addr, pool, halloc, -, -, hgives, hfixed⟩ := h.gives.alloc
  · refine ⟨-1, t, ?_, h, .inr ⟨rfl, rfl⟩⟩
    rw [appendEntry, halloc]
  · let t' : HashTable κ n := ⟨Function.update t.bucketArray i
      (t.bucketArray i ++ [⟨addr, string, data⟩]), t.nentries + 1, pool⟩
    have hperm : t'.entries.Perm (⟨addr, string, data⟩ :: t.entries) := by
      obtain ⟨rest, hold, hnew⟩ := t.entries_perm i
      refine (hnew _ _ _).trans ?_
      rw [List.append_assoc, List.singleton_append]
      exact List.perm_middle.trans (hold.symm.cons _)
    have hsize : t'.hmemPool.size = t.hmemPool.size := congrArg (·.2.2.2) hfixed
    refine ⟨0, t', ?_, ⟨hgives.perm (hperm.map HashBucket.addr), hsize.trans h.size⟩,
      .inl ⟨rfl, addr, hperm⟩⟩
    have hfits : ¬t.hmemPool.size < sizeofHashBucket := by
      rw [h.size, sizeofHashBucket]
      omega
    rw [appendEntry, halloc]
    exact if_neg hfits

theorem val_not_gt (i : Fin n) : ¬(i.val : ℤ) > n := by
  have hlt := i.isLt
  omega

theorem findHashEntry_val (cmpFunc : κ → κ → ℤ) (hi : hashIndexGen key = (i.val : ℤ)) :
    findHashEntry cmpFunc hashIndexGen key t =
      some (HashTable.findHashEntry cmpFunc (fun _ ↦ i) key t) := by
  simp only [findHashEntry, hi, if_neg (val_not_gt i), bucketAt_val, Option.map_some]

theorem Held.add (h : Held t) (hn : 3 ≤ n) (cmpFunc : κ → κ → ℤ)
    (hi : hashIndexGen key = (i.val : ℤ)) (data : ℤ) :
    ∃ r t', hashAddEntry cmpFunc hashIndexGen key t data = some (r, t') ∧ Held t' ∧
      (r = 0 ∧ (∃ b ∈ t.entries, cmpFunc b.key key = 0) ∧ t' = t ∨
        r = 0 ∧ (∃ addr, t'.entries.Perm (⟨addr, key, data⟩ :: t.entries)) ∨
        r = -1 ∧ t' = t) := by
  have hfound := findHashEntry_val (t := t) cmpFunc hi
  cases hfind : HashTable.findHashEntry cmpFunc (fun _ ↦ i) key t with
  | some b =>
    refine ⟨0, t, ?_, h, .inl ⟨rfl, ⟨b, ?_, ?_⟩, rfl⟩⟩
    · rw [hashAddEntry, hfound, hfind, Option.bind_some]
    · exact mem_entries.mpr ⟨i, List.mem_of_find?_eq_some hfind⟩
    · simpa using List.find?_some hfind
  | none =>
    obtain ⟨r, t', happend, hheld, hcases⟩ := h.append hn i key data
    refine ⟨r, t', ?_, hheld, .inr hcases⟩
    rw [hashAddEntry, hfound, hfind, Option.bind_some]
    simp only [hi, if_neg (val_not_gt i), bucketAt_val, Option.bind_some, happend]

theorem Held.delete (h : Held t) (cmpFunc : κ → κ → ℤ) (hi : hashIndexGen key = (i.val : ℤ))
    (freeData : σ → ℤ → σ) (x : σ) :
    ∃ r x' t', hashDeleteEntry cmpFunc hashIndexGen (fun x d ↦ some (freeData x d)) key x t =
        some (r, x', t') ∧ Held t' ∧
      (r = 0 ∧ (∃ b, cmpFunc b.key key = 0 ∧ x' = freeData x b.data ∧
          t.entries.Perm (b :: t'.entries)) ∨
        r = -1 ∧ x' = x ∧ t' = t) := by
  have hdel : hashDeleteEntry cmpFunc hashIndexGen (fun x d ↦ some (freeData x d)) key x t =
      HashTable.hashDeleteEntry cmpFunc (fun _ ↦ i) (fun x d ↦ some (freeData x d)) key x t := by
    simp only [hashDeleteEntry, hi, if_neg (val_not_gt i), bucketAt_val, Option.bind_some]
  cases hfind : (t.bucketArray i).find? fun temp ↦ cmpFunc temp.key key = 0 with
  | none =>
    refine ⟨-1, x, t, ?_, h, .inr ⟨rfl, rfl, rfl⟩⟩
    rw [hdel, HashTable.hashDeleteEntry, hfind]
  | some b =>
    have hb := List.mem_of_find?_eq_some hfind
    have hkey : cmpFunc b.key key = 0 := by simpa using List.find?_some hfind
    obtain ⟨pool, hblk, hgives, hfixed⟩ := h.gives.free
      (List.mem_map_of_mem (f := HashBucket.addr) (mem_entries.mpr ⟨i, hb⟩))
    -- The entry found is the first that compares equal, which is the one erased.
    obtain ⟨hp, l₁, l₂, hchain, hother⟩ := List.find?_eq_some_iff_append.mp hfind
    have herase : (t.bucketArray i).eraseP (fun temp ↦ decide (cmpFunc temp.key key = 0)) =
        l₁ ++ l₂ := by
      rw [hchain, List.eraseP_append_right _ (fun c hc ↦ by simpa using hother c hc),
        List.eraseP_cons, hp]
      rfl
    let t' : HashTable κ n :=
      ⟨Function.update t.bucketArray i (l₁ ++ l₂), t.nentries - 1, pool⟩
    have hperm : t.entries.Perm (b :: t'.entries) := by
      obtain ⟨rest, hold, hnew⟩ := t.entries_perm i
      rw [hchain] at hold
      refine (hold.trans (List.perm_middle.append_right _)).trans ?_
      exact (hnew _ _ _).symm.cons _
    refine ⟨0, freeData x b.data, t', ?_, ?_, .inl ⟨rfl, b, hkey, rfl, hperm⟩⟩
    · rw [hdel, HashTable.hashDeleteEntry, hfind]
      simp only [Option.bind_some, hblk, Option.map_some, herase, t']
    · have hgives' := (hperm.map HashBucket.addr).erase b.addr
      rw [List.map_cons, List.erase_cons_head] at hgives'
      exact ⟨hgives.perm hgives'.symm, (congrArg (·.2.2.2) hfixed).trans h.size⟩

theorem hashWalk_eq (callback : σ → ℤ → σ) (t : HashTable κ n) (x : σ) :
    hashWalk callback t x = some ((t.entries.map HashBucket.data).foldl callback x) := by
  have hbucket : ∀ i : Fin n, getHashBucket (i.val : ℤ) t = some (t.bucketArray i) := by
    intro i
    have hlt : (i.val : ℤ) < n := by exact_mod_cast i.isLt
    rw [getHashBucket, if_pos hlt, bucketAt_val, Option.map_some]
  have hwalk : ∀ (is : List (Fin n)) (x : σ), (is.map Fin.val).foldlM (fun x (slot : ℕ) ↦
      (getHashBucket slot t).map fun chain ↦ chain.foldl (fun x bc ↦ callback x bc.data) x) x =
      some (((is.flatMap t.bucketArray).map HashBucket.data).foldl callback x) := by
    intro is
    induction is with
    | nil =>
      intro x
      rfl
    | cons i is ih =>
      intro x
      rw [List.map_cons, List.foldlM_cons, hbucket, Option.map_some]
      refine (ih _).trans ?_
      rw [List.flatMap_cons, List.map_append, List.foldl_append,
        List.foldl_map (l := t.bucketArray i)]
  rw [hashWalk, ← List.map_coe_finRange_eq_range]
  exact hwalk _ x

theorem releaseEntry_chain (freeData : σ → ℤ → σ) {chain : List (HashBucket κ)} {rest : List ℤ}
    {pool : MemInfo} (x : σ) (h : Gives pool (chain.map HashBucket.addr ++ rest)) :
    ∃ pool', chain.foldlM (releaseEntry freeData) (x, pool) =
        some ((chain.map HashBucket.data).foldl freeData x, pool') ∧ Gives pool' rest := by
  induction chain generalizing x pool with
  | nil => exact ⟨pool, rfl, h⟩
  | cons b chain ih =>
    have hb : b.addr ∈ (b :: chain).map HashBucket.addr ++ rest := by simp
    obtain ⟨pool₁, hblk, hgives, -⟩ := h.free hb
    rw [List.map_cons, List.cons_append, List.erase_cons_head] at hgives
    obtain ⟨pool', hfold, hrest⟩ := ih (freeData x b.data) hgives
    refine ⟨pool', ?_, hrest⟩
    rw [List.foldlM_cons, releaseEntry, hblk]
    exact hfold

theorem Held.flush (h : Held t) (freeData : σ → ℤ → σ) (x : σ) :
    ∃ t', flushHashTable freeData t x =
        some ((t.entries.map HashBucket.data).foldl freeData x, t') ∧
      t'.entries = [] ∧ Gives t'.hmemPool [] := by
  -- After some buckets, those are empty and the rest is as it was.
  have hloop : ∀ (is : List (Fin n)) (t : HashTable κ n) (x : σ),
      is.Nodup → (∀ i, i ∉ is → t.bucketArray i = []) →
      Gives t.hmemPool ((is.flatMap t.bucketArray).map HashBucket.addr) →
      ∃ t', (is.map Fin.val).foldlM (flushBucket freeData) (x, t) =
          some (((is.flatMap t.bucketArray).map HashBucket.data).foldl freeData x, t') ∧
        (∀ i, t'.bucketArray i = []) ∧ Gives t'.hmemPool [] := by
    intro is
    induction is with
    | nil =>
      intro t x _ hempty hgives
      exact ⟨t, rfl, fun i ↦ hempty i List.not_mem_nil, hgives⟩
    | cons i is ih =>
      intro t x hnodup hempty hgives
      obtain ⟨hi, hnodup⟩ := List.nodup_cons.mp hnodup
      rw [List.flatMap_cons, List.map_append] at hgives
      obtain ⟨pool, hchain, hrest⟩ := releaseEntry_chain freeData x hgives
      let t₁ : HashTable κ n := ⟨Function.update t.bucketArray i [], t.nentries, pool⟩
      have hothers : is.flatMap t₁.bucketArray = is.flatMap t.bucketArray := by
        refine List.flatMap_congr fun j hj ↦ ?_
        exact Function.update_of_ne (ne_of_mem_of_not_mem hj hi) _ _
      have hempty₁ : ∀ j, j ∉ is → t₁.bucketArray j = [] := by
        intro j hj
        by_cases hji : j = i
        · subst hji
          exact Function.update_self _ _ _
        · exact (Function.update_of_ne hji _ _).trans
            (hempty j fun hmem ↦ (List.mem_cons.mp hmem).elim hji hj)
      obtain ⟨t', hfold, hdone⟩ := ih t₁ ((t.bucketArray i).map HashBucket.data |>.foldl freeData x)
        hnodup hempty₁ (by rw [hothers]; exact hrest)
      refine ⟨t', ?_, hdone⟩
      rw [hothers] at hfold
      rw [List.map_cons, List.foldlM_cons, flushBucket, bucketAt_val, Option.bind_some]
      simp only [hchain, Option.map_some]
      rw [List.flatMap_cons, List.map_append, List.foldl_append]
      exact hfold
  obtain ⟨t', hfold, hempty, hgives⟩ := hloop (List.finRange n) t x (List.nodup_finRange n)
    (fun i hi ↦ absurd (List.mem_finRange i) hi) h.gives
  refine ⟨t', ?_, ?_, hgives⟩
  · rw [flushHashTable, ← List.map_coe_finRange_eq_range]
    exact hfold
  · rw [entries, List.flatMap_eq_nil_iff]
    exact fun i _ ↦ hempty i

def step (cmpFunc : κ → κ → ℤ) (hashIndexGen : κ → ℤ) (t : HashTable κ n) :
    Op κ → Option (HashTable κ n)
  | .add key data => (hashTblAdd cmpFunc hashIndexGen key t data).map Prod.snd
  | .delete key =>
    (hashTblDelete cmpFunc hashIndexGen (fun x _ ↦ some x) key () t).map fun y ↦ y.2.2

/-- The three functions stay in the array for this key, and refuse a bucket that
is not in it. -/
structure Bounded (cmpFunc : κ → κ → ℤ) (hashIndexGen : κ → ℤ) (t : HashTable κ n) (key : κ) :
    Prop where
  find : ∃ r, findHashEntry cmpFunc hashIndexGen key t = some r ∧
    (bucketAt n (hashIndexGen key) = none → r = none)
  add : ∀ data, ∃ r t', hashAddEntry cmpFunc hashIndexGen key t data = some (r, t') ∧
    (bucketAt n (hashIndexGen key) = none → r = -1 ∧ t' = t)
  delete : ∀ (σ : Type) (freeData : σ → ℤ → σ) (x : σ), ∃ r x' t',
    hashDeleteEntry cmpFunc hashIndexGen (fun x d ↦ some (freeData x d)) key x t =
      some (r, x', t') ∧
    (bucketAt n (hashIndexGen key) = none → r = -1 ∧ x' = x ∧ t' = t)

/-- The entries change by what is stored or taken out. -/
def Accounts (t : HashTable κ n) (op : Op κ) (t' : HashTable κ n) : Prop :=
  t' = t ∨ match op with
    | .add key data => ∃ addr, t'.entries.Perm (⟨addr, key, data⟩ :: t.entries)
    | .delete _ => ∃ b, t.entries.Perm (b :: t'.entries)

/-- The walk visits every entry and the flush releases it. -/
structure Covered (t : HashTable κ n) : Prop where
  walk : ∀ (σ : Type) (callback : σ → ℤ → σ) (x : σ),
    hashWalk callback t x = some ((t.entries.map HashBucket.data).foldl callback x)
  flush : ∀ (σ : Type) (freeData : σ → ℤ → σ) (x : σ), ∃ t',
    flushHashTable freeData t x = some ((t.entries.map HashBucket.data).foldl freeData x, t') ∧
    t'.entries = [] ∧ Gives t'.hmemPool []

theorem Held.covered (h : Held t) : Covered t :=
  ⟨fun _ callback x ↦ hashWalk_eq callback t x, fun _ freeData x ↦ h.flush freeData x⟩

theorem bounded_of_gt (h : (n : ℤ) < hashIndexGen key) : Bounded cmpFunc hashIndexGen t key := by
  have hgt : hashIndexGen key > n := h
  have hfind : findHashEntry cmpFunc hashIndexGen key t = some none := by
    rw [findHashEntry, if_pos hgt]
  refine ⟨⟨none, hfind, fun _ ↦ rfl⟩, ?_, ?_⟩
  · intro data
    refine ⟨-1, t, ?_, fun _ ↦ ⟨rfl, rfl⟩⟩
    rw [hashAddEntry, hfind, Option.bind_some]
    simp only [if_pos hgt]
  · intro σ freeData x
    refine ⟨-1, x, t, ?_, fun _ ↦ ⟨rfl, rfl, rfl⟩⟩
    rw [hashDeleteEntry, if_pos hgt]

theorem Held.bounded (h : Held t) (hn : 3 ≤ n) (hi : hashIndexGen key = (i.val : ℤ)) :
    Bounded cmpFunc hashIndexGen t key := by
  have hin : bucketAt n (hashIndexGen key) ≠ none := by
    rw [hi, bucketAt_val]
    exact Option.some_ne_none i
  refine ⟨⟨HashTable.findHashEntry cmpFunc (fun _ ↦ i) key t, ?_, fun hout ↦ absurd hout hin⟩,
    ?_, ?_⟩
  · exact findHashEntry_val cmpFunc hi
  · intro data
    obtain ⟨r, t', hadd, -⟩ := h.add hn cmpFunc hi data
    exact ⟨r, t', hadd, fun hout ↦ absurd hout hin⟩
  · intro σ freeData x
    obtain ⟨r, x', t', hdel, -⟩ := h.delete cmpFunc hi freeData x
    exact ⟨r, x', t', hdel, fun hout ↦ absurd hout hin⟩

theorem not_bounded (hle : hashIndexGen key ≤ n) (hout : bucketAt n (hashIndexGen key) = none) :
    ¬Bounded cmpFunc hashIndexGen t key := by
  intro hbounded
  obtain ⟨r, hfind, -⟩ := hbounded.find
  have hle' : ¬hashIndexGen key > n := not_lt.mpr hle
  rw [findHashEntry, if_neg hle', hout] at hfind
  cases hfind

theorem Held.step (h : Held t) (hn : 3 ≤ n) {op : Op κ}
    (hop : Bounded cmpFunc hashIndexGen t op.key) :
    ∃ t', step cmpFunc hashIndexGen t op = some t' ∧ Held t' ∧ Accounts t op t' := by
  cases hbucket : bucketAt n (hashIndexGen op.key) with
  | none =>
    refine ⟨t, ?_, h, .inl rfl⟩
    cases op with
    | add key data =>
      obtain ⟨r, t', hadd, hout⟩ := hop.add data
      obtain ⟨-, rfl⟩ := hout hbucket
      simp only [HashLib.step, hashTblAdd, Op.key] at hadd ⊢
      rw [hadd, Option.map_some, Option.map_some]
    | delete key =>
      obtain ⟨r, x', t', hdel, hout⟩ := hop.delete Unit (fun x _ ↦ x) ()
      obtain ⟨-, -, rfl⟩ := hout hbucket
      simp only [HashLib.step, hashTblDelete, Op.key] at hdel ⊢
      rw [hdel, Option.map_some, Option.map_some]
  | some i =>
    have hi : hashIndexGen op.key = (i.val : ℤ) := by
      unfold bucketAt at hbucket
      split_ifs at hbucket with hrange
      obtain rfl := Option.some.inj hbucket
      exact (Int.toNat_of_nonneg hrange.1).symm
    cases op with
    | add key data =>
      obtain ⟨r, t', hadd, hheld, hcases⟩ := h.add hn cmpFunc hi data
      refine ⟨t', ?_, hheld, ?_⟩
      · simp only [HashLib.step, hashTblAdd, Op.key] at hadd ⊢
        rw [hadd, Option.map_some, Option.map_some]
      · obtain ⟨-, -, heq⟩ | ⟨-, hnew⟩ | ⟨-, heq⟩ := hcases
        · exact .inl heq
        · exact .inr hnew
        · exact .inl heq
    | delete key =>
      obtain ⟨r, x', t', hdel, hheld, hcases⟩ := h.delete cmpFunc hi (fun (x : Unit) _ ↦ x) ()
      refine ⟨t', ?_, hheld, ?_⟩
      · simp only [HashLib.step, hashTblDelete, Op.key] at hdel ⊢
        rw [hdel, Option.map_some, Option.map_some]
      · obtain ⟨-, b, -, -, hperm⟩ | ⟨-, -, heq⟩ := hcases
        · exact .inr ⟨b, hperm⟩
        · exact .inl heq

theorem Held.bounded_iff (h : Held t) (hn : 3 ≤ n) :
    Bounded cmpFunc hashIndexGen t key ↔ 0 ≤ hashIndexGen key ∧ hashIndexGen key ≠ n := by
  constructor
  · intro hbounded
    by_contra hcond
    refine not_bounded ?_ (bucketAt_eq_none.mpr ?_) hbounded <;> omega
  · rintro ⟨hnonneg, hne⟩
    by_cases hgt : (n : ℤ) < hashIndexGen key
    · exact bounded_of_gt hgt
    · have hlt : (hashIndexGen key).toNat < n := by omega
      exact h.bounded hn (i := ⟨(hashIndexGen key).toNat, hlt⟩) (by simp [hnonneg])

theorem held_create {saddr : ℤ} (hn : 1 ≤ n) (hfits : 8 * n * n < 2 ^ 31) (hsaddr : 0 < saddr) :
    Held (createHashTable n saddr : HashTable κ n) := by
  have hok : (createHashTable n saddr : HashTable κ n).Ok fun _ ↦ ⟨0, hn⟩ :=
    ok_create hn hfits hsaddr
  have hbytes : 8 * n * 1 ≤ 8 * n * n := Nat.mul_le_mul_left _ hn
  have hsize : int ((8 * n : ℕ) : ℤ) = 8 * n := by
    rw [int_eq (by omega) (by omega), Nat.cast_mul, Nat.cast_ofNat]
  refine ⟨hok.gives, ?_⟩
  simp only [createHashTable, memPoolCreate]
  exact hsize

end Layer3Switch.Mem.HashLib
