import Layer3Switch.Mem.Pool
import Mathlib.Data.List.FinRange

namespace Layer3Switch.Mem

variable {κ σ : Type} {n : ℕ}

section Buckets

variable {α ι : Type} [DecidableEq ι]

theorem flatMap_update_perm {is : List ι} {i : ι} (f : ι → List α) (l : List α)
    (hnodup : is.Nodup) (hi : i ∈ is) :
    (is.flatMap (Function.update f i l)).Perm (l ++ is.flatMap (Function.update f i [])) := by
  obtain ⟨is₁, is₂, rfl⟩ := List.append_of_mem hi
  have hi₁ : i ∉ is₁ := fun h ↦ (List.nodup_append.mp hnodup).2.2 i h i List.mem_cons_self rfl
  have hi₂ : i ∉ is₂ := (List.nodup_cons.mp (List.nodup_append.mp hnodup).2.1).1
  have hother : ∀ js : List ι, i ∉ js → ∀ m, js.flatMap (Function.update f i m) = js.flatMap f := by
    intro js hjs m
    refine List.flatMap_congr fun j hj ↦ ?_
    exact Function.update_of_ne (ne_of_mem_of_not_mem hj hjs) _ _
  simp only [List.flatMap_append, List.flatMap_cons, Function.update_self, hother is₁ hi₁,
    hother is₂ hi₂, List.nil_append]
  rw [← List.append_assoc, ← List.append_assoc]
  exact List.perm_append_comm.append_right _

end Buckets

/-- `hash_bucket_t`. The chain that `next` makes is the list it stands in. -/
structure HashBucket (κ : Type) where
  addr : ℤ
  key : κ
  data : ℤ

/-- `HASH_TABLE`, with its bucket array as lists. -/
structure HashTable (κ : Type) (n : ℕ) where
  bucketArray : Fin n → List (HashBucket κ)
  nentries : ℤ
  hmemPool : MemInfo

/-- A table whose bucket array is null, with the memory of its pool at `saddr`. -/
def createHashTable (n : ℕ) (saddr : ℤ) : HashTable κ n :=
  ⟨fun _ ↦ [], 0, memPoolCreate (8 * n) n saddr⟩

namespace HashTable

variable (cmpFunc : κ → κ → ℤ) (hashIndexGen : κ → Fin n)

def findHashEntry (key : κ) (htbl : HashTable κ n) : Option (HashBucket κ) :=
  (htbl.bucketArray (hashIndexGen key)).find? fun bkt ↦ cmpFunc bkt.key key = 0

def hashTblLookup (key : κ) (htbl : HashTable κ n) : Option ℤ :=
  (findHashEntry cmpFunc hashIndexGen key htbl).map HashBucket.data

def hashDeleteEntry (freeData : σ → ℤ → Option σ) (string : κ) (x : σ) (htbl : HashTable κ n) :
    Option (ℤ × σ × HashTable κ n) :=
  let theBucket := hashIndexGen string
  let chain := htbl.bucketArray theBucket
  match chain.find? fun temp ↦ cmpFunc temp.key string = 0 with
  | none => some (-1, x, htbl)
  | some temp =>
    (freeData x temp.data).bind fun x ↦
      (freeBlk htbl.hmemPool temp.addr).map fun y ↦
        (0, x, ⟨Function.update htbl.bucketArray theBucket
          (chain.eraseP fun temp ↦ cmpFunc temp.key string = 0), htbl.nentries - 1, y.2⟩)

def hashAddEntry (string : κ) (htbl : HashTable κ n) (data : ℤ) : ℤ × HashTable κ n :=
  match findHashEntry cmpFunc hashIndexGen string htbl with
  | some _ => (0, htbl)
  | none =>
    let bucket := hashIndexGen string
    match allocBlock htbl.hmemPool with
    | (none, pool) => (-1, { htbl with hmemPool := pool })
    | (some hentry, pool) =>
      (0, ⟨Function.update htbl.bucketArray bucket
        (htbl.bucketArray bucket ++ [⟨hentry, string, data⟩]), htbl.nentries + 1, pool⟩)

def hashWalk (table : σ → HashTable κ n) (callback : σ → ℤ → Option σ) (x : σ) : Option σ :=
  (List.finRange n).foldlM
    (fun x slot ↦ ((table x).bucketArray slot).foldlM (fun x bc ↦ callback x bc.data) x) x

def entries (t : HashTable κ n) : List (HashBucket κ) := (List.finRange n).flatMap t.bucketArray

/-- Every key has one entry, in its own bucket, and the entries are the blocks
that the pool has handed out. -/
structure Ok (t : HashTable κ n) : Prop where
  home : ∀ i, ∀ b ∈ t.bucketArray i, hashIndexGen b.key = i
  nodup : (t.entries.map HashBucket.key).Nodup
  gives : Gives t.hmemPool (t.entries.map HashBucket.addr)
  nentries : t.nentries = t.entries.length

variable {cmpFunc hashIndexGen} {t : HashTable κ n} {key : κ} {b : HashBucket κ}

theorem mem_entries : b ∈ t.entries ↔ ∃ i, b ∈ t.bucketArray i := by
  simp [entries]

theorem entries_perm (t : HashTable κ n) (i : Fin n) : ∃ rest,
    t.entries.Perm (t.bucketArray i ++ rest) ∧
    ∀ l k pool, (entries ⟨Function.update t.bucketArray i l, k, pool⟩).Perm (l ++ rest) := by
  have hupdate := fun l ↦
    flatMap_update_perm t.bucketArray l (List.nodup_finRange n) (List.mem_finRange i)
  refine ⟨_, ?_, fun l _ _ ↦ hupdate l⟩
  have hself := hupdate (t.bucketArray i)
  rw [Function.update_eq_self] at hself
  exact hself

theorem Ok.mem_bucket (h : t.Ok hashIndexGen) (hb : b ∈ t.entries) :
    b ∈ t.bucketArray (hashIndexGen b.key) := by
  obtain ⟨i, hi⟩ := mem_entries.mp hb
  rw [h.home i b hi]
  exact hi

theorem Ok.nodup_bucket (h : t.Ok hashIndexGen) (i : Fin n) :
    ((t.bucketArray i).map HashBucket.key).Nodup := by
  obtain ⟨rest, hold, -⟩ := t.entries_perm i
  have hnodup := h.nodup
  rw [(hold.map HashBucket.key).nodup_iff, List.map_append] at hnodup
  exact (List.nodup_append.mp hnodup).1

theorem Ok.nodup_addr (h : t.Ok hashIndexGen) (i : Fin n) :
    ((t.bucketArray i).map HashBucket.addr).Nodup := by
  obtain ⟨rest, hold, -⟩ := t.entries_perm i
  have hnodup := h.gives.nodup
  rw [(hold.map HashBucket.addr).nodup_iff, List.map_append] at hnodup
  exact (List.nodup_append.mp hnodup).1

theorem Ok.bucket_of_addr {b' : HashBucket κ} {i j : Fin n} (h : t.Ok hashIndexGen)
    (hb : b ∈ t.bucketArray i) (hb' : b' ∈ t.bucketArray j) (haddr : b.addr = b'.addr) : i = j := by
  have heq : b = b' := List.inj_on_of_nodup_map h.gives.nodup (mem_entries.mpr ⟨i, hb⟩)
    (mem_entries.mpr ⟨j, hb'⟩) haddr
  rw [← h.home i b hb, ← h.home j b' hb', heq]

theorem length_bucket_le (t : HashTable κ n) (i : Fin n) :
    (t.bucketArray i).length ≤ t.entries.length := by
  obtain ⟨rest, hold, -⟩ := t.entries_perm i
  rw [hold.length_eq, List.length_append]
  exact Nat.le_add_right _ _

theorem Ok.eq_of_key {b' : HashBucket κ} (h : t.Ok hashIndexGen) (hb : b ∈ t.entries)
    (hb' : b' ∈ t.entries) (hkey : b.key = b'.key) : b = b' :=
  List.inj_on_of_nodup_map h.nodup hb hb' hkey

section Compared

variable (hcmp : ∀ a b, cmpFunc a b = 0 ↔ a = b)
include hcmp

theorem Ok.findHashEntry_eq_some (h : t.Ok hashIndexGen) :
    findHashEntry cmpFunc hashIndexGen key t = some b ↔ b ∈ t.entries ∧ b.key = key := by
  constructor
  · intro hfind
    have hkey : cmpFunc b.key key = 0 := by simpa using List.find?_some hfind
    exact ⟨mem_entries.mpr ⟨_, List.mem_of_find?_eq_some hfind⟩, (hcmp _ _).mp hkey⟩
  · rintro ⟨hb, rfl⟩
    cases hfind : findHashEntry cmpFunc hashIndexGen b.key t with
    | none =>
      have hnone := List.find?_eq_none.mp hfind b (h.mem_bucket hb)
      exact absurd (decide_eq_true ((hcmp _ _).mpr rfl)) hnone
    | some b' =>
      have hkey : cmpFunc b'.key b.key = 0 := by simpa using List.find?_some hfind
      have hb' : b' ∈ t.entries := mem_entries.mpr ⟨_, List.mem_of_find?_eq_some hfind⟩
      rw [h.eq_of_key hb' hb ((hcmp _ _).mp hkey)]

theorem Ok.findHashEntry_eq_none (h : t.Ok hashIndexGen) :
    findHashEntry cmpFunc hashIndexGen key t = none ↔ ∀ b ∈ t.entries, b.key ≠ key := by
  constructor
  · intro hnone b hb hkey
    rw [(h.findHashEntry_eq_some hcmp).mpr ⟨hb, hkey⟩] at hnone
    cases hnone
  · intro hne
    cases hfind : findHashEntry cmpFunc hashIndexGen key t with
    | none => rfl
    | some b =>
      obtain ⟨hb, hkey⟩ := (h.findHashEntry_eq_some hcmp).mp hfind
      exact absurd hkey (hne b hb)

theorem Ok.add (h : t.Ok hashIndexGen) (hnew : ∀ b ∈ t.entries, b.key ≠ key) (data : ℤ)
    (hroom : (t.entries.length : ℤ) < t.hmemPool.nblks) :
    ∃ addr t', hashAddEntry cmpFunc hashIndexGen key t data = (0, t') ∧ t'.Ok hashIndexGen ∧
      t'.entries.Perm (⟨addr, key, data⟩ :: t.entries) ∧ t'.hmemPool.fixed = t.hmemPool.fixed := by
  have hfind := (h.findHashEntry_eq_none hcmp).mpr hnew
  obtain ⟨-, hfull⟩ | ⟨addr, pool, halloc, -, -, hgives, hfixed⟩ := h.gives.alloc
  · rw [List.length_map] at hfull
    omega
  · let t' : HashTable κ n := ⟨Function.update t.bucketArray (hashIndexGen key)
      (t.bucketArray (hashIndexGen key) ++ [⟨addr, key, data⟩]), t.nentries + 1, pool⟩
    have hperm : t'.entries.Perm (⟨addr, key, data⟩ :: t.entries) := by
      obtain ⟨rest, hold, hnew⟩ := t.entries_perm (hashIndexGen key)
      refine (hnew _ _ _).trans ?_
      rw [List.append_assoc, List.singleton_append]
      exact List.perm_middle.trans (hold.symm.cons _)
    refine ⟨addr, t', ?_, ⟨?_, ?_, ?_, ?_⟩, hperm, hfixed⟩
    · rw [hashAddEntry, hfind]
      simp only [halloc, t']
    · intro i b hb
      by_cases hi : i = hashIndexGen key
      · subst hi
        simp only [t', Function.update_self, List.mem_append, List.mem_singleton] at hb
        obtain hb | rfl := hb
        · exact h.home _ b hb
        · rfl
      · simp only [t', Function.update_of_ne hi] at hb
        exact h.home i b hb
    · rw [(hperm.map HashBucket.key).nodup_iff, List.map_cons, List.nodup_cons]
      refine ⟨?_, h.nodup⟩
      intro hmem
      obtain ⟨b, hb, hkey⟩ := List.mem_map.mp hmem
      exact hnew b hb hkey
    · exact hgives.perm (hperm.map HashBucket.addr)
    · have hlen := hperm.length_eq
      have hcount := h.nentries
      rw [List.length_cons] at hlen
      simp only [t'] at hlen ⊢
      omega

theorem Ok.hashDeleteEntry_eq {freeData : σ → ℤ → Option σ} {x x' : σ}
    {l₁ l₂ : List (HashBucket κ)} {r : ℤ} {pool : MemInfo} (h : t.Ok hashIndexGen)
    (hchain : t.bucketArray (hashIndexGen b.key) = l₁ ++ b :: l₂)
    (hfree : freeData x b.data = some x') (hblk : freeBlk t.hmemPool b.addr = some (r, pool)) :
    hashDeleteEntry cmpFunc hashIndexGen freeData b.key x t = some (0, x',
      ⟨Function.update t.bucketArray (hashIndexGen b.key) (l₁ ++ l₂), t.nentries - 1, pool⟩) := by
  have hb : b ∈ t.entries := mem_entries.mpr ⟨hashIndexGen b.key, by simp [hchain]⟩
  have hfind := (h.findHashEntry_eq_some hcmp).mpr ⟨hb, rfl⟩
  have hnodup := h.nodup_bucket (hashIndexGen b.key)
  rw [hchain, List.map_append, List.map_cons] at hnodup
  have hother : ∀ c ∈ l₁, ¬decide (cmpFunc c.key b.key = 0) = true := by
    intro c hc hkey
    exact (List.nodup_append.mp hnodup).2.2 _ (List.mem_map_of_mem hc) _ List.mem_cons_self
      ((hcmp _ _).mp (of_decide_eq_true hkey))
  have herase : (l₁ ++ b :: l₂).eraseP (fun c ↦ decide (cmpFunc c.key b.key = 0)) = l₁ ++ l₂ := by
    rw [List.eraseP_append_right _ hother, List.eraseP_cons, decide_eq_true ((hcmp _ _).mpr rfl)]
    rfl
  rw [findHashEntry, hchain] at hfind
  simp only [hashDeleteEntry, hfind, hfree, hblk, hchain, herase, Option.bind_some,
    Option.map_some]

theorem Ok.delete {freeData : σ → ℤ → Option σ} {x x' : σ} {l₁ l₂ : List (HashBucket κ)}
    (h : t.Ok hashIndexGen) (hchain : t.bucketArray (hashIndexGen b.key) = l₁ ++ b :: l₂)
    (hfree : freeData x b.data = some x') :
    ∃ pool t', hashDeleteEntry cmpFunc hashIndexGen freeData b.key x t = some (0, x', t') ∧
      t' = ⟨Function.update t.bucketArray (hashIndexGen b.key) (l₁ ++ l₂), t.nentries - 1, pool⟩ ∧
      freeBlk t.hmemPool b.addr = some (0, pool) ∧
      t'.Ok hashIndexGen ∧ t.entries.Perm (b :: t'.entries) ∧ pool.fixed = t.hmemPool.fixed := by
  have hb : b ∈ t.entries := mem_entries.mpr ⟨hashIndexGen b.key, by simp [hchain]⟩
  obtain ⟨pool, hblk, hgives, hfixed⟩ := h.gives.free (List.mem_map_of_mem hb)
  let t' : HashTable κ n :=
    ⟨Function.update t.bucketArray (hashIndexGen b.key) (l₁ ++ l₂), t.nentries - 1, pool⟩
  have hperm : t.entries.Perm (b :: t'.entries) := by
    obtain ⟨rest, hold, hnew⟩ := t.entries_perm (hashIndexGen b.key)
    rw [hchain] at hold
    refine (hold.trans (List.perm_middle.append_right _)).trans ?_
    exact (hnew _ _ _).symm.cons _
  refine ⟨pool, t', h.hashDeleteEntry_eq hcmp hchain hfree hblk, rfl, hblk, ⟨?_, ?_, ?_, ?_⟩, hperm,
    hfixed⟩
  · intro i c hc
    by_cases hi : i = hashIndexGen b.key
    · subst hi
      simp only [t', Function.update_self] at hc
      refine h.home _ c ?_
      rw [hchain]
      exact List.Sublist.mem hc ((List.sublist_cons_self b l₂).append_left l₁)
    · simp only [t', Function.update_of_ne hi] at hc
      exact h.home i c hc
  · have hnodup := h.nodup
    rw [(hperm.map HashBucket.key).nodup_iff, List.map_cons, List.nodup_cons] at hnodup
    exact hnodup.2
  · have hgives' := (hperm.map HashBucket.addr).erase b.addr
    rw [List.map_cons, List.erase_cons_head] at hgives'
    exact hgives.perm hgives'.symm
  · have hlen := hperm.length_eq
    have hcount := h.nentries
    rw [List.length_cons] at hlen
    simp only [t'] at hlen ⊢
    omega

end Compared

theorem ok_create {saddr : ℤ} (hn : 1 ≤ n) (hfits : 8 * n * n < 2 ^ 31) (hsaddr : 0 < saddr) :
    (createHashTable n saddr : HashTable κ n).Ok hashIndexGen := by
  have hentries : (createHashTable n saddr : HashTable κ n).entries = [] := by
    simp [createHashTable, entries]
  refine ⟨fun i b hb ↦ absurd hb List.not_mem_nil, ?_, ?_, ?_⟩
  · rw [hentries]
    exact List.nodup_nil
  · rw [hentries]
    exact gives_memPoolCreate (by omega) hn hfits hsaddr
  · rw [hentries]
    rfl

end HashTable

end Layer3Switch.Mem
