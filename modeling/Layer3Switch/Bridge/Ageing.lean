import Layer3Switch.Bridge.Entries
import Layer3Switch.Mem.Links

namespace Layer3Switch.Bridge

open Lib Lib.Bytes Mem Timers Stp

/-- The variables of `fdb.c`, with the chains of the hash table as they lie in memory. -/
structure LinkedFdb where
  hashTable : LinkedTable MacAddress fdbHashSize
  pool : MemInfo
  mem : ℤ → FdbT
  agingTime : U32
  discards : U32

namespace LinkedFdb

def init (hashAddr poolAddr : ℤ) (node : ℤ → BucketNode MacAddress) (mem : ℤ → FdbT) :
    LinkedFdb where
  hashTable := .create fdbHashSize hashAddr node
  pool := memPoolCreate (maxFdbEntries * 24) maxFdbEntries poolAddr
  mem := mem
  agingTime := defaultAgingTimeOut
  discards := 0

variable (e : Endian) (fdbSalt : U32) (fuel : ℕ)

def fdbLookup (s : LinkedFdb) (mac : MacAddress) : Option (Option ℤ) :=
  (s.hashTable.findHashEntry (compareEtherAddr e) (fdbMacHash e fdbSalt) fuel mac).map fun pbkt ↦
    if pbkt = 0 then none else some (s.hashTable.node pbkt).data

def fdbAddEntry (s : LinkedFdb) (mac : MacAddress) (portno : ℤ) (isStatic : Bool) (secs : U32) :
    Option (ℤ × LinkedFdb) :=
  match allocBlock s.pool with
  | (none, pool) => some (-1, { s with pool := pool })
  | (some nfdb, pool) =>
    (s.hashTable.hashAddEntry (compareEtherAddr e) (fdbMacHash e fdbSalt) fuel mac nfdb).map
      fun x ↦ (x.1, { s with
        pool := pool
        mem := Function.update s.mem nfdb ⟨mac, portno, isStatic, secs + s.agingTime⟩
        hashTable := x.2 })

def macAddressUpdate (allowed : Bool) (s : LinkedFdb) (macAddr : MacAddress) (portNo : ℤ)
    (secs : U32) : Option (ℤ × LinkedFdb) :=
  if !allowed then some (0, s)
  else
    (s.fdbLookup e fdbSalt fuel macAddr).bind fun
      | some p =>
        if (s.mem p).isStatic then some (0, s)
        else
          some (0, { s with
            mem := Function.update s.mem p
              { s.mem p with port := portNo, expiry := secs + s.agingTime } })
      | none =>
        (s.fdbAddEntry e fdbSalt fuel macAddr portNo false secs).map fun x ↦
          if x.1 ≠ 0 then (-1, { x.2 with discards := x.2.discards + 1 }) else (0, x.2)

def fdbDeleteEntry (s : LinkedFdb) (mac : MacAddress) : Option (ℤ × LinkedFdb) :=
  (s.hashTable.hashDeleteEntry (compareEtherAddr e) (fdbMacHash e fdbSalt) fuel fdbFreeEntry mac
    s.pool).map fun x ↦ (x.1, { s with pool := x.2.1, hashTable := x.2.2 })

def deleteAgeOutEntires (secs : MacAddress → U32) (s : LinkedFdb) (data : ℤ) : Option LinkedFdb :=
  let p := s.mem data
  if p.expiry ≤ secs p.macAddr then (s.fdbDeleteEntry e fdbSalt fuel p.macAddr).map Prod.snd
  else some s

def agingTimerExpired (secs : MacAddress → U32) (s : LinkedFdb) : Option (List ℤ × LinkedFdb) :=
  LinkedTable.hashWalk fuel hashTable (deleteAgeOutEntires e fdbSalt fuel secs) s

def operate (s : LinkedFdb) : FdbOp → Option LinkedFdb
  | .add mac portno isStatic secs =>
    (s.fdbAddEntry e fdbSalt fuel mac portno isStatic secs).map Prod.snd
  | .update allowed mac port secs =>
    (s.macAddressUpdate e fdbSalt fuel allowed mac port secs).map Prod.snd
  | .age secs => (s.agingTimerExpired e fdbSalt fuel secs).map Prod.snd

def Represents (l : LinkedFdb) (s : Fdb) : Prop :=
  ∃ t : LinkedTable MacAddress fdbHashSize, t.Represents s.hashTable ∧
    l = ⟨t, s.pool, s.mem, s.agingTime, s.discards⟩

end LinkedFdb

section Refines

variable {e : Endian} {fdbSalt : U32} {fuel : ℕ} {l l' : LinkedFdb} {s s' : Fdb} {lost : List ℤ}

theorem represents_init (hashAddr poolAddr : ℤ) (node : ℤ → BucketNode MacAddress)
    (mem : ℤ → FdbT) :
    (LinkedFdb.init hashAddr poolAddr node mem).Represents (fdbInit hashAddr poolAddr mem) := by
  refine ⟨.create fdbHashSize hashAddr node, ⟨fun _ ↦ rfl, fun b hb ↦ ?_, rfl, rfl⟩, rfl⟩
  obtain ⟨i, hi⟩ := HashTable.mem_entries.mp hb
  exact absurd hi List.not_mem_nil

theorem Stocked.length_le (h : Stocked e fdbSalt s lost) :
    s.hashTable.entries.length ≤ maxFdbEntries := by
  have hlen := h.table.gives.length
  have hfblks := h.table.gives.ok.fblks
  rw [List.length_map, h.nodes] at hlen
  omega

variable (hfuel : maxFdbEntries < fuel) (h : Stocked e fdbSalt s lost) (hr : l.Represents s)
include hfuel h hr

theorem Stocked.lookup_linked (mac : MacAddress) :
    l.fdbLookup e fdbSalt fuel mac = some (fdbLookup e fdbSalt s mac) := by
  obtain ⟨t, ht, rfl⟩ := hr
  have hfind := ht.findHashEntry (compareEtherAddr_eq_zero e) h.table
    (h.length_le.trans_lt hfuel) mac
  rw [LinkedFdb.fdbLookup, hfind, fdbLookup, HashTable.hashTblLookup]
  cases hb : s.hashTable.findHashEntry (compareEtherAddr e) (fdbMacHash e fdbSalt) mac with
  | none => rfl
  | some b =>
    obtain ⟨hmem, -⟩ := (h.table.findHashEntry_eq_some (compareEtherAddr_eq_zero e)).mp hb
    obtain ⟨i, hi⟩ := HashTable.mem_entries.mp hmem
    have hnull : b.addr ≠ 0 := (ht.chain i).ne_null (List.mem_map_of_mem hi)
    simp only [Option.elim_some, Option.map_some, if_neg hnull, (ht.node b hmem).2]

theorem Stocked.add_linked (mac : MacAddress) (portno : ℤ) (isStatic : Bool) (secs : U32) :
    ∃ l', l.fdbAddEntry e fdbSalt fuel mac portno isStatic secs =
        some ((Bridge.fdbAddEntry e fdbSalt s mac portno isStatic secs).1, l') ∧
      l'.Represents (Bridge.fdbAddEntry e fdbSalt s mac portno isStatic secs).2 := by
  obtain ⟨t, ht, rfl⟩ := hr
  rw [LinkedFdb.fdbAddEntry, Bridge.fdbAddEntry]
  obtain ⟨halloc, -⟩ | ⟨nfdb, pool, halloc, -⟩ := h.gives.alloc
  · simp only [halloc]
    exact ⟨_, rfl, t, ht, rfl⟩
  · obtain ⟨t', hadd, ht'⟩ := ht.add (compareEtherAddr_eq_zero e) h.table
      (h.length_le.trans_lt hfuel) mac nfdb
    simp only [halloc, hadd]
    exact ⟨_, rfl, t', ht', rfl⟩

theorem Stocked.update_linked (allowed : Bool) (mac : MacAddress) (port : ℤ) (secs : U32) :
    ∃ l', l.macAddressUpdate e fdbSalt fuel allowed mac port secs =
        some ((Bridge.macAddressUpdate e fdbSalt allowed s mac port secs).1, l') ∧
      l'.Represents (Bridge.macAddressUpdate e fdbSalt allowed s mac port secs).2 := by
  have hlookup := h.lookup_linked hfuel hr mac
  obtain ⟨l₁, hadd, hr₁⟩ := h.add_linked hfuel hr mac port false secs
  obtain ⟨t, ht, rfl⟩ := hr
  rw [LinkedFdb.macAddressUpdate, Bridge.macAddressUpdate, hlookup, Option.bind_some]
  cases allowed with
  | false => exact ⟨_, rfl, t, ht, rfl⟩
  | true =>
    cases fdbLookup e fdbSalt s mac with
    | some p =>
      dsimp only
      cases hstatic : (s.mem p).isStatic with
      | true => exact ⟨_, rfl, t, ht, rfl⟩
      | false => exact ⟨_, rfl, t, ht, rfl⟩
    | none =>
      generalize Bridge.fdbAddEntry e fdbSalt s mac port false secs = x at hadd hr₁ ⊢
      obtain ⟨t₁, ht₁, rfl⟩ := hr₁
      simp only [Bool.not_true, Bool.false_eq_true, if_false, hadd, Option.map_some]
      by_cases hret : x.1 = 0
      · simp only [hret, ne_eq, not_true_eq_false, if_false]
        exact ⟨_, rfl, t₁, ht₁, rfl⟩
      · simp only [hret, ne_eq, not_false_eq_true, if_true]
        exact ⟨_, rfl, t₁, ht₁, rfl⟩

theorem Stocked.visit_linked {b : HashBucket MacAddress} {l₁ l₂ : List (HashBucket MacAddress)}
    {i : Fin fdbHashSize} (secs : MacAddress → U32)
    (hb : s.hashTable.bucketArray i = l₁ ++ b :: l₂) :
    ∃ l' s' l₁', l.deleteAgeOutEntires e fdbSalt fuel secs b.data = some l' ∧
      deleteAgeOutEntires e fdbSalt secs s b.data = some s' ∧
      (l'.Represents s' ∧ Stocked e fdbSalt s' lost) ∧
      s'.hashTable.bucketArray = Function.update s.hashTable.bucketArray i (l₁' ++ l₂) ∧
      ∀ c ∈ b :: l₂, l'.hashTable.next c.addr = l.hashTable.next c.addr := by
  have hbucket : b ∈ s.hashTable.bucketArray i := hb ▸ List.mem_append_right l₁ List.mem_cons_self
  have hmem := HashTable.mem_entries.mpr ⟨i, hbucket⟩
  have hmac := h.mac b hmem
  obtain rfl := h.table.home i b hbucket
  obtain ⟨t, ht, rfl⟩ := hr
  cases hstays : s.stays secs b with
  | false =>
    obtain ⟨nodes, pool, hblk, hfree, hvisit, h'⟩ := h.visit_due hb hstays
    obtain ⟨t', hdelete, ht', hsame⟩ := ht.delete (compareEtherAddr_eq_zero e) h.table hb
      (h.length_le.trans_lt hfuel) hfree hblk
    refine ⟨⟨t', pool, s.mem, s.agingTime, s.discards⟩, _, l₁, ?_, hvisit,
      ⟨⟨t', ht', rfl⟩, h'⟩, rfl,
      hsame⟩
    rw [Fdb.stays, Bool.not_eq_false', decide_eq_true_eq] at hstays
    simp [LinkedFdb.deleteAgeOutEntires, hmac, hstays, LinkedFdb.fdbDeleteEntry, hdelete]
  | true =>
    refine ⟨⟨t, s.pool, s.mem, s.agingTime, s.discards⟩, s, l₁ ++ [b], ?_,
      h.visit_stays hmem hstays, ⟨⟨t, ht, rfl⟩, h⟩, ?_, fun _ _ ↦ rfl⟩
    · rw [Fdb.stays, Bool.not_eq_true', decide_eq_false_iff_not] at hstays
      simp [LinkedFdb.deleteAgeOutEntires, hmac, hstays]
    · rw [List.append_assoc, List.singleton_append, ← hb, Function.update_eq_self]

theorem Stocked.age_linked (secs : MacAddress → U32) :
    ∃ l' s', l.agingTimerExpired e fdbSalt fuel secs =
        some (s.hashTable.entries.map HashBucket.addr, l') ∧
      agingTimerExpired e fdbSalt secs s = some s' ∧
      (l'.Represents s' ∧ Stocked e fdbSalt s' lost) := by
  refine LinkedTable.hashWalk_follows
    (R := fun (l : LinkedFdb) s ↦ l.Represents s ∧ Stocked e fdbSalt s lost)
    ?_ ?_ ⟨hr, h⟩
  · rintro l s ⟨⟨t, ht, rfl⟩, h⟩
    exact ⟨ht, h.length_le.trans_lt hfuel⟩
  · rintro l s i l₁ b l₂ ⟨hr, h⟩ hb
    exact h.visit_linked hfuel hr secs hb

theorem Stocked.operate_linked (op : FdbOp) :
    ∃ l' s' lost', l.operate e fdbSalt fuel op = some l' ∧ s.operate e fdbSalt op = some s' ∧
      l'.Represents s' ∧ Stocked e fdbSalt s' lost' := by
  obtain ⟨s', lost', hop, h'⟩ := h.operate op
  cases op with
  | add mac portno isStatic secs =>
    obtain ⟨l', hadd, hr'⟩ := h.add_linked hfuel hr mac portno isStatic secs
    obtain rfl := Option.some.inj hop
    exact ⟨l', _, lost', by rw [LinkedFdb.operate, hadd, Option.map_some], rfl, hr', h'⟩
  | update allowed mac port secs =>
    obtain ⟨l', hupdate, hr'⟩ := h.update_linked hfuel hr allowed mac port secs
    obtain rfl := Option.some.inj hop
    exact ⟨l', _, lost', by rw [LinkedFdb.operate, hupdate, Option.map_some], rfl, hr', h'⟩
  | age secs =>
    obtain ⟨l', s', hpass, hage, hr', h'⟩ := h.age_linked hfuel hr secs
    exact ⟨l', s', lost, by rw [LinkedFdb.operate, hpass, Option.map_some], hage, hr', h'⟩

theorem Stocked.exec_linked (ops : List FdbOp) :
    ∃ l' s' lost', Lib.exec (LinkedFdb.operate e fdbSalt fuel) l ops = some l' ∧
      Lib.exec (Fdb.operate e fdbSalt) s ops = some s' ∧
      l'.Represents s' ∧ Stocked e fdbSalt s' lost' := by
  induction ops generalizing l s lost with
  | nil => exact ⟨l, s, lost, rfl, rfl, hr, h⟩
  | cons op ops ih =>
    obtain ⟨l₁, s₁, lost₁, hop, hop', hr₁, h₁⟩ := h.operate_linked hfuel hr op
    obtain ⟨l₂, s₂, lost₂, hexec, hexec', h₂⟩ := ih h₁ hr₁
    refine ⟨l₂, s₂, lost₂, ?_, ?_, h₂⟩
    · rw [Lib.exec, hop]
      exact hexec
    · rw [Lib.exec, hop']
      exact hexec'

end Refines

/-- An ageing pass takes out of the chains just what is due, and visits every entry once. -/
structure PassExact (secs : MacAddress → U32) (s s' : Fdb) (visited : List ℤ) : Prop where
  once : visited = s.hashTable.entries.map HashBucket.addr ∧ visited.Nodup
  kept : ∀ i, s'.hashTable.bucketArray i = (s.hashTable.bucketArray i).filter fun b ↦
    ¬(s.mem b.data).expiry ≤ secs b.key
  contents : s'.mem = s.mem
  nentries : s'.hashTable.nentries = s.hashTable.nentries - s.hashTable.entries.countP fun b ↦
    (s.mem b.data).expiry ≤ secs b.key
  nodes : s'.hashTable.hmemPool.useblks = s.hashTable.hmemPool.useblks -
    s.hashTable.entries.countP fun b ↦ (s.mem b.data).expiry ≤ secs b.key
  blocks : s'.pool.useblks = s.pool.useblks - s.hashTable.entries.countP fun b ↦
    (s.mem b.data).expiry ≤ secs b.key

theorem length_entries_filter {t t' : HashTable MacAddress fdbHashSize}
    {p : HashBucket MacAddress → Bool} (h : t'.bucketArray = fun i ↦ (t.bucketArray i).filter p) :
    (t'.entries.length : ℤ) = t.entries.length - t.entries.countP fun b ↦ !p b := by
  have hentries : t'.entries = t.entries.filter p := by
    rw [HashTable.entries, h, HashTable.entries, List.filter_flatMap]
  have hcount := List.length_eq_countP_add_countP p (l := t.entries)
  rw [hentries, ← List.countP_eq_length_filter, hcount]
  simp only [Bool.not_eq_true, Bool.decide_eq_false]
  omega

/-- For every content of the database, the ageing pass over the chains ends and is exact. -/
theorem ageing_pass_exact (e : Endian) (fdbSalt : U32) {fuel : ℕ} {l : LinkedFdb} {s : Fdb}
    {lost : List ℤ} (h : Stocked e fdbSalt s lost) (hr : l.Represents s)
    (hfuel : maxFdbEntries < fuel) (secs : MacAddress → U32) :
    ∃ visited l' s', l.agingTimerExpired e fdbSalt fuel secs = some (visited, l') ∧
      l'.Represents s' ∧ PassExact secs s s' visited := by
  obtain ⟨l', s', hpass, hage, hr', h'⟩ := h.age_linked hfuel hr secs
  obtain ⟨t, pool, hage', -, hbuckets⟩ := h.sweep secs
  obtain rfl := Option.some.inj (hage.symm.trans hage')
  have hlength := length_entries_filter hbuckets
  have hdue : (fun b ↦ !s.stays secs b) = fun b ↦ decide ((s.mem b.data).expiry ≤ secs b.key) := by
    funext b
    rw [Fdb.stays, Bool.not_not]
  rw [hdue] at hlength
  refine ⟨_, l', _, hpass, hr', ⟨rfl, h.table.gives.nodup⟩, fun i ↦ ?_, rfl, ?_, ?_, ?_⟩
  · rw [hbuckets]
    simp only [decide_not]
    rfl
  · rw [h.table.nentries, h'.table.nentries, hlength]
  · rw [h.table.gives.useblks, h'.table.gives.useblks, List.length_map, List.length_map, hlength]
  · rw [h.gives.useblks, h'.gives.useblks, List.length_append, List.length_append,
      List.length_map, List.length_map, Nat.cast_add, Nat.cast_add, hlength]
    ring

def oneChain : List FdbOp :=
  [.add #v[0, 1, 2, 3, 4, 5] 1 false 0, .add #v[0, 2, 2, 3, 4, 5] 1 false 0,
    .add #v[0, 3, 2, 3, 4, 5] 2 false 100, .add #v[0, 4, 2, 3, 4, 5] 2 false 200,
    .add #v[0, 5, 2, 3, 4, 5] 3 false 0]

/-- The first two and the last one of a chain are aged out. -/
theorem ageing_pass_exact_one_chain : ∃ l s lost visited l' s',
    Lib.exec (LinkedFdb.operate .little 7 1025)
      (.init 4096 16777216 (fun _ ↦ ⟨0, .replicate 6 0, 0⟩) fun _ ↦ ⟨.replicate 6 0, 0, false, 0⟩)
      oneChain = some l ∧
    l.Represents s ∧ Stocked .little 7 s lost ∧
    l.agingTimerExpired .little 7 1025 (fun _ ↦ 300) = some (visited, l') ∧
    visited.length = 5 ∧ l'.hashTable.nentries = 2 ∧
    l'.Represents s' ∧ PassExact (fun _ ↦ 300) s s' visited := by
  have hfuel : maxFdbEntries < 1025 := by decide
  have hinit : Stocked .little 7
      (fdbInit 4096 16777216 fun _ ↦ ⟨.replicate 6 0, 0, false, 0⟩) [] :=
    stocked_fdbInit (by decide) (by decide)
  obtain ⟨l, s, lost, hexec, -, hr, h⟩ := hinit.exec_linked hfuel
    (represents_init 4096 16777216 (fun _ ↦ ⟨0, .replicate 6 0, 0⟩) _) oneChain
  have hcheck : ((Lib.exec (LinkedFdb.operate .little 7 1025)
      (.init 4096 16777216 (fun _ ↦ ⟨0, .replicate 6 0, 0⟩) fun _ ↦ ⟨.replicate 6 0, 0, false, 0⟩)
      oneChain).any fun l ↦ (l.agingTimerExpired .little 7 1025 fun _ ↦ 300).any fun x ↦
        x.1.length = 5 ∧ x.2.hashTable.nentries = 2) = true := by
    decide +kernel
  obtain ⟨visited, l', s', hpass, hr', hexact⟩ := ageing_pass_exact .little 7 h hr hfuel fun _ ↦ 300
  simp only [hexec, hpass, Option.any_some, decide_eq_true_eq] at hcheck
  exact ⟨l, s, lost, visited, l', s', hexec, hr, h, hpass, hcheck.1, hcheck.2, hr', hexact⟩

end Layer3Switch.Bridge
