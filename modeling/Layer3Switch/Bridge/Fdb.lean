import Layer3Switch.Mem.HashTable
import Layer3Switch.Stp.Types
import Mathlib.Data.Set.Card

namespace Layer3Switch.Bridge

open Lib Lib.Bytes Mem Timers Stp

def maxFdbEntries : ℕ := 1024
abbrev fdbHashSize : ℕ := 1024
def defaultAgingTimeOut : U32 := 5 * 60

section Hashing

def jhashRound (i j k : ℕ) (x : U32 × U32 × U32) : U32 × U32 × U32 :=
  let (a, b, c) := x
  let a := (a - b - c) ^^^ (c >>> i)
  let b := (b - c - a) ^^^ (a <<< j)
  let c := (c - a - b) ^^^ (b >>> k)
  (a, b, c)

def jhashMix (x : U32 × U32 × U32) : U32 × U32 × U32 :=
  jhashRound 3 10 15 (jhashRound 12 16 5 (jhashRound 13 8 13 x))

def jhashGoldenRatio : U32 := 0x9e3779b9

def jhash3words (a b c initval : U32) : U32 :=
  (jhashMix (a + jhashGoldenRatio, b + jhashGoldenRatio, c + initval)).2.2

def jhash1word (a initval : U32) : U32 := jhash3words a 0 0 initval

variable (e : Endian)

def fdbMacHash (fdbSalt : U32) (mac : MacAddress) : Fin fdbHashSize :=
  let key := BitVec.ofNat 32 (e.load (mac.toList.drop 2))
  Fin.ofNat fdbHashSize (jhash1word key fdbSalt &&& BitVec.ofNat 32 (fdbHashSize - 1)).toNat

def etherWord (mac : MacAddress) (offset : ℕ) : U16 :=
  BitVec.ofNat 16 (e.load ((mac.toList.drop offset).take 2))

def compareEtherAddr (a b : MacAddress) : ℤ :=
  if (etherWord e a 0 ^^^ etherWord e b 0) ||| (etherWord e a 2 ^^^ etherWord e b 2) |||
    (etherWord e a 4 ^^^ etherWord e b 4) ≠ 0 then 1 else 0

theorem etherWord_inj {a b : MacAddress} {k : ℕ} (hk : k ≤ 4)
    (h : etherWord e a k = etherWord e b k) :
    (a.toList.drop k).take 2 = (b.toList.drop k).take 2 := by
  have hlen : ∀ mac : MacAddress, ((mac.toList.drop k).take 2).length = 2 := by
    intro mac
    rw [List.length_take, List.length_drop, Vector.length_toList]
    omega
  have hload : e.load ((a.toList.drop k).take 2) = e.load ((b.toList.drop k).take 2) := by
    have hnat := congrArg BitVec.toNat h
    have ha := load_lt e ((a.toList.drop k).take 2)
    have hb := load_lt e ((b.toList.drop k).take 2)
    rw [hlen] at ha hb
    simp only [etherWord, BitVec.toNat_ofNat] at hnat
    omega
  rw [← store_load e ((a.toList.drop k).take 2), ← store_load e ((b.toList.drop k).take 2), hload,
    hlen, hlen]

theorem compareEtherAddr_eq_zero (a b : MacAddress) : compareEtherAddr e a b = 0 ↔ a = b := by
  constructor
  · intro h
    rw [compareEtherAddr, ite_eq_right_iff] at h
    have hor : (etherWord e a 0 ^^^ etherWord e b 0) ||| (etherWord e a 2 ^^^ etherWord e b 2) |||
        (etherWord e a 4 ^^^ etherWord e b 4) = 0#16 := by
      by_contra hne
      exact absurd (h hne) one_ne_zero
    simp only [BitVec.or_eq_zero_iff, BitVec.xor_eq_zero_iff] at hor
    obtain ⟨⟨h₀, h₂⟩, h₄⟩ := hor
    have hsplit : ∀ mac : MacAddress, mac.toList =
        (mac.toList.drop 0).take 2 ++
          ((mac.toList.drop 2).take 2 ++ (mac.toList.drop 4).take 2) := by
      intro mac
      have hlast : (mac.toList.drop 4).take 2 = mac.toList.drop 4 := by
        apply List.take_of_length_le
        rw [List.length_drop, Vector.length_toList]
      have hmid : (mac.toList.drop 2).drop 2 = mac.toList.drop 4 := List.drop_drop
      rw [hlast, ← hmid, List.take_append_drop, List.drop_zero, List.take_append_drop]
    apply Vector.toList_inj.mp
    rw [hsplit a, hsplit b, etherWord_inj e (by omega) h₀, etherWord_inj e (by omega) h₂,
      etherWord_inj e (by omega) h₄]
  · rintro rfl
    simp [compareEtherAddr]

end Hashing

/-- `fdb_t`. -/
structure FdbT where
  macAddr : MacAddress
  port : ℤ
  isStatic : Bool
  expiry : U32

/-- The variables of `fdb.c`: the hash table, the pool with the memory of its
blocks, and of `tbridge` the fields that are used. -/
structure Fdb where
  hashTable : HashTable MacAddress fdbHashSize
  pool : MemInfo
  mem : ℤ → FdbT
  agingTime : U32
  discards : U32

def fdbInit (hashAddr poolAddr : ℤ) (mem : ℤ → FdbT) : Fdb where
  hashTable := createHashTable fdbHashSize hashAddr
  pool := memPoolCreate (maxFdbEntries * 24) maxFdbEntries poolAddr
  mem := mem
  agingTime := defaultAgingTimeOut
  discards := 0

variable (e : Endian) (fdbSalt : U32)

def fdbLookup (s : Fdb) (mac : MacAddress) : Option ℤ :=
  HashTable.hashTblLookup (compareEtherAddr e) (fdbMacHash e fdbSalt) mac s.hashTable

def fdbAddEntry (s : Fdb) (mac : MacAddress) (portno : ℤ) (isStatic : Bool) (secs : U32) :
    ℤ × Fdb :=
  match allocBlock s.pool with
  | (none, pool) => (-1, { s with pool := pool })
  | (some nfdb, pool) =>
    let x := HashTable.hashAddEntry (compareEtherAddr e) (fdbMacHash e fdbSalt) mac s.hashTable nfdb
    (x.1, { s with
      pool := pool
      mem := Function.update s.mem nfdb ⟨mac, portno, isStatic, secs + s.agingTime⟩
      hashTable := x.2 })

def macAddressUpdate (allowed : Bool) (s : Fdb) (macAddr : MacAddress) (portNo : ℤ) (secs : U32) :
    ℤ × Fdb :=
  if !allowed then (0, s)
  else
    match fdbLookup e fdbSalt s macAddr with
    | some p =>
      if (s.mem p).isStatic then (0, s)
      else
        (0, { s with
          mem := Function.update s.mem p
            { s.mem p with port := portNo, expiry := secs + s.agingTime } })
    | none =>
      let x := fdbAddEntry e fdbSalt s macAddr portNo false secs
      if x.1 ≠ 0 then (-1, { x.2 with discards := x.2.discards + 1 }) else (0, x.2)

def fdbFreeEntry (pool : MemInfo) (fdb : ℤ) : Option MemInfo := (freeBlk pool fdb).map Prod.snd

def fdbDeleteEntry (s : Fdb) (mac : MacAddress) : Option (ℤ × Fdb) :=
  (HashTable.hashDeleteEntry (compareEtherAddr e) (fdbMacHash e fdbSalt) fdbFreeEntry mac s.pool
    s.hashTable).map fun x ↦ (x.1, { s with pool := x.2.1, hashTable := x.2.2 })

def deleteAgeOutEntires (secs : MacAddress → U32) (s : Fdb) (data : ℤ) : Option Fdb :=
  let p := s.mem data
  if p.expiry ≤ secs p.macAddr then (fdbDeleteEntry e fdbSalt s p.macAddr).map Prod.snd
  else some s

def agingTimerExpired (secs : MacAddress → U32) (s : Fdb) : Option Fdb :=
  HashTable.hashWalk Fdb.hashTable (deleteAgeOutEntires e fdbSalt secs) s

variable {e fdbSalt} {s : Fdb}

theorem macAddressUpdate_known {mac : MacAddress} {port p : ℤ} {secs : U32}
    (hp : fdbLookup e fdbSalt s mac = some p) (hstatic : (s.mem p).isStatic = false) :
    macAddressUpdate e fdbSalt true s mac port secs =
      (0, { s with
        mem := Function.update s.mem p
          { s.mem p with port := port, expiry := secs + s.agingTime } }) := by
  simp [macAddressUpdate, hp, hstatic]

theorem macAddressUpdate_full {mac : MacAddress} {port : ℤ} {secs : U32}
    (hp : fdbLookup e fdbSalt s mac = none) (halloc : allocBlock s.pool = (none, s.pool)) :
    macAddressUpdate e fdbSalt true s mac port secs =
      (-1, { s with discards := s.discards + 1 }) := by
  simp [macAddressUpdate, hp, fdbAddEntry, halloc]

theorem macAddressUpdate_new {mac : MacAddress} {port nfdb : ℤ} {secs : U32} {pool : MemInfo}
    {t : HashTable MacAddress fdbHashSize} (hp : fdbLookup e fdbSalt s mac = none)
    (halloc : allocBlock s.pool = (some nfdb, pool))
    (hadd : HashTable.hashAddEntry (compareEtherAddr e) (fdbMacHash e fdbSalt) mac s.hashTable
      nfdb = (0, t)) :
    macAddressUpdate e fdbSalt true s mac port secs =
      (0, { s with
        pool := pool, hashTable := t
        mem := Function.update s.mem nfdb ⟨mac, port, false, secs + s.agingTime⟩ }) := by
  simp [macAddressUpdate, hp, fdbAddEntry, halloc, hadd]

abbrev Records := MacAddress → Option FdbT

namespace Records

def update (r : Records) (room : Bool) (mac : MacAddress) (port : ℤ) (expiry : U32) : Records :=
  match r mac with
  | some x =>
    if x.isStatic then r else Function.update r mac (some { x with port := port, expiry := expiry })
  | none => if room then Function.update r mac (some ⟨mac, port, false, expiry⟩) else r

def add (r : Records) (room : Bool) (x : FdbT) : Records :=
  if r x.macAddr = none ∧ room then Function.update r x.macAddr (some x) else r

def ageOn (r : Records) (secs : MacAddress → U32) (p : MacAddress → Bool) : Records :=
  fun mac ↦ if p mac then (r mac).filter fun x ↦ !decide (x.expiry ≤ secs mac) else r mac

def age (r : Records) (secs : MacAddress → U32) : Records := r.ageOn secs fun _ ↦ true

end Records

def Fdb.record (e : Endian) (fdbSalt : U32) (s : Fdb) : Records :=
  fun mac ↦ (fdbLookup e fdbSalt s mac).map s.mem

/-- Every address has one entry, with a block of the pool that bears the address.
The blocks of `lost` are in no entry. -/
structure Stocked (e : Endian) (fdbSalt : U32) (s : Fdb) (lost : List ℤ) : Prop where
  table : s.hashTable.Ok (fdbMacHash e fdbSalt)
  gives : Gives s.pool (s.hashTable.entries.map HashBucket.data ++ lost)
  blocks : s.pool.nblks = maxFdbEntries
  nodes : s.hashTable.hmemPool.nblks = maxFdbEntries
  mac : ∀ b ∈ s.hashTable.entries, (s.mem b.data).macAddr = b.key

def Fdb.stays (s : Fdb) (secs : MacAddress → U32) (b : HashBucket MacAddress) : Bool :=
  !decide ((s.mem b.data).expiry ≤ secs b.key)

def Fdb.room (s : Fdb) : Bool := s.pool.fblks ≠ 0

structure Becomes (e : Endian) (fdbSalt : U32) (s s' : Fdb) (lost : List ℤ) (r : Records) :
    Prop where
  stocked : Stocked e fdbSalt s' lost
  record : s'.record e fdbSalt = r
  agingTime : s'.agingTime = s.agingTime

namespace Stocked

variable {lost : List ℤ} {mac : MacAddress}

theorem fdbLookup_eq_some {p : ℤ} (h : Stocked e fdbSalt s lost) :
    fdbLookup e fdbSalt s mac = some p ↔
      ∃ b ∈ s.hashTable.entries, b.key = mac ∧ b.data = p := by
  rw [fdbLookup, HashTable.hashTblLookup, Option.map_eq_some_iff]
  simp only [h.table.findHashEntry_eq_some (compareEtherAddr_eq_zero e), and_assoc]

theorem fdbLookup_eq_none (h : Stocked e fdbSalt s lost) :
    fdbLookup e fdbSalt s mac = none ↔ ∀ b ∈ s.hashTable.entries, b.key ≠ mac := by
  rw [fdbLookup, HashTable.hashTblLookup, Option.map_eq_none_iff,
    h.table.findHashEntry_eq_none (compareEtherAddr_eq_zero e)]

theorem record_eq_some {x : FdbT} (h : Stocked e fdbSalt s lost) :
    s.record e fdbSalt mac = some x ↔
      ∃ b ∈ s.hashTable.entries, b.key = mac ∧ s.mem b.data = x := by
  rw [Fdb.record, Option.map_eq_some_iff]
  constructor
  · rintro ⟨p, hp, rfl⟩
    obtain ⟨b, hb, hkey, rfl⟩ := h.fdbLookup_eq_some.mp hp
    exact ⟨b, hb, hkey, rfl⟩
  · rintro ⟨b, hb, hkey, rfl⟩
    exact ⟨b.data, h.fdbLookup_eq_some.mpr ⟨b, hb, hkey, rfl⟩, rfl⟩

theorem record_of_mem {b : HashBucket MacAddress} (h : Stocked e fdbSalt s lost)
    (hb : b ∈ s.hashTable.entries) : s.record e fdbSalt b.key = some (s.mem b.data) :=
  h.record_eq_some.mpr ⟨b, hb, rfl, rfl⟩

theorem record_eq_none : s.record e fdbSalt mac = none ↔ fdbLookup e fdbSalt s mac = none := by
  rw [Fdb.record, Option.map_eq_none_iff]

theorem data_injective {b b' : HashBucket MacAddress} (h : Stocked e fdbSalt s lost)
    (hb : b ∈ s.hashTable.entries) (hb' : b' ∈ s.hashTable.entries) (hdata : b.data = b'.data) :
    b = b' :=
  List.inj_on_of_nodup_map (List.nodup_append.mp h.gives.nodup).1 hb hb' hdata

theorem put {s' : Fdb} {lost' : List ℤ} {b : HashBucket MacAddress} {x : FdbT}
    (h : Stocked e fdbSalt s lost) (ht : s'.hashTable.Ok (fdbMacHash e fdbSalt))
    (hgives : Gives s'.pool (s'.hashTable.entries.map HashBucket.data ++ lost'))
    (hblocks : s'.pool.nblks = maxFdbEntries)
    (hnodes : s'.hashTable.hmemPool.nblks = maxFdbEntries) (hb : b ∈ s'.hashTable.entries)
    (hmem : s'.mem b.data = x) (hmac : x.macAddr = b.key)
    (hother : ∀ b', b'.key ≠ b.key → (b' ∈ s'.hashTable.entries ↔ b' ∈ s.hashTable.entries) ∧
      (b' ∈ s'.hashTable.entries → s'.mem b'.data = s.mem b'.data)) :
    Stocked e fdbSalt s' lost' ∧
      s'.record e fdbSalt = Function.update (s.record e fdbSalt) b.key (some x) := by
  have h' : Stocked e fdbSalt s' lost' := by
    refine ⟨ht, hgives, hblocks, hnodes, ?_⟩
    intro b' hb'
    by_cases hkey : b'.key = b.key
    · rw [ht.eq_of_key hb' hb hkey, hmem, hmac]
    · obtain ⟨hiff, hsame⟩ := hother b' hkey
      rw [hsame hb']
      exact h.mac b' (hiff.mp hb')
  refine ⟨h', funext fun mac ↦ ?_⟩
  by_cases heq : mac = b.key
  · subst heq
    rw [Function.update_self, h'.record_of_mem hb, hmem]
  · rw [Function.update_of_ne heq]
    refine Option.ext fun y ↦ ?_
    rw [h'.record_eq_some, h.record_eq_some]
    refine exists_congr fun b' ↦ ?_
    constructor
    · rintro ⟨hb', rfl, rfl⟩
      obtain ⟨hiff, hsame⟩ := hother b' heq
      exact ⟨hiff.mp hb', rfl, (hsame hb').symm⟩
    · rintro ⟨hb', rfl, rfl⟩
      obtain ⟨hiff, hsame⟩ := hother b' heq
      exact ⟨hiff.mpr hb', rfl, hsame (hiff.mpr hb')⟩

theorem refresh {b : HashBucket MacAddress} (h : Stocked e fdbSalt s lost)
    (hb : b ∈ s.hashTable.entries) (port : ℤ) (expiry : U32) :
    Stocked e fdbSalt { s with
        mem := Function.update s.mem b.data { s.mem b.data with port := port, expiry := expiry } }
      lost ∧
    Fdb.record e fdbSalt { s with
        mem := Function.update s.mem b.data { s.mem b.data with port := port, expiry := expiry } } =
      Function.update (s.record e fdbSalt) b.key
        (some { s.mem b.data with port := port, expiry := expiry }) := by
  refine h.put h.table h.gives h.blocks h.nodes hb (Function.update_self _ _ _) (h.mac b hb) ?_
  intro b' hkey
  refine ⟨Iff.rfl, fun hb' ↦ Function.update_of_ne (fun hdata ↦ hkey ?_) _ _⟩
  rw [h.data_injective hb' hb hdata]

theorem insert {t : HashTable MacAddress fdbHashSize} {pool : MemInfo} {addr nfdb : ℤ} {x : FdbT}
    (h : Stocked e fdbSalt s lost) (ht : t.Ok (fdbMacHash e fdbSalt))
    (hperm : t.entries.Perm (⟨addr, x.macAddr, nfdb⟩ :: s.hashTable.entries))
    (hgives : Gives pool (nfdb :: (s.hashTable.entries.map HashBucket.data ++ lost)))
    (hblocks : pool.nblks = maxFdbEntries) (hnodes : t.hmemPool.nblks = maxFdbEntries) :
    Stocked e fdbSalt
      { s with pool := pool, hashTable := t, mem := Function.update s.mem nfdb x } lost ∧
    Fdb.record e fdbSalt
        { s with pool := pool, hashTable := t, mem := Function.update s.mem nfdb x } =
      Function.update (s.record e fdbSalt) x.macAddr (some x) := by
  have hb : (⟨addr, x.macAddr, nfdb⟩ : HashBucket MacAddress) ∈ t.entries :=
    hperm.mem_iff.mpr List.mem_cons_self
  have hdata : Gives pool (t.entries.map HashBucket.data ++ lost) :=
    hgives.perm ((hperm.map HashBucket.data).append_right lost)
  refine h.put (b := ⟨addr, x.macAddr, nfdb⟩) ht hdata hblocks hnodes hb
    (Function.update_self _ _ _) rfl ?_
  intro b' hkey
  have hiff : b' ∈ t.entries ↔ b' ∈ s.hashTable.entries := by
    rw [hperm.mem_iff, List.mem_cons]
    exact or_iff_right fun heq ↦ hkey (congrArg HashBucket.key heq)
  refine ⟨hiff, fun hb' ↦ Function.update_of_ne ?_ _ _⟩
  intro hdata'
  have hmem := List.mem_append_left lost (List.mem_map_of_mem (f := HashBucket.data) (hiff.mp hb'))
  exact (List.nodup_cons.mp hgives.nodup).1 (hdata' ▸ hmem)

theorem lose {pool : MemInfo} {nfdb : ℤ} (h : Stocked e fdbSalt s lost)
    (hgives : Gives pool (nfdb :: (s.hashTable.entries.map HashBucket.data ++ lost)))
    (hblocks : pool.nblks = maxFdbEntries) (x : FdbT) :
    Stocked e fdbSalt { s with pool := pool, mem := Function.update s.mem nfdb x } (nfdb :: lost) ∧
    Fdb.record e fdbSalt { s with pool := pool, mem := Function.update s.mem nfdb x } =
      s.record e fdbSalt := by
  have hmem : ∀ b ∈ s.hashTable.entries, Function.update s.mem nfdb x b.data = s.mem b.data := by
    intro b hb
    refine Function.update_of_ne (fun hdata ↦ ?_) _ _
    have hb' := List.mem_append_left lost (List.mem_map_of_mem (f := HashBucket.data) hb)
    exact (List.nodup_cons.mp hgives.nodup).1 (hdata ▸ hb')
  have h' : Stocked e fdbSalt { s with pool := pool, mem := Function.update s.mem nfdb x }
      (nfdb :: lost) := by
    refine ⟨h.table, hgives.perm List.perm_middle, hblocks, h.nodes, ?_⟩
    intro b hb
    exact (congrArg FdbT.macAddr (hmem b hb)).trans (h.mac b hb)
  refine ⟨h', funext fun mac ↦ Option.ext fun y ↦ ?_⟩
  rw [h'.record_eq_some, h.record_eq_some]
  refine exists_congr fun b ↦ and_congr_right fun hb ↦ and_congr_right fun _ ↦ ?_
  rw [← hmem b hb]

theorem remove {t : HashTable MacAddress fdbHashSize} {pool : MemInfo} {b : HashBucket MacAddress}
    (h : Stocked e fdbSalt s lost) (ht : t.Ok (fdbMacHash e fdbSalt))
    (hperm : s.hashTable.entries.Perm (b :: t.entries))
    (hgives : Gives pool ((s.hashTable.entries.map HashBucket.data ++ lost).erase b.data))
    (hblocks : pool.nblks = maxFdbEntries) (hnodes : t.hmemPool.nblks = maxFdbEntries) :
    Stocked e fdbSalt { s with pool := pool, hashTable := t } lost := by
  refine ⟨ht, ?_, hblocks, hnodes, fun b' hb' ↦ h.mac b' ?_⟩
  · have herase := ((hperm.map HashBucket.data).append_right lost).erase b.data
    rw [List.map_cons, List.cons_append, List.erase_cons_head] at herase
    exact hgives.perm herase.symm
  · exact hperm.mem_iff.mpr (List.mem_cons_of_mem b hb')

theorem room_iff (h : Stocked e fdbSalt s lost) :
    s.room = true ↔ s.hashTable.entries.length + lost.length < maxFdbEntries := by
  have hlen := h.gives.length
  have hblocks := h.blocks
  have hfblks := h.gives.ok.fblks
  rw [List.length_append, List.length_map] at hlen
  rw [Fdb.room, decide_eq_true_eq]
  omega

theorem fdbAddEntry (h : Stocked e fdbSalt s lost) (mac : MacAddress) (portno : ℤ)
    (isStatic : Bool) (secs : U32) :
    ∃ r s' lost', Bridge.fdbAddEntry e fdbSalt s mac portno isStatic secs = (r, s') ∧
      (r = if s.room then 0 else -1) ∧
      Becomes e fdbSalt s s' lost'
        ((s.record e fdbSalt).add s.room ⟨mac, portno, isStatic, secs + s.agingTime⟩) ∧
      s'.discards = s.discards ∧ (s.record e fdbSalt mac = none → lost' = lost) := by
  have hblocks := h.blocks
  have hnodes := h.nodes
  have hroom := h.room_iff
  obtain ⟨halloc, hfull⟩ | ⟨nfdb, pool, halloc, hlt, -, hgives, hfixed⟩ := h.gives.alloc
  · rw [List.length_append, List.length_map] at hfull
    have hno : s.room = false := Bool.eq_false_iff.mpr fun hyes ↦ by
      have hle := hroom.mp hyes
      omega
    refine ⟨-1, s, lost, ?_, by rw [hno]; rfl, ⟨h, ?_, rfl⟩, rfl, fun _ ↦ rfl⟩
    · rw [Bridge.fdbAddEntry, halloc]
    · rw [Records.add, if_neg fun hm ↦ Bool.false_ne_true (hno ▸ hm.2)]
  · rw [List.length_append, List.length_map] at hlt
    have hyes : s.room = true := hroom.mpr (by omega)
    have hblocks' : pool.nblks = maxFdbEntries := (congrArg (·.2.2.1) hfixed).trans hblocks
    rw [hyes]
    cases hp : fdbLookup e fdbSalt s mac with
    | none =>
      have hnew := h.fdbLookup_eq_none.mp hp
      obtain ⟨addr, t, hadd, ht, hperm, htfixed⟩ :=
        h.table.add (compareEtherAddr_eq_zero e) hnew nfdb (by omega)
      obtain ⟨h', hrecord⟩ := h.insert (x := ⟨mac, portno, isStatic, secs + s.agingTime⟩) ht hperm
        hgives hblocks' ((congrArg (·.2.2.1) htfixed).trans hnodes)
      refine ⟨0, _, lost, ?_, rfl, ⟨h', ?_, rfl⟩, rfl, fun _ ↦ rfl⟩
      · simp only [Bridge.fdbAddEntry, halloc, hadd]
      · rw [hrecord, Records.add, if_pos ⟨record_eq_none.mpr hp, rfl⟩]
    | some p =>
      obtain ⟨b, hb, hkey, -⟩ := h.fdbLookup_eq_some.mp hp
      have hfind := (h.table.findHashEntry_eq_some (compareEtherAddr_eq_zero e)).mpr ⟨hb, hkey⟩
      have hsome : s.record e fdbSalt mac ≠ none := fun hnone ↦ by
        rw [record_eq_none.mp hnone] at hp
        cases hp
      obtain ⟨h', hrecord⟩ := h.lose hgives hblocks' ⟨mac, portno, isStatic, secs + s.agingTime⟩
      refine ⟨0, _, nfdb :: lost, ?_, rfl, ⟨h', ?_, rfl⟩, rfl, fun hnone ↦ absurd hnone hsome⟩
      · simp only [Bridge.fdbAddEntry, halloc, HashTable.hashAddEntry, hfind]
      · rw [hrecord, Records.add, if_neg fun hm ↦ hsome hm.1]

theorem update (h : Stocked e fdbSalt s lost) (mac : MacAddress) (port : ℤ) (secs : U32) :
    Becomes e fdbSalt s (macAddressUpdate e fdbSalt true s mac port secs).2 lost
        ((s.record e fdbSalt).update s.room mac port (secs + s.agingTime)) ∧
      (macAddressUpdate e fdbSalt true s mac port secs).1 =
        (if s.record e fdbSalt mac = none ∧ s.room = false then -1 else 0) := by
  cases hp : fdbLookup e fdbSalt s mac with
  | some p =>
    obtain ⟨b, hb, rfl, rfl⟩ := h.fdbLookup_eq_some.mp hp
    have hx := h.record_of_mem hb
    rw [hx, if_neg fun hm ↦ Option.some_ne_none _ hm.1]
    cases hstatic : (s.mem b.data).isStatic with
    | true =>
      have hcall : macAddressUpdate e fdbSalt true s b.key port secs = (0, s) := by
        simp [macAddressUpdate, hp, hstatic]
      rw [hcall]
      exact ⟨⟨h, by simp [Records.update, hx, hstatic], rfl⟩, rfl⟩
    | false =>
      obtain ⟨h', hrecord⟩ := h.refresh hb port (secs + s.agingTime)
      rw [macAddressUpdate_known hp hstatic]
      refine ⟨⟨h', hrecord.trans ?_, rfl⟩, rfl⟩
      simp [Records.update, hx, hstatic]
  | none =>
    have hx : s.record e fdbSalt mac = none := record_eq_none.mpr hp
    obtain ⟨r, s', lost', hcall, hr, hbecomes, -, hlost⟩ := h.fdbAddEntry mac port false secs
    obtain rfl := hlost hx
    rw [hx]
    cases hroom : s.room with
    | true =>
      rw [hroom] at hr hbecomes
      have hupdate : macAddressUpdate e fdbSalt true s mac port secs = (0, s') := by
        simp [macAddressUpdate, hp, hcall, hr]
      rw [hupdate]
      refine ⟨⟨hbecomes.stocked, ?_, hbecomes.agingTime⟩, by simp⟩
      simp [hbecomes.record, Records.update, Records.add, hx]
    | false =>
      rw [hroom] at hr hbecomes
      have hupdate : macAddressUpdate e fdbSalt true s mac port secs =
          (-1, { s' with discards := s'.discards + 1 }) := by
        simp [macAddressUpdate, hp, hcall, hr]
      rw [hupdate]
      obtain ⟨h', hrecord, haging⟩ := hbecomes
      refine ⟨⟨⟨h'.table, h'.gives, h'.blocks, h'.nodes, h'.mac⟩, ?_, haging⟩, by simp⟩
      refine Eq.trans hrecord ?_
      simp [Records.update, Records.add, hx]

theorem visit_due {b : HashBucket MacAddress} {l₁ l₂ : List (HashBucket MacAddress)}
    {secs : MacAddress → U32} (h : Stocked e fdbSalt s lost)
    (hb : s.hashTable.bucketArray (fdbMacHash e fdbSalt b.key) = l₁ ++ b :: l₂)
    (hdue : s.stays secs b = false) :
    ∃ nodes pool, freeBlk s.hashTable.hmemPool b.addr = some (0, nodes) ∧
      fdbFreeEntry s.pool b.data = some pool ∧
      deleteAgeOutEntires e fdbSalt secs s b.data = some { s with
        pool := pool
        hashTable := ⟨Function.update s.hashTable.bucketArray (fdbMacHash e fdbSalt b.key)
          (l₁ ++ l₂), s.hashTable.nentries - 1, nodes⟩ } ∧
      Stocked e fdbSalt { s with
        pool := pool
        hashTable := ⟨Function.update s.hashTable.bucketArray (fdbMacHash e fdbSalt b.key)
          (l₁ ++ l₂), s.hashTable.nentries - 1, nodes⟩ } lost := by
  have hmem : b ∈ s.hashTable.entries :=
    HashTable.mem_entries.mpr ⟨_, hb ▸ List.mem_append_right l₁ List.mem_cons_self⟩
  have hmac := h.mac b hmem
  obtain ⟨pool, hfree, hgives, hfixed⟩ :=
    h.gives.free (List.mem_append_left lost (List.mem_map_of_mem (f := HashBucket.data) hmem))
  have hfree' : fdbFreeEntry s.pool b.data = some pool := by
    rw [fdbFreeEntry, hfree]
    rfl
  obtain ⟨nodes, t, hdelete, rfl, hblk, ht, hperm, htfixed⟩ :=
    h.table.delete (compareEtherAddr_eq_zero e) hb hfree'
  refine ⟨nodes, pool, hblk, hfree', ?_, h.remove ht hperm hgives
    ((congrArg (·.2.2.1) hfixed).trans h.blocks) ((congrArg (·.2.2.1) htfixed).trans h.nodes)⟩
  rw [Fdb.stays, Bool.not_eq_false', decide_eq_true_eq] at hdue
  simp [deleteAgeOutEntires, hmac, hdue, fdbDeleteEntry, hdelete]

theorem visit_stays {b : HashBucket MacAddress} {secs : MacAddress → U32}
    (h : Stocked e fdbSalt s lost) (hb : b ∈ s.hashTable.entries)
    (hstays : s.stays secs b = true) : deleteAgeOutEntires e fdbSalt secs s b.data = some s := by
  rw [Fdb.stays, Bool.not_eq_true', decide_eq_false_iff_not] at hstays
  simp [deleteAgeOutEntires, h.mac b hb, hstays]

theorem visit {b : HashBucket MacAddress} {l₁ l₂ : List (HashBucket MacAddress)}
    {i : Fin fdbHashSize} (h : Stocked e fdbSalt s lost)
    (hb : s.hashTable.bucketArray i = l₁ ++ b :: l₂) (secs : MacAddress → U32) :
    ∃ t pool, deleteAgeOutEntires e fdbSalt secs s b.data =
        some { s with pool := pool, hashTable := t } ∧
      Stocked e fdbSalt { s with pool := pool, hashTable := t } lost ∧
      t.bucketArray = Function.update s.hashTable.bucketArray i
        (l₁ ++ [b].filter (s.stays secs) ++ l₂) := by
  have hbucket : b ∈ s.hashTable.bucketArray i := hb ▸ List.mem_append_right l₁ List.mem_cons_self
  obtain rfl := h.table.home i b hbucket
  cases hstays : s.stays secs b with
  | false =>
    obtain ⟨nodes, pool, -, -, hvisit, h'⟩ := h.visit_due hb hstays
    refine ⟨_, pool, hvisit, h', ?_⟩
    rw [List.filter_cons_of_neg (Bool.eq_false_iff.mp hstays), List.filter_nil, List.append_nil]
  | true =>
    refine ⟨s.hashTable, s.pool,
      h.visit_stays (HashTable.mem_entries.mpr ⟨_, hbucket⟩) hstays, h, ?_⟩
    rw [List.filter_cons_of_pos hstays, List.filter_nil, List.append_assoc,
      List.singleton_append, ← hb, Function.update_eq_self]

theorem visit_all {l₁ l : List (HashBucket MacAddress)} {i : Fin fdbHashSize}
    (h : Stocked e fdbSalt s lost) (hl : s.hashTable.bucketArray i = l₁ ++ l)
    (secs : MacAddress → U32) :
    ∃ t pool, l.foldlM (fun s b ↦ deleteAgeOutEntires e fdbSalt secs s b.data) s =
        some { s with pool := pool, hashTable := t } ∧
      Stocked e fdbSalt { s with pool := pool, hashTable := t } lost ∧
      t.bucketArray = Function.update s.hashTable.bucketArray i
        (l₁ ++ l.filter (s.stays secs)) := by
  induction l generalizing s l₁ with
  | nil =>
    refine ⟨s.hashTable, s.pool, rfl, h, ?_⟩
    rw [List.filter_nil, ← hl, Function.update_eq_self]
  | cons b l ih =>
    obtain ⟨t₁, pool₁, hvisit, h₁, hb₁⟩ := h.visit hl secs
    have hl₁ : t₁.bucketArray i = (l₁ ++ [b].filter (s.stays secs)) ++ l := by
      rw [hb₁, Function.update_self]
    obtain ⟨t₂, pool₂, hrest, h₂, hb₂⟩ := ih h₁ hl₁
    refine ⟨t₂, pool₂, ?_, h₂, ?_⟩
    · rw [List.foldlM_cons, hvisit]
      exact hrest
    · have hfilter : (b :: l).filter (s.stays secs) =
          [b].filter (s.stays secs) ++ l.filter (s.stays secs) := List.filter_append [b] l
      rw [hb₂, hb₁, Function.update_idem, hfilter, ← List.append_assoc]
      rfl

theorem sweep (h : Stocked e fdbSalt s lost) (secs : MacAddress → U32) :
    ∃ t pool, agingTimerExpired e fdbSalt secs s = some { s with pool := pool, hashTable := t } ∧
      Stocked e fdbSalt { s with pool := pool, hashTable := t } lost ∧
      t.bucketArray = fun i ↦ (s.hashTable.bucketArray i).filter (s.stays secs) := by
  have hslots : ∀ (slots : List (Fin fdbHashSize)) (s : Fdb), slots.Nodup →
      Stocked e fdbSalt s lost → ∃ t pool, slots.foldlM (fun s slot ↦
        (s.hashTable.bucketArray slot).foldlM
          (fun s b ↦ deleteAgeOutEntires e fdbSalt secs s b.data) s) s =
            some { s with pool := pool, hashTable := t } ∧
        Stocked e fdbSalt { s with pool := pool, hashTable := t } lost ∧
        t.bucketArray = fun i ↦ if i ∈ slots then (s.hashTable.bucketArray i).filter (s.stays secs)
          else s.hashTable.bucketArray i := by
    intro slots
    induction slots with
    | nil =>
      intro s _ h
      exact ⟨s.hashTable, s.pool, rfl, h, funext fun i ↦ (if_neg List.not_mem_nil).symm⟩
    | cons i slots ih =>
      intro s hnodup h
      rw [List.nodup_cons] at hnodup
      obtain ⟨t₁, pool₁, hbucket, h₁, hb₁⟩ := h.visit_all (List.nil_append _).symm secs
      obtain ⟨t₂, pool₂, hrest, h₂, hb₂⟩ := ih _ hnodup.2 h₁
      refine ⟨t₂, pool₂, ?_, h₂, ?_⟩
      · rw [List.foldlM_cons, hbucket]
        exact hrest
      · rw [hb₂]
        funext j
        simp only [hb₁, List.mem_cons]
        by_cases hj : j = i
        · subst hj
          rw [if_neg hnodup.1, if_pos (.inl rfl), Function.update_self, List.nil_append]
        · simp only [Function.update_of_ne hj, hj, false_or]
          rfl
  obtain ⟨t, pool, hwalk, h', hb⟩ := hslots _ s (List.nodup_finRange fdbHashSize) h
  refine ⟨t, pool, hwalk, h', ?_⟩
  simpa only [List.mem_finRange, if_true] using hb

theorem age (h : Stocked e fdbSalt s lost) (secs : MacAddress → U32) :
    ∃ s', agingTimerExpired e fdbSalt secs s = some s' ∧
      Becomes e fdbSalt s s' lost ((s.record e fdbSalt).age secs) := by
  obtain ⟨t, pool, hwalk, h', hb⟩ := h.sweep secs
  refine ⟨_, hwalk, h', funext fun mac ↦ Option.ext fun x ↦ ?_, rfl⟩
  have hmem : ∀ b, b ∈ t.entries ↔ b ∈ s.hashTable.entries ∧ s.stays secs b = true := by
    intro b
    simp only [HashTable.mem_entries, hb, List.mem_filter, exists_and_right]
  rw [h'.record_eq_some, Records.age, Records.ageOn, if_pos rfl, Option.filter_eq_some_iff,
    h.record_eq_some]
  constructor
  · rintro ⟨b, hbt, rfl, rfl⟩
    obtain ⟨hbs, hstays⟩ := (hmem b).mp hbt
    exact ⟨⟨b, hbs, rfl, rfl⟩, hstays⟩
  · rintro ⟨⟨b, hbs, rfl, rfl⟩, hstays⟩
    exact ⟨b, (hmem b).mpr ⟨hbs, hstays⟩, rfl, rfl⟩

end Stocked

theorem stocked_fdbInit {hashAddr poolAddr : ℤ} {mem : ℤ → FdbT} (hhash : 0 < hashAddr)
    (hpool : 0 < poolAddr) : Stocked e fdbSalt (fdbInit hashAddr poolAddr mem) [] := by
  have hentries : (fdbInit hashAddr poolAddr mem).hashTable.entries = [] := by
    simp [fdbInit, createHashTable, HashTable.entries]
  refine ⟨HashTable.ok_create (by decide) (by decide) hhash, ?_, ?_, ?_, ?_⟩
  · rw [hentries]
    exact gives_memPoolCreate (by decide) (by decide) (by decide) hpool
  · exact int_eq (n := (1024 : ℕ)) (by decide) (by decide)
  · exact int_eq (n := (1024 : ℕ)) (by decide) (by decide)
  · rw [hentries]
    exact fun b hb ↦ absurd hb List.not_mem_nil

structure Learned where
  port : ℤ
  expiry : U32

abbrev Table := MacAddress → Option Learned

namespace Table

noncomputable def size (m : Table) : ℕ := {mac | m mac ≠ none}.ncard

open Classical in
noncomputable def learn (m : Table) (mac : MacAddress) (port : ℤ) (expiry : U32) : ℤ × Table :=
  if m mac = none ∧ maxFdbEntries ≤ m.size then (-1, m)
  else (0, Function.update m mac (some ⟨port, expiry⟩))

def ageOn (m : Table) (secs : MacAddress → U32) (p : MacAddress → Bool) : Table :=
  fun mac ↦ if p mac then (m mac).filter fun x ↦ !decide (x.expiry ≤ secs mac) else m mac

def age (m : Table) (secs : MacAddress → U32) : Table := m.ageOn secs fun _ ↦ true

end Table

def FdbT.learned (p : FdbT) : Learned := ⟨p.port, p.expiry⟩

variable {m : Table}

/-- The database holds the map: one entry and one block for each address. -/
structure Refines (e : Endian) (fdbSalt : U32) (s : Fdb) (m : Table) : Prop where
  table : s.hashTable.Ok (fdbMacHash e fdbSalt)
  gives : Gives s.pool (s.hashTable.entries.map HashBucket.data)
  blocks : s.pool.nblks = maxFdbEntries
  nodes : s.hashTable.hmemPool.nblks = maxFdbEntries
  mac : ∀ b ∈ s.hashTable.entries, (s.mem b.data).macAddr = b.key
  dynamic : ∀ b ∈ s.hashTable.entries, (s.mem b.data).isStatic = false
  map : ∀ mac x, m mac = some x ↔
    ∃ b ∈ s.hashTable.entries, b.key = mac ∧ x = (s.mem b.data).learned

namespace Refines

theorem stocked (h : Refines e fdbSalt s m) : Stocked e fdbSalt s [] where
  table := h.table
  gives := (List.append_nil _).symm ▸ h.gives
  blocks := h.blocks
  nodes := h.nodes
  mac := h.mac

theorem record_learned (h : Refines e fdbSalt s m) (mac : MacAddress) :
    (s.record e fdbSalt mac).map FdbT.learned = m mac := by
  refine Option.ext fun x ↦ ?_
  rw [Option.map_eq_some_iff, h.map]
  constructor
  · rintro ⟨y, hy, rfl⟩
    obtain ⟨b, hb, hkey, rfl⟩ := h.stocked.record_eq_some.mp hy
    exact ⟨b, hb, hkey, rfl⟩
  · rintro ⟨b, hb, hkey, rfl⟩
    exact ⟨_, h.stocked.record_eq_some.mpr ⟨b, hb, hkey, rfl⟩, rfl⟩

theorem record_dynamic {mac : MacAddress} {x : FdbT} (h : Refines e fdbSalt s m)
    (hx : s.record e fdbSalt mac = some x) : x.isStatic = false := by
  obtain ⟨b, hb, -, rfl⟩ := h.stocked.record_eq_some.mp hx
  exact h.dynamic b hb

theorem record_eq_none {mac : MacAddress} (h : Refines e fdbSalt s m) :
    s.record e fdbSalt mac = none ↔ m mac = none := by
  rw [← h.record_learned, Option.map_eq_none_iff]

theorem of_stocked (h : Stocked e fdbSalt s [])
    (hdynamic : ∀ mac x, s.record e fdbSalt mac = some x → x.isStatic = false)
    (hm : ∀ mac, (s.record e fdbSalt mac).map FdbT.learned = m mac) : Refines e fdbSalt s m where
  table := h.table
  gives := List.append_nil (s.hashTable.entries.map HashBucket.data) ▸ h.gives
  blocks := h.blocks
  nodes := h.nodes
  mac := h.mac
  dynamic := fun b hb ↦ hdynamic b.key _ (h.record_of_mem hb)
  map := by
    intro mac x
    rw [← hm, Option.map_eq_some_iff]
    constructor
    · rintro ⟨y, hy, rfl⟩
      obtain ⟨b, hb, hkey, rfl⟩ := h.record_eq_some.mp hy
      exact ⟨b, hb, hkey, rfl⟩
    · rintro ⟨b, hb, hkey, rfl⟩
      exact ⟨_, h.record_eq_some.mpr ⟨b, hb, hkey, rfl⟩, rfl⟩

theorem size_eq (h : Refines e fdbSalt s m) : m.size = s.hashTable.entries.length := by
  have hset : {mac | m mac ≠ none} =
      ((s.hashTable.entries.map HashBucket.key).toFinset : Set MacAddress) := by
    ext mac
    rw [Set.mem_ofPred_eq, Option.ne_none_iff_exists', List.coe_toFinset, Set.mem_ofPred_eq,
      List.mem_map]
    constructor
    · rintro ⟨x, hx⟩
      obtain ⟨b, hb, hkey, -⟩ := (h.map mac x).mp hx
      exact ⟨b, hb, hkey⟩
    · rintro ⟨b, hb, hkey⟩
      exact ⟨_, (h.map mac _).mpr ⟨b, hb, hkey, rfl⟩⟩
  rw [Table.size, hset, Set.ncard_coe_finset, List.toFinset_card_of_nodup h.table.nodup,
    List.length_map]

theorem room_iff (h : Refines e fdbSalt s m) : s.room = true ↔ m.size < maxFdbEntries := by
  rw [h.stocked.room_iff, h.size_eq, List.length_nil, Nat.add_zero]

theorem update (h : Refines e fdbSalt s m) (mac : MacAddress) (port : ℤ) (secs : U32) :
    (macAddressUpdate e fdbSalt true s mac port secs).1 =
        (m.learn mac port (secs + s.agingTime)).1 ∧
      Refines e fdbSalt (macAddressUpdate e fdbSalt true s mac port secs).2
        (m.learn mac port (secs + s.agingTime)).2 ∧
      (macAddressUpdate e fdbSalt true s mac port secs).2.agingTime = s.agingTime := by
  obtain ⟨⟨hstocked, hrecord, haging⟩, hret⟩ := h.stocked.update mac port secs
  have hroom : s.room = false ↔ maxFdbEntries ≤ m.size := by
    rw [← Bool.not_eq_true, h.room_iff, not_lt]
  have hnone : s.record e fdbSalt mac = none ↔ m mac = none := h.record_eq_none
  have hiff := and_congr hnone hroom
  by_cases hfull : m mac = none ∧ maxFdbEntries ≤ m.size
  · have hsame : (s.record e fdbSalt).update s.room mac port (secs + s.agingTime) =
        s.record e fdbSalt := by
      simp [Records.update, h.record_eq_none.mpr hfull.1, hroom.mpr hfull.2]
    rw [hsame] at hrecord
    rw [Table.learn, if_pos hfull]
    rw [if_pos (hiff.mpr hfull)] at hret
    refine ⟨hret, of_stocked hstocked ?_ ?_, haging⟩
    · intro mac' x hx
      exact h.record_dynamic (hrecord ▸ hx)
    · intro mac'
      rw [hrecord]
      exact h.record_learned mac'
  · obtain ⟨x, hx, hlearned⟩ : ∃ x : FdbT,
        (s.record e fdbSalt).update s.room mac port (secs + s.agingTime) =
          Function.update (s.record e fdbSalt) mac (some x) ∧
        x.isStatic = false ∧ x.learned = ⟨port, secs + s.agingTime⟩ := by
      cases hy : s.record e fdbSalt mac with
      | some y =>
        have hdynamic := h.record_dynamic hy
        refine ⟨{ y with port := port, expiry := secs + s.agingTime }, ?_, hdynamic, rfl⟩
        simp [Records.update, hy, hdynamic]
      | none =>
        have hyes : s.room = true := by
          by_contra hno
          exact hfull ⟨h.record_eq_none.mp hy, hroom.mp (Bool.eq_false_iff.mpr hno)⟩
        refine ⟨⟨mac, port, false, secs + s.agingTime⟩, ?_, rfl, rfl⟩
        simp [Records.update, hy, hyes]
    rw [hx] at hrecord
    rw [Table.learn, if_neg hfull]
    rw [if_neg (mt hiff.mp hfull)] at hret
    refine ⟨hret, of_stocked hstocked ?_ ?_, haging⟩
    · intro mac' y hy
      rw [hrecord] at hy
      by_cases heq : mac' = mac
      · subst heq
        rw [Function.update_self] at hy
        exact Option.some.inj hy ▸ hlearned.1
      · rw [Function.update_of_ne heq] at hy
        exact h.record_dynamic hy
    · intro mac'
      rw [hrecord]
      dsimp only
      by_cases heq : mac' = mac
      · subst heq
        rw [Function.update_self, Function.update_self, Option.map_some, hlearned.2]
      · rw [Function.update_of_ne heq, Function.update_of_ne heq]
        exact h.record_learned mac'

theorem age (h : Refines e fdbSalt s m) (secs : MacAddress → U32) :
    ∃ s', agingTimerExpired e fdbSalt secs s = some s' ∧ Refines e fdbSalt s' (m.age secs) ∧
      s'.agingTime = s.agingTime := by
  obtain ⟨s', hwalk, hstocked, hrecord, haging⟩ := h.stocked.age secs
  refine ⟨s', hwalk, of_stocked hstocked ?_ ?_, haging⟩
  · intro mac x hx
    rw [hrecord] at hx
    exact h.record_dynamic (Option.filter_eq_some_iff.mp hx).1
  · intro mac
    rw [hrecord, Table.age, Table.ageOn, if_pos rfl, ← h.record_learned, Option.filter_map]
    rfl

end Refines

inductive FdbCall where
  | update (mac : MacAddress) (port : ℤ) (secs : U32)
  | age (secs : MacAddress → U32)

def Fdb.call (e : Endian) (fdbSalt : U32) (s : Fdb) : FdbCall → Option Fdb
  | .update mac port secs => some (macAddressUpdate e fdbSalt true s mac port secs).2
  | .age secs => agingTimerExpired e fdbSalt secs s

noncomputable def Table.call (m : Table) : FdbCall → Table
  | .update mac port secs => (m.learn mac port (secs + defaultAgingTimeOut)).2
  | .age secs => m.age secs

structure IsMap (e : Endian) (fdbSalt : U32) (s : Fdb) (m : Table) : Prop where
  one : (s.hashTable.entries.map HashBucket.key).Nodup
  lookup : ∀ mac, (fdbLookup e fdbSalt s mac).map (fun p ↦ (s.mem p).port) =
    (m mac).map Learned.port
  bounded : m.size ≤ maxFdbEntries
  full : ∀ mac port secs, m mac = none → m.size = maxFdbEntries →
    macAddressUpdate e fdbSalt true s mac port secs = (-1, { s with discards := s.discards + 1 })
  learns : ∀ mac port secs, (m mac ≠ none ∨ m.size < maxFdbEntries) →
    (macAddressUpdate e fdbSalt true s mac port secs).1 = 0 ∧
    (macAddressUpdate e fdbSalt true s mac port secs).2.discards = s.discards
  size : s.hashTable.nentries = m.size
  poolUse : s.pool.useblks = s.hashTable.nentries
  hashUse : s.hashTable.hmemPool.useblks = s.hashTable.nentries
  added : ∀ mac nfdb pool, fdbLookup e fdbSalt s mac = none →
    allocBlock s.pool = (some nfdb, pool) →
    (HashTable.hashAddEntry (compareEtherAddr e) (fdbMacHash e fdbSalt) mac s.hashTable nfdb).1 = 0

theorem Refines.size_le (h : Refines e fdbSalt s m) : m.size ≤ maxFdbEntries := by
  have hlen := h.gives.length
  have hfblks := h.gives.ok.fblks
  rw [List.length_map, h.blocks] at hlen
  rw [h.size_eq]
  omega

theorem Refines.hashAddEntry_eq {mac : MacAddress} {nfdb : ℤ} {pool : MemInfo}
    (h : Refines e fdbSalt s m) (hmac : fdbLookup e fdbSalt s mac = none)
    (halloc : allocBlock s.pool = (some nfdb, pool)) :
    ∃ t, HashTable.hashAddEntry (compareEtherAddr e) (fdbMacHash e fdbSalt) mac s.hashTable nfdb =
      (0, t) := by
  have hnew := h.stocked.fdbLookup_eq_none.mp hmac
  obtain ⟨hnone, -⟩ | ⟨-, -, -, hroom, -⟩ := h.gives.alloc
  · rw [hnone] at halloc
    cases halloc
  · have hblocks := h.blocks
    have hnodes := h.nodes
    rw [List.length_map] at hroom
    obtain ⟨-, t, hadd, -⟩ := h.table.add (compareEtherAddr_eq_zero e) hnew nfdb (by omega)
    exact ⟨t, hadd⟩

theorem Refines.isMap (h : Refines e fdbSalt s m) : IsMap e fdbSalt s m := by
  have hsize := h.size_eq
  have hcount := h.table.nentries
  refine ⟨h.table.nodup, ?_, h.size_le, ?_, ?_, by omega, ?_, ?_, ?_⟩
  · intro mac
    rw [← h.record_learned, Option.map_map, Fdb.record, Option.map_map]
    rfl
  · intro mac port secs hnone hfull
    refine macAddressUpdate_full (Stocked.record_eq_none.mp (h.record_eq_none.mpr hnone)) ?_
    obtain ⟨halloc, -⟩ | ⟨-, -, -, hroom, -⟩ := h.gives.alloc
    · exact halloc
    · have hblocks := h.blocks
      rw [List.length_map] at hroom
      omega
  · intro mac port secs hm
    have hcond : ¬(m mac = none ∧ maxFdbEntries ≤ m.size) := by
      rintro ⟨hnone, hle⟩
      exact hm.elim (fun hne ↦ hne hnone) (fun hlt ↦ absurd hle (not_le.mpr hlt))
    obtain ⟨hret, -, -⟩ := h.update mac port secs
    rw [Table.learn, if_neg hcond] at hret
    refine ⟨hret, ?_⟩
    cases hp : fdbLookup e fdbSalt s mac with
    | some p =>
      obtain ⟨b, hb, rfl, rfl⟩ := h.stocked.fdbLookup_eq_some.mp hp
      rw [macAddressUpdate_known hp (h.dynamic b hb)]
    | none =>
      obtain ⟨halloc, hfull⟩ | ⟨nfdb, pool, halloc, -⟩ := h.gives.alloc
      · rw [macAddressUpdate_full hp halloc] at hret
        cases hret
      · obtain ⟨t, hadd⟩ := h.hashAddEntry_eq hp halloc
        rw [macAddressUpdate_new hp halloc hadd]
  · rw [h.gives.useblks, hcount, List.length_map]
  · rw [h.table.gives.useblks, hcount, List.length_map]
  · intro mac nfdb pool hmac halloc
    obtain ⟨t, hadd⟩ := h.hashAddEntry_eq hmac halloc
    rw [hadd]

theorem Refines.call (h : Refines e fdbSalt s m) (haging : s.agingTime = defaultAgingTimeOut)
    (c : FdbCall) : ∃ s', s.call e fdbSalt c = some s' ∧ Refines e fdbSalt s' (m.call c) ∧
      s'.agingTime = defaultAgingTimeOut := by
  cases c with
  | update mac port secs =>
    obtain ⟨-, href, haging'⟩ := h.update mac port secs
    rw [haging] at href haging'
    exact ⟨_, rfl, href, haging'⟩
  | age secs =>
    obtain ⟨s', hage, href, haging'⟩ := h.age secs
    exact ⟨s', hage, href, haging'.trans haging⟩

theorem refines_fdbInit {hashAddr poolAddr : ℤ} {mem : ℤ → FdbT} (hhash : 0 < hashAddr)
    (hpool : 0 < poolAddr) : Refines e fdbSalt (fdbInit hashAddr poolAddr mem) fun _ ↦ none := by
  have hnone : ∀ mac, (fdbInit hashAddr poolAddr mem).record e fdbSalt mac = none := fun _ ↦ rfl
  refine .of_stocked (stocked_fdbInit hhash hpool) ?_ ?_
  · intro mac x hx
    rw [hnone] at hx
    cases hx
  · intro mac
    rw [hnone]
    rfl

/-- Whatever is learned and aged out, the database is a bounded map. -/
theorem fdb_is_bounded_map {hashAddr poolAddr : ℤ} {mem : ℤ → FdbT} (e : Endian) (fdbSalt : U32)
    (hhash : 0 < hashAddr) (hpool : 0 < poolAddr) (calls : List FdbCall) :
    ∃ s, exec (Fdb.call e fdbSalt) (fdbInit hashAddr poolAddr mem) calls = some s ∧
      IsMap e fdbSalt s (calls.foldl Table.call fun _ ↦ none) := by
  have hrun : ∀ (calls : List FdbCall) (s : Fdb) (m : Table), Refines e fdbSalt s m →
      s.agingTime = defaultAgingTimeOut →
      ∃ s', exec (Fdb.call e fdbSalt) s calls = some s' ∧
        Refines e fdbSalt s' (calls.foldl Table.call m) := by
    intro calls
    induction calls with
    | nil => exact fun s m h _ ↦ ⟨s, rfl, h⟩
    | cons c calls ih =>
      intro s m h haging
      obtain ⟨s₁, hcall, h₁, haging₁⟩ := h.call haging c
      obtain ⟨s₂, hexec, h₂⟩ := ih s₁ _ h₁ haging₁
      refine ⟨s₂, ?_, h₂⟩
      rw [exec, hcall]
      exact hexec
  obtain ⟨s, hexec, href⟩ := hrun calls _ _ (refines_fdbInit hhash hpool) rfl
  exact ⟨s, hexec, href.isMap⟩

theorem fdb_is_bounded_map_moved_station :
    ∃ s, exec (Fdb.call .little 7) (fdbInit 4096 16777216 fun _ ↦ ⟨.replicate 6 0, 0, false, 0⟩)
      [.update (.replicate 6 1) 3 100, .update (.replicate 6 1) 4 200, .age fun _ ↦ 450] = some s ∧
      IsMap .little 7 s (([.update (.replicate 6 1) 3 100, .update (.replicate 6 1) 4 200,
        .age fun _ ↦ 450] : List FdbCall).foldl Table.call fun _ ↦ none) :=
  fdb_is_bounded_map .little 7 (by decide) (by decide) _

end Layer3Switch.Bridge
