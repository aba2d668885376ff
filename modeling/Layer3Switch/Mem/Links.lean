import Layer3Switch.Lib.Chain
import Layer3Switch.Mem.HashTable

namespace Layer3Switch.Mem

open Lib

variable {κ σ τ : Type} {n : ℕ}

/-- `hash_bucket_t` as it lies in memory. -/
structure BucketNode (κ : Type) where
  next : ℤ
  key : κ
  data : ℤ

/-- `HASH_TABLE` with the memory of its pool. -/
structure LinkedTable (κ : Type) (n : ℕ) where
  bucketArray : Fin n → ℤ
  node : ℤ → BucketNode κ
  nentries : ℤ
  hmemPool : MemInfo

namespace LinkedTable

def create (n : ℕ) (saddr : ℤ) (node : ℤ → BucketNode κ) : LinkedTable κ n :=
  ⟨fun _ ↦ 0, node, 0, memPoolCreate (8 * n) n saddr⟩

def next (t : LinkedTable κ n) (bkt : ℤ) : ℤ := (t.node bkt).next

def link (t : LinkedTable κ n) (bucket : Fin n) (prev addr : ℤ) : LinkedTable κ n :=
  if prev = 0 then { t with bucketArray := Function.update t.bucketArray bucket addr }
  else { t with node := Function.update t.node prev { t.node prev with next := addr } }

variable (cmpFunc : κ → κ → ℤ) (hashIndexGen : κ → Fin n) (fuel : ℕ)

def seekKey (t : LinkedTable κ n) (key : κ) : Option (ℤ × ℤ) :=
  seek t.next 0 (fun bkt ↦ cmpFunc (t.node bkt).key key = 0) fuel 0
    (t.bucketArray (hashIndexGen key))

def findHashEntry (key : κ) (t : LinkedTable κ n) : Option ℤ :=
  (t.seekKey cmpFunc hashIndexGen fuel key).map Prod.snd

def hashDeleteEntry (freeData : σ → ℤ → Option σ) (string : κ) (x : σ) (t : LinkedTable κ n) :
    Option (ℤ × σ × LinkedTable κ n) :=
  (t.seekKey cmpFunc hashIndexGen fuel string).bind fun (prev, temp) ↦
    if temp = 0 then some (-1, x, t)
    else
      (freeData x (t.node temp).data).bind fun x ↦
        (freeBlk t.hmemPool temp).map fun y ↦
          (0, x, { t.link (hashIndexGen string) prev (t.next temp) with
            nentries := t.nentries - 1, hmemPool := y.2 })

def appendEntry (bucket : Fin n) (last : ℤ) (string : κ) (t : LinkedTable κ n) (data : ℤ) :
    ℤ × LinkedTable κ n :=
  match allocBlock t.hmemPool with
  | (none, pool) => (-1, { t.link bucket last 0 with nentries := t.nentries, hmemPool := pool })
  | (some hentry, pool) =>
    let t' := t.link bucket last hentry
    (0, { t' with
      node := Function.update t'.node hentry ⟨0, string, data⟩
      nentries := t.nentries + 1
      hmemPool := pool })

def hashAddEntry (string : κ) (t : LinkedTable κ n) (data : ℤ) : Option (ℤ × LinkedTable κ n) :=
  (t.findHashEntry cmpFunc hashIndexGen fuel string).bind fun hentry ↦
    if hentry ≠ 0 then some (0, t)
    else
      (seek t.next 0 (fun _ ↦ false) fuel 0 (t.bucketArray (hashIndexGen string))).map fun x ↦
        t.appendEntry (hashIndexGen string) x.1 string data

def hashWalk (table : σ → LinkedTable κ n) (callback : σ → ℤ → Option σ) (x : σ) :
    Option (List ℤ × σ) :=
  (List.finRange n).foldlM
    (fun y slot ↦
      (walk (fun x ↦ (table x).next) 0 (fun x bc ↦ callback x ((table x).node bc).data) fuel y.2
        ((table y.2).bucketArray slot)).map fun z ↦ (y.1 ++ z.1, z.2)) ([], x)

/-- The chains have the entries of the lists, in their order. -/
structure Represents (l : LinkedTable κ n) (t : HashTable κ n) : Prop where
  chain : ∀ i, Chain l.next 0 (l.bucketArray i) ((t.bucketArray i).map HashBucket.addr)
  node : ∀ b ∈ t.entries, (l.node b.addr).key = b.key ∧ (l.node b.addr).data = b.data
  nentries : l.nentries = t.nentries
  hmemPool : l.hmemPool = t.hmemPool

section Link

variable {l : LinkedTable κ n} {i j : Fin n} {prev addr bkt q : ℤ} {as : List ℤ}

theorem link_next (h : bkt ≠ prev) : (l.link i prev addr).next bkt = l.next bkt := by
  unfold link next
  split_ifs
  · rfl
  · exact congrArg BucketNode.next (Function.update_of_ne h _ _)

theorem link_bucketArray (h : j ≠ i) : (l.link i prev addr).bucketArray j = l.bucketArray j := by
  unfold link
  split_ifs
  · exact Function.update_of_ne h _ _
  · rfl

theorem link_node : ((l.link i prev addr).node bkt).key = (l.node bkt).key ∧
    ((l.link i prev addr).node bkt).data = (l.node bkt).data := by
  unfold link
  split_ifs
  · exact ⟨rfl, rfl⟩
  · by_cases h : bkt = prev
    · subst h
      simp only [Function.update_self, and_self]
    · simp only [Function.update_of_ne h, and_self]

theorem link_segment (h : Segment l.next 0 (l.bucketArray i) as q) (hnodup : as.Nodup)
    (addr : ℤ) :
    Segment (l.link i (as.getLastD 0) addr).next 0
      ((l.link i (as.getLastD 0) addr).bucketArray i) as addr := by
  obtain rfl | ⟨as, b, rfl⟩ := List.eq_nil_or_concat' as
  · simp only [List.getLastD_nil, link, if_pos, Segment, Function.update_self]
  · have hb : b ∉ as := fun hmem ↦
      (List.nodup_append.mp hnodup).2.2 b hmem b List.mem_cons_self rfl
    have hnull : b ≠ 0 := h.ne_null (List.mem_append_right as List.mem_cons_self)
    have hnext : (l.link i b addr).next = Function.update l.next b addr := by
      funext bkt
      simp only [link, if_neg hnull, next, Function.update_apply]
      split_ifs <;> rfl
    rw [List.getLastD_concat, hnext]
    simp only [link, if_neg hnull]
    exact h.relink hb addr

end Link

section Refines

variable {cmpFunc hashIndexGen fuel} {l : LinkedTable κ n} {t : HashTable κ n} {key : κ}
  {b : HashBucket κ} {l₁ l₂ : List (HashBucket κ)} {i : Fin n}

theorem Represents.node_of_mem (h : l.Represents t) (hb : b ∈ t.bucketArray i) :
    (l.node b.addr).key = b.key ∧ (l.node b.addr).data = b.data :=
  h.node b (HashTable.mem_entries.mpr ⟨i, hb⟩)

theorem Represents.link {l' : LinkedTable κ n} {addr : ℤ} (hr : l.Represents t)
    (h : t.Ok hashIndexGen) (hl : t.bucketArray i = l₁ ++ l₂)
    (hlink : l.link i ((l₁.map HashBucket.addr).getLastD 0) addr = l') :
    (∀ j ≠ i, Chain l'.next 0 (l'.bucketArray j) ((t.bucketArray j).map HashBucket.addr)) ∧
    Segment l'.next 0 (l'.bucketArray i) (l₁.map HashBucket.addr) addr ∧
    ∀ c ∈ l₂, l'.next c.addr = l.next c.addr := by
  subst hlink
  have hother : ∀ j, ∀ c ∈ t.bucketArray j, c.addr ∉ l₁.map HashBucket.addr →
      c.addr ≠ (l₁.map HashBucket.addr).getLastD 0 := by
    intro j c hc hnot heq
    have hlast : c.addr ∈ 0 :: l₁.map HashBucket.addr := heq ▸ List.getLastD_mem_cons
    obtain hzero | hmem := List.mem_cons.mp hlast
    · exact (hr.chain j).ne_null (List.mem_map_of_mem hc) hzero
    · exact hnot hmem
  have hchain := hr.chain i
  have hnodup := h.nodup_addr i
  rw [hl, List.map_append] at hchain hnodup
  obtain ⟨hnodup₁, -, hdisjoint⟩ := List.nodup_append.mp hnodup
  obtain ⟨_, hsegment, -⟩ := Segment.append_iff.mp hchain
  refine ⟨fun j hj ↦ ?_, link_segment hsegment hnodup₁ addr, fun c hc ↦ link_next ?_⟩
  · rw [link_bucketArray hj]
    refine (hr.chain j).congr fun a ha ↦ ?_
    obtain ⟨c, hc, rfl⟩ := List.mem_map.mp ha
    refine link_next (hother j c hc fun hmem ↦ hj ?_)
    obtain ⟨d, hd, haddr⟩ := List.mem_map.mp hmem
    exact h.bucket_of_addr hc (hl ▸ List.mem_append_left l₂ hd) haddr.symm
  · refine hother i c (hl ▸ List.mem_append_right l₁ hc) fun hmem ↦ ?_
    exact hdisjoint _ hmem _ (List.mem_map_of_mem hc) rfl

theorem Represents.append_full {l' : LinkedTable κ n} (hr : l.Represents t)
    (h : t.Ok hashIndexGen)
    (hlink : l.link i (((t.bucketArray i).map HashBucket.addr).getLastD 0) 0 = l') :
    Represents { l' with nentries := l.nentries, hmemPool := t.hmemPool } t := by
  obtain ⟨hchains, hsegment, -⟩ := hr.link h (List.append_nil _).symm hlink
  refine ⟨fun j ↦ ?_, fun c hc ↦ ?_, hr.nentries, rfl⟩
  · by_cases hj : j = i
    · subst hj
      exact hsegment
    · exact hchains j hj
  · rw [← hlink]
    exact ⟨link_node.1.trans (hr.node c hc).1, link_node.2.trans (hr.node c hc).2⟩

theorem Represents.append_new {l' : LinkedTable κ n} {addr data : ℤ} {pool : MemInfo}
    (hr : l.Represents t) (h : t.Ok hashIndexGen)
    (hnew : addr ∉ t.entries.map HashBucket.addr) (hnull : addr ≠ 0)
    (hlink : l.link i (((t.bucketArray i).map HashBucket.addr).getLastD 0) addr = l') :
    Represents { l' with
      node := Function.update l'.node addr ⟨0, key, data⟩
      nentries := l.nentries + 1
      hmemPool := pool }
    ⟨Function.update t.bucketArray i (t.bucketArray i ++ [⟨addr, key, data⟩]), t.nentries + 1,
      pool⟩ := by
  obtain ⟨hchains, hsegment, -⟩ := hr.link h (List.append_nil _).symm hlink
  have hother : ∀ c ∈ t.entries, Function.update l'.node addr ⟨0, key, data⟩ c.addr =
      l'.node c.addr := by
    intro c hc
    exact Function.update_of_ne (ne_of_mem_of_not_mem (List.mem_map_of_mem hc) hnew) _ _
  have hnext : ∀ j, ∀ a ∈ (t.bucketArray j).map HashBucket.addr,
      (Function.update l'.node addr ⟨0, key, data⟩ a).next = l'.next a := by
    intro j a ha
    obtain ⟨c, hc, rfl⟩ := List.mem_map.mp ha
    exact congrArg BucketNode.next (hother c (HashTable.mem_entries.mpr ⟨j, hc⟩))
  have hchain : ∀ j, Chain (fun a ↦ (Function.update l'.node addr ⟨0, key, data⟩ a).next) 0
      (l'.bucketArray j) ((Function.update t.bucketArray i
        (t.bucketArray i ++ [⟨addr, key, data⟩]) j).map HashBucket.addr) := by
    intro j
    by_cases hj : j = i
    · rw [hj, Function.update_self, List.map_append]
      refine Segment.append_iff.mpr ⟨addr, hsegment.congr (hnext i), rfl, hnull, ?_⟩
      simp only [Function.update_self, List.map_nil, Segment]
    · rw [Function.update_of_ne hj]
      exact (hchains j hj).congr (hnext j)
  refine ⟨hchain, fun c hc ↦ ?_, congrArg (· + 1) hr.nentries, rfl⟩
  obtain ⟨rest, hold, hperm⟩ := t.entries_perm i
  have hc' := (hperm _ _ _).mem_iff.mp hc
  rw [List.append_assoc, List.singleton_append, List.perm_middle.mem_iff, List.mem_cons,
    ← hold.mem_iff] at hc'
  obtain rfl | hc' := hc'
  · simp only [Function.update_self, and_self]
  · simp only [hother c hc']
    rw [← hlink]
    exact ⟨link_node.1.trans (hr.node c hc').1, link_node.2.trans (hr.node c hc').2⟩

section Compared

variable (hcmp : ∀ a b, cmpFunc a b = 0 ↔ a = b)
include hcmp

theorem Represents.seekKey_found (hr : l.Represents t) (h : t.Ok hashIndexGen)
    (hb : t.bucketArray (hashIndexGen b.key) = l₁ ++ b :: l₂) (hfuel : t.entries.length < fuel) :
    l.seekKey cmpFunc hashIndexGen fuel b.key =
      some ((l₁.map HashBucket.addr).getLastD 0, b.addr) := by
  have hlength := t.length_bucket_le (hashIndexGen b.key)
  have hnodup := h.nodup_bucket (hashIndexGen b.key)
  have hchain := hr.chain (hashIndexGen b.key)
  rw [hb, List.map_append, List.map_cons] at hnodup hchain
  rw [hb, List.length_append] at hlength
  refine hchain.seek_found ?_ ?_ ?_ 0
  · intro addr haddr
    obtain ⟨c, hc, rfl⟩ := List.mem_map.mp haddr
    have hmem : c ∈ t.bucketArray (hashIndexGen b.key) := hb ▸ List.mem_append_left _ hc
    rw [(hr.node_of_mem hmem).1, decide_eq_false_iff_not, hcmp]
    exact (List.nodup_append.mp hnodup).2.2 _ (List.mem_map_of_mem hc) _ List.mem_cons_self
  · have hmem : b ∈ t.bucketArray (hashIndexGen b.key) :=
      hb ▸ List.mem_append_right l₁ List.mem_cons_self
    rw [(hr.node_of_mem hmem).1]
    exact decide_eq_true ((hcmp _ _).mpr rfl)
  · rw [List.length_map]
    omega

theorem Represents.seekKey_null (hr : l.Represents t)
    (hnew : ∀ b ∈ t.entries, b.key ≠ key) (hfuel : t.entries.length < fuel) :
    l.seekKey cmpFunc hashIndexGen fuel key =
      some (((t.bucketArray (hashIndexGen key)).map HashBucket.addr).getLastD 0, 0) := by
  have hlength := t.length_bucket_le (hashIndexGen key)
  refine (hr.chain (hashIndexGen key)).seek_null ?_ ?_ 0
  · intro addr haddr
    obtain ⟨c, hc, rfl⟩ := List.mem_map.mp haddr
    rw [(hr.node_of_mem hc).1, decide_eq_false_iff_not, hcmp]
    exact hnew c (HashTable.mem_entries.mpr ⟨_, hc⟩)
  · rw [List.length_map]
    omega

theorem Represents.findHashEntry (hr : l.Represents t) (h : t.Ok hashIndexGen)
    (hfuel : t.entries.length < fuel) (key : κ) :
    l.findHashEntry cmpFunc hashIndexGen fuel key =
      some ((t.findHashEntry cmpFunc hashIndexGen key).elim 0 HashBucket.addr) := by
  cases hfind : t.findHashEntry cmpFunc hashIndexGen key with
  | none =>
    have hnew := (h.findHashEntry_eq_none hcmp).mp hfind
    rw [LinkedTable.findHashEntry, hr.seekKey_null hcmp hnew hfuel]
    rfl
  | some b =>
    obtain ⟨hb, rfl⟩ := (h.findHashEntry_eq_some hcmp).mp hfind
    obtain ⟨l₁, l₂, hsplit⟩ := List.append_of_mem (h.mem_bucket hb)
    rw [LinkedTable.findHashEntry, hr.seekKey_found hcmp h hsplit hfuel]
    rfl

theorem Represents.delete {freeData : σ → ℤ → Option σ} {x x' : σ} {r : ℤ} {pool : MemInfo}
    (hr : l.Represents t) (h : t.Ok hashIndexGen)
    (hb : t.bucketArray (hashIndexGen b.key) = l₁ ++ b :: l₂) (hfuel : t.entries.length < fuel)
    (hfree : freeData x b.data = some x') (hblk : freeBlk t.hmemPool b.addr = some (r, pool)) :
    ∃ l', l.hashDeleteEntry cmpFunc hashIndexGen fuel freeData b.key x = some (0, x', l') ∧
      l'.Represents ⟨Function.update t.bucketArray (hashIndexGen b.key) (l₁ ++ l₂),
        t.nentries - 1, pool⟩ ∧
      ∀ c ∈ b :: l₂, l'.next c.addr = l.next c.addr := by
  have hmem : b ∈ t.bucketArray (hashIndexGen b.key) :=
    hb ▸ List.mem_append_right l₁ List.mem_cons_self
  have hnull : b.addr ≠ 0 := (hr.chain _).ne_null (List.mem_map_of_mem hmem)
  obtain ⟨l', hlink⟩ : ∃ l', l.link (hashIndexGen b.key) ((l₁.map HashBucket.addr).getLastD 0)
      (l.next b.addr) = l' := ⟨_, rfl⟩
  obtain ⟨hchains, hsegment, hsame⟩ := hr.link h hb hlink
  have hchain : ∀ j, Chain l'.next 0 (l'.bucketArray j) ((Function.update t.bucketArray
      (hashIndexGen b.key) (l₁ ++ l₂) j).map HashBucket.addr) := by
    intro j
    by_cases hj : j = hashIndexGen b.key
    · have hold := hr.chain (hashIndexGen b.key)
      rw [hb, List.map_append, List.map_cons] at hold
      obtain ⟨_, -, -, -, hrest⟩ := Segment.append_iff.mp hold
      rw [hj, Function.update_self, List.map_append]
      refine Segment.append_iff.mpr ⟨_, hsegment, hrest.congr fun a ha ↦ ?_⟩
      obtain ⟨c, hc, rfl⟩ := List.mem_map.mp ha
      exact hsame c (List.mem_cons_of_mem b hc)
    · rw [Function.update_of_ne hj]
      exact hchains j hj
  refine ⟨{ l' with nentries := l.nentries - 1, hmemPool := pool }, ?_,
    ⟨hchain, fun c hc ↦ ?_, congrArg (· - 1) hr.nentries, rfl⟩, hsame⟩
  · rw [LinkedTable.hashDeleteEntry, hr.seekKey_found hcmp h hb hfuel, Option.bind_some]
    simp only [if_neg hnull, (hr.node_of_mem hmem).2, hfree, hr.hmemPool, hblk, Option.bind_some,
      Option.map_some, hlink]
  · have hold : c ∈ t.entries := by
      obtain ⟨rest, hperm, hnew⟩ := t.entries_perm (hashIndexGen b.key)
      rw [hb] at hperm
      refine hperm.mem_iff.mpr (List.Sublist.mem ((hnew _ _ _).mem_iff.mp hc) ?_)
      exact ((List.sublist_cons_self b l₂).append_left l₁).append_right rest
    rw [← hlink]
    exact ⟨link_node.1.trans (hr.node c hold).1, link_node.2.trans (hr.node c hold).2⟩

theorem Represents.add (hr : l.Represents t) (h : t.Ok hashIndexGen)
    (hfuel : t.entries.length < fuel) (key : κ) (data : ℤ) :
    ∃ l', l.hashAddEntry cmpFunc hashIndexGen fuel key data =
        some ((t.hashAddEntry cmpFunc hashIndexGen key data).1, l') ∧
      l'.Represents (t.hashAddEntry cmpFunc hashIndexGen key data).2 := by
  have hfind := hr.findHashEntry hcmp h hfuel key
  cases hentry : t.findHashEntry cmpFunc hashIndexGen key with
  | some b =>
    obtain ⟨hb, -⟩ := (h.findHashEntry_eq_some hcmp).mp hentry
    obtain ⟨i, hi⟩ := HashTable.mem_entries.mp hb
    have hnull : b.addr ≠ 0 := (hr.chain i).ne_null (List.mem_map_of_mem hi)
    have hadd : t.hashAddEntry cmpFunc hashIndexGen key data = (0, t) := by
      rw [HashTable.hashAddEntry, hentry]
    rw [hentry] at hfind
    rw [hadd]
    refine ⟨l, ?_, hr⟩
    rw [LinkedTable.hashAddEntry, hfind]
    exact if_pos hnull
  | none =>
    have hlength := t.length_bucket_le (hashIndexGen key)
    have hlast : seek l.next 0 (fun _ ↦ false) fuel 0 (l.bucketArray (hashIndexGen key)) =
        some (((t.bucketArray (hashIndexGen key)).map HashBucket.addr).getLastD 0, 0) :=
      (hr.chain (hashIndexGen key)).seek_null (fun _ _ ↦ rfl) (by rw [List.length_map]; omega) 0
    have hcall : l.hashAddEntry cmpFunc hashIndexGen fuel key data =
        some (l.appendEntry (hashIndexGen key)
          (((t.bucketArray (hashIndexGen key)).map HashBucket.addr).getLastD 0) key data) := by
      rw [LinkedTable.hashAddEntry, hfind, hentry, Option.bind_some, Option.elim_none,
        if_neg (not_not.mpr rfl), hlast]
      rfl
    rw [hcall, appendEntry, hr.hmemPool, HashTable.hashAddEntry, hentry]
    obtain ⟨halloc, -⟩ | ⟨addr, pool, halloc, -, hnew, hgives, -⟩ := h.gives.alloc
    · rw [halloc]
      exact ⟨_, rfl, hr.append_full h rfl⟩
    · have hnull : addr ≠ 0 := by
        have hinside := hgives.inside List.mem_cons_self
        have hpos := hgives.ok.saddr_pos
        omega
      rw [halloc]
      exact ⟨_, rfl, hr.append_new h hnew hnull rfl⟩

end Compared

section Walk

variable {linked : σ → LinkedTable κ n} {table : τ → HashTable κ n}
  {callback : σ → ℤ → Option σ} {callback' : τ → ℤ → Option τ} {R : σ → τ → Prop}

def Follows (linked : σ → LinkedTable κ n) (table : τ → HashTable κ n)
    (callback : σ → ℤ → Option σ) (callback' : τ → ℤ → Option τ) (R : σ → τ → Prop) : Prop :=
  ∀ x y i l₁ b l₂, R x y → (table y).bucketArray i = l₁ ++ b :: l₂ →
    ∃ x' y' l₁', callback x b.data = some x' ∧ callback' y b.data = some y' ∧ R x' y' ∧
      (table y').bucketArray = Function.update (table y).bucketArray i (l₁' ++ l₂) ∧
      ∀ c ∈ b :: l₂, (linked x').next c.addr = (linked x).next c.addr

variable (hR : ∀ x y, R x y → (linked x).Represents (table y) ∧ (table y).entries.length < fuel)
  (hfollows : Follows linked table callback callback' R)
include hR hfollows

theorem walk_follows {x : σ} {y : τ} (hxy : R x y) (i : Fin n) :
    ∃ x' y' l, walk (fun x ↦ (linked x).next) 0 (fun x bc ↦ callback x ((linked x).node bc).data)
        fuel x ((linked x).bucketArray i) =
          some (((table y).bucketArray i).map HashBucket.addr, x') ∧
      ((table y).bucketArray i).foldlM (fun y bc ↦ callback' y bc.data) y = some y' ∧ R x' y' ∧
      (table y').bucketArray = Function.update (table y).bucketArray i l := by
  -- the entries that are left to visit are the end of the bucket at that time
  let J : List ℤ → σ → Prop := fun as x' ↦ ∃ y' l₁ l, as = l.map HashBucket.addr ∧ R x' y' ∧
    (table y').bucketArray = Function.update (table y).bucketArray i (l₁ ++ l) ∧
    l.foldlM (fun y bc ↦ callback' y bc.data) y' =
      ((table y).bucketArray i).foldlM (fun y bc ↦ callback' y bc.data) y
  have hstep : ∀ a as x, J (a :: as) x → ∃ x', callback x ((linked x).node a).data = some x' ∧
      J as x' ∧ ∀ b ∈ a :: as, (linked x').next b = (linked x).next b := by
    rintro a as x₁ ⟨y₁, l₁, l, has, hxy₁, hbuckets, hfold⟩
    obtain ⟨b, l, rfl, rfl, rfl⟩ := List.map_eq_cons_iff.mp has.symm
    have hbucket : (table y₁).bucketArray i = l₁ ++ b :: l := by
      rw [hbuckets, Function.update_self]
    obtain ⟨x₂, y₂, l₁', hcall, hcall', hxy₂, hbuckets', hsame⟩ :=
      hfollows x₁ y₁ i l₁ b l hxy₁ hbucket
    have hdata := ((hR x₁ y₁ hxy₁).1.node_of_mem (i := i) (b := b) (by simp [hbucket])).2
    refine ⟨x₂, hdata.symm ▸ hcall, ⟨y₂, l₁', l, rfl, hxy₂, ?_, ?_⟩, ?_⟩
    · rw [hbuckets', hbuckets, Function.update_idem]
    · rw [← hfold, List.foldlM_cons, hcall']
      rfl
    · intro a ha
      obtain ⟨c, hc, rfl⟩ := List.mem_map.mp (List.map_cons ▸ ha)
      exact hsame c hc
  obtain ⟨hrep, hfuel⟩ := hR x y hxy
  have hlength : (((table y).bucketArray i).map HashBucket.addr).length < fuel := by
    rw [List.length_map]
    exact ((table y).length_bucket_le i).trans_lt hfuel
  obtain ⟨x', hwalk, y', l₁, l, hnil, hxy', hbuckets, hfold⟩ :=
    (hrep.chain i).walk_eq (J := J) hstep
      ⟨y, [], _, rfl, hxy, (Function.update_eq_self i _).symm, rfl⟩ hlength
  obtain rfl := List.map_eq_nil_iff.mp hnil.symm
  exact ⟨x', y', l₁ ++ [], hwalk, hfold.symm, hxy', hbuckets⟩

theorem hashWalk_follows {x : σ} {y : τ} (hxy : R x y) :
    ∃ x' y', hashWalk fuel linked callback x =
        some ((table y).entries.map HashBucket.addr, x') ∧
      HashTable.hashWalk table callback' y = some y' ∧ R x' y' := by
  have hslots : ∀ (slots : List (Fin n)) (seen : List ℤ) (x : σ) (y : τ), slots.Nodup → R x y →
      ∃ x' y', slots.foldlM (fun z slot ↦
          (walk (fun x ↦ (linked x).next) 0 (fun x bc ↦ callback x ((linked x).node bc).data) fuel
            z.2 ((linked z.2).bucketArray slot)).map fun w ↦ (z.1 ++ w.1, w.2)) (seen, x) =
          some (seen ++ (slots.flatMap (table y).bucketArray).map HashBucket.addr, x') ∧
        slots.foldlM (fun y slot ↦
          ((table y).bucketArray slot).foldlM (fun y bc ↦ callback' y bc.data) y) y = some y' ∧
        R x' y' := by
    intro slots
    induction slots with
    | nil =>
      intro seen x y _ hxy
      exact ⟨x, y, by simp, rfl, hxy⟩
    | cons i slots ih =>
      intro seen x y hnodup hxy
      rw [List.nodup_cons] at hnodup
      obtain ⟨x₁, y₁, l, hwalk, hfold, hxy₁, hbuckets⟩ := walk_follows hR hfollows hxy i
      obtain ⟨x₂, y₂, hwalk₂, hfold₂, hxy₂⟩ :=
        ih (seen ++ ((table y).bucketArray i).map HashBucket.addr) x₁ y₁ hnodup.2 hxy₁
      have hrest : slots.flatMap (table y₁).bucketArray = slots.flatMap (table y).bucketArray := by
        refine List.flatMap_congr fun j hj ↦ ?_
        rw [hbuckets]
        exact Function.update_of_ne (ne_of_mem_of_not_mem hj hnodup.1) _ _
      refine ⟨x₂, y₂, ?_, ?_, hxy₂⟩
      · rw [List.foldlM_cons, hwalk]
        refine hwalk₂.trans ?_
        rw [hrest, List.flatMap_cons, List.map_append, List.append_assoc]
      · rw [List.foldlM_cons, hfold]
        exact hfold₂
  exact hslots (List.finRange n) [] x y (List.nodup_finRange n) hxy

end Walk

end Refines

end LinkedTable

end Layer3Switch.Mem
