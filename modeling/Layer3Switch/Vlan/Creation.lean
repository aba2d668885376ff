import Layer3Switch.Lib.Trace
import Layer3Switch.Mem.Pool
import Layer3Switch.Vlan.Slots

namespace Layer3Switch.Vlan

open Lib Lib.Bytes
open Mem (MemInfo Gives allocBlock memPoolCreate gives_memPoolCreate)
open Timers (U32)
open Stp (PortT maxPorts)

variable {κ τ Φ : Type}

/-- A switch whose VLAN entries lie in the blocks of `vlan_mem_id`. -/
structure Pooled (κ τ Φ : Type) where
  switch : Switch κ τ Φ
  vlanPool : MemInfo
  /-- The addresses of the entries of `vlan_db`, in their order. -/
  blocks : List ℤ

def sizeofVlanStaticEntry : ℕ := 64

def vlanIsNotInRange (vlanId : U16) : Prop := vlanId.toNat ≤ 0 ∨ 4096 < vlanId.toNat

instance (vlanId : U16) : Decidable (vlanIsNotInRange vlanId) := inferInstanceAs (Decidable (_ ∨ _))

def Pooled.createVlan (s : Pooled κ τ Φ) (vlanId : U16) : Int × Pooled κ τ Φ :=
  let entry := s.switch.vlan vlanId
  if vlanIsNotInRange vlanId then (-1, s)
  else if entry.any fun e ↦ e.vlanId = vlanId then (0, s)
  else
    match allocBlock s.vlanPool with
    | (none, pool) => (-1, { s with vlanPool := pool })
    | (some addr, pool) =>
      (0, ⟨{ s.switch with vlanDb := s.switch.vlanDb ++ [newVlan vlanId] }, pool,
        s.blocks ++ [addr]⟩)

section Exact

variable {s s' : Pooled κ τ Φ} {vlanId : U16}

/-- Every entry has a block of its own, and an identifier in range that no other has. -/
structure Pooled.Ok (s : Pooled κ τ Φ) : Prop where
  gives : Gives s.vlanPool s.blocks
  nblks : s.vlanPool.nblks = maxVlanIds
  size : s.vlanPool.size = maxVlanIds * sizeofVlanStaticEntry
  length : s.blocks.length = s.switch.vlanDb.length
  nodup : (s.switch.vlanDb.map VlanStaticEntry.vlanId).Nodup
  range : ∀ v ∈ s.switch.vlanDb.map VlanStaticEntry.vlanId, ¬vlanIsNotInRange v

theorem length_le_maxVlanIds {ids : List U16} (hnodup : ids.Nodup)
    (hrange : ∀ v ∈ ids, ¬vlanIsNotInRange v) : ids.length ≤ maxVlanIds := by
  have hinj : (ids.map BitVec.toNat).Nodup := hnodup.map fun _ _ ↦ BitVec.eq_of_toNat_eq
  have hsub : (ids.map BitVec.toNat).toFinset ⊆ Finset.Icc 1 4096 := by
    intro n hn
    obtain ⟨v, hv, rfl⟩ := List.mem_map.mp (List.mem_toFinset.mp hn)
    have hv' := hrange v hv
    rw [vlanIsNotInRange, not_or] at hv'
    exact Finset.mem_Icc.mpr (by omega)
  have hcard := Finset.card_le_card hsub
  rw [List.toFinset_card_of_nodup hinj, List.length_map, Nat.card_Icc] at hcard
  exact hcard

theorem Pooled.Ok.alloc (h : s.Ok) (hrange : ¬vlanIsNotInRange vlanId)
    (hnone : s.switch.vlan vlanId = none) : ∃ addr pool,
      allocBlock s.vlanPool = (some addr, pool) ∧ addr ∉ s.blocks ∧
      Gives pool (addr :: s.blocks) ∧ pool.fixed = s.vlanPool.fixed := by
  have hids : (vlanId :: s.switch.vlanDb.map VlanStaticEntry.vlanId).Nodup :=
    List.nodup_cons.mpr ⟨lookup_eq_none.mp hnone, h.nodup⟩
  have hlength := length_le_maxVlanIds hids (List.forall_mem_cons.mpr ⟨hrange, h.range⟩)
  rw [List.length_cons, List.length_map, ← h.length] at hlength
  obtain ⟨-, hfull⟩ | ⟨addr, pool, halloc, -, hnew, hgives, hfixed⟩ := h.gives.alloc
  · rw [h.nblks] at hfull
    have hfull' : s.blocks.length = maxVlanIds := by exact_mod_cast hfull
    omega
  · exact ⟨addr, pool, halloc, hnew, hgives, hfixed⟩

theorem Pooled.Ok.createVlan_cases (h : s.Ok) (vlanId : U16) :
    vlanIsNotInRange vlanId ∧ s.createVlan vlanId = (-1, s) ∨
    ¬vlanIsNotInRange vlanId ∧ (s.switch.vlan vlanId).isSome ∧ s.createVlan vlanId = (0, s) ∨
    ¬vlanIsNotInRange vlanId ∧ s.switch.vlan vlanId = none ∧ ∃ addr pool,
      s.createVlan vlanId = (0,
        ⟨{ s.switch with vlanDb := s.switch.vlanDb ++ [newVlan vlanId] }, pool,
        s.blocks ++ [addr]⟩) ∧ Gives pool (s.blocks ++ [addr]) ∧ pool.fixed = s.vlanPool.fixed := by
  by_cases hrange : vlanIsNotInRange vlanId
  · exact .inl ⟨hrange, if_pos hrange⟩
  cases hv : s.switch.vlan vlanId with
  | some e =>
    refine .inr (.inl ⟨hrange, rfl, ?_⟩)
    rw [Pooled.createVlan, if_neg hrange, hv]
    simp [vlan_vlanId hv]
  | none =>
    obtain ⟨addr, pool, halloc, -, hgives, hfixed⟩ := h.alloc hrange hv
    refine .inr (.inr ⟨hrange, rfl, addr, pool, ?_, ?_, hfixed⟩)
    · rw [Pooled.createVlan, if_neg hrange, hv, halloc]
      rfl
    · exact hgives.perm (List.perm_append_singleton addr s.blocks)

theorem Pooled.Ok.createVlan (h : s.Ok) (vlanId : U16) : (s.createVlan vlanId).2.Ok := by
  obtain ⟨-, heq⟩ | ⟨-, -, heq⟩ | ⟨hrange, hnone, addr, pool, heq, hgives, hfixed⟩ :=
    h.createVlan_cases vlanId
  · rw [heq]
    exact h
  · rw [heq]
    exact h
  · rw [heq]
    simp only [MemInfo.fixed, Prod.mk.injEq] at hfixed
    obtain ⟨-, -, hnblks, hsize⟩ := hfixed
    refine ⟨hgives, hnblks.trans h.nblks, hsize.trans h.size, ?_,
      nodup_append_absent h.nodup hnone, ?_⟩
    · simp [h.length]
    · intro v hv
      rw [List.map_append] at hv
      obtain hv | hv := List.mem_append.mp hv
      · exact h.range v hv
      · rw [List.mem_singleton.mp hv]
        exact hrange

theorem Pooled.Ok.refines (h : s.Ok) : vlanCreateVlan vlanId s.switch =
    .ok ((s.createVlan vlanId).1, (s.createVlan vlanId).2.switch) := by
  have hiff : (vlanId = 0 ∨ vlanId.toNat > 4096) ↔ vlanIsNotInRange vlanId := by
    refine or_congr ⟨?_, fun hzero ↦ ?_⟩ Iff.rfl
    · rintro rfl
      exact le_rfl
    · exact BitVec.eq_of_toNat_eq (Nat.le_zero.mp hzero)
  change (if vlanId = 0 ∨ vlanId.toNat > 4096 then _ else _ : SwitchM κ τ Φ Int) s.switch = _
  obtain ⟨hrange, heq⟩ | ⟨hrange, hsome, heq⟩ | ⟨hrange, hnone, addr, pool, heq, -⟩ :=
    h.createVlan_cases vlanId
  · rw [if_pos (hiff.mpr hrange), heq]
    rfl
  · rw [if_neg (mt hiff.mp hrange), if_pos hsome, heq]
    rfl
  · have hids : (vlanId :: s.switch.vlanDb.map VlanStaticEntry.vlanId).Nodup :=
      List.nodup_cons.mpr ⟨lookup_eq_none.mp hnone, h.nodup⟩
    have hlength := length_le_maxVlanIds hids (List.forall_mem_cons.mpr ⟨hrange, h.range⟩)
    rw [List.length_cons, List.length_map] at hlength
    rw [if_neg (mt hiff.mp hrange), if_neg (by simp [hnone]), if_neg (by omega), heq]
    rfl

/-- The VLANs that there are: the default one and those that were asked for. -/
structure Pooled.Holds (cmds : List Command) (s : Pooled κ τ Φ) : Prop where
  ok : s.Ok
  requested : ∀ v, v ∈ s.switch.vlanDb.map VlanStaticEntry.vlanId ↔
    ¬vlanIsNotInRange v ∧ (v = 1 ∨ .createVlan v ∈ cmds)

theorem Pooled.Ok.of_vlanIds {s s' : Pooled κ τ Φ} (h : s.Ok) (hpool : s'.vlanPool = s.vlanPool)
    (hblocks : s'.blocks = s.blocks)
    (hids : s'.switch.vlanDb.map VlanStaticEntry.vlanId =
      s.switch.vlanDb.map VlanStaticEntry.vlanId) : s'.Ok := by
  have hlength := congrArg List.length hids
  rw [List.length_map, List.length_map] at hlength
  refine ⟨?_, ?_, ?_, ?_, ?_, ?_⟩
  · rw [hpool, hblocks]
    exact h.gives
  · rw [hpool]
    exact h.nblks
  · rw [hpool]
    exact h.size
  · rw [hblocks, hlength]
    exact h.length
  · rw [hids]
    exact h.nodup
  · rw [hids]
    exact h.range

theorem Pooled.Holds.createVlan {s : Pooled κ τ Φ} {cmds : List Command} (h : s.Holds cmds)
    (v : U16) : (s.createVlan v).2.Holds (cmds ++ [.createVlan v]) := by
  have hids : ∀ u, u ∈ (s.createVlan v).2.switch.vlanDb.map VlanStaticEntry.vlanId ↔
      u ∈ s.switch.vlanDb.map VlanStaticEntry.vlanId ∨ ¬vlanIsNotInRange v ∧ u = v := by
    intro u
    obtain ⟨hrange, heq⟩ | ⟨-, hsome, heq⟩ | ⟨hrange, -, _, _, heq, -⟩ := h.ok.createVlan_cases v
    · rw [heq]
      exact (or_iff_left fun hand ↦ hand.1 hrange).symm
    · rw [heq]
      refine (or_iff_left_of_imp ?_).symm
      rintro ⟨-, rfl⟩
      exact lookup_isSome.mp hsome
    · rw [heq, List.map_append, List.mem_append, and_iff_right hrange]
      exact or_congr_right List.mem_singleton
  refine ⟨h.ok.createVlan v, fun u ↦ ?_⟩
  rw [hids, h.requested, List.mem_append, List.mem_singleton]
  by_cases hu : u = v
  · subst hu
    tauto
  · simp [hu]

/-- What holds of the creation of VLANs after some commands. -/
structure CreationExact (cmds : List Command) (s : Pooled κ τ Φ) : Prop where
  answer : ∀ v, (s.createVlan v).1 = 0 ↔ 1 ≤ v.toNat ∧ v.toNat ≤ 4096
  once : (s.switch.vlanDb.map VlanStaticEntry.vlanId).Nodup
  requested : ∀ v, v ∈ s.switch.vlanDb.map VlanStaticEntry.vlanId ↔
    (1 ≤ v.toNat ∧ v.toNat ≤ 4096) ∧ (v = 1 ∨ .createVlan v ∈ cmds)
  kept : ∀ v, ∃ new, (s.createVlan v).2.switch =
    { s.switch with vlanDb := s.switch.vlanDb ++ new }
  block : ∀ v, 1 ≤ v.toNat ∧ v.toNat ≤ 4096 → s.switch.vlan v = none →
    ∃ addr, (allocBlock s.vlanPool).1 = some addr ∧ addr ∉ s.blocks
  blocks : s.blocks.length = s.switch.vlanDb.length ∧ s.blocks.Nodup
  apart : ∀ a ∈ s.blocks, ∀ b ∈ s.blocks, a ≠ b →
    a + sizeofVlanStaticEntry ≤ b ∨ b + sizeofVlanStaticEntry ≤ a

theorem inRange_iff {v : U16} : ¬vlanIsNotInRange v ↔ 1 ≤ v.toNat ∧ v.toNat ≤ 4096 := by
  rw [vlanIsNotInRange, not_or]
  omega

theorem Pooled.Holds.exact {s : Pooled κ τ Φ} {cmds : List Command} (h : s.Holds cmds) :
    CreationExact cmds s := by
  have hok := h.ok
  refine ⟨?_, hok.nodup, ?_, ?_, ?_, ⟨hok.length, hok.gives.nodup⟩, ?_⟩
  · intro v
    rw [← inRange_iff]
    obtain ⟨hrange, heq⟩ | ⟨hrange, -, heq⟩ | ⟨hrange, -, _, _, heq, -⟩ := hok.createVlan_cases v
    · rw [heq]
      exact iff_of_false (Int.neg_ne_zero.mpr one_ne_zero) (not_not.mpr hrange)
    · rw [heq]
      exact iff_of_true rfl hrange
    · rw [heq]
      exact iff_of_true rfl hrange
  · intro v
    rw [← inRange_iff]
    exact h.requested v
  · intro v
    obtain ⟨-, heq⟩ | ⟨-, -, heq⟩ | ⟨-, -, _, _, heq, -⟩ := hok.createVlan_cases v
    · exact ⟨[], by rw [heq, List.append_nil]⟩
    · exact ⟨[], by rw [heq, List.append_nil]⟩
    · exact ⟨[newVlan v], by rw [heq]⟩
  · intro v hv hnone
    obtain ⟨addr, pool, halloc, hnew, -⟩ := hok.alloc (inRange_iff.mpr hv) hnone
    exact ⟨addr, by rw [halloc], hnew⟩
  · intro a ha b hb hne
    have hapart := hok.gives.apart ha hb hne
    rw [hok.size] at hapart
    unfold maxVlanIds sizeofVlanStaticEntry at *
    omega

end Exact

section Runs

variable [Add κ] [LT κ] [DecidableLT κ] [OfNat κ 0] [OfNat κ 20000] (P : Platform κ τ Φ)

def Pooled.issue (s : Pooled κ τ Φ) : Command → Option (Pooled κ τ Φ)
  | .createVlan v => some (s.createVlan v).2
  | c => (Vlan.issue P s.switch c).map fun switch ↦ { s with switch := switch }

def Pooled.createDefaultVlan (s : Pooled κ τ Φ) : Option (Int × Pooled κ τ Φ) :=
  match s.createVlan 1 with
  | (r, s) =>
    if r < 0 then some (-1, s)
    else
      (exec (Pooled.issue P) s (portNumbers.map (.addPort 1 · .tagged) ++ [.enable 1 .stp])).map
        fun s ↦ (0, s)

def vlanInit (env : τ) (portCdb : Vector PortT maxPorts) (saddr : ℤ) :
    Option (Int × Pooled κ τ Φ) :=
  Pooled.createDefaultVlan P ⟨boot env portCdb,
    memPoolCreate (maxVlanIds * sizeofVlanStaticEntry) maxVlanIds saddr, []⟩

variable {P} {s s' : Switch κ τ Φ} {c : Command}

omit [Add κ] [LT κ] [DecidableLT κ] [OfNat κ 0] [OfNat κ 20000] in
theorem vlanIds_putVlan (s : Switch κ τ Φ) (e : VlanStaticEntry) :
    (s.putVlan e).vlanDb.map VlanStaticEntry.vlanId = s.vlanDb.map VlanStaticEntry.vlanId :=
  map_update fun _ hy ↦ (lookup_key hy).symm

theorem Effect.vlanIds (h : Effect P s c s') (hc : ∀ v, c ≠ .createVlan v) :
    s'.vlanDb.map VlanStaticEntry.vlanId = s.vlanDb.map VlanStaticEntry.vlanId := by
  cases h with
  | idle => rfl
  | createVlan v => exact absurd rfl (hc v)
  | addPort | addStpPort | delPort | disableRstp | returnToStp => exact vlanIds_putVlan s _
  | disableStp => exact vlanIds_putVlan _ _
  | enableStp v e s₁ br w _ _ h₁ =>
    cases h₁ with
    | old | new => exact vlanIds_putVlan _ _
  | enableRstp v e s₁ bs bs' env _ _ _ h₁ =>
    cases h₁ with
    | old | new => exact vlanIds_putVlan _ _
  | replaceStp v e s₁ bs bs' env i br w _ _ _ h₁ =>
    cases h₁ with
    | old | new => exact vlanIds_putVlan _ _

theorem Pooled.Holds.issue {s s' : Pooled κ τ Φ} {cmds : List Command} (h : s.Holds cmds)
    (hs : s.issue P c = some s') : s'.Holds (cmds ++ [c]) := by
  have hother : (∀ v, c ≠ .createVlan v) →
      (Vlan.issue P s.switch c).map (fun switch ↦ { s with switch := switch }) = some s' →
      s'.Holds (cmds ++ [c]) := by
    intro hc hs
    obtain ⟨switch, hissue, rfl⟩ := Option.map_eq_some_iff.mp hs
    have hids := (issue_effect hissue).vlanIds hc
    refine ⟨h.ok.of_vlanIds rfl rfl hids, fun v ↦ ?_⟩
    rw [hids, h.requested, List.mem_append, List.mem_singleton, or_iff_left (Ne.symm (hc v))]
  cases c with
  | createVlan v =>
    obtain rfl := Option.some.inj hs
    exact h.createVlan v
  | addPort | delPort | enable | disable => exact hother nofun hs

theorem Pooled.Ok.createDefaultVlan {s s' : Pooled κ τ Φ} (hok : s.Ok) (hnil : s.switch.vlanDb = [])
    (h : s.createDefaultVlan P = some (0, s')) : s'.Holds [] := by
  have hnone : s.switch.vlan 1 = none := by
    rw [Switch.vlan, hnil]
    rfl
  obtain ⟨hrange, -⟩ | ⟨-, hsome, -⟩ | ⟨hrange, -, addr, pool, heq, -⟩ := hok.createVlan_cases 1
  · exact absurd hrange (by decide)
  · rw [hnone] at hsome
    cases hsome
  have hdefault := hok.createVlan 1
  rw [heq] at hdefault
  rw [Pooled.createDefaultVlan, heq] at h
  obtain ⟨s₁, hexec, hpair⟩ := Option.map_eq_some_iff.mp h
  obtain ⟨-, rfl⟩ := Prod.mk.inj hpair
  have hholds := (run_of_exec hexec).history (J := Pooled.Holds)
    (fun _ _ _ _ h _ hs ↦ h.issue hs) ⟨hdefault, fun v ↦ ?_⟩
  · refine ⟨hholds.ok, fun v ↦ (hholds.requested v).trans ?_⟩
    simp
  · rw [hnil, List.nil_append, List.map_singleton, List.mem_singleton,
      or_iff_left List.not_mem_nil]
    refine (and_iff_right_of_imp ?_).symm
    rintro rfl
    exact hrange

theorem holds_vlanInit {env : τ} {portCdb : Vector PortT maxPorts} {saddr : ℤ}
    {s : Pooled κ τ Φ} (hsaddr : 0 < saddr) (h : vlanInit P env portCdb saddr = some (0, s)) :
    s.Holds [] := by
  have hbytes : maxVlanIds * sizeofVlanStaticEntry * maxVlanIds < 2 ^ 31 := by decide
  have hgives : Gives (memPoolCreate (maxVlanIds * sizeofVlanStaticEntry) maxVlanIds saddr) [] :=
    gives_memPoolCreate (by decide) (by decide) hbytes hsaddr
  have hpool : memPoolCreate (maxVlanIds * sizeofVlanStaticEntry) maxVlanIds saddr = _ :=
    Mem.memPoolCreate_eq saddr (by decide) (by decide)
  have hok : Pooled.Ok (κ := κ) (Φ := Φ) ⟨boot env portCdb,
      memPoolCreate (maxVlanIds * sizeofVlanStaticEntry) maxVlanIds saddr, []⟩ :=
    ⟨hgives, congrArg MemInfo.nblks hpool, (congrArg MemInfo.size hpool).trans (Nat.cast_mul _ _),
      rfl, List.nodup_nil, fun _ hv ↦ absurd hv List.not_mem_nil⟩
  exact hok.createDefaultVlan rfl h

/-- After `vlan_init` and any commands, `vlan_create_vlan` accepts just the identifiers
from 1 to 4096, each of which gets one entry in a block of its own. -/
theorem vlan_creation_exact (P : Platform κ τ Φ) {env : τ} {portCdb : Vector PortT maxPorts}
    {saddr : ℤ} {cmds : List Command} {s₀ s : Pooled κ τ Φ} (hsaddr : 0 < saddr)
    (hinit : vlanInit P env portCdb saddr = some (0, s₀))
    (hrun : Run (Pooled.issue P) (fun _ _ ↦ True) s₀ cmds s) : CreationExact cmds s := by
  have hholds : s.Holds cmds := hrun.history (J := Pooled.Holds)
    (fun _ _ _ _ h _ hs ↦ h.issue hs) (holds_vlanInit hsaddr hinit)
  exact hholds.exact

theorem vlan_creation_exact_last : ∃ s₀ s,
    vlanInit plainPlatform plainBoot.env plainBoot.portCdb 4096 = some (0, s₀) ∧
    Run (Pooled.issue plainPlatform) (fun _ _ ↦ True) s₀
      [.createVlan 4096, .createVlan 0, .createVlan 4097, .createVlan 4096, .createVlan 7] s ∧
    s.switch.vlanDb.map VlanStaticEntry.vlanId = [1, 4096, 7] ∧
    CreationExact
      [.createVlan 4096, .createVlan 0, .createVlan 4097, .createVlan 4096, .createVlan 7] s := by
  have hcheck : ((vlanInit plainPlatform plainBoot.env plainBoot.portCdb 4096).any fun p ↦
      decide (p.1 = 0) &&
      (exec (Pooled.issue plainPlatform) p.2 [.createVlan 4096, .createVlan 0, .createVlan 4097,
        .createVlan 4096, .createVlan 7]).any fun s ↦
          s.switch.vlanDb.map VlanStaticEntry.vlanId = [1, 4096, 7]) = true := by
    decide +kernel
  simp only [Option.any_eq_true, Bool.and_eq_true, decide_eq_true_eq] at hcheck
  obtain ⟨⟨r, s₀⟩, hinit, rfl, s, hexec, hids⟩ := hcheck
  have hrun := run_of_exec hexec
  exact ⟨s₀, s, hinit, hrun, hids, vlan_creation_exact plainPlatform (by decide) hinit hrun⟩

end Runs

end Layer3Switch.Vlan
