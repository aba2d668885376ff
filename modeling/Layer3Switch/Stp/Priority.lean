import Layer3Switch.Stp.Costs

namespace Layer3Switch.Stp

open Lib Lib.Bytes
open Timers (U32 TimerMgr)

def stpMaxPortPriority : U32 := 240

section Command

variable {κ τ Φ : Type} [Add κ] [LT κ] [DecidableLT κ] [OfNat κ 0] (H : Host τ) (W : Wire κ Φ)

def setSpanningBridgePortPrio (prio portnum : U32) : StpM κ τ Φ Int :=
  setSpanningBridgePort portnum (prio ≤ stpMaxPortPriority)
    fun p ↦ stpSetPortPriority H W p (prio.setWidth 8)

end Command

theorem stpMakePortId_toNat (priority : U8) (portNo : U16) :
    (stpMakePortId priority portNo).toNat = priority.toNat % 64 * 1024 + portNo.toNat % 1024 := by
  have hmask : (1#16 <<< stpPortBits - 1) = 1023#16 := by decide
  have hlow : (portNo &&& 1023#16).toNat = portNo.toNat % 2 ^ 10 := by
    rw [BitVec.toNat_and]
    exact Nat.and_two_pow_sub_one_eq_mod _ 10
  have hhigh : (priority.setWidth 16 <<< stpPortBits).toNat = 2 ^ 10 * (priority.toNat % 64) := by
    have hlt := priority.isLt
    rw [BitVec.toNat_shiftLeft, BitVec.toNat_setWidth, Nat.shiftLeft_eq, stpPortBits]
    omega
  have hfit : portNo.toNat % 2 ^ 10 < 2 ^ 10 := Nat.mod_lt _ (by decide)
  rw [stpMakePortId, hmask, BitVec.toNat_or, hhigh, hlow, ← Nat.two_pow_add_eq_or_of_lt hfit]
  omega

variable {κ : Type} {br br' : StpInstance κ} {p q : StpPortEntry κ}

def MadeId (q : StpPortEntry κ) : Prop :=
  q.state ≠ .disabled → q.portId = stpMakePortId (q.priority.setWidth 8) (q.portNo.setWidth 16)

instance (q : StpPortEntry κ) : Decidable (MadeId q) := inferInstanceAs (Decidable (_ → _))

/-- The ports have distinct numbers. Those in use are in the table of ports and
have the ids that belong to them. -/
structure StpInstance.Labelled (br : StpInstance κ) : Prop where
  inTable : ∀ q ∈ br.portList, q.state ≠ .disabled → InTable q.portNo
  numbers : br.numbers.Nodup
  made : ∀ q ∈ br.portList, MadeId q

section Runs

theorem MadeId.of_eq (h : MadeId q) (hprio : p.priority = q.priority) (hno : p.portNo = q.portNo)
    (hid : p.portId = q.portId) (hstate : q.state = .disabled → p.state = .disabled) :
    MadeId p := by
  intro hlive
  rw [hprio, hno, hid]
  exact h (mt hstate hlive)

theorem MadeId.selectState (h : MadeId q) : MadeId (selectState br q) := by
  refine h.of_eq rfl rfl rfl fun hdis ↦ ?_
  exact if_pos hdis

theorem MadeId.edit {edit : Edit κ} (h : ∀ q ∈ br.portList, MadeId q) :
    ∀ q ∈ (edit.apply br).portList, MadeId q := by
  have hmodify : ∀ {i : ℕ} {f : StpPortEntry κ → StpPortEntry κ},
      (∀ q, MadeId q → MadeId (f q)) → ∀ q ∈ (br.modifyPort i f).portList, MadeId q := by
    intro i f hf q' hq'
    obtain ⟨q, hq, rfl | ⟨-, rfl⟩⟩ := mem_modifyPort hq'
    · exact h q' hq
    · exact hf q (h q hq)
  cases edit with
  | record i bpdu => exact hmodify fun q hq ↦ hq.of_eq rfl rfl rfl id
  | expireAge i => exact hmodify fun q hq ↦ hq.of_eq rfl rfl rfl id
  | disable i => exact hmodify fun q hq ↦ hq.of_eq rfl rfl rfl fun _ ↦ rfl
  | setPathCost i c => exact hmodify fun q hq ↦ hq.of_eq rfl rfl rfl id
  | setBridgePriority newprio =>
    intro q' hq'
    obtain ⟨q, hq, rfl⟩ := List.mem_map.mp hq'
    unfold reprioritizePort
    split
    · exact (h q hq).of_eq rfl rfl rfl id
    · exact h q hq
  | changeBridgeId addr =>
    intro q' hq'
    obtain ⟨q, hq, rfl⟩ := List.mem_map.mp hq'
    exact (h q hq).of_eq rfl rfl rfl id

theorem MadeId.rerank (h : ∀ q ∈ br.portList, MadeId q) (i : ℕ) (newprio : U8) :
    ∀ q ∈ (rerank i newprio br).portList, MadeId q := by
  have hrenamed : ∀ q ∈ (br.modifyPort i (renamePort newprio br)).portList, MadeId q := by
    intro q' hq'
    obtain ⟨q, hq, rfl | ⟨-, rfl⟩⟩ := mem_modifyPort hq'
    · exact h q' hq
    · intro _
      have hprio : (newprio.setWidth 32).setWidth 8 = newprio := by bv_omega
      simp only [renamePort, hprio]
  unfold Stp.rerank
  dsimp only
  split
  · exact hrenamed
  · split
    · intro q' hq'
      obtain ⟨q₁, hq₁, rfl⟩ := List.mem_map.mp hq'
      apply MadeId.selectState
      obtain ⟨q, hq, rfl | ⟨-, rfl⟩⟩ := mem_modifyPort hq₁
      · exact hrenamed _ hq
      · exact (hrenamed q hq).of_eq rfl rfl rfl id
    · exact hrenamed

variable [Add κ] [LT κ] [DecidableLT κ] [OfNat κ 0] {e : Endian} {m : Move κ}

theorem MadeId.apply (h : ∀ q ∈ br.portList, MadeId q) (hv : m.Valid br)
    (hm : m.apply e br = some br') : ∀ q ∈ br'.portList, MadeId q := by
  intro q' hq'
  cases m with
  | elect edit =>
    obtain ⟨br₁, -, -, -, rfl⟩ := reelect_cases hm
    obtain ⟨q₁, hq₁, rfl⟩ := List.mem_map.mp hq'
    obtain ⟨q, hq, rfl⟩ := List.mem_map.mp hq₁
    apply MadeId.selectState
    unfold selectDesignatedPort
    split
    · exact (MadeId.edit h q hq).of_eq rfl rfl rfl id
    · exact MadeId.edit h q hq
  | enable i =>
    obtain rfl := Option.some.inj hm
    obtain ⟨q₁, hq₁, rfl⟩ := List.mem_map.mp hq'
    apply MadeId.selectState
    obtain ⟨q, hq, rfl | ⟨-, rfl⟩⟩ := mem_modifyPort hq₁
    · exact h q₁ hq
    · exact fun _ ↦ rfl
  | setPortPriority i newprio =>
    obtain rfl := Option.some.inj hm
    exact MadeId.rerank h i newprio q' hq'
  | clearOwn i =>
    obtain rfl := Option.some.inj hm
    obtain ⟨q, hq, rfl | ⟨-, rfl⟩⟩ := mem_modifyPort hq'
    · exact h q' hq
    · exact (h q hq).of_eq rfl rfl rfl id
  | advance i =>
    obtain rfl := Option.some.inj hm
    obtain ⟨q, hq, rfl | ⟨-, rfl⟩⟩ := mem_modifyPort hq'
    · exact h q' hq
    · exact (h q hq).of_eq rfl rfl rfl (advance_eq_disabled q.state).mpr
  | times _ | setEnabled _ =>
    obtain rfl := Option.some.inj hm
    exact h q' hq'
  | create q =>
    obtain rfl := Option.some.inj hm
    obtain hq' | hq' := List.mem_append.mp hq'
    · exact h q' hq'
    · obtain rfl := List.mem_singleton.mp hq'
      exact fun hlive ↦ absurd hv.1 hlive
  | removeHead =>
    obtain rfl := Option.some.inj hm
    exact h q' (List.mem_of_mem_tail hq')

variable {τ Φ : Type} [OfNat κ 20000] {H : Host τ} {W : Wire κ Φ} {w w' : World κ τ Φ}

omit [OfNat κ 0] [OfNat κ 20000] [Add κ] [LT κ] [DecidableLT κ] in
theorem MadeId.of_tree_eq (htree : br'.tree = br.tree) (h : ∀ q ∈ br.portList, MadeId q) :
    ∀ q ∈ br'.portList, MadeId q := by
  intro q' hq'
  obtain ⟨i, hi⟩ := List.mem_iff_getElem?.mp hq'
  obtain ⟨q, hq, hqq'⟩ := entry_of_tree_eq htree hi
  have hmade : MadeId q.tree := h q (List.mem_of_getElem? hq)
  rw [hqq'] at hmade
  exact hmade

theorem labelled_of_run {vlanId : U16} {addr : MacAddress} {portCdb : Vector PortT maxPorts}
    {env : τ} {as : List (Action κ τ Φ)}
    (h : Run (step H W) NewNumber (newInstance H vlanId addr [] portCdb env) as w) :
    w.br.Labelled := by
  have hw : Rooted w.br ∧ ∀ q ∈ w.br.portList, MadeId q := by
    refine h.invariant (I := fun w ↦ Rooted w.br ∧ ∀ q ∈ w.br.portList, MadeId q) ?_
      ⟨newInstance_rooted vlanId addr portCdb env, nofun⟩
    intro w a w' hI hnew hs
    refine ⟨hI.1.step hnew hs, ?_⟩
    refine (step_leads hI.1.toRootFound hs).invariant
      (I := fun br ↦ ∀ q ∈ br.portList, MadeId q) ?_ ?_ hI.2
    · exact fun htree hmade ↦ MadeId.of_tree_eq htree hmade
    · exact fun _ hv hmade hm ↦ MadeId.apply hmade hv hm
  exact ⟨hw.1.live, hw.1.nodup, hw.2⟩

end Runs

instance (n : U32) : Decidable (InTable n) := inferInstanceAs (Decidable (_ < _))

theorem InTable.toNat_le {n : U32} (h : InTable n) : n.toNat ≤ 12 := by
  unfold InTable maxPorts at h
  bv_omega

def prioKey (p : StpPortEntry κ) : ℕ ×ₗ ℕ := toLex (p.priority.toNat, p.portNo.toNat)

def packedKey (p : StpPortEntry κ) : ℕ ×ₗ ℕ := toLex (p.priority.toNat % 64, p.portNo.toNat)

def prioBlock (p : StpPortEntry κ) : ℕ := p.priority.toNat / 64

theorem prioKey_lt_iff : prioKey p < prioKey q ↔
    prioBlock p < prioBlock q ∨ prioBlock p = prioBlock q ∧ packedKey p < packedKey q := by
  unfold prioKey packedKey prioBlock
  rw [Prod.Lex.toLex_lt_toLex, Prod.Lex.toLex_lt_toLex]
  dsimp only
  omega

theorem StpInstance.Labelled.portId_toNat (h : br.Labelled) (hq : q ∈ br.portList)
    (hlive : q.state ≠ .disabled) :
    q.portId.toNat = q.priority.toNat % 64 * 1024 + q.portNo.toNat := by
  have hin := (h.inTable q hq hlive).toNat_le
  rw [h.made q hq hlive, stpMakePortId_toNat, BitVec.toNat_setWidth, BitVec.toNat_setWidth]
  omega

theorem StpInstance.Labelled.portId_lt_iff (h : br.Labelled) (hp : p ∈ br.portList)
    (hq : q ∈ br.portList) (hplive : p.state ≠ .disabled) (hqlive : q.state ≠ .disabled) :
    p.portId < q.portId ↔ packedKey p < packedKey q := by
  have hpin := (h.inTable p hp hplive).toNat_le
  have hqin := (h.inTable q hq hqlive).toNat_le
  rw [BitVec.lt_def, h.portId_toNat hp hplive, h.portId_toNat hq hqlive, packedKey, packedKey,
    Prod.Lex.toLex_lt_toLex]
  dsimp only
  omega

theorem StpInstance.Labelled.packedKey_inj (h : br.Labelled) (hp : p ∈ br.portList)
    (hq : q ∈ br.portList) (hkey : packedKey p = packedKey q) : p = q := by
  simp only [packedKey, EmbeddingLike.apply_eq_iff_eq, Prod.mk.injEq] at hkey
  exact List.inj_on_of_nodup_map h.numbers hp hq (BitVec.eq_of_toNat_eq hkey.2)

theorem StpInstance.Labelled.numbered (h : br.Labelled) : br.Numbered where
  fits q hq hlive := (h.inTable q hq hlive).fits
  numbers := h.numbers
  ids := by
    refine List.Nodup.map_on ?_ ((List.Nodup.of_map _ h.numbers).filter _)
    intro p hp q hq hid
    obtain ⟨hp, hplive⟩ := List.mem_filter.mp hp
    obtain ⟨hq, hqlive⟩ := List.mem_filter.mp hq
    have hpq := (h.portId_lt_iff hp hq (of_decide_eq_true hplive) (of_decide_eq_true hqlive)).not
    have hqp := (h.portId_lt_iff hq hp (of_decide_eq_true hqlive) (of_decide_eq_true hplive)).not
    rw [hid] at hpq hqp
    have hnot : ¬q.portId < q.portId := BitVec.lt_irrefl _
    exact h.packedKey_inj hp hq (le_antisymm (not_lt.mp (hqp.mp hnot)) (not_lt.mp (hpq.mp hnot)))

section Election

variable [Add κ] [LinearOrder κ] {e : Endian}

def rootRank (e : Endian) (p : StpPortEntry κ) : ℕ ×ₗ κ ×ₗ ℕ ×ₗ ℕ :=
  toLex (p.designatedRoot.rank e, toLex (p.designatedCost + p.pathCost,
    toLex (p.designatedBridge.rank e, p.designatedPort.toNat)))

theorem rootKey_lt_iff : rootKey e p < rootKey e q ↔
    rootRank e p < rootRank e q ∨ rootRank e p = rootRank e q ∧ p.portId < q.portId := by
  simp only [rootKey, rootRank, Prod.Lex.toLex_lt_toLex, EmbeddingLike.apply_eq_iff_eq,
    Prod.mk.injEq, BitVec.lt_def]
  tauto

structure Leading (e : Endian) (br : StpInstance κ) (p : StpPortEntry κ) : Prop where
  mem : p ∈ br.portList
  candidate : Candidate e br p
  least : ∀ q ∈ br.portList, Candidate e br q → rootRank e p ≤ rootRank e q

theorem Leading.rootRank_eq (hp : Leading e br p) (hq : Leading e br q) :
    rootRank e p = rootRank e q :=
  le_antisymm (hp.least q hq.mem hq.candidate) (hq.least p hp.mem hp.candidate)

theorem IsBest.leading (h : IsBest e br p) : Leading e br p where
  mem := h.mem
  candidate := h.candidate
  least q hq hc := by
    obtain rfl | hlt := h.least q hq hc
    · exact le_rfl
    · obtain hlt | ⟨heq, -⟩ := rootKey_lt_iff.mp hlt
      · exact hlt.le
      · exact heq.le

theorem IsBest.packedKey_le (hbr : br.Labelled) (h : IsBest e br p) (hq : Leading e br q) :
    packedKey p ≤ packedKey q := by
  obtain rfl | hlt := h.least q hq.mem hq.candidate
  · exact le_rfl
  · obtain hlt | ⟨-, hid⟩ := rootKey_lt_iff.mp hlt
    · exact absurd (h.leading.rootRank_eq hq) hlt.ne
    · exact ((hbr.portId_lt_iff h.mem hq.mem h.candidate.state hq.candidate.state).mp hid).le

def ElectsByPriority (e : Endian) (br br' : StpInstance κ) : Prop :=
  ∀ p, Leading e br p → p.portNo = br'.rootPort → ∀ q, Leading e br q → prioKey p ≤ prioKey q

def BlocksAgree (e : Endian) (br : StpInstance κ) : Prop :=
  ∀ p, Leading e br p → (∀ q, Leading e br q → packedKey p ≤ packedKey q) →
    ∀ q, Leading e br q → prioBlock p ≤ prioBlock q

omit [Add κ] [LinearOrder κ] in
theorem prioKey_le_iff (h : packedKey p ≤ packedKey q) :
    prioKey p ≤ prioKey q ↔ prioBlock p ≤ prioBlock q := by
  rw [← not_lt, prioKey_lt_iff, ← not_lt (b := prioBlock p)]
  have hnot : ¬packedKey q < packedKey p := not_lt.mpr h
  tauto

theorem electsByPriority_iff (hbr : br.Labelled) (h : IsBest e br p)
    (hroot : br'.rootPort = p.portNo) : ElectsByPriority e br br' ↔ BlocksAgree e br := by
  constructor
  · intro helects r hr hleast q hq
    obtain rfl : r = p := hbr.packedKey_inj hr.mem h.mem
      (le_antisymm (hleast p h.leading) (h.packedKey_le hbr hr))
    exact (prioKey_le_iff (hleast q hq)).mp (helects r hr hroot.symm q hq)
  · intro hblocks r hr hno q hq
    obtain rfl : r = p := List.inj_on_of_nodup_map hbr.numbers hr.mem h.mem (hno.trans hroot)
    have hleast : ∀ q, Leading e br q → packedKey r ≤ packedKey q := fun q ↦ h.packedKey_le hbr
    exact (prioKey_le_iff (hleast q hq)).mpr (hblocks r hr hleast q hq)

variable [OfNat κ 0]

/-- When priorities decide as they are configured: in an election between leading
ports, and in the order of any two ids. -/
theorem priority_decides_ties_iff (e : Endian) (h : br.Labelled) :
    (∃ br', stpRootSelection e br = some br' ∧
      ((∃ p, Leading e br p) → ∃ p, Leading e br p ∧ br'.rootPort = p.portNo) ∧
      (ElectsByPriority e br br' ↔ BlocksAgree e br)) ∧
    ∀ p ∈ br.portList, ∀ q ∈ br.portList, p.state ≠ .disabled → q.state ≠ .disabled →
      ((p.portId < q.portId ↔ prioKey p < prioKey q) ↔
        (prioBlock p < prioBlock q → packedKey p < packedKey q) ∧
        (prioBlock q < prioBlock p → packedKey q < packedKey p)) := by
  constructor
  · obtain ⟨p, hp⟩ | hnone := h.numbered.isBest_or_none e
    · refine ⟨_, stpRootSelection_of_best h.numbered hp, fun _ ↦ ⟨p, hp.leading, rfl⟩, ?_⟩
      exact electsByPriority_iff h hp rfl
    · have hno : ∀ p, ¬Leading e br p := fun p hp ↦ hnone p hp.mem hp.candidate
      refine ⟨_, stpRootSelection_of_none h.numbered hnone, ?_, ?_⟩
      · exact fun ⟨p, hp⟩ ↦ absurd hp (hno p)
      · exact ⟨fun _ p hp ↦ absurd hp (hno p), fun _ p hp ↦ absurd hp (hno p)⟩
  · intro p hp q hq hplive hqlive
    rw [h.portId_lt_iff hp hq hplive hqlive, prioKey_lt_iff]
    obtain hlt | heq | hgt := lt_trichotomy (prioBlock p) (prioBlock q)
    · simp [hlt, hlt.not_gt]
    · simp [heq]
    · have hne : packedKey p ≠ packedKey q := by
        intro hkey
        obtain rfl := h.packedKey_inj hp hq hkey
        exact lt_irrefl _ hgt
      simp only [hgt, hgt.not_gt, hgt.ne', false_and, or_false, iff_false, false_implies, true_and,
        true_implies]
      exact ⟨fun hnot ↦ lt_of_le_of_ne (not_lt.mp hnot) hne.symm, fun hlt ↦ hlt.not_gt⟩

end Election

def tiedPorts : StpInstance Int32 :=
  sampleBridge [
    { heardPort 1 (stpMakePortId 32 1) ⟨32768, macAddress 0 0 0 0 0 1⟩ 0
      20000 with priority := 32 },
    { heardPort 2 (stpMakePortId 16 2) ⟨32768, macAddress 0 0 0 0 0 1⟩ 0
      20000 with priority := 16 }]

theorem priority_decides_ties_in_block :
    tiedPorts.Labelled ∧ ∃ br', stpRootSelection .big tiedPorts = some br' ∧
      ((∃ p, Leading .big tiedPorts p) → ∃ p, Leading .big tiedPorts p ∧ br'.rootPort = p.portNo) ∧
      (ElectsByPriority .big tiedPorts br' ↔ BlocksAgree .big tiedPorts) := by
  have h : tiedPorts.Labelled := ⟨by decide, by decide, by decide⟩
  exact ⟨h, (priority_decides_ties_iff .big h).1⟩

/-- The operator gives the second of two equal ports the priority 16. The first one,
which has the default priority 128, stays ahead of it. -/
theorem default_priority_comes_first :
    ∃ w w' : World Int32 TimerMgr (List U8), ∃ br',
      setSpanningBridgePortPrio relayHost (frames .little) 16 2 w = some (0, w') ∧
      w'.br.Labelled ∧ stpRootSelection relayHost.endian w'.br = some br' ∧ br'.rootPort = 1 ∧
      w'.br.portList.map (fun p ↦ (p.portNo, p.priority)) = [(1, 128), (2, 16)] ∧
      ∀ p ∈ w'.br.portList, ∀ q ∈ w'.br.portList,
        rootRank relayHost.endian p = rootRank relayHost.endian q := by
  let w : World Int32 TimerMgr (List U8) := { leafStart with
    br := sampleBridge [
      heardPort 1 (stpMakePortId 128 1) ⟨32768, macAddress 0 0 0 0 0 1⟩ 0 20000,
      heardPort 2 (stpMakePortId 128 2) ⟨32768, macAddress 0 0 0 0 0 1⟩ 0 20000] }
  let w' : World Int32 TimerMgr (List U8) := { leafStart with
    br := sampleBridge [
      heardPort 1 (stpMakePortId 128 1) ⟨32768, macAddress 0 0 0 0 0 1⟩ 0 20000,
      { heardPort 2 (stpMakePortId 16 2) ⟨32768, macAddress 0 0 0 0 0 1⟩ 0 20000 with
        priority := 16 }] }
  let br' : StpInstance Int32 := { w'.br with
    rootPort := 1
    designatedRoot := ⟨32768, macAddress 0 0 0 0 0 1⟩
    rootPathCost := 20000 }
  have hlabelled : w'.br.Labelled := ⟨by decide, by decide, by decide⟩
  exact ⟨w, w', br', rfl, hlabelled, by decide +kernel, rfl, by decide, by decide⟩

end Layer3Switch.Stp
