import Layer3Switch.Lib.ParentForest
import Layer3Switch.Stp.Election

namespace Layer3Switch.Stp

open Lib Lib.Bytes
open Timers (U32)

/-- Bridges attached to LANs by their ports that are not `DISABLED`. A port is
plugged into the LAN that `lan` gives for its port id. -/
structure Network (ι Λ : Type) where
  bridge : ι → StpInstance ℤ
  lan : ι → U16 → Λ
  bridgeId_injective : Function.Injective fun i ↦ (bridge i).bridgeId
  one_le_pathCost : ∀ i, ∀ p ∈ (bridge i).portList, 1 ≤ p.pathCost
  portId_nodup : ∀ i,
    (((bridge i).portList.filter fun p ↦ p.state ≠ .disabled).map StpPortEntry.portId).Nodup
  /-- A `DISABLED` port does not bear the number of an attached one. -/
  portNo_ne : ∀ i, ∀ p ∈ (bridge i).portList, ∀ q ∈ (bridge i).portList, p.state = .disabled →
    q.state ≠ .disabled → p.portNo.setWidth 16 ≠ q.portNo.setWidth 16

namespace Network

variable {ι Λ : Type} (N : Network ι Λ)

structure Attached (i : ι) (p : StpPortEntry ℤ) (l : Λ) : Prop where
  mem : p ∈ (N.bridge i).portList
  state : p.state ≠ .disabled
  lan_eq : N.lan i p.portId = l

def rootPort (i : ι) : Option (StpPortEntry ℤ) :=
  if (N.bridge i).rootPort = 0 then none
  else stpGetPort (N.bridge i) ((N.bridge i).rootPort.setWidth 16)

/-- The two ports carry the same root, cost, bridge and port. -/
structure SameInfo (p q : StpPortEntry ℤ) : Prop where
  root : p.designatedRoot = q.designatedRoot
  cost : p.designatedCost = q.designatedCost
  bridge : p.designatedBridge = q.designatedBridge
  port : p.designatedPort = q.designatedPort

structure Designated (i : ι) (p : StpPortEntry ℤ) (l : Λ) : Prop extends N.Attached i p l where
  isDesignated : stpIsDesignatedPort (N.bridge i) p = true

structure Stable (e : Endian) : Prop where
  designated : ∀ l, ∃ i p, N.Designated i p l ∧ ∀ j q, N.Attached j q l → SameInfo q p
  update : ∀ i, stpConfigurationUpdate e (N.bridge i) = some (N.bridge i)

def attachments (r : ι → Λ → Prop) : SimpleGraph (ι ⊕ Λ) where
  Adj
    | .inl i, .inr l => r i l
    | .inr l, .inl i => r i l
    | _, _ => False
  symm := ⟨by rintro (_ | _) (_ | _) h <;> exact h⟩
  loopless := ⟨by rintro (_ | _) h <;> exact h⟩

def wiring : SimpleGraph (ι ⊕ Λ) := attachments fun i l ↦ ∃ p, N.Attached i p l

def TreePort (i : ι) (p : StpPortEntry ℤ) : Prop :=
  N.rootPort i = some p ∨ stpIsDesignatedPort (N.bridge i) p = true

def activeTopology : SimpleGraph (ι ⊕ Λ) :=
  attachments fun i l ↦ ∃ p, N.Attached i p l ∧ N.TreePort i p

variable {N} {e : Endian}

theorem Designated.unique (h : N.Stable e) {i j : ι} {p q : StpPortEntry ℤ} {l : Λ}
    (hp : N.Designated i p l) (hq : N.Designated j q l) : i = j ∧ p = q := by
  obtain ⟨k, r, -, hr⟩ := h.designated l
  have hpr := hr i p hp.toAttached
  have hqr := hr j q hq.toAttached
  have hpd := hp.isDesignated
  have hqd := hq.isDesignated
  simp only [stpIsDesignatedPort, Bool.and_eq_true, beq_iff_eq] at hpd hqd
  have hij : i = j := by
    apply N.bridgeId_injective
    exact hpd.1.symm.trans ((hpr.bridge.trans hqr.bridge.symm).trans hqd.1)
  subst hij
  refine ⟨rfl, ?_⟩
  apply List.inj_on_of_nodup_map (N.portId_nodup i)
  · exact List.mem_filter.mpr ⟨hp.mem, decide_eq_true hp.state⟩
  · exact List.mem_filter.mpr ⟨hq.mem, decide_eq_true hq.state⟩
  · exact hpd.2.symm.trans ((hpr.port.trans hqr.port.symm).trans hqd.2)

theorem Stable.attached (h : N.Stable e) {i : ι} {p : StpPortEntry ℤ} {l : Λ}
    (hp : N.Attached i p l) : p.designatedRoot = (N.bridge i).designatedRoot ∧
      (stpIsDesignatedPort (N.bridge i) p → p.designatedCost = (N.bridge i).rootPathCost) :=
  selectDesignatedPort_eq_self ((stpConfigurationUpdate_eq_self (h.update i)).2 p hp.mem) hp.state

theorem setWidth_setWidth_of_u16 (n : U16) : (n.setWidth 32).setWidth 16 = n := by
  rw [BitVec.setWidth_setWidth_of_le n (by decide), BitVec.setWidth_eq]

theorem Stable.root_cases (h : N.Stable e) (i : ι) :
    (N.rootPort i = none ∧ (N.bridge i).designatedRoot = (N.bridge i).bridgeId ∧
      (N.bridge i).rootPathCost = 0) ∨
    ∃ p, N.rootPort i = some p ∧ N.Attached i p (N.lan i p.portId) ∧
      (N.bridge i).rootPathCost = p.designatedCost + p.pathCost ∧
      (N.bridge i).designatedRoot.rank e < (N.bridge i).bridgeId.rank e := by
  obtain hb | ⟨q, hq, hc, hz, p, hp, hb⟩ :=
    stpRootSelection_cases (stpConfigurationUpdate_eq_self (h.update i)).1
  · left
    exact ⟨if_pos (congrArg StpInstance.rootPort hb), congrArg StpInstance.designatedRoot hb,
      congrArg StpInstance.rootPathCost hb⟩
  · right
    have hn : (N.bridge i).rootPort = (q.portNo.setWidth 16).setWidth 32 :=
      congrArg StpInstance.rootPort hb
    have hn' : (N.bridge i).rootPort.setWidth 16 = q.portNo.setWidth 16 := by
      rw [hn, setWidth_setWidth_of_u16]
    have hne : (N.bridge i).rootPort ≠ 0 := by
      intro h0
      rw [h0] at hn'
      exact hz hn'.symm
    obtain ⟨hmem, hno⟩ := stpGetPort_spec hp
    have hstate : p.state ≠ .disabled := by
      intro hd
      apply N.portNo_ne i p hmem q hq hd hc.state
      rw [hno, setWidth_setWidth_of_u16]
    have hroot : q.designatedRoot = (N.bridge i).designatedRoot :=
      (h.attached ⟨hq, hc.state, rfl⟩).1
    refine ⟨p, ?_, ⟨hmem, hstate, rfl⟩, congrArg StpInstance.rootPathCost hb, ?_⟩
    · rw [rootPort, if_neg hne, hn', hp]
    · rw [← hroot]
      exact hc.rank_lt

theorem Stable.designatedRoot_eq (h : N.Stable e) {i j : ι} {p q : StpPortEntry ℤ} {l : Λ}
    (hp : N.Attached i p l) (hq : N.Attached j q l) :
    (N.bridge i).designatedRoot = (N.bridge j).designatedRoot := by
  obtain ⟨k, r, -, hr⟩ := h.designated l
  calc (N.bridge i).designatedRoot = p.designatedRoot := (h.attached hp).1.symm
    _ = r.designatedRoot := (hr i p hp).root
    _ = q.designatedRoot := (hr j q hq).root.symm
    _ = (N.bridge j).designatedRoot := (h.attached hq).1

theorem Stable.rootPathCost_lt (h : N.Stable e) {i j : ι} {p q : StpPortEntry ℤ} {l : Λ}
    (hp : N.rootPort i = some p) (ha : N.Attached i p l) (hq : N.Designated j q l) :
    (N.bridge j).rootPathCost < (N.bridge i).rootPathCost := by
  obtain ⟨hnone, -⟩ | ⟨p', hp', hmem, hcost, -⟩ := h.root_cases i
  · rw [hnone] at hp
    cases hp
  · obtain rfl := Option.some.inj (hp.symm.trans hp')
    obtain ⟨k, r, -, hr⟩ := h.designated l
    have h₁ := (hr i p ha).cost
    have h₂ := (hr j q hq.toAttached).cost
    have h₃ := (h.attached hq.toAttached).2 hq.isDesignated
    have h₄ := N.one_le_pathCost i p hmem.mem
    omega

theorem Stable.rootPathCost_nonneg [Finite ι] (h : N.Stable e) (i : ι) :
    0 ≤ (N.bridge i).rootPathCost := by
  have : Nonempty ι := ⟨i⟩
  obtain ⟨m, hm⟩ := Finite.exists_min fun j ↦ (N.bridge j).rootPathCost
  obtain ⟨-, -, hzero⟩ | ⟨p, hp, ha, -⟩ := h.root_cases m
  · exact hzero ▸ hm i
  · obtain ⟨j, q, hq, -⟩ := h.designated (N.lan m p.portId)
    have hlt := h.rootPathCost_lt hp ha hq
    have hle := hm j
    omega

noncomputable def parent (h : N.Stable e) : ι ⊕ Λ → Option (ι ⊕ Λ)
  | .inl i => (N.rootPort i).map fun p ↦ .inr (N.lan i p.portId)
  | .inr l => some (.inl (h.designated l).choose)

noncomputable def depth (h : N.Stable e) : ι ⊕ Λ → ℕ
  | .inl i => 2 * (N.bridge i).rootPathCost.toNat
  | .inr l => 2 * (N.bridge (h.designated l).choose).rootPathCost.toNat + 1

theorem Stable.designated_choose (h : N.Stable e) (l : Λ) :
    ∃ p, N.Designated (h.designated l).choose p l := by
  obtain ⟨p, hp, -⟩ := (h.designated l).choose_spec
  exact ⟨p, hp⟩

theorem parent_inl_eq_some (h : N.Stable e) {i : ι} {u : ι ⊕ Λ} (hu : parent h (.inl i) = some u) :
    ∃ p, N.rootPort i = some p ∧ N.Attached i p (N.lan i p.portId) ∧
      u = .inr (N.lan i p.portId) := by
  obtain ⟨p, hp, rfl⟩ := Option.map_eq_some_iff.mp hu
  obtain ⟨hnone, -⟩ | ⟨p', hp', ha, -⟩ := h.root_cases i
  · rw [hnone] at hp
    cases hp
  · obtain rfl := Option.some.inj (hp.symm.trans hp')
    exact ⟨p, hp, ha, rfl⟩

theorem activeTopology_adj_iff (h : N.Stable e) (i : ι) (l : Λ) :
    N.activeTopology.Adj (.inl i) (.inr l) ↔
      parent h (.inl i) = some (.inr l) ∨ parent h (.inr l) = some (.inl i) := by
  constructor
  · intro hadj
    obtain ⟨p, ha, hroot | hdes⟩ := hadj
    · left
      rw [parent, hroot, Option.map_some, ha.lan_eq]
    · right
      obtain ⟨q, hq⟩ := h.designated_choose l
      obtain ⟨rfl, -⟩ := Designated.unique h ⟨ha, hdes⟩ hq
      rfl
  · intro hpar
    obtain hpar | hpar := hpar
    · obtain ⟨p, hp, ha, hl⟩ := parent_inl_eq_some h hpar
      obtain rfl := Sum.inr.inj hl
      exact ⟨p, ha, .inl hp⟩
    · obtain ⟨q, hq⟩ := h.designated_choose l
      rw [Sum.inl.inj (Option.some.inj hpar)] at hq
      exact ⟨q, hq.toAttached, .inr hq.isDesignated⟩

theorem Stable.parentForest [Finite ι] (h : N.Stable e) :
    ParentForest N.activeTopology (parent h) (depth h) where
  rank_lt := by
    intro v u hu
    cases v with
    | inl i =>
      obtain ⟨p, hp, ha, rfl⟩ := parent_inl_eq_some h hu
      obtain ⟨q, hq⟩ := h.designated_choose (N.lan i p.portId)
      have hlt := h.rootPathCost_lt hp ha hq
      have h0 := h.rootPathCost_nonneg (h.designated (N.lan i p.portId)).choose
      simp only [depth]
      omega
    | inr l =>
      obtain rfl := Option.some.inj hu
      exact Nat.lt_succ_self _
  adj_iff := by
    intro v u
    cases v with
    | inl i =>
      cases u with
      | inl j =>
        constructor
        · intro hadj
          exact absurd hadj id
        · intro hpar
          obtain hpar | hpar := hpar
          · obtain ⟨p, -, -, hl⟩ := parent_inl_eq_some h hpar
            cases hl
          · obtain ⟨p, -, -, hl⟩ := parent_inl_eq_some h hpar
            cases hl
      | inr l => exact activeTopology_adj_iff h i l
    | inr l =>
      cases u with
      | inl j =>
        rw [SimpleGraph.adj_comm, or_comm]
        exact activeTopology_adj_iff h j l
      | inr k =>
        constructor
        · intro hadj
          exact absurd hadj id
        · intro hpar
          obtain hpar | hpar := hpar <;> cases hpar

theorem activeTopology_le_wiring : N.activeTopology ≤ N.wiring := by
  intro v u hadj
  cases v <;> cases u
  · exact hadj
  · obtain ⟨p, hp, -⟩ := hadj
    exact ⟨p, hp⟩
  · obtain ⟨p, hp, -⟩ := hadj
    exact ⟨p, hp⟩
  · exact hadj

theorem Stable.parent_mem_supp [Finite ι] (h : N.Stable e) (c : N.wiring.ConnectedComponent) :
    ∀ v ∈ c.supp, ∀ u, parent h v = some u → u ∈ c.supp := by
  intro v hv u hu
  have hadj := activeTopology_le_wiring ((h.parentForest.adj_iff v u).mpr (.inl hu))
  rw [SimpleGraph.ConnectedComponent.mem_supp_iff] at hv ⊢
  exact (SimpleGraph.ConnectedComponent.connectedComponentMk_eq_of_adj hadj).symm.trans hv

noncomputable def rootOf (h : N.Stable e) : ι ⊕ Λ → BridgeId
  | .inl i => (N.bridge i).designatedRoot
  | .inr l => (N.bridge (h.designated l).choose).designatedRoot

theorem rootOf_eq_of_attached (h : N.Stable e) {i : ι} {p : StpPortEntry ℤ} {l : Λ}
    (hp : N.Attached i p l) : rootOf h (.inl i) = rootOf h (.inr l) := by
  obtain ⟨q, hq⟩ := h.designated_choose l
  exact h.designatedRoot_eq hp hq.toAttached

theorem rootOf_eq_of_adj (h : N.Stable e) {v u : ι ⊕ Λ} (hadj : N.wiring.Adj v u) :
    rootOf h v = rootOf h u := by
  cases v with
  | inl i =>
    cases u with
    | inl j => exact absurd hadj id
    | inr l =>
      obtain ⟨p, hp⟩ := hadj
      exact rootOf_eq_of_attached h hp
  | inr l =>
    cases u with
    | inl j =>
      obtain ⟨p, hp⟩ := hadj
      exact (rootOf_eq_of_attached h hp).symm
    | inr k => exact absurd hadj id

theorem rootOf_eq_of_reachable (h : N.Stable e) {v u : ι ⊕ Λ} (hr : N.wiring.Reachable v u) :
    rootOf h v = rootOf h u := by
  obtain ⟨w⟩ := hr
  induction w with
  | nil => rfl
  | cons hadj _ ih => exact (rootOf_eq_of_adj h hadj).trans ih

theorem Stable.exists_root [Finite ι] (h : N.Stable e) (c : N.wiring.ConnectedComponent) :
    ∃ r, .inl r ∈ c.supp ∧ (∀ v ∈ c.supp, parent h v = none → v = .inl r) ∧
      ∀ v ∈ c.supp, rootOf h v = (N.bridge r).bridgeId := by
  have hroot : ∀ i, parent h (.inl i) = none →
      (N.bridge i).designatedRoot = (N.bridge i).bridgeId := by
    intro i hi
    obtain ⟨-, hid, -⟩ | ⟨p, hp, -⟩ := h.root_cases i
    · exact hid
    · rw [parent, hp] at hi
      cases hi
  obtain ⟨v, hv⟩ := c.nonempty_supp
  obtain ⟨r, hr, hnone, -⟩ := h.parentForest.exists_root (h.parent_mem_supp c) v hv
  cases r with
  | inr l => cases hnone
  | inl r =>
    have hall : ∀ v ∈ c.supp, rootOf h v = (N.bridge r).bridgeId := by
      intro v hv
      have hreach : N.wiring.Reachable v (.inl r) :=
        SimpleGraph.ConnectedComponent.exact (hv.trans hr.symm)
      exact (rootOf_eq_of_reachable h hreach).trans (hroot r hnone)
    refine ⟨r, hr, ?_, hall⟩
    intro v hv hpv
    cases v with
    | inr l => cases hpv
    | inl i =>
      have hi : (N.bridge i).bridgeId = (N.bridge r).bridgeId :=
        (hroot i hpv).symm.trans (hall (.inl i) hv)
      rw [N.bridgeId_injective hi]

theorem Stable.rank_designatedRoot_le (h : N.Stable e) (i : ι) :
    (N.bridge i).designatedRoot.rank e ≤ (N.bridge i).bridgeId.rank e := by
  obtain ⟨-, hid, -⟩ | ⟨p, -, -, -, hlt⟩ := h.root_cases i
  · rw [hid]
  · exact hlt.le

theorem TreePort.unique (h : N.Stable e) {i : ι} {l : Λ} {p q : StpPortEntry ℤ}
    (hp : N.Attached i p l) (hpt : N.TreePort i p) (hq : N.Attached i q l)
    (hqt : N.TreePort i q) : p = q := by
  obtain hpr | hpd := hpt
  · obtain hqr | hqd := hqt
    · exact Option.some.inj (hpr.symm.trans hqr)
    · exact absurd (h.rootPathCost_lt hpr hp ⟨hq, hqd⟩) (lt_irrefl _)
  · obtain hqr | hqd := hqt
    · exact absurd (h.rootPathCost_lt hqr hq ⟨hp, hpd⟩) (lt_irrefl _)
    · exact (Designated.unique h ⟨hp, hpd⟩ ⟨hq, hqd⟩).2

end Network

open Network

variable {ι Λ : Type}

/-- In a stable network every LAN has one designated port, the bridges of a
component agree on the smallest bridge id of the component as the root, and the
root and designated ports attach bridges to LANs along a spanning tree of the
component, each edge by a single port. -/
theorem stable_spanning_tree [Finite ι] (N : Network ι Λ) (e : Endian) (h : N.Stable e) :
    (∀ l, ∃! x : ι × StpPortEntry ℤ, N.Designated x.1 x.2 l) ∧
    (∀ c : N.wiring.ConnectedComponent,
      (∃ r, .inl r ∈ c.supp ∧ ∀ i, .inl i ∈ c.supp →
        (N.bridge i).designatedRoot = (N.bridge r).bridgeId ∧
        (N.bridge r).bridgeId.memcmp e (N.bridge i).bridgeId ≠ .gt) ∧
      (N.activeTopology.induce c.supp).IsTree) ∧
    ∀ i l p q, N.Attached i p l → N.TreePort i p → N.Attached i q l → N.TreePort i q → p = q := by
  refine ⟨?_, ?_, ?_⟩
  · intro l
    obtain ⟨i, p, hp, -⟩ := h.designated l
    refine ⟨(i, p), hp, ?_⟩
    intro x hx
    obtain ⟨hi, hp'⟩ := Designated.unique h hx hp
    exact Prod.ext hi hp'
  · intro c
    obtain ⟨r, hr, honly, hall⟩ := h.exists_root c
    refine ⟨⟨r, hr, ?_⟩, h.parentForest.isTree_induce (h.parent_mem_supp c) hr honly⟩
    intro i hi
    have hroot : (N.bridge i).designatedRoot = (N.bridge r).bridgeId := hall (.inl i) hi
    have hle := h.rank_designatedRoot_le i
    rw [hroot] at hle
    refine ⟨hroot, ?_⟩
    intro hgt
    exact absurd (BridgeId.memcmp_eq_gt.mp hgt) (not_lt.mpr hle)
  · intro i l p q hp hpt hq hqt
    exact TreePort.unique h hp hpt hq hqt

def bridgeOf (prio : U16) : BridgeId := ⟨prio, macAddress 0 0 0 0 0 0⟩

def twinPort (n : U16) (state : PortState) : StpPortEntry ℤ where
  priority := 0
  state := state
  designatedCost := 0
  pathCost := 5
  designatedRoot := bridgeOf 1
  designatedBridge := bridgeOf 1
  forwardDelayTimer := none
  holdTimer := none
  messageAgeTimer := none
  designatedPort := n
  portId := n
  portNo := n.setWidth 32
  topologyChangeAck := false
  configPending := false
  isOwnBpdu := false
  enabled := true
  self := n.toNat

def twinBridge (i : Fin 2) : StpInstance ℤ where
  portList := [twinPort 1 .forwarding, twinPort 2 (if i = 0 then .forwarding else .blocking)]
  stpEnabled := true
  designatedRoot := bridgeOf 1
  bridgeId := if i = 0 then bridgeOf 1 else bridgeOf 2
  maxAge := stpDefMaxAge
  helloTime := stpDefHelloTime
  forwardDelay := stpDefFwdDelay
  bridgeMaxAge := stpDefMaxAge
  bridgeHelloTime := stpDefHelloTime
  bridgeForwardDelay := stpDefFwdDelay
  helloTimer := none
  tcnTimer := none
  topologyChangeTimer := none
  rootPathCost := if i = 0 then 0 else 5
  rootPort := if i = 0 then 0 else 1
  vlanId := 1
  topologyChange := false
  topologyChangeDetected := false

def twinNetwork : Network (Fin 2) (Fin 2) where
  bridge := twinBridge
  lan := fun _ n ↦ if n = 1 then 0 else 1
  bridgeId_injective := by decide
  one_le_pathCost := by decide
  portId_nodup := by decide
  portNo_ne := by decide

theorem twinNetwork_stable : twinNetwork.Stable .little where
  designated := by
    have hinfo : ∀ l : Fin 2, ∀ j, ∀ q ∈ (twinBridge j).portList, twinNetwork.lan j q.portId = l →
        q.designatedRoot = bridgeOf 1 ∧ q.designatedCost = 0 ∧ q.designatedBridge = bridgeOf 1 ∧
          q.designatedPort = if l = 0 then 1 else 2 := by decide
    have hdes : ∀ l : Fin 2, twinPort (if l = 0 then 1 else 2) .forwarding ∈
      (twinBridge 0).portList ∧
        twinNetwork.lan 0 (if l = 0 then 1 else 2) = l ∧
        stpIsDesignatedPort (twinBridge 0) (twinPort (if l = 0 then 1 else 2) .forwarding) := by
      decide
    intro l
    obtain ⟨hmem, hlan, hd⟩ := hdes l
    refine ⟨0, _, ⟨⟨hmem, PortState.noConfusion, hlan⟩, hd⟩, ?_⟩
    intro j q hq
    obtain ⟨h₁, h₂, h₃, h₄⟩ := hinfo l j q hq.mem hq.lan_eq
    exact ⟨h₁, h₂, h₃, h₄⟩
  update := by decide

theorem stable_spanning_tree_parallel_links :
    twinNetwork.Stable .little ∧
      ∀ c : twinNetwork.wiring.ConnectedComponent,
        (twinNetwork.activeTopology.induce c.supp).IsTree := by
  refine ⟨twinNetwork_stable, fun c ↦ ?_⟩
  exact ((stable_spanning_tree twinNetwork .little twinNetwork_stable).2.1 c).2

end Layer3Switch.Stp
