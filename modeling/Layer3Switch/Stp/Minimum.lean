import Layer3Switch.Lib.Signed
import Layer3Switch.Stp.RootApart
import Mathlib.Data.List.MinMax
import Mathlib.Data.Prod.Lex

namespace Layer3Switch.Stp

open Lib Lib.Bytes
open Timers (U32)

def Fits (n : U32) : Prop := n ≠ 0 ∧ n.toNat < 2 ^ 16

instance (n : U32) : Decidable (Fits n) := inferInstanceAs (Decidable (_ ∧ _))

theorem Fits.setWidth {n : U32} (h : Fits n) : (n.setWidth 16).setWidth 32 = n := by
  obtain ⟨-, hlt⟩ := h
  bv_omega

theorem Fits.setWidth_ne_zero {n : U32} (h : Fits n) : n.setWidth 16 ≠ 0#16 := by
  obtain ⟨hne, hlt⟩ := h
  bv_omega

theorem InTable.fits {n : U32} (h : InTable n) : Fits n := by
  unfold InTable maxPorts at h
  refine ⟨?_, ?_⟩ <;> bv_omega

variable {κ : Type}

/-- The ports have distinct numbers and those in use have distinct ids. The
numbers of ports in use can be held by `root_port`. -/
structure StpInstance.Numbered (br : StpInstance κ) : Prop where
  fits : ∀ q ∈ br.portList, q.state ≠ .disabled → Fits q.portNo
  numbers : br.numbers.Nodup
  ids : ((br.portList.filter fun q ↦ q.state ≠ .disabled).map StpPortEntry.portId).Nodup

section Ranking

variable [Add κ] [LinearOrder κ] {e : Endian} {br : StpInstance κ} {p q : StpPortEntry κ}

def rootKey (e : Endian) (p : StpPortEntry κ) : ℕ ×ₗ κ ×ₗ ℕ ×ₗ ℕ ×ₗ ℕ :=
  toLex (p.designatedRoot.rank e, toLex (p.designatedCost + p.pathCost,
    toLex (p.designatedBridge.rank e, toLex (p.designatedPort.toNat, p.portId.toNat))))

theorem betterRootPort_iff : betterRootPort e p q = true ↔ rootKey e p < rootKey e q := by
  simp only [rootKey, Prod.Lex.toLex_lt_toLex, betterRootPort, BridgeId.memcmp_eq_compare]
  obtain hroot | hroot | hroot := lt_trichotomy (p.designatedRoot.rank e) (q.designatedRoot.rank e)
  · simp [Nat.compare_eq_lt.mpr hroot, hroot]
  · rw [Nat.compare_eq_eq.mpr hroot]
    simp only [hroot, lt_irrefl, false_or, true_and]
    obtain hcost | hcost | hcost :=
      lt_trichotomy (p.designatedCost + p.pathCost) (q.designatedCost + q.pathCost)
    · simp [hcost]
    · simp only [hcost, lt_irrefl, if_false, false_or, true_and]
      obtain hbridge | hbridge | hbridge :=
        lt_trichotomy (p.designatedBridge.rank e) (q.designatedBridge.rank e)
      · simp [Nat.compare_eq_lt.mpr hbridge, hbridge]
      · rw [Nat.compare_eq_eq.mpr hbridge]
        simp only [hbridge, lt_irrefl, false_or, true_and, BitVec.lt_def]
        obtain hport | hport | hport :=
          lt_trichotomy p.designatedPort.toNat q.designatedPort.toNat
        · simp [hport]
        · simp [hport]
        · simp [hport, hport.ne']
      · simp [Nat.compare_eq_gt.mpr hbridge, hbridge.ne', hbridge.le]
    · simp [hcost, hcost.ne']
  · simp [Nat.compare_eq_gt.mpr hroot, hroot.ne', hroot.le]

structure IsBest (e : Endian) (br : StpInstance κ) (p : StpPortEntry κ) : Prop where
  mem : p ∈ br.portList
  candidate : Candidate e br p
  least : ∀ q ∈ br.portList, Candidate e br q → q = p ∨ rootKey e p < rootKey e q

omit [LinearOrder κ] in
theorem StpInstance.Numbered.rootKey_inj (h : br.Numbered) (hp : p ∈ br.portList)
    (hq : q ∈ br.portList) (hpc : Candidate e br p) (hqc : Candidate e br q)
    (hkey : rootKey e p = rootKey e q) : p = q := by
  have hid : p.portId.toNat = q.portId.toNat := by
    simp only [rootKey, EmbeddingLike.apply_eq_iff_eq, Prod.mk.injEq] at hkey
    exact hkey.2.2.2.2
  refine List.inj_on_of_nodup_map h.ids ?_ ?_ (BitVec.eq_of_toNat_eq hid)
  · exact List.mem_filter.mpr ⟨hp, decide_eq_true hpc.state⟩
  · exact List.mem_filter.mpr ⟨hq, decide_eq_true hqc.state⟩

theorem StpInstance.Numbered.isBest_or_none (h : br.Numbered) (e : Endian) :
    (∃ p, IsBest e br p) ∨ ∀ p ∈ br.portList, ¬Candidate e br p := by
  cases hbest : (br.portList.filter fun p ↦ Candidate e br p).argmin (rootKey e) with
  | none =>
    right
    intro p hp hc
    have hmem : p ∈ br.portList.filter fun p ↦ Candidate e br p :=
      List.mem_filter.mpr ⟨hp, decide_eq_true hc⟩
    rw [List.argmin_eq_none.mp hbest] at hmem
    exact List.not_mem_nil hmem
  | some p =>
    left
    obtain ⟨hp, hc⟩ := List.mem_filter.mp (List.argmin_mem hbest)
    refine ⟨p, hp, of_decide_eq_true hc, fun q hq hqc ↦ ?_⟩
    have hle := List.le_of_mem_argmin (List.mem_filter.mpr ⟨hq, decide_eq_true hqc⟩) hbest
    obtain hlt | heq := lt_or_eq_of_le hle
    · exact .inr hlt
    · exact .inl (h.rootKey_inj hq hp hqc (of_decide_eq_true hc) heq.symm)

omit [Add κ] [LinearOrder κ] in
theorem StpInstance.Numbered.getPort (h : br.Numbered) (hq : q ∈ br.portList)
    (hstate : q.state ≠ .disabled) : stpGetPort br (q.portNo.setWidth 16) = some q := by
  have hfits := h.fits q hq hstate
  obtain ⟨p, hp⟩ : ∃ p, stpGetPort br (q.portNo.setWidth 16) = some p := by
    apply Option.isSome_iff_exists.mp
    apply List.find?_isSome.mpr
    exact ⟨q, hq, by rw [hfits.setWidth, beq_self_eq_true]⟩
  obtain ⟨hmem, hno⟩ := stpGetPort_spec hp
  rw [hfits.setWidth] at hno
  rw [hp, List.inj_on_of_nodup_map h.numbers hmem hq hno]

theorem stpShouldBecomeRootPort_eq (h : br.Numbered) (hc : Candidate e br p)
    (hq : q ∈ br.portList) (hstate : q.state ≠ .disabled) :
    stpShouldBecomeRootPort e br p (q.portNo.setWidth 16) = some (betterRootPort e p q) := by
  have hgt : br.bridgeId.memcmp e p.designatedRoot = .gt := BridgeId.memcmp_eq_gt.mpr hc.rank_lt
  simp [stpShouldBecomeRootPort, hc.state, hc.not_designated, hgt,
    (h.fits q hq hstate).setWidth_ne_zero, h.getPort hq hstate]

def bestNumber : Option (StpPortEntry κ) → U16
  | none => 0
  | some q => q.portNo.setWidth 16

theorem considerRootPort_eq (h : br.Numbered) {best : Option (StpPortEntry κ)}
    (hbest : ∀ q ∈ best, q ∈ br.portList ∧ Candidate e br q) (p : StpPortEntry κ) :
    considerRootPort e br (bestNumber best) p = some (bestNumber
      (if Candidate e br p then List.argAux (fun b c ↦ rootKey e b < rootKey e c) best p
        else best)) := by
  by_cases hc : Candidate e br p
  · rw [if_pos hc]
    cases best with
    | none =>
      have hgt : br.bridgeId.memcmp e p.designatedRoot = .gt :=
        BridgeId.memcmp_eq_gt.mpr hc.rank_lt
      simp [considerRootPort, stpShouldBecomeRootPort, hc.state, hc.not_designated, hc.not_own, hgt,
        bestNumber, List.argAux]
    | some q =>
      obtain ⟨hq, hqc⟩ := hbest q rfl
      have hshould : stpShouldBecomeRootPort e br p (bestNumber (some q)) =
          some (betterRootPort e p q) := stpShouldBecomeRootPort_eq h hc hq hqc.state
      by_cases hlt : rootKey e p < rootKey e q
      · rw [considerRootPort, hc.not_own, hshould, betterRootPort_iff.mpr hlt]
        simp [List.argAux, hlt, bestNumber]
      · have hbetter : betterRootPort e p q = false :=
          Bool.eq_false_iff.mpr (mt betterRootPort_iff.mp hlt)
        rw [considerRootPort, hc.not_own, hshould, hbetter]
        simp [List.argAux, hlt]
  · rw [if_neg hc, considerRootPort]
    split
    · rfl
    · rename_i hown
      have hguard : (p.state = .disabled ∨ stpIsDesignatedPort br p = true) ∨
          br.bridgeId.memcmp e p.designatedRoot ≠ .gt := by
        by_contra hno
        push Not at hno
        obtain ⟨⟨hstate, hd⟩, hgt⟩ := hno
        exact hc ⟨hstate, Bool.eq_false_iff.mpr hd, BridgeId.memcmp_eq_gt.mp hgt,
          Bool.eq_false_iff.mpr hown⟩
      have hshould : stpShouldBecomeRootPort e br p (bestNumber best) = some false := by
        unfold stpShouldBecomeRootPort
        split_ifs with hd hgt
        · rfl
        · rfl
        · exact absurd hguard (not_or.mpr ⟨hd, hgt⟩)
        · exact absurd hguard (not_or.mpr ⟨hd, hgt⟩)
      rw [hshould]

theorem foldlM_considerRootPort_eq (h : br.Numbered) {l : List (StpPortEntry κ)}
    {best : Option (StpPortEntry κ)} (hl : ∀ q ∈ l, q ∈ br.portList)
    (hbest : ∀ q ∈ best, q ∈ br.portList ∧ Candidate e br q) :
    l.foldlM (considerRootPort e br) (bestNumber best) =
      some (bestNumber ((l.filter fun p ↦ Candidate e br p).foldl
        (List.argAux fun b c ↦ rootKey e b < rootKey e c) best)) := by
  induction l generalizing best with
  | nil => rfl
  | cons p l ih =>
    have hp := hl p List.mem_cons_self
    rw [List.foldlM_cons, considerRootPort_eq h hbest]
    by_cases hc : Candidate e br p
    · have hbest' : ∀ q ∈ List.argAux (fun b c ↦ rootKey e b < rootKey e c) best p,
          q ∈ br.portList ∧ Candidate e br q := by
        intro q hq
        cases best with
        | none => exact (Option.some.inj hq) ▸ ⟨hp, hc⟩
        | some c =>
          simp only [List.argAux] at hq
          split at hq
          · exact (Option.some.inj hq) ▸ ⟨hp, hc⟩
          · exact hbest q hq
      rw [if_pos hc, List.filter_cons, if_pos (decide_eq_true hc), List.foldl_cons]
      exact ih (fun q hq ↦ hl q (List.mem_cons_of_mem p hq)) hbest'
    · rw [if_neg hc, List.filter_cons, if_neg (mt of_decide_eq_true hc)]
      exact ih (fun q hq ↦ hl q (List.mem_cons_of_mem p hq)) hbest

variable [OfNat κ 0]

theorem stpRootSelection_of_none (h : br.Numbered) (hnone : ∀ p ∈ br.portList, ¬Candidate e br p) :
    stpRootSelection e br =
      some { br with rootPort := 0, designatedRoot := br.bridgeId, rootPathCost := 0 } := by
  have hfold : br.portList.foldlM (considerRootPort e br) (bestNumber none) = _ :=
    foldlM_considerRootPort_eq h (fun _ ↦ id) nofun
  have hempty : (br.portList.filter fun p ↦ Candidate e br p) = [] :=
    List.filter_eq_nil_iff.mpr fun p hp ↦ by simpa using hnone p hp
  rw [hempty] at hfold
  have hzero : br.portList.foldlM (considerRootPort e br) 0 = some 0 := hfold
  rw [stpRootSelection, hzero]
  exact if_pos rfl

theorem stpRootSelection_of_best (h : br.Numbered) (hp : IsBest e br p) :
    stpRootSelection e br = some { br with
      rootPort := p.portNo
      designatedRoot := p.designatedRoot
      rootPathCost := p.designatedCost + p.pathCost } := by
  have hfold : br.portList.foldlM (considerRootPort e br) (bestNumber none) = _ :=
    foldlM_considerRootPort_eq h (fun _ ↦ id) nofun
  have hmin : (br.portList.filter fun q ↦ Candidate e br q).argmin (rootKey e) = some p := by
    have hpmem : p ∈ br.portList.filter fun q ↦ Candidate e br q :=
      List.mem_filter.mpr ⟨hp.mem, decide_eq_true hp.candidate⟩
    cases hm : (br.portList.filter fun q ↦ Candidate e br q).argmin (rootKey e) with
    | none =>
      rw [List.argmin_eq_none.mp hm] at hpmem
      exact absurd hpmem List.not_mem_nil
    | some m =>
      obtain ⟨hmem, hc⟩ := List.mem_filter.mp (List.argmin_mem hm)
      obtain rfl | hlt := hp.least m hmem (of_decide_eq_true hc)
      · rfl
      · exact absurd hlt (List.le_of_mem_argmin hpmem hm).not_gt
  have hnumber : br.portList.foldlM (considerRootPort e br) 0 =
      some (bestNumber ((br.portList.filter fun q ↦ Candidate e br q).argmin (rootKey e))) := hfold
  have hfits := h.fits p hp.mem hp.candidate.state
  rw [hmin, bestNumber] at hnumber
  rw [stpRootSelection, hnumber]
  simp only [h.getPort hp.mem hp.candidate.state, hfits.setWidth]
  exact if_neg hfits.setWidth_ne_zero

omit [Add κ] [LinearOrder κ] [OfNat κ 0] in
theorem StpInstance.Numbered.perm {l : List (StpPortEntry κ)} (h : br.Numbered)
    (hl : l.Perm br.portList) : StpInstance.Numbered { br with portList := l } where
  fits q hq := h.fits q (hl.mem_iff.mp hq)
  numbers := (hl.map _).nodup_iff.mpr h.numbers
  ids := ((hl.filter _).map _).nodup_iff.mpr h.ids

/-- Root selection finds the least candidate, in whatever order the ports are
listed. -/
theorem root_selection_minimum (e : Endian) (h : br.Numbered) :
    ∃ br', stpRootSelection e br = some br' ∧
      ((∃ p, IsBest e br p ∧ br'.rootPort = p.portNo) ∨
        (∀ p ∈ br.portList, ¬Candidate e br p) ∧ br'.rootPort = 0) ∧
      ∀ l : List (StpPortEntry κ), l.Perm br.portList →
        stpRootSelection e { br with portList := l } = some { br' with portList := l } := by
  obtain ⟨p, hp⟩ | hnone := h.isBest_or_none e
  · refine ⟨_, stpRootSelection_of_best h hp, .inl ⟨p, hp, rfl⟩, fun l hl ↦ ?_⟩
    have hp' : IsBest e { br with portList := l } p := by
      refine ⟨hl.mem_iff.mpr hp.mem, hp.candidate.of_bridgeId rfl, fun q hq hc ↦ ?_⟩
      exact hp.least q (hl.mem_iff.mp hq) (hc.of_bridgeId rfl)
    exact stpRootSelection_of_best (h.perm hl) hp'
  · refine ⟨_, stpRootSelection_of_none h hnone, .inr ⟨hnone, rfl⟩, fun l hl ↦ ?_⟩
    refine stpRootSelection_of_none (h.perm hl) fun q hq hc ↦ ?_
    exact hnone q (hl.mem_iff.mp hq) (hc.of_bridgeId rfl)

end Ranking

def heardPort (portNo : U32) (portId : U16) (designatedRoot : BridgeId) (cost pathCost : κ) :
    StpPortEntry κ where
  priority := 128
  state := .blocking
  designatedCost := cost
  pathCost := pathCost
  designatedRoot := designatedRoot
  designatedBridge := ⟨32768, macAddress 0 0 0 0 0 1⟩
  forwardDelayTimer := none
  holdTimer := none
  messageAgeTimer := none
  designatedPort := 1
  portId := portId
  portNo := portNo
  topologyChangeAck := false
  configPending := false
  isOwnBpdu := false
  enabled := true
  self := 0

def sampleBridge [OfNat κ 0] (portList : List (StpPortEntry κ)) : StpInstance κ where
  portList := portList
  stpEnabled := true
  designatedRoot := ⟨32768, macAddress 0 0 0 0 0 2⟩
  bridgeId := ⟨32768, macAddress 0 0 0 0 0 2⟩
  maxAge := 20
  helloTime := 2
  forwardDelay := 15
  bridgeMaxAge := 20
  bridgeHelloTime := 2
  bridgeForwardDelay := 15
  helloTimer := none
  tcnTimer := none
  topologyChangeTimer := none
  rootPathCost := 0
  rootPort := 0
  vlanId := 1
  topologyChange := false
  topologyChangeDetected := false

def threePorts (κ : Type) [OfNat κ 0] [OfNat κ 20000] [OfNat κ 30000] : StpInstance κ :=
  sampleBridge [heardPort 1 1 ⟨32768, macAddress 0 0 0 0 0 1⟩ 30000 20000,
    heardPort 2 2 ⟨32768, macAddress 0 0 0 0 0 1⟩ 0 20000,
    heardPort 3 3 ⟨32768, macAddress 0 0 0 0 0 9⟩ 0 20000]

theorem root_selection_minimum_three_ports :
    ∃ br', stpRootSelection .big (threePorts Int32) = some br' ∧
      ((∃ p, IsBest .big (threePorts Int32) p ∧ br'.rootPort = p.portNo) ∨
        (∀ p ∈ (threePorts Int32).portList, ¬Candidate .big (threePorts Int32) p) ∧
          br'.rootPort = 0) ∧
      ∀ l : List (StpPortEntry Int32), l.Perm (threePorts Int32).portList →
        stpRootSelection .big { threePorts Int32 with portList := l } =
          some { br' with portList := l } :=
  root_selection_minimum .big ⟨by decide, by decide, by decide⟩

section Idempotence

variable {e : Endian} {br br₁ : StpInstance ℤ} {p : StpPortEntry ℤ}

theorem stpIsDesignatedPort_become (br : StpInstance ℤ) (p : StpPortEntry ℤ) :
    stpIsDesignatedPort br (stpBecomeDesignatedPort br p) = true := by
  simp [stpIsDesignatedPort, stpBecomeDesignatedPort]

theorem selectDesignatedPort_selectDesignatedPort (e : Endian) (br : StpInstance ℤ)
    (p : StpPortEntry ℤ) :
    selectDesignatedPort e br (selectDesignatedPort e br p) = selectDesignatedPort e br p := by
  by_cases hc : p.state ≠ .disabled ∧ stpShouldBecomeDesignatedPort e br p = true
  · have hself : selectDesignatedPort e br p = stpBecomeDesignatedPort br p := if_pos hc
    have hshould : stpShouldBecomeDesignatedPort e br (stpBecomeDesignatedPort br p) = true := by
      rw [stpShouldBecomeDesignatedPort, if_pos (stpIsDesignatedPort_become br p)]
    rw [hself, selectDesignatedPort, if_pos ⟨hc.1, hshould⟩]
    rfl
  · have hself : selectDesignatedPort e br p = p := if_neg hc
    rw [hself, hself]

theorem Candidate.of_select (hc : Candidate e br (selectDesignatedPort e br p)) :
    selectDesignatedPort e br p = p := by
  by_cases hcond : p.state ≠ .disabled ∧ stpShouldBecomeDesignatedPort e br p = true
  · have hself : selectDesignatedPort e br p = stpBecomeDesignatedPort br p := if_pos hcond
    rw [hself] at hc
    exact absurd (stpIsDesignatedPort_become br p) (Bool.eq_false_iff.mp hc.not_designated)
  · exact if_neg hcond

theorem StpInstance.Numbered.select (h : br₁.Numbered) :
    (stpDesignatedPortSelection e br₁).Numbered := by
  have hkept : ∀ q, (selectDesignatedPort e br₁ q).portNo = q.portNo ∧
      (selectDesignatedPort e br₁ q).state = q.state ∧
      (selectDesignatedPort e br₁ q).portId = q.portId := by
    intro q
    unfold selectDesignatedPort
    split <;> exact ⟨rfl, rfl, rfl⟩
  refine ⟨?_, ?_, ?_⟩
  · intro q' hq' hstate
    obtain ⟨q, hq, rfl⟩ := List.mem_map.mp hq'
    rw [(hkept q).1]
    exact h.fits q hq ((hkept q).2.1 ▸ hstate)
  · have hnumbers : (stpDesignatedPortSelection e br₁).numbers = br₁.numbers := by
      rw [StpInstance.numbers, StpInstance.numbers, stpDesignatedPortSelection, List.map_map]
      exact List.map_congr_left fun q _ ↦ (hkept q).1
    rw [hnumbers]
    exact h.numbers
  · have hids : ((stpDesignatedPortSelection e br₁).portList.filter
        fun q ↦ q.state ≠ .disabled).map StpPortEntry.portId =
        (br₁.portList.filter fun q ↦ q.state ≠ .disabled).map StpPortEntry.portId := by
      rw [stpDesignatedPortSelection, List.filter_map, List.map_map]
      have hfilter : (fun q ↦ decide (q.state ≠ .disabled)) ∘ selectDesignatedPort e br₁ =
          fun q ↦ decide (q.state ≠ .disabled) := by
        funext q
        simp only [Function.comp_apply, (hkept q).2.1]
      rw [hfilter]
      exact List.map_congr_left fun q _ ↦ (hkept q).2.2
    rw [hids]
    exact h.ids

theorem stpConfigurationUpdate_again
    (h : stpRootSelection e (stpDesignatedPortSelection e br₁) =
      some (stpDesignatedPortSelection e br₁)) :
    stpConfigurationUpdate e (stpDesignatedPortSelection e br₁) =
      some (stpDesignatedPortSelection e br₁) := by
  rw [stpConfigurationUpdate, h, Option.map_some]
  refine congrArg some ?_
  have hports : (stpDesignatedPortSelection e br₁).portList.map
      (selectDesignatedPort e (stpDesignatedPortSelection e br₁)) =
        (stpDesignatedPortSelection e br₁).portList := by
    rw [stpDesignatedPortSelection, List.map_map]
    exact List.map_congr_left fun q _ ↦ selectDesignatedPort_selectDesignatedPort e br₁ q
  calc stpDesignatedPortSelection e (stpDesignatedPortSelection e br₁)
      = { stpDesignatedPortSelection e br₁ with
          portList := (stpDesignatedPortSelection e br₁).portList.map
            (selectDesignatedPort e (stpDesignatedPortSelection e br₁)) } := rfl
    _ = stpDesignatedPortSelection e br₁ := by rw [hports]

/-- A configuration update changes nothing when it is made a second time. -/
theorem configuration_update_idempotent (e : Endian) (h : br.Numbered)
    (hcost : ∀ p ∈ br.portList, 1 ≤ p.pathCost) :
    ∃ br', stpConfigurationUpdate e br = some br' ∧ stpConfigurationUpdate e br' = some br' := by
  obtain ⟨p, hp⟩ | hnone := h.isBest_or_none e
  · let br₁ : StpInstance ℤ := { br with
      rootPort := p.portNo
      designatedRoot := p.designatedRoot
      rootPathCost := p.designatedCost + p.pathCost }
    have hsel : stpRootSelection e br = some br₁ := stpRootSelection_of_best h hp
    have h₁ : br₁.Numbered := ⟨h.fits, h.numbers, h.ids⟩
    refine ⟨stpDesignatedPortSelection e br₁, ?_, stpConfigurationUpdate_again ?_⟩
    · rw [stpConfigurationUpdate, hsel, Option.map_some]
    · -- the root port keeps its information, and the candidates have not become more
      have hself : selectDesignatedPort e br₁ p = p := by
        refine selectDesignatedPort_root hp.candidate.not_designated rfl ?_
        have hpos := hcost p hp.mem
        change p.designatedCost < p.designatedCost + p.pathCost
        omega
      have hbest : IsBest e (stpDesignatedPortSelection e br₁) p := by
        refine ⟨?_, hp.candidate.of_bridgeId rfl, fun q' hq' hc ↦ ?_⟩
        · exact List.mem_map.mpr ⟨p, hp.mem, hself⟩
        · obtain ⟨q, hq, rfl⟩ := List.mem_map.mp hq'
          have hc₁ : Candidate e br₁ (selectDesignatedPort e br₁ q) := hc.of_bridgeId rfl
          have hq₁ := hc₁.of_select
          rw [hq₁] at hc₁ ⊢
          exact hp.least q hq (hc₁.of_bridgeId rfl)
      exact stpRootSelection_of_best h₁.select hbest
  · let br₁ : StpInstance ℤ :=
      { br with rootPort := 0, designatedRoot := br.bridgeId, rootPathCost := 0 }
    have hsel : stpRootSelection e br = some br₁ := stpRootSelection_of_none h hnone
    have h₁ : br₁.Numbered := ⟨h.fits, h.numbers, h.ids⟩
    refine ⟨stpDesignatedPortSelection e br₁, ?_, stpConfigurationUpdate_again ?_⟩
    · rw [stpConfigurationUpdate, hsel, Option.map_some]
    · refine stpRootSelection_of_none h₁.select fun q' hq' hc ↦ ?_
      obtain ⟨q, hq, rfl⟩ := List.mem_map.mp hq'
      have hc₁ : Candidate e br₁ (selectDesignatedPort e br₁ q) := hc.of_bridgeId rfl
      rw [hc₁.of_select] at hc₁
      exact hnone q hq (hc₁.of_bridgeId rfl)

theorem configuration_update_idempotent_three_ports :
    ∃ br', stpConfigurationUpdate .little (threePorts ℤ) = some br' ∧
      stpConfigurationUpdate .little br' = some br' :=
  configuration_update_idempotent .little ⟨by decide, by decide, by decide⟩ (by decide)

end Idempotence

end Layer3Switch.Stp
