import Layer3Switch.Stp.Minimum

namespace Layer3Switch.Stp

open Lib Lib.Bytes
open Timers (U32)

def stpMinPathCost : ℕ := 1
def stpMaxPathCost : ℕ := 200000000

def wireCost (x : Int32) : ℕ := x.toBitVec.toNat

def CliCost (x : Int32) : Prop := stpMinPathCost ≤ wireCost x ∧ wireCost x ≤ stpMaxPathCost

instance (x : Int32) : Decidable (CliCost x) := inferInstanceAs (Decidable (_ ∧ _))

section Command

variable {κ τ Φ : Type}

def stpGetPortInfo (br : StpInstance κ) (port : U32) : Option ℕ :=
  br.portList.findIdx? fun p ↦ p.portNo == port

def setSpanningBridgePort (portnum : U32) (valid : Bool) (set : ℕ → StpM κ τ Φ Unit) :
    StpM κ τ Φ Int := do
  let br ← bridge
  match stpGetPortInfo br portnum with
  | none => pure (-1)
  | some p =>
    if !valid then pure (-1)
    else do
      set p
      pure 0

variable (H : Host τ) (W : Wire Int32 Φ)

def setSpanningBridgePortPathCost (pathCost portnum : U32) : StpM Int32 τ Φ Int :=
  setSpanningBridgePort portnum
    (stpMinPathCost ≤ pathCost.toNat ∧ pathCost.toNat ≤ stpMaxPathCost)
    fun p ↦ stpSetPathCost H W p (Int32.ofBitVec pathCost)

end Command

def totalCost (p : StpPortEntry Int32) : ℕ := wireCost p.designatedCost + wireCost p.pathCost

section Arithmetic

variable {x y : Int32}

theorem toInt_eq_wireCost (x : Int32) :
    x.toInt = if wireCost x < 2 ^ 31 then (wireCost x : ℤ) else wireCost x - 2 ^ 32 := by
  have hcond := BitVec.toInt_eq_toNat_cond x.toBitVec
  rw [Int32.toInt_toBitVec] at hcond
  unfold wireCost
  split_ifs at hcond ⊢ <;> omega

theorem wireCost_lt (x : Int32) : wireCost x < 2 ^ 32 := x.toBitVec.isLt

theorem toInt_add_eq (hy : wireCost y ≤ stpMaxPathCost) :
    (x + y).toInt = if wireCost x + wireCost y < 2 ^ 31 then (wireCost x + wireCost y : ℤ)
      else wireCost x + wireCost y - 2 ^ 32 := by
  have hadd : wireCost (x + y) = (wireCost x + wireCost y) % 2 ^ 32 := by
    simp only [wireCost, Int32.toBitVec_add, BitVec.toNat_add]
  have hx := wireCost_lt x
  rw [toInt_eq_wireCost, hadd]
  unfold stpMaxPathCost at hy
  split_ifs <;> omega

theorem lt_add_iff (hy : CliCost y) : x < x + y ↔ x.toInt + y.toInt < 2 ^ 31 := by
  have hx := wireCost_lt x
  rw [Int32.lt_iff_toInt_lt, toInt_add_eq hy.2, toInt_eq_wireCost x, toInt_eq_wireCost y]
  obtain ⟨hmin, hmax⟩ := hy
  unfold stpMinPathCost at hmin
  unfold stpMaxPathCost at hmax
  split_ifs <;> omega

theorem lt_iff_of_wireCost_lt (h : wireCost y < wireCost x) :
    x < y ↔ ¬(wireCost x < 2 ^ 31 ∨ 2 ^ 31 ≤ wireCost y) := by
  have hx := wireCost_lt x
  rw [Int32.lt_iff_toInt_lt, toInt_eq_wireCost, toInt_eq_wireCost]
  split_ifs <;> omega

end Arithmetic

variable {e : Endian} {br : StpInstance Int32} {p q : StpPortEntry Int32}

def tieKey (e : Endian) (p : StpPortEntry Int32) : ℕ ×ₗ ℕ ×ₗ ℕ :=
  toLex (p.designatedBridge.rank e, toLex (p.designatedPort.toNat, p.portId.toNat))

def SumsFit (e : Endian) (p q : StpPortEntry Int32) : Prop :=
  totalCost p < 2 ^ 31 ∨ 2 ^ 31 ≤ totalCost q ∨ totalCost q + 2 ^ 32 < totalCost p ∨
    totalCost q + 2 ^ 32 = totalCost p ∧ ¬tieKey e p < tieKey e q

theorem not_betterRootPort_iff (hp : wireCost p.pathCost ≤ stpMaxPathCost)
    (hq : wireCost q.pathCost ≤ stpMaxPathCost) (hroot : p.designatedRoot = q.designatedRoot)
    (hlt : totalCost q < totalCost p) :
    betterRootPort e p q ≠ true ↔ SumsFit e p q := by
  have hkey : rootKey e p < rootKey e q ↔
      p.designatedCost + p.pathCost < q.designatedCost + q.pathCost ∨
        p.designatedCost + p.pathCost = q.designatedCost + q.pathCost ∧
          tieKey e p < tieKey e q := by
    rw [rootKey, rootKey, Prod.Lex.toLex_lt_toLex, Prod.Lex.toLex_lt_toLex]
    simp only [hroot, lt_irrefl, false_or, true_and]
    rfl
  have hdc := wireCost_lt p.designatedCost
  have hdc' := wireCost_lt q.designatedCost
  rw [Ne, betterRootPort_iff, hkey, Int32.lt_iff_toInt_lt, ← Int32.toInt_inj, toInt_add_eq hp,
    toInt_add_eq hq, SumsFit]
  unfold totalCost at hlt ⊢
  unfold stpMaxPathCost at hp hq
  by_cases htie : tieKey e p < tieKey e q
  · simp only [htie, and_true, not_true_eq_false, and_false, or_false]
    split_ifs <;> omega
  · simp only [htie, and_false, or_false, not_false_eq_true, and_true]
    split_ifs <;> omega

theorem supersedes_of_cost_lt {bpdu : StpBpdu Int32} (hroot : bpdu.rootId = p.designatedRoot)
    (hlt : wireCost p.designatedCost < wireCost bpdu.rootPathCost) :
    (stpSupersedesPortInfo e br p bpdu).1 = true ↔ bpdu.rootPathCost < p.designatedCost := by
  have heq : bpdu.rootId.memcmp e p.designatedRoot = .eq := BridgeId.memcmp_eq_eq.mpr hroot
  have hne : bpdu.rootPathCost ≠ p.designatedCost := by
    intro hcost
    rw [hcost] at hlt
    exact lt_irrefl _ hlt
  obtain hless | hmore := lt_or_gt_of_ne hne
  · simp [stpSupersedesPortInfo, heq, hless]
  · simp [stpSupersedesPortInfo, heq, hmore, hmore.not_gt]

/-- When the three uses of costs are right: which of two ports with the same root is
preferred, which BPDU supersedes what a port has, and the cost of the bridge. -/
theorem path_costs_ordered_iff (e : Endian) (h : br.Numbered)
    (hcost : ∀ p ∈ br.portList, CliCost p.pathCost) :
    (∀ p ∈ br.portList, ∀ q ∈ br.portList, Candidate e br p → Candidate e br q →
      p.designatedRoot = q.designatedRoot → totalCost q < totalCost p →
      (stpShouldBecomeRootPort e br p (q.portNo.setWidth 16) ≠ some true ↔ SumsFit e p q)) ∧
    (∀ p ∈ br.portList, ∀ bpdu : StpBpdu Int32, bpdu.rootId = p.designatedRoot →
      wireCost p.designatedCost < wireCost bpdu.rootPathCost →
      ((stpSupersedesPortInfo e br p bpdu).1 ≠ true ↔
        wireCost bpdu.rootPathCost < 2 ^ 31 ∨ 2 ^ 31 ≤ wireCost p.designatedCost)) ∧
    ∀ p, IsBest e br p → ∃ br', stpRootSelection e br = some br' ∧ br'.rootPort = p.portNo ∧
      (p.designatedCost < br'.rootPathCost ↔
        p.designatedCost.toInt + p.pathCost.toInt < 2 ^ 31) := by
  refine ⟨?_, ?_, ?_⟩
  · intro p hp q hq hpc hqc hroot hlt
    rw [stpShouldBecomeRootPort_eq h hpc hq hqc.state,
      ← not_betterRootPort_iff (hcost p hp).2 (hcost q hq).2 hroot hlt, Ne, Option.some.injEq]
  · intro p _ bpdu hroot hlt
    rw [Ne, supersedes_of_cost_lt hroot hlt, lt_iff_of_wireCost_lt hlt, not_not]
  · intro p hp
    exact ⟨_, stpRootSelection_of_best h hp, rfl, lt_add_iff (hcost p hp.mem)⟩

def costlyPorts : StpInstance Int32 :=
  sampleBridge [heardPort 1 1 ⟨32768, macAddress 0 0 0 0 0 1⟩ 5 1,
    heardPort 2 2 ⟨32768, macAddress 0 0 0 0 0 1⟩ (-2147483648) 1]

theorem path_costs_ordered_costly_ports :
    (∀ p ∈ costlyPorts.portList, ∀ q ∈ costlyPorts.portList, Candidate .big costlyPorts p →
      Candidate .big costlyPorts q → p.designatedRoot = q.designatedRoot →
      totalCost q < totalCost p →
      (stpShouldBecomeRootPort .big costlyPorts p (q.portNo.setWidth 16) ≠ some true ↔
        SumsFit .big p q)) ∧
    ∃ p ∈ costlyPorts.portList, ∃ q ∈ costlyPorts.portList, Candidate .big costlyPorts p ∧
      Candidate .big costlyPorts q ∧ p.designatedRoot = q.designatedRoot ∧
      totalCost q < totalCost p := by
  refine ⟨(path_costs_ordered_iff .big ⟨by decide, by decide, by decide⟩ (by decide)).1, ?_⟩
  exact ⟨heardPort 2 2 ⟨32768, macAddress 0 0 0 0 0 1⟩ (-2147483648) 1, by decide,
    heardPort 1 1 ⟨32768, macAddress 0 0 0 0 0 1⟩ 5 1, by decide, by decide, by decide, by decide,
    by decide⟩

/-- The port at a cost of 2147483649 becomes the root port before the one at a cost
of 6. A BPDU with a cost of 2147483648 supersedes a cost of 5. A root port with the
cost 2147483647 gives the bridge a negative cost. -/
theorem large_costs_come_first :
    (∃ br', stpRootSelection .big costlyPorts = some br' ∧ br'.rootPort = 2 ∧
      totalCost (heardPort 2 2 ⟨32768, macAddress 0 0 0 0 0 1⟩ (-2147483648) 1) = 2147483649 ∧
      totalCost (heardPort 1 1 ⟨32768, macAddress 0 0 0 0 0 1⟩ 5 1) = 6) ∧
    (stpSupersedesPortInfo .big costlyPorts
      (heardPort 1 1 ⟨32768, macAddress 0 0 0 0 0 1⟩ 5 1)
      ⟨0, ⟨32768, macAddress 0 0 0 0 0 1⟩, -2147483648,
        ⟨32768, macAddress 0 0 0 0 0 7⟩, 1, 0, 20, 2,
        15⟩).1 = true ∧
    ∃ br', stpRootSelection .big
        (sampleBridge [heardPort 1 1 ⟨32768, macAddress 0 0 0 0 0 1⟩ (2147483647 : Int32) 1]) =
      some br' ∧ br'.rootPort = 1 ∧ br'.rootPathCost < 0 := by
  refine ⟨⟨_, rfl, by decide, by decide, by decide⟩, by decide, ⟨_, rfl, by decide, by decide⟩⟩

end Layer3Switch.Stp
