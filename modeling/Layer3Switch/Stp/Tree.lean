import Layer3Switch.Stp.If
import Layer3Switch.Stp.Times

namespace Layer3Switch.Stp

open Lib Lib.Bytes
open Timers (U32)

section Definitions

variable {κ : Type}

def StpPortEntry.tree (p : StpPortEntry κ) : StpPortEntry κ :=
  { p with topologyChangeAck := false, configPending := false }

def StpInstance.tree (br : StpInstance κ) : StpInstance κ :=
  { br with
    portList := br.portList.map StpPortEntry.tree
    topologyChange := false
    topologyChangeDetected := false }

def StpInstance.modifyPort (br : StpInstance κ) (p : ℕ) (f : StpPortEntry κ → StpPortEntry κ) :
    StpInstance κ :=
  { br with portList := br.portList.modify p f }

def HasRole (br : StpInstance κ) (p : StpPortEntry κ) : Prop :=
  p.portNo = br.rootPort ∨ p.isOwnBpdu = false ∧ stpIsDesignatedPort br p

instance (br : StpInstance κ) (p : StpPortEntry κ) : Decidable (HasRole br p) :=
  inferInstanceAs (Decidable (_ ∨ _))

def startState (br : StpInstance κ) : PortState :=
  if br.forwardDelay = 0 then .forwarding else if br.stpEnabled then .listening else .learning

def selectedState (br : StpInstance κ) (p : StpPortEntry κ) : PortState :=
  if p.state = .disabled then .disabled
  else if HasRole br p then if p.state = .blocking then startState br else p.state
  else .blocking

def selectState (br : StpInstance κ) (p : StpPortEntry κ) : StpPortEntry κ :=
  { p with state := selectedState br p }

def selectStates (br : StpInstance κ) : StpInstance κ :=
  { br with portList := br.portList.map (selectState br) }

def disablePort (br : StpInstance κ) (p : StpPortEntry κ) : StpPortEntry κ :=
  { stpBecomeDesignatedPort br p with
    state := .disabled, topologyChangeAck := false, configPending := false, isOwnBpdu := false }

def PortState.advance : PortState → PortState
  | .listening => .learning
  | .learning => .forwarding
  | s => s

def reprioritizePort (newprio : U16) (br : StpInstance κ) (p : StpPortEntry κ) : StpPortEntry κ :=
  if p.state ≠ .disabled ∧ stpIsDesignatedPort br p then
    { p with designatedBridge := { p.designatedBridge with prio := newprio } }
  else p

def readdressPort (addr : MacAddress) (br : StpInstance κ) (p : StpPortEntry κ) : StpPortEntry κ :=
  { p with
    designatedBridge := replaceAddr br.bridgeId.addr addr p.designatedBridge
    designatedRoot := replaceAddr br.bridgeId.addr addr p.designatedRoot }

def rerank (p : ℕ) (newprio : U8) (br : StpInstance κ) : StpInstance κ :=
  let br' := br.modifyPort p (renamePort newprio br)
  match br'.portList[p]? with
  | none => br'
  | some q =>
    if br.bridgeId = q.designatedBridge ∧ q.portId < q.designatedPort then
      selectStates (br'.modifyPort p (stpBecomeDesignatedPort br'))
    else br'

inductive Edit (κ : Type)
  | record (p : ℕ) (bpdu : StpBpdu κ)
  | expireAge (p : ℕ)
  | disable (p : ℕ)
  | setPathCost (p : ℕ) (pathCost : κ)
  | setBridgePriority (newprio : U16)
  | changeBridgeId (addr : MacAddress)

def Edit.apply (br : StpInstance κ) : Edit κ → StpInstance κ
  | .record p bpdu => br.modifyPort p fun q ↦ recordConfig bpdu { q with isOwnBpdu := false }
  | .expireAge p =>
    br.modifyPort p fun q ↦ stpBecomeDesignatedPort br { q with isOwnBpdu := false }
  | .disable p => br.modifyPort p (disablePort br)
  | .setPathCost p pathCost => br.modifyPort p ({ · with pathCost := pathCost })
  | .setBridgePriority newprio => { br with
      portList := br.portList.map (reprioritizePort newprio br)
      bridgeId := { br.bridgeId with prio := newprio } }
  | .changeBridgeId addr => { br with
      portList := br.portList.map (readdressPort addr br)
      bridgeId := { br.bridgeId with addr := addr } }

/-- What can happen to the tree, up to the next point at which all ports have
been told their states. -/
inductive Move (κ : Type)
  | elect (edit : Edit κ)
  | clearOwn (p : ℕ)
  | enable (p : ℕ)
  | setPortPriority (p : ℕ) (newprio : U8)
  | advance (p : ℕ)
  | times (t : BridgeTimes)
  | setEnabled (state : Bool)
  | create (q : StpPortEntry κ)
  | removeHead

variable [Add κ] [LT κ] [DecidableLT κ] [OfNat κ 0]

def reelect (e : Endian) (br : StpInstance κ) : Option (StpInstance κ) :=
  (stpConfigurationUpdate e br).map selectStates

def Move.apply (e : Endian) (br : StpInstance κ) : Move κ → Option (StpInstance κ)
  | .elect edit => reelect e (edit.apply br)
  | .clearOwn p => some (br.modifyPort p ({ · with isOwnBpdu := false }))
  | .enable p => some (selectStates (br.modifyPort p (initPort br)))
  | .setPortPriority p newprio => some (rerank p newprio br)
  | .advance p => some (br.modifyPort p fun q ↦ { q with state := q.state.advance })
  | .times t => some (br.setTimes t)
  | .setEnabled state => some { br with stpEnabled := state }
  | .create q => some { br with portList := br.portList ++ [q] }
  | .removeHead => some { br with portList := br.portList.tail }

end Definitions

section Erasure

variable {κ : Type} {br br' : StpInstance κ} {p : StpPortEntry κ}

theorem tree_modifyPort {f g : StpPortEntry κ → StpPortEntry κ} (h : ∀ q, (f q).tree = g q.tree)
    (i : ℕ) : (br.modifyPort i f).tree = br.tree.modifyPort i g := by
  have hports : (br.portList.modify i f).map StpPortEntry.tree =
      (br.portList.map StpPortEntry.tree).modify i g := by
    apply List.ext_getElem?
    intro j
    simp only [List.getElem?_map, List.getElem?_modify]
    cases br.portList[j]? with
    | none => rfl
    | some q =>
      by_cases hij : i = j
      · simp [hij, h]
      · simp [hij]
  simp only [StpInstance.tree, StpInstance.modifyPort, hports]

theorem tree_getElem? (br : StpInstance κ) (i : ℕ) :
    br.tree.portList[i]? = br.portList[i]?.map StpPortEntry.tree :=
  List.getElem?_map

theorem tree_tree : br.tree.tree = br.tree := by
  simp only [StpInstance.tree, List.map_map]
  rfl

theorem stpGetPort_tree (n : U16) :
    stpGetPort br.tree n = (stpGetPort br n).map StpPortEntry.tree :=
  List.find?_map

theorem stpIsRootBridge_tree : stpIsRootBridge br.tree = stpIsRootBridge br := rfl

theorem stpIsDesignatedPort_tree :
    stpIsDesignatedPort br.tree p.tree = stpIsDesignatedPort br p := rfl

theorem map_tree {f g : StpPortEntry κ → StpPortEntry κ} (h : ∀ q, (f q).tree = g q.tree)
    (l : List (StpPortEntry κ)) :
    (l.map f).map StpPortEntry.tree = (l.map StpPortEntry.tree).map g := by
  rw [List.map_map, List.map_map]
  exact List.map_congr_left fun q _ ↦ h q

theorem tree_edit (edit : Edit κ) : (edit.apply br).tree = edit.apply br.tree := by
  cases edit with
  | record i bpdu =>
    exact tree_modifyPort (g := fun q ↦ recordConfig bpdu { q with isOwnBpdu := false })
      (fun _ ↦ rfl) i
  | expireAge i =>
    exact tree_modifyPort (g := fun q ↦ stpBecomeDesignatedPort br { q with isOwnBpdu := false })
      (fun _ ↦ rfl) i
  | disable i => exact tree_modifyPort (g := disablePort br) (fun _ ↦ rfl) i
  | setPathCost i c => exact tree_modifyPort (g := ({ · with pathCost := c })) (fun _ ↦ rfl) i
  | setBridgePriority newprio =>
    have hports := map_tree (f := reprioritizePort newprio br)
      (g := reprioritizePort newprio br.tree)
      (fun q ↦ apply_ite StpPortEntry.tree _ _ _) br.portList
    simp only [Edit.apply, StpInstance.tree, hports]
  | changeBridgeId addr =>
    have hports := map_tree (f := readdressPort addr br) (g := readdressPort addr br.tree)
      (fun q ↦ rfl) br.portList
    simp only [Edit.apply, StpInstance.tree, hports]

variable [Add κ] [LT κ] [DecidableLT κ] [OfNat κ 0] {e : Endian}

omit [OfNat κ 0] in
theorem considerRootPort_tree (n : U16) :
    considerRootPort e br.tree n p.tree = considerRootPort e br n p := by
  simp only [considerRootPort, stpShouldBecomeRootPort, stpGetPort_tree, Option.map_map]
  rfl

theorem stpRootSelection_tree :
    stpRootSelection e br.tree = (stpRootSelection e br).map StpInstance.tree := by
  have hfold : br.tree.portList.foldlM (considerRootPort e br.tree) 0 =
      br.portList.foldlM (considerRootPort e br) 0 := by
    simp only [StpInstance.tree, List.foldlM_map]
    congr 1
    funext n p
    exact considerRootPort_tree n
  simp only [stpRootSelection, hfold, stpGetPort_tree]
  cases br.portList.foldlM (considerRootPort e br) 0 with
  | none => rfl
  | some n =>
    by_cases hn : n = 0
    · simp only [hn, if_true]
      rfl
    · simp only [hn, if_false]
      cases stpGetPort br n <;> rfl

theorem stpConfigurationUpdate_tree :
    stpConfigurationUpdate e br.tree = (stpConfigurationUpdate e br).map StpInstance.tree := by
  rw [stpConfigurationUpdate, stpRootSelection_tree, stpConfigurationUpdate, Option.map_map,
    Option.map_map]
  congr 1
  funext br
  have hports := map_tree (f := selectDesignatedPort e br) (g := selectDesignatedPort e br.tree)
    (fun q ↦ apply_ite StpPortEntry.tree _ _ _) br.portList
  simp only [Function.comp, stpDesignatedPortSelection, StpInstance.tree, hports]

end Erasure

end Layer3Switch.Stp
