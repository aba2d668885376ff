import Layer3Switch.Lib.Keyed
import Layer3Switch.Stp.If
import Layer3Switch.Stp.Transmit

namespace Layer3Switch.Stp

open Lib Lib.Bytes
open Timers (U32)

variable {κ τ Φ : Type}

/-- The update keeps what a port knows of its LAN and does not enable it. -/
structure PortKept (p p' : StpPortEntry κ) : Prop where
  kept : p' = { p with
    state := p'.state
    topologyChangeAck := p'.topologyChangeAck
    configPending := p'.configPending
    isOwnBpdu := p'.isOwnBpdu }
  state : p'.state ≠ .disabled → p.state ≠ .disabled

/-- The update keeps the ports of the bridge and what it knows of the root. -/
structure BridgeKept (br br' : StpInstance κ) : Prop where
  kept : br' = { br with
    stpEnabled := br'.stpEnabled
    maxAge := br'.maxAge
    helloTime := br'.helloTime
    forwardDelay := br'.forwardDelay
    topologyChange := br'.topologyChange
    topologyChangeDetected := br'.topologyChangeDetected }

theorem BridgeKept.fields {br br' : StpInstance κ} (h : BridgeKept br br') :
    br'.portList = br.portList ∧ br'.designatedRoot = br.designatedRoot ∧
      br'.rootPathCost = br.rootPathCost ∧ br'.bridgeId = br.bridgeId := by
  rw [h.kept]
  exact ⟨rfl, rfl, rfl, rfl⟩

/-- The entry at a position later on: its number and its cost stay, and once
enabled it stays enabled. -/
structure EntryKept (p p' : StpPortEntry κ) : Prop where
  portNo : p'.portNo = p.portNo
  pathCost : p'.pathCost = p.pathCost
  enabled : p.enabled → p'.enabled

theorem selectDesignatedPort_kept [LT κ] [DecidableLT κ] (e : Endian) (br : StpInstance κ)
    (p : StpPortEntry κ) : EntryKept p (selectDesignatedPort e br p) := by
  unfold selectDesignatedPort
  split <;> exact ⟨rfl, rfl, id⟩

theorem PortKept.entryKept {p p' : StpPortEntry κ} (h : PortKept p p') : EntryKept p p' := by
  rw [h.kept]
  exact ⟨rfl, rfl, id⟩

theorem modifyPort_kept {w : World κ τ Φ} {p : ℕ} {f : StpPortEntry κ → StpPortEntry κ}
    {j : ℕ} {q' : StpPortEntry κ} (hj : (w.modifyPort p f).br.portList[j]? = some q')
    (hf : ∀ q, w.br.portList[p]? = some q → EntryKept q (f q)) :
    ∃ q, w.br.portList[j]? = some q ∧ EntryKept q q' := by
  simp only [World.modifyPort, List.getElem?_modify, Option.map_eq_map,
    Option.map_eq_some_iff] at hj
  obtain ⟨q, hq, rfl⟩ := hj
  refine ⟨q, hq, ?_⟩
  split
  · rename_i hpj
    exact hf q (hpj ▸ hq)
  · exact ⟨rfl, rfl, id⟩

def StpInstance.numbers (br : StpInstance κ) : List U32 := br.portList.map (·.portNo)

def StpPortEntry.fixed (p : StpPortEntry κ) :
    U32 × ℕ × List TimerRef := (p.portNo, p.self, p.timers)

def StpInstance.fixed (br : StpInstance κ) :
    U16 × List TimerRef × List (U32 × ℕ × List TimerRef) :=
  (br.vlanId, [br.helloTimer, br.tcnTimer, br.topologyChangeTimer],
    br.portList.map StpPortEntry.fixed)

def StpInstance.startable (br : StpInstance κ) : List TimerRef :=
  [br.helloTimer, br.tcnTimer, br.topologyChangeTimer] ++
    br.portList.map StpPortEntry.forwardDelayTimer

theorem startable_of_fixed {br br' : StpInstance κ} (h : br'.fixed = br.fixed) :
    br'.startable = br.startable := by
  have hports := congrArg (fun x ↦ x.2.2.map fun e ↦ e.2.2.getD 1 none) h
  have hbridge : [br'.helloTimer, br'.tcnTimer, br'.topologyChangeTimer] =
      [br.helloTimer, br.tcnTimer, br.topologyChangeTimer] := congrArg (fun x ↦ x.2.1) h
  simp only [StpInstance.fixed, List.map_map] at hports
  rw [StpInstance.startable, StpInstance.startable, hbridge]
  exact congrArg _ hports

theorem mem_timers_of_startable {br : StpInstance κ} {t : TimerRef} (h : t ∈ br.startable) :
    t ∈ br.timers := by
  simp only [StpInstance.startable, List.mem_append, List.mem_map] at h
  simp only [StpInstance.timers, List.mem_append, List.mem_flatMap, StpPortEntry.timers,
    List.mem_cons, List.not_mem_nil, or_false]
  obtain h | ⟨q, hq, rfl⟩ := h
  · exact .inl (by simpa using h)
  · exact .inr ⟨q, hq, .inr (.inl rfl)⟩

theorem mem_timers_of_port {br : StpInstance κ} {p : ℕ} {q : StpPortEntry κ} {t : TimerRef}
    (hq : br.portList[p]? = some q) (ht : t ∈ q.timers) : t ∈ br.timers :=
  List.mem_append_right _ (List.mem_flatMap.mpr ⟨q, List.mem_of_getElem? hq, ht⟩)

theorem hello_startable (br : StpInstance κ) : br.helloTimer ∈ br.startable := by
  simp [StpInstance.startable]

theorem tcn_startable (br : StpInstance κ) : br.tcnTimer ∈ br.startable := by
  simp [StpInstance.startable]

theorem topologyChange_startable (br : StpInstance κ) :
    br.topologyChangeTimer ∈ br.startable := by
  simp [StpInstance.startable]

theorem forwardDelay_startable {br : StpInstance κ} {p : ℕ} {q : StpPortEntry κ}
    (hq : br.portList[p]? = some q) : q.forwardDelayTimer ∈ br.startable :=
  List.mem_append_right _ (List.mem_map_of_mem (List.mem_of_getElem? hq))

theorem messageAge_mem_timers (q : StpPortEntry κ) : q.messageAgeTimer ∈ q.timers := by
  simp [StpPortEntry.timers]

theorem hold_mem_timers (q : StpPortEntry κ) : q.holdTimer ∈ q.timers := by
  simp [StpPortEntry.timers]

theorem modifyPort_fixed {w : World κ τ Φ} {p : ℕ} {f : StpPortEntry κ → StpPortEntry κ}
    (h : ∀ q, w.br.portList[p]? = some q → (f q).fixed = q.fixed) :
    (w.modifyPort p f).br.fixed = w.br.fixed := by
  rw [World.modifyPort, StpInstance.fixed, map_modify_of_eq h]
  rfl

def World.initPort (w : World κ τ Φ) (p : ℕ) (q : StpPortEntry κ) (t : PortT) : World κ τ Φ :=
  { w.modifyPort p (Stp.initPort w.br) with
    portCdb := w.portCdb.setIfInBounds (q.portNo - 1).toNat { t with pstpInfo := some q.self } }

theorem PortKept.fixed {p p' : StpPortEntry κ} (h : PortKept p p') : p'.fixed = p.fixed := by
  rw [h.kept]
  rfl

variable [Add κ] [LT κ] [DecidableLT κ] [OfNat κ 0]

/-- Everything the protocol does to its state, one assignment at a time.
`rcv portNo bpdu` tells that the BPDU has been received on the port. -/
inductive Change (H : Host τ) (W : Wire κ Φ) (rcv : U32 → StpBpdu κ → Prop) :
    World κ τ Φ → World κ τ Φ → Prop
  | env (w : World κ τ Φ) (env : τ) : TimerCall H w.br w.env env →
      Change H W rcv w { w with env := env }
  | elect (w : World κ τ Φ) (br : StpInstance κ) :
      stpConfigurationUpdate H.endian w.br = some br → Change H W rcv w { w with br := br }
  | designate (w : World κ τ Φ) (p : ℕ) :
      Change H W rcv w (w.modifyPort p (stpBecomeDesignatedPort w.br))
  | record (w : World κ τ Φ) (p : ℕ) (bpdu : StpBpdu κ) :
      (∀ q, w.br.portList[p]? = some q → rcv q.portNo bpdu) →
      Change H W rcv w (w.modifyPort p (recordConfig bpdu))
  | port (w : World κ τ Φ) (p : ℕ) (f : StpPortEntry κ → StpPortEntry κ) :
      (∀ q, w.br.portList[p]? = some q → PortKept q (f q)) → Change H W rcv w (w.modifyPort p f)
  | rename (w : World κ τ Φ) (p : ℕ) (newprio : U8) :
      Change H W rcv w (w.modifyPort p (renamePort newprio w.br))
  /-- A port is enabled after the entries before it that bear its number. -/
  | init (w : World κ τ Φ) (p : ℕ) (q : StpPortEntry κ) (t : PortT) : w.br.portList[p]? = some q →
      w.portCdb[(q.portNo - 1).toNat]? = some t →
      (∀ j < p, ∀ q', w.br.portList[j]? = some q' → q'.portNo = q.portNo → q'.enabled) →
      Change H W rcv w (w.initPort p q t)
  | bridge (w : World κ τ Φ) (f : StpInstance κ → StpInstance κ) : BridgeKept w.br (f w.br) →
      Change H W rcv w { w with br := f w.br }
  | sendConfig (w : World κ τ Φ) (q : StpPortEntry κ) (smac : MacAddress) (stack : U8) (age : U16) :
      q ∈ w.br.portList →
      Change H W rcv w (w.send q.portNo (W.config smac (configBpdu stack w.br q age)))
  | sendTcn (w : World κ τ Φ) (portNo : U32) (smac : MacAddress) :
      Change H W rcv w (w.send portNo (W.tcn smac))

theorem stpConfigurationUpdate_cases {e : Endian} {br br' : StpInstance κ}
    (h : stpConfigurationUpdate e br = some br') :
    ∃ br₁, stpRootSelection e br = some br₁ ∧ br₁.portList = br.portList ∧
      br₁.bridgeId = br.bridgeId ∧
      br' = { br₁ with portList := br.portList.map (selectDesignatedPort e br₁) } := by
  obtain ⟨br₁, h₁, rfl⟩ := Option.map_eq_some_iff.mp h
  refine ⟨br₁, h₁, ?_⟩
  obtain rfl | ⟨-, -, -, -, -, -, rfl⟩ := stpRootSelection_cases h₁ <;> exact ⟨rfl, rfl, rfl⟩

theorem Change.entries {H : Host τ} {W : Wire κ Φ} {rcv : U32 → StpBpdu κ → Prop}
    {w w' : World κ τ Φ} (h : Change H W rcv w w') {j : ℕ} {q' : StpPortEntry κ}
    (hj : w'.br.portList[j]? = some q') : ∃ q, w.br.portList[j]? = some q ∧ EntryKept q q' := by
  cases h with
  | env _ _ | sendConfig _ _ _ _ _ | sendTcn _ _ => exact ⟨q', hj, rfl, rfl, id⟩
  | elect br hbr =>
    obtain ⟨br₁, -, -, -, rfl⟩ := stpConfigurationUpdate_cases hbr
    rw [List.getElem?_map, Option.map_eq_some_iff] at hj
    obtain ⟨q, hq, rfl⟩ := hj
    exact ⟨q, hq, selectDesignatedPort_kept _ _ _⟩
  | designate p | record p _ _ | rename p _ =>
    exact modifyPort_kept hj fun _ _ ↦ ⟨rfl, rfl, id⟩
  | init p _ _ _ _ _ => exact modifyPort_kept hj fun _ _ ↦ ⟨rfl, rfl, fun _ ↦ rfl⟩
  | port p f hf => exact modifyPort_kept hj fun q hq ↦ (hf q hq).entryKept
  | bridge f hf =>
    rw [hf.kept] at hj
    exact ⟨q', hj, rfl, rfl, id⟩

theorem Change.operStatus {H : Host τ} {W : Wire κ Φ} {rcv : U32 → StpBpdu κ → Prop}
    {w w' : World κ τ Φ} (h : Change H W rcv w w') (portNo : U32) :
    w'.operStatus portNo = w.operStatus portNo := by
  cases h with
  | init p q t _ ht _ =>
    simp only [World.initPort, World.operStatus, Vector.getElem?_setIfInBounds]
    split_ifs with hn hlt
    · rw [← hn, ht]
      rfl
    · rw [Vector.getElem?_eq_none (not_lt.mp hlt)] at ht
      cases ht
    · rfl
  | _ => rfl

omit [Add κ] [OfNat κ 0] in
theorem selectDesignatedPort_fixed (e : Endian) (br : StpInstance κ) (p : StpPortEntry κ) :
    (selectDesignatedPort e br p).fixed = p.fixed := by
  unfold selectDesignatedPort
  split <;> rfl

theorem stpConfigurationUpdate_fixed {e : Endian} {br br' : StpInstance κ}
    (h : stpConfigurationUpdate e br = some br') : br'.fixed = br.fixed := by
  obtain ⟨br₁, h₁, rfl⟩ := Option.map_eq_some_iff.mp h
  have hselect : (stpDesignatedPortSelection e br₁).fixed = br₁.fixed := by
    rw [stpDesignatedPortSelection, StpInstance.fixed, StpInstance.fixed, List.map_map]
    congr 2
    exact List.map_congr_left fun p _ ↦ selectDesignatedPort_fixed e br₁ p
  rw [hselect]
  obtain rfl | ⟨-, -, -, -, -, -, rfl⟩ := stpRootSelection_cases h₁ <;> rfl

theorem Change.fixed {H : Host τ} {W : Wire κ Φ} {rcv : U32 → StpBpdu κ → Prop}
    {w w' : World κ τ Φ} (h : Change H W rcv w w') : w'.br.fixed = w.br.fixed := by
  cases h with
  | env _ _ | sendConfig _ _ _ _ _ | sendTcn _ _ => rfl
  | elect br hbr => exact stpConfigurationUpdate_fixed hbr
  | designate p | record p _ _ | rename p _ => exact modifyPort_fixed fun _ _ ↦ rfl
  | init p _ _ _ _ _ => exact modifyPort_fixed fun _ _ ↦ rfl
  | port p f hf => exact modifyPort_fixed fun q hq ↦ (hf q hq).fixed
  | bridge f hf =>
    rw [hf.kept]
    rfl

def Closed (H : Host τ) (W : Wire κ Φ) (rcv : U32 → StpBpdu κ → Prop) (I : World κ τ Φ → Prop) :
    Prop :=
  ∀ ⦃w w'⦄, Change H W rcv w w' → I w → I w'

def ClosedInPlace (H : Host τ) (W : Wire κ Φ) (rcv : U32 → StpBpdu κ → Prop)
    (I : World κ τ Φ → Prop) : Prop :=
  ∀ ⦃w w'⦄, Change H W rcv w w' → w'.portCdb = w.portCdb → I w → I w'

theorem Closed.inPlace {H : Host τ} {W : Wire κ Φ} {rcv : U32 → StpBpdu κ → Prop}
    {I : World κ τ Φ → Prop} (hI : Closed H W rcv I) : ClosedInPlace H W rcv I :=
  fun _ _ hc _ h ↦ hI hc h

theorem closed_fixed_eq {H : Host τ} {W : Wire κ Φ} {rcv : U32 → StpBpdu κ → Prop}
    (x : U16 × List TimerRef × List (U32 × ℕ × List TimerRef)) :
    Closed H W rcv fun w ↦ w.br.fixed = x :=
  fun _ _ hc h ↦ hc.fixed.trans h

theorem closed_portNo {H : Host τ} {W : Wire κ Φ} {rcv : U32 → StpBpdu κ → Prop} (p : ℕ)
    (P : U32 → Prop) :
    Closed H W rcv fun w ↦ ∀ q, w.br.portList[p]? = some q → P q.portNo := by
  intro w w' hc h q' hq'
  obtain ⟨q, hq, hkept⟩ := hc.entries hq'
  rw [hkept.portNo]
  exact h q hq

end Layer3Switch.Stp
