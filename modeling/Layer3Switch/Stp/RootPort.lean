import Layer3Switch.Stp.RoundTrip
import Layer3Switch.Stp.Simulation

namespace Layer3Switch.Stp

open Lib Lib.Bytes
open Timers (U32 TimerMgr initTimerMgr)

variable {κ τ Φ : Type} {H : Host τ} {W : Wire κ Φ} {w w' : World κ τ Φ} {br br' : StpInstance κ}

theorem stpGetPort_of_mem (hnodup : br.numbers.Nodup) {q : StpPortEntry κ} (hq : q ∈ br.portList)
    (hin : InTable q.portNo) : stpGetPort br (q.portNo.setWidth 16) = some q := by
  obtain ⟨p, hp⟩ : ∃ p, stpGetPort br (q.portNo.setWidth 16) = some p := by
    apply Option.isSome_iff_exists.mp
    apply List.find?_isSome.mpr
    exact ⟨q, hq, by rw [hin.setWidth, beq_self_eq_true]⟩
  obtain ⟨hmem, hno⟩ := stpGetPort_spec hp
  rw [hin.setWidth] at hno
  rw [hp, List.inj_on_of_nodup_map hnodup hmem hq hno]

theorem InTable.ne_zero {n : U32} (h : InTable n) : n ≠ 0 := by
  rintro rfl
  exact h.setWidth_ne_zero rfl

theorem Move.Valid.tree {m : Move κ} (h : m.Valid br) : m.Valid br.tree := by
  cases m with
  | enable p =>
    intro q' hq'
    rw [tree_getElem?, Option.map_eq_some_iff] at hq'
    obtain ⟨q, hq, rfl⟩ := hq'
    exact h q hq
  | removeHead =>
    intro q' hq'
    rw [tree_getElem?, Option.map_eq_some_iff] at hq'
    obtain ⟨q, hq, rfl⟩ := hq'
    exact h q hq
  | elect _ | clearOwn _ | setPortPriority _ _ | advance _ | times _ | setEnabled _ | create _ =>
    exact h

section Moves

def Move.elects : Move κ → Bool
  | .elect _ => true
  | _ => false

theorem badges_modify {p : ℕ} {f : StpPortEntry κ → StpPortEntry κ}
    (hf : ∀ q, (f q).badge = q.badge) :
    (br.modifyPort p f).portList.map (·.badge) = br.portList.map (·.badge) := by
  cases hq : br.portList[p]? with
  | none =>
    rw [StpInstance.modifyPort, List.modify_eq_self (List.getElem?_eq_none_iff.mp hq)]
  | some q => exact badges_modifyPort hq (hf q)

theorem badges_selectStates :
    (selectStates br).portList.map (·.badge) = br.portList.map (·.badge) := by
  rw [selectStates, List.map_map]
  exact List.map_congr_left fun q _ ↦ selectState_badge br q

theorem badges_rerank (p : ℕ) (newprio : U8) :
    (rerank p newprio br).portList.map (·.badge) = br.portList.map (·.badge) := by
  have hrename : (br.modifyPort p (renamePort newprio br)).portList.map (·.badge) =
      br.portList.map (·.badge) := badges_modify fun _ ↦ rfl
  simp only [rerank]
  split
  · exact hrename
  · split
    · rw [badges_selectStates]
      refine Eq.trans (badges_modify ?_) hrename
      exact fun _ ↦ rfl
    · exact hrename

theorem advance_eq_disabled (s : PortState) : s.advance = .disabled ↔ s = .disabled := by
  cases s <;> decide

variable [Add κ] [LT κ] [DecidableLT κ] [OfNat κ 0] {e : Endian} {m : Move κ}

theorem Move.root_kept (hm : m.elects = false) (h : m.apply e br = some br') :
    br'.rootPort = br.rootPort ∧ br'.bridgeId = br.bridgeId ∧
      br'.designatedRoot = br.designatedRoot := by
  cases m with
  | elect edit => cases hm
  | setPortPriority p newprio =>
    obtain rfl := Option.some.inj h
    simp only [rerank]
    split
    · exact ⟨rfl, rfl, rfl⟩
    · split <;> exact ⟨rfl, rfl, rfl⟩
  | clearOwn _ | enable _ | advance _ | times _ | setEnabled _ | create _ | removeHead =>
    obtain rfl := Option.some.inj h
    exact ⟨rfl, rfl, rfl⟩

theorem Move.isRoot_kept (hm : m.elects = false) (h : m.apply e br = some br') :
    stpIsRootBridge br' = stpIsRootBridge br := by
  obtain ⟨-, hid, hroot⟩ := Move.root_kept hm h
  rw [stpIsRootBridge, hid, hroot, stpIsRootBridge]

omit [Add κ] [LT κ] [DecidableLT κ] [OfNat κ 0] in
theorem RootFound.edit {edit : Edit κ} (hw : RootFound br) :
    ∀ q ∈ (edit.apply br).portList, q.state ≠ .disabled → InTable q.portNo := by
  intro q' hq' hlive
  obtain ⟨q, hq, hno, hstate⟩ := Edit.entry hq'
  rw [hno]
  exact hw.live q hq fun hdis ↦ hlive (hstate hdis)

theorem RootFound.reelect {edit : Edit κ} (hw : RootFound br)
    (h : reelect e (edit.apply br) = some br') : RootFound br' := by
  obtain ⟨br₂, h₂, rfl⟩ := Option.map_eq_some_iff.mp h
  exact (stpConfigurationUpdate_rootFound h₂ hw.edit).of_badges badges_selectStates rfl rfl

theorem RootFound.apply (hw : RootFound br) (hv : m.Valid br) (h : m.apply e br = some br') :
    RootFound br' := by
  -- all moves but elections leave the root alone; most of them also the badges
  have hbadges : m.elects = false →
      br'.portList.map (·.badge) = br.portList.map (·.badge) → RootFound br' :=
    fun hm hports ↦ hw.of_badges hports (Move.root_kept hm h).1 (Move.isRoot_kept hm h)
  cases m with
  | elect edit => exact hw.reelect h
  | clearOwn p =>
    obtain rfl := Option.some.inj h
    exact hbadges rfl (badges_modify fun _ ↦ rfl)
  | enable p =>
    obtain rfl := Option.some.inj h
    exact (hw.enable hv).of_badges badges_selectStates rfl rfl
  | setPortPriority p newprio =>
    obtain rfl := Option.some.inj h
    exact hbadges rfl (badges_rerank p newprio)
  | advance p =>
    obtain rfl := Option.some.inj h
    refine hbadges rfl (badges_modify fun q ↦ ?_)
    simp only [StpPortEntry.badge, beq_eq_beq.mpr (advance_eq_disabled q.state)]
  | times t =>
    obtain rfl := Option.some.inj h
    exact hbadges rfl rfl
  | setEnabled state =>
    obtain rfl := Option.some.inj h
    exact hbadges rfl rfl
  | create q =>
    obtain rfl := Option.some.inj h
    constructor
    · intro q' hq' hlive
      obtain hq' | hq' := List.mem_append.mp hq'
      · exact hw.live q' hq' hlive
      · rw [List.mem_singleton.mp hq'] at hlive
        exact absurd hv.1 hlive
    · intro hr
      obtain ⟨q', hq', hfound⟩ := hw.root hr
      exact ⟨q', List.mem_append_left _ hq', hfound⟩
  | removeHead =>
    obtain rfl := Option.some.inj h
    exact hw.tail hv

def Move.numbers (br : StpInstance κ) : Move κ → List U32
  | .create q => br.numbers ++ [q.portNo]
  | .removeHead => br.numbers.tail
  | _ => br.numbers

omit [Add κ] [LT κ] [DecidableLT κ] [OfNat κ 0] in
theorem numbers_of_badges (h : br'.portList.map (·.badge) = br.portList.map (·.badge)) :
    br'.numbers = br.numbers := by
  have hnumbers := congrArg (List.map Prod.fst) h
  simp only [List.map_map] at hnumbers
  exact hnumbers

omit [Add κ] [LT κ] [DecidableLT κ] [OfNat κ 0] in
theorem numbers_modifyPort {p : ℕ} {f : StpPortEntry κ → StpPortEntry κ}
    (hf : ∀ q, (f q).portNo = q.portNo) : (br.modifyPort p f).numbers = br.numbers := by
  apply List.ext_getElem?
  intro i
  simp only [StpInstance.numbers, StpInstance.modifyPort, List.getElem?_map, List.getElem?_modify]
  cases br.portList[i]? with
  | none => rfl
  | some q => by_cases hi : p = i <;> simp [hi, hf]

omit [Add κ] [LT κ] [DecidableLT κ] [OfNat κ 0] in
theorem Edit.numbers (edit : Edit κ) : (edit.apply br).numbers = br.numbers := by
  have hmap : ∀ f : StpPortEntry κ → StpPortEntry κ, (∀ q, (f q).portNo = q.portNo) →
      (br.portList.map f).map (·.portNo) = br.portList.map (·.portNo) := by
    intro f hf
    rw [List.map_map]
    exact List.map_congr_left fun q _ ↦ hf q
  cases edit with
  | record _ _ | expireAge _ | disable _ | setPathCost _ _ => exact numbers_modifyPort fun _ ↦ rfl
  | setBridgePriority newprio =>
    refine hmap _ fun q ↦ ?_
    unfold reprioritizePort
    split <;> rfl
  | changeBridgeId addr => exact hmap _ fun _ ↦ rfl

theorem reelect_numbers (h : reelect e br = some br') : br'.numbers = br.numbers := by
  obtain ⟨br₁, -, -, -, rfl⟩ := reelect_cases h
  simp only [StpInstance.numbers, selectStates, List.map_map]
  refine List.map_congr_left fun q _ ↦ ?_
  exact (selectDesignatedPort_kept e br₁ q).portNo

theorem Move.apply_numbers (h : m.apply e br = some br') : br'.numbers = m.numbers br := by
  cases m with
  | elect edit => exact (reelect_numbers h).trans edit.numbers
  | enable p =>
    obtain rfl := Option.some.inj h
    rw [numbers_of_badges badges_selectStates]
    exact numbers_modifyPort fun _ ↦ rfl
  | setPortPriority p newprio =>
    obtain rfl := Option.some.inj h
    exact numbers_of_badges (badges_rerank p newprio)
  | clearOwn p | advance p =>
    obtain rfl := Option.some.inj h
    exact numbers_modifyPort fun _ ↦ rfl
  | times _ | setEnabled _ =>
    obtain rfl := Option.some.inj h
    rfl
  | create q =>
    obtain rfl := Option.some.inj h
    exact List.map_append
  | removeHead =>
    obtain rfl := Option.some.inj h
    exact List.map_tail

end Moves

/-- The numbers are distinct, and the bridge has a root port, one of those in
use, unless it is the root. -/
structure Rooted (br : StpInstance κ) : Prop extends RootFound br where
  nodup : br.numbers.Nodup
  isRoot : stpIsRootBridge br ↔ br.rootPort = 0

theorem Rooted.of_tree_eq (h : Rooted br) (heq : br'.tree = br.tree) : Rooted br' where
  toRootFound := h.toRootFound.of_tree_eq heq
  nodup := by
    rw [numbers_of_badges (badges_of_tree_eq heq)]
    exact h.nodup
  isRoot := by
    have his := congrArg stpIsRootBridge heq
    have hroot := congrArg StpInstance.rootPort heq
    rw [stpIsRootBridge_tree, stpIsRootBridge_tree] at his
    exact his ▸ h.isRoot.trans (by rw [show br'.rootPort = br.rootPort from hroot])

section Rooted

variable [Add κ] [LT κ] [DecidableLT κ] [OfNat κ 0] {e : Endian} {m : Move κ}

theorem stpRootSelection_nodup (hnodup : br.numbers.Nodup)
    (hlive : ∀ q ∈ br.portList, q.state ≠ .disabled → InTable q.portNo)
    (h : stpRootSelection e br = some br') :
    br' = { br with rootPort := 0, designatedRoot := br.bridgeId, rootPathCost := 0 } ∨
    ∃ q ∈ br.portList, Candidate e br q ∧
      br' = { br with
        rootPort := q.portNo
        designatedRoot := q.designatedRoot
        rootPathCost := q.designatedCost + q.pathCost } := by
  obtain h | ⟨q, hq, hcand, -, p, hp, h⟩ := stpRootSelection_cases h
  · exact .inl h
  · have hin := hlive q hq hcand.state
    rw [stpGetPort_of_mem hnodup hq hin] at hp
    obtain rfl := Option.some.inj hp
    rw [hin.setWidth] at h
    exact .inr ⟨q, hq, hcand, h⟩

theorem reelect_isRoot (hnodup : br.numbers.Nodup)
    (hlive : ∀ q ∈ br.portList, q.state ≠ .disabled → InTable q.portNo)
    (h : reelect e br = some br') : stpIsRootBridge br' ↔ br'.rootPort = 0 := by
  obtain ⟨br₁, h₁, -, -, rfl⟩ := reelect_cases h
  obtain rfl | ⟨q, hq, hcand, rfl⟩ := stpRootSelection_nodup hnodup hlive h₁
  · simp [stpIsRootBridge, selectStates]
  · have hne : br.bridgeId ≠ q.designatedRoot := by
      intro heq
      have hlt := hcand.rank_lt
      rw [heq] at hlt
      exact lt_irrefl _ hlt
    have hno := (hlive q hq hcand.state).ne_zero
    exact iff_of_false (by simpa [stpIsRootBridge, selectStates] using hne) hno

theorem Rooted.apply (hw : Rooted br) (hv : m.Valid br)
    (hfresh : ∀ q, m = .create q → q.portNo ∉ br.numbers) (h : m.apply e br = some br') :
    Rooted br' where
  toRootFound := hw.toRootFound.apply hv h
  nodup := by
    rw [Move.apply_numbers h]
    cases m with
    | create q =>
      refine List.nodup_append.mpr ⟨hw.nodup, List.nodup_singleton _, ?_⟩
      rintro n hn _ hq rfl
      rw [List.mem_singleton.mp hq] at hn
      exact hfresh q rfl hn
    | removeHead => exact hw.nodup.sublist (List.tail_sublist _)
    | elect _ | clearOwn _ | enable _ | setPortPriority _ _ | advance _ | times _ | setEnabled _ =>
      exact hw.nodup
  isRoot := by
    cases hm : m.elects with
    | false =>
      obtain ⟨hroot, -, -⟩ := Move.root_kept hm h
      rw [Move.isRoot_kept hm h, hroot]
      exact hw.isRoot
    | true =>
      cases m with
      | elect edit =>
        have helect : reelect e (edit.apply br) = some br' := h
        refine reelect_isRoot ?_ ?_ helect
        · rw [Edit.numbers]
          exact hw.nodup
        · exact hw.toRootFound.edit
      | clearOwn _ | enable _ | setPortPriority _ _ | advance _ | times _ | setEnabled _
      | create _ | removeHead => cases hm

end Rooted

section Runs

variable [Add κ] [LT κ] [DecidableLT κ] [OfNat κ 0] {adm : World κ τ Φ → Move κ → Prop}

theorem Leads.invariant {I : StpInstance κ → Prop}
    (htree : ∀ {br br' : StpInstance κ}, br'.tree = br.tree → I br → I br')
    (hmove : ∀ {w m br'}, adm w m → m.Valid w.br.tree → I w.br.tree →
      m.apply H.endian w.br.tree = some br' → I br')
    (h : Leads H W adm w w') (hI : I w.br) : I w'.br := by
  induction h with
  | refl => exact hI
  | tail _ hstage ih =>
    cases hstage with
    | move m hadm hv hmoved =>
      exact htree tree_tree.symm (hmove hadm hv.tree (htree tree_tree ih) hmoved.apply)
    | talk hquiet => exact htree hquiet.tree ih
    | outside hbr _ =>
      rw [hbr]
      exact ih

variable [OfNat κ 20000]

theorem step_leads {a : Action κ τ Φ} (hw : RootFound w.br) (h : step H W w a = some w') :
    Leads H W (Admits W w a) w w' := by
  obtain ⟨r, hr, rfl⟩ := Option.map_eq_some_iff.mp h
  exact (act_safe hw a).2 r.1 r.2 hr

theorem RootFound.step {a : Action κ τ Φ} (hw : RootFound w.br) (h : step H W w a = some w') :
    RootFound w'.br := by
  refine (step_leads hw h).invariant (I := RootFound) ?_ ?_ hw
  · exact fun heq hI ↦ hI.of_tree_eq heq
  · exact fun _ hv hI hm ↦ hI.apply hv hm

def NewNumber (w : World κ τ Φ) : Action κ τ Φ → Prop
  | .createPort _ portNo => portNo ∉ w.br.numbers
  | _ => True

theorem Rooted.step {a : Action κ τ Φ} (hw : Rooted w.br) (hnew : NewNumber w a)
    (h : step H W w a = some w') : Rooted w'.br := by
  refine (step_leads hw.toRootFound h).invariant (I := Rooted) ?_ ?_ hw
  · exact fun heq hI ↦ hI.of_tree_eq heq
  · intro w₁ m br' hadm hv hI hm
    refine hI.apply hv ?_ hm
    rintro q rfl
    cases hadm with
    | create addr portNo q hno =>
      rw [hno]
      have hnumbers : w.br.tree.numbers = w.br.numbers := by
        simp only [StpInstance.numbers, StpInstance.tree, List.map_map]
        rfl
      rw [hnumbers]
      exact hnew

omit [Add κ] [LT κ] [DecidableLT κ] in
theorem newInstance_rooted (vlanId : U16) (addr : MacAddress) (portCdb : Vector PortT maxPorts)
    (env : τ) : Rooted (newInstance (κ := κ) (Φ := Φ) H vlanId addr [] portCdb env).br where
  live q hq := nomatch hq
  root hr := by simp [newInstance, stpInitStpInstance, stpIsRootBridge] at hr
  nodup := List.nodup_nil
  isRoot := by simp [newInstance, stpInitStpInstance, stpIsRootBridge]

/-- A bridge is the root exactly when it has no root port. A root port is one of its
ports and in use, so no action reads through it in vain: where no timer call breaks off,
every action runs to its end or has another excuse. -/
theorem root_port_reference_valid (H : Host τ) (W : Wire κ Φ) {vlanId : U16} {addr : MacAddress}
    {portCdb : Vector PortT maxPorts} {env : τ} {as : List (Action κ τ Φ)} {w : World κ τ Φ}
    (h : Run (step H W) NewNumber (newInstance H vlanId addr [] portCdb env) as w) :
    (stpIsRootBridge w.br ↔ w.br.rootPort = 0) ∧
      (w.br.rootPort ≠ 0 → ∃ q ∈ w.br.portList,
        stpGetPort w.br (w.br.rootPort.setWidth 16) = some q ∧ q.state ≠ .disabled) ∧
      ∀ a, Excuse W w a ∨
        (act H.total W a w).isSome ∧ (¬H.Faults → (act H W a w).isSome) := by
  have hw : Rooted w.br := by
    refine h.invariant (I := fun w ↦ Rooted w.br) ?_ (newInstance_rooted vlanId addr portCdb env)
    exact fun _ _ _ hI hnew hs ↦ hI.step hnew hs
  refine ⟨hw.isRoot, ?_, fun a ↦ ?_⟩
  rotate_left
  · by_cases hexcuse : Excuse W w a
    · exact .inl hexcuse
    · have hends : ∀ {H' : Host τ}, ¬H'.Faults → (act H' W a w).isSome := fun hH' ↦
        Option.isSome_iff_ne_none.mpr fun hnone ↦
          ((act_safe hw.toRootFound a).1 hnone).elim hH' hexcuse
      exact .inr ⟨hends H.total_not_faults, hends⟩
  intro hne
  have hr : stpIsRootBridge w.br = false := Bool.eq_false_iff.mpr (mt hw.isRoot.mp hne)
  obtain ⟨q, hq, hno, hlive⟩ := hw.root hr
  refine ⟨q, hq, ?_, hlive⟩
  rw [← hno]
  exact stpGetPort_of_mem hw.nodup hq (hw.live q hq hlive)

end Runs

instance (w : World κ τ Φ) (a : Action κ τ Φ) : Decidable (NewNumber w a) :=
  match a with
  | .createPort _ portNo => inferInstanceAs (Decidable (portNo ∉ w.br.numbers))
  | .event _ | .setPathCost _ _ | .setBridgePriority _ | .changeBridgeId _ | .setBridgeHelloTime _
  | .setBridgeForwardDelay _ | .setBridgeMaxAge _ | .setBridgeTimes _ _ _ =>
    inferInstanceAs (Decidable True)

def leafStart : World Int32 TimerMgr (List U8) :=
  newInstance relayHost 1 (macAddress 0 0 0 0 0 2) []
    (.replicate maxPorts ⟨.down, macAddress 0 0 0 0 0 2, none⟩) initTimerMgr

def leafActions : List (Action Int32 TimerMgr (List U8)) :=
  [.createPort (macAddress 0 0 0 0 0 2) 1, .createPort (macAddress 0 0 0 0 0 2) 2] ++
    relayEvents.map .event

theorem root_port_reference_valid_leaf :
    ∃ w, Run (step relayHost (frames .little)) NewNumber leafStart leafActions w ∧
      w.br.rootPort = 1 ∧ stpIsRootBridge w.br = false ∧
      ∃ q ∈ w.br.portList, stpGetPort w.br 1 = some q ∧ q.state ≠ .disabled := by
  have hcheck : ((exec (fun w a ↦ if NewNumber w a then step relayHost (frames .little) w a
      else none) leafStart leafActions).any fun w ↦ w.br.rootPort = 1) = true := by
    decide +kernel
  simp only [Option.any_eq_true, decide_eq_true_eq] at hcheck
  obtain ⟨w, hexec, hroot⟩ := hcheck
  have hrun := (run_of_exec hexec).guarded
  obtain ⟨hiff, hfound, -⟩ := root_port_reference_valid relayHost (frames .little) hrun
  have hne : w.br.rootPort ≠ 0 := by
    rw [hroot]
    decide
  have hport := hfound hne
  rw [hroot] at hport
  exact ⟨w, hrun, hroot, Bool.eq_false_iff.mpr (mt hiff.mp hne), hport⟩

end Layer3Switch.Stp
