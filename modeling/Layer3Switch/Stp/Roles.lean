import Layer3Switch.Stp.RootApart

namespace Layer3Switch.Stp

open Lib Lib.Bytes
open Timers (U32 TimerMgr)

variable {κ τ Φ : Type} {H : Host τ} {W : Wire κ Φ} {w w' : World κ τ Φ} {br br' : StpInstance κ}

def StateMatches (br : StpInstance κ) (q : StpPortEntry κ) : Prop :=
  q.state ≠ .disabled →
    (q.state = .blocking ↔ q.portNo ≠ br.rootPort ∧ stpIsDesignatedPort br q = false)

structure Matches (br : StpInstance κ) : Prop where
  own : ∀ q ∈ br.portList, q.isOwnBpdu = false
  states : ∀ q ∈ br.portList, StateMatches br q

section Entries

theorem StateMatches.of_root {q : StpPortEntry κ} (h : StateMatches br q)
    (hroot : br'.rootPort = br.rootPort) (hid : br'.bridgeId = br.bridgeId) :
    StateMatches br' q := by
  simpa only [StateMatches, stpIsDesignatedPort, hid, hroot] using h

theorem startState_ne_blocking (br : StpInstance κ) : startState br ≠ .blocking := by
  unfold startState
  split_ifs <;> exact PortState.noConfusion

theorem hasRole_iff {q : StpPortEntry κ} (hown : q.isOwnBpdu = false) :
    ¬HasRole br q ↔ q.portNo ≠ br.rootPort ∧ stpIsDesignatedPort br q = false := by
  rw [HasRole, not_or, Bool.eq_false_iff]
  simp [hown]

theorem matches_selectStates (hown : ∀ q ∈ br.portList, q.isOwnBpdu = false) :
    Matches (selectStates br) := by
  constructor
  · intro q' hq'
    obtain ⟨q, hq, rfl⟩ := List.mem_map.mp hq'
    exact hown q hq
  · intro q' hq' hlive
    obtain ⟨q, hq, rfl⟩ := List.mem_map.mp hq'
    refine Iff.trans ?_ (hasRole_iff (hown q hq))
    change selectedState br q = .blocking ↔ _
    change selectedState br q ≠ .disabled at hlive
    unfold selectedState at hlive ⊢
    split_ifs at hlive ⊢ with hdis hrole hb
    · exact absurd rfl hlive
    · exact iff_of_false (startState_ne_blocking br) (not_not.mpr hrole)
    · exact iff_of_false hb (not_not.mpr hrole)
    · exact iff_of_true rfl hrole

theorem Edit.own {edit : Edit κ} (h : ∀ q ∈ br.portList, q.isOwnBpdu = false) :
    ∀ q ∈ (edit.apply br).portList, q.isOwnBpdu = false := by
  intro q' hq'
  cases edit with
  | record p bpdu | expireAge p | disable p =>
    obtain ⟨q, hq, rfl | ⟨-, rfl⟩⟩ := mem_modifyPort hq'
    · exact h q' hq
    · rfl
  | setPathCost p pathCost =>
    obtain ⟨q, hq, rfl | ⟨-, rfl⟩⟩ := mem_modifyPort hq'
    · exact h q' hq
    · exact h q hq
  | setBridgePriority newprio =>
    obtain ⟨q, hq, rfl⟩ := List.mem_map.mp hq'
    unfold reprioritizePort
    split <;> exact h q hq
  | changeBridgeId addr =>
    obtain ⟨q, hq, rfl⟩ := List.mem_map.mp hq'
    exact h q hq

theorem Matches.of_tree_eq (h : Matches br) (heq : br'.tree = br.tree) : Matches br' := by
  have hentry : ∀ q' ∈ br'.portList, q'.isOwnBpdu = false ∧ StateMatches br' q' := by
    intro q' hq'
    obtain ⟨i, hi⟩ := List.mem_iff_getElem?.mp hq'
    obtain ⟨q, hq, hqq'⟩ := entry_of_tree_eq heq hi
    have hmem := List.mem_of_getElem? hq
    have hroot := congrArg StpInstance.rootPort heq
    have hid := congrArg StpInstance.bridgeId heq
    have htree : q.tree.isOwnBpdu = false ∧ StateMatches br' q.tree :=
      ⟨h.own q hmem, (h.states q hmem).of_root hroot hid⟩
    rw [hqq'] at htree
    exact htree
  exact ⟨fun q hq ↦ (hentry q hq).1, fun q hq ↦ (hentry q hq).2⟩

def Collides (newprio : U8) (br : StpInstance κ) (q : StpPortEntry κ) : Prop :=
  q.state = .blocking ∧ q.designatedBridge = br.bridgeId ∧
    q.designatedPort = stpMakePortId newprio (q.portNo.setWidth 16)

theorem StateMatches.renamePort {q : StpPortEntry κ} {newprio : U8} (h : StateMatches br q)
    (hc : ¬Collides newprio br q) : StateMatches br (renamePort newprio br q) := by
  intro hlive
  refine (h hlive).trans (and_congr_right fun hroot ↦ ?_)
  rw [stpIsDesignatedPort_renamePort, Bool.or_eq_false_iff]
  refine ⟨fun hd ↦ ⟨hd, ?_⟩, And.left⟩
  rw [Bool.and_eq_false_imp]
  intro hbridge
  have hblocked : q.state = .blocking := (h hlive).mpr ⟨hroot, hd⟩
  exact beq_eq_false_iff_ne.mpr fun hport ↦ hc ⟨hblocked, eq_of_beq hbridge, hport⟩

theorem own_modifyPort (h : ∀ q ∈ br.portList, q.isOwnBpdu = false) {p : ℕ}
    {f : StpPortEntry κ → StpPortEntry κ}
    (hf : ∀ q, q.isOwnBpdu = false → (f q).isOwnBpdu = false) :
    ∀ q ∈ (br.modifyPort p f).portList, q.isOwnBpdu = false := by
  intro q' hq'
  obtain ⟨q, hq, rfl | ⟨-, rfl⟩⟩ := mem_modifyPort hq'
  · exact h q' hq
  · exact hf q (h q hq)

theorem own_rerank (h : ∀ q ∈ br.portList, q.isOwnBpdu = false) (p : ℕ) (newprio : U8) :
    ∀ q ∈ (rerank p newprio br).portList, q.isOwnBpdu = false := by
  have hrenamed := own_modifyPort h (p := p) (f := Stp.renamePort newprio br) fun _ hq ↦ hq
  simp only [Stp.rerank]
  split
  · exact hrenamed
  · split
    · have hbecome := own_modifyPort hrenamed (p := p)
        (f := stpBecomeDesignatedPort (br.modifyPort p (Stp.renamePort newprio br))) fun _ hq ↦ hq
      exact (matches_selectStates hbecome).own
    · exact hrenamed

theorem Matches.rerank (h : Matches br) {p : ℕ} {newprio : U8}
    (hc : ∀ q, br.portList[p]? = some q → ¬Collides newprio br q) :
    Matches (rerank p newprio br) := by
  have hrenamed : Matches (br.modifyPort p (Stp.renamePort newprio br)) := by
    refine ⟨own_modifyPort h.own fun _ hq ↦ hq, ?_⟩
    intro q' hq'
    obtain ⟨q, hq, rfl | ⟨hp, rfl⟩⟩ := mem_modifyPort hq'
    · exact (h.states q' hq).of_root rfl rfl
    · exact ((h.states q hq).renamePort (hc q hp)).of_root rfl rfl
  simp only [Stp.rerank]
  split
  · exact hrenamed
  · split
    · have hbecome := own_modifyPort hrenamed.own (p := p)
        (f := stpBecomeDesignatedPort (br.modifyPort p (Stp.renamePort newprio br))) fun _ hq ↦ hq
      exact matches_selectStates hbecome
    · exact hrenamed

end Entries

variable [Add κ] [LT κ] [DecidableLT κ] [OfNat κ 0] {e : Endian} {m : Move κ}

theorem Matches.reelect (hown : ∀ q ∈ br.portList, q.isOwnBpdu = false)
    (h : reelect e br = some br') : Matches br' := by
  obtain ⟨br₁, -, -, -, rfl⟩ := reelect_cases h
  refine matches_selectStates fun q' hq' ↦ ?_
  obtain ⟨q, hq, rfl⟩ := List.mem_map.mp hq'
  unfold selectDesignatedPort
  split <;> exact hown q hq

theorem own_apply (hown : ∀ q ∈ br.portList, q.isOwnBpdu = false) (hv : m.Valid br)
    (h : m.apply e br = some br') : ∀ q ∈ br'.portList, q.isOwnBpdu = false := by
  cases m with
  | elect edit => exact (Matches.reelect (Edit.own hown) h).own
  | clearOwn p =>
    obtain rfl := Option.some.inj h
    exact own_modifyPort hown fun _ _ ↦ rfl
  | enable p =>
    obtain rfl := Option.some.inj h
    exact (matches_selectStates (own_modifyPort hown fun _ _ ↦ rfl)).own
  | setPortPriority p newprio =>
    obtain rfl := Option.some.inj h
    exact own_rerank hown p newprio
  | advance p =>
    obtain rfl := Option.some.inj h
    exact own_modifyPort hown fun _ hq ↦ hq
  | times _ | setEnabled _ =>
    obtain rfl := Option.some.inj h
    exact hown
  | create q =>
    obtain rfl := Option.some.inj h
    intro q' hq'
    obtain hq' | hq' := List.mem_append.mp hq'
    · exact hown q' hq'
    · rw [List.mem_singleton.mp hq']
      exact hv.2
  | removeHead =>
    obtain rfl := Option.some.inj h
    exact fun q hq ↦ hown q (List.mem_of_mem_tail hq)

theorem Matches.apply (hw : Matches br) (hv : m.Valid br)
    (hc : ∀ p newprio, m = .setPortPriority p newprio → ∀ q, br.portList[p]? = some q →
      ¬Collides newprio br q)
    (h : m.apply e br = some br') : Matches br' := by
  refine ⟨own_apply hw.own hv h, ?_⟩
  intro q' hq'
  cases m with
  | elect edit => exact (Matches.reelect (Edit.own hw.own) h).states q' hq'
  | clearOwn p =>
    obtain rfl := Option.some.inj h
    obtain ⟨q, hq, rfl | ⟨-, rfl⟩⟩ := mem_modifyPort hq'
    · exact (hw.states q' hq).of_root rfl rfl
    · exact (hw.states q hq).of_root rfl rfl
  | enable p =>
    obtain rfl := Option.some.inj h
    exact (matches_selectStates (own_modifyPort hw.own fun _ _ ↦ rfl)).states q' hq'
  | setPortPriority p newprio =>
    obtain rfl := Option.some.inj h
    exact (hw.rerank (hc p newprio rfl)).states q' hq'
  | advance p =>
    obtain rfl := Option.some.inj h
    obtain ⟨q, hq, rfl | ⟨-, rfl⟩⟩ := mem_modifyPort hq'
    · exact (hw.states q' hq).of_root rfl rfl
    · intro hlive
      have hadvance : q.state.advance = .blocking ↔ q.state = .blocking := by
        cases q.state <;> decide
      exact hadvance.trans (hw.states q hq fun hdis ↦ hlive ((advance_eq_disabled _).mpr hdis))
  | times _ | setEnabled _ =>
    obtain rfl := Option.some.inj h
    exact (hw.states q' hq').of_root rfl rfl
  | create q =>
    obtain rfl := Option.some.inj h
    obtain hq' | hq' := List.mem_append.mp hq'
    · exact (hw.states q' hq').of_root rfl rfl
    · rw [List.mem_singleton.mp hq']
      exact fun hlive ↦ absurd hv.1 hlive
  | removeHead =>
    obtain rfl := Option.some.inj h
    exact (hw.states q' (List.mem_of_mem_tail hq')).of_root rfl rfl

section Runs

def KeepsRoles (w : World κ τ Φ) : Action κ τ Φ → Prop
  | .event (.setPortPriority p newprio) => ∀ q, w.br.portList[p]? = some q →
      ¬Collides newprio w.br q
  | _ => True

variable [OfNat κ 20000] {a : Action κ τ Φ}

theorem own_of_run {vlanId : U16} {addr : MacAddress} {portCdb : Vector PortT maxPorts} {env : τ}
    {as : List (Action κ τ Φ)}
    (h : Run (Stp.step H W) NewNumber (newInstance H vlanId addr [] portCdb env) as w) :
    ∀ q ∈ w.br.portList, q.isOwnBpdu = false := by
  refine (h.invariant (I := fun w ↦ Rooted w.br ∧ ∀ q ∈ w.br.portList, q.isOwnBpdu = false) ?_
    ⟨newInstance_rooted vlanId addr portCdb env, nofun⟩).2
  intro w a w' hI hnew hs
  refine ⟨hI.1.step hnew hs, ?_⟩
  refine (step_leads hI.1.toRootFound hs).invariant
    (I := fun br ↦ ∀ q ∈ br.portList, q.isOwnBpdu = false) ?_ ?_ hI.2
  · intro br br' heq hown q' hq'
    obtain ⟨i, hi⟩ := List.mem_iff_getElem?.mp hq'
    obtain ⟨q, hq, hqq'⟩ := entry_of_tree_eq heq hi
    have htree : q.tree.isOwnBpdu = false := hown q (List.mem_of_getElem? hq)
    rw [hqq'] at htree
    exact htree
  · exact fun _ hv hown hm ↦ own_apply hown hv hm

theorem Matches.step (hfound : RootFound w.br) (hw : Matches w.br) (hc : KeepsRoles w a)
    (h : step H W w a = some w') : Matches w'.br := by
  refine (step_leads hfound h).invariant (I := Matches) ?_ ?_ hw
  · exact fun heq hI ↦ hI.of_tree_eq heq
  · intro w₁ m br' hadm hv hI hm
    refine hI.apply hv ?_ hm
    rintro p newprio rfl q' hq'
    cases hadm with
    | setPortPriority =>
      rw [tree_getElem?, Option.map_eq_some_iff] at hq'
      obtain ⟨q, hq, rfl⟩ := hq'
      exact hc q hq

omit [OfNat κ 20000] in
theorem Moved.collision {p : ℕ} {newprio : U8} {q : StpPortEntry κ}
    (h : Moved H W (.setPortPriority p newprio) w w') (hw : Matches w.br)
    (hq : w.br.portList[p]? = some q) (hc : Collides newprio w.br q) :
    ∃ q' ∈ w'.br.portList, q'.state = .blocking ∧ stpIsDesignatedPort w'.br q' = true := by
  obtain ⟨hblocked, hbridge, hport⟩ := hc
  have hlive : q.state ≠ .disabled := by
    rw [hblocked]
    exact PortState.noConfusion
  have hd := ((hw.states q (List.mem_of_getElem? hq) hlive).mp hblocked).2
  have hrenamed : (renamePort newprio w.br.tree q.tree).designatedPort =
      (renamePort newprio w.br.tree q.tree).portId := by
    have hd' : stpIsDesignatedPort w.br.tree q.tree = false := hd
    simp only [renamePort, hd']
    exact hport
  have hentry : w'.br.tree.portList[p]? = some (renamePort newprio w.br.tree q.tree) := by
    have happly := Option.some.inj h.apply
    rw [rerank_eq (tree_entry hq), if_neg] at happly
    · rw [← happly, StpInstance.modifyPort, List.getElem?_modify, tree_entry hq]
      simp
    · rintro ⟨-, hlt⟩
      exact BitVec.lt_irrefl _ (hrenamed ▸ hlt)
  rw [tree_getElem?, Option.map_eq_some_iff] at hentry
  obtain ⟨q', hq', htree⟩ := hentry
  have hid : w'.br.bridgeId = w.br.bridgeId := (Move.root_kept rfl h.apply).2.1
  refine ⟨q', List.mem_of_getElem? hq', (congrArg StpPortEntry.state htree).trans hblocked, ?_⟩
  rw [← stpIsDesignatedPort_tree, htree, stpIsDesignatedPort, Bool.and_eq_true, beq_iff_eq,
    beq_iff_eq]
  exact ⟨hbridge.trans hid.symm, hrenamed⟩

theorem stateMatches_step_iff (hfound : RootFound w.br) (hw : Matches w.br)
    (h : step H W w a = some w') :
    (∀ q ∈ w'.br.portList, StateMatches w'.br q) ↔ KeepsRoles w a := by
  refine ⟨fun hmatch ↦ ?_, fun hc ↦ (hw.step hfound hc h).states⟩
  unfold KeepsRoles
  split
  · rename_i p newprio
    intro q hq hc
    obtain ⟨r, hr, rfl⟩ := Option.map_eq_some_iff.mp h
    have hready : Ready True w.br := ⟨hfound, fun _ _ ↦ .inr trivial⟩
    have hmoved := (stpSetPortPriority_safe (fun _ ↦ trivial) hq hready).2 r.1 r.2 hr
    obtain ⟨q', hq', hblocked, hd⟩ := hmoved.collision hw hq hc
    have hlive : q'.state ≠ .disabled := by
      rw [hblocked]
      exact PortState.noConfusion
    rw [((hmatch q' hq' hlive).mp hblocked).2] at hd
    cases hd
  · trivial

omit [Add κ] [LT κ] [DecidableLT κ] in
theorem newInstance_matches (vlanId : U16) (addr : MacAddress) (portCdb : Vector PortT maxPorts)
    (env : τ) : Matches (newInstance (κ := κ) (Φ := Φ) H vlanId addr [] portCdb env).br where
  own _ hq := nomatch hq
  states _ hq := nomatch hq

/-- A port in use is blocked exactly when it has no role, as long as no blocked
port is renamed to the port that it hears of. The first such renaming breaks it. -/
theorem port_state_matches_role (H : Host τ) (W : Wire κ Φ) {vlanId : U16} {addr : MacAddress}
    {portCdb : Vector PortT maxPorts} {env : τ} {as : List (Action κ τ Φ)} {w : World κ τ Φ}
    (h : Run (step H W) KeepsRoles (newInstance H vlanId addr [] portCdb env) as w) :
    (∀ q ∈ w.br.portList, q.state ≠ .disabled →
      (q.state = .blocking ↔ q.portNo ≠ w.br.rootPort ∧ stpIsDesignatedPort w.br q = false) ∧
      (q.portNo = w.br.rootPort ∨ stpIsDesignatedPort w.br q →
        q.state = .listening ∨ q.state = .learning ∨ q.state = .forwarding)) ∧
    ∀ a w', step H W w a = some w' →
      ((∀ q ∈ w'.br.portList, StateMatches w'.br q) ↔ KeepsRoles w a) := by
  obtain ⟨hfound, hmatch⟩ : RootFound w.br ∧ Matches w.br := by
    refine h.invariant (I := fun w ↦ RootFound w.br ∧ Matches w.br) ?_
      ⟨(newInstance_rooted vlanId addr portCdb env).toRootFound,
        newInstance_matches vlanId addr portCdb env⟩
    rintro _ _ _ ⟨hfound, hmatch⟩ hc hs
    exact ⟨hfound.step hs, hmatch.step hfound hc hs⟩
  refine ⟨?_, fun a w' hs ↦ stateMatches_step_iff hfound hmatch hs⟩
  intro q hq hlive
  have hiff := hmatch.states q hq hlive
  refine ⟨hiff, fun hrole ↦ ?_⟩
  have hforwarding : q.state ≠ .blocking := by
    intro hblocked
    obtain ⟨hroot, hd⟩ := hiff.mp hblocked
    exact hrole.elim hroot (Bool.eq_false_iff.mp hd)
  cases hs : q.state with
  | disabled => exact absurd hs hlive
  | blocking => exact absurd hs hforwarding
  | listening => exact .inl rfl
  | learning => exact .inr (.inl rfl)
  | forwarding => exact .inr (.inr rfl)

end Runs

instance (newprio : U8) (br : StpInstance κ) (q : StpPortEntry κ) :
    Decidable (Collides newprio br q) :=
  inferInstanceAs (Decidable (_ ∧ _))

instance (w : World κ τ Φ) (a : Action κ τ Φ) : Decidable (KeepsRoles w a) :=
  match a with
  | .event (.setPortPriority p newprio) => inferInstanceAs
      (Decidable (∀ q, w.br.portList[p]? = some q → ¬Collides newprio w.br q))
  | .event (.receive _ _) | .event .helloTimer | .event .tcnTimer | .event .topologyChangeTimer |
      .event (.messageAgeTimer _) | .event (.forwardDelayTimer _) | .event (.holdTimer _) |
      .event (.link _ _) | .event (.setState _) | .event (.setOperStatus _ _) | .event (.host _) |
      .createPort _ _ | .setPathCost _ _ | .setBridgePriority _ | .changeBridgeId _ |
      .setBridgeHelloTime _ | .setBridgeForwardDelay _ | .setBridgeMaxAge _ |
      .setBridgeTimes _ _ _ => isTrue trivial

def loopActions : List (Action Int32 TimerMgr (List U8)) :=
  [.createPort (macAddress 0 0 0 0 0 2) 1, .createPort (macAddress 0 0 0 0 0 2) 2,
   .event (.setOperStatus 1 .up), .event (.setState true),
   .event (.setPortPriority 1 1),
   .event (.receive 2 ((frames .little).config (macAddress 0 0 0 0 0 2)
     { rootHello with
       rootId := ⟨stpDefPriority, macAddress 0 0 0 0 0 2⟩
       bridgeId := ⟨stpDefPriority, macAddress 0 0 0 0 0 2⟩
       portId := 2 }))]

theorem designated_port_left_blocked :
    ∃ w, Run (step relayHost (frames .little)) NewNumber leafStart
        (loopActions ++ [.event (.setPortPriority 1 128)]) w ∧
      ∃ q ∈ w.br.portList, q.state = .blocking ∧ stpIsDesignatedPort w.br q = true := by
  have hcheck : ((exec (fun w a ↦ if NewNumber w a then step relayHost (frames .little) w a
      else none) leafStart (loopActions ++ [.event (.setPortPriority 1 128)])).any fun w ↦
      ∃ q ∈ w.br.portList, q.state = .blocking ∧ stpIsDesignatedPort w.br q = true) = true := by
    decide +kernel
  simp only [Option.any_eq_true, decide_eq_true_eq] at hcheck
  obtain ⟨w, hexec, hq⟩ := hcheck
  exact ⟨w, (run_of_exec hexec).guarded, hq⟩

theorem port_state_matches_role_leaf :
    ∃ w, Run (step relayHost (frames .little)) KeepsRoles leafStart leafActions w ∧
      ∃ q ∈ w.br.portList, q.portNo = w.br.rootPort ∧
        (q.state = .listening ∨ q.state = .learning ∨ q.state = .forwarding) := by
  have hcheck : ((exec (fun w a ↦ if KeepsRoles w a then step relayHost (frames .little) w a
      else none) leafStart leafActions).any fun w ↦
      ∃ q ∈ w.br.portList, q.portNo = w.br.rootPort ∧ q.state ≠ .disabled) = true := by
    decide +kernel
  simp only [Option.any_eq_true, decide_eq_true_eq] at hcheck
  obtain ⟨w, hexec, q, hq, hno, hlive⟩ := hcheck
  have hrun := (run_of_exec hexec).guarded
  have hstate := ((port_state_matches_role relayHost (frames .little) hrun).1 q hq hlive).2
  exact ⟨w, hrun, q, hq, hno, hstate (.inl hno)⟩

end Layer3Switch.Stp
