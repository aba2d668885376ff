import Layer3Switch.Stp.Lifetime
import Layer3Switch.Stp.Roles
import Layer3Switch.Stp.Timed

namespace Layer3Switch.Stp

open Lib Lib.Bytes
open Timers (U32 TimerMgr TimerId TimerT)

variable {κ τ Φ : Type}

section Entries

def selectEntry (br : StpInstance κ) (q : StpPortEntry κ) : StpPortEntry κ :=
  if q.state = .disabled ∨ Serves br q then selectState br q else (selectState br q).hushed

/-- The state of a port in use agrees with its role, and only a port that serves
has a BPDU to send or to acknowledge. -/
structure Settled (br : StpInstance κ) (q : StpPortEntry κ) : Prop where
  role : q.state ≠ .disabled → HasRole br q → q.state ≠ .blocking
  no_role : q.state ≠ .disabled → ¬HasRole br q → q.state = .blocking
  hushed : q.state ≠ .disabled → ¬Serves br q → q.hushed = q

variable {br : StpInstance κ} {q : StpPortEntry κ}

theorem Serves.role (h : Serves br q) : HasRole br q := .inr h.2.2

theorem selectEntry_state : (selectEntry br q).state = selectedState br q := by
  unfold selectEntry
  split <;> rfl

theorem selectEntry_of_serves (h : Serves br q) : selectEntry br q =
    { q with state := if q.state = .blocking then startState br else q.state } := by
  rw [selectEntry, if_pos (show q.state = .disabled ∨ Serves br q from .inr h), selectState,
    selectedState, if_neg h.1, if_pos h.role]

theorem selectEntry_of_root (hlive : q.state ≠ .disabled) (hroot : q.portNo = br.rootPort) :
    selectEntry br q = { q.hushed with
      state := if q.state = .blocking then startState br else q.state } := by
  have hserves : ¬(q.state = .disabled ∨ Serves br q) := fun h ↦
    h.elim hlive fun hs ↦ hs.2.1 hroot
  rw [selectEntry, if_neg hserves, selectState, selectedState, if_neg hlive,
    if_pos (show HasRole br q from .inl hroot)]
  rfl

theorem selectEntry_of_not_role (hlive : q.state ≠ .disabled) (hrole : ¬HasRole br q) :
    selectEntry br q = { q.hushed with state := .blocking } := by
  have hserves : ¬(q.state = .disabled ∨ Serves br q) := fun h ↦
    h.elim hlive fun hs ↦ hrole hs.role
  rw [selectEntry, if_neg hserves, selectState, selectedState, if_neg hlive, if_neg hrole]
  rfl

theorem selectEntry_of_disabled (hdis : q.state = .disabled) : selectEntry br q = q := by
  rw [selectEntry, if_pos (show q.state = .disabled ∨ Serves br q from .inl hdis), selectState,
    selectedState, if_pos hdis, ← hdis]

theorem selectEntry_eq_self_iff : selectEntry br q = q ↔ Settled br q := by
  constructor
  · intro h
    have hstate : q.state = selectedState br q := by
      rw [← selectEntry_state, h]
    refine ⟨fun hlive hrole hb ↦ ?_, fun hlive hrole ↦ ?_, fun hlive hserves ↦ ?_⟩
    · rw [selectedState, if_neg hlive, if_pos hrole, if_pos hb, hb] at hstate
      unfold startState at hstate
      split_ifs at hstate
    · rw [hstate, selectedState, if_neg hlive, if_neg hrole]
    · rw [selectEntry, if_neg (not_or.mpr ⟨hlive, hserves⟩)] at h
      rw [← h]
      rfl
  · intro h
    have hself : selectState br q = q := by
      have hstate : selectedState br q = q.state := by
        unfold selectedState
        split_ifs with hdis hrole hb
        · exact hdis.symm
        · exact absurd hb (h.role hdis hrole)
        · rfl
        · exact (h.no_role hdis hrole).symm
      rw [selectState, hstate]
    unfold selectEntry
    split_ifs with hq
    · exact hself
    · rw [hself]
      exact h.hushed (not_or.mp hq).1 (not_or.mp hq).2

end Entries

section Selection

variable {H : Host τ} {W : Wire κ Φ} {w w' : World κ τ Φ} {p : ℕ} {q : StpPortEntry κ}

/-- Nothing of the bridge but the topology change flags and the one entry has changed. -/
structure Updated (p : ℕ) (f : StpPortEntry κ → StpPortEntry κ) (br br' : StpInstance κ) :
    Prop where
  eq : br' = { br with
    portList := br.portList.modify p f
    topologyChange := br'.topologyChange
    topologyChangeDetected := br'.topologyChangeDetected }

theorem Updated.modifyPort (f : StpPortEntry κ → StpPortEntry κ) :
    Updated p f w.br (w.modifyPort p f).br := ⟨rfl⟩

theorem Updated.congr {f g : StpPortEntry κ → StpPortEntry κ} {br br' : StpInstance κ}
    (h : Updated p f br br') (hq : br.portList[p]? = some q) (hfg : f q = g q) :
    Updated p g br br' := by
  have hports : br.portList.modify p f = br.portList.modify p g :=
    congrArg StpInstance.portList (modifyPort_congr hq hfg)
  refine ⟨?_⟩
  rw [← hports]
  exact h.eq

theorem Updated.noted {f : StpPortEntry κ → StpPortEntry κ} (hn : Noted H W w w') :
    Updated p f w.br (w'.modifyPort p f).br := by
  have hports : w'.br.portList = w.br.portList := by rw [hn.br]
  refine ⟨?_⟩
  rw [World.modifyPort, hports]
  dsimp only
  rw [hn.br]

theorem Updated.refl {f : StpPortEntry κ → StpPortEntry κ} (hq : w.br.portList[p]? = some q)
    (hf : f q = q) : Updated p f w.br w.br := by
  have hself := modifyPort_self hq hf
  exact ⟨hself.symm⟩

theorem stpMakeForwarding_updated :
    Ends (stpMakeForwarding H W p) w fun _ w' ↦ Updated p (fun q ↦ { q with
      state := if q.state = .blocking then startState w.br else q.state }) w.br w'.br := by
  apply Ends.bind
  apply ends_reads
  intro q hq
  apply Ends.bind
  apply ends_bridge
  apply Ends.onlyIf
  · intro hb
    have hset : ∀ s, s = startState w.br → Updated p (fun q ↦ { q with
        state := if q.state = .blocking then startState w.br else q.state }) w.br
        (w.modifyPort p ({ · with state := s })).br := by
      intro s hs
      apply (Updated.modifyPort _).congr hq
      rw [if_pos hb, hs]
    apply Ends.ite
    · intro hz
      apply Ends.bind
      apply Ends.update
      refine stpTopologyChangeDetection_ends.andThen ?_
      intro _ w' hn
      apply ends_callEnv
      intro env _
      refine ⟨?_⟩
      have hbr := hn.br
      rw [(hset _ (by rw [startState, if_pos hz])).eq] at hbr
      exact hbr
    · intro hz
      apply Ends.bind
      apply Ends.update
      apply ends_callEnv
      intro env _
      exact hset _ (by rw [startState, if_neg hz])
  · intro hb
    apply Updated.refl hq
    rw [if_neg hb]

theorem stpMakeBlocking_updated :
    Ends (stpMakeBlocking H W p) w fun _ w' ↦ Updated p (fun q ↦ { q with
      state := if q.state = .disabled then .disabled else .blocking }) w.br w'.br := by
  apply Ends.bind
  apply ends_reads
  intro q hq
  apply Ends.onlyIf
  · intro hs
    have hdetect : Ends (onlyIf (q.state = .forwarding ∨ q.state = .learning)
        (stpTopologyChangeDetection H W)) w fun _ w' ↦ Noted H W w w' :=
      .onlyIf (fun _ ↦ stpTopologyChangeDetection_ends) fun _ ↦
        ⟨rfl, .inl rfl, rfl, id, .inl rfl⟩
    refine hdetect.andThen ?_
    intro _ w₁ hn
    apply Ends.bind
    apply Ends.update
    apply ends_callEnv
    intro env _
    apply (Updated.noted hn).congr hq
    rw [if_neg hs.1]
  · intro hs
    apply Updated.refl hq
    split_ifs with hdis
    · rw [← hdis]
    · have hb : q.state = .blocking := by
        by_contra hne
        exact hs ⟨hdis, hne⟩
      rw [← hb]

theorem Updated.hushed {f : StpPortEntry κ → StpPortEntry κ} {br' : StpInstance κ}
    (h : Updated p f (w.modifyPort p (·.hushed)).br br') :
    Updated p (f ∘ StpPortEntry.hushed) w.br br' := by
  refine ⟨?_⟩
  rw [h.eq]
  simp only [World.modifyPort, List.modify_modify_eq]

theorem selectPortState_updated :
    Ends (selectPortState H W p) w fun _ w' ↦ Updated p (selectEntry w.br) w.br w'.br := by
  apply Ends.bind
  apply ends_reads
  intro q hq
  apply Ends.bind
  apply ends_bridge
  apply Ends.onlyIf
  · intro hlive
    apply Ends.ite
    · intro hroot
      apply Ends.bind
      apply Ends.update
      refine stpMakeForwarding_updated.mono ?_
      intro _ w' h
      apply (Updated.hushed h).congr hq
      rw [selectEntry_of_root hlive hroot]
      rfl
    · intro hroot
      apply Ends.ite
      · intro hd
        obtain ⟨hown, hd⟩ := Bool.and_eq_true_iff.mp hd
        apply Ends.bind
        apply ends_callEnv
        intro env _
        refine (stpMakeForwarding_updated (w := { w with env := env })).mono ?_
        intro _ w' h
        apply h.congr hq
        rw [selectEntry_of_serves ⟨hlive, hroot, by simpa using hown, hd⟩]
      · intro hd
        have hrole : ¬HasRole w.br q := by
          rintro (hr | ⟨hown, hr⟩)
          · exact hroot hr
          · exact hd (Bool.and_eq_true_iff.mpr ⟨by rw [hown]; rfl, hr⟩)
        apply Ends.bind
        apply Ends.update
        refine stpMakeBlocking_updated.mono ?_
        intro _ w' h
        apply (Updated.hushed h).congr hq
        have hstate : q.hushed.state ≠ .disabled := hlive
        rw [selectEntry_of_not_role hlive hrole, Function.comp_apply, if_neg hstate]
  · intro hdis
    exact Updated.refl hq (selectEntry_of_disabled (not_ne_iff.mp hdis))

theorem stpPortStateSelection_entries :
    Ends (stpPortStateSelection H W) w fun _ w' ↦ w'.br = { w.br with
      portList := w.br.portList.map (selectEntry w.br)
      topologyChange := w'.br.topologyChange
      topologyChangeDetected := w'.br.topologyChangeDetected } := by
  have hloop : Ends (stpPortStateSelection H W) w fun _ w' ↦ w'.br = { w.br with
      portList := passes (selectEntry w.br) w.br.portList w.br.portList.length
      topologyChange := w'.br.topologyChange
      topologyChangeDetected := w'.br.topologyChangeDetected } := by
    refine Ends.forM_range (I := fun k (w' : World κ τ Φ) ↦ w'.br = { w.br with
      portList := passes (selectEntry w.br) w.br.portList k
      topologyChange := w'.br.topologyChange
      topologyChangeDetected := w'.br.topologyChangeDetected }) ?_ rfl
    intro k w₁ h₁
    refine selectPortState_updated.mono ?_
    intro _ w₂ h₂
    have hentry : selectEntry w₁.br = selectEntry w.br := by
      rw [h₁]
      rfl
    rw [hentry] at h₂
    rw [h₂.eq, h₁]
    simp only [passes_succ]
  refine hloop.mono ?_
  intro _ w' h
  rw [passes_length] at h
  exact h

end Selection

section Exact

variable (H : Host τ) (W : Wire κ Φ) {α : Type} {w : World κ τ Φ} {p : ℕ} {q : StpPortEntry κ}

theorem bind_port (hq : w.br.portList[p]? = some q) (f : StpPortEntry κ → StpM κ τ Φ α) :
    (port p >>= f) w = f q w := by
  change (port p w).bind _ = _
  rw [port, reads, hq]
  rfl

theorem bind_bridge (f : StpInstance κ → StpM κ τ Φ α) : (bridge >>= f) w = f w.br w := rfl

theorem bind_setPort_of_eq (hq : w.br.portList[p]? = some q) {g : StpPortEntry κ → StpPortEntry κ}
    (hg : g q = q) (f : Unit → StpM κ τ Φ α) : (setPort p g >>= f) w = f () w := by
  change f () (w.modifyPort p g) = _
  rw [World.modifyPort_self hq hg]

theorem stpMakeForwarding_of_ne (hq : w.br.portList[p]? = some q) (h : q.state ≠ .blocking) :
    stpMakeForwarding H W p w = some ((), w) := by
  rw [stpMakeForwarding, bind_port hq, bind_bridge, onlyIf, if_neg h]
  rfl

theorem stpMakeBlocking_of_blocking (hq : w.br.portList[p]? = some q) (h : q.state = .blocking) :
    stpMakeBlocking H W p w = some ((), w) := by
  rw [stpMakeBlocking, bind_port hq, onlyIf, if_neg fun hs ↦ hs.2 h]
  rfl

def stopAge (br : StpInstance κ) (env : τ) (q : StpPortEntry κ) : Option τ :=
  if Serves br q then H.delTimer q.messageAgeTimer env else some env

theorem selectPortState_of_settled (hq : w.br.portList[p]? = some q) (h : Settled w.br q) :
    selectPortState H W p w = (stopAge H w.br w.env q).map fun env ↦
      ((), { w with env := env }) := by
  rw [selectPortState, bind_port hq, bind_bridge]
  by_cases hlive : q.state = .disabled
  · rw [onlyIf, if_neg (not_not.mpr hlive), stopAge, if_neg fun hs ↦ hs.1 hlive]
    rfl
  rw [onlyIf, if_pos hlive]
  by_cases hroot : q.portNo = w.br.rootPort
  · have hserves : ¬Serves w.br q := fun hs ↦ hs.2.1 hroot
    have hhush : { q with configPending := false, topologyChangeAck := false } = q :=
      h.hushed hlive hserves
    rw [if_pos hroot, bind_setPort_of_eq hq hhush,
      stpMakeForwarding_of_ne H W hq (h.role hlive (.inl hroot)), stopAge, if_neg hserves]
    rfl
  rw [if_neg hroot]
  by_cases hrole : q.isOwnBpdu = false ∧ stpIsDesignatedPort w.br q
  · have hguard : (!q.isOwnBpdu && stpIsDesignatedPort w.br q) = true := by
      rw [hrole.1, hrole.2]
      rfl
    rw [if_pos hguard, stopAge, if_pos ⟨hlive, hroot, hrole⟩]
    change (((H.delTimer q.messageAgeTimer w.env).map fun env ↦ ((), { w with env := env })).bind
      fun x ↦ stpMakeForwarding H W p x.2) = _
    cases H.delTimer q.messageAgeTimer w.env with
    | none => rfl
    | some env =>
      exact stpMakeForwarding_of_ne (w := { w with env := env }) H W hq (h.role hlive (.inr hrole))
  · have hguard : ¬(!q.isOwnBpdu && stpIsDesignatedPort w.br q) = true := by
      simpa using hrole
    have hnone : ¬HasRole w.br q := not_or.mpr ⟨hroot, hrole⟩
    have hserves : ¬Serves w.br q := fun hs ↦ hnone hs.role
    have hhush : { q with configPending := false, topologyChangeAck := false } = q :=
      h.hushed hlive hserves
    rw [if_neg hguard, bind_setPort_of_eq hq hhush,
      stpMakeBlocking_of_blocking H W hq (h.no_role hlive hnone), stopAge, if_neg hserves]
    rfl

theorem stpPortStateSelection_of_settled (h : ∀ q ∈ w.br.portList, Settled w.br q) :
    stpPortStateSelection H W w = (w.br.portList.foldlM (stopAge H w.br) w.env).map
      fun env ↦ ((), { w with env := env }) := by
  -- the ports from position `k` on are still to come
  have hloop : ∀ (l : List (StpPortEntry κ)) (k : ℕ) (env : τ), w.br.portList.drop k = l →
      (List.range' k l.length).forM (selectPortState H W) { w with env := env } =
        (l.foldlM (stopAge H w.br) env).map fun env ↦ ((), { w with env := env }) := by
    intro l
    induction l with
    | nil => exact fun _ _ _ ↦ rfl
    | cons q l ih =>
      intro k env hdrop
      have hq : w.br.portList[k]? = some q := by
        rw [← Nat.add_zero k, ← List.getElem?_drop, hdrop]
        rfl
      have hpass := selectPortState_of_settled (w := { w with env := env }) H W hq
        (h q (List.mem_of_getElem? hq))
      change (selectPortState H W k { w with env := env }).bind
        (fun x ↦ (List.range' (k + 1) l.length).forM (selectPortState H W) x.2) =
          Option.map _ (Option.bind (stopAge H w.br env q) fun env ↦ l.foldlM (stopAge H w.br) env)
      rw [hpass]
      cases stopAge H w.br env q with
      | none => rfl
      | some env' =>
        apply ih (k + 1) env'
        rw [← List.drop_drop, hdrop]
        rfl
  have hall := hloop w.br.portList 0 w.env rfl
  rw [← List.range_eq_range'] at hall
  exact hall

end Exact

structure OwnBpdu (br : StpInstance κ) (q : StpPortEntry κ) (bpdu : StpBpdu κ) : Prop where
  bridgeId : bpdu.bridgeId = br.bridgeId
  portId : bpdu.portId = q.portId

theorem OwnBpdu.designated {br : StpInstance κ} {q : StpPortEntry κ} {bpdu : StpBpdu κ}
    (h : OwnBpdu br q bpdu) : stpIsDesignatedPort br (recordConfig bpdu q) = true := by
  simp only [stpIsDesignatedPort, recordConfig, h.bridgeId, h.portId, beq_self_eq_true,
    Bool.and_self]

theorem StpInstance.Labelled.record {br : StpInstance κ} (h : br.Labelled) (p : ℕ)
    (bpdu : StpBpdu κ) : (br.modifyPort p (recordConfig bpdu)).Labelled where
  inTable q' hq' hlive := by
    obtain ⟨q, hq, rfl | ⟨-, rfl⟩⟩ := mem_modifyPort hq'
    · exact h.inTable _ hq hlive
    · exact h.inTable q hq hlive
  numbers := by
    have hnumbers : (br.modifyPort p (recordConfig bpdu)).numbers = br.numbers :=
      map_modify_of_eq fun _ _ ↦ rfl
    rw [hnumbers]
    exact h.numbers
  made q' hq' := by
    obtain ⟨q, hq, rfl | ⟨-, rfl⟩⟩ := mem_modifyPort hq'
    · exact h.made _ hq
    · exact (h.made q hq).of_eq rfl rfl rfl id

section Election

variable [Add κ] [LinearOrder κ] [OfNat κ 0] {e : Endian} {br br' : StpInstance κ} {p : ℕ}
variable {q r : StpPortEntry κ} {bpdu : StpBpdu κ}

omit [Add κ] [LinearOrder κ] [OfNat κ 0] in
theorem candidate_record_iff (hq : br.portList[p]? = some q) (hown : OwnBpdu br q bpdu)
    (hd : stpIsDesignatedPort br q) :
    (r ∈ (br.modifyPort p (recordConfig bpdu)).portList ∧
      Candidate e (br.modifyPort p (recordConfig bpdu)) r) ↔
      r ∈ br.portList ∧ Candidate e br r := by
  constructor
  · rintro ⟨hr, hc⟩
    obtain ⟨q', hq', rfl | ⟨hp, rfl⟩⟩ := mem_modifyPort hr
    · exact ⟨hq', hc.of_bridgeId rfl⟩
    · obtain rfl := Option.some.inj (hq.symm.trans hp)
      exact absurd hown.designated (Bool.eq_false_iff.mp hc.not_designated)
  · rintro ⟨hr, hc⟩
    refine ⟨?_, hc.of_bridgeId rfl⟩
    obtain ⟨i, hi⟩ := List.mem_iff_getElem?.mp hr
    have hpi : p ≠ i := by
      rintro rfl
      obtain rfl := Option.some.inj (hq.symm.trans hi)
      exact absurd hd (Bool.eq_false_iff.mp hc.not_designated)
    apply List.mem_iff_getElem?.mpr
    refine ⟨i, ?_⟩
    rw [StpInstance.modifyPort, List.getElem?_modify, hi]
    exact congrArg some (if_neg hpi)

omit [Add κ] [OfNat κ 0] in
theorem selectDesignatedPort_of_designated (hd : stpIsDesignatedPort br q)
    (hlive : q.state ≠ .disabled) :
    selectDesignatedPort e br q = stpBecomeDesignatedPort br q := by
  have hbecome : stpShouldBecomeDesignatedPort e br q = true := if_pos hd
  rw [selectDesignatedPort, if_pos ⟨hlive, hbecome⟩]

theorem stpConfigurationUpdate_record (h : br.Labelled) (hq : br.portList[p]? = some q)
    (hlive : q.state ≠ .disabled) (hown : OwnBpdu br q bpdu) (hd : stpIsDesignatedPort br q) :
    stpConfigurationUpdate e (br.modifyPort p (recordConfig bpdu)) =
      stpConfigurationUpdate e br := by
  -- whatever the new view of the root is, the entries come out the same
  have hports : ∀ br₁ : StpInstance κ, br₁.bridgeId = br.bridgeId →
      (br.portList.modify p (recordConfig bpdu)).map (selectDesignatedPort e br₁) =
        br.portList.map (selectDesignatedPort e br₁) := by
    intro br₁ hid
    apply map_modify_of_eq
    intro q' hq'
    obtain rfl := Option.some.inj (hq.symm.trans hq')
    have hown₁ : OwnBpdu br₁ q bpdu := ⟨hown.bridgeId.trans hid.symm, hown.portId⟩
    have hd₁ : stpIsDesignatedPort br₁ q = true := by
      rw [stpIsDesignatedPort, hid]
      exact hd
    rw [selectDesignatedPort_of_designated hown₁.designated hlive,
      selectDesignatedPort_of_designated hd₁ hlive]
    rfl
  have hcand := fun r ↦ candidate_record_iff (e := e) (r := r) hq hown hd
  obtain ⟨b, hb⟩ | hnone := h.numbered.isBest_or_none e
  · have hb' : IsBest e (br.modifyPort p (recordConfig bpdu)) b := by
      obtain ⟨hmem, hc⟩ := (hcand b).mpr ⟨hb.mem, hb.candidate⟩
      refine ⟨hmem, hc, ?_⟩
      intro r hr hcr
      obtain ⟨hr, hcr⟩ := (hcand r).mp ⟨hr, hcr⟩
      exact hb.least r hr hcr
    rw [stpConfigurationUpdate, stpConfigurationUpdate, stpRootSelection_of_best h.numbered hb,
      stpRootSelection_of_best (h.record p bpdu).numbered hb']
    let br₁ : StpInstance κ := { br with
      rootPort := b.portNo
      designatedRoot := b.designatedRoot
      rootPathCost := b.designatedCost + b.pathCost }
    exact congrArg (fun l ↦ some { br₁ with portList := l }) (hports br₁ rfl)
  · have hnone' : ∀ r ∈ (br.modifyPort p (recordConfig bpdu)).portList,
        ¬Candidate e (br.modifyPort p (recordConfig bpdu)) r := by
      intro r hr hcr
      obtain ⟨hr, hcr⟩ := (hcand r).mp ⟨hr, hcr⟩
      exact hnone r hr hcr
    rw [stpConfigurationUpdate, stpConfigurationUpdate, stpRootSelection_of_none h.numbered hnone,
      stpRootSelection_of_none (h.record p bpdu).numbered hnone']
    let br₁ : StpInstance κ := { br with
      rootPort := 0
      designatedRoot := br.bridgeId
      rootPathCost := 0 }
    exact congrArg (fun l ↦ some { br₁ with portList := l }) (hports br₁ rfl)

theorem ne_rootPort_of_designated (h : br.Labelled) (hq : q ∈ br.portList)
    (hlive : q.state ≠ .disabled) (hd : stpIsDesignatedPort br q)
    (hbr' : stpConfigurationUpdate e br = some br') : q.portNo ≠ br'.rootPort := by
  obtain ⟨br₁, h₁, -, -, rfl⟩ := stpConfigurationUpdate_cases hbr'
  obtain rfl | ⟨r, hr, hc, -, b, -, rfl⟩ := stpRootSelection_cases h₁
  · exact (h.inTable q hq hlive).ne_zero
  · intro hno
    have hrno : q.portNo = r.portNo := hno.trans (h.inTable r hr hc.state).setWidth
    obtain rfl := List.inj_on_of_nodup_map h.numbers hq hr hrno
    exact absurd hd (Bool.eq_false_iff.mp hc.not_designated)

omit [Add κ] [OfNat κ 0] in
theorem selectDesignatedPort_of_selectEntry
    (h : selectEntry br' (selectDesignatedPort e br q) = q) :
    selectDesignatedPort e br q = q := by
  unfold selectDesignatedPort at h ⊢
  split at h
  · rename_i hbecome
    have hsame : stpBecomeDesignatedPort br (selectEntry br' (stpBecomeDesignatedPort br q)) =
        selectEntry br' (stpBecomeDesignatedPort br q) := by
      unfold selectEntry
      split <;> rfl
    rw [h] at hsame
    rw [if_pos hbecome, hsame]
  · rename_i hbecome
    rw [if_neg hbecome]

theorem fixed_of_selectEntry (h : stpConfigurationUpdate e br = some br')
    (hbr : br = { br' with
      portList := br'.portList.map (selectEntry br')
      topologyChange := br.topologyChange
      topologyChangeDetected := br.topologyChangeDetected }) :
    br' = br ∧ ∀ q ∈ br.portList, Settled br q := by
  obtain ⟨br₁, h₁, -, -, hbr'⟩ := stpConfigurationUpdate_cases h
  have hports : br.portList.map (selectEntry br' ∘ selectDesignatedPort e br₁) = br.portList := by
    have hlist := congrArg StpInstance.portList hbr
    dsimp only at hlist
    rw [hbr', List.map_map] at hlist
    rw [hbr']
    exact hlist.symm
  have hself : ∀ q ∈ br.portList, selectEntry br' (selectDesignatedPort e br₁ q) = q :=
    List.map_inj_left.mp (hports.trans (List.map_id br.portList).symm)
  have hlist : br'.portList = br.portList := by
    rw [hbr']
    exact (List.map_congr_left fun q hq ↦ selectDesignatedPort_of_selectEntry (hself q hq)).trans
      (List.map_id br.portList)
  have heq : br' = br := by
    obtain ⟨n, root, cost, hview⟩ : ∃ n root cost, br' = { br with
        portList := br'.portList, rootPort := n
        designatedRoot := root, rootPathCost := cost } := by
      rw [hbr']
      obtain rfl | ⟨-, -, -, -, -, -, rfl⟩ := stpRootSelection_cases h₁
      · exact ⟨_, _, _, rfl⟩
      · exact ⟨_, _, _, rfl⟩
    have hn : br.rootPort = n := (congrArg StpInstance.rootPort hbr).trans
      (congrArg StpInstance.rootPort hview)
    have hroot : br.designatedRoot = root := (congrArg StpInstance.designatedRoot hbr).trans
      (congrArg StpInstance.designatedRoot hview)
    have hcost : br.rootPathCost = cost := (congrArg StpInstance.rootPathCost hbr).trans
      (congrArg StpInstance.rootPathCost hview)
    rw [hlist, ← hn, ← hroot, ← hcost] at hview
    exact hview
  refine ⟨heq, ?_⟩
  intro q hq
  have hq' := hself q hq
  rw [selectDesignatedPort_of_selectEntry hq', heq] at hq'
  exact selectEntry_eq_self_iff.mp hq'

end Election

section Reception

variable [Add κ] [LinearOrder κ] [OfNat κ 0] {H : Host τ} {W : Wire κ Φ} {w w' : World κ τ Φ}
variable {p : ℕ} {q : StpPortEntry κ} {bpdu : StpBpdu κ} {env : τ}

omit [Add κ] [LinearOrder κ] [OfNat κ 0] in
theorem ceaseToBeRoot_br : Ends (ceaseToBeRoot H W) w fun _ w' ↦ w'.br = w.br := by
  apply Ends.bind
  apply ends_bridge
  apply Ends.bind
  apply ends_callEnv
  intro env _
  apply Ends.onlyIf
  · intro _
    apply Ends.bind
    apply ends_callEnv
    intro env' _
    refine stpTransmitTcn_ends.andThen ?_
    intro _ w₁ h₁
    apply ends_callEnv
    intro env'' _
    obtain rfl | ⟨portNo, smac, rfl⟩ := h₁
    · rfl
    · rfl
  · intro _
    rfl

theorem afterRecording_br (hw : w.br.Labelled) (hq : w.br.portList[p]? = some q)
    (hlive : q.state ≠ .disabled) (hd : stpIsDesignatedPort w.br q) (wasRoot : Bool) :
    Ends (afterRecording H W p bpdu wasRoot) w fun _ w' ↦
      ∃ br, stpConfigurationUpdate H.endian w.br = some br ∧ w'.br = { br with
        portList := br.portList.map (selectEntry br)
        topologyChange := w'.br.topologyChange
        topologyChangeDetected := w'.br.topologyChangeDetected } := by
  apply Ends.bind
  intro _ w₁ h₁
  obtain ⟨br, hbr, heq⟩ := Option.map_eq_some_iff.mp h₁
  obtain ⟨-, rfl⟩ := Prod.mk.inj heq
  refine stpPortStateSelection_entries.andThen ?_
  intro _ w₂ h₂
  apply Ends.bind
  apply ends_bridge
  have hcease : Ends (onlyIf (!stpIsRootBridge w₂.br && wasRoot) (ceaseToBeRoot H W)) w₂
      fun _ w' ↦ w'.br = w₂.br := .onlyIf (fun _ ↦ ceaseToBeRoot_br) fun _ ↦ rfl
  refine hcease.andThen ?_
  intro _ w₃ h₃
  apply Ends.bind
  apply ends_reads
  intro q₃ hq₃
  apply Ends.bind
  apply ends_bridge
  apply Ends.onlyIf
  · intro hroot
    -- the port was designated in the election, so it did not become the root port
    rw [h₃, h₂] at hq₃ hroot
    obtain ⟨br₁, -, -, -, hbr₁⟩ := stpConfigurationUpdate_cases hbr
    have hports : br.portList =
      w.br.portList.map (selectDesignatedPort H.endian br₁) := by rw [hbr₁]
    simp only [hports, List.getElem?_map, hq, Option.map_some, Option.some.injEq] at hq₃
    have hno : q₃.portNo = q.portNo := by
      rw [← hq₃]
      unfold selectEntry selectDesignatedPort
      split_ifs <;> rfl
    have hne := ne_rootPort_of_designated hw (List.mem_of_getElem? hq) hlive hd hbr
    exact absurd (hno.symm.trans hroot) hne
  · intro _
    refine ⟨br, hbr, ?_⟩
    rw [h₃]
    exact h₂

theorem fixed_of_afterRecording (hw : w.br.Labelled) (hq : w.br.portList[p]? = some q)
    (hlive : q.state ≠ .disabled) (hown : OwnBpdu w.br q bpdu) {wasRoot : Bool}
    (h : afterRecording H W p bpdu wasRoot { w.modifyPort p (recordConfig bpdu) with env := env } =
      some ((), w')) (hbr : w'.br = w.br) :
    stpIsDesignatedPort w.br q ∧ stpConfigurationUpdate H.endian w.br = some w.br ∧
      ∀ r ∈ w.br.portList, Settled w.br r := by
  obtain ⟨br, hbr₂, heq⟩ := afterRecording_br
    (w := { w.modifyPort p (recordConfig bpdu) with env := env }) (hw.record p bpdu)
    (World.getElem?_modifyPort hq _) hlive hown.designated wasRoot () w' h
  rw [hbr] at heq
  have hd : stpIsDesignatedPort w.br q = true := by
    obtain ⟨br₁, -, -, hid, hbr₁⟩ := stpConfigurationUpdate_cases hbr₂
    have hown₁ : OwnBpdu br₁ q bpdu := ⟨hown.bridgeId.trans hid.symm, hown.portId⟩
    have hq₂ : br.portList[p]? = some (stpBecomeDesignatedPort br₁ (recordConfig bpdu q)) := by
      rw [hbr₁, List.getElem?_map, World.getElem?_modifyPort hq, Option.map_some,
        selectDesignatedPort_of_designated hown₁.designated hlive]
    have hq₃ : q = selectEntry br (stpBecomeDesignatedPort br₁ (recordConfig bpdu q)) := by
      rw [heq] at hq
      simp only [List.getElem?_map, hq₂, Option.map_some, Option.some.injEq] at hq
      exact hq.symm
    have hbridge : q.designatedBridge = br₁.bridgeId :=
      (congrArg StpPortEntry.designatedBridge hq₃).trans (by unfold selectEntry; split <;> rfl)
    have hport : q.designatedPort = q.portId :=
      (congrArg StpPortEntry.designatedPort hq₃).trans (by unfold selectEntry; split <;> rfl)
    have hid : br₁.bridgeId = w.br.bridgeId := hid
    rw [stpIsDesignatedPort, hbridge, hport, hid, beq_self_eq_true, beq_self_eq_true]
    rfl
  have hupdate : stpConfigurationUpdate H.endian w.br = some br :=
    (stpConfigurationUpdate_record hw hq hlive hown hd).symm.trans hbr₂
  obtain ⟨rfl, hsettled⟩ := fixed_of_selectEntry hupdate heq
  exact ⟨hd, hupdate, hsettled⟩

theorem afterRecording_of_fixed (hw : w.br.Labelled) (hq : w.br.portList[p]? = some q)
    (hlive : q.state ≠ .disabled) (hown : OwnBpdu w.br q bpdu) (hd : stpIsDesignatedPort w.br q)
    (hfixed : stpConfigurationUpdate H.endian w.br = some w.br)
    (hsettled : ∀ r ∈ w.br.portList, Settled w.br r) (env : τ) :
    afterRecording H W p bpdu (stpIsRootBridge w.br)
        { w.modifyPort p (recordConfig bpdu) with env := env } =
      (w.br.portList.foldlM (stopAge H w.br) env).map fun env ↦ ((), { w with env := env }) := by
  have hupdate : configurationUpdate H { w.modifyPort p (recordConfig bpdu) with env := env } =
      some ((), { w with env := env }) := by
    have hrecord := stpConfigurationUpdate_record (e := H.endian) hw hq hlive hown hd
    rw [hfixed] at hrecord
    change (stpConfigurationUpdate H.endian (w.br.modifyPort p (recordConfig bpdu))).map _ = _
    rw [hrecord]
    rfl
  change (configurationUpdate H _).bind _ = _
  rw [hupdate]
  change (stpPortStateSelection H W { w with env := env }).bind _ = _
  rw [stpPortStateSelection_of_settled (w := { w with env := env }) H W hsettled]
  dsimp only
  cases w.br.portList.foldlM (stopAge H w.br) env with
  | none => rfl
  | some env' =>
    have hcease : ¬(!stpIsRootBridge w.br && stpIsRootBridge w.br) = true := by simp
    have hroot := ne_rootPort_of_designated hw (List.mem_of_getElem? hq) hlive hd hfixed
    change (onlyIf (!stpIsRootBridge w.br && stpIsRootBridge w.br) (ceaseToBeRoot H W) >>= fun _ ↦
      port p >>= fun q ↦ bridge >>= fun br ↦
        onlyIf (q.portNo = br.rootPort) (receivedOnRootPort H W bpdu)) { w with env := env' } = _
    rw [onlyIf, if_neg hcease, pure_bind, bind_port (w := { w with env := env' }) hq, bind_bridge,
      onlyIf, if_neg hroot]
    rfl

omit [Add κ] [LinearOrder κ] [OfNat κ 0] in
theorem HasAge.messageAge_eq {age : U16} (h : HasAge H w age) :
    messageAge H w.br w = some (age, w) := by
  cases h with
  | root hroot =>
    rw [messageAge, if_pos hroot]
    rfl
  | relayed root rmt hroot hport hrmt =>
    rw [messageAge, if_neg hroot]
    change ((Option.map (fun a ↦ (a, w)) (stpGetPort w.br (w.br.rootPort.setWidth 16))).bind _) = _
    rw [hport]
    change ((Option.map (fun a ↦ (a, w)) (H.timerGetRemainingTime root.messageAgeTimer w.env)).bind
      _) = _
    rw [hrmt]
    rfl

omit [Add κ] [LinearOrder κ] [OfNat κ 0] in
theorem stpTransmitConfig_of_held (hq : w.br.portList[p]? = some q)
    (hheld : H.timerPending q.holdTimer w.env = some true) :
    stpTransmitConfig H W p w = some ((), w.modifyPort p ({ · with configPending := true })) := by
  rw [stpTransmitConfig, bind_port hq]
  change ((H.timerPending q.holdTimer w.env).map fun b ↦ (b, w)).bind _ = _
  rw [hheld]
  rfl

omit [Add κ] [LinearOrder κ] [OfNat κ 0] in
theorem stpTransmitConfig_of_aged {age : U16} (hq : w.br.portList[p]? = some q)
    (hidle : H.timerPending q.holdTimer w.env = some false) (hage : HasAge H w age)
    (hold : ¬age.setWidth 32 < w.br.maxAge) : stpTransmitConfig H W p w = some ((), w) := by
  rw [stpTransmitConfig, bind_port hq]
  change ((H.timerPending q.holdTimer w.env).map fun b ↦ (b, w)).bind _ = _
  rw [hidle]
  change (messageAge H w.br w).bind _ = _
  rw [hage.messageAge_eq]
  change onlyIf (age.setWidth 32 < w.br.maxAge) _ w = _
  rw [onlyIf, if_neg hold]
  rfl

end Reception

section Timers

variable {s s₁ s₂ : TimerMgr} {i : TimerId} {e : Endian} {stackByte : U8}

/-- Timer `i` is in `s'` as it is in `s`: its nodes are where they were, and if it
is pending it has the same time to go. -/
structure TimerUnchanged (i : TimerId) (s s' : TimerMgr) : Prop where
  nodes : ∀ wheel n, n.timer = i → (n ∈ s'.root wheel ↔ n ∈ s.root wheel)
  expired : s'.expired i = s.expired i
  pending : Timers.timerPending s' (some i) = Timers.timerPending s (some i)
  remaining : Timers.timerPending s (some i) = some true →
    Timers.timerGetRemainingTime s' (some i) = Timers.timerGetRemainingTime s (some i)

theorem timerHost_delTimer (timer : TimerRef) :
    (timerHost e stackByte).delTimer timer s = timer.bind fun i ↦ Timers.stopTimer i s := by
  cases timer with
  | none => rfl
  | some i => exact Timers.delTimer_eq_stopTimer i s

theorem foldlM_stopAge_timers {br : StpInstance κ} {l : List (StpPortEntry κ)} {t : TimerT}
    (h : l.foldlM (stopAge (timerHost e stackByte) br) s = some s₂) (ht : s.timers i = some t) :
    ∃ t', s₂.timers i = some t' ∧ t'.apptimer = t.apptimer ∧
      (t'.isRunning = true → t.isRunning = true) ∧
      ∀ r ∈ l, Serves br r → r.messageAgeTimer = some i →
        ¬(t'.apptimer.isSome ∧ t'.isRunning = true) := by
  induction l generalizing s t with
  | nil =>
    obtain rfl := Option.some.inj h
    exact ⟨t, ht, rfl, id, fun r hr ↦ absurd hr List.not_mem_nil⟩
  | cons r l ih =>
    obtain ⟨s₁, h₁, h₂⟩ := Option.bind_eq_some_iff.mp h
    obtain ⟨t₁, ht₁, happ₁, hrun₁, hstop₁⟩ : ∃ t₁, s₁.timers i = some t₁ ∧
        t₁.apptimer = t.apptimer ∧ (t₁.isRunning = true → t.isRunning = true) ∧
        (Serves br r → r.messageAgeTimer = some i →
          ¬(t₁.apptimer.isSome ∧ t₁.isRunning = true)) := by
      unfold stopAge at h₁
      split at h₁
      · rw [timerHost_delTimer] at h₁
        obtain ⟨j, hj, h₁⟩ := Option.bind_eq_some_iff.mp h₁
        obtain ⟨t₁, ht₁, happ, hrun, hstop⟩ := Timers.stopTimer_timer h₁ ht
        refine ⟨t₁, ht₁, happ, hrun, fun _ hi ↦ hstop ?_⟩
        exact Option.some.inj (hi.symm.trans hj)
      · rename_i hserves
        obtain rfl := Option.some.inj h₁
        exact ⟨t, ht, rfl, id, fun hs ↦ absurd hs hserves⟩
    obtain ⟨t₂, ht₂, happ₂, hrun₂, hstop₂⟩ := ih h₂ ht₁
    refine ⟨t₂, ht₂, happ₂.trans happ₁, hrun₁ ∘ hrun₂, ?_⟩
    intro r' hr' hserves hi
    obtain rfl | hr' := List.mem_cons.mp hr'
    · rintro ⟨happ, hrun⟩
      exact hstop₁ hserves hi ⟨happ₂ ▸ happ, hrun₂ hrun⟩
    · exact hstop₂ r' hr' hserves hi

theorem foldlM_stopAge_eq {br : StpInstance κ} {l : List (StpPortEntry κ)}
    (hstop : Timers.stopTimer i s₁ = some s₂) (hstop₂ : Timers.stopTimer i s₂ = some s₂)
    (hl : ∀ r ∈ l, Serves br r → ∃ j, r.messageAgeTimer = some j ∧
      (j = i ∨ Timers.stopTimer j s₁ = some s₁ ∧ Timers.stopTimer j s₂ = some s₂)) :
    l.foldlM (stopAge (timerHost e stackByte) br) s₂ = some s₂ ∧
      ((∃ r ∈ l, Serves br r ∧ r.messageAgeTimer = some i) →
        l.foldlM (stopAge (timerHost e stackByte) br) s₁ = some s₂) := by
  induction l with
  | nil => exact ⟨rfl, fun ⟨r, hr, _⟩ ↦ absurd hr List.not_mem_nil⟩
  | cons r l ih =>
    obtain ⟨ih₂, ih₁⟩ := ih fun r' hr' ↦ hl r' (List.mem_cons_of_mem r hr')
    by_cases hserves : Serves br r
    · obtain ⟨j, hj, hji⟩ := hl r List.mem_cons_self hserves
      have hage : ∀ s, stopAge (timerHost e stackByte) br s r = Timers.stopTimer j s := by
        intro s
        rw [stopAge, if_pos hserves, timerHost_delTimer, hj]
        rfl
      rw [List.foldlM_cons, List.foldlM_cons, hage, hage]
      obtain rfl | ⟨hj₁, hj₂⟩ := hji
      · rw [hstop₂, hstop]
        exact ⟨ih₂, fun _ ↦ ih₂⟩
      · rw [hj₁, hj₂]
        refine ⟨ih₂, ?_⟩
        rintro ⟨r', hr', hserves', hi⟩
        obtain rfl | hr' := List.mem_cons.mp hr'
        · obtain rfl := Option.some.inj (hj.symm.trans hi)
          -- stopping `i` changes nothing, so both states are one
          obtain rfl := Option.some.inj (hj₁.symm.trans hstop)
          exact ih₂
        · exact ih₁ ⟨r', hr', hserves', hi⟩
    · have hage : ∀ s, stopAge (timerHost e stackByte) br s r = some s := fun s ↦ if_neg hserves
      rw [List.foldlM_cons, List.foldlM_cons, hage, hage]
      refine ⟨ih₂, ?_⟩
      rintro ⟨r', hr', hserves', hi⟩
      obtain rfl | hr' := List.mem_cons.mp hr'
      · exact absurd hserves' hserves
      · exact ih₁ ⟨r', hr', hserves', hi⟩

end Timers

section Discard

variable {e : Endian} {stackByte : U8} {W : Wire κ Φ} {w w' : World κ TimerMgr Φ} {p : ℕ}
variable {q : StpPortEntry κ} {bpdu : StpBpdu κ}

/-- Every field of the instance and of its ports, and every timer of theirs, is as
before. -/
structure Unchanged (w w' : World κ TimerMgr Φ) : Prop where
  br : w'.br = w.br
  timers : ∀ i, some i ∈ w.br.timers → TimerUnchanged i w.env w'.env

theorem Unchanged.of_env (hbr : w'.br = w.br) (henv : w'.env = w.env) : Unchanged w w' := by
  refine ⟨hbr, fun i _ ↦ ?_⟩
  rw [henv]
  exact ⟨fun _ _ _ ↦ Iff.rfl, rfl, rfl, fun _ ↦ rfl⟩

def AgeIdle (env : TimerMgr) (r : StpPortEntry κ) : Prop :=
  ∃ i t, r.messageAgeTimer = some i ∧ env.timers i = some t ∧
    ¬(t.apptimer.isSome ∧ t.isRunning = true)

/-- What a bridge has to be like for a recorded BPDU of its own to come to nothing. -/
structure Absorbs [Add κ] [LinearOrder κ] [OfNat κ 0] (e : Endian) (w : World κ TimerMgr Φ)
    (q : StpPortEntry κ) : Prop where
  designated : stpIsDesignatedPort w.br q
  elected : stpConfigurationUpdate e w.br = some w.br
  settled : ∀ r ∈ w.br.portList, Settled w.br r
  pending : Timers.timerPending w.env q.messageAgeTimer = some false
  idle : ∀ r ∈ w.br.portList, Serves w.br r → AgeIdle w.env r

def Unanswered (H : Host TimerMgr) (w : World κ TimerMgr Φ) (q : StpPortEntry κ) : Prop :=
  stpIsDesignatedPort w.br q →
    H.timerPending q.holdTimer w.env = some true ∧ q.configPending = true ∨
    H.timerPending q.holdTimer w.env = some false ∧ ∃ age, HasAge H w age ∧
      (¬age.setWidth 32 < w.br.maxAge ∨
        q.holdTimer = none ∧ q.topologyChangeAck = false ∧ q.configPending = false)

def Discards [Add κ] [LinearOrder κ] [OfNat κ 0] (H : Host TimerMgr) (w : World κ TimerMgr Φ)
    (q : StpPortEntry κ) (bpdu : StpBpdu κ) : Prop :=
  if (stpSupersedesPortInfo H.endian w.br q bpdu).1 then Absorbs H.endian w q else Unanswered H w q

theorem stpReceivedConfigBpdu_cases [Add κ] [LinearOrder κ] [OfNat κ 0] (H : Host TimerMgr)
    (hq : w.br.portList[p]? = some q) (hflag : q.isOwnBpdu = false) (bpdu : StpBpdu κ) :
    stpReceivedConfigBpdu H W p bpdu w =
      if (stpSupersedesPortInfo H.endian w.br q bpdu).1 then
        (H.modTimer q.messageAgeTimer (lifetime w.br bpdu) w.env).bind fun env ↦
          afterRecording H W p bpdu (stpIsRootBridge w.br)
            { w.modifyPort p (recordConfig bpdu) with env := env }
      else onlyIf (stpIsDesignatedPort w.br q) (stpTransmitConfig H W p) w := by
  have hself : { q with isOwnBpdu := false } = q := by rw [← hflag]
  by_cases hsup : (stpSupersedesPortInfo H.endian w.br q bpdu).1 = true
  · have hrecord : w.modifyPort p (fun q ↦ recordConfig bpdu { q with isOwnBpdu := false }) =
        w.modifyPort p (recordConfig bpdu) :=
      congrArg (fun br ↦ { w with br := br })
        (modifyPort_congr (f := fun q ↦ recordConfig bpdu { q with isOwnBpdu := false })
          (g := recordConfig bpdu) hq (congrArg (recordConfig bpdu) hself))
    rw [if_pos hsup, stpReceivedConfigBpdu_of_supersedes H W hq (hself.symm ▸ hsup), hrecord]
  · rw [if_neg hsup, stpReceivedConfigBpdu_eq H W hq, hself, Bool.eq_false_iff.mpr hsup,
      World.modifyPort_self hq hself, receivedBranch, if_neg Bool.false_ne_true, bind_port hq,
      bind_bridge]

theorem foldlM_stopAge_some {br : StpInstance κ} {l : List (StpPortEntry κ)} {s s' : TimerMgr}
    (h : l.foldlM (stopAge (timerHost e stackByte) br) s = some s') {r : StpPortEntry κ}
    (hr : r ∈ l) (hserves : Serves br r) : ∃ i, r.messageAgeTimer = some i := by
  induction l generalizing s with
  | nil => cases hr
  | cons r' l ih =>
    obtain ⟨s₁, h₁, h₂⟩ := Option.bind_eq_some_iff.mp h
    obtain rfl | hr := List.mem_cons.mp hr
    · rw [stopAge, if_pos hserves, timerHost_delTimer] at h₁
      obtain ⟨i, hi, -⟩ := Option.bind_eq_some_iff.mp h₁
      exact ⟨i, hi⟩
    · exact ih h₂ hr

theorem modTimer_apptimer {i : TimerId} {secs : U32} {s s' : TimerMgr}
    (h : (timerHost e stackByte).modTimer (some i) secs s = some s') :
    (∃ t t', s.timers i = some t ∧ s'.timers i = some t' ∧ t'.apptimer.isSome ∧
      Timers.armTimer i { t with rmt := secs * Timers.tmGetTicksPerSecond } s = some s') ∧
      ∀ j, j ≠ i → s'.timers j = s.timers j := by
  obtain ⟨⟨s₁, r⟩, h₁, rfl⟩ := Option.map_eq_some_iff.mp h
  obtain ⟨-, hnone | hmem⟩ | ⟨j, t, hj, -, ht, harm⟩ := Timers.modTimer_cases h₁
  · cases hnone
  · cases hmem
  · obtain rfl := Option.some.inj hj
    obtain ⟨t', ht', happ⟩ : ∃ t', s₁.timers i = some t' ∧ t'.apptimer.isSome := by
      obtain ⟨-, rfl⟩ | ⟨wheel, k, -, rfl⟩ := Timers.armTimer_cases harm
      · exact ⟨_, Function.update_self _ _ _, rfl⟩
      · exact ⟨_, Function.update_self _ _ _, rfl⟩
    exact ⟨⟨t, t', ht, ht', happ, harm⟩, fun j hj ↦
      (Timers.armTimer_sameFor (Ne.symm hj) harm).timer⟩

variable [Add κ] [LinearOrder κ] [OfNat κ 0]

theorem absorbs_of_unchanged (hw : w.br.Labelled) (hsound : Sound w)
    (hq : w.br.portList[p]? = some q) (hlive : q.state ≠ .disabled) (hflag : q.isOwnBpdu = false)
    (hown : OwnBpdu w.br q bpdu)
    (h : ((timerHost e stackByte).modTimer q.messageAgeTimer (lifetime w.br bpdu) w.env).bind
      (fun env ↦ afterRecording (timerHost e stackByte) W p bpdu (stpIsRootBridge w.br)
        { w.modifyPort p (recordConfig bpdu) with env := env }) = some ((), w'))
    (hsame : Unchanged w w') : Absorbs e w q := by
  have hmem := List.mem_of_getElem? hq
  obtain ⟨env, henv, hafter⟩ := Option.bind_eq_some_iff.mp h
  obtain ⟨hd, helected, hsettled⟩ := fixed_of_afterRecording hw hq hlive hown hafter hsame.br
  have hserves : Serves w.br q :=
    ⟨hlive, ne_rootPort_of_designated hw hmem hlive hd helected, hflag, hd⟩
  rw [afterRecording_of_fixed hw hq hlive hown hd helected hsettled] at hafter
  obtain ⟨env', hfold, heq⟩ := Option.map_eq_some_iff.mp hafter
  obtain ⟨-, rfl⟩ := Prod.mk.inj heq
  obtain ⟨i, hi⟩ := foldlM_stopAge_some hfold hmem hserves
  rw [hi] at henv
  obtain ⟨⟨t, t₁, ht, ht₁, happ, -⟩, hothers⟩ := modTimer_apptimer henv
  -- a timer that a serving port has is idle afterwards, so it was idle before
  have hidle : ∀ r ∈ w.br.portList, Serves w.br r → ∀ j, r.messageAgeTimer = some j →
      ∀ u u', w.env.timers j = some u → env.timers j = some u' →
      ¬(u'.apptimer.isSome ∧ u.isRunning = true) := by
    intro r hr hserves j hj u u' hu hu'
    obtain ⟨u₂, hu₂, happ₂, -, hstop⟩ := foldlM_stopAge_timers hfold hu'
    have hpending := (hsame.timers j (hj ▸ List.mem_append_right _
      (List.mem_flatMap.mpr ⟨r, hr, messageAge_mem_timers r⟩))).pending
    simp only [Timers.timerPending, hu, hu₂, Option.map_some, Option.some.injEq] at hpending
    rw [← hpending, ← happ₂]
    exact hstop r hr hserves hj
  have hnot : t.isRunning = false := by
    have hboth := hidle q hmem hserves i hi t t₁ ht ht₁
    exact Bool.eq_false_iff.mpr fun hrun ↦ hboth ⟨happ, hrun⟩
  refine ⟨hd, helected, hsettled, ?_, ?_⟩
  · simp only [hi, Timers.timerPending, ht, Option.map_some, hnot]
  · intro r hr hserves'
    obtain ⟨j, hj⟩ := foldlM_stopAge_some hfold hr hserves'
    obtain ⟨u, hu, -⟩ := hsound.lasting j (hj ▸ List.mem_append_right _
      (List.mem_flatMap.mpr ⟨r, hr, messageAge_mem_timers r⟩))
    refine ⟨j, u, hj, hu, ?_⟩
    by_cases hji : j = i
    · subst hji
      obtain rfl := Option.some.inj (ht.symm.trans hu)
      exact fun hboth ↦ Bool.false_ne_true (hnot.symm.trans hboth.2)
    · exact hidle r hr hserves' j hj u u hu ((hothers j hji).trans hu)

theorem Absorbs.unchanged (h : Absorbs e w q) (hw : w.br.Labelled) (hsound : Sound w)
    (hq : w.br.portList[p]? = some q) (hlive : q.state ≠ .disabled) (hflag : q.isOwnBpdu = false)
    (hown : OwnBpdu w.br q bpdu) :
    ∃ w', ((timerHost e stackByte).modTimer q.messageAgeTimer (lifetime w.br bpdu) w.env).bind
      (fun env ↦ afterRecording (timerHost e stackByte) W p bpdu (stpIsRootBridge w.br)
        { w.modifyPort p (recordConfig bpdu) with env := env }) = some ((), w') ∧
      Unchanged w w' := by
  have hmem := List.mem_of_getElem? hq
  have hserves : Serves w.br q :=
    ⟨hlive, ne_rootPort_of_designated hw hmem hlive h.designated h.elected, hflag, h.designated⟩
  obtain ⟨i, t, hi, ht, -⟩ := h.idle q hmem hserves
  have hnot : t.isRunning = false := by
    have hpending := h.pending
    simp only [hi, Timers.timerPending, ht, Option.map_some, Option.some.injEq] at hpending
    exact hpending
  obtain ⟨env, harm⟩ := Timers.armTimer_isSome i
    { t with rmt := lifetime w.br bpdu * Timers.tmGetTicksPerSecond } w.env
  have henv : (timerHost e stackByte).modTimer q.messageAgeTimer (lifetime w.br bpdu) w.env =
      some env := by
    simp only [timerHost, hi, Timers.modTimer, Bool.not_true, Bool.false_eq_true,
      if_false, ht, harm,
      Option.map_some]
  obtain ⟨env', hstop, hnodes, hexpd, hclk, hothers, t', ht', hnot'⟩ :=
    Timers.stopTimer_of_armTimer
      (p := { t with rmt := lifetime w.br bpdu * Timers.tmGetTicksPerSecond }) hsound.wf hnot harm
  have hfold : w.br.portList.foldlM (stopAge (timerHost e stackByte) w.br) env = some env' := by
    refine (foldlM_stopAge_eq hstop ?_ ?_).2 ⟨q, hmem, hserves, hi⟩
    · exact Timers.stopTimer_eq_self ht' fun hboth ↦
        Bool.false_ne_true (hnot'.symm.trans hboth.2)
    · intro r hr hserves'
      obtain ⟨j, u, hj, hu, hidle⟩ := h.idle r hr hserves'
      refine ⟨j, hj, ?_⟩
      by_cases hji : j = i
      · exact .inl hji
      · have hsame := (Timers.armTimer_sameFor (Ne.symm hji) harm).timer
        exact .inr ⟨Timers.stopTimer_eq_self (hsame.trans hu) hidle,
          Timers.stopTimer_eq_self ((hothers j hji).trans hu) hidle⟩
  refine ⟨{ w with env := env' }, ?_, rfl, ?_⟩
  · rw [henv, Option.bind_some,
      afterRecording_of_fixed (H := timerHost e stackByte) hw hq hlive hown h.designated h.elected
        h.settled, hfold]
    rfl
  · intro j _
    have hexpired : env'.expired j = w.env.expired j := by
      rw [TimerMgr.expired, TimerMgr.expired, hexpd]
    by_cases hji : j = i
    · subst hji
      have hidle : Timers.timerPending w.env (some j) = some false := by
        simp only [Timers.timerPending, ht, Option.map_some, hnot]
      refine ⟨fun wheel n _ ↦ hnodes wheel n, hexpired, ?_, ?_⟩
      · rw [hidle]
        simp only [Timers.timerPending, ht', Option.map_some, hnot']
      · intro hpending
        rw [hidle] at hpending
        cases hpending
    · refine ⟨fun wheel n _ ↦ hnodes wheel n, hexpired, ?_, fun _ ↦ ?_⟩
      · simp only [Timers.timerPending, hothers j hji]
      · simp only [Timers.timerGetRemainingTime, hothers j hji, hclk]

omit [Add κ] [LinearOrder κ] [OfNat κ 0] in
theorem stpTransmitConfig_of_unheld {age : U16} (hin : InTable q.portNo)
    (hq : w.br.portList[p]? = some q) (hhold : q.holdTimer = none)
    (hage : HasAge (timerHost e stackByte) w age) (hlt : age.setWidth 32 < w.br.maxAge) :
    ∃ w', stpTransmitConfig (timerHost e stackByte) W p w = some ((), w') ∧ w'.env = w.env ∧
      w'.br = w.br.modifyPort p
        ({ · with topologyChangeAck := false, configPending := false }) := by
  obtain ⟨t, ht⟩ : ∃ t, w.portCdb[(q.portNo - 1).toNat]? = some t :=
    ⟨_, Vector.getElem?_eq_getElem hin⟩
  rw [stpTransmitConfig, bind_port hq, hhold]
  change ∃ w', ((messageAge (timerHost e stackByte) w.br w).bind _) = some ((), w') ∧ _
  rw [hage.messageAge_eq]
  change ∃ w', onlyIf (age.setWidth 32 < w.br.maxAge) _ w = some ((), w') ∧ _
  rw [onlyIf, if_pos hlt]
  change ∃ w', (stpSendConfigBpdu (timerHost e stackByte) W q _ w).bind _ = some ((), w') ∧ _
  by_cases hstp : w.br.stpEnabled = true
  · have hsend : ∀ bpdu, stpSendConfigBpdu (timerHost e stackByte) W q bpdu w =
        some ((), w.send q.portNo (W.config t.ifPhysAddress bpdu)) := by
      intro bpdu
      rw [stpSendConfigBpdu, bind_bridge, onlyIf, if_pos hstp]
      change ((w.portCdb[(q.portNo - 1).toNat]?.map fun t ↦ (t, w)).bind _) = _
      rw [ht]
      rfl
    rw [hsend]
    exact ⟨(w.send q.portNo _).modifyPort p _, rfl, rfl, rfl⟩
  · have hdrop : ∀ bpdu, stpSendConfigBpdu (timerHost e stackByte) W q bpdu w = some ((), w) := by
      intro bpdu
      rw [stpSendConfigBpdu, bind_bridge, onlyIf, if_neg hstp]
      rfl
    rw [hdrop]
    exact ⟨w.modifyPort p _, rfl, rfl, rfl⟩

omit [Add κ] [LinearOrder κ] [OfNat κ 0] in
theorem Unanswered.unchanged (h : Unanswered (timerHost e stackByte) w q) (hin : InTable q.portNo)
    (hq : w.br.portList[p]? = some q) :
    ∃ w', onlyIf (stpIsDesignatedPort w.br q) (stpTransmitConfig (timerHost e stackByte) W p) w =
      some ((), w') ∧ Unchanged w w' := by
  by_cases hd : stpIsDesignatedPort w.br q = true
  case neg =>
    rw [onlyIf, if_neg hd]
    exact ⟨w, rfl, .of_env rfl rfl⟩
  rw [onlyIf, if_pos hd]
  obtain ⟨hheld, hpending⟩ | ⟨hidle, age, hage, hold | ⟨hhold, hack, hpending⟩⟩ := h hd
  · refine ⟨_, stpTransmitConfig_of_held hq hheld, ?_⟩
    rw [World.modifyPort_self hq (show { q with configPending := true } = q by rw [← hpending])]
    exact .of_env rfl rfl
  · exact ⟨w, stpTransmitConfig_of_aged hq hidle hage hold, .of_env rfl rfl⟩
  · by_cases hlt : age.setWidth 32 < w.br.maxAge
    · obtain ⟨w', hw', henv, hbr⟩ := stpTransmitConfig_of_unheld (W := W) hin hq hhold hage hlt
      have hack' : { q with topologyChangeAck := false } = q := by rw [← hack]
      have hpending' : { q with configPending := false } = q := by rw [← hpending]
      refine ⟨w', hw', .of_env (hbr.trans (modifyPort_self hq ?_)) henv⟩
      exact (congrArg (fun q : StpPortEntry κ ↦ { q with configPending := false }) hack').trans
        hpending'
    · exact ⟨w, stpTransmitConfig_of_aged hq hidle hage hlt, .of_env rfl rfl⟩

omit [Add κ] [LinearOrder κ] [OfNat κ 0] in
theorem unanswered_of_unchanged (hq : w.br.portList[p]? = some q)
    (h : onlyIf (stpIsDesignatedPort w.br q) (stpTransmitConfig (timerHost e stackByte) W p) w =
      some ((), w')) (hsame : Unchanged w w') : Unanswered (timerHost e stackByte) w q := by
  intro hd
  rw [onlyIf, if_pos hd] at h
  obtain ⟨q', a, hq', ha⟩ := stpTransmitConfig_attempts p _ _ h
  obtain rfl := Option.some.inj (hq.symm.trans hq')
  -- an entry that has been modified and is the same is a fixed point of the modification
  have hfixed : ∀ {f : StpPortEntry κ → StpPortEntry κ}, w.br.modifyPort p f = w.br → f q = q := by
    intro f hf
    have hentry : (w.br.modifyPort p f).portList[p]? = some (f q) := by
      simp only [StpInstance.modifyPort, List.getElem?_modify_eq, hq, Option.map_eq_map,
        Option.map_some]
    rw [hf] at hentry
    exact Option.some.inj (hentry.symm.trans hq)
  -- and a hold timer that was idle and has been armed is pending
  have hhold : ∀ {env : TimerMgr},
    (timerHost e stackByte).timerPending q.holdTimer w.env = some false →
      (timerHost e stackByte).modTimer q.holdTimer 1 w.env = some env → w'.env = env →
      q.holdTimer = none := by
    intro env hidle henv heq
    cases hi : q.holdTimer with
    | none => rfl
    | some i =>
      rw [hi] at hidle henv
      obtain ⟨⟨t, -, -, -, -, harm⟩, -⟩ := modTimer_apptimer henv
      have hslot : (1#32 * Timers.tmGetTicksPerSecond).toNat % 368640000 ≠ 0 := by decide
      have hpending := Timers.timerPending_armTimer harm hslot
      have hkept := (hsame.timers i (mem_timers_of_port hq (hi ▸ hold_mem_timers q))).pending
      rw [heq, hpending] at hkept
      exact absurd (hkept.trans hidle) (by simp)
  cases ha with
  | held hheld => exact .inl ⟨hheld, (congrArg StpPortEntry.configPending (hfixed hsame.br)).symm⟩
  | aged age hidle hage hold => exact .inr ⟨hidle, age, hage, .inl hold⟩
  | sent age t env hidle hage _ _ henv =>
    have hq := hfixed hsame.br
    exact .inr ⟨hidle, age, hage, .inr ⟨hhold hidle henv rfl,
      (congrArg StpPortEntry.topologyChangeAck hq).symm,
      (congrArg StpPortEntry.configPending hq).symm⟩⟩
  | dropped age env hidle hage _ _ henv =>
    have hq := hfixed hsame.br
    exact .inr ⟨hidle, age, hage, .inr ⟨hhold hidle henv rfl,
      (congrArg StpPortEntry.topologyChangeAck hq).symm,
      (congrArg StpPortEntry.configPending hq).symm⟩⟩

variable [OfNat κ 20000]

/-- A port in use takes a BPDU of its own without a trace exactly when it discards it. -/
theorem own_bpdu_unchanged_iff {vlanId : U16} {addr : MacAddress}
    {portCdb : Vector PortT maxPorts} {env : TimerMgr} {evs : List (TimedEvent κ Φ)}
    (hwf : Timers.Wf env)
    (h : Run (timedStep e stackByte W) (fun w ev ↦ Permits w ev ∧ NewNumbers w ev)
      (newInstance (timerHost e stackByte) vlanId addr [] portCdb env) evs w)
    (hq : w.br.portList[p]? = some q) (hlive : q.state ≠ .disabled) (hown : OwnBpdu w.br q bpdu) :
    (∃ w', stpReceivedConfigBpdu (timerHost e stackByte) W p bpdu w = some ((), w') ∧
      Unchanged w w') ↔ Discards (timerHost e stackByte) w q bpdu := by
  have hsound : Sound w :=
    Sound.timedRun (fun _ _ hc ↦ hc.1) (newInstance_sound vlanId addr portCdb hwf) h
  obtain ⟨as, has⟩ := timedRun_actions (D := NewNumber) (fun _ _ hc ↦ hc.2) (fun _ _ ↦ trivial) h
  have hw := labelled_of_run has
  have hmem := List.mem_of_getElem? hq
  have hflag := own_of_run has q hmem
  rw [stpReceivedConfigBpdu_cases _ hq hflag, Discards]
  by_cases hsup : (stpSupersedesPortInfo (timerHost e stackByte).endian w.br q bpdu).1 = true
  · rw [if_pos hsup, if_pos hsup]
    change _ ↔ Absorbs e w q
    constructor
    · rintro ⟨w', hw', hsame⟩
      exact absorbs_of_unchanged hw hsound hq hlive hflag hown hw' hsame
    · intro habsorbs
      exact habsorbs.unchanged hw hsound hq hlive hflag hown
  · rw [if_neg hsup, if_neg hsup]
    constructor
    · rintro ⟨w', hw', hsame⟩
      exact unanswered_of_unchanged hq hw' hsame
    · intro hun
      exact hun.unchanged (hw.inTable q hmem hlive) hq

end Discard

def staleHello : StpBpdu Int32 where
  flags := 0
  rootId := ⟨stpDefPriority, macAddress 0 0 0 0 0 2⟩
  rootPathCost := 0
  bridgeId := ⟨stpDefPriority, macAddress 0 0 0 0 0 2⟩
  portId := stpMakePortId 128 2
  messageAge := 0
  maxAge := 20
  helloTime := 2
  forwardDelay := 15

def leafEvents (n : ℕ) : List (TimedEvent Int32 (List U8)) :=
  (leafActions ++ List.replicate n (Action.event (.receive 1
    ((frames .little).config (macAddress 0 0 0 0 0 1) rootHello)))).map .act

def leafRun (evs : List (TimedEvent Int32 (List U8))) : Option (World Int32 TimerMgr (List U8)) :=
  exec (fun w ev ↦ if ev.plain ∧ NewNumbers w ev then timedStep .little 0 (frames .little) w ev
    else none) leafStart evs

theorem run_of_leafRun {evs : List (TimedEvent Int32 (List U8))}
    {w : World Int32 TimerMgr (List U8)} (h : leafRun evs = some w) :
    Run (timedStep .little 0 (frames .little)) (fun w ev ↦ Permits w ev ∧ NewNumbers w ev)
      leafStart evs w :=
  (run_of_exec h).guarded.mono fun w _ hc ↦ ⟨permits_of_plain hc.1 w, hc.2⟩

/-- The stale hello comes back while a BPDU is held back anyway. -/
theorem own_bpdu_unchanged_held :
    ∃ w w' q, Run (timedStep .little 0 (frames .little))
        (fun w ev ↦ Permits w ev ∧ NewNumbers w ev) leafStart (leafEvents 2) w ∧
      w.br.portList[1]? = some q ∧ q.state ≠ .disabled ∧ OwnBpdu w.br q staleHello ∧
      stpReceivedConfigBpdu (timerHost .little 0) (frames .little) 1 staleHello w = some ((), w') ∧
      Unchanged w w' := by
  have hcheck : ((leafRun (leafEvents 2)).any fun w ↦ w.br.portList[1]?.any fun q ↦
      q.state ≠ .disabled ∧ staleHello.bridgeId = w.br.bridgeId ∧ staleHello.portId = q.portId ∧
      (stpSupersedesPortInfo .little w.br q staleHello).1 = false ∧
      Timers.timerPending w.env q.holdTimer = some true ∧ q.configPending = true) = true := by
    decide +kernel
  simp only [Option.any_eq_true, decide_eq_true_eq] at hcheck
  obtain ⟨w, hw, q, hq, hlive, hbridge, hport, hsup, hheld, hpending⟩ := hcheck
  have hrun := run_of_leafRun hw
  have hdiscards : Discards (timerHost .little 0) w q staleHello := by
    have hinferior : ¬(stpSupersedesPortInfo (timerHost .little 0).endian w.br q staleHello).1 =
      true :=
      Bool.eq_false_iff.mp hsup
    rw [Discards, if_neg hinferior]
    exact fun _ ↦ .inl ⟨hheld, hpending⟩
  obtain ⟨w', hw', hsame⟩ := (own_bpdu_unchanged_iff Timers.wf_init hrun hq hlive
    ⟨hbridge, hport⟩).mpr hdiscards
  exact ⟨w, w', q, hrun, hq, hlive, ⟨hbridge, hport⟩, hw', hsame⟩

/-- The stale hello comes back shortly after a BPDU has been sent, and sets the
pending flag of the port. -/
theorem own_bpdu_sets_pending :
    ∃ w w' q q', Run (timedStep .little 0 (frames .little))
        (fun w ev ↦ Permits w ev ∧ NewNumbers w ev) leafStart (leafEvents 1) w ∧
      w.br.portList[1]? = some q ∧ q.state ≠ .disabled ∧ OwnBpdu w.br q staleHello ∧
      stpReceivedConfigBpdu (timerHost .little 0) (frames .little) 1 staleHello w = some ((), w') ∧
      w'.br.portList[1]? = some q' ∧ q.configPending = false ∧ q'.configPending = true := by
  have hcheck : ((leafRun (leafEvents 1)).any fun w ↦ w.br.portList[1]?.any fun q ↦
      (stpReceivedConfigBpdu (timerHost .little 0) (frames .little) 1 staleHello w).any fun x ↦
      x.2.br.portList[1]?.any fun q' ↦ q.state ≠ .disabled ∧
        staleHello.bridgeId = w.br.bridgeId ∧ staleHello.portId = q.portId ∧
        q.configPending = false ∧ q'.configPending = true) = true := by
    decide +kernel
  simp only [Option.any_eq_true, decide_eq_true_eq] at hcheck
  obtain ⟨w, hw, q, hq, ⟨_, w'⟩, hw', q', hq', hlive, hbridge, hport, hidle, hpending⟩ := hcheck
  exact ⟨w, w', q, q', run_of_leafRun hw, hq, hlive, ⟨hbridge, hport⟩, hw', hq', hidle, hpending⟩

end Layer3Switch.Stp
