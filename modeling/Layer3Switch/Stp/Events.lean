import Layer3Switch.Stp.Deeds

namespace Layer3Switch.Stp

open Lib Lib.Bytes
open Timers (U32)

/-- What can happen to a bridge. Port arguments of type `ℕ` are pointers to
entries, those of type `U16` are port numbers. -/
inductive Event (τ Φ : Type)
  | receive (portNo : U16) (frame : Φ)
  | helloTimer
  | tcnTimer
  | topologyChangeTimer
  | messageAgeTimer (p : ℕ)
  | forwardDelayTimer (p : ℕ)
  | holdTimer (p : ℕ)
  | link (portNo : U16) (status : IfStatus)
  | setState (state : Bool)
  | setPortPriority (p : ℕ) (newprio : U8)
  | setOperStatus (i : Fin maxPorts) (status : IfStatus)
  | host (env : τ)

variable {κ τ Φ : Type}

def Event.Internal : Event τ Φ → Prop
  | .setState _ | .setOperStatus _ _ | .host _ => False
  | _ => True

def World.setOperStatus (w : World κ τ Φ) (i : Fin maxPorts) (status : IfStatus) : World κ τ Φ :=
  { w with portCdb := w.portCdb.set i { w.portCdb.get i with ifOperStatus := status } i.isLt }

variable [Add κ] [LT κ] [DecidableLT κ] [OfNat κ 0]

def handle (H : Host τ) (W : Wire κ Φ) : Event τ Φ → StpM κ τ Φ Unit
  | .receive portNo frame => do
    let _ ← stpProcessBpdu H W portNo frame
    pure ()
  | .helloTimer => stpHelloTimerExpired H W
  | .tcnTimer => stpTcnTimerExpired H W
  | .topologyChangeTimer => stpTopologyChangeTimerExpired
  | .messageAgeTimer p => stpMessageAgeTimerExpired H W p
  | .forwardDelayTimer p => stpForwardDelayTimerExpired H W p
  | .holdTimer p => stpHoldTimerExpired H W p
  | .link portNo status => stpEnableOrDisablePort H W portNo status
  | .setState state => stpSetState H W state
  | .setPortPriority p newprio => stpSetPortPriority H W p newprio
  | .setOperStatus i status => modify fun w ↦ w.setOperStatus i status
  | .host env => modify fun w ↦ { w with env := env }

section Search

variable {br : StpInstance κ} {portNo : U16} {p : ℕ} (hp : stpGetPortEntry br portNo = some p)
include hp

omit [Add κ] [LT κ] [DecidableLT κ] [OfNat κ 0]

theorem stpGetPortEntry_portNo {q : StpPortEntry κ} (hq : br.portList[p]? = some q) :
    q.portNo = portNo.setWidth 32 := by
  obtain ⟨hlt, hat, -⟩ := List.findIdx?_eq_some_iff_getElem.mp hp
  obtain ⟨_, hpeq⟩ := List.getElem?_eq_some_iff.mp hq
  rw [hpeq] at hat
  exact eq_of_beq hat

theorem stpGetPortEntry_before {j : ℕ} {q : StpPortEntry κ} (hj : j < p)
    (hq : br.portList[j]? = some q) : q.portNo ≠ portNo.setWidth 32 := by
  obtain ⟨hlt, -, hbefore⟩ := List.findIdx?_eq_some_iff_getElem.mp hp
  obtain ⟨_, hjeq⟩ := List.getElem?_eq_some_iff.mp hq
  have hne := hbefore j hj
  rw [hjeq] at hne
  exact fun heq ↦ hne (beq_iff_eq.mpr heq)

end Search

section Keeps

variable {H : Host τ} {W : Wire κ Φ} {rcv : U32 → StpBpdu κ → Prop} {I : World κ τ Φ → Prop}
variable {w : World κ τ Φ} (hI : StableInPlace H W rcv I)

omit [Add κ] [OfNat κ 0] in
theorem stpSupersedesPortInfo_kept (e : Endian) (br : StpInstance κ) (p : StpPortEntry κ)
    (bpdu : StpBpdu κ) : PortKept p (stpSupersedesPortInfo e br p bpdu).2 ∧
      (stpSupersedesPortInfo e br p bpdu).2.configPending = p.configPending := by
  unfold stpSupersedesPortInfo
  repeat' split
  all_goals exact ⟨⟨rfl, id⟩, rfl⟩

omit [Add κ] [OfNat κ 0] in
theorem stpSupersedesPortInfo_snd (e : Endian) (br : StpInstance κ) {q : StpPortEntry κ}
    (hown : q.isOwnBpdu = false) (bpdu : StpBpdu κ) :
    (stpSupersedesPortInfo e br q bpdu).2 = q := by
  have hself : { q with isOwnBpdu := false } = q := by rw [← hown]
  simp only [stpSupersedesPortInfo, hself, ite_self]
  repeat' split
  all_goals rfl

omit [Add κ] [OfNat κ 0] in
theorem supersedesPortInfo_ends (p : ℕ) (bpdu : StpBpdu κ) :
    Ends (supersedesPortInfo H p bpdu) w fun supersedes w' ↦
      ∃ q, w.br.portList[p]? = some q ∧
        supersedes = (stpSupersedesPortInfo H.endian w.br q bpdu).1 ∧
        w' = w.modifyPort p fun _ ↦ (stpSupersedesPortInfo H.endian w.br q bpdu).2 := by
  apply Ends.bind
  apply ends_reads
  intro q hq
  apply Ends.bind
  apply ends_bridge
  apply Ends.bind
  apply Ends.update
  exact .pure ⟨q, hq, rfl, rfl⟩

include hI

theorem ceaseToBeRoot_keeps (h : I w) : Ends (ceaseToBeRoot H W) w fun _ w' ↦ I w' := by
  apply Ends.bind
  apply ends_bridge
  have hJ := hI.and (closed_fixed_eq w.br.fixed).stable.inPlace
  refine (delTimer_keeps hJ (hello_startable w.br) ⟨h, rfl⟩).andThen ?_
  intro _ w₁ h₁
  apply Ends.onlyIf
  · intro _
    refine (delTimer_keeps hJ
      (startable_of_fixed h₁.2 ▸ topologyChange_startable w.br) h₁).andThen ?_
    intro _ w₂ h₂
    refine (stpTransmitTcn_keeps hJ h₂).andThen ?_
    intro _ w₃ h₃
    exact modTimer_keeps hI _ (startable_of_fixed h₃.2 ▸ tcn_startable w.br) h₃.1
  · intro _
    exact h₁.1

theorem receivedOnRootPort_keeps (bpdu : StpBpdu κ) (h : I w) :
    Ends (receivedOnRootPort H W bpdu) w fun _ w' ↦ I w' := by
  refine (setBridge_keeps hI ⟨rfl⟩ h).andThen ?_
  intro _ w h
  refine (stpConfigBpduGeneration_keeps hI h).andThen ?_
  intro _ w h
  apply Ends.onlyIf
  · intro _
    refine (setBridge_keeps hI ⟨rfl⟩ h).andThen ?_
    intro _ w h
    apply Ends.bind
    apply ends_bridge
    exact delTimer_keeps hI (tcn_startable w.br) h
  · intro _
    exact h

theorem stpRecordConfigInformation_keeps {p : ℕ} {bpdu : StpBpdu κ}
    (hr : ∀ q, w.br.portList[p]? = some q → rcv q.portNo bpdu) (h : I w) :
    Ends (stpRecordConfigInformation H p bpdu) w fun _ w' ↦ I w' := by
  apply Ends.bind
  apply Ends.update
  apply Ends.bind
  apply ends_reads
  intro q' hq'
  apply Ends.bind
  apply ends_bridge
  apply ends_callEnv
  intro env henv
  simp only [World.modifyPort, List.getElem?_modify_eq, Option.map_eq_map,
    Option.map_eq_some_iff] at hq'
  obtain ⟨q, hq, rfl⟩ := hq'
  exact hI (.record w p q bpdu env hq (hr q hq) henv) rfl h

theorem recordSuperior_keeps {p : ℕ} {bpdu : StpBpdu κ}
    (hr : ∀ q, w.br.portList[p]? = some q → rcv q.portNo bpdu) (wasRoot : Bool) (h : I w) :
    Ends (recordSuperior H W p bpdu wasRoot) w fun _ w' ↦ I w' := by
  refine (stpRecordConfigInformation_keeps hI hr h).andThen ?_
  intro _ w h
  refine (configurationUpdate_keeps hI h).andThen ?_
  intro _ w h
  refine (stpPortStateSelection_keeps hI h).andThen ?_
  intro _ w h
  apply Ends.bind
  apply ends_bridge
  exact .onlyIf (fun _ ↦ ceaseToBeRoot_keeps hI h) fun _ ↦ h

theorem supersedesPortInfo_keeps (p : ℕ) (bpdu : StpBpdu κ) (h : I w) :
    Ends (supersedesPortInfo H p bpdu) w fun _ w' ↦ I w' := by
  refine (supersedesPortInfo_ends p bpdu).mono ?_
  intro _ _ h'
  obtain ⟨q, hq, -, rfl⟩ := h'
  apply hI (.set w p _ _) rfl h
  intro q' hq'
  obtain rfl := Option.some.inj (hq.symm.trans hq')
  exact stpSupersedesPortInfo_kept _ _ _ _

theorem stpReceivedConfigBpdu_keeps {p : ℕ} {bpdu : StpBpdu κ}
    (hr : ∀ q, w.br.portList[p]? = some q → rcv q.portNo bpdu) (h : I w) :
    Ends (stpReceivedConfigBpdu H W p bpdu) w fun _ w' ↦ I w' := by
  have hJ := hI.and (closed_portNo p fun portNo ↦ rcv portNo bpdu).stable.inPlace
  apply Ends.bind
  apply ends_bridge
  refine (setPort_keeps hJ ?_ ⟨h, hr⟩).andThen ?_
  · exact fun _ _ ↦ ⟨⟨rfl, id⟩, rfl⟩
  intro _ w h
  refine (supersedesPortInfo_keeps hJ p bpdu h).andThen ?_
  intro _ w h
  apply Ends.ite
  · intro _
    refine (recordSuperior_keeps hJ h.2 _ h).andThen ?_
    intro _ w h
    apply Ends.bind
    apply ends_reads
    intro q _
    apply Ends.bind
    apply ends_bridge
    exact .onlyIf (fun _ ↦ receivedOnRootPort_keeps hI bpdu h.1) fun _ ↦ h.1
  · intro _
    apply Ends.bind
    apply ends_reads
    intro q _
    apply Ends.bind
    apply ends_bridge
    exact .onlyIf (fun _ ↦ stpTransmitConfig_keeps hI p h.1) fun _ ↦ h.1

theorem stpReceivedTcnBpdu_keeps (p : ℕ) (h : I w) :
    Ends (stpReceivedTcnBpdu H W p) w fun _ w' ↦ I w' := by
  apply Ends.bind
  apply ends_reads
  intro q _
  apply Ends.bind
  apply ends_bridge
  apply Ends.onlyIf
  · intro _
    refine (stpTopologyChangeDetection_keeps hI h).andThen ?_
    intro _ w h
    refine (setPort_keeps hI ?_ h).andThen ?_
    · exact fun _ _ ↦ ⟨⟨rfl, id⟩, rfl⟩
    intro _ w h
    exact stpTransmitConfig_keeps hI p h
  · intro _
    exact h

theorem stpProcessBpdu_keeps {portNo : U16} {frame : Φ}
    (hr : ∀ bpdu, W.type frame = some bpduConfigType → W.decode frame = some bpdu →
      rcv (portNo.setWidth 32) bpdu) (h : I w) :
    Ends (stpProcessBpdu H W portNo frame) w fun _ w' ↦ I w' := by
  apply Ends.bind
  apply ends_bridge
  cases hp : stpGetPortEntry w.br portNo with
  | none => exact .pure h
  | some p =>
    apply Ends.bind
    apply ends_reads
    intro q _
    apply Ends.ite
    · intro _
      exact .pure h
    · intro _
      apply Ends.bind
      apply ends_reads
      intro type htype
      apply Ends.ite
      · intro hc
        apply Ends.ite
        · intro _
          exact .pure h
        · intro _
          apply Ends.bind
          apply ends_reads
          intro bpdu hbpdu
          have hr' := hr bpdu (hc ▸ htype) hbpdu
          refine (stpReceivedConfigBpdu_keeps hI ?_ h).andThen ?_
          · intro q hq
            rwa [stpGetPortEntry_portNo hp hq]
          intro _ w h
          exact .pure h
      · intro _
        apply Ends.ite
        · intro _
          apply Ends.ite
          · intro _
            exact .pure h
          · intro _
            refine (stpReceivedTcnBpdu_keeps hI p h).andThen ?_
            intro _ w h
            exact .pure h
        · intro _
          exact .pure h

theorem becomeRootIfElected_keeps (wasRoot : Bool) (h : I w) :
    Ends (becomeRootIfElected H W wasRoot) w fun _ w' ↦ I w' := by
  refine (configurationUpdate_keeps hI h).andThen ?_
  intro _ w h
  refine (stpPortStateSelection_keeps hI h).andThen ?_
  intro _ w h
  apply Ends.bind
  apply ends_bridge
  exact .onlyIf (fun _ ↦ stpBecomeRootBridge_keeps hI h) fun _ ↦ h

theorem stpDisablePort_keeps (p : ℕ) (h : I w) :
    Ends (stpDisablePort H W p) w fun _ w' ↦ I w' := by
  apply Ends.bind
  apply ends_bridge
  apply Ends.bind
  apply Ends.update
  apply Ends.bind
  apply Ends.update
  apply Ends.bind
  apply ends_reads
  intro q hq
  obtain ⟨q₁, hq₁, hdis⟩ : ∃ q₁, (w.modifyPort p (stpBecomeDesignatedPort w.br)).br.portList[p]? =
      some q₁ ∧ q.state = .disabled := by
    simp only [World.modifyPort, List.getElem?_modify_eq, Option.map_eq_map,
      Option.map_eq_some_iff] at hq ⊢
    obtain ⟨q₁, hq₁, rfl⟩ := hq
    exact ⟨q₁, hq₁, rfl⟩
  have h₁ := hI (.disable _ p q₁ hq₁) rfl (hI (.designate w p) rfl h)
  generalize (w.modifyPort p _).modifyPort p _ = w₁ at h₁ hq ⊢
  apply Ends.bind
  apply ends_callEnv
  intro env₂ henv₂
  have h₂ := hI (.stopAge w₁ p q env₂ hq (.inl hdis) henv₂) rfl h₁
  apply Ends.bind
  apply ends_callEnv
  intro env₃ henv₃
  have h₃ := hI (.stop { w₁ with env := env₂ } _ env₃ (forwardDelay_startable hq) henv₃) rfl h₂
  apply Ends.bind
  apply ends_callEnv
  intro env₄ henv₄
  exact becomeRootIfElected_keeps hI _
    (hI (.unhold { w₁ with env := env₃ } p q env₄ hq hdis henv₄) rfl h₃)

theorem stpEnablePort_keeps {p : ℕ}
    (hup : ∀ q t, w.br.portList[p]? = some q → w.portCdb[(q.portNo - 1).toNat]? = some t →
      w.operStatus q.portNo ≠ some .down → I (w.initPort p q t))
    (hdown : ∀ q, w.br.portList[p]? = some q → w.operStatus q.portNo = some .down → I w) :
    Ends (stpEnablePort H W p) w fun _ w' ↦ I w' := by
  apply Ends.bind
  apply ends_reads
  intro q hq
  apply Ends.bind
  apply ends_reads
  intro t ht
  have hst : w.operStatus q.portNo = some t.ifOperStatus := by
    rw [World.operStatus, ht, Option.map_some]
  apply Ends.onlyIf
  · intro hne
    have hset : Ends (stpInitPort p) w fun _ w' ↦ I w' := by
      apply Ends.bind
      apply ends_bridge
      apply Ends.bind
      apply Ends.update
      apply Ends.bind
      apply ends_reads
      intro q' hq'
      have hq₁ : (w.modifyPort p (initPort w.br)).br.portList[p]? = some (initPort w.br q) := by
        simp [World.modifyPort, hq]
      obtain rfl := Option.some.inj (hq₁.symm.trans hq')
      apply Ends.bind
      apply ends_reads
      intro t' ht'
      obtain rfl := Option.some.inj (ht.symm.trans ht')
      apply Ends.update
      apply hup q t hq ht
      rw [hst]
      exact fun hd ↦ hne (Option.some.inj hd)
    refine hset.andThen ?_
    intro _ w h
    exact stpPortStateSelection_keeps hI h
  · intro hd
    apply hdown q hq
    rw [hst, not_ne_iff.mp hd]

theorem stpSetPortPriority_keeps (p : ℕ) (newprio : U8) (h : I w) :
    Ends (stpSetPortPriority H W p newprio) w fun _ w' ↦ I w' := by
  apply Ends.bind
  apply ends_bridge
  apply Ends.bind
  apply Ends.update
  apply Ends.bind
  apply ends_reads
  intro q _
  apply Ends.onlyIf
  · intro _
    refine (becomeDesignatedPort_keeps hI p (hI (.rename w p newprio) rfl h)).andThen ?_
    intro _ w h
    exact stpPortStateSelection_keeps hI h
  · intro _
    exact hI (.rename w p newprio) rfl h

theorem stpHelloTimerExpired_keeps (h : I w) :
    Ends (stpHelloTimerExpired H W) w fun _ w' ↦ I w' := by
  refine (stpConfigBpduGeneration_keeps hI h).andThen ?_
  intro _ w h
  apply Ends.bind
  apply ends_bridge
  exact modTimer_keeps hI _ (hello_startable w.br) h

theorem stpMessageAgeTimerExpired_keeps (p : ℕ) (h : I w) :
    Ends (stpMessageAgeTimerExpired H W p) w fun _ w' ↦ I w' := by
  apply Ends.bind
  apply ends_reads
  intro q _
  apply Ends.bind
  apply ends_bridge
  apply Ends.onlyIf
  · intro _
    refine (setPort_keeps hI ?_ h).andThen ?_
    · exact fun _ _ ↦ ⟨⟨rfl, id⟩, rfl⟩
    intro _ w h
    refine (becomeDesignatedPort_keeps hI p h).andThen ?_
    intro _ w h
    exact becomeRootIfElected_keeps hI _ h
  · intro _
    exact h

theorem stpForwardDelayTimerExpired_keeps (p : ℕ) (h : I w) :
    Ends (stpForwardDelayTimerExpired H W p) w fun _ w' ↦ I w' := by
  apply Ends.bind
  apply ends_reads
  intro q hq
  apply Ends.bind
  apply ends_bridge
  apply Ends.ite
  · intro hs
    have hJ := hI.and (closed_fixed_eq w.br.fixed).stable.inPlace
    refine (setState_keeps hJ hq (by rw [hs]; exact PortState.noConfusion) _ ⟨h, rfl⟩).andThen ?_
    intro _ w₁ h₁
    exact modTimer_keeps hI _ (startable_of_fixed h₁.2 ▸ forwardDelay_startable hq) h₁.1
  · intro _
    apply Ends.onlyIf
    · intro hs
      refine (setState_keeps hI hq (by rw [hs]; exact PortState.noConfusion) _ h).andThen ?_
      intro _ w h
      apply Ends.bind
      apply ends_bridge
      exact .onlyIf (fun _ ↦ stpTopologyChangeDetection_keeps hI h) fun _ ↦ h
    · intro _
      exact h

theorem stpTcnTimerExpired_keeps (h : I w) : Ends (stpTcnTimerExpired H W) w fun _ w' ↦ I w' := by
  refine (stpTransmitTcn_keeps hI h).andThen ?_
  intro _ w h
  apply Ends.bind
  apply ends_bridge
  exact modTimer_keeps hI _ (tcn_startable w.br) h

theorem stpTopologyChangeTimerExpired_keeps (h : I w) :
    Ends stpTopologyChangeTimerExpired w fun _ w' ↦ I w' := by
  apply setBridge_keeps hI _ h
  exact ⟨rfl⟩

theorem stpHoldTimerExpired_keeps (p : ℕ) (h : I w) :
    Ends (stpHoldTimerExpired H W p) w fun _ w' ↦ I w' := by
  apply Ends.bind
  apply ends_reads
  intro q _
  exact .onlyIf (fun _ ↦ stpTransmitConfig_keeps hI p h) fun _ ↦ h

theorem stopBridgeTimers_keeps (h : I w) :
    Ends (do delTimer H w.br.helloTimer; delTimer H w.br.topologyChangeTimer
             delTimer H w.br.tcnTimer) w fun _ w' ↦ I w' := by
  have hJ := hI.and (closed_fixed_eq w.br.fixed).stable.inPlace
  refine (delTimer_keeps hJ (hello_startable w.br) ⟨h, rfl⟩).andThen ?_
  intro _ w₁ h₁
  refine (delTimer_keeps hJ
    (startable_of_fixed h₁.2 ▸ topologyChange_startable w.br) h₁).andThen ?_
  intro _ w₂ h₂
  exact delTimer_keeps hI (startable_of_fixed h₂.2 ▸ tcn_startable w.br) h₂.1

theorem stpDisable_keeps
    (hrem : ∀ w, I w → I { w with br := { w.br with portList := w.br.portList.tail } }) (h : I w) :
    Ends (stpDisable H W) w fun _ w' ↦ I w' := by
  have hloop : Ends (forPorts fun _ ↦ stpDisableHead H W) w fun _ w' ↦ I w' := by
    apply ends_forPorts _ h
    intro p w h
    apply Ends.bind
    apply ends_reads
    intro q _
    have hd : Ends (onlyIf (q.state ≠ .disabled) (stpDisablePort H W 0)) w fun _ w' ↦ I w' :=
      .onlyIf (fun _ ↦ stpDisablePort_keeps hI 0 h) fun _ ↦ h
    refine hd.andThen ?_
    intro _ w h
    exact .update (hrem w h)
  refine hloop.andThen ?_
  intro _ w h
  refine (setBridge_keeps hI ⟨rfl⟩ h).andThen ?_
  intro _ w h
  apply Ends.bind
  apply ends_bridge
  exact stopBridgeTimers_keeps hI h

end Keeps

def UpEnabled (k : ℕ) (w : World κ τ Φ) : Prop :=
  ∀ j < k, ∀ q, w.br.portList[j]? = some q → w.operStatus q.portNo ≠ some .down → q.enabled

section Enabling

variable {H : Host τ} {W : Wire κ Φ} {rcv : U32 → StpBpdu κ → Prop} {I : World κ τ Φ → Prop}
variable {w : World κ τ Φ} (hI : Stable H W rcv I)

theorem closed_upEnabled (k : ℕ) : Closed H W rcv (UpEnabled k) := by
  intro w w' hc h j hj q' hq' hst
  obtain ⟨q, hq, hkept⟩ := hc.entries hq'
  rw [hc.operStatus, hkept.portNo] at hst
  exact hkept.enabled (h j hj q hq hst)

include hI

theorem stpEnable_keeps (h : I w) : Ends (stpEnable H W) w fun _ w' ↦ I w' := by
  refine (setBridge_keeps hI.inPlace ⟨rfl⟩ h).andThen ?_
  intro _ w h
  apply Ends.bind
  apply ends_bridge
  refine (modTimer_keeps hI.inPlace _ (hello_startable w.br) h).andThen ?_
  intro _ w h
  refine (stpConfigBpduGeneration_keeps hI.inPlace h).andThen ?_
  intro _ w h
  refine Ends.mono (Ends.forM_range (I := fun k w ↦ I w ∧ UpEnabled k w) ?_ ?_) fun _ _ h ↦ h.1
  · intro k w h
    apply stpEnablePort_keeps (hI.and (closed_upEnabled (k + 1)).stable).inPlace
    · intro q t hq ht hst
      have hfirst : ∀ j < k, ∀ q', w.br.portList[j]? = some q' → q'.portNo = q.portNo →
          q'.enabled := by
        intro j hj q' hq' hno
        apply h.2 j hj q' hq'
        rwa [hno]
      have hinit := hI.and (closed_upEnabled k).stable (.init w k q t hq ht hfirst) h
      refine ⟨hinit.1, ?_⟩
      intro j hj q' hq' hst'
      obtain hj | rfl := Nat.lt_succ_iff_lt_or_eq.mp hj
      · exact hinit.2 j hj q' hq' hst'
      · simp only [World.initPort, World.modifyPort, List.getElem?_modify, hq] at hq'
        obtain rfl := Option.some.inj hq'
        rfl
    · intro q hq hst
      refine ⟨h.1, ?_⟩
      intro j hj q' hq' hst'
      obtain hj | rfl := Nat.lt_succ_iff_lt_or_eq.mp hj
      · exact h.2 j hj q' hq' hst'
      · obtain rfl := Option.some.inj (hq.symm.trans hq')
        exact absurd hst hst'
  · exact ⟨h, fun j hj ↦ absurd hj (Nat.not_lt_zero j)⟩

theorem stpEnableOrDisablePort_keeps (portNo : U16) (status : IfStatus) (h : I w) :
    Ends (stpEnableOrDisablePort H W portNo status) w fun _ w' ↦ I w' := by
  apply Ends.bind
  apply ends_bridge
  apply Ends.bind
  apply ends_reads
  intro p hp
  cases status with
  | up =>
    apply stpEnablePort_keeps hI.inPlace
    · intro q t hq ht _
      apply hI (.init w p q t hq ht _) h
      intro j hj q' hq' hno
      rw [stpGetPortEntry_portNo hp hq] at hno
      exact absurd hno (stpGetPortEntry_before hp hj hq')
    · intro _ _ _
      exact h
  | down => exact stpDisablePort_keeps hI.inPlace p h

theorem handle_internal_keeps {ev : Event τ Φ} (hev : ev.Internal)
    (hr : ∀ portNo frame bpdu, ev = .receive portNo frame →
      W.type frame = some bpduConfigType → W.decode frame = some bpdu →
      rcv (portNo.setWidth 32) bpdu) (h : I w) :
    Ends (handle H W ev) w fun _ w' ↦ I w' := by
  cases ev with
  | receive portNo frame =>
    refine (stpProcessBpdu_keeps hI.inPlace (fun bpdu ↦ hr portNo frame bpdu rfl) h).andThen ?_
    intro _ w h
    exact .pure h
  | helloTimer => exact stpHelloTimerExpired_keeps hI.inPlace h
  | tcnTimer => exact stpTcnTimerExpired_keeps hI.inPlace h
  | topologyChangeTimer => exact stpTopologyChangeTimerExpired_keeps hI.inPlace h
  | messageAgeTimer p => exact stpMessageAgeTimerExpired_keeps hI.inPlace p h
  | forwardDelayTimer p => exact stpForwardDelayTimerExpired_keeps hI.inPlace p h
  | holdTimer p => exact stpHoldTimerExpired_keeps hI.inPlace p h
  | link portNo status => exact stpEnableOrDisablePort_keeps hI portNo status h
  | setPortPriority p newprio => exact stpSetPortPriority_keeps hI.inPlace p newprio h
  | setState | setOperStatus | host => exact absurd hev id

section Removal

variable (hrem : ∀ w, I w → I { w with br := { w.br with portList := w.br.portList.tail } })
include hrem

theorem stpSetState_keeps (state : Bool) (h : I w) :
    Ends (stpSetState H W state) w fun _ w' ↦ I w' := by
  have hset : Ends (if state then stpEnable H W else stpDisable H W) w fun _ w' ↦ I w' := by
    apply Ends.ite
    · intro _
      exact stpEnable_keeps hI h
    · intro _
      exact stpDisable_keeps hI.inPlace hrem h
  refine hset.andThen ?_
  intro _ w h
  exact setBridge_keeps hI.inPlace ⟨rfl⟩ h

theorem handle_keeps (hoper : ∀ w i status, I w → I (w.setOperStatus i status))
    (hhost : ∀ w env, I w → I { w with env := env }) (ev : Event τ Φ)
    (hr : ∀ portNo frame bpdu, ev = .receive portNo frame →
      W.type frame = some bpduConfigType → W.decode frame = some bpdu →
      rcv (portNo.setWidth 32) bpdu) (h : I w) :
    Ends (handle H W ev) w fun _ w' ↦ I w' := by
  cases ev with
  | setState state => exact stpSetState_keeps hI hrem state h
  | setOperStatus i status => exact .update (hoper w i status h)
  | host env => exact .update (hhost w env h)
  | _ => exact handle_internal_keeps hI trivial hr h

end Removal

end Enabling

end Layer3Switch.Stp
