import Layer3Switch.Stp.Changes
import Layer3Switch.Timers.Tick

namespace Layer3Switch.Stp

open Lib Lib.Bytes
open Timers (U32 TimerId)

variable {κ τ Φ : Type}

def Serves (br : StpInstance κ) (q : StpPortEntry κ) : Prop :=
  q.state ≠ .disabled ∧ q.portNo ≠ br.rootPort ∧ q.isOwnBpdu = false ∧ stpIsDesignatedPort br q

instance (br : StpInstance κ) (q : StpPortEntry κ) : Decidable (Serves br q) :=
  inferInstanceAs (Decidable (_ ∧ _))

/-- What has happened to an instance, with the timers that tell which port it was:
first what the protocol does by itself, then what is done to it from outside. -/
inductive Label (κ Φ : Type)
  | start (timer : TimerRef) (secs : U32)
  | stop (timer : TimerRef)
  | unhold (hold : TimerRef)
  | transmit (hold : TimerRef) (a : Attempt Φ)
  | record (age : TimerRef) (secs : U32) (bpdu : StpBpdu κ)
  | settle (hold : TimerRef)
  | disable (hold : TimerRef)
  | init (hold : TimerRef)
  | notify (portNo : U32) (frame : Φ)
  | assign
  | create (portNo : U32)
  | remove
  | tick (fired : List TimerId)
  | manager (ev : Timers.Event)

variable [Add κ] [LT κ] [DecidableLT κ] [OfNat κ 0]

/-- What the protocol does to its state, with the calls kept whole that belong
together: a BPDU is recorded with its lifetime, and transmitted with its hold
time. -/
inductive Deed (H : Host τ) (W : Wire κ Φ) (rcv : U32 → StpBpdu κ → Prop) :
    Label κ Φ → World κ τ Φ → World κ τ Φ → Prop
  | start (w : World κ τ Φ) (t : TimerRef) (secs : U32) (env : τ) : t ∈ w.br.startable →
      H.modTimer t secs w.env = some env → Deed H W rcv (.start t secs) w { w with env := env }
  | stop (w : World κ τ Φ) (t : TimerRef) (env : τ) : t ∈ w.br.startable →
      H.delTimer t w.env = some env → Deed H W rcv (.stop t) w { w with env := env }
  /-- A port in use has its message age timer stopped when it is designated. -/
  | stopAge (w : World κ τ Φ) (p : ℕ) (q : StpPortEntry κ) (env : τ) : w.br.portList[p]? = some q →
      q.state = .disabled ∨ Serves w.br q → H.delTimer q.messageAgeTimer w.env = some env →
      Deed H W rcv (.stop q.messageAgeTimer) w { w with env := env }
  /-- A port that is being disabled has its hold timer stopped. -/
  | unhold (w : World κ τ Φ) (p : ℕ) (q : StpPortEntry κ) (env : τ) : w.br.portList[p]? = some q →
      q.state = .disabled → H.delTimer q.holdTimer w.env = some env →
      Deed H W rcv (.unhold q.holdTimer) w { w with env := env }
  | transmit (w w' : World κ τ Φ) (p : ℕ) (q : StpPortEntry κ) (a : Attempt Φ) :
      w.br.portList[p]? = some q → Attempts H W p q w a w' →
      Deed H W rcv (.transmit q.holdTimer a) w w'
  | record (w : World κ τ Φ) (p : ℕ) (q : StpPortEntry κ) (bpdu : StpBpdu κ) (env : τ) :
      w.br.portList[p]? = some q → rcv q.portNo bpdu →
      H.modTimer q.messageAgeTimer (w.br.maxAge - bpdu.messageAge.setWidth 32) w.env = some env →
      Deed H W rcv
        (.record q.messageAgeTimer (w.br.maxAge - bpdu.messageAge.setWidth 32) bpdu) w
        { w.modifyPort p (recordConfig bpdu) with env := env }
  | elect (w : World κ τ Φ) (br : StpInstance κ) :
      stpConfigurationUpdate H.endian w.br = some br → Deed H W rcv .assign w { w with br := br }
  | designate (w : World κ τ Φ) (p : ℕ) :
      Deed H W rcv .assign w (w.modifyPort p (stpBecomeDesignatedPort w.br))
  | set (w : World κ τ Φ) (p : ℕ) (f : StpPortEntry κ → StpPortEntry κ) :
      (∀ q, w.br.portList[p]? = some q →
        PortKept q (f q) ∧ (f q).configPending = q.configPending) →
      Deed H W rcv .assign w (w.modifyPort p f)
  /-- The state selection finds the port to be the root port, or without a role. -/
  | settle (w : World κ τ Φ) (p : ℕ) (q : StpPortEntry κ) : w.br.portList[p]? = some q →
      q.state ≠ .disabled → ¬Serves w.br q →
      Deed H W rcv (.settle q.holdTimer) w
        (w.modifyPort p ({ · with configPending := false, topologyChangeAck := false }))
  | disable (w : World κ τ Φ) (p : ℕ) (q : StpPortEntry κ) : w.br.portList[p]? = some q →
      Deed H W rcv (.disable q.holdTimer) w (w.modifyPort p ({ · with
        state := .disabled, topologyChangeAck := false, configPending := false,
        isOwnBpdu := false }))
  | rename (w : World κ τ Φ) (p : ℕ) (newprio : U8) :
      Deed H W rcv .assign w (w.modifyPort p (renamePort newprio w.br))
  | init (w : World κ τ Φ) (p : ℕ) (q : StpPortEntry κ) (t : PortT) : w.br.portList[p]? = some q →
      w.portCdb[(q.portNo - 1).toNat]? = some t →
      (∀ j < p, ∀ q', w.br.portList[j]? = some q' → q'.portNo = q.portNo → q'.enabled) →
      Deed H W rcv (.init q.holdTimer) w (w.initPort p q t)
  | bridge (w : World κ τ Φ) (f : StpInstance κ → StpInstance κ) : BridgeKept w.br (f w.br) →
      Deed H W rcv .assign w { w with br := f w.br }
  | sendTcn (w : World κ τ Φ) (portNo : U32) (smac : MacAddress) :
      Deed H W rcv (.notify portNo (W.tcn smac)) w (w.send portNo (W.tcn smac))

def Stable (H : Host τ) (W : Wire κ Φ) (rcv : U32 → StpBpdu κ → Prop) (I : World κ τ Φ → Prop) :
    Prop :=
  ∀ ⦃l w w'⦄, Deed H W rcv l w w' → I w → I w'

def StableInPlace (H : Host τ) (W : Wire κ Φ) (rcv : U32 → StpBpdu κ → Prop)
    (I : World κ τ Φ → Prop) : Prop :=
  ∀ ⦃l w w'⦄, Deed H W rcv l w w' → w'.portCdb = w.portCdb → I w → I w'

section Stable

variable {H : Host τ} {W : Wire κ Φ} {rcv : U32 → StpBpdu κ → Prop} {I J : World κ τ Φ → Prop}

theorem Stable.inPlace (hI : Stable H W rcv I) : StableInPlace H W rcv I :=
  fun _ _ _ hd _ h ↦ hI hd h

theorem StableInPlace.and (hI : StableInPlace H W rcv I) (hJ : StableInPlace H W rcv J) :
    StableInPlace H W rcv fun w ↦ I w ∧ J w :=
  fun _ _ _ hd hcdb h ↦ ⟨hI hd hcdb h.1, hJ hd hcdb h.2⟩

theorem Stable.and (hI : Stable H W rcv I) (hJ : Stable H W rcv J) :
    Stable H W rcv fun w ↦ I w ∧ J w :=
  fun _ _ _ hd h ↦ ⟨hI hd h.1, hJ hd h.2⟩

theorem Attempts.closedInPlace {p : ℕ} {q : StpPortEntry κ} {a : Attempt Φ} {w w' : World κ τ Φ}
    (ha : Attempts H W p q w a w') (hq : w.br.portList[p]? = some q)
    (hI : ClosedInPlace H W rcv I) (h : I w) : I w' := by
  have hclear : ∀ w', I w' →
      I (w'.modifyPort p ({ · with topologyChangeAck := false, configPending := false })) :=
    fun w' ↦ hI (.port w' p _ fun _ _ ↦ ⟨rfl, id⟩) rfl
  have hmem := mem_timers_of_port hq (hold_mem_timers q)
  cases ha with
  | held _ => exact hI (.port w p _ fun _ _ ↦ ⟨rfl, id⟩) rfl h
  | aged _ _ _ _ => exact h
  | sent age t env _ _ _ _ henv =>
    have h₁ := hI (.env w env (.mod _ _ hmem henv)) rfl h
    have h₂ := hI (.sendConfig { w with env := env } q t.ifPhysAddress (H.stackByte w.env) age
      (List.mem_of_getElem? hq)) rfl h₁
    exact hclear _ h₂
  | dropped _ env _ _ _ _ henv => exact hclear _ (hI (.env w env (.mod _ _ hmem henv)) rfl h)

omit [Add κ] [LT κ] [DecidableLT κ] [OfNat κ 0] in
theorem Attempts.portCdb {p : ℕ} {q : StpPortEntry κ} {a : Attempt Φ} {w w' : World κ τ Φ}
    (ha : Attempts H W p q w a w') : w'.portCdb = w.portCdb := by
  cases ha <;> rfl

theorem ClosedInPlace.stableInPlace (hI : ClosedInPlace H W rcv I) : StableInPlace H W rcv I := by
  intro l w w' hd hcdb h
  cases hd with
  | start w t secs env ht henv =>
    exact hI (.env w env (.mod t secs (mem_timers_of_startable ht) henv)) rfl h
  | stop w t env ht henv => exact hI (.env w env (.del t (mem_timers_of_startable ht) henv)) rfl h
  | stopAge w p q env hq _ henv =>
    exact hI (.env w env (.del _ (mem_timers_of_port hq (messageAge_mem_timers q)) henv)) rfl h
  | unhold w p q env hq _ henv =>
    exact hI (.env w env (.del _ (mem_timers_of_port hq (hold_mem_timers q)) henv)) rfl h
  | transmit w _ p q a hq ha => exact ha.closedInPlace hq hI h
  | record w p q bpdu env hq hr henv =>
    have hmem := mem_timers_of_port hq (messageAge_mem_timers q)
    have h₁ := hI (.env w env (.mod _ _ hmem henv)) rfl h
    refine hI (.record { w with env := env } p bpdu ?_) rfl h₁
    intro q' hq'
    obtain rfl := Option.some.inj (hq.symm.trans hq')
    exact hr
  | elect w br hbr => exact hI (.elect w br hbr) rfl h
  | designate w p => exact hI (.designate w p) rfl h
  | set w p f hf => exact hI (.port w p f fun q hq ↦ (hf q hq).1) rfl h
  | settle w p q _ _ _ => exact hI (.port w p _ fun _ _ ↦ ⟨rfl, id⟩) rfl h
  | disable w p q _ => exact hI (.port w p _ fun _ _ ↦ ⟨rfl, fun hs ↦ absurd rfl hs⟩) rfl h
  | rename w p newprio => exact hI (.rename w p newprio) rfl h
  | init w p q t hq ht hfirst => exact hI (.init w p q t hq ht hfirst) hcdb h
  | bridge w f hf => exact hI (.bridge w f hf) rfl h
  | sendTcn w portNo smac => exact hI (.sendTcn w portNo smac) rfl h

theorem Closed.stable (hI : Closed H W rcv I) : Stable H W rcv I := by
  intro l w w' hd h
  by_cases hcdb : w'.portCdb = w.portCdb
  · exact hI.inPlace.stableInPlace hd hcdb h
  · cases hd with
    | init w p q t hq ht hfirst => exact hI (.init w p q t hq ht hfirst) h
    | transmit w _ p q a hq ha => exact absurd ha.portCdb hcdb
    | _ => exact absurd rfl hcdb

end Stable

section Outward

/-- `I` is kept by what the protocol does without touching the states of its ports
or their forward delay timers. -/
structure Outward (H : Host τ) (W : Wire κ Φ) (I : World κ τ Φ → Prop) : Prop where
  start : ∀ w t secs env, t ∈ [w.br.helloTimer, w.br.tcnTimer, w.br.topologyChangeTimer] →
    H.modTimer t secs w.env = some env → I w → I { w with env := env }
  stop : ∀ w t env, t ∈ [w.br.helloTimer, w.br.tcnTimer, w.br.topologyChangeTimer] →
    H.delTimer t w.env = some env → I w → I { w with env := env }
  transmit : ∀ w w' p q a, w.br.portList[p]? = some q → q.state ≠ .disabled →
    Attempts H W p q w a w' → I w → I w'
  elect : ∀ w br, stpConfigurationUpdate H.endian w.br = some br → I w → I { w with br := br }
  designate : ∀ w p, I w → I (w.modifyPort p (stpBecomeDesignatedPort w.br))
  bridge : ∀ w (f : StpInstance κ → StpInstance κ), BridgeKept w.br (f w.br) → I w →
    I { w with br := f w.br }
  sendTcn : ∀ w portNo smac, I w → I (w.send portNo (W.tcn smac))

variable {H : Host τ} {W : Wire κ Φ} {I J : World κ τ Φ → Prop} {w : World κ τ Φ}

theorem Outward.and (hI : Outward H W I) (hJ : Outward H W J) :
    Outward H W fun w ↦ I w ∧ J w where
  start w t secs env ht henv h :=
    ⟨hI.start w t secs env ht henv h.1, hJ.start w t secs env ht henv h.2⟩
  stop w t env ht henv h := ⟨hI.stop w t env ht henv h.1, hJ.stop w t env ht henv h.2⟩
  transmit w w' p q a hq hs ha h :=
    ⟨hI.transmit w w' p q a hq hs ha h.1, hJ.transmit w w' p q a hq hs ha h.2⟩
  elect w br hbr h := ⟨hI.elect w br hbr h.1, hJ.elect w br hbr h.2⟩
  designate w p h := ⟨hI.designate w p h.1, hJ.designate w p h.2⟩
  bridge w f hf h := ⟨hI.bridge w f hf h.1, hJ.bridge w f hf h.2⟩
  sendTcn w portNo smac h := ⟨hI.sendTcn w portNo smac h.1, hJ.sendTcn w portNo smac h.2⟩

theorem StableInPlace.outward {rcv : U32 → StpBpdu κ → Prop} (hI : StableInPlace H W rcv I) :
    Outward H W I where
  start w t secs env ht henv h :=
    hI (.start w t secs env (List.mem_append_left _ ht) henv) rfl h
  stop w t env ht henv h := hI (.stop w t env (List.mem_append_left _ ht) henv) rfl h
  transmit w w' p q a hq _ ha h := hI (.transmit w w' p q a hq ha) ha.portCdb h
  elect w br hbr h := hI (.elect w br hbr) rfl h
  designate w p h := hI (.designate w p) rfl h
  bridge w f hf h := hI (.bridge w f hf) rfl h
  sendTcn w portNo smac h := hI (.sendTcn w portNo smac) rfl h

theorem outward_fixed (H : Host τ) (W : Wire κ Φ)
    (x : U16 × List TimerRef × List (U32 × ℕ × List TimerRef)) :
    Outward H W fun w ↦ w.br.fixed = x :=
  have hclosed : Closed H W (fun _ _ ↦ True) fun w ↦ w.br.fixed = x := closed_fixed_eq x
  hclosed.stable.inPlace.outward

omit [Add κ] [LT κ] [DecidableLT κ] [OfNat κ 0] in
theorem bridgeTimers_of_fixed {br br' : StpInstance κ} (h : br'.fixed = br.fixed) :
    [br'.helloTimer, br'.tcnTimer, br'.topologyChangeTimer] =
      [br.helloTimer, br.tcnTimer, br.topologyChangeTimer] :=
  congrArg (fun x ↦ x.2.1) h

variable (hI : Outward H W I)
include hI

theorem modTimer_outward {t : TimerRef} (secs : U32)
    (ht : t ∈ [w.br.helloTimer, w.br.tcnTimer, w.br.topologyChangeTimer]) (h : I w) :
    Ends (modTimer H t secs) w fun _ w' ↦ I w' := by
  apply ends_callEnv
  intro env henv
  exact hI.start w t secs env ht henv h

theorem delTimer_outward {t : TimerRef}
    (ht : t ∈ [w.br.helloTimer, w.br.tcnTimer, w.br.topologyChangeTimer]) (h : I w) :
    Ends (delTimer H t) w fun _ w' ↦ I w' := by
  apply ends_callEnv
  intro env henv
  exact hI.stop w t env ht henv h

theorem setBridge_outward {f : StpInstance κ → StpInstance κ} (hf : BridgeKept w.br (f w.br))
    (h : I w) : Ends (setBridge f) w fun _ w' ↦ I w' :=
  .update (hI.bridge w f hf h)

theorem stpTransmitTcn_outward (h : I w) : Ends (stpTransmitTcn H W) w fun _ w' ↦ I w' := by
  refine stpTransmitTcn_ends.mono ?_
  intro _ w' h'
  obtain rfl | ⟨n, smac, rfl⟩ := h'
  · exact h
  · exact hI.sendTcn w n smac h

theorem stpTopologyChangeDetection_outward (h : I w) :
    Ends (stpTopologyChangeDetection H W) w fun _ w' ↦ I w' := by
  have hJ := hI.and (outward_fixed H W w.br.fixed)
  apply Ends.bind
  apply ends_bridge
  apply Ends.onlyIf
  · intro _
    apply Ends.ite
    · intro _
      refine (setBridge_outward hJ ⟨rfl⟩ ⟨h, rfl⟩).andThen ?_
      intro _ w₁ h₁
      refine (modTimer_outward hI _ (bridgeTimers_of_fixed h₁.2 ▸ by simp) h₁.1).andThen ?_
      intro _ w₂ h₂
      exact setBridge_outward hI ⟨rfl⟩ h₂
    · intro _
      have hnotify : Ends (onlyIf (!w.br.topologyChangeDetected) do
          stpTransmitTcn H W
          modTimer H w.br.tcnTimer w.br.bridgeHelloTime) w fun _ w' ↦ I w' := by
        apply Ends.onlyIf
        · intro _
          refine (stpTransmitTcn_outward hJ ⟨h, rfl⟩).andThen ?_
          intro _ w₁ h₁
          exact modTimer_outward hI _ (bridgeTimers_of_fixed h₁.2 ▸ by simp) h₁.1
        · intro _
          exact h
      refine hnotify.andThen ?_
      intro _ w₁ h₁
      exact setBridge_outward hI ⟨rfl⟩ h₁
  · intro _
    exact h

theorem stpConfigBpduGeneration_outward (h : I w) :
    Ends (stpConfigBpduGeneration H W) w fun _ w' ↦ I w' := by
  apply ends_forPorts _ h
  intro p w h
  apply Ends.bind
  apply ends_reads
  intro q hq
  apply Ends.bind
  apply ends_bridge
  apply Ends.onlyIf
  · intro hs
    refine (stpTransmitConfig_attempts p).mono ?_
    intro _ w' h'
    obtain ⟨q', a, hq', ha⟩ := h'
    obtain rfl := Option.some.inj (hq.symm.trans hq')
    exact hI.transmit w w' p q a hq hs.1 ha h
  · intro _
    exact h

theorem stpBecomeRootBridge_outward (h : I w) :
    Ends (stpBecomeRootBridge H W) w fun _ w' ↦ I w' := by
  refine (setBridge_outward hI ⟨rfl⟩ h).andThen ?_
  intro _ w h
  refine (stpTopologyChangeDetection_outward hI h).andThen ?_
  intro _ w h
  apply Ends.bind
  apply ends_bridge
  have hJ := hI.and (outward_fixed H W w.br.fixed)
  refine (delTimer_outward hJ (by simp) ⟨h, rfl⟩).andThen ?_
  intro _ w₁ h₁
  refine (stpConfigBpduGeneration_outward hJ h₁).andThen ?_
  intro _ w₂ h₂
  exact modTimer_outward hI _ (bridgeTimers_of_fixed h₂.2 ▸ by simp) h₂.1

theorem configurationUpdate_outward (h : I w) :
    Ends (configurationUpdate H) w fun _ w' ↦ I w' := by
  intro _ w' hm
  obtain ⟨br, hbr, heq⟩ := Option.map_eq_some_iff.mp hm
  obtain ⟨-, rfl⟩ := Prod.mk.inj heq
  exact hI.elect w br hbr h

end Outward

section Keeps

variable {H : Host τ} {W : Wire κ Φ} {rcv : U32 → StpBpdu κ → Prop} {I : World κ τ Φ → Prop}
variable {w : World κ τ Φ} (hI : StableInPlace H W rcv I)
include hI

theorem modTimer_keeps {t : TimerRef} (secs : U32) (ht : t ∈ w.br.startable) (h : I w) :
    Ends (modTimer H t secs) w fun _ w' ↦ I w' := by
  apply ends_callEnv
  intro env henv
  exact hI (.start w t secs env ht henv) rfl h

theorem delTimer_keeps {t : TimerRef} (ht : t ∈ w.br.startable) (h : I w) :
    Ends (delTimer H t) w fun _ w' ↦ I w' := by
  apply ends_callEnv
  intro env henv
  exact hI (.stop w t env ht henv) rfl h

theorem setPort_keeps {p : ℕ} {f : StpPortEntry κ → StpPortEntry κ}
    (hf : ∀ q, w.br.portList[p]? = some q →
      PortKept q (f q) ∧ (f q).configPending = q.configPending) (h : I w) :
    Ends (setPort p f) w fun _ w' ↦ I w' :=
  .update (hI (.set w p f hf) rfl h)

theorem setBridge_keeps {f : StpInstance κ → StpInstance κ} (hf : BridgeKept w.br (f w.br))
    (h : I w) : Ends (setBridge f) w fun _ w' ↦ I w' :=
  .update (hI (.bridge w f hf) rfl h)

theorem stpTransmitTcn_keeps (h : I w) : Ends (stpTransmitTcn H W) w fun _ w' ↦ I w' :=
  stpTransmitTcn_outward hI.outward h

theorem stpTransmitConfig_keeps (p : ℕ) (h : I w) :
    Ends (stpTransmitConfig H W p) w fun _ w' ↦ I w' := by
  refine (stpTransmitConfig_attempts p).mono ?_
  intro _ w' h'
  obtain ⟨q, a, hq, ha⟩ := h'
  exact hI (.transmit w w' p q a hq ha) ha.portCdb h

theorem stpTopologyChangeDetection_keeps (h : I w) :
    Ends (stpTopologyChangeDetection H W) w fun _ w' ↦ I w' :=
  stpTopologyChangeDetection_outward hI.outward h

theorem stpConfigBpduGeneration_keeps (h : I w) :
    Ends (stpConfigBpduGeneration H W) w fun _ w' ↦ I w' :=
  stpConfigBpduGeneration_outward hI.outward h

theorem stpBecomeRootBridge_keeps (h : I w) :
    Ends (stpBecomeRootBridge H W) w fun _ w' ↦ I w' :=
  stpBecomeRootBridge_outward hI.outward h

theorem configurationUpdate_keeps (h : I w) :
    Ends (configurationUpdate H) w fun _ w' ↦ I w' :=
  configurationUpdate_outward hI.outward h

theorem becomeDesignatedPort_keeps (p : ℕ) (h : I w) :
    Ends (becomeDesignatedPort p) w fun _ w' ↦ I w' := by
  apply Ends.bind
  apply ends_bridge
  exact .update (hI (.designate w p) rfl h)

theorem setState_keeps {p : ℕ} {q : StpPortEntry κ} (hq : w.br.portList[p]? = some q)
    (hs : q.state ≠ .disabled) (st : PortState) (h : I w) :
    Ends (setPort p ({ · with state := st })) w fun _ w' ↦ I w' := by
  apply setPort_keeps hI _ h
  intro q' hq'
  obtain rfl := Option.some.inj (hq.symm.trans hq')
  exact ⟨⟨rfl, fun _ ↦ hs⟩, rfl⟩

theorem stpMakeBlocking_keeps (p : ℕ) (h : I w) :
    Ends (stpMakeBlocking H W p) w fun _ w' ↦ I w' := by
  apply Ends.bind
  apply ends_reads
  intro q hq
  apply Ends.onlyIf
  · intro hs
    have hmem := forwardDelay_startable hq
    have hJ := hI.and (closed_fixed_eq w.br.fixed).stable.inPlace
    have hdetect : Ends (onlyIf (q.state = .forwarding ∨ q.state = .learning)
        (stpTopologyChangeDetection H W)) w fun _ w' ↦
          (I w' ∧ w'.br.fixed = w.br.fixed) ∧ w'.br.portList = w.br.portList := by
      apply Ends.onlyIf
      · intro _
        refine ((stpTopologyChangeDetection_keeps hJ ⟨h, rfl⟩).and
          stpTopologyChangeDetection_ends).mono ?_
        intro _ w' h'
        exact ⟨h'.1, by rw [h'.2.br]⟩
      · intro _
        exact ⟨⟨h, rfl⟩, rfl⟩
    refine hdetect.andThen ?_
    intro _ w₁ h₁
    rw [← h₁.2] at hq
    refine (setState_keeps hJ hq hs.1 _ h₁.1).andThen ?_
    intro _ w₂ h₂
    exact delTimer_keeps hI (startable_of_fixed h₂.2 ▸ hmem) h₂.1
  · intro _
    exact h

theorem stpMakeForwarding_keeps (p : ℕ) (h : I w) :
    Ends (stpMakeForwarding H W p) w fun _ w' ↦ I w' := by
  apply Ends.bind
  apply ends_reads
  intro q hq
  apply Ends.bind
  apply ends_bridge
  apply Ends.onlyIf
  · intro hs
    have hs' : q.state ≠ .disabled := by
      rw [hs]
      exact PortState.noConfusion
    have hmem := forwardDelay_startable hq
    have hJ := hI.and (closed_fixed_eq w.br.fixed).stable.inPlace
    apply Ends.ite
    · intro _
      refine (setState_keeps hJ hq hs' _ ⟨h, rfl⟩).andThen ?_
      intro _ w₁ h₁
      refine (stpTopologyChangeDetection_keeps hJ h₁).andThen ?_
      intro _ w₂ h₂
      exact delTimer_keeps hI (startable_of_fixed h₂.2 ▸ hmem) h₂.1
    · intro _
      refine (setState_keeps hJ hq hs' _ ⟨h, rfl⟩).andThen ?_
      intro _ w₁ h₁
      exact modTimer_keeps hI _ (startable_of_fixed h₁.2 ▸ hmem) h₁.1
  · intro _
    exact h

theorem selectPortState_keeps (p : ℕ) (h : I w) :
    Ends (selectPortState H W p) w fun _ w' ↦ I w' := by
  apply Ends.bind
  apply ends_reads
  intro q hq
  apply Ends.bind
  apply ends_bridge
  apply Ends.onlyIf
  · intro hlive
    apply Ends.ite
    · intro hroot
      apply Ends.bind
      apply Ends.update
      exact stpMakeForwarding_keeps hI p
        (hI (.settle w p q hq hlive fun hs ↦ hs.2.1 hroot) rfl h)
    · intro hroot
      apply Ends.ite
      · intro hd
        obtain ⟨hown, hd⟩ := Bool.and_eq_true_iff.mp hd
        apply Ends.bind
        apply ends_callEnv
        intro env henv
        have hserves : Serves w.br q := ⟨hlive, hroot, by simpa using hown, hd⟩
        exact stpMakeForwarding_keeps hI p (hI (.stopAge w p q env hq (.inr hserves) henv) rfl h)
      · intro hd
        have hserves : ¬Serves w.br q := fun hs ↦
          hd (Bool.and_eq_true_iff.mpr ⟨by rw [hs.2.2.1]; rfl, hs.2.2.2⟩)
        apply Ends.bind
        apply Ends.update
        exact stpMakeBlocking_keeps hI p (hI (.settle w p q hq hlive hserves) rfl h)
  · intro _
    exact h

theorem stpPortStateSelection_keeps (h : I w) :
    Ends (stpPortStateSelection H W) w fun _ w' ↦ I w' :=
  ends_forPorts (fun p _ h ↦ selectPortState_keeps hI p h) h

end Keeps

end Layer3Switch.Stp
