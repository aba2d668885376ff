import Layer3Switch.Stp.Main

namespace Layer3Switch.Stp

open Lib Lib.Bytes
open Timers (U32 tmGetTicksPerSecond)

variable {κ τ Φ : Type} {H : Host τ} {W : Wire κ Φ} {w : World κ τ Φ}

def World.send (w : World κ τ Φ) (portNo : U32) (frame : Φ) : World κ τ Φ :=
  { w with sent := w.sent ++ [(portNo, frame)] }

theorem stpSendBpdu_ends (portNo : U32) (frame : MacAddress → Φ) :
    Ends (stpSendBpdu H portNo frame) w fun _ w' ↦
      H.tmMalloc w.env = false ∧ w' = w ∨ ∃ t, w.portCdb[(portNo - 1).toNat]? = some t ∧
        w' = w.send portNo (frame t.ifPhysAddress) := by
  apply Ends.bind
  apply ends_reads
  intro mem hmem
  obtain rfl := Option.some.inj hmem
  apply Ends.onlyIf
  · intro _
    apply Ends.bind
    apply ends_reads
    intro t ht
    exact .update (.inr ⟨t, ht, rfl⟩)
  · intro hmem
    exact .inl ⟨Bool.eq_false_iff.mpr hmem, rfl⟩

theorem stpTransmitTcn_ends :
    Ends (stpTransmitTcn H W) w fun _ w' ↦
      w' = w ∨ ∃ portNo smac, w' = w.send portNo (W.tcn smac) := by
  apply Ends.bind
  apply ends_bridge
  cases stpGetPort w.br (w.br.rootPort.setWidth 16) with
  | none => exact .pure (.inl rfl)
  | some q =>
    apply Ends.bind
    apply ends_bridge
    apply Ends.onlyIf
    · intro _
      refine (stpSendBpdu_ends q.portNo W.tcn).mono ?_
      intro _ w' h
      obtain ⟨-, h⟩ | ⟨t, -, h⟩ := h
      · exact .inl h
      · exact .inr ⟨q.portNo, t.ifPhysAddress, h⟩
    · intro _
      exact .inl rfl

/-- The age of the information that the bridge passes on: zero at the root,
otherwise what has gone by at the root port and one second more. -/
inductive HasAge (H : Host τ) (w : World κ τ Φ) : U16 → Prop
  | root : stpIsRootBridge w.br → HasAge H w 0
  | relayed (root : StpPortEntry κ) (rmt : U32) : ¬stpIsRootBridge w.br →
      stpGetPort w.br (w.br.rootPort.setWidth 16) = some root →
      H.timerGetRemainingTime root.messageAgeTimer w.env = some rmt →
      HasAge H w ((w.br.maxAge - rmt / tmGetTicksPerSecond + messageAgeIncr).setWidth 16)

theorem messageAge_ends :
    Ends (messageAge H w.br) w fun age w' ↦ w' = w ∧ HasAge H w age := by
  apply Ends.ite
  · intro hr
    exact .pure ⟨rfl, .root hr⟩
  · intro hr
    apply Ends.bind
    apply ends_reads
    intro root hroot
    apply Ends.bind
    apply ends_reads
    intro rmt hrmt
    exact .pure ⟨rfl, .relayed root rmt hr hroot hrmt⟩

/-- What `stp_transmit_config` can do. A frame is sent in the third case only.
In the last one it was not sent, for want of memory or because the protocol is
off, but it counts as sent. -/
inductive Transmits (H : Host τ) (W : Wire κ Φ) (p : ℕ) (q : StpPortEntry κ) (w : World κ τ Φ) :
    World κ τ Φ → Prop
  | held : H.timerPending q.holdTimer w.env = some true →
      Transmits H W p q w (w.modifyPort p ({ · with configPending := true }))
  | aged (age : U16) : HasAge H w age → ¬age.setWidth 32 < w.br.maxAge → Transmits H W p q w w
  | sent (age : U16) (t : PortT) (env : τ) : H.timerPending q.holdTimer w.env = some false →
      HasAge H w age → age.setWidth 32 < w.br.maxAge →
      w.portCdb[(q.portNo - 1).toNat]? = some t → H.modTimer q.holdTimer 1 w.env = some env →
      Transmits H W p q w
        { (w.send q.portNo (W.config t.ifPhysAddress
            (configBpdu (H.stackByte w.env) w.br q age))).modifyPort p
            ({ · with topologyChangeAck := false, configPending := false }) with env := env }
  | dropped (env : τ) : w.br.stpEnabled = false ∨ H.tmMalloc w.env = false →
      H.modTimer q.holdTimer 1 w.env = some env →
      Transmits H W p q w
        { w.modifyPort p ({ · with topologyChangeAck := false, configPending := false }) with
          env := env }

theorem stpSendConfigBpdu_ends (q : StpPortEntry κ) (bpdu : StpBpdu κ) :
    Ends (stpSendConfigBpdu H W q bpdu) w fun _ w' ↦
      (w.br.stpEnabled = false ∨ H.tmMalloc w.env = false) ∧ w' = w ∨
        ∃ t, w.portCdb[(q.portNo - 1).toNat]? = some t ∧
          w' = w.send q.portNo (W.config t.ifPhysAddress bpdu) := by
  apply Ends.bind
  apply ends_bridge
  apply Ends.onlyIf
  · intro _
    refine (stpSendBpdu_ends q.portNo fun smac ↦ W.config smac bpdu).mono ?_
    intro _ w' h
    exact h.imp_left fun h ↦ ⟨.inr h.1, h.2⟩
  · intro hstp
    exact .inl ⟨.inl (Bool.eq_false_iff.mpr hstp), rfl⟩

inductive Attempt (Φ : Type)
  | held
  | aged (age : U16)
  | sent (age : U16) (portNo : U32) (frame : Φ)
  | dropped (age : U16)

/-- What `stp_transmit_config` does, by the outcome. -/
inductive Attempts (H : Host τ) (W : Wire κ Φ) (p : ℕ) (q : StpPortEntry κ) (w : World κ τ Φ) :
    Attempt Φ → World κ τ Φ → Prop
  | held : H.timerPending q.holdTimer w.env = some true →
      Attempts H W p q w .held (w.modifyPort p ({ · with configPending := true }))
  | aged (age : U16) : H.timerPending q.holdTimer w.env = some false → HasAge H w age →
      ¬age.setWidth 32 < w.br.maxAge → Attempts H W p q w (.aged age) w
  | sent (age : U16) (t : PortT) (env : τ) : H.timerPending q.holdTimer w.env = some false →
      HasAge H w age → age.setWidth 32 < w.br.maxAge →
      w.portCdb[(q.portNo - 1).toNat]? = some t → H.modTimer q.holdTimer 1 w.env = some env →
      Attempts H W p q w
        (.sent age q.portNo (W.config t.ifPhysAddress (configBpdu (H.stackByte w.env) w.br q age)))
        { (w.send q.portNo (W.config t.ifPhysAddress
            (configBpdu (H.stackByte w.env) w.br q age))).modifyPort p
            ({ · with topologyChangeAck := false, configPending := false }) with env := env }
  | dropped (age : U16) (env : τ) : H.timerPending q.holdTimer w.env = some false →
      HasAge H w age → age.setWidth 32 < w.br.maxAge →
      w.br.stpEnabled = false ∨ H.tmMalloc w.env = false →
      H.modTimer q.holdTimer 1 w.env = some env →
      Attempts H W p q w (.dropped age)
        { w.modifyPort p ({ · with topologyChangeAck := false, configPending := false }) with
          env := env }

theorem Attempts.transmits {p : ℕ} {q : StpPortEntry κ} {a : Attempt Φ} {w' : World κ τ Φ}
    (h : Attempts H W p q w a w') : Transmits H W p q w w' := by
  cases h with
  | held hp => exact .held hp
  | aged age _ hage hold => exact .aged age hage hold
  | sent age t env hp hage hlt ht henv => exact .sent age t env hp hage hlt ht henv
  | dropped age env _ _ _ hdrop henv => exact .dropped env hdrop henv

theorem stpTransmitConfig_attempts (p : ℕ) :
    Ends (stpTransmitConfig H W p) w fun _ w' ↦
      ∃ q a, w.br.portList[p]? = some q ∧ Attempts H W p q w a w' := by
  apply Ends.bind
  apply ends_reads
  intro q hq
  apply Ends.bind
  apply ends_reads
  intro pending hpending
  apply Ends.ite
  · intro hp
    rw [hp] at hpending
    exact .update ⟨q, _, hq, .held hpending⟩
  · intro hp
    rw [Bool.eq_false_iff.mpr hp] at hpending
    apply Ends.bind
    apply ends_bridge
    refine messageAge_ends.andThen ?_
    intro age w₁ h₁
    obtain ⟨rfl, hage⟩ := h₁
    apply Ends.bind
    apply ends_reads
    intro stack hstack
    obtain rfl := Option.some.inj hstack
    apply Ends.onlyIf
    · intro hlt
      refine (stpSendConfigBpdu_ends q _).andThen ?_
      intro _ w₂ h₂
      apply Ends.bind
      apply Ends.update
      apply ends_callEnv
      intro env henv
      obtain ⟨hdrop, rfl⟩ | ⟨t, ht, rfl⟩ := h₂
      · exact ⟨q, _, hq, .dropped age env hpending hage hlt hdrop henv⟩
      · exact ⟨q, _, hq, .sent age t env hpending hage hlt ht henv⟩
    · intro hlt
      exact ⟨q, _, hq, .aged age hpending hage hlt⟩

theorem stpTransmitConfig_ends (p : ℕ) :
    Ends (stpTransmitConfig H W p) w fun _ w' ↦
      ∃ q, w.br.portList[p]? = some q ∧ Transmits H W p q w w' := by
  refine (stpTransmitConfig_attempts p).mono ?_
  intro _ w' h
  obtain ⟨q, a, hq, ha⟩ := h
  exact ⟨q, hq, ha.transmits⟩

theorem Transmits.sent_eq {p : ℕ} {q : StpPortEntry κ} {w' : World κ τ Φ} {x : U32 × Φ}
    (h : Transmits H W p q w w') (hsent : w'.sent = w.sent ++ [x]) :
    ∃ age smac, HasAge H w age ∧
      x = (q.portNo, W.config smac (configBpdu (H.stackByte w.env) w.br q age)) := by
  have hne : w.sent ≠ w.sent ++ [x] := by simp
  cases h with
  | held => exact absurd hsent hne
  | aged => exact absurd hsent hne
  | sent age t env _ hage =>
    have hx := List.append_cancel_left hsent
    exact ⟨age, t.ifPhysAddress, hage, (List.cons.inj hx).1.symm⟩
  | dropped => exact absurd hsent hne

def StpPortEntry.timers (p : StpPortEntry κ) : List TimerRef :=
  [p.messageAgeTimer, p.forwardDelayTimer, p.holdTimer]

def StpInstance.timers (br : StpInstance κ) : List TimerRef :=
  [br.helloTimer, br.tcnTimer, br.topologyChangeTimer] ++ br.portList.flatMap StpPortEntry.timers

/-- A call that starts or stops one of the timers of the instance. -/
inductive TimerCall (H : Host τ) (br : StpInstance κ) (env env' : τ) : Prop
  | mod (timer : TimerRef) (secs : U32) :
      timer ∈ br.timers → H.modTimer timer secs env = some env' → TimerCall H br env env'
  | del (timer : TimerRef) :
      timer ∈ br.timers → H.delTimer timer env = some env' → TimerCall H br env env'

/-- A change of topology is noted in the flags of the bridge, starts a timer,
and may send a notification. The ports are left alone. -/
structure Noted (H : Host τ) (W : Wire κ Φ) (w w' : World κ τ Φ) : Prop where
  br : w'.br = { w.br with
    topologyChange := w'.br.topologyChange
    topologyChangeDetected := w'.br.topologyChangeDetected }
  sent : w'.sent = w.sent ∨ ∃ portNo smac, w'.sent = w.sent ++ [(portNo, W.tcn smac)]
  portCdb : w'.portCdb = w.portCdb
  detected : w.br.topologyChangeDetected → w'.br.topologyChangeDetected
  env : w'.env = w.env ∨ TimerCall H w.br w.env w'.env

theorem stpTopologyChangeDetection_ends :
    Ends (stpTopologyChangeDetection H W) w fun _ w' ↦ Noted H W w w' := by
  apply Ends.bind
  apply ends_bridge
  apply Ends.onlyIf
  · intro _
    apply Ends.ite
    · intro _
      apply Ends.bind
      apply Ends.update
      apply Ends.bind
      apply ends_callEnv
      intro env henv
      exact .update ⟨rfl, .inl rfl, rfl, fun _ ↦
        rfl, .inr (.mod _ _ (by simp [StpInstance.timers]) henv)⟩
    · intro _
      apply Ends.bind
      apply Ends.onlyIf
      · intro _
        refine stpTransmitTcn_ends.andThen ?_
        intro _ w₁ h₁
        apply ends_callEnv
        intro env henv
        have hcall : TimerCall H w.br w₁.env env := .mod _ _ (by simp [StpInstance.timers]) henv
        obtain rfl | ⟨n, smac, rfl⟩ := h₁
        · exact .update ⟨rfl, .inl rfl, rfl, fun _ ↦ rfl, .inr hcall⟩
        · exact .update ⟨rfl, .inr ⟨n, smac, rfl⟩, rfl, fun _ ↦ rfl, .inr hcall⟩
      · intro _
        exact .update ⟨rfl, .inl rfl, rfl, fun _ ↦ rfl, .inl rfl⟩
  · intro _
    exact ⟨rfl, .inl rfl, rfl, id, .inl rfl⟩

end Layer3Switch.Stp
