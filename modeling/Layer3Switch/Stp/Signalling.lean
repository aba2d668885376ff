import Layer3Switch.Stp.RoundTrip

namespace Layer3Switch.Stp

open Lib Lib.Bytes
open Timers (U32 TimerMgr initTimerMgr)

def tcSet (flags : U8) : Bool := flags &&& tcBit == tcBit
def tcAckSet (flags : U8) : Bool := flags &&& tcAckBit != 0

def FlagsRight (stack : U8) (tc ack : Bool) : Prop :=
  stack.getLsbD 7 = ack ∧ (tc = true ∨ stack.getLsbD 0 = false ∧ ack = false)

theorem tcSet_or (stack : U8) (tc ack : Bool) :
    tcSet (stack ||| flagByte tc ||| flagByte ack) = (stack.getLsbD 0 || tc || ack) := by
  revert stack tc ack
  decide +kernel

theorem tcAckSet_or (stack : U8) (tc ack : Bool) :
    tcAckSet (stack ||| flagByte tc ||| flagByte ack) = stack.getLsbD 7 := by
  revert stack tc ack
  decide +kernel

theorem flagsRight_iff (stack : U8) (tc ack : Bool) :
    tcSet (stack ||| flagByte tc ||| flagByte ack) = tc ∧
      tcAckSet (stack ||| flagByte tc ||| flagByte ack) = ack ↔ FlagsRight stack tc ack := by
  rw [tcSet_or, tcAckSet_or, FlagsRight, and_comm]
  apply and_congr_right
  intro _
  cases tc
  · simp
  · simp

variable {κ τ Φ : Type}

section Sender

variable (H : Host τ) (W : Wire κ Φ)

def acceptTcn (p : ℕ) : StpM κ τ Φ Unit := do
  stpTopologyChangeDetection H W
  setPort p ({ · with topologyChangeAck := true })

/-- A bridge that is notified and transmits in any order, while the timers and
the stack of its host change at will. -/
inductive Signal (τ : Type)
  | accept (p : ℕ)
  | transmit (p : ℕ)
  | host (env : τ)

def signal (w : World κ τ Φ) : Signal τ → Option (World κ τ Φ)
  | .accept p => (acceptTcn H W p w).map Prod.snd
  | .transmit p => (stpTransmitConfig H W p w).map Prod.snd
  | .host env => some { w with env := env }

/-- The step sends no config BPDU from entry `p`, and not because it is dropped. -/
def Unsent (p : ℕ) (w : World κ τ Φ) (s : Signal τ) : Prop :=
  ∀ w', s = .transmit p → signal H W w s = some w' →
    w'.sent = w.sent ∧ w.br.stpEnabled = true ∧ H.tmMalloc w.env = true

def Owes (p : ℕ) (w : World κ τ Φ) : Prop :=
  ∀ q, w.br.portList[p]? = some q → q.topologyChangeAck = true

variable {H W}

theorem owes_modifyPort {p p' : ℕ} {w : World κ τ Φ} {f : StpPortEntry κ → StpPortEntry κ}
    (hf : ∀ q, w.br.portList[p]? = some q →
      (if p' = p then f q else q).topologyChangeAck = true) : Owes p (w.modifyPort p' f) := by
  intro q' hq'
  simp only [World.modifyPort, List.getElem?_modify, Option.map_eq_map,
    Option.map_eq_some_iff] at hq'
  obtain ⟨q, hq, rfl⟩ := hq'
  exact hf q hq

theorem acceptTcn_owes (p : ℕ) (w : World κ τ Φ) :
    Ends (acceptTcn H W p) w fun _ w' ↦ Owes p w' := by
  refine stpTopologyChangeDetection_ends.andThen ?_
  intro _ w' _
  apply Ends.update
  apply owes_modifyPort
  intro q _
  rw [if_pos rfl]

theorem Owes.accept {p p' : ℕ} {w : World κ τ Φ} (h : Owes p w) :
    Ends (acceptTcn H W p') w fun _ w' ↦ Owes p w' := by
  refine stpTopologyChangeDetection_ends.andThen ?_
  intro _ w' hn
  apply Ends.update
  apply owes_modifyPort
  intro q hq
  rw [hn.br] at hq
  split
  · rfl
  · exact h q hq

theorem Owes.transmits {p p' : ℕ} {w w' : World κ τ Φ} {q : StpPortEntry κ} (h : Owes p w)
    (ht : Transmits H W p' q w w')
    (hp : p' = p → w'.sent = w.sent ∧ w.br.stpEnabled = true ∧ H.tmMalloc w.env = true) :
    Owes p w' := by
  cases ht with
  | held _ =>
    apply owes_modifyPort
    intro q hq
    split <;> exact h q hq
  | aged _ _ _ => exact h
  | sent age t env _ _ _ _ _ =>
    have hne : p' ≠ p := by
      intro heq
      have hsent := (hp heq).1
      simp [World.modifyPort, World.send] at hsent
    apply owes_modifyPort (w := w)
    intro q hq
    rw [if_neg hne]
    exact h q hq
  | dropped env hdrop _ =>
    have hne : p' ≠ p := by
      intro heq
      obtain ⟨-, hstp, hmem⟩ := hp heq
      rw [hstp, hmem] at hdrop
      obtain hdrop | hdrop := hdrop <;> cases hdrop
    apply owes_modifyPort (w := w)
    intro q hq
    rw [if_neg hne]
    exact h q hq

theorem Owes.step {p : ℕ} {w w' : World κ τ Φ} {s : Signal τ} (h : Owes p w)
    (hu : Unsent H W p w s) (hs : signal H W w s = some w') : Owes p w' := by
  cases s with
  | accept p' =>
    obtain ⟨x, hx, rfl⟩ := Option.map_eq_some_iff.mp hs
    exact h.accept x.1 x.2 hx
  | transmit p' =>
    have hs' := hs
    obtain ⟨x, hx, rfl⟩ := Option.map_eq_some_iff.mp hs'
    obtain ⟨q, -, ht⟩ := stpTransmitConfig_ends p' x.1 x.2 hx
    apply h.transmits ht
    intro heq
    exact hu x.2 (congrArg Signal.transmit heq) hs
  | host env =>
    obtain rfl := Option.some.inj hs
    exact h

theorem Owes.run {p : ℕ} {w w' : World κ τ Φ} {ss : List (Signal τ)} (h : Owes p w)
    (hrun : Run (signal H W) (Unsent H W p) w ss w') : Owes p w' :=
  hrun.invariant (fun _ _ _ h hu hs ↦ h.step hu hs) h

end Sender

section Neighbour

variable {H : Host τ} {W : Wire κ Φ}

def TcnStopped (H : Host τ) (w : World κ τ Φ) : Prop :=
  ∃ env, H.delTimer w.br.tcnTimer env = some w.env

theorem Transmits.br {p : ℕ} {q : StpPortEntry κ} {w w' : World κ τ Φ}
    (h : Transmits H W p q w w') : w'.br = { w.br with portList := w'.br.portList } := by
  cases h <;> rfl

theorem stpConfigBpduGeneration_ends (w : World κ τ Φ) :
    Ends (stpConfigBpduGeneration H W) w fun _ w' ↦
      w'.br = { w.br with portList := w'.br.portList } := by
  apply ends_forPorts (I := fun w' ↦ w'.br = { w.br with portList := w'.br.portList }) _ rfl
  intro p w₁ h₁
  apply Ends.bind
  apply ends_reads
  intro q _
  apply Ends.bind
  apply ends_bridge
  apply Ends.onlyIf
  · intro _
    refine (stpTransmitConfig_ends p).mono ?_
    intro _ w₂ h₂
    obtain ⟨_, -, ht⟩ := h₂
    rw [ht.br, h₁]
  · intro _
    exact h₁

theorem receivedOnRootPort_ends (w : World κ τ Φ) (bpdu : StpBpdu κ) :
    Ends (receivedOnRootPort H W bpdu) w fun _ w' ↦
      w'.br.topologyChange = tcSet bpdu.flags ∧
      (tcAckSet bpdu.flags = true → w'.br.topologyChangeDetected = false ∧ TcnStopped H w') := by
  apply Ends.bind
  apply Ends.update
  refine (stpConfigBpduGeneration_ends _).andThen ?_
  intro _ w₁ h₁
  apply Ends.onlyIf
  · intro _
    apply Ends.bind
    apply Ends.update
    apply Ends.bind
    apply ends_bridge
    apply ends_callEnv
    intro env henv
    exact ⟨by rw [h₁]; rfl, fun _ ↦ ⟨rfl, w₁.env, henv⟩⟩
  · intro hack
    refine ⟨by rw [h₁]; rfl, ?_⟩
    intro hset
    exact absurd (bne_iff_ne.mp hset) hack

variable [Add κ] [LT κ] [DecidableLT κ] [OfNat κ 0]

theorem stpReceivedConfigBpdu_ends {p : ℕ} {q : StpPortEntry κ} {bpdu : StpBpdu κ}
    {w : World κ τ Φ} (hq : w.br.portList[p]? = some q)
    (hs : (stpSupersedesPortInfo H.endian w.br { q with isOwnBpdu := false } bpdu).1 = true) :
    Ends (stpReceivedConfigBpdu H W p bpdu) w fun _ w' ↦
      w'.br.rootPort = q.portNo → w'.br.topologyChange = tcSet bpdu.flags ∧
      (tcAckSet bpdu.flags = true → w'.br.topologyChangeDetected = false ∧ TcnStopped H w') := by
  have hI : Closed H W (fun _ _ ↦ True) fun w ↦
      ∀ q', w.br.portList[p]? = some q' → q'.portNo = q.portNo :=
    closed_portNo p (· = q.portNo)
  have hown : (w.modifyPort p ({ · with isOwnBpdu := false })).br.portList[p]? =
      some { q with isOwnBpdu := false } := by
    simp only [World.modifyPort, List.getElem?_modify_eq, hq, Option.map_eq_map, Option.map_some]
  have h₀ : ∀ q', w.br.portList[p]? = some q' → q'.portNo = q.portNo := by
    intro q' hq'
    rw [Option.some.inj (hq'.symm.trans hq)]
  have hkept : ∀ q', w.br.portList[p]? = some q' → PortKept q' { q' with isOwnBpdu := false } :=
    fun _ _ ↦ ⟨rfl, id⟩
  have h₁ := hI (.port w p _ hkept) h₀
  apply Ends.bind
  apply ends_bridge
  apply Ends.bind
  apply Ends.update
  refine ((supersedesPortInfo_ends p bpdu).and (supersedesPortInfo_keeps hI.stable.inPlace p bpdu
    h₁)).andThen ?_
  intro supersedes w₂ h
  obtain ⟨⟨q', hq', hsup, -⟩, h₂⟩ := h
  obtain rfl := Option.some.inj (hown.symm.trans hq')
  rw [if_pos (hsup.trans hs)]
  refine (recordSuperior_keeps hI.stable.inPlace (fun _ _ ↦ trivial) _ h₂).andThen ?_
  intro _ w₃ h₃
  apply Ends.bind
  apply ends_reads
  intro q₃ hq₃
  apply Ends.bind
  apply ends_bridge
  apply Ends.onlyIf
  · intro _
    exact (receivedOnRootPort_ends w₃ bpdu).mono fun _ _ h _ ↦ h
  · intro hne hroot
    exact absurd ((h₃ q₃ hq₃).trans hroot.symm) hne

theorem stpProcessBpdu_ends {portNo : U16} {frame : Φ} {bpdu : StpBpdu κ} {w : World κ τ Φ}
    (htype : W.type frame = some bpduConfigType) (hdecode : W.decode frame = some bpdu)
    (hs : ∀ p q, stpGetPortEntry w.br portNo = some p → w.br.portList[p]? = some q →
      (stpSupersedesPortInfo H.endian w.br { q with isOwnBpdu := false } bpdu).1 = true) :
    Ends (stpProcessBpdu H W portNo frame) w fun r w' ↦
      r = 0 → w'.br.rootPort = portNo.setWidth 32 → w'.br.topologyChange = tcSet bpdu.flags ∧
      (tcAckSet bpdu.flags = true → w'.br.topologyChangeDetected = false ∧ TcnStopped H w') := by
  apply Ends.bind
  apply ends_bridge
  cases hp : stpGetPortEntry w.br portNo with
  | none => exact .pure fun hr ↦ absurd hr (by decide)
  | some p =>
    apply Ends.bind
    apply ends_reads
    intro q hq
    apply Ends.ite
    · intro _
      exact .pure fun hr ↦ absurd hr (by decide)
    · intro _
      apply Ends.bind
      apply ends_reads
      intro type ht
      obtain rfl := Option.some.inj (ht.symm.trans htype)
      rw [if_pos rfl]
      apply Ends.bind
      apply ends_reads
      intro bpdu' hb
      obtain rfl := Option.some.inj (hb.symm.trans hdecode)
      refine (stpReceivedConfigBpdu_ends hq (hs p q hp hq)).andThen ?_
      intro _ w' h
      apply Ends.pure
      intro _ hroot
      exact h (hroot.trans (stpGetPortEntry_portNo hp hq).symm)

end Neighbour

/-- A neighbour takes the frame from its root port and lets it replace what it
knows. -/
structure HearsOnRootPort (H : Host τ) (portNo : U16) (frame : List U8)
    (v v' : World Int32 τ (List U8)) : Prop where
  processed : stpProcessBpdu H (frames H.endian) portNo frame v = some (0, v')
  supersedes : ∀ p q bpdu, stpGetPortEntry v.br portNo = some p → v.br.portList[p]? = some q →
    (frames H.endian).decode frame = some bpdu →
    (stpSupersedesPortInfo H.endian v.br { q with isOwnBpdu := false } bpdu).1 = true
  rootPort : v'.br.rootPort = portNo.setWidth 32

/-- A config BPDU that is sent tells both flags rightly exactly when the byte on
the stack happens to help. A notification that was accepted is acknowledged in
the next one, unless the frame is dropped; and what is told rightly has the
intended effect on a neighbour. -/
theorem topology_change_signalled_iff {τ τ' : Type} (H : Host τ) (H' : Host τ') {p : ℕ}
    {w w' : World Int32 τ (List U8)} {portNo : U32} {frame : List U8}
    (hrun : stpTransmitConfig H (frames H.endian) p w = some ((), w'))
    (hsent : w'.sent = w.sent ++ [(portNo, frame)]) :
    ∃ q bpdu, w.br.portList[p]? = some q ∧ (frames H'.endian).decode frame = some bpdu ∧
      (tcSet bpdu.flags = w.br.topologyChange ∧ tcAckSet bpdu.flags = q.topologyChangeAck ↔
        FlagsRight (H.stackByte w.env) w.br.topologyChange q.topologyChangeAck) ∧
      (∀ w₀ w₁ ss, acceptTcn H (frames H.endian) p w₀ = some ((), w₁) →
        Run (signal H (frames H.endian)) (Unsent H (frames H.endian) p) w₁ ss w →
        q.topologyChangeAck = true) ∧
      (FlagsRight (H.stackByte w.env) w.br.topologyChange q.topologyChangeAck →
        ∀ n v v', HearsOnRootPort H' n frame v v' →
          v'.br.topologyChange = w.br.topologyChange ∧
          (q.topologyChangeAck = true →
            v'.br.topologyChangeDetected = false ∧ TcnStopped H' v')) := by
  obtain ⟨q, hq, ht⟩ := stpTransmitConfig_ends p _ _ hrun
  obtain ⟨age, smac, -, hx⟩ := ht.sent_eq hsent
  obtain ⟨rfl, rfl⟩ := Prod.mk.inj hx
  have hdecode := decode_config H.endian H'.endian smac
    (configBpdu (H.stackByte w.env) w.br q age)
  have hiff := flagsRight_iff (H.stackByte w.env) w.br.topologyChange q.topologyChangeAck
  refine ⟨q, _, hq, hdecode, hiff, ?_, ?_⟩
  · intro w₀ w₁ ss haccept hss
    exact (acceptTcn_owes p w₀ _ _ haccept).run hss q hq
  · intro hright n v v' hhears
    obtain ⟨htc, hack⟩ := hiff.mpr hright
    have htype := type_config H.endian H'.endian smac (configBpdu (H.stackByte w.env) w.br q age)
    obtain ⟨htc', hack'⟩ := stpProcessBpdu_ends htype hdecode
      (fun p q hp hq ↦ hhears.supersedes p q _ hp hq hdecode) _ _ hhears.processed rfl
      hhears.rootPort
    exact ⟨htc'.trans htc, fun h ↦ hack' (hack.trans h)⟩

def relayNotified : Option (World Int32 TimerMgr (List U8)) :=
  (exec relayStep relayStart relayEvents).bind fun w ↦
    (acceptTcn relayHost (frames .little) 1 w).map Prod.snd

/-- The acknowledgement arrives as a change of topology. -/
theorem acknowledgement_told_as_change :
    ∃ w w' portNo frame q bpdu, relayNotified = some w ∧
      stpTransmitConfig relayHost (frames .little) 1 w = some ((), w') ∧
      w'.sent = w.sent ++ [(portNo, frame)] ∧ w.br.portList[1]? = some q ∧
      (frames .little).decode frame = some bpdu ∧
      q.topologyChangeAck = true ∧ w.br.topologyChange = false ∧
      tcAckSet bpdu.flags = false ∧ tcSet bpdu.flags = true := by
  have hcheck : (relayNotified.any fun w ↦
      (stpTransmitConfig relayHost (frames .little) 1 w).any fun x ↦
      (x.2.sent.drop w.sent.length).head?.any fun y ↦
      w.br.portList[1]?.any fun q ↦ ((frames .little).decode y.2).any fun bpdu ↦
        x.2.sent = w.sent ++ [y] ∧ q.topologyChangeAck = true ∧ w.br.topologyChange = false ∧
          tcAckSet bpdu.flags = false ∧ tcSet bpdu.flags = true) = true := by
    decide +kernel
  simp only [Option.any_eq_true, decide_eq_true_eq] at hcheck
  obtain ⟨w, hw, x, hx, y, -, q, hq, bpdu, hbpdu, hsent, hflags⟩ := hcheck
  exact ⟨w, x.2, y.1, y.2, q, bpdu, hw, hx, hsent, hq, hbpdu, hflags⟩

def luckyHost : Host TimerMgr := timerHost .little 0x80

def luckyBridge (n : U8) : Option (World Int32 TimerMgr (List U8)) :=
  exec (fun w ev ↦ (handle luckyHost (frames .little) ev w).map Prod.snd)
    (newInstance luckyHost 1 (macAddress 0 0 0 0 0 n) [1]
      (.replicate maxPorts ⟨.down, macAddress 0 0 0 0 0 n, none⟩) initTimerMgr)
    [.setOperStatus 0 .up, .setState true]

theorem topology_change_signalled_lucky :
    ∃ w₀ w w' portNo frame v v', luckyBridge 1 = some w₀ ∧ luckyBridge 2 = some v ∧
      acceptTcn luckyHost (frames .little) 0 w₀ = some ((), w) ∧
      stpTransmitConfig luckyHost (frames .little) 0 w = some ((), w') ∧
      w'.sent = w.sent ++ [(portNo, frame)] ∧ HearsOnRootPort luckyHost 1 frame v v' ∧
      v.br.topologyChangeDetected = true ∧ v'.br.topologyChangeDetected = false ∧
      v'.br.topologyChange = w.br.topologyChange := by
  have hcheck : ((luckyBridge 1).any fun w₀ ↦ (luckyBridge 2).any fun v ↦
      (acceptTcn luckyHost (frames .little) 0 w₀).any fun a ↦
      (stpTransmitConfig luckyHost (frames .little) 0 a.2).any fun x ↦
      (x.2.sent.drop a.2.sent.length).head?.any fun y ↦
      (stpProcessBpdu luckyHost (frames .little) 1 y.2 v).any fun z ↦
      x.2.sent = a.2.sent ++ [y] ∧ z.1 = 0 ∧ z.2.br.rootPort = 1 ∧
        v.br.topologyChangeDetected = true ∧ a.2.br.topologyChange = true ∧
        (stpGetPortEntry v.br 1).all fun p ↦ v.br.portList[p]?.all fun q ↦
          ((frames .little).decode y.2).all fun bpdu ↦
            (stpSupersedesPortInfo .little v.br { q with isOwnBpdu := false } bpdu).1) = true := by
    decide +kernel
  simp only [Option.any_eq_true, Option.all_eq_true, decide_eq_true_eq] at hcheck
  obtain ⟨w₀, hw₀, v, hv, a, ha, x, hx, y, -, z, hz, hsent, hzero, hroot, hdet, htc, hsup⟩ := hcheck
  have hhears : HearsOnRootPort luckyHost 1 y.2 v z.2 :=
    ⟨hz.trans (by rw [← hzero]), fun p q bpdu hp hq hb ↦ hsup p hp q hq bpdu hb, hroot⟩
  obtain ⟨q, -, -, -, -, howed, heffect⟩ :=
    topology_change_signalled_iff luckyHost luckyHost hx hsent
  have hack : q.topologyChangeAck = true := howed w₀ a.2 [] ha (.nil _)
  have hright : FlagsRight (luckyHost.stackByte a.2.env) a.2.br.topologyChange
      q.topologyChangeAck := by
    refine ⟨?_, .inl htc⟩
    rw [hack]
    change BitVec.getLsbD 0x80#8 7 = true
    decide
  obtain ⟨htc', hcleared⟩ := heffect hright 1 v z.2 hhears
  exact ⟨w₀, a.2, x.2, y.1, y.2, v, z.2, hw₀, hv, ha, hx, hsent, hhears, hdet, (hcleared hack).1,
    htc'⟩

end Layer3Switch.Stp
