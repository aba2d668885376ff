import Layer3Switch.Bstp.Machine

namespace Layer3Switch.Bstp

open Lib.Bytes
open Rstp (PriVector IfState)

variable {H : Host} {w w' w'' : World} {i j : ℕ} {p q r : BstpPort} {f : BstpPort → BstpPort}

/-! ### Ports of a world -/

@[simp] theorem port_onPort :
    (w.onPort i f).port j = if i = j then (w.port j).map f else w.port j := by
  simp only [World.port, World.onPort, World.onBs, List.getElem?_modify]
  split <;> cases w.bs.bplist[j]? <;> rfl

@[simp] theorem port_onPorts : (w.onPorts f).port j = (w.port j).map f := by
  simp only [World.port, World.onPorts, World.onBs, List.getElem?_map]

theorem onPort_congr {g : BstpPort → BstpPort} (h : ∀ p, w.port i = some p → f p = g p) :
    w.onPort i f = w.onPort i g := by
  have hport : ∀ j, (w.onPort i f).port j = (w.onPort i g).port j := by
    intro j
    rw [port_onPort, port_onPort]
    split
    · subst i
      cases hp : w.port j with
      | none => rfl
      | some p => rw [Option.map_some, Option.map_some, h p hp]
    · rfl
  exact congrArg (fun l ↦ { w with bs.bplist := l }) (List.ext_getElem? hport)

theorem onPort_id : w.onPort i id = w :=
  congrArg (fun l ↦ { w with bs.bplist := l }) (List.modify_id i w.bs.bplist)

theorem withPort_some {k : BstpPort → World} (h : w.port i = some p) : w.withPort i k = k p := by
  simp only [World.withPort, h, Option.elim_some]

theorem withPort_of {k : BstpPort → World} {P : World → Prop} (hnone : P w)
    (hsome : ∀ p, w.port i = some p → P (k p)) : P (w.withPort i k) := by
  rw [World.withPort]
  cases h : w.port i with
  | none => exact hnone
  | some p => exact hsome p h

theorem forPorts_of {f : ℕ → World → World} {P : World → Prop} (hf : ∀ i w, P w → P (f i w))
    (h : P w) : P (w.forPorts f) := by
  rw [World.forPorts]
  generalize List.range w.bs.bplist.length = l
  induction l generalizing w with
  | nil => exact h
  | cons i l ih => exact ih (hf i w h)

/-! ### What is true of a port at all times -/

def Staged (s : IfState) : Prop := s = .discarding ∨ s = .learning ∨ s = .forwarding

/-- No topology change is under way on the port, nor can one be: the flush that the port
waits for is never done. No cost is left to be worked out later. A port that learns or
forwards is in the tree. -/
structure Tame (p : BstpPort) : Prop where
  inactive : p.tcstate = .inactive
  flush : p.fdbflush = true
  noTc : p.tcTimer.active = false
  noPndcost : p.flags.pndcost = false
  staged : Staged p.state
  placed : p.state ≠ .discarding → p.inTree = true

def vital (p : BstpPort) : TcState × Bool × Bool × Bool × IfState × Role :=
  (p.tcstate, p.fdbflush, p.tcTimer.active, p.flags.pndcost, p.state, p.role)

theorem Tame.congr (h : Tame p) (hvital : vital q = vital p) : Tame q := by
  simp only [vital, Prod.mk.injEq] at hvital
  obtain ⟨h₁, h₂, h₃, h₄, h₅, h₆⟩ := hvital
  refine ⟨h₁.trans h.inactive, h₂.trans h.flush, h₃.trans h.noTc, h₄.trans h.noPndcost, ?_, ?_⟩
  · exact h₅ ▸ h.staged
  · rw [BstpPort.inTree, h₅, h₆]
    exact h.placed

def Packet.tcFlag : Packet → Bool
  | .config bpdu => bpdu.flags &&& 0x01 ≠ 0
  | .tcn _ => false

structure Sound (w : World) : Prop where
  tame : ∀ j p, w.port j = some p → Tame p
  silent : ∀ x ∈ w.sent, x.2.tcFlag = false

theorem Sound.onPort (h : Sound w) (hf : ∀ p, Tame p → Tame (f p)) : Sound (w.onPort i f) := by
  refine ⟨fun j q hq ↦ ?_, h.silent⟩
  rw [port_onPort] at hq
  split at hq
  · obtain ⟨p, hp, rfl⟩ := Option.map_eq_some_iff.mp hq
    exact hf p (h.tame j p hp)
  · exact h.tame j q hq

theorem Sound.onPort_vital (h : Sound w) (hf : ∀ p, vital (f p) = vital p) : Sound (w.onPort i f) :=
  h.onPort fun p ht ↦ ht.congr (hf p)

theorem Sound.onBs {g : BstpState → BstpState} (h : Sound w)
    (hlist : (g w.bs).bplist = w.bs.bplist) :
    Sound (w.onBs g) :=
  ⟨fun j p hp ↦ h.tame j p ((congrArg (·[j]?) hlist).symm.trans hp), h.silent⟩

def view (p : BstpPort) : BstpPort :=
  { blankPort p.ifp with
    active := p.active
    infois := p.infois, role := p.role
    portPv := p.portPv, desgPv := p.desgPv, portId := p.portId
    portTimes := p.portTimes, pathCost := p.pathCost
    tcstate := p.tcstate, fdbflush := p.fdbflush, tcTimer.active := p.tcTimer.active
    flags.pndcost := p.flags.pndcost }

theorem Tame.of_view (h : Tame p) (role : Role) (hview : view q = view { p with role := role })
    (hstaged : Staged q.state) (hplaced : q.state ≠ .discarding → q.inTree = true) : Tame q :=
  ⟨(congrArg BstpPort.tcstate hview :).trans h.inactive,
    (congrArg BstpPort.fdbflush hview :).trans h.flush,
    (congrArg (·.tcTimer.active) hview :).trans h.noTc,
    (congrArg (·.flags.pndcost) hview :).trans h.noPndcost, hstaged, hplaced⟩

theorem inTree_of_view (hview : view q = view p) : q.inTree = p.inTree :=
  (congrArg BstpPort.inTree hview :)

/-- What the functions outside of an election do to a port. -/
structure Mild (p q : BstpPort) : Prop where
  view : view q = view p
  tame : Tame p → Tame q

theorem Mild.of (hview : Bstp.view q = Bstp.view p) (hstate : q.state = p.state) : Mild p q :=
  ⟨hview, fun h ↦ h.of_view p.role hview (hstate ▸ h.staged) fun hne ↦
    (inTree_of_view hview).trans (h.placed (hstate ▸ hne))⟩

theorem Mild.trans (h : Mild p q) (h' : Mild q r) : Mild p r :=
  ⟨h'.view.trans h.view, h'.tame ∘ h.tame⟩

/-- What the role machines may do to a port of the tree. -/
structure Moves (p q : BstpPort) : Prop where
  view : view q = view p
  staged : Staged p.state → Staged q.state

theorem Moves.of (hview : Bstp.view q = Bstp.view p) (hstate : q.state = p.state) : Moves p q :=
  ⟨hview, fun h ↦ hstate ▸ h⟩

theorem Moves.trans (h : Moves p q) (h' : Moves q r) : Moves p r :=
  ⟨h'.view.trans h.view, h'.staged ∘ h.staged⟩

theorem Moves.mild (h : Moves p q) (htree : p.inTree = true) : Mild p q :=
  ⟨h.view, fun ht ↦ ht.of_view p.role h.view (h.staged ht.staged) fun _ ↦
    (inTree_of_view h.view).trans htree⟩

theorem bstpSetPortState_eq (s : IfState) (p : BstpPort) : ∃ t n, bstpSetPortState s p =
    { p with state := s, forwardDelayTimer := t, forwardTransitions := n } := by
  unfold bstpSetPortState
  split
  · rename_i h
    exact ⟨p.forwardDelayTimer, p.forwardTransitions, by rw [← h]⟩
  · split <;> exact ⟨_, _, rfl⟩

theorem bstpSetPortState_moves {s : IfState} (hs : Staged s) (p : BstpPort) :
    Moves p (bstpSetPortState s p) := by
  obtain ⟨t, n, heq⟩ := bstpSetPortState_eq s p
  rw [heq]
  exact ⟨rfl, fun _ ↦ hs⟩

theorem bstpSetPortState_mild (p : BstpPort) : Mild p (bstpSetPortState .discarding p) := by
  obtain ⟨t, n, heq⟩ := bstpSetPortState_eq .discarding p
  rw [heq]
  exact ⟨rfl, fun h ↦ h.of_view p.role rfl (.inl rfl) fun hne ↦ absurd rfl hne⟩

/-! ### What leaves an election as it is -/

def BstpState.root (bs : BstpState) : RootChoice := ⟨bs.rootPv, bs.rootTimes, bs.rootPort⟩

def BstpState.ballot (bs : BstpState) : PriVector × RootChoice × RootChoice :=
  (bs.bridgePv, bs.root, bs.ownChoice)

/-- Nothing that an election reads or sets is different, and no packet sent tells of a
topology change. -/
structure Same (w w' : World) : Prop where
  ballot : w'.bs.ballot = w.bs.ballot
  length : w'.bs.bplist.length = w.bs.bplist.length
  port : ∀ j p, w.port j = some p → ∃ q, w'.port j = some q ∧ Mild p q
  sent : (∀ x ∈ w.sent, x.2.tcFlag = false) → ∀ x ∈ w'.sent, x.2.tcFlag = false

theorem Same.refl (w : World) : Same w w :=
  ⟨rfl, rfl, fun _ p hp ↦ ⟨p, hp, .of rfl rfl⟩, id⟩

theorem Same.trans (h : Same w w') (h' : Same w' w'') : Same w w'' := by
  refine ⟨h'.ballot.trans h.ballot, h'.length.trans h.length, fun j p hp ↦ ?_, h'.sent ∘ h.sent⟩
  obtain ⟨q, hq, hpq⟩ := h.port j p hp
  obtain ⟨r, hr, hqr⟩ := h'.port j q hq
  exact ⟨r, hr, hpq.trans hqr⟩

theorem Same.port_back (h : Same w w') (hq : w'.port j = some q) :
    ∃ p, w.port j = some p ∧ Mild p q := by
  have hj : j < w.bs.bplist.length := h.length ▸ (List.getElem?_eq_some_iff.mp hq).1
  obtain ⟨q', hq', hmild⟩ := h.port j _ (List.getElem?_eq_getElem hj)
  obtain rfl := Option.some.inj (hq.symm.trans hq')
  exact ⟨_, List.getElem?_eq_getElem hj, hmild⟩

theorem Same.sound (h : Same w w') (hs : Sound w) : Sound w' := by
  refine ⟨fun j q hq ↦ ?_, h.sent hs.silent⟩
  obtain ⟨p, hp, hmild⟩ := h.port_back hq
  exact hmild.tame (hs.tame j p hp)

theorem Same.andThen (h : Same w w') (hs : Sound w) (h' : Sound w' → Same w' w'') : Same w w'' :=
  h.trans (h' (h.sound hs))

theorem same_ite {c : Prop} [Decidable c] (h : c → Same w w') (h' : ¬c → Same w w'') :
    Same w (if c then w' else w'') := by
  split
  · exact h ‹_›
  · exact h' ‹_›

theorem same_onPort (hf : ∀ p, w.port i = some p → Mild p (f p)) : Same w (w.onPort i f) := by
  refine ⟨rfl, List.length_modify .., fun j p hp ↦ ?_, id⟩
  rw [port_onPort, hp]
  split
  · subst i
    exact ⟨f p, rfl, hf p hp⟩
  · exact ⟨p, rfl, .of rfl rfl⟩

theorem same_onPorts (hf : ∀ p, Mild p (f p)) : Same w (w.onPorts f) := by
  refine ⟨rfl, List.length_map .., fun j p hp ↦ ?_, id⟩
  rw [port_onPorts, hp]
  exact ⟨f p, rfl, hf p⟩

theorem same_onBs {g : BstpState → BstpState} (hballot : (g w.bs).ballot = w.bs.ballot)
    (hlist : (g w.bs).bplist = w.bs.bplist) : Same w (w.onBs g) :=
  ⟨hballot, congrArg List.length hlist,
    fun j p hp ↦ ⟨p, (congrArg (·[j]?) hlist).trans hp, .of rfl rfl⟩, id⟩

theorem Same.allsynced {g : BstpState → Bool} (h : Same w w') :
    Same w (w'.onBs fun bs ↦ { bs with allsynced := g bs }) := h.trans (same_onBs rfl rfl)

theorem Same.sendPacket {ifp : U16} {pkt : Packet} (h : Same w w') (hpkt : pkt.tcFlag = false) :
    Same w (w'.sendPacket ifp pkt) := by
  refine h.trans ⟨rfl, rfl, fun _ p hp ↦ ⟨p, hp, .of rfl rfl⟩, fun hsilent x hx ↦ ?_⟩
  obtain hx | hx := List.mem_append.mp hx
  · exact hsilent x hx
  · rw [List.mem_singleton.mp hx]
    exact hpkt

theorem startLinkTimer_same : Same w (startLinkTimer w) := same_onBs rfl rfl

/-! ### Packets -/

theorem bstpPduFlags_tc (h : p.tcTimer.active = false) : bstpPduFlags p &&& 1#8 = 0#8 := by
  unfold bstpPduFlags
  rw [h]
  cases p.proposing <;> cases p.agree <;> cases p.tcAck <;> cases p.state <;> cases p.role <;>
    cases p.protover <;> rfl

theorem transmitKept_same (hs : Sound w) : Same w (transmitKept H i w) := by
  refine withPort_of (.refl w) fun p hp ↦ same_ite (fun _ ↦ .refl w) fun _ ↦ ?_
  have hcount : Same w (w.onPort i fun bp ↦ { bp with txcount := bp.txcount + 1 }) :=
    same_onPort fun _ _ ↦ .of rfl rfl
  have hbpdu : Same w ((bstpTransmitBpdu H i w).onPort i ({ · with tcAck := false })) := by
    rw [bstpTransmitBpdu, withPort_some hp]
    refine (hcount.sendPacket ?_).trans (same_onPort fun _ _ ↦ .of rfl rfl)
    simp [Packet.tcFlag, bstpCbpdu, bstpPduFlags_tc (hs.tame i p hp).noTc]
  refine .trans ?_ (same_onPort fun _ _ ↦ .of rfl rfl)
  split
  · exact hbpdu
  · exact hbpdu
  · rw [bstpTransmitTcn, withPort_some hp]
    exact hcount.sendPacket rfl
  · exact .refl w

theorem bstpHelloTimerExpiry_same (hs : Sound w) : Same w (bstpHelloTimerExpiry H i w) := by
  refine withPort_of (.refl w) fun _ _ ↦ same_ite (fun _ ↦ ?_) fun _ ↦ .refl w
  have hstart : Same w (w.onPort i restartHello) := same_onPort fun _ _ ↦ .of rfl rfl
  exact same_ite (fun _ ↦ hstart.andThen hs transmitKept_same) fun _ ↦ hstart

theorem bstpTransmit_same (hs : Sound w) : Same w (bstpTransmit H i w) :=
  same_ite (fun _ ↦ .refl w) fun _ ↦ withPort_of (.refl w) fun _ _ ↦
    same_ite (fun _ ↦ bstpHelloTimerExpiry_same hs) fun _ ↦ transmitKept_same hs

theorem bstpUpdateTc_eq (hs : Sound w) : bstpUpdateTc H i w = w := by
  refine withPort_of (P := (· = w)) rfl fun p hp ↦ ?_
  have ht := hs.tame i p hp
  rw [ht.inactive]
  change tcWhen H _ .learning i w = w
  rw [tcWhen, withPort_some hp, ht.flush, Bool.not_true, Bool.and_false]
  rfl

/-! ### The role machines -/

theorem clearSync_mild (p : BstpPort) : Mild p (clearSync p) := by
  unfold clearSync
  split <;> exact .of rfl rfl

theorem syncWhenProposed_same : Same w (syncWhenProposed i w) := by
  refine withPort_of (.refl w) fun p _ ↦ same_ite (fun _ ↦ ?_) fun _ ↦ .refl w
  have hall : Same w (bstpSetAllSync w) := .allsynced (same_onPorts fun _ ↦ .of rfl rfl)
  exact hall.trans (same_onPort fun _ _ ↦ .of rfl rfl)

theorem agreeWhen_mild (allsynced : Bool) (p : BstpPort) : Mild p (agreeWhen allsynced p) := by
  unfold agreeWhen
  split <;> exact .of rfl rfl

theorem rootAgreed_mild (allsynced : Bool) (p : BstpPort) : Mild p (rootAgreed allsynced p) := by
  unfold rootAgreed
  split
  · exact (agreeWhen_mild allsynced p).trans (.of rfl rfl)
  · exact .of rfl rfl

theorem updateAlternate_same : Same w (updateAlternate i w) :=
  ((same_onPort fun p _ ↦ agreeWhen_mild _ p).trans syncWhenProposed_same).trans
    (same_onPort fun p _ ↦ clearSync_mild p)

theorem rootForward_moves (rerooted : Bool) (p : BstpPort) : Moves p (rootForward rerooted p) := by
  unfold rootForward
  split
  · split
    · exact bstpSetPortState_moves (.inr (.inl rfl)) p
    · exact bstpSetPortState_moves (.inr (.inr rfl)) p
    · exact .of rfl rfl
  · exact .of rfl rfl

theorem rootRerooted_mild (p : BstpPort) : Mild p (rootRerooted p) := by
  unfold rootRerooted
  split <;> exact .of rfl rfl

theorem updateRoot_same (hp : w.port i = some p) (hrole : p.role = .root) :
    Same w (updateRoot i w) := by
  have hreroot : Same w (w.withPort i fun bp ↦
      if bp.state ≠ .forwarding && !bp.reroot then bstpSetAllReroot w else w) :=
    withPort_of (.refl w) fun _ _ ↦
      same_ite (fun _ ↦ same_onPorts fun _ ↦ .of rfl rfl) fun _ ↦ .refl w
  have hagreed := fun b ↦ (hreroot.trans (same_onPort (i := i) fun p _ ↦ rootAgreed_mild b p)).trans
    (syncWhenProposed_same (i := i))
  refine ((hagreed _).trans (same_onPort fun q hq ↦ (rootForward_moves _ q).mild ?_)).trans
    (same_onPort fun p _ ↦ rootRerooted_mild p)
  obtain ⟨q', hq', hmild⟩ := (hagreed _).port i p hp
  obtain rfl := Option.some.inj (hq.symm.trans hq')
  rw [inTree_of_view hmild.view, BstpPort.inTree, hrole]
  rfl

theorem designatedForward_moves (p : BstpPort) : Moves p (designatedForward p) := by
  unfold designatedForward
  split_ifs
  · exact (bstpSetPortState_moves (.inr (.inr rfl)) p).trans (.of rfl rfl)
  · exact bstpSetPortState_moves (.inr (.inl rfl)) p
  · exact .of rfl rfl
  · exact .of rfl rfl

theorem designatedDiscard_moves (p : BstpPort) : Moves p (designatedDiscard p) := by
  unfold designatedDiscard
  split
  · exact (bstpSetPortState_moves (.inl rfl) p).trans (.of rfl rfl)
  · exact .of rfl rfl

theorem updateDesignated_moves (p : BstpPort) : Moves p (updateDesignated p) := by
  have hretired : Moves p (designatedRetired p) := by
    unfold designatedRetired
    split <;> exact .of rfl rfl
  have hsynced : ∀ q, Moves q (designatedSynced q) := by
    intro q
    unfold designatedSynced
    split <;> exact .of rfl rfl
  have hpropose : ∀ q, Moves q (designatedPropose q) := by
    intro q
    unfold designatedPropose
    split <;> exact .of rfl rfl
  exact (((hretired.trans (hsynced _)).trans (hpropose _)).trans (designatedForward_moves _)).trans
    (designatedDiscard_moves _)

theorem updateRole_same : Same w (updateRole i w) := by
  refine withPort_of (.refl w) fun p hp ↦ ?_
  split
  · exact same_onPort fun p _ ↦ clearSync_mild p
  · exact updateAlternate_same
  · exact updateAlternate_same
  · exact updateRoot_same hp ‹_›
  · rename_i hrole
    refine same_onPort fun q hq ↦ (updateDesignated_moves q).mild ?_
    obtain rfl := Option.some.inj (hp.symm.trans hq)
    rw [BstpPort.inTree, hrole]
    rfl

theorem bstpUpdateRoles_same (hs : Sound w) : Same w (bstpUpdateRoles H i w) :=
  updateRole_same.andThen hs fun hs ↦ withPort_of (.refl _) fun _ _ ↦
    same_ite (fun _ ↦ bstpTransmit_same hs) fun _ ↦ .refl _

theorem bstpUpdateState_same (hs : Sound w) : Same w (bstpUpdateState H i w) := by
  have hroles : Same w (bstpUpdateRoles H i (if w.bs.allsynced then w
      else w.onBs fun bs ↦ { bs with
        allsynced := bs.bplist.all fun bp ↦ bp.synced || bp.role = .root })) :=
    (same_ite (fun _ ↦ .refl w) fun _ ↦ .allsynced (.refl w)).andThen hs bstpUpdateRoles_same
  have heq : bstpUpdateState H i w = _ := bstpUpdateTc_eq (hroles.sound hs)
  rw [heq]
  exact hroles

end Layer3Switch.Bstp
