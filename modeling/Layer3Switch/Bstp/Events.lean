import Layer3Switch.Bstp.Election
import Layer3Switch.Lib.Run

namespace Layer3Switch.Bstp

open Lib Lib.Bytes
open Timers (U32)
open Stp (IfStatus)

variable {H : Host} {w w' : World} {i j : ℕ} {p q : BstpPort} {f : BstpPort → BstpPort}
  {l : List (U16 × Bool)}

/-- What can happen to an instance, apart from what the code never does: the flush of the
addresses of a port, whose function nothing calls. -/
inductive Event
  | tick
  | bpdu (i : ℕ) (tpdu : BstpCbpdu)
  | init
  | stop
  | create (ifp : U16)
  | enable (i : ℕ)
  | disable (i : ℕ)
  | linkstate (ifp : U16)
  | setHtime (t : ℤ)
  | setFdelay (t : ℤ)
  | setMaxage (t : ℤ)
  | setTimes (fdly maxage htime : Int32)
  | setHoldcount (count : ℤ)
  | setProtocol (proto : U8)
  | setPriority (pri : ℤ)
  | setPortPriority (i : ℕ) (pri : ℤ)
  | setPathCost (i : ℕ) (cost : U32)
  | setEdge (i : ℕ) (set : Bool)
  | setAutoedge (i : ℕ) (set : Bool)
  | setPtp (i : ℕ) (set : Bool)
  | setAutoptp (i : ℕ) (set : Bool)
  | surroundings (operState : U16 → IfStatus) (stackWord : U32) (stackByte : U8)

def step (H : Host) (w : World) : Event → Option World
  | .tick => some (bstpTick H w)
  | .bpdu i tpdu => some (rstpProcessBpdu H tpdu i w)
  | .init => some (bstpInit H w)
  | .stop => some (bstpStop w)
  | .create ifp => some (bstpCreate H ifp w)
  | .enable i => (w.port i).map fun _ ↦ bstpEnable H i w
  | .disable i => (w.port i).map fun _ ↦ bstpDisable H i w
  | .linkstate ifp => some (bstpLinkstate H ifp w)
  | .setHtime t => some (bstpSetHtime H t w).1
  | .setFdelay t => some (bstpSetFdelay H t w).1
  | .setMaxage t => some (bstpSetMaxage H t w).1
  | .setTimes fdly maxage htime => some (rstpSetBridgeTimes H fdly maxage htime w).1
  | .setHoldcount count => some (bstpSetHoldcount count w).1
  | .setProtocol proto => some (bstpSetProtocol H proto w).1
  | .setPriority pri => some (bstpSetPriority H pri w).1
  | .setPortPriority i pri => some (bstpSetPortPriority H i pri w).1
  | .setPathCost i cost => some (bstpSetPathCost H i cost w).1
  | .setEdge i set => some (bstpSetEdge i set w)
  | .setAutoedge i set => some (bstpSetAutoedge i set w)
  | .setPtp i set => some (bstpSetPtp i set w)
  | .setAutoptp i set => some (bstpSetAutoptp H i set w)
  | .surroundings operState stackWord stackByte =>
    some { w with operState := operState, stackWord := stackWord, stackByte := stackByte }

def fresh (vlanId : U16) (operState : U16 → IfStatus) (stackWord : U32) (stackByte : U8) : World :=
  ⟨bstpAttach vlanId, operState, stackWord, stackByte, []⟩

def addPort (ifp : U16) (w : World) : World :=
  w.onBs fun bs ↦ { bs with bplist := bs.bplist ++ [newPort bs w.stackWord ifp] }

/-! ### Properties that the elections keep up -/

/-- A property that every election establishes and that nothing else breaks. A message of
the old protocol may lower the cost of its port without an election: `Legacy` says whether
such messages are allowed. -/
structure Holding (H : Host) (Legacy : Prop) (Inv : World → Prop) : Prop where
  assign : ∀ {w}, Sound w → Inv (bstpAssignRoles H w)
  same : ∀ {w w'}, Same w w' → Inv w → Inv w'
  add : ∀ {w} ifp, Inv w → Inv (addPort ifp w)
  migrate : ∀ {w} i delay version, (version = Proto.stp.number → Legacy) → Inv w →
    Inv (w.onPort i (migrate delay version))

theorem holding_sound : Holding H True fun _ ↦ True :=
  ⟨fun _ ↦ trivial, fun _ ↦ id, fun _ ↦ id, fun _ _ _ _ ↦ id⟩

/-! ### The members of an instance -/

def World.members (w : World) : List (U16 × Bool) := w.bs.bplist.map BstpPort.member

/-- A world with the members `l`, in which nothing has gone wrong. -/
def Among (l : List (U16 × Bool)) (w : World) : Prop := Sound w ∧ w.members = l

theorem members_eq
    (h : ∀ j p, w.port j = some p → ∃ q, w'.port j = some q ∧ q.member = p.member)
    (hback : ∀ j q, w'.port j = some q → ∃ p, w.port j = some p) : w'.members = w.members := by
  apply List.ext_getElem?
  intro j
  simp only [World.members, List.getElem?_map]
  change (w'.port j).map _ = (w.port j).map _
  cases hp : w.port j with
  | some p =>
    obtain ⟨q, hq, hmember⟩ := h j p hp
    rw [hq, Option.map_some, Option.map_some, hmember]
  | none =>
    cases hq : w'.port j with
    | none => rfl
    | some q =>
      obtain ⟨p, hp'⟩ := hback j q hq
      cases hp.symm.trans hp'

theorem Among.same (h : Among l w) (hsame : Sound w → Same w w') : Among l w' := by
  have hsame := hsame h.1
  refine ⟨hsame.sound h.1, (members_eq (fun j p hp ↦ ?_) fun j q hq ↦ ?_).trans h.2⟩
  · obtain ⟨q, hq, hmild⟩ := hsame.port j p hp
    exact ⟨q, hq, (congrArg BstpPort.member hmild.view :)⟩
  · obtain ⟨p, hp, -⟩ := hsame.port_back hq
    exact ⟨p, hp⟩

theorem members_onPort (hf : ∀ p, (f p).member = p.member) : (w.onPort i f).members = w.members :=
  Lib.map_modify_of_eq fun p _ ↦ hf p

theorem map_modify {α β : Type} (f : α → α) (f' : β → β) (g : α → β) (l : List α)
    (h : ∀ x, g (f x) = f' (g x)) : (l.modify i f).map g = (l.map g).modify i f' := by
  apply List.ext_getElem?
  intro j
  simp only [List.getElem?_map, List.getElem?_modify]
  split <;> cases l[j]? <;> simp [h]

theorem Among.onPort (h : Among l w) (hvital : ∀ p, vital (f p) = vital p)
    (hf : ∀ p, (f p).member = p.member) : Among l (w.onPort i f) :=
  ⟨h.1.onPort_vital hvital, (members_onPort hf).trans h.2⟩

theorem Among.mild (h : Among l w) (hf : ∀ p, Mild p (f p)) : Among l (w.onPort i f) :=
  h.same fun _ ↦ same_onPort fun p _ ↦ hf p

theorem Among.elect (h : Among l w) : Among l (bstpAssignRoles H w) := by
  obtain ⟨hs, -, -, hout, hin⟩ := bstpAssignRoles_outcome (H := H) h.1
  refine ⟨hs, (members_eq (fun j p hp ↦ ?_) fun j q hq ↦ ?_).trans h.2⟩
  · obtain ⟨q, hq, houtcome⟩ := hout j p hp
    exact ⟨q, hq, houtcome.member⟩
  · obtain ⟨p, hp, -⟩ := hin j q hq
    exact ⟨p, hp⟩

def Kept (l : List (U16 × Bool)) (I : World → Prop) (w : World) : Prop := Among l w ∧ I w

def Fine (I : World → Prop) (w : World) : Prop := Sound w ∧ I w

theorem Kept.fine {I : World → Prop} (h : Kept l I w) : Fine I w := ⟨h.1.1, h.2⟩

theorem Fine.command {I : World → Prop} {c : Prop} [Decidable c] {r r' : ℤ} (h : Fine I w)
    (h' : Fine I w') : Fine I (if c then (w, r) else (w', r')).1 := by
  split
  · exact h
  · exact h'

theorem migrate_keeps (delay : U16) (version : U8) (p : BstpPort) :
    vital (migrate delay version p) = vital p ∧ stand (migrate delay version p) = stand p ∧
      (migrate delay version p).member = p.member := by
  unfold migrate
  split
  · cases Proto.ofNumber version with
    | none => exact ⟨rfl, rfl, rfl⟩
    | some proto => cases proto <;> exact ⟨rfl, rfl, rfl⟩
  · exact ⟨rfl, rfl, rfl⟩

theorem bstpEdgeDelayExpiry_mild (p : BstpPort) : Mild p (bstpEdgeDelayExpiry p) := by
  unfold bstpEdgeDelayExpiry
  split <;> exact .of rfl rfl

theorem Sound.passTimers (hs : Sound w) : Same w (w.onPort i passTimers) := by
  refine same_onPort fun p hp ↦ ?_
  have hinactive : (bstpTimerExpired p.tcTimer).1 = p.tcTimer := by
    rw [bstpTimerExpired, (hs.tame i p hp).noTc]
    rfl
  unfold Bstp.passTimers
  rw [hinactive]
  exact .of rfl rfl

theorem newPort_fields (bs : BstpState) (stackWord : U32) (ifp : U16) :
    Tame (newPort bs stackWord ifp) ∧ (newPort bs stackWord ifp).role = .disabled ∧
      (newPort bs stackWord ifp).infois = .disabled := by
  unfold newPort
  cases bs.protover <;> exact ⟨⟨rfl, rfl, rfl, rfl, .inl rfl, fun h ↦ absurd rfl h⟩, rfl, rfl⟩

theorem port_addPort {ifp : U16} (hq : (addPort ifp w).port j = some q) :
    w.port j = some q ∨ j = w.bs.bplist.length ∧ q = newPort w.bs w.stackWord ifp := by
  change (w.bs.bplist ++ [newPort w.bs w.stackWord ifp])[j]? = some q at hq
  obtain hj | hj := Nat.lt_or_ge j w.bs.bplist.length
  · rw [List.getElem?_append_left hj] at hq
    exact .inl hq
  · rw [List.getElem?_append_right hj, List.getElem?_singleton] at hq
    split at hq
    · exact .inr ⟨by omega, (Option.some.inj hq).symm⟩
    · exact absurd hq.symm (Option.some_ne_none q)

theorem Sound.addPort (ifp : U16) (hs : Sound w) : Sound (addPort ifp w) := by
  refine ⟨fun j q hq ↦ ?_, hs.silent⟩
  obtain hq | ⟨-, rfl⟩ := port_addPort hq
  · exact hs.tame j q hq
  · exact (newPort_fields _ _ _).1

theorem Sound.dropPort (hs : Sound w) :
    Sound (w.onBs fun bs ↦ { bs with bplist := bs.bplist.eraseIdx i }) := by
  refine ⟨fun j q hq ↦ ?_, hs.silent⟩
  have hmem : q ∈ w.bs.bplist := List.mem_of_mem_eraseIdx (List.mem_of_getElem? hq)
  obtain ⟨k, hk⟩ := List.mem_iff_getElem?.mp hmem
  exact hs.tame k q hk

theorem Sound.reinitPort {proto : Proto} (hs : Sound w) : Sound (reinitPort H proto i w) := by
  have hproto : Sound ((w.onPort i ({ · with infois := .disabled, txcount := 0 })).onPort i
      (bstpSetPortProto w.bs.migrationDelay proto)) :=
    Sound.onPort_vital (Sound.onPort_vital hs fun _ ↦ rfl) fun _ ↦ by cases proto <;> rfl
  have hrole : Sound (bstpSetPortRole H .disabled i
      ((w.onPort i ({ · with infois := .disabled, txcount := 0 })).onPort i
        (bstpSetPortProto w.bs.migrationDelay proto))) := by
    cases hp : World.port _ i with
    | none =>
      rw [bstpSetPortRole, World.withPort, hp]
      exact hproto
    | some p =>
      obtain ⟨q, -, htame, hsets⟩ := bstpSetPortRole_sets .disabled hproto hp
      exact hsets.sound hproto htame
  have htc : Sound (bstpSetPortTc H .inactive i (bstpSetPortRole H .disabled i
      ((w.onPort i ({ · with infois := .disabled, txcount := 0 })).onPort i
        (bstpSetPortProto w.bs.migrationDelay proto)))) :=
    (hrole.onPort fun _ ht ↦ ht.congr (by rw [vital, vital, ht.inactive])).onPort fun _ ht ↦
      ⟨ht.inactive, rfl, rfl, ht.noPndcost, ht.staged, ht.placed⟩
  exact htc.onPort_vital fun _ ↦ rfl

section Holding

variable {L : Prop} {I : World → Prop} (hI : Holding H L I)
include hI

theorem Holding.keep (h : Kept l I w) (hsame : Sound w → Same w w') : Kept l I w' :=
  ⟨h.1.same hsame, hI.same (hsame h.1.1) h.2⟩

theorem Holding.onPort (h : Kept l I w) (hf : ∀ p, Mild p (f p)) : Kept l I (w.onPort i f) :=
  hI.keep h fun _ ↦ same_onPort fun p _ ↦ hf p

theorem Holding.updateState (h : Kept l I w) : Kept l I (bstpUpdateState H i w) :=
  hI.keep h bstpUpdateState_same

theorem Holding.elect (h : Among l w) : Kept l I (bstpAssignRoles H w) := ⟨h.elect, hI.assign h.1⟩

theorem Holding.disablePort (h : Among l w) : Kept l I (bstpDisablePort H i w) :=
  hI.elect (.mild (h.onPort (fun _ ↦ rfl) fun _ ↦ rfl) bstpSetPortState_mild)

theorem Holding.ifupdstatus (h : Kept l I w) : Kept l I (bstpIfupdstatus H i w) := by
  refine withPort_of h fun p hp ↦ ?_
  -- no cost is left to be worked out
  have hcost : (w.onPort i fun bp ↦ if bp.flags.pndcost then
      { bp with pathCost := bstpCalcPathCost w.stackWord bp, flags.pndcost := false } else bp) =
        w := by
    refine (onPort_congr fun q hq ↦ ?_).trans onPort_id
    rw [(h.1.1.tame i q hq).noPndcost]
    rfl
  rw [hcost]
  split_ifs
  · exact hI.elect (h.1.onPort (fun _ ↦ rfl) fun _ ↦ rfl)
  · exact h
  · exact hI.disablePort h.1
  · exact h

theorem Holding.reinit (h : Among l w) : Kept l I (bstpReinit H w) := by
  have hports : Among l ((renewBridgePv H w).forPorts (reinitStatus H)) := by
    refine forPorts_of (fun i w hw ↦ (holding_sound.ifupdstatus ⟨?_, trivial⟩).1)
      ⟨h.1.onBs rfl, h.2⟩
    exact hw.onPort (fun _ ↦ rfl) fun _ ↦ rfl
  exact hI.keep (hI.elect hports) fun _ ↦ startLinkTimer_same

theorem Holding.enable (h : Among l w) :
    Kept (l.modify i fun x ↦ (x.1, true)) I (bstpEnable H i w) := by
  have hset : Among (l.modify i fun x ↦ (x.1, true))
      (w.onPort i ({ · with active := true, flags.newinfo := true })) := by
    rw [← h.2]
    exact ⟨h.1.onPort_vital fun _ ↦ rfl, map_modify _ _ _ w.bs.bplist fun _ ↦ rfl⟩
  exact hI.keep (hI.reinit hset) bstpUpdateRoles_same

theorem Holding.receivedBpdu {cu : BstpConfigUnit} (h : Kept l I w) :
    Kept l I (bstpReceivedBpdu H cu i w) := by
  refine withPort_of h fun p _ ↦ ?_
  split
  · exact h
  split
  · have hsync : Among l (w.onBs ({ · with allsynced := false })) := ⟨h.1.1.onBs rfl, h.1.2⟩
    exact hI.updateState (hI.elect (hsync.onPort (fun _ ↦ rfl) fun _ ↦ rfl))
  · exact hI.updateState (hI.onPort h fun _ ↦ .of rfl rfl)
  · refine hI.updateState (hI.onPort h fun p ↦ ?_)
    split <;> exact .of rfl rfl
  · exact hI.updateState (hI.onPort h fun _ ↦ .of rfl rfl)
  · exact h

theorem Holding.receiveConfig {cpdu : BstpCbpdu} (h : Kept l I w) :
    Kept l I (receiveConfig H cpdu i w) :=
  withPort_of h fun _ _ ↦ hI.receivedBpdu (hI.onPort h fun _ ↦ .of rfl rfl)

theorem Holding.receiveVersion {tpdu : BstpCbpdu} (h : Kept l I w) :
    Kept l I (receiveVersion H tpdu i w) := by
  unfold Bstp.receiveVersion
  split
  · unfold bstpReceivedStp
    split_ifs
    · have htcn : Kept l I (w.onPort i ({ · with rcvdtcn := true })) :=
        hI.onPort h fun _ ↦ .of rfl rfl
      rw [bstpReceivedTcn, bstpUpdateTc_eq htcn.1.1]
      exact htcn
    · exact hI.receiveConfig h
    · exact h
  · unfold bstpReceivedRstp
    split_ifs
    · exact h
    · exact hI.receiveConfig h
  · exact h

theorem Holding.processBpdu {tpdu : BstpCbpdu} (hL : tpdu.protover = Proto.stp.number → L)
    (h : Kept l I w) : Kept l I (rstpProcessBpdu H tpdu i w) := by
  refine withPort_of h fun p _ ↦ ?_
  split_ifs
  · exact h
  · exact h
  · exact h
  have hversion : (capVersion tpdu).protover = Proto.stp.number →
    tpdu.protover = Proto.stp.number := by
    unfold capVersion
    dsimp only
    split
    · exact fun h ↦ absurd h (by decide)
    · exact id
  have hmigrate : Kept l I (w.onPort i
    (Bstp.migrate w.bs.migrationDelay (capVersion tpdu).protover)) :=
    ⟨h.1.onPort (fun p ↦ (migrate_keeps _ _ p).1) fun p ↦ (migrate_keeps _ _ p).2.2,
      hI.migrate i _ _ (hL ∘ hversion) h.2⟩
  exact hI.receiveVersion (hI.onPort hmigrate fun _ ↦ .of rfl rfl)

theorem Holding.tickTimer (get : BstpPort → BstpTimer) {set : BstpTimer → BstpPort → BstpPort}
    {expiry : ℕ → World → World} (hset : ∀ t p, Mild p (set t p))
    (hexpiry : ∀ {w}, Kept l I w → Kept l I (expiry i w)) (h : Kept l I w) :
    Kept l I (tickTimer get set expiry i w) := by
  refine withPort_of h fun p _ ↦ ?_
  have hset' := hI.onPort (i := i) h (hset (bstpTimerExpired (get p)).1)
  dsimp only
  split
  · exact hexpiry hset'
  · exact hset'

theorem Holding.messageAgeExpiry (h : Kept l I w) : Kept l I (bstpMessageAgeExpiry H i w) := by
  refine withPort_of h fun p _ ↦ ?_
  split
  · exact hI.elect (h.1.onPort (fun _ ↦ rfl) fun _ ↦ rfl)
  · exact h

theorem Holding.tickPort (h : Kept l I w) : Kept l I (tickPort H i w) := by
  have hpass : Kept l I (w.onPort i passTimers) := hI.keep h Sound.passTimers
  have hhello : Kept l I (tickHello H i _) :=
    hI.tickTimer _ (fun _ _ ↦ .of rfl rfl) (fun h ↦ hI.keep h bstpHelloTimerExpiry_same) hpass
  have hage : Kept l I (tickMessageAge H i _) :=
    hI.tickTimer _ (fun _ _ ↦ .of rfl rfl) hI.messageAgeExpiry hhello
  have hmigrate : Kept l I (tickMigrateDelay i _) :=
    hI.tickTimer _ (fun _ _ ↦ .of rfl rfl) (fun h ↦ hI.onPort h fun _ ↦ .of rfl rfl) hage
  have hedge : Kept l I (tickEdgeDelay i _) :=
    hI.tickTimer _ (fun _ _ ↦ .of rfl rfl) (fun h ↦ hI.onPort h bstpEdgeDelayExpiry_mild) hmigrate
  refine hI.onPort (hI.updateState hedge) fun p ↦ ?_
  unfold payPacket
  split <;> exact .of rfl rfl

theorem Holding.tick (h : Kept l I w) : Kept l I (bstpTick H w) := by
  unfold bstpTick
  split
  · exact h
  refine forPorts_of (fun _ _ ↦ hI.tickPort) ?_
  have hset : Kept l I (w.onBs ({ · with linkTimer := (bstpTimerExpired w.bs.linkTimer).1 })) :=
    hI.keep h fun _ ↦ same_onBs rfl rfl
  unfold tickLink
  dsimp only
  split
  · exact hI.keep (forPorts_of (fun _ _ ↦ hI.ifupdstatus) hset) fun _ ↦ startLinkTimer_same
  · exact hset

end Holding

def Event.legacy : Event → Bool
  | .bpdu _ tpdu => tpdu.protover = Proto.stp.number
  | _ => false

theorem Holding.step {L : Prop} {I : World → Prop} (hI : Holding H L I) {e : Event} (h : Fine I w)
    (hL : e.legacy = true → L) (hstep : step H w e = some w') : Fine I w' := by
  have hs := h.1
  have hk : Kept w.members I w := ⟨⟨hs, rfl⟩, h.2⟩
  have hkeep : ∀ {v : World}, (Sound w → Same w v) → Fine I v := fun hsame ↦ (hI.keep hk hsame).fine
  have honPort : ∀ {f i}, (∀ p, Mild p (f p)) → Fine I (w.onPort i f) :=
    fun hf ↦ (hI.onPort hk hf).fine
  have hreinit : ∀ {v : World}, Sound v → Fine I (bstpReinit H v) :=
    fun hs ↦ (hI.reinit ⟨hs, rfl⟩).fine
  have hsome : ∀ {v : World}, some v = some w' → Fine I v → Fine I w' := fun h ↦
    Option.some.inj h ▸ id
  cases e with
  | tick => exact hsome hstep (hI.tick hk).fine
  | bpdu i tpdu =>
    exact hsome hstep (hI.processBpdu (fun hversion ↦ hL (decide_eq_true hversion)) hk).fine
  | init => exact hsome hstep (hreinit (hs.onBs rfl))
  | stop =>
    have hstop : Same w (w.onPorts (bstpSetPortState .discarding)) :=
      same_onPorts bstpSetPortState_mild
    exact hsome hstep (hkeep fun _ ↦ hstop.trans (same_onBs rfl rfl))
  | create ifp =>
    refine hsome hstep (?_ : Fine I (if w.operState ifp = .up then
      bstpEnable H w.bs.bplist.length (addPort ifp w) else addPort ifp w))
    split
    · exact (hI.enable ⟨hs.addPort ifp, rfl⟩).fine
    · exact ⟨hs.addPort ifp, hI.add ifp h.2⟩
  | enable i =>
    obtain ⟨_, -, rfl⟩ := Option.map_eq_some_iff.mp hstep
    exact (hI.enable hk.1).fine
  | disable i =>
    obtain ⟨_, -, rfl⟩ := Option.map_eq_some_iff.mp hstep
    exact hreinit (hI.disablePort hk.1).1.1.dropPort
  | linkstate ifp =>
    refine hsome hstep ?_
    unfold bstpLinkstate
    split
    · exact h
    · exact (hI.updateState (hI.ifupdstatus hk)).fine
  | setHtime t => exact hsome hstep (h.command (hreinit (hs.onBs rfl)))
  | setFdelay t => exact hsome hstep (h.command (hreinit (hs.onBs rfl)))
  | setMaxage t => exact hsome hstep (h.command (hreinit (hs.onBs rfl)))
  | setTimes fdly maxage htime => exact hsome hstep (h.command (hreinit (hs.onBs rfl)))
  | setHoldcount count =>
    refine hsome hstep (h.command (hkeep fun _ ↦ ?_))
    exact (same_onBs rfl rfl).trans (same_onPorts fun _ ↦ .of rfl rfl)
  | setProtocol proto =>
    refine hsome hstep ?_
    unfold bstpSetProtocol
    split
    · exact h
    · exact hreinit (forPorts_of (fun _ _ ↦ Sound.reinitPort) (hs.onBs rfl))
  | setPriority pri => exact hsome hstep (h.command (hreinit (hs.onBs rfl)))
  | setPortPriority i pri =>
    exact hsome hstep (h.command (hreinit (hs.onPort_vital fun _ ↦ rfl)))
  | setPathCost i cost =>
    refine hsome hstep (h.command (hreinit (hs.onPort_vital fun p ↦ ?_)))
    unfold costPort
    dsimp only
    split_ifs <;> rfl
  | setEdge i set => exact hsome hstep (honPort fun _ ↦ .of rfl rfl)
  | setAutoedge i set =>
    refine hsome hstep (honPort fun p ↦ ?_)
    dsimp only
    split
    · refine .trans ?_ (bstpEdgeDelayExpiry_mild _)
      exact .of rfl rfl
    · exact .of rfl rfl
  | setPtp i set => exact hsome hstep (honPort fun _ ↦ .of rfl rfl)
  | setAutoptp i set =>
    refine hsome hstep (withPort_of h fun p _ ↦ ?_)
    have hset := hI.onPort (i := i) (f := ({ · with flags.autoptp := set })) hk fun _ ↦ .of rfl rfl
    dsimp only
    split
    · exact (hI.ifupdstatus hset).fine
    · exact hset.fine
  | surroundings operState stackWord stackByte =>
    exact hsome hstep (hkeep fun _ ↦ ⟨rfl, rfl, (Same.refl w).port, id⟩)

/-! ### Whole runs -/

/-- The states that an instance can come to. -/
inductive Reachable (H : Host) : World → Prop
  | fresh (vlanId : U16) (operState : U16 → IfStatus) (stackWord : U32) (stackByte : U8) :
      Reachable H (fresh vlanId operState stackWord stackByte)
  | step {w w' : World} (e : Event) : Reachable H w → step H w e = some w' → Reachable H w'

theorem addPort_port {ifp : U16} (hp : w.port j = some p) : (addPort ifp w).port j = some p :=
  (List.getElem?_append_left (List.getElem?_eq_some_iff.mp hp).1).trans hp

theorem Settled.addPort {ifp : U16} (h : Settled w) : Settled (addPort ifp w) := by
  obtain ⟨-, hrole, hinfo⟩ := newPort_fields w.bs w.stackWord ifp
  refine ⟨fun j q hq ↦ ?_, fun r hr ↦ ?_⟩
  · obtain hq | ⟨rfl, rfl⟩ := port_addPort hq
    · exact (h.fits j q hq).of_bs rfl rfl rfl
    · -- the root port is another
      have hroot : (Bstp.addPort ifp w).bs.rootPort ≠ some w.bs.bplist.length := by
        intro hr
        obtain ⟨p, hp⟩ := h.root _ hr
        exact absurd (List.getElem?_eq_some_iff.mp hp).1 (lt_irrefl _)
      constructor <;> simp_all
  · obtain ⟨p, hp⟩ := h.root r hr
    exact ⟨p, addPort_port hp⟩

theorem Settled.onPort (h : Settled w) (hf : ∀ p, stand (f p) = stand p) :
    Settled (w.onPort i f) := by
  refine ⟨fun j q hq ↦ (?_ : Fits w.bs j q).of_bs rfl rfl rfl, fun r hr ↦ ?_⟩
  · rw [port_onPort] at hq
    split at hq
    · obtain ⟨p, hp, rfl⟩ := Option.map_eq_some_iff.mp hq
      exact (h.fits j p hp).of_stand (hf p)
    · exact h.fits j q hq
  · obtain ⟨p, hp⟩ := h.root r hr
    rw [port_onPort, hp]
    split
    · exact ⟨_, rfl⟩
    · exact ⟨p, rfl⟩

theorem holding_settled : Holding H True Settled where
  assign hs := (bstpAssignRoles_elected hs).1
  same h hs := h.settled hs
  add _ h := h.addPort
  migrate _ delay version _ h := h.onPort fun p ↦ (migrate_keeps delay version p).2.1

theorem migrate_mild {delay : U16} {version : U8} (h : version ≠ Proto.stp.number) (p : BstpPort) :
    Mild p (migrate delay version p) := by
  rw [migrate, Proto.ofNumber, if_neg h]
  split
  · split <;> exact .of rfl rfl
  · exact .of rfl rfl

theorem holding_elected : Holding H False Elected where
  assign hs := bstpAssignRoles_elected hs
  same h he := h.elected he
  add ifp h := by
    obtain ⟨hs, hbest, hown, hpath⟩ := h
    refine ⟨hs.addPort, fun x hx hoff ↦ ?_, hown, fun r hr ↦ ?_⟩
    · obtain hq | ⟨-, hq⟩ := port_addPort (mem_zipIdx_iff.mp hx)
      · exact hbest x (mem_zipIdx_iff.mpr hq) hoff
      · have hinfo := hoff.1
        rw [hq, (newPort_fields _ _ _).2.2] at hinfo
        exact InfoIs.noConfusion hinfo
    · obtain ⟨p, hp, hrest⟩ := hpath r hr
      exact ⟨p, mem_zipIdx_iff.mpr (addPort_port (mem_zipIdx_iff.mp hp)), hrest⟩
  migrate i _ _ hL h := Same.elected (same_onPort fun p _ ↦ migrate_mild hL p) h

theorem Reachable.fine (h : Reachable H w) : Fine Settled w := by
  induction h with
  | fresh vlanId operState stackWord stackByte =>
    have hnone : ∀ j p, (Bstp.fresh vlanId operState stackWord stackByte).port j ≠ some
      p := fun _ _ h ↦
      List.not_mem_nil (List.mem_of_getElem? h)
    exact ⟨⟨fun j p hp ↦ absurd hp (hnone j p), fun _ hx ↦ absurd hx List.not_mem_nil⟩,
      fun j p hp ↦ absurd hp (hnone j p), fun _ hr ↦ absurd hr.symm (Option.some_ne_none _)⟩
  | step e _ hstep ih => exact holding_settled.step ih (fun _ ↦ trivial) hstep

end Layer3Switch.Bstp
