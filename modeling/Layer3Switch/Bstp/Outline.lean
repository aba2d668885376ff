import Layer3Switch.Bstp.Events

namespace Layer3Switch.Bstp

open Lib.Bytes
open Stp (IfStatus)
open Rstp (Machines)

variable {H : Host} {w w' : World} {i : ℕ}

/-! ### The instance without its machines -/

/-- The ports of an instance as the rest of the switch sees them. -/
def World.ports (w : World) : List Rstp.BstpPort :=
  w.bs.bplist.map fun p ↦ ⟨p.ifp, p.active, p.state⟩

/-- Machines that leave the ports in the states that they have in a world. -/
def machinesTo (τ Φ : Type) (w : World) : Machines τ Φ :=
  let state := fun i ↦ (w.port i).elim .disabled BstpPort.state
  ⟨fun _ _ ↦ state, fun _ _ _ ↦ state, fun _ _ _ ↦ state, fun _ _ _ _ ↦ state, fun _ _ ↦ state⟩

/-- What the switch calls, in an instance. -/
inductive Call
  | init
  | enable (i : ℕ)
  | disable (i : ℕ)
  | create (ifp : U16)
  | tick
  | bpdu (i : ℕ) (tpdu : BstpCbpdu)

def Call.run (H : Host) (w : World) : Call → World
  | .init => bstpInit H w
  | .enable i => bstpEnable H i w
  | .disable i => bstpDisable H i w
  | .create ifp => bstpCreate H ifp w
  | .tick => bstpTick H w
  | .bpdu i tpdu => rstpProcessBpdu H tpdu i w

def Call.outline {τ : Type} (K : Stp.Host τ) (M : Machines τ BstpCbpdu) (operState : U16 → IfStatus)
    (bs : Rstp.BstpState) (env : τ) : Call → Option (Rstp.BstpState × τ)
  | .init => Rstp.bstpInit K M bs env
  | .enable i => Rstp.bstpEnable K M i bs env
  | .disable i => Rstp.bstpDisable K M i bs env
  | .create ifp => Rstp.bstpCreate K M ifp (operState ifp) bs env
  | .tick => Rstp.bstpTick K M bs env
  | .bpdu i tpdu => Rstp.rstpProcessBpdu M i tpdu bs env

section Outline

variable {τ : Type} {K : Stp.Host τ} {bs bs' : Rstp.BstpState} {env env' : τ}

def rstpMembers (bs : Rstp.BstpState) : List (U16 × Bool) := bs.bplist.map fun p ↦ (p.ifp, p.active)

theorem rstpMembers_setStates (g : ℕ → Rstp.IfState) :
    rstpMembers (bs.setStates g) = rstpMembers bs := by
  apply List.ext_getElem?
  intro j
  simp only [rstpMembers, Rstp.BstpState.setStates, List.getElem?_map, List.getElem?_mapIdx,
    Option.map_map]
  rfl

theorem rstpMembers_of_ports (h : bs.bplist = w.ports) : rstpMembers bs = w.members := by
  rw [rstpMembers, h, World.ports, List.map_map]
  rfl

theorem bplist_setStates (h : rstpMembers bs = w.members) :
    (bs.setStates fun i ↦ (w.port i).elim .disabled BstpPort.state).bplist = w.ports := by
  apply List.ext_getElem?
  intro j
  have hj := congrArg (·[j]?) h
  simp only [rstpMembers, World.members, List.getElem?_map] at hj
  simp only [Rstp.BstpState.setStates, World.ports, World.port, List.getElem?_map,
    List.getElem?_mapIdx]
  cases hp : bs.bplist[j]? <;> cases hq : w.bs.bplist[j]? <;> rw [hp, hq] at hj
  · rfl
  · cases hj
  · cases hj
  · obtain ⟨hifp, hactive⟩ := Prod.mk.inj (Option.some.inj hj)
    simp [hifp, hactive]

theorem bstpReinit_outline {M : Machines τ BstpCbpdu}
    (h : Rstp.bstpReinit K M bs env = some (bs', env')) :
    ∃ env₁, bs' = bs.setStates (M.reinit bs env₁) := by
  obtain ⟨_, -, hmap⟩ := Option.bind_eq_some_iff.mp h
  obtain ⟨env₁, -, heq⟩ := Option.map_eq_some_iff.mp hmap
  exact ⟨env₁, (congrArg Prod.fst heq).symm⟩

theorem bstpEnable_outline (h : Rstp.bstpEnable K (machinesTo τ BstpCbpdu w') i bs env =
    some (bs', env'))
    (hmembers : w'.members = (rstpMembers bs).modify i fun x ↦ (x.1, true)) :
    bs'.bplist = w'.ports := by
  obtain ⟨⟨bs₁, env₁⟩, h₁, heq⟩ := Option.map_eq_some_iff.mp h
  obtain ⟨_, rfl⟩ := bstpReinit_outline h₁
  obtain ⟨rfl, -⟩ := Prod.mk.inj heq
  refine bplist_setStates ?_
  rw [rstpMembers_setStates, hmembers]
  exact map_modify _ _ _ bs.bplist fun _ ↦ rfl

theorem members_bstpEnable (hs : Sound w) :
    (bstpEnable H i w).members = w.members.modify i fun x ↦ (x.1, true) :=
  (holding_sound.enable ⟨hs, rfl⟩).1.2

theorem outline_ports {c : Call} (hs : Sound w) (hports : bs.bplist = w.ports)
    (hrunning : bs.running = w.bs.running)
    (h : c.outline K (machinesTo τ BstpCbpdu (c.run H w)) w.operState bs env = some (bs', env')) :
    bs'.bplist = (c.run H w).ports := by
  have hmembers := rstpMembers_of_ports hports
  cases c with
  | init =>
    obtain ⟨_, rfl⟩ := bstpReinit_outline h
    have hinit : Among w.members (w.onBs ({ · with running := true })) := ⟨hs.onBs rfl, rfl⟩
    exact bplist_setStates (hmembers.trans (holding_sound.reinit hinit).1.2.symm)
  | enable i => exact bstpEnable_outline h ((members_bstpEnable hs).trans (by rw [hmembers]))
  | disable i =>
    obtain ⟨_, rfl⟩ := bstpReinit_outline h
    have hself : Among w.members w := ⟨hs, rfl⟩
    have hdrop : Among (w.members.eraseIdx i) ((bstpDisablePort H i w).onBs fun bs ↦
        { bs with bplist := bs.bplist.eraseIdx i }) := by
      have hdisabled := (holding_sound.disablePort (H := H) (i := i) hself).1
      refine ⟨hdisabled.1.dropPort, ?_⟩
      rw [← hdisabled.2]
      exact (List.eraseIdx_map ..).symm
    refine bplist_setStates (Eq.trans ?_ (holding_sound.reinit hdrop).1.2.symm)
    change (List.eraseIdx (Rstp.BstpState.setStates bs _).bplist i).map _ = _
    rw [← List.eraseIdx_map]
    exact congrArg (List.eraseIdx · i) ((rstpMembers_setStates _).trans hmembers)
  | create ifp =>
    have hadded : rstpMembers { bs with bplist := bs.bplist ++ [⟨ifp, false, .discarding⟩] } =
        (addPort ifp w).members := by
      have hnew : (newPort w.bs w.stackWord ifp).member = (ifp, false) := by
        unfold newPort
        cases w.bs.protover <;> rfl
      change (bs.bplist ++ [_]).map _ = (w.bs.bplist ++ [newPort w.bs w.stackWord ifp]).map _
      rw [List.map_append, List.map_append, List.map_singleton, List.map_singleton, hnew]
      exact congrArg (· ++ [(ifp, false)]) hmembers
    have hcreate : Call.run H w (.create ifp) = if w.operState ifp = .up then
        bstpEnable H w.bs.bplist.length (addPort ifp w) else addPort ifp w := rfl
    rw [Call.outline, Rstp.bstpCreate] at h
    by_cases hup : w.operState ifp = .up
    · have hlen : bs.bplist.length = w.bs.bplist.length := by
        rw [hports, World.ports, List.length_map]
      rw [if_pos hup] at h hcreate
      rw [hcreate, hlen] at h
      rw [hcreate]
      exact bstpEnable_outline h ((members_bstpEnable (hs.addPort ifp)).trans (by rw [hadded]))
    · rw [if_neg hup] at h hcreate
      rw [hcreate]
      obtain ⟨rfl, -⟩ := Prod.mk.inj (Option.some.inj h)
      have hnew : (⟨(newPort w.bs w.stackWord ifp).ifp, (newPort w.bs w.stackWord ifp).active,
          (newPort w.bs w.stackWord ifp).state⟩ : Rstp.BstpPort) = ⟨ifp, false, .discarding⟩ := by
        unfold newPort
        cases w.bs.protover <;> rfl
      change bs.bplist ++ _ = (w.bs.bplist ++ [newPort w.bs w.stackWord ifp]).map _
      rw [List.map_append, List.map_singleton, hnew, hports]
      rfl
  | tick =>
    have htick := (holding_sound.tick (H := H) ⟨⟨hs, rfl⟩, trivial⟩).1
    simp only [Call.outline, Rstp.bstpTick] at h
    split_ifs at h with hrun
    · obtain ⟨_, -, heq⟩ := Option.map_eq_some_iff.mp h
      obtain ⟨rfl, -⟩ := Prod.mk.inj heq
      exact bplist_setStates (hmembers.trans htick.2.symm)
    · obtain ⟨rfl, -⟩ := Prod.mk.inj (Option.some.inj h)
      rw [Call.run, bstpTick, ← hrunning, Bool.eq_false_iff.mpr hrun]
      exact hports
  | bpdu i tpdu =>
    obtain ⟨rfl, -⟩ := Prod.mk.inj (Option.some.inj h)
    have hbpdu : Kept w.members (fun _ ↦ True) (rstpProcessBpdu H tpdu i w) :=
      holding_sound.processBpdu (fun _ ↦ trivial) ⟨⟨hs, rfl⟩, trivial⟩
    exact bplist_setStates (hmembers.trans hbpdu.1.2.symm)

end Outline

end Layer3Switch.Bstp
