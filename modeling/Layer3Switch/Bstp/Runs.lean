import Layer3Switch.Bstp.Events

namespace Layer3Switch.Bstp

open Lib Lib.Bytes
open Stp (macAddress)
open Rstp (bstpDefaultMaxAge bstpDefaultHelloTime bstpDefaultForwardDelay)

variable {H : Host} {w w' : World} {es : List Event}

theorem reachable_of_exec (h : Reachable H w) (hexec : exec (step H) w es = some w') :
    Reachable H w' :=
  (run_of_exec hexec).invariant (fun _ e _ h _ hstep ↦ .step e h hstep) h

theorem elected_of_run (h : Reachable H w)
    (hrun : Run (step H) (fun _ e ↦ e.legacy = false) (bstpInit H w) es w') : Fine Elected w' := by
  have hstart : Fine Elected (bstpInit H w) :=
    (holding_elected.reinit ⟨h.fine.1.onBs rfl, rfl⟩).fine
  refine hrun.invariant (fun w e w' hw hlegacy hstep ↦ ?_) hstart
  exact holding_elected.step hw (fun h ↦ Bool.noConfusion (hlegacy.symm.trans h)) hstep

/-! ### A bridge that hears of a better root -/

def smallHost : Host := ⟨.little, macAddress 0 0 0 0 0 9, fun _ ↦ macAddress 0 0 0 0 0 9⟩

def rootHello : BstpCbpdu :=
  bstpCbpdu smallHost 0 { blankPort 1 with
    protover := .rstp, role := .designated, portId := 0x8001
    desgPv := ⟨0x1000000000000005, 0x1000000000000005, 0, 0x8001, 0x8001⟩
    desgTimes := ⟨0, bstpDefaultMaxAge, bstpDefaultForwardDelay, bstpDefaultHelloTime⟩ }

def smallStart : World := fresh 1 (fun _ ↦ .up) 20000 0

def smallSetup : List Event := [.init, .create 1, .create 2, .bpdu 0 rootHello]

theorem smallStart_reachable : Reachable smallHost smallStart := .fresh 1 _ 20000 0

/-! ### What is true of all runs -/

/-- The topology change machine of a port stays where it is, and no configuration packet has
the flag. -/
theorem topology_change_machine_inactive (h : Reachable H w) :
    (∀ j p, w.port j = some p → p.tcstate = .inactive) ∧ (∀ i, bstpUpdateTc H i w = w) ∧
      ∀ ifp cpdu, (ifp, .config cpdu) ∈ w.sent → cpdu.flags &&& 0x01 = 0 := by
  refine ⟨fun j p hp ↦ (h.fine.1.tame j p hp).inactive, fun _ ↦ bstpUpdateTc_eq h.fine.1, ?_⟩
  intro ifp cpdu hmem
  simpa [Packet.tcFlag] using h.fine.1.silent _ hmem

theorem topology_change_machine_inactive_after_hello :
    ∃ w ifp cpdu, exec (step smallHost) smallStart (smallSetup ++ [.tick]) = some w ∧
      (ifp, .config cpdu) ∈ w.sent ∧ cpdu.flags &&& 0x01 = 0 := by
  obtain ⟨w, hw, hsent⟩ : ∃ w, exec (step smallHost) smallStart (smallSetup ++ [.tick]) = some w ∧
    ∃ x ∈ w.sent, (x.2 matches .config _) = true := by decide +kernel
  obtain ⟨⟨ifp, pkt⟩, hmem, hpkt⟩ := hsent
  have hreach := reachable_of_exec smallStart_reachable hw
  cases pkt with
  | tcn _ => cases hpkt
  | config cpdu =>
    exact ⟨w, ifp, cpdu, hw, hmem, (topology_change_machine_inactive hreach).2.2 ifp cpdu hmem⟩

/-- The role of a port follows from its information, there is one root port at most, and only
ports of the tree learn or forward. -/
theorem roles_follow_information (h : Reachable H w) :
    (∀ j p, w.port j = some p → Fits w.bs j p ∧
      (p.state ≠ .discarding → p.role = .designated ∨ p.role = .root)) ∧
    ∀ j k p q, w.port j = some p → w.port k = some q → p.role = .root → q.role = .root → j = k := by
  obtain ⟨hs, hset⟩ := h.fine
  refine ⟨fun j p hp ↦ ⟨hset.fits j p hp, fun hstate ↦ ?_⟩, fun j k p q hp hq hpr hqr ↦ ?_⟩
  · have htree := (hs.tame j p hp).placed hstate
    rw [BstpPort.inTree] at htree
    simpa using htree
  · exact Option.some.inj (((hset.fits j p hp).root.mp hpr).symm.trans
      ((hset.fits k q hq).root.mp hqr))

theorem roles_follow_information_after_hello :
    ∃ w, exec (step smallHost) smallStart smallSetup = some w ∧ w.bs.rootPort = some 0 ∧
      ∀ p, w.port 0 = some p → p.role = .root := by
  obtain ⟨w, hw, hroot⟩ : ∃ w, exec (step smallHost) smallStart smallSetup = some w ∧
    w.bs.rootPort = some 0 := by decide +kernel
  have hreach := reachable_of_exec smallStart_reachable hw
  refine ⟨w, hw, hroot, fun p hp ↦ ?_⟩
  exact ((roles_follow_information hreach).1 0 p hp).1.root.mpr hroot

/-- After it has been started, a bridge that hears no message of the old protocol has the best
root of those that it is offered, itself included. -/
theorem root_is_best_offer (h : Reachable H w)
    (hrun : Run (step H) (fun _ e ↦ e.legacy = false) (bstpInit H w) es w') :
    (w'.bs.rootPort = none ∧ w'.bs.rootPv = w'.bs.bridgePv ∨
      ∃ r p, w'.bs.rootPort = some r ∧ w'.port r = some p ∧ w'.bs.Offers p ∧
        w'.bs.rootPv = p.rootPathPv ∧ rank w'.bs.rootPv < rank w'.bs.bridgePv) ∧
    ∀ j p, w'.port j = some p → w'.bs.Offers p → rank w'.bs.rootPv ≤ rank p.rootPathPv := by
  obtain ⟨-, hbest, hown, hpath⟩ := (elected_of_run h hrun).2
  refine ⟨?_, fun j p hp hoff ↦ hbest (p, j) (mem_zipIdx_iff.mpr hp) hoff⟩
  cases hroot : w'.bs.rootPort with
  | none => exact .inl ⟨rfl, congrArg RootChoice.pv (hown hroot)⟩
  | some r =>
    obtain ⟨p, hp, hoff, hpv, -, hlt⟩ := hpath r hroot
    exact .inr ⟨r, p, rfl, mem_zipIdx_iff.mp hp, hoff, hpv, hlt⟩

theorem root_is_best_offer_after_hello :
    ∃ w, Run (step smallHost) (fun _ e ↦ e.legacy = false) (bstpInit smallHost smallStart)
      [.create 1, .create 2, .bpdu 0 rootHello] w ∧ w.bs.rootPort = some 0 ∧
      ∀ j p, w.port j = some p → w.bs.Offers p → rank w.bs.rootPv ≤ rank p.rootPathPv := by
  obtain ⟨w, hw, hroot⟩ : ∃ w,
    exec (fun w e ↦ if e.legacy = false then step smallHost w e else none)
    (bstpInit smallHost smallStart) [.create 1, .create 2, .bpdu 0 rootHello] = some w ∧
    w.bs.rootPort = some 0 := by decide +kernel
  have hrun := (run_of_exec hw).guarded
  exact ⟨w, hrun, hroot, (root_is_best_offer smallStart_reachable hrun).2⟩

end Layer3Switch.Bstp
