import Layer3Switch.Vlan.Reactions

namespace Layer3Switch.Vlan

open Lib Lib.Bytes
open Timers (U32)
open Stp (StpInstance World PortT maxPorts)

variable {κ τ Φ : Type}

def Switch.ownPortEntry (s : Switch κ τ Φ) (v port : U16) : Option (U16 × ℕ) :=
  ((s.stp v).bind (Stp.stpGetPortEntry · port)).map (v, ·)

def CreatedFirst (s : Switch κ τ Φ) (v port : U16) : Prop :=
  OwnFirst StpInstance.vlanId (Stp.stpGetPortEntry · port) s.stpInstanceHead v

variable [Add κ] [LT κ] [DecidableLT κ] [OfNat κ 0] [OfNat κ 20000]

def HandledBy (P : Platform κ τ Φ) (s : Switch κ τ Φ) (v port : U16) (m : Message Φ)
    (s' : Switch κ τ Φ) : Prop :=
  (∀ v', v' ≠ v → s'.stp v' = s.stp v') ∧ ∃ br w, s.stp v = some br ∧
    Stp.handle P.host P.wire (m.event port) (s.world br) = some ((), w) ∧ s'.stp v = some w.br

omit [OfNat κ 20000] in
theorem handledBy_putStp {P : Platform κ τ Φ} {s : Switch κ τ Φ} {v port : U16} {m : Message Φ}
    {br : StpInstance κ} {w : World κ τ Φ} (hbr : s.stp v = some br)
    (hm : Stp.handle P.host P.wire (m.event port) (s.world br) = some ((), w)) :
    HandledBy P s v port m (s.putStp v w) := by
  have hv := (handle_vlanId (m.event_internal port) hbr hm).1
  refine ⟨fun v' hne ↦ stp_putStp_ne hv hne, br, w, hbr, hm, ?_⟩
  exact stp_putStp (by rw [hbr]; rfl) hv

/-- In any state the entry that the code finds for a VLAN and a port is the one of
the VLAN just when no instance with the port was created before its own. A message
for a VLAN in STP mode is then handled by its own instance, and otherwise by the
one of another VLAN. A VLAN that is not in STP mode reaches no STP instance. -/
theorem vlans_kept_apart (P : Platform κ τ Φ) (env : τ) (portCdb : Vector PortT maxPorts)
    {is : List (Input τ Φ)} {s : Switch κ τ Φ}
    (hrun : Run (feed P) (fun _ _ ↦ True) (boot env portCdb) is s) (v port : U16) :
    (s.stpGetPortEntry port = s.ownPortEntry v port ↔ CreatedFirst s v port) ∧
    ∀ m s', feed P s (.message v port m) = some s' →
      (s.vlanGetThisBridgeStpMode v = some .stp →
        (CreatedFirst s v port →
          HandledBy P s v port m s' ∨ s.ownPortEntry v port = none ∧ s' = s) ∧
        (¬CreatedFirst s v port → ∃ v', v' ≠ v ∧ HandledBy P s v' port m s')) ∧
      (s.vlanGetThisBridgeStpMode v ≠ some .stp → ∀ v', s'.stp v' = s.stp v') := by
  have hs : Sound s := .run hrun (sound_boot env portCdb)
  have hiff : s.stpGetPortEntry port = s.ownPortEntry v port ↔ CreatedFirst s v port :=
    owner_eq_own_iff hs.nodup
  refine ⟨hiff, ?_⟩
  intro m s' hstep
  cases feed_reaction hstep with
  | ignored _ _ _ hnone hlink =>
    refine ⟨?_, fun _ _ ↦ rfl⟩
    intro hmode
    have hfirst : CreatedFirst s v port := ownFirst_of_none (hnone hmode)
    refine ⟨fun _ ↦ .inr ⟨?_, rfl⟩, fun hnot ↦ absurd hfirst hnot⟩
    rw [← hiff.mpr hfirst, hnone hmode]
  | stp _ _ v₁ _ p₁ br w hmode hfind hbr hm =>
    refine ⟨?_, fun hnot ↦ absurd hmode hnot⟩
    intro _
    constructor
    · intro hfirst
      have hown := (hiff.mpr hfirst).symm.trans hfind
      obtain ⟨p, -, hp⟩ := Option.map_eq_some_iff.mp hown
      obtain ⟨rfl, -⟩ := Prod.mk.inj hp
      exact .inl (handledBy_putStp hbr hm)
    · intro hnot
      refine ⟨v₁, ?_, handledBy_putStp hbr hm⟩
      rintro rfl
      apply hnot
      obtain ⟨br', hbr', hp₁⟩ := owner_lookup hs.nodup hfind
      have hown : s.ownPortEntry v₁ port = some (v₁, p₁) := by
        rw [Switch.ownPortEntry, Switch.stp, hbr', Option.bind_some, hp₁]
        rfl
      exact hiff.mp (hfind.trans hown.symm)
  | rstp _ _ v' _ p bs bs' env hmode hfind hbs hm =>
    refine ⟨?_, fun _ _ ↦ rfl⟩
    intro hmode'
    cases hmode.symm.trans hmode'

def sharedPort : List (Input Timers.TimerMgr (List U8)) :=
  [.command (.createVlan 1), .command (.createVlan 2), .command (.addPort 1 1 .tagged),
   .command (.addPort 2 1 .tagged), .command (.enable 1 .stp), .command (.enable 2 .stp),
   .interface 0 .up]

def Switch.portStates (s : Switch κ τ Φ) (v : U16) : Option (List Stp.PortState) :=
  (s.stp v).map fun br ↦ br.portList.map Stp.StpPortEntry.state

/-- The port of the first VLAN goes up at the event for the second one, whose own
port stays disabled. -/
theorem vlan_handles_event_of_another :
    ∃ s s', Run (feed plainPlatform) (fun _ _ ↦ True) plainBoot sharedPort s ∧
      feed plainPlatform s (.message 2 1 (.link .up)) = some s' ∧
      s.vlanGetThisBridgeStpMode 2 = some .stp ∧ s.ownPortEntry 2 1 = some (2, 0) ∧
      s.stpGetPortEntry 1 = some (1, 0) ∧
      s.portStates 1 = some [.disabled] ∧ s'.portStates 1 = some [.listening] ∧
      s.portStates 2 = some [.disabled] ∧ s'.portStates 2 = some [.disabled] := by
  have hcheck : ((exec (feed plainPlatform) plainBoot sharedPort).any fun s ↦
      (feed plainPlatform s (.message 2 1 (.link .up))).any fun s' ↦
        decide (s.vlanGetThisBridgeStpMode 2 = some .stp ∧ s.ownPortEntry 2 1 = some (2, 0) ∧
          s.stpGetPortEntry 1 = some (1, 0) ∧
          s.portStates 1 = some [.disabled] ∧ s'.portStates 1 = some [.listening] ∧
          s.portStates 2 = some [.disabled] ∧ s'.portStates 2 = some [.disabled])) = true := by
    decide +kernel
  simp only [Option.any_eq_true, decide_eq_true_eq] at hcheck
  obtain ⟨s, hexec, s', hstep, hfacts⟩ := hcheck
  exact ⟨s, s', run_of_exec hexec, hstep, hfacts⟩

/-- The first of the two VLANs handles its own events. -/
theorem vlans_kept_apart_first :
    ∃ s s', Run (feed plainPlatform) (fun _ _ ↦ True) plainBoot sharedPort s ∧
      feed plainPlatform s (.message 1 1 (.link .up)) = some s' ∧
      HandledBy plainPlatform s 1 1 (.link .up) s' := by
  have hcheck : ((exec (feed plainPlatform) plainBoot sharedPort).any fun s ↦
      (feed plainPlatform s (.message 1 1 (.link .up))).any fun _ ↦
        decide (s.vlanGetThisBridgeStpMode 1 = some .stp ∧ s.ownPortEntry 1 1 = some (1, 0) ∧
          s.stpGetPortEntry 1 = some (1, 0))) = true := by
    decide +kernel
  simp only [Option.any_eq_true, decide_eq_true_eq] at hcheck
  obtain ⟨s, hexec, s', hstep, hmode, hown, hfind⟩ := hcheck
  obtain ⟨hiff, hmessage⟩ := vlans_kept_apart plainPlatform _ _ (run_of_exec hexec) 1 1
  have hfirst := hiff.mp (hfind.trans hown.symm)
  obtain hby | ⟨hnone, -⟩ := ((hmessage _ s' hstep).1 hmode).1 hfirst
  · exact ⟨s, s', run_of_exec hexec, hstep, hby⟩
  · cases hown.symm.trans hnone

end Layer3Switch.Vlan
