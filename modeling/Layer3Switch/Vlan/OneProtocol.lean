import Layer3Switch.Vlan.Slots

namespace Layer3Switch.Vlan

open Lib Lib.Bytes
open Timers (U32)
open Stp (PortT maxPorts)

variable {κ τ Φ : Type}

def Slot.StpRuns (x : Slot κ) : Prop := ∃ br, x.stp = some br ∧ br.stpEnabled = true

def Slot.RstpRuns (x : Slot κ) : Prop := ∃ bs, x.rstp = some bs ∧ bs.running = true

def OneProtocol (v : U16) (x : Slot κ) : Prop :=
  ∀ e, x.vlan = some e →
    (e.stpEnabled = true →
      e.stpMode = some .stp ∧ e.stpInstance = some v ∧ x.StpRuns ∧ ¬x.RstpRuns ∨
      e.stpMode = some .rstp ∧ e.rstpInstance = some v ∧ x.RstpRuns ∧ ¬x.StpRuns) ∧
    (e.stpEnabled = false → ¬x.StpRuns ∧ ¬x.RstpRuns)

def Command.spanningTree : Command → Bool
  | .enable _ _ | .disable _ _ => true
  | _ => false

def LeavesRstp (x : Slot κ) : Command → Prop
  | .enable _ .stp | .disable _ _ =>
    ∃ e, x.vlan = some e ∧ e.stpEnabled = true ∧ e.stpMode = some .rstp
  | _ => False

def KeepsOne (s : Switch κ τ Φ) (c : Command) : Prop := ¬LeavesRstp (s.slot c.vlanId) c

section Slots

variable {x : Slot κ} {e : VlanStaticEntry} {v : U16}

theorem OneProtocol.rstpRuns_iff (h : OneProtocol v x) (he : x.vlan = some e) :
    x.RstpRuns ↔ e.stpEnabled = true ∧ e.stpMode = some .rstp := by
  obtain ⟨hon, hoff⟩ := h e he
  constructor
  · intro hruns
    have hen : e.stpEnabled = true := by
      by_contra hen
      exact (hoff (Bool.eq_false_iff.mpr hen)).2 hruns
    obtain ⟨-, -, -, hnot⟩ | ⟨hmode, -⟩ := hon hen
    · exact absurd hruns hnot
    · exact ⟨hen, hmode⟩
  · rintro ⟨hen, hmode⟩
    obtain ⟨hstp, -⟩ | ⟨-, -, hruns, -⟩ := hon hen
    · cases hmode.symm.trans hstp
    · exact hruns

theorem oneProtocol_stp_iff (he : x.vlan = some e) (hen : e.stpEnabled = true)
    (hmode : e.stpMode = some .stp) (hi : e.stpInstance = some v) (hruns : x.StpRuns) :
    OneProtocol v x ↔ ¬x.RstpRuns := by
  constructor
  · intro h hrstp
    have hmode' := ((h.rstpRuns_iff he).mp hrstp).2
    cases hmode.symm.trans hmode'
  · intro hnot e' he'
    obtain rfl := Option.some.inj (he.symm.trans he')
    exact ⟨fun _ ↦ .inl ⟨hmode, hi, hruns, hnot⟩, fun hoff ↦ absurd hen (Bool.eq_false_iff.mp hoff)⟩

theorem oneProtocol_off_iff (he : x.vlan = some e) (hen : e.stpEnabled = false)
    (hstp : x.stp = none) : OneProtocol v x ↔ ¬x.RstpRuns := by
  constructor
  · intro h
    exact ((h e he).2 hen).2
  · intro hnot e' he'
    obtain rfl := Option.some.inj (he.symm.trans he')
    refine ⟨fun hon ↦ absurd hon (Bool.eq_false_iff.mp hen), fun _ ↦ ⟨?_, hnot⟩⟩
    rintro ⟨br, hbr, -⟩
    cases hstp.symm.trans hbr

theorem oneProtocol_rstp (he : x.vlan = some e) (hen : e.stpEnabled = true)
    (hmode : e.stpMode = some .rstp) (hi : e.rstpInstance = some v) (hruns : x.RstpRuns)
    (hnot : ¬x.StpRuns) : OneProtocol v x := by
  intro e' he'
  obtain rfl := Option.some.inj (he.symm.trans he')
  exact ⟨fun _ ↦ .inr ⟨hmode, hi, hruns, hnot⟩, fun hoff ↦ absurd hen (Bool.eq_false_iff.mp hoff)⟩

end Slots

variable [Add κ] [LT κ] [DecidableLT κ] [OfNat κ 0] [OfNat κ 20000] {P : Platform κ τ Φ}

theorem oneProtocol_turn_iff {c : Command} {x x' : Slot κ} (ht : Turn P c x x')
    (hok : x.Ok c.vlanId) (h : OneProtocol c.vlanId x) :
    OneProtocol c.vlanId x' ↔ ¬LeavesRstp x c := by
  have hleaves : ∀ e, x.vlan = some e →
      (¬x.RstpRuns ↔ ¬∃ e, x.vlan = some e ∧ e.stpEnabled = true ∧ e.stpMode = some .rstp) := by
    intro e he
    rw [h.rstpRuns_iff he]
    apply not_congr
    exact ⟨fun hr ↦ ⟨e, he, hr⟩, fun ⟨e', he', hr⟩ ↦ Option.some.inj (he'.symm.trans he) ▸ hr⟩
  cases ht with
  | createVlan v br bs =>
    obtain ⟨rfl, rfl⟩ := hok.unowned rfl
    refine iff_of_true ((oneProtocol_off_iff rfl rfl rfl).mpr ?_) not_false
    rintro ⟨bs, hbs, -⟩
    cases hbs
  | addPort _ _ _ e | delPort _ _ _ e =>
    refine iff_of_true ?_ not_false
    intro e' he'
    obtain rfl := Option.some.inj he'
    exact h e rfl
  | addStpPort v port type e lists w w' bs hlists hmode hm =>
    refine iff_of_true ?_ not_false
    intro e' he'
    obtain rfl := Option.some.inj he'
    have hruns : (⟨some { e with portLists := lists }, some w'.br, bs⟩ : Slot κ).StpRuns ↔
        (⟨some e, some w.br, bs⟩ : Slot κ).StpRuns := by
      simp [Slot.StpRuns, (stpCreatePorts_spec hm).2.1]
    rw [hruns]
    exact h e rfl
  | enableStp v e br w w' bs hnot hor hm =>
    rw [oneProtocol_stp_iff rfl rfl rfl rfl ⟨w'.br, rfl, (startStp_spec hm).2.1⟩]
    exact hleaves e rfl
  | enableRstp v e bs cdb bs₁ bs₂ env env' hnot hor hm =>
    refine iff_of_true ?_ not_false
    refine oneProtocol_rstp rfl rfl rfl rfl ⟨bs₂, rfl, (startRstp_spec hm).2.1⟩ ?_
    rintro ⟨br, hbr, -⟩
    cases hbr
  | replaceStp v e w w' bs cdb bs₁ bs₂ env env' hnot hor hm hset =>
    refine iff_of_true ?_ not_false
    refine oneProtocol_rstp rfl rfl rfl rfl ⟨bs₂, rfl, (startRstp_spec hm).2.1⟩ ?_
    rintro ⟨br, hbr, hen⟩
    obtain rfl := Option.some.inj hbr
    rw [(Stp.stpSetState_false_ends () w' hset).1] at hen
    cases hen
  | disableStp v e br bs hen =>
    rw [oneProtocol_off_iff rfl rfl rfl]
    exact hleaves e rfl
  | disableRstp v e bs hen =>
    rw [oneProtocol_off_iff rfl rfl rfl]
    exact hleaves e rfl
  | returnToStp v e w w' bs hen hm =>
    have hi : e.stpInstance = some v := hok.stpInstance e rfl
    refine Iff.trans (oneProtocol_stp_iff rfl rfl ?_ ?_ ?_) (hleaves e rfl)
    · rfl
    · exact hi
    · exact ⟨w'.br, rfl, (startStp_spec hm).2.1⟩

/-- After any commands that do not leave RSTP, every VLAN runs one protocol at
most, the one that it says. The next call then does the same just when it does
not leave RSTP either, and uses no null pointer. -/
theorem one_protocol_per_vlan (P : Platform κ τ Φ) (env : τ) (portCdb : Vector PortT maxPorts)
    {cs : List Command} {s : Switch κ τ Φ} (hrun : Run (issue P) KeepsOne (boot env portCdb) cs s) :
    (∀ v, OneProtocol v (s.slot v)) ∧
    ∀ c : Command, c.spanningTree →
      (KeepsOne s c → command P c s ≠ .error .nullInstance) ∧
      ∀ s', issue P s c = some s' → P.host.tmMalloc s.env = true →
        (OneProtocol c.vlanId (s'.slot c.vlanId) ↔ KeepsOne s c) := by
  have hone : Sound s ∧ ∀ v, OneProtocol v (s.slot v) := by
    refine run_slots ?_ hrun (sound_boot env portCdb) ?_
    · intro s c x' hs hc ht h
      exact (oneProtocol_turn_iff ht (hs.slots _) h).mpr hc
    · intro v e he
      cases he
  refine ⟨hone.2, ?_⟩
  intro c hc
  constructor
  · intro hkeep hnull
    have huse := (command_effect c).1 _ hnull rfl
    cases huse with
    | addPort v port type e => cases hc
    | disable v e he hen hi =>
      obtain ⟨-, hsome, -⟩ | ⟨hmode, -⟩ := (hone.2 v e he).1 hen
      · cases hi.symm.trans hsome
      · exact hkeep ⟨e, he, hen, hmode⟩
  · intro s' hs' hmem
    obtain ⟨rfl, hidle⟩ | ht := (issue_effect hs').turned hone.1
    · refine iff_of_true (hone.2 _) ?_
      cases c with
      | createVlan _ | addPort _ _ _ | delPort _ _ _ => exact not_false
      | enable v mode =>
        cases mode with
        | rstp => exact not_false
        | stp =>
          rintro ⟨e, he, hen, hmode⟩
          obtain ⟨-, hstp⟩ | hno := hidle e he
          · cases hmode.symm.trans hstp
          · exact absurd hmem (Bool.eq_false_iff.mp hno)
      | disable v mode =>
        rintro ⟨e, he, hen, -⟩
        exact absurd hen (Bool.eq_false_iff.mp (hidle e he))
    · exact oneProtocol_turn_iff ht.turn (hone.1.slots _) (hone.2 _)

instance (x : Slot κ) (c : Command) : Decidable (LeavesRstp x c) :=
  match c with
  | .enable _ .stp | .disable _ _ =>
    match hx : x.vlan with
    | none => .isFalse fun ⟨_, he, _⟩ ↦ nomatch hx.symm.trans he
    | some e => decidable_of_iff (e.stpEnabled = true ∧ e.stpMode = some .rstp)
        ⟨fun h ↦ ⟨e, hx, h⟩, fun ⟨_, he, h⟩ ↦ Option.some.inj (he.symm.trans hx) ▸ h⟩
  | .enable _ .rstp | .createVlan _ | .addPort _ _ _ | .delPort _ _ _ =>
    inferInstanceAs (Decidable False)

instance (s : Switch κ τ Φ) (c : Command) : Decidable (KeepsOne s c) :=
  inferInstanceAs (Decidable (¬_))

/-- Both protocols run on a VLAN that is taken from RSTP to STP, RSTP goes on
when it is disabled, and disabling STP while RSTP runs uses a null pointer. -/
theorem rstp_never_stops :
    (∃ s, Run (issue plainPlatform) (fun _ _ ↦ True) plainBoot
        [.createVlan 1, .enable 1 .rstp, .enable 1 .stp] s ∧
      (s.slot 1).StpRuns ∧ (s.slot 1).RstpRuns) ∧
    (∃ s e, Run (issue plainPlatform) (fun _ _ ↦ True) plainBoot
        [.createVlan 1, .enable 1 .rstp, .disable 1 .rstp] s ∧
      s.vlan 1 = some e ∧ e.stpEnabled = false ∧ (s.slot 1).RstpRuns) ∧
    ∃ s, Run (issue plainPlatform) (fun _ _ ↦ True) plainBoot
        [.createVlan 1, .enable 1 .rstp] s ∧
      command plainPlatform (.disable 1 .stp) s = .error .nullInstance := by
  refine ⟨?_, ?_, ?_⟩
  · have hcheck : ((exec (issue plainPlatform) plainBoot
        [.createVlan 1, .enable 1 .rstp, .enable 1 .stp]).any fun s ↦
          (s.stp 1).any (·.stpEnabled) && (s.rstp 1).any (·.running)) = true := by
      decide +kernel
    simp only [Option.any_eq_true, Bool.and_eq_true] at hcheck
    obtain ⟨s, hexec, ⟨br, hbr, hstp⟩, bs, hbs, hrstp⟩ := hcheck
    exact ⟨s, run_of_exec hexec, ⟨br, hbr, hstp⟩, bs, hbs, hrstp⟩
  · have hcheck : ((exec (issue plainPlatform) plainBoot
        [.createVlan 1, .enable 1 .rstp, .disable 1 .rstp]).any fun s ↦
          (s.vlan 1).any (!·.stpEnabled) && (s.rstp 1).any (·.running)) = true := by
      decide +kernel
    simp only [Option.any_eq_true, Bool.and_eq_true, Bool.not_eq_true'] at hcheck
    obtain ⟨s, hexec, ⟨e, he, hen⟩, bs, hbs, hrstp⟩ := hcheck
    exact ⟨s, e, run_of_exec hexec, he, hen, bs, hbs, hrstp⟩
  · have hcheck : ((exec (issue plainPlatform) plainBoot
        [.createVlan 1, .enable 1 .rstp]).any fun s ↦
          match command plainPlatform (.disable 1 .stp) s with
          | .error f => decide (f = .nullInstance)
          | .ok _ => false) = true := by
      decide +kernel
    rw [Option.any_eq_true] at hcheck
    obtain ⟨s, hexec, hnull⟩ := hcheck
    refine ⟨s, run_of_exec hexec, ?_⟩
    split at hnull
    · rename_i f hf
      rw [hf, decide_eq_true_eq.mp hnull]
    · cases hnull

theorem one_protocol_per_vlan_replaced :
    ∃ s, Run (issue plainPlatform) KeepsOne plainBoot
        [.createVlan 1, .addPort 1 1 .tagged, .enable 1 .stp, .enable 1 .rstp] s ∧
      OneProtocol 1 (s.slot 1) ∧ (s.slot 1).RstpRuns := by
  have hcheck : ((exec (fun s c ↦ if KeepsOne s c then issue plainPlatform s c else none) plainBoot
      [.createVlan 1, .addPort 1 1 .tagged, .enable 1 .stp, .enable 1 .rstp]).any fun s ↦
        (s.rstp 1).any (·.running)) = true := by
    decide +kernel
  simp only [Option.any_eq_true] at hcheck
  obtain ⟨s, hexec, bs, hbs, hrstp⟩ := hcheck
  have hrun := (run_of_exec hexec).guarded
  exact ⟨s, hrun, (one_protocol_per_vlan plainPlatform _ _ hrun).1 1, bs, hbs, hrstp⟩

end Layer3Switch.Vlan
