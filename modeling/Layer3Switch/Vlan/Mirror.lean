import Layer3Switch.Vlan.Slots

namespace Layer3Switch.Vlan

open Lib Lib.Bytes
open Timers (U32)
open Stp (PortT StpInstance maxPorts)

variable {κ τ Φ : Type}

def VlanStaticEntry.InStpMode (e : VlanStaticEntry) : Prop :=
  e.stpEnabled = true ∧ e.stpMode = some .stp

def Mirrors (x : Slot κ) : Prop :=
  ∀ e, x.vlan = some e → e.InStpMode → ∃ br, x.stp = some br ∧
    ∀ port, br.numbers.count port = if port ∈ e.egressPorts then 1 else 0

def SpoilsMirror (x : Slot κ) : Command → Prop
  | .addPort _ port _ | .delPort _ port _ =>
    ∃ e, x.vlan = some e ∧ e.InStpMode ∧ port ∈ e.egressPorts
  | .disable _ .rstp => ∃ e, x.vlan = some e ∧ e.InStpMode ∧ e.egressPorts ≠ []
  | _ => False

def KeepsMirror (s : Switch κ τ Φ) (c : Command) : Prop := ¬SpoilsMirror (s.slot c.vlanId) c

def Command.Tagged : Command → Prop
  | .addPort _ port type | .delPort _ port type => type = .tagged ∧ port ∈ portNumbers
  | _ => True

theorem not_perm_of_append {l l' m : List U32} (h : l.Perm l') (hm : m ≠ []) :
    ¬(l ++ m).Perm l' := by
  intro hperm
  have hlen := hperm.length_eq
  rw [List.length_append, h.length_eq] at hlen
  have := List.length_pos_iff.mpr hm
  omega

section Egress

variable {e : VlanStaticEntry} {port : U32} {lists : Vector U8 4}

theorem perm_egressPorts_iff {l : List U32} :
    l.Perm e.egressPorts ↔ ∀ port, l.count port = if port ∈ e.egressPorts then 1 else 0 := by
  rw [List.perm_iff_count]
  apply forall_congr'
  intro n
  rw [List.Nodup.count e.egressPorts_nodup]

theorem mem_egressPorts : port ∈ e.egressPorts ↔ port ∈ portNumbers ∧ e.egress port = true :=
  List.mem_filter

theorem egress_set (h : editLists setPortList e port .tagged = some lists) {n : U32} :
    ({ e with portLists := lists } : VlanStaticEntry).egress n =
      (decide (n = port) || e.egress n) :=
  isPortSet_set h

theorem egress_reset (h : editLists resetPortList e port .tagged = some lists) {n : U32} :
    ({ e with portLists := lists } : VlanStaticEntry).egress n =
      (decide (n ≠ port) && e.egress n) :=
  isPortSet_reset h

theorem egressPorts_set (h : editLists setPortList e port .tagged = some lists)
    (hport : port ∈ portNumbers) (hnew : port ∉ e.egressPorts) :
    ({ e with portLists := lists } : VlanStaticEntry).egressPorts.Perm
      (e.egressPorts ++ [port]) := by
  have hnodup : (e.egressPorts ++ [port]).Nodup := by
    rw [List.nodup_append]
    refine ⟨e.egressPorts_nodup, List.nodup_singleton port, ?_⟩
    intro a ha b hb
    rw [List.mem_singleton.mp hb]
    rintro rfl
    exact hnew ha
  refine (List.perm_ext_iff_of_nodup (VlanStaticEntry.egressPorts_nodup _) hnodup).mpr ?_
  intro n
  rw [mem_egressPorts, List.mem_append, mem_egressPorts, egress_set h, List.mem_singleton,
    Bool.or_eq_true,
    decide_eq_true_eq]
  constructor
  · rintro ⟨hmem, rfl | hn⟩
    · exact .inr rfl
    · exact .inl ⟨hmem, hn⟩
  · rintro (⟨hmem, hn⟩ | rfl)
    · exact ⟨hmem, .inr hn⟩
    · exact ⟨hport, .inl rfl⟩

theorem egressPorts_set_old (h : editLists setPortList e port .tagged = some lists)
    (hold : port ∈ e.egressPorts) :
    ({ e with portLists := lists } : VlanStaticEntry).egressPorts = e.egressPorts := by
  apply List.filter_congr
  intro n _
  rw [egress_set h]
  by_cases hnp : n = port
  · rw [hnp, (mem_egressPorts.mp hold).2, Bool.or_true]
  · rw [decide_eq_false hnp, Bool.false_or]

theorem egressPorts_reset_new (h : editLists resetPortList e port .tagged = some lists)
    (hnew : port ∉ e.egressPorts) :
    ({ e with portLists := lists } : VlanStaticEntry).egressPorts = e.egressPorts := by
  apply List.filter_congr
  intro n hn
  rw [egress_reset h]
  by_cases hnp : n = port
  · subst hnp
    have hoff : e.egress n = false := Bool.eq_false_iff.mpr fun hon ↦
      hnew (mem_egressPorts.mpr ⟨hn, hon⟩)
    rw [hoff, Bool.and_false]
  · rw [decide_eq_true hnp, Bool.true_and]

theorem mem_egressPorts_reset (h : editLists resetPortList e port .tagged = some lists) {n : U32} :
    n ∈ ({ e with portLists := lists } : VlanStaticEntry).egressPorts ↔
      n ≠ port ∧ n ∈ e.egressPorts := by
  rw [mem_egressPorts, mem_egressPorts, egress_reset h, Bool.and_eq_true, decide_eq_true_eq]
  tauto

end Egress

/-- What makes the two lists agree again whenever STP mode is entered: an instance
that is not in use is empty. -/
structure Mirrored (x : Slot κ) : Prop where
  mirrors : Mirrors x
  off : ∀ e, x.vlan = some e → e.stpEnabled = false → x.stp = none
  other : ∀ e br, x.vlan = some e → e.stpMode ≠ some .stp → x.stp = some br → br.numbers = []

theorem mirrors_iff {x : Slot κ} {e : VlanStaticEntry} {br : StpInstance κ} (he : x.vlan = some e)
    (hmode : e.InStpMode) (hbr : x.stp = some br) : Mirrors x ↔ br.numbers.Perm e.egressPorts := by
  rw [perm_egressPorts_iff]
  constructor
  · intro h
    obtain ⟨br', hbr', hcount⟩ := h e he hmode
    obtain rfl := Option.some.inj (hbr.symm.trans hbr')
    exact hcount
  · intro h e' he' _
    obtain rfl := Option.some.inj (he.symm.trans he')
    exact ⟨br, hbr, h⟩

theorem mirrors_of_other {x : Slot κ} {e : VlanStaticEntry} (he : x.vlan = some e)
    (hmode : ¬e.InStpMode) : Mirrors x := by
  intro e' he' hmode'
  obtain rfl := Option.some.inj (he.symm.trans he')
  exact absurd hmode' hmode

section Mirrored

variable {x : Slot κ} {e : VlanStaticEntry} {br : StpInstance κ}

theorem Mirrored.of_no_vlan (h : x.vlan = none) : Mirrored x where
  mirrors _ he := nomatch h.symm.trans he
  off _ he := nomatch h.symm.trans he
  other _ _ he := nomatch h.symm.trans he

theorem Mirrored.of_perm (he : x.vlan = some e) (hmode : e.InStpMode) (hbr : x.stp = some br)
    (hperm : br.numbers.Perm e.egressPorts) : Mirrored x where
  mirrors := (mirrors_iff he hmode hbr).mpr hperm
  off := by
    intro e' he' hoff
    obtain rfl := Option.some.inj (he.symm.trans he')
    exact absurd hmode.1 (Bool.eq_false_iff.mp hoff)
  other := by
    intro e' _ he' hother
    obtain rfl := Option.some.inj (he.symm.trans he')
    exact absurd hmode.2 hother

theorem Mirrored.of_none (he : x.vlan = some e) (hstp : x.stp = none) (hmode : ¬e.InStpMode) :
    Mirrored x where
  mirrors := mirrors_of_other he hmode
  off _ _ _ := hstp
  other _ _ _ _ hbr := nomatch hstp.symm.trans hbr

theorem Mirrored.numbers_nil (h : Mirrored x) (he : x.vlan = some e) (hbr : x.stp = some br)
    (hmode : ¬e.InStpMode) : br.numbers = [] := by
  refine h.other e br he ?_ hbr
  intro hstp
  have hoff : e.stpEnabled = false := Bool.eq_false_iff.mpr fun hen ↦ hmode ⟨hen, hstp⟩
  cases (h.off e he hoff).symm.trans hbr

theorem Mirrored.inStpMode (h : Mirrored x) (he : x.vlan = some e) (hbr : x.stp = some br)
    (hmode : e.stpMode = some .stp) : e.InStpMode := by
  refine ⟨?_, hmode⟩
  by_contra hen
  cases (h.off e he (Bool.eq_false_iff.mpr hen)).symm.trans hbr

theorem Mirrored.edit {stp : Option (StpInstance κ)} {rstp : Option Rstp.BstpState}
    {lists : Vector U8 4} (h : Mirrored ⟨some e, stp, rstp⟩) (hsame : e.InStpMode →
      ({ e with portLists := lists } : VlanStaticEntry).egressPorts = e.egressPorts) :
    Mirrored ⟨some { e with portLists := lists }, stp, rstp⟩ where
  mirrors := by
    intro e' he' hmode
    obtain rfl := Option.some.inj he'
    rw [hsame hmode]
    exact h.mirrors e rfl hmode
  off := by
    intro e' he'
    obtain rfl := Option.some.inj he'
    exact h.off e rfl
  other := by
    intro e' br he'
    obtain rfl := Option.some.inj he'
    exact h.other e br rfl

end Mirrored

variable [Add κ] [LT κ] [DecidableLT κ] [OfNat κ 0] [OfNat κ 20000] {P : Platform κ τ Φ}

theorem Mirrored.turn {c : Command} {x x' : Slot κ} (hmem : ∀ env, P.host.tmMalloc env = true)
    (hc : c.Tagged) (ht : Turn P c x x') (hok : x.Ok c.vlanId) (h : Mirrored x)
    (hkeep : ¬SpoilsMirror x c) : Mirrored x' := by
  cases ht with
  | createVlan v br bs =>
    obtain ⟨rfl, -⟩ := hok.unowned rfl
    exact .of_none rfl rfl nofun
  | addPort v port type e lists br bs hlists hno =>
    have hmode : e.stpMode ≠ some .stp := by
      intro hmode
      obtain ⟨env, henv⟩ := hno hmode
      exact absurd (hmem env) (Bool.eq_false_iff.mp henv)
    exact h.edit (fun hin ↦ absurd hin.2 hmode)
  | addStpPort v port type e lists w w' bs hlists hmode hm =>
    obtain ⟨rfl, hport⟩ := hc
    have hnum := (stpCreatePorts_spec hm).2.2 hmem
    have hin := h.inStpMode rfl rfl hmode
    have hnew : port ∉ e.egressPorts := fun hold ↦ hkeep ⟨e, rfl, hin, hold⟩
    have hperm := (mirrors_iff rfl hin rfl).mp h.mirrors
    refine .of_perm rfl hin rfl ?_
    rw [hnum]
    exact (hperm.append_right [port]).trans (egressPorts_set hlists hport hnew).symm
  | delPort v port type e lists br bs hlists =>
    obtain ⟨rfl, hport⟩ := hc
    refine h.edit ?_
    intro hin
    have hnew : port ∉ e.egressPorts := fun hold ↦ hkeep ⟨e, rfl, hin, hold⟩
    exact egressPorts_reset_new hlists hnew
  | enableStp v e br w w' bs hnot hor hm =>
    have hempty : w.br.numbers = [] := by
      obtain rfl | ⟨-, env, hbr⟩ := hor
      · exact h.numbers_nil rfl rfl hnot
      · rw [hbr]
        rfl
    refine .of_perm rfl ⟨rfl, rfl⟩ rfl ?_
    rw [(startStp_spec hm).2.2 hmem, hempty]
    exact .refl _
  | enableRstp v e bs cdb bs₁ bs₂ env env' hnot hor hm => exact .of_none rfl rfl nofun
  | replaceStp v e w w' bs cdb bs₁ bs₂ env env' hnot hor hm hset =>
    have hempty : w'.br.numbers = [] :=
      congrArg (List.map _) (Stp.stpSetState_false_ends () w' hset).2.1
    refine ⟨mirrors_of_other rfl nofun, ?_, ?_⟩
    · intro e' he' hoff
      cases he'
      cases hoff
    · intro e' br he' hmode hbr
      obtain rfl := Option.some.inj hbr
      exact hempty
  | disableStp v e br bs hen => exact .of_none rfl rfl nofun
  | disableRstp v e bs hen => exact .of_none rfl rfl nofun
  | returnToStp v e w w' bs hen hm =>
    refine .of_perm rfl ⟨rfl, rfl⟩ rfl ?_
    rw [(startStp_spec hm).2.2 hmem]
    by_cases hin : e.InStpMode
    · -- with no egress port there is nothing to add twice
      have hnil : e.egressPorts = [] := by
        by_contra hne
        exact hkeep ⟨e, rfl, hin, hne⟩
      have hperm := (mirrors_iff rfl hin rfl).mp h.mirrors
      rw [hnil] at hperm
      rw [hperm.eq_nil]
      exact .refl _
    · rw [h.numbers_nil rfl rfl hin]
      exact .refl _

theorem SpoilsMirror.not_mirrors {c : Command} {x x' : Slot κ}
    (hmem : ∀ env, P.host.tmMalloc env = true) (hc : c.Tagged) (ht : Turn P c x x')
    (h : Mirrored x) (hspoil : SpoilsMirror x c) : ¬Mirrors x' := by
  cases ht with
  | createVlan | enableStp | enableRstp | replaceStp | disableStp => exact absurd hspoil id
  | addPort v port type e lists br bs hlists hno =>
    obtain ⟨e', he', hin, -⟩ := hspoil
    obtain rfl := Option.some.inj he'
    obtain ⟨env, henv⟩ := hno hin.2
    exact absurd (hmem env) (Bool.eq_false_iff.mp henv)
  | addStpPort v port type e lists w w' bs hlists hmode hm =>
    obtain ⟨rfl, -⟩ := hc
    obtain ⟨e', he', hin, hold⟩ := hspoil
    obtain rfl := Option.some.inj he'
    have hin' : ({ e with portLists := lists } : VlanStaticEntry).InStpMode := hin
    rw [mirrors_iff rfl hin' rfl, (stpCreatePorts_spec hm).2.2 hmem,
      egressPorts_set_old hlists hold]
    exact not_perm_of_append ((mirrors_iff rfl hin rfl).mp h.mirrors) (List.cons_ne_nil _ _)
  | delPort v port type e lists br bs hlists =>
    obtain ⟨rfl, -⟩ := hc
    obtain ⟨e', he', hin, hold⟩ := hspoil
    obtain rfl := Option.some.inj he'
    have hin' : ({ e with portLists := lists } : VlanStaticEntry).InStpMode := hin
    obtain ⟨br, rfl, -⟩ := h.mirrors e rfl hin
    rw [mirrors_iff rfl hin' rfl]
    intro hperm
    have hmem := ((mirrors_iff rfl hin rfl).mp h.mirrors).mem_iff.mpr hold
    exact ((mem_egressPorts_reset hlists).mp (hperm.mem_iff.mp hmem)).1 rfl
  | disableRstp v e bs hen =>
    obtain ⟨e', he', hin, -⟩ := hspoil
    obtain rfl := Option.some.inj he'
    obtain ⟨br, hbr, -⟩ := h.mirrors e rfl hin
    cases hbr
  | returnToStp v e w w' bs hen hm =>
    obtain ⟨e', he', hin, hne⟩ := hspoil
    obtain rfl := Option.some.inj he'
    rw [mirrors_iff rfl ⟨rfl, rfl⟩ rfl, (startStp_spec hm).2.2 hmem]
    exact not_perm_of_append ((mirrors_iff rfl hin rfl).mp h.mirrors) hne

omit [Add κ] [LT κ] [DecidableLT κ] [OfNat κ 0] [OfNat κ 20000] in
theorem Idle.keepsMirror {s : Switch κ τ Φ} {c : Command} (h : Idle P s c) : KeepsMirror s c := by
  intro hspoil
  cases c with
  | createVlan | enable => exact hspoil
  | addPort | delPort =>
    obtain ⟨e, he, -⟩ := hspoil
    cases h.symm.trans he
  | disable v mode =>
    cases mode with
    | stp => exact hspoil
    | rstp =>
      obtain ⟨e, he, hin, -⟩ := hspoil
      exact absurd hin.1 (Bool.eq_false_iff.mp (h e he))

/-- After any commands that do not spoil it, every VLAN in STP mode has one STP
port for each of its egress ports. The next command then keeps this just when it
does not spoil it either. -/
theorem stp_ports_mirror_vlan (P : Platform κ τ Φ) (hmem : ∀ env, P.host.tmMalloc env = true)
    (env : τ) (portCdb : Vector PortT maxPorts) {cs : List Command} {s : Switch κ τ Φ}
    (hrun : Run (issue P) (fun s c ↦ c.Tagged ∧ KeepsMirror s c) (boot env portCdb) cs s) :
    (∀ v, Mirrors (s.slot v)) ∧
    ∀ c : Command, c.Tagged → ∀ s', issue P s c = some s' →
      ((∀ v, Mirrors (s'.slot v)) ↔ KeepsMirror s c) := by
  have hmirrored : Sound s ∧ ∀ v, Mirrored (s.slot v) := by
    refine run_slots (I := fun _ ↦ Mirrored) ?_ hrun (sound_boot env portCdb) ?_
    · intro s c x' hs hc ht h
      exact h.turn hmem hc.1 ht (hs.slots _) hc.2
    · intro v
      exact .of_no_vlan rfl
  refine ⟨fun v ↦ (hmirrored.2 v).mirrors, ?_⟩
  intro c hc s' hs'
  obtain ⟨rfl, hidle⟩ | ht := (issue_effect hs').turned hmirrored.1
  · exact iff_of_true (fun v ↦ (hmirrored.2 v).mirrors) hidle.keepsMirror
  constructor
  · intro h hspoil
    exact hspoil.not_mirrors hmem hc ht.turn (hmirrored.2 _) (h _)
  · intro hkeep v
    by_cases hv : v = c.vlanId
    · subst hv
      exact ((hmirrored.2 _).turn hmem hc ht.turn (hmirrored.1.slots _) hkeep).mirrors
    · rw [ht.others v hv]
      exact (hmirrored.2 v).mirrors

instance (e : VlanStaticEntry) : Decidable e.InStpMode := inferInstanceAs (Decidable (_ ∧ _))

instance (x : Slot κ) (c : Command) : Decidable (SpoilsMirror x c) :=
  match c with
  | .addPort _ port _ | .delPort _ port _ =>
    inferInstanceAs (Decidable (∃ e, x.vlan = some e ∧ e.InStpMode ∧ port ∈ e.egressPorts))
  | .disable _ .rstp =>
    inferInstanceAs (Decidable (∃ e, x.vlan = some e ∧ e.InStpMode ∧ e.egressPorts ≠ []))
  | .createVlan _ | .enable _ _ | .disable _ .stp => inferInstanceAs (Decidable False)

instance (s : Switch κ τ Φ) (c : Command) : Decidable (c.Tagged ∧ KeepsMirror s c) :=
  match c with
  | .addPort _ port type | .delPort _ port type =>
    inferInstanceAs (Decidable ((type = .tagged ∧ port ∈ portNumbers) ∧ ¬SpoilsMirror _ _))
  | .createVlan _ | .enable _ _ | .disable _ _ =>
    inferInstanceAs (Decidable (True ∧ ¬SpoilsMirror _ _))

def PartsPorts (c : Command) : Prop :=
  ∃ s, Run (issue plainPlatform) (fun _ _ ↦ True) plainBoot
      [.createVlan 1, .addPort 1 1 .tagged, .enable 1 .stp, c] s ∧
    ¬Mirrors (s.slot 1)

theorem partsPorts_of_spoils :
    ∀ c ∈ [Command.addPort 1 1 .tagged, .delPort 1 1 .tagged, .disable 1 .rstp], PartsPorts c := by
  have hcheck : ([Command.addPort 1 1 .tagged, .delPort 1 1 .tagged, .disable 1 .rstp].all fun c ↦
      (exec (issue plainPlatform) plainBoot
        [.createVlan 1, .addPort 1 1 .tagged, .enable 1 .stp, c]).any fun s ↦
          (s.vlan 1).any fun e ↦ (s.stp 1).any fun br ↦
            decide (e.InStpMode ∧ ¬br.numbers.Perm e.egressPorts)) = true := by
    decide +kernel
  intro c hc
  have hthis := List.all_eq_true.mp hcheck c hc
  simp only [Option.any_eq_true, decide_eq_true_eq] at hthis
  obtain ⟨s, hexec, e, he, br, hbr, hin, hnot⟩ := hthis
  refine ⟨s, run_of_exec hexec, ?_⟩
  rwa [mirrors_iff he hin hbr]

/-- A port that is added again has two entries, one that is deleted keeps its
entry, and `no spanning-tree rstp` on a VLAN in STP mode adds all ports again. -/
theorem stp_ports_apart_from_vlan :
    PartsPorts (.addPort 1 1 .tagged) ∧ PartsPorts (.delPort 1 1 .tagged) ∧
      PartsPorts (.disable 1 .rstp) := by
  refine ⟨?_, ?_, ?_⟩ <;> exact partsPorts_of_spoils _ (by simp)

theorem stp_ports_mirror_vlan_replaced :
    ∃ s, Run (issue plainPlatform) (fun s c ↦ c.Tagged ∧ KeepsMirror s c) plainBoot
        [.createVlan 1, .addPort 1 1 .tagged, .enable 1 .stp, .addPort 1 2 .tagged, .enable 1 .rstp,
          .addPort 1 3 .tagged, .enable 1 .stp] s ∧
      Mirrors (s.slot 1) ∧ ∃ br, s.stp 1 = some br ∧ br.numbers = [1, 2, 3] := by
  have hcheck : ((exec (fun s c ↦ if c.Tagged ∧
    KeepsMirror s c then issue plainPlatform s c else none)
      plainBoot [.createVlan 1, .addPort 1 1 .tagged, .enable 1 .stp, .addPort 1 2 .tagged,
        .enable 1 .rstp, .addPort 1 3 .tagged, .enable 1 .stp]).any fun s ↦
          (s.stp 1).any fun br ↦ decide (br.numbers = [1, 2, 3])) = true := by
    decide +kernel
  simp only [Option.any_eq_true, decide_eq_true_eq] at hcheck
  obtain ⟨s, hexec, hbr⟩ := hcheck
  have hrun := (run_of_exec hexec).guarded
  have hmirrors := (stp_ports_mirror_vlan plainPlatform (fun _ ↦ rfl) _ _ hrun).1 1
  exact ⟨s, hrun, hmirrors, hbr⟩

end Layer3Switch.Vlan
