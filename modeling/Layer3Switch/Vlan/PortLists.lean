import Layer3Switch.Lib.Trace
import Layer3Switch.Vlan.Slots

namespace Layer3Switch.Vlan

open Lib Lib.Bytes
open Timers (U32)
open Stp (PortT maxPorts)

variable {κ τ Φ : Type}

def Fits (port : U32) : Prop := portByte port < maxPorts / 8

instance (port : U32) : Decidable (Fits port) := inferInstanceAs (Decidable (_ < _))

theorem Fits.portByte_eq {port : U32} (h : Fits port) : portByte port = 0 := Nat.lt_one_iff.mp h

section Lists

variable {lists lists' : Vector U8 4} {list i : ℕ} {port port' : U32}

theorem setPortList_other (h : setPortList lists list port = some lists') (hport : Fits port)
    (hi : i ≠ list) : lists'[i]? = lists[i]? := by
  obtain ⟨byte, -, rfl⟩ := Option.map_eq_some_iff.mp h
  rw [hport.portByte_eq]
  exact Vector.getElem?_setIfInBounds_ne (Ne.symm hi)

theorem resetPortList_other (h : resetPortList lists list port = some lists') (hport : Fits port)
    (hi : i ≠ list) : lists'[i]? = lists[i]? := by
  obtain ⟨byte, -, rfl⟩ := Option.map_eq_some_iff.mp h
  rw [hport.portByte_eq]
  exact Vector.getElem?_setIfInBounds_ne (Ne.symm hi)

theorem isPortSet_congr (h : lists'[list]? = lists[list]?) (hport : Fits port) :
    isPortSetPortList lists' list port = isPortSetPortList lists list port := by
  rw [isPortSetPortList, isPortSetPortList, hport.portByte_eq, Nat.add_zero, h]

theorem list_injective {type type' : MemberType} (h : type.list = some list)
    (h' : type'.list = some list) : type' = type := by
  cases type <;> cases type' <;> simp_all [MemberType.list] <;> omega

variable {e : VlanStaticEntry} {type type' : MemberType} {list' : ℕ}

theorem editLists_other {edit : Vector U8 4 → ℕ → U32 → Option (Vector U8 4)}
    (hedit : ∀ {list lists'}, edit e.portLists list port = some lists' → ∀ {i}, i ≠ list →
      lists'[i]? = e.portLists[i]?)
    (h : editLists edit e port type = some lists) (hi : type.list ≠ some i) :
    lists[i]? = e.portLists[i]? := by
  rw [editLists] at h
  cases hlist : type.list with
  | none =>
    rw [hlist] at h
    rw [Option.some.inj h]
  | some list =>
    rw [hlist] at h hi
    exact hedit h fun heq ↦ hi (congrArg some heq.symm)

theorem isPortSet_add (h : editLists setPortList e port type = some lists) (hport : Fits port)
    (hlist : type'.list = some list') (hport' : Fits port') :
    isPortSetPortList lists list' port' =
      (decide (type' = type ∧ port' = port) || isPortSetPortList e.portLists list' port') := by
  by_cases htype : type' = type
  · subst htype
    rw [editLists, hlist] at h
    rw [isPortSet_set h]
    simp
  · have hother := editLists_other (fun h ↦ setPortList_other h hport) h
      fun heq ↦ htype (list_injective heq hlist)
    rw [isPortSet_congr hother hport']
    simp [htype]

theorem isPortSet_del (h : editLists resetPortList e port type = some lists) (hport : Fits port)
    (hlist : type'.list = some list') (hport' : Fits port') :
    isPortSetPortList lists list' port' =
      (!decide (type' = type ∧ port' = port) && isPortSetPortList e.portLists list' port') := by
  by_cases htype : type' = type
  · subst htype
    rw [editLists, hlist] at h
    rw [isPortSet_reset h]
    simp
  · have hother := editLists_other (fun h ↦ resetPortList_other h hport) h
      fun heq ↦ htype (list_injective heq hlist)
    rw [isPortSet_congr hother hport']
    simp [htype]

end Lists

section History

def LastAdded (v : U16) (type : MemberType) (port : U32) (past : List Command) : Prop :=
  Since (· = .addPort v port type) (· = .delPort v port type) past

def EditsWithin (s : Switch κ τ Φ) : Command → Prop
  | .addPort v port _ | .delPort v port _ => (s.vlan v).isSome ∧ Fits port
  | .createVlan _ | .enable _ _ | .disable _ _ => True

instance (s : Switch κ τ Φ) : DecidablePred (EditsWithin s)
  | .addPort _ _ _ | .delPort _ _ _ => inferInstanceAs (Decidable (_ ∧ _))
  | .createVlan _ | .enable _ _ | .disable _ _ => inferInstanceAs (Decidable True)

def VlanStaticEntry.Records (e : VlanStaticEntry) (v : U16) (past : List Command) : Prop :=
  ∀ type list port, type.list = some list → Fits port →
    (isPortSetPortList e.portLists list port = true ↔ LastAdded v type port past)

def EditsOneList (s s' : Switch κ τ Φ) : Command → Prop
  | .addPort v _ type | .delPort v _ type => ∀ e, s.vlan v = some e → ∃ lists,
      s'.vlanDb = update VlanStaticEntry.vlanId s.vlanDb v { e with portLists := lists } ∧
      ∀ i, type.list ≠ some i → lists[i]? = e.portLists[i]?
  | .createVlan _ | .enable _ _ | .disable _ _ => True

variable {s s' : Switch κ τ Φ} {c : Command} {v : U16} {e : VlanStaticEntry} {past : List Command}

theorem EditsWithin.fits (h : EditsWithin s c) {port : U32} {type : MemberType}
    (hc : c = .addPort v port type ∨ c = .delPort v port type) :
    Fits port ∧ (s.vlan v).isSome := by
  obtain rfl | rfl := hc
  · exact ⟨h.2, h.1⟩
  · exact ⟨h.2, h.1⟩

variable [Add κ] [LT κ] [DecidableLT κ] [OfNat κ 0] [OfNat κ 20000] {P : Platform κ τ Φ}

theorem Effect.editsOneList (h : Effect P s c s') (hc : EditsWithin s c) : EditsOneList s s' c := by
  cases c with
  | createVlan _ => trivial
  | enable _ _ => trivial
  | disable _ _ => trivial
  | addPort v port type =>
    have hother : ∀ {e : VlanStaticEntry} {lists}, editLists setPortList e port type = some lists →
        ∀ i, type.list ≠ some i → lists[i]? = e.portLists[i]? := fun hlists i hi ↦
      editLists_other (fun h ↦ setPortList_other h hc.2) hlists hi
    intro e he
    obtain rfl := vlan_vlanId he
    cases h with
    | idle _ hidle => cases he.symm.trans hidle
    | addPort _ _ _ e' lists he' hlists =>
      obtain rfl := Option.some.inj (he.symm.trans he')
      exact ⟨lists, rfl, hother hlists⟩
    | addStpPort _ _ _ e' lists _ _ _ he' hlists =>
      obtain rfl := Option.some.inj (he.symm.trans he')
      exact ⟨lists, rfl, hother hlists⟩
  | delPort v port type =>
    intro e he
    obtain rfl := vlan_vlanId he
    cases h with
    | idle _ hidle => cases he.symm.trans hidle
    | delPort _ _ _ e' lists he' hlists =>
      obtain rfl := Option.some.inj (he.symm.trans he')
      exact ⟨lists, rfl, fun i hi ↦
        editLists_other (fun h ↦ resetPortList_other h hc.2) hlists hi⟩

/-- The lists of an entry, and the calls for VLANs that were not there. -/
structure Recorded (past : List Command) (s : Switch κ τ Φ) : Prop where
  records : ∀ v e, s.vlan v = some e → e.Records v past
  absent : ∀ v, s.vlan v = none → ∀ port type, .addPort v port type ∉ past

def Command.Apart (c : Command) (v : U16) : Prop :=
  ∀ port type, c ≠ .addPort v port type ∧ c ≠ .delPort v port type

theorem apart_of_ne (h : v ≠ c.vlanId) : c.Apart v := by
  refine fun port type ↦ ⟨?_, ?_⟩
  · rintro rfl
    exact h rfl
  · rintro rfl
    exact h rfl

theorem VlanStaticEntry.Records.snoc {e' : VlanStaticEntry} (h : e.Records v past)
    (hlists : e'.portLists = e.portLists) (hc : c.Apart v) : e'.Records v (past ++ [c]) := by
  intro type list port hlist hport
  rw [hlists, h type list port hlist hport, LastAdded, LastAdded, since_snoc,
    or_iff_right (hc port type).1, and_iff_left (hc port type).2]

theorem records_newVlan (h : ∀ port type, .addPort v port type ∉ past) :
    (newVlan v).Records v (past ++ [.createVlan v]) := by
  intro type list port hlist hport
  refine iff_of_false ?_ ?_
  · rw [isPortSetPortList, hport.portByte_eq]
    cases type with
    | tagged | untagged =>
      obtain rfl := Option.some.inj hlist
      simp [newVlan]
    | forbidden => cases hlist
  · intro hlast
    obtain ⟨_, hmem, rfl⟩ := hlast.mem
    obtain hmem | hmem := List.mem_append.mp hmem
    · exact h port type hmem
    · cases List.mem_singleton.mp hmem

theorem VlanStaticEntry.Records.add {port : U32} {type : MemberType} {lists : Vector U8 4}
    (h : e.Records v past) (hlists : editLists setPortList e port type = some lists)
    (hport : Fits port) :
    ({ e with portLists := lists } : VlanStaticEntry).Records v
      (past ++ [.addPort v port type]) := by
  intro type' list port' hlist hport'
  have hsame : Command.addPort v port type = .addPort v port' type' ↔ type' = type ∧
    port' = port := by
    constructor
    · rintro ⟨⟩
      exact ⟨rfl, rfl⟩
    · rintro ⟨rfl, rfl⟩
      rfl
  rw [isPortSet_add hlists hport hlist hport', Bool.or_eq_true, decide_eq_true_eq,
    h type' list port' hlist hport', LastAdded, LastAdded, since_snoc, hsame]
  exact or_congr_right (and_iff_left Command.noConfusion).symm

theorem VlanStaticEntry.Records.del {port : U32} {type : MemberType} {lists : Vector U8 4}
    (h : e.Records v past) (hlists : editLists resetPortList e port type = some lists)
    (hport : Fits port) :
    ({ e with portLists := lists } : VlanStaticEntry).Records v
      (past ++ [.delPort v port type]) := by
  intro type' list port' hlist hport'
  have hsame : Command.delPort v port type = .delPort v port' type' ↔ type' = type ∧
    port' = port := by
    constructor
    · rintro ⟨⟩
      exact ⟨rfl, rfl⟩
    · rintro ⟨rfl, rfl⟩
      rfl
  rw [isPortSet_del hlists hport hlist hport', Bool.and_eq_true, Bool.not_eq_true',
    decide_eq_false_iff_not, h type' list port' hlist hport', LastAdded, LastAdded,
      since_snoc, hsame,
    and_comm]
  exact (or_iff_right Command.noConfusion).symm

theorem Turn.records {x x' : Slot κ} (h : Turn P c x x')
    (hx : ∀ e, x.vlan = some e → e.Records c.vlanId past)
    (habsent : x.vlan = none → ∀ port type, .addPort c.vlanId port type ∉ past)
    (hfits : ∀ v port type, c = .addPort v port type ∨ c = .delPort v port type → Fits port) :
    ∃ e', x'.vlan = some e' ∧ e'.Records c.vlanId (past ++ [c]) := by
  cases h with
  | createVlan v => exact ⟨_, rfl, records_newVlan (habsent rfl)⟩
  | addPort v port type e lists _ _ hlists =>
    exact ⟨_, rfl, (hx e rfl).add hlists (hfits v port type (.inl rfl))⟩
  | addStpPort v port type e lists _ _ _ hlists =>
    exact ⟨_, rfl, (hx e rfl).add hlists (hfits v port type (.inl rfl))⟩
  | delPort v port type e lists _ _ hlists =>
    exact ⟨_, rfl, (hx e rfl).del hlists (hfits v port type (.inr rfl))⟩
  | enableStp v e | enableRstp v e | replaceStp v e | disableStp v e | disableRstp v e
  | returnToStp v e => exact ⟨_, rfl, (hx e rfl).snoc rfl fun _ _ ↦ ⟨nofun, nofun⟩⟩

theorem Recorded.effect (h : Recorded past s) (hs : Sound s) (heff : Effect P s c s')
    (hc : EditsWithin s c) : Recorded (past ++ [c]) s' := by
  have hapart : ∀ v, s.vlan v = none → c.Apart v := by
    intro v hnone port type
    refine ⟨fun heq ↦ ?_, fun heq ↦ ?_⟩
    · have hsome := (hc.fits (.inl heq)).2
      rw [hnone] at hsome
      cases hsome
    · have hsome := (hc.fits (.inr heq)).2
      rw [hnone] at hsome
      cases hsome
  have hlater : ∀ v, s.vlan v = none → ∀ port type, .addPort v port type ∉ past ++ [c] := by
    intro v hnone port type hmem
    obtain hmem | hmem := List.mem_append.mp hmem
    · exact h.absent v hnone port type hmem
    · exact (hapart v hnone port type).1 (List.mem_singleton.mp hmem).symm
  obtain ⟨rfl, hidle⟩ | ht := heff.turned hs
  · refine ⟨fun v e he ↦ (h.records v e he).snoc rfl fun port type ↦ ⟨?_, ?_⟩, hlater⟩
    · rintro rfl
      cases he.symm.trans hidle
    · rintro rfl
      cases he.symm.trans hidle
  · have hturn := ht.turn.records (h.records c.vlanId) (h.absent c.vlanId)
      fun v port type heq ↦ (hc.fits heq).1
    refine ⟨fun v e he ↦ ?_, fun v hnone ↦ ?_⟩
    · by_cases hv : v = c.vlanId
      · subst hv
        obtain ⟨e', he', hrec⟩ := hturn
        obtain rfl := Option.some.inj (he.symm.trans he')
        exact hrec
      · have hsame := congrArg Slot.vlan (ht.others v hv)
        exact (h.records v e (hsame.symm.trans he)).snoc rfl (apart_of_ne hv)
    · by_cases hv : v = c.vlanId
      · subst hv
        obtain ⟨e', he', -⟩ := hturn
        cases hnone.symm.trans he'
      · have hsame := congrArg Slot.vlan (ht.others v hv)
        exact hlater v (hsame.symm.trans hnone)

/-- After any calls for ports up to eight the lists of every VLAN show its members, and
no call changes anything else. -/
theorem port_lists_record_members (P : Platform κ τ Φ) (env : τ) (portCdb : Vector PortT maxPorts)
    {cmds : List Command} {s : Switch κ τ Φ}
    (hrun : Run (issue P) EditsWithin (boot env portCdb) cmds s) :
    (∀ v e, s.vlan v = some e → e.Records v cmds) ∧
    ∀ c s', EditsWithin s c → issue P s c = some s' → EditsOneList s s' c := by
  have hrecorded : Sound s ∧ Recorded cmds s := by
    refine hrun.history (J := fun past s ↦ Sound s ∧ Recorded past s) ?_
      ⟨sound_boot env portCdb, nofun, fun _ _ _ _ ↦ List.not_mem_nil⟩
    intro past s c s' h hc hstep
    have heff := issue_effect hstep
    exact ⟨h.1.effect heff, h.2.effect h.1 heff hc⟩
  exact ⟨hrecorded.2.records, fun c s' hc hstep ↦ (issue_effect hstep).editsOneList hc⟩

end History

/-- Ports three and eight, one of them deleted again from one of its lists. -/
theorem port_lists_record_members_two : ∃ s,
    Run (issue plainPlatform) EditsWithin plainBoot
      [.createVlan 1, .createVlan 2, .addPort 1 3 .tagged, .addPort 1 3 .untagged,
        .addPort 2 8 .tagged, .delPort 1 3 .tagged] s ∧
    (∃ e, s.vlan 1 = some e ∧ e.portLists = #v[0, 0, 4, 5] ∧ e.Records 1
      [.createVlan 1, .createVlan 2, .addPort 1 3 .tagged, .addPort 1 3 .untagged,
        .addPort 2 8 .tagged, .delPort 1 3 .tagged]) := by
  have hcheck : ((exec (fun s c ↦ if EditsWithin s c then issue plainPlatform s c else none)
      plainBoot [.createVlan 1, .createVlan 2, .addPort 1 3 .tagged, .addPort 1 3 .untagged,
        .addPort 2 8 .tagged, .delPort 1 3 .tagged]).any fun s ↦
        (s.vlan 1).any fun e ↦ e.portLists = #v[0, 0, 4, 5]) = true := by
    decide +kernel
  simp only [Option.any_eq_true, decide_eq_true_eq] at hcheck
  obtain ⟨s, hexec, e, he, hlists⟩ := hcheck
  have hrun := (run_of_exec hexec).guarded
  exact ⟨s, hrun, e, he, hlists, (port_lists_record_members plainPlatform _ _ hrun).1 1 e he⟩

/-- Port nine is untagged in a new VLAN, as its bit is one of `row_status`, and a tagged
port nine is a forbidden port one. -/
theorem port_nine_outside_lists :
    ¬(∀ (cmds : List Command) (s : Switch Int32 Timers.TimerMgr (List U8)),
      Run (issue plainPlatform) (fun s c ↦ ∀ v port type,
        c = .addPort v port type ∨ c = .delPort v port type →
        (s.vlan v).isSome ∧ port ∈ portNumbers ∧ type ≠ .forbidden) plainBoot cmds s →
      ∀ v e, s.vlan v = some e → ∀ type list port, type.list = some list → port ∈ portNumbers →
        (isPortSetPortList e.portLists list port = true ↔ LastAdded v type port cmds)) ∧
    ∃ s s' e e', Run (issue plainPlatform) (fun _ _ ↦ True) plainBoot [.createVlan 1] s ∧
      issue plainPlatform s (.addPort 1 9 .tagged) = some s' ∧
      s.vlan 1 = some e ∧ s'.vlan 1 = some e' ∧
      e.portLists = #v[0, 0, 0, 5] ∧ e'.portLists = #v[0, 1, 0, 5] := by
  have hcheck : ((exec (issue plainPlatform) plainBoot [.createVlan 1]).any fun s ↦
      (issue plainPlatform s (.addPort 1 9 .tagged)).any fun s' ↦
        (s.vlan 1).any fun e ↦ (s'.vlan 1).any fun e' ↦
          e.portLists = #v[0, 0, 0, 5] ∧ e'.portLists = #v[0, 1, 0, 5]) = true := by
    decide +kernel
  simp only [Option.any_eq_true, decide_eq_true_eq] at hcheck
  obtain ⟨s, hexec, s', hstep, e, he, e', he', hlists, hlists'⟩ := hcheck
  refine ⟨fun h ↦ ?_, s, s', e, e', run_of_exec hexec, hstep, he, he', hlists, hlists'⟩
  have hrun : Run (issue plainPlatform) (fun s c ↦ ∀ v port type,
      c = .addPort v port type ∨ c = .delPort v port type →
      (s.vlan v).isSome ∧ port ∈ portNumbers ∧ type ≠ .forbidden) plainBoot [.createVlan 1] s := by
    cases run_of_exec hexec with
    | cons _ hcreate hnil =>
      cases hnil
      refine .one ?_ hcreate
      rintro v port type (h | h) <;> cases h
  have hset : isPortSetPortList e.portLists 2 9 = true := by
    rw [hlists]
    decide
  obtain ⟨_, hmem, rfl⟩ := ((h _ s hrun 1 e he .untagged 2 9 rfl (by decide)).mp hset).mem
  cases List.mem_singleton.mp hmem

end Layer3Switch.Vlan
