import Layer3Switch.Lib.Run
import Layer3Switch.Stp.Membership
import Layer3Switch.Stp.RoundTrip
import Layer3Switch.Vlan.Effects

namespace Layer3Switch.Vlan

open Lib Lib.Bytes
open Timers (U32)
open Stp (StpInstance World PortT macAddress maxPorts)
open Rstp (BstpState)

structure Slot (κ : Type) where
  vlan : Option VlanStaticEntry
  stp : Option (StpInstance κ)
  rstp : Option BstpState

variable {κ τ Φ : Type}

def Switch.slot (s : Switch κ τ Φ) (v : U16) : Slot κ := ⟨s.vlan v, s.stp v, s.rstp v⟩

def Command.vlanId : Command → U16
  | .createVlan v | .addPort v _ _ | .delPort v _ _ | .enable v _ | .disable v _ => v

/-- Pointers to STP instances point to the instance of the VLAN, and a VLAN that
was not created has no instance. -/
structure Slot.Ok (v : U16) (x : Slot κ) : Prop where
  stpInstance : ∀ e, x.vlan = some e → e.stpInstance = x.stp.map fun _ ↦ v
  unowned : x.vlan = none → x.stp = none ∧ x.rstp = none

structure Sound (s : Switch κ τ Φ) : Prop where
  nodup : (s.stpInstanceHead.map StpInstance.vlanId).Nodup
  rstpNodup : (s.bstpList.map BstpState.vlanId).Nodup
  slots : ∀ v, (s.slot v).Ok v

def boot (env : τ) (portCdb : Vector PortT maxPorts) :
    Switch κ τ Φ := ⟨[], [], [], env, portCdb, []⟩

theorem sound_boot (env : τ) (portCdb : Vector PortT maxPorts) :
    Sound (boot env portCdb : Switch κ τ Φ) where
  nodup := List.nodup_nil
  rstpNodup := List.nodup_nil
  slots _ := ⟨fun _ h ↦ absurd h (Option.some_ne_none _).symm, fun _ ↦ ⟨rfl, rfl⟩⟩

section Slots

variable {s : Switch κ τ Φ} {e : VlanStaticEntry} {v v' i : U16} {w : World κ τ Φ} {bs : BstpState}
  {env : τ}

theorem slot_eq {x : Option VlanStaticEntry} {y : Option (StpInstance κ)} {z : Option BstpState}
    (hx : s.vlan v = x) (hy : s.stp v = y) (hz : s.rstp v = z) : s.slot v = ⟨x, y, z⟩ := by
  rw [Switch.slot, hx, hy, hz]

theorem stp_vlanId {br : StpInstance κ} (h : s.stp v = some br) : br.vlanId = v := lookup_key h

theorem rstp_vlanId (h : s.rstp v = some bs) : bs.vlanId = v := lookup_key h

theorem nodup_putStp (hw : w.br.vlanId = v)
    (h : (s.stpInstanceHead.map StpInstance.vlanId).Nodup) :
    ((s.putStp v w).stpInstanceHead.map StpInstance.vlanId).Nodup := by
  rw [Switch.putStp, map_update]
  · exact h
  · intro br' hbr'
    rw [hw]
    exact (lookup_key hbr').symm

theorem nodup_putRstp (env : τ) (hbs : bs.vlanId = v)
    (h : (s.bstpList.map BstpState.vlanId).Nodup) :
    ((s.putRstp v bs env).bstpList.map BstpState.vlanId).Nodup := by
  rw [Switch.putRstp, map_update]
  · exact h
  · intro bs' hbs'
    rw [hbs]
    exact (lookup_key hbs').symm

theorem Sound.null (hs : Sound s) (he : s.vlan v = some e) (hi : e.stpInstance = none) :
    s.stp v = none := by
  have h := (hs.slots v).stpInstance e he
  rw [hi] at h
  exact Option.map_eq_none_iff.mp h.symm

theorem Sound.ptr (hs : Sound s) (he : s.vlan v = some e) (hi : e.stpInstance = some i) :
    i = v := by
  have h := (hs.slots v).stpInstance e he
  rw [hi, eq_comm] at h
  obtain ⟨br, -, hv⟩ := Option.map_eq_some_iff.mp h
  exact hv.symm

end Slots

variable [Add κ] [LT κ] [DecidableLT κ] [OfNat κ 0] [OfNat κ 20000] (P : Platform κ τ Φ)

def StpOr (x : Option (StpInstance κ)) (v : U16) (br : StpInstance κ) : Prop :=
  x = some br ∨
    x = none ∧ ∃ env, br = (Stp.stpInitStpInstance P.host v P.thisBridge env).1

def RstpOr (x : Option BstpState) (v : U16) (bs : BstpState) : Prop :=
  x = some bs ∨ x = none ∧ ∃ env, bs = (Rstp.bstpAttach P.host v env).1

inductive Turn : Command → Slot κ → Slot κ → Prop
  | createVlan (v : U16) (br : Option (StpInstance κ)) (bs : Option BstpState) :
      Turn (.createVlan v) ⟨none, br, bs⟩ ⟨some (newVlan v), br, bs⟩
  | addPort (v : U16) (port : U32) (type : MemberType) (e : VlanStaticEntry) (lists : Vector U8 4)
      (br : Option (StpInstance κ)) (bs : Option BstpState) :
      editLists setPortList e port type = some lists →
      (e.stpMode = some .stp → ∃ env, P.host.tmMalloc env = false) →
      Turn (.addPort v port type) ⟨some e, br, bs⟩ ⟨some { e with portLists := lists }, br, bs⟩
  | addStpPort (v : U16) (port : U32) (type : MemberType) (e : VlanStaticEntry)
      (lists : Vector U8 4) (w w' : World κ τ Φ) (bs : Option BstpState) :
      editLists setPortList e port type = some lists → e.stpMode = some .stp →
      stpCreatePorts P [port] w = some ((), w') →
      Turn (.addPort v port type) ⟨some e, some w.br, bs⟩
        ⟨some { e with portLists := lists }, some w'.br, bs⟩
  | delPort (v : U16) (port : U32) (type : MemberType) (e : VlanStaticEntry) (lists : Vector U8 4)
      (br : Option (StpInstance κ)) (bs : Option BstpState) :
      editLists resetPortList e port type = some lists →
      Turn (.delPort v port type) ⟨some e, br, bs⟩ ⟨some { e with portLists := lists }, br, bs⟩
  | enableStp (v : U16) (e : VlanStaticEntry) (br : Option (StpInstance κ)) (w w' : World κ τ Φ)
      (bs : Option BstpState) : ¬(e.stpEnabled ∧ e.stpMode = some .stp) → StpOr P br v w.br →
      startStp P e.egressPorts w = some ((), w') →
      Turn (.enable v .stp) ⟨some e, br, bs⟩
        ⟨some { e with stpInstance := some v, stpEnabled := true, stpMode := some .stp },
          some w'.br, bs⟩
  | enableRstp (v : U16) (e : VlanStaticEntry) (bs : Option BstpState) (cdb : Vector PortT maxPorts)
      (bs₁ bs₂ : BstpState) (env env' : τ) : ¬(e.stpEnabled ∧ e.stpMode = some .rstp) →
      RstpOr P bs v bs₁ → startRstp P cdb e.egressPorts bs₁ env = some (bs₂, env') →
      Turn (.enable v .rstp) ⟨some e, none, bs⟩
        ⟨some { e with rstpInstance := some v, stpEnabled := true, stpMode := some .rstp },
          none, some bs₂⟩
  | replaceStp (v : U16) (e : VlanStaticEntry) (w w' : World κ τ Φ) (bs : Option BstpState)
      (cdb : Vector PortT maxPorts) (bs₁ bs₂ : BstpState) (env env' : τ) :
      ¬(e.stpEnabled ∧ e.stpMode = some .rstp) → RstpOr P bs v bs₁ →
      startRstp P cdb e.egressPorts bs₁ env = some (bs₂, env') →
      Stp.stpSetState P.host P.wire false w = some ((), w') →
      Turn (.enable v .rstp) ⟨some e, some w.br, bs⟩
        ⟨some { e with rstpInstance := some v, stpEnabled := true, stpMode := some .rstp },
          some w'.br, some bs₂⟩
  | disableStp (v : U16) (e : VlanStaticEntry) (br : StpInstance κ) (bs : Option BstpState) :
      e.stpEnabled →
      Turn (.disable v .stp) ⟨some e, some br, bs⟩
        ⟨some { e with stpEnabled := false, stpInstance := none }, none, bs⟩
  | disableRstp (v : U16) (e : VlanStaticEntry) (bs : Option BstpState) : e.stpEnabled →
      Turn (.disable v .rstp) ⟨some e, none, bs⟩
        ⟨some { e with stpEnabled := false, rstpInstance := none }, none, bs⟩
  | returnToStp (v : U16) (e : VlanStaticEntry) (w w' : World κ τ Φ) (bs : Option BstpState) :
      e.stpEnabled → startStp P e.egressPorts w = some ((), w') →
      Turn (.disable v .rstp) ⟨some e, some w.br, bs⟩
        ⟨some { e with stpEnabled := true, stpMode := some .stp, rstpInstance := none },
          some w'.br, bs⟩

section Programs

variable {P} {w w' : World κ τ Φ} {ports : List U32}

omit [Add κ] [LT κ] [DecidableLT κ] [OfNat κ 0] in
theorem stpCreatePorts_spec (h : stpCreatePorts P ports w = some ((), w')) :
    w'.br.vlanId = w.br.vlanId ∧ w'.br.stpEnabled = w.br.stpEnabled ∧
      ((∀ env, P.host.tmMalloc env = true) → w'.br.numbers = w.br.numbers ++ ports) := by
  induction ports generalizing w with
  | nil =>
    obtain ⟨-, rfl⟩ := Prod.mk.inj (Option.some.inj h)
    exact ⟨rfl, rfl, fun _ ↦ (List.append_nil _).symm⟩
  | cons n ports ih =>
    obtain ⟨hv, hen, hnum⟩ := ih (w := (Stp.stpCreatePort P.host P.thisBridge n w).1) h
    refine ⟨hv.trans Stp.stpCreatePort_others.1, hen.trans Stp.stpCreatePort_others.2, ?_⟩
    intro hmem
    rw [hnum hmem, Stp.stpCreatePort_numbers (hmem w.env), List.append_assoc]
    rfl

theorem startStp_spec (h : startStp P ports w = some ((), w')) :
    w'.br.vlanId = w.br.vlanId ∧ w'.br.stpEnabled = true ∧
      ((∀ env, P.host.tmMalloc env = true) → w'.br.numbers = w.br.numbers ++ ports) := by
  obtain ⟨⟨_, w₁⟩, h₁, h₂⟩ := Option.bind_eq_some_iff.mp h
  obtain ⟨hv, -, hnum⟩ := stpCreatePorts_spec h₁
  obtain ⟨hen, hfixed⟩ := Stp.stpSetState_true_ends () w' h₂
  refine ⟨(congrArg Prod.fst hfixed).trans hv, hen, ?_⟩
  intro hmem
  rw [Stp.numbers_eq_fixed, hfixed, ← Stp.numbers_eq_fixed, hnum hmem]

omit [Add κ] [LT κ] [DecidableLT κ] [OfNat κ 0] [OfNat κ 20000] in
theorem rstpCreatePorts_spec {cdb : Vector PortT maxPorts} {bs bs' : BstpState} {env env' : τ}
    (h : rstpCreatePorts P cdb ports bs env = some (bs', env')) :
    Rstp.Alike bs bs' ∧ ((∀ env, P.host.tmMalloc env = true) →
      bs'.ifps = bs.ifps ++ ports.map (BitVec.setWidth 16)) := by
  induction ports generalizing bs env with
  | nil =>
    obtain ⟨rfl, -⟩ := Prod.mk.inj (Option.some.inj h)
    exact ⟨⟨rfl, rfl, rfl⟩, fun _ ↦ (List.append_nil _).symm⟩
  | cons n ports ih =>
    rw [rstpCreatePorts, List.foldlM_cons] at h
    obtain ⟨⟨bs₁, env₁⟩, h₁, h₂⟩ := Option.bind_eq_some_iff.mp h
    obtain ⟨t, -, hcreate⟩ := Option.bind_eq_some_iff.mp h₁
    obtain ⟨halike₁, hifps₁⟩ := Rstp.rstpCreatePort_spec hcreate
    obtain ⟨halike₂, hifps₂⟩ := ih h₂
    refine ⟨⟨halike₂.vlanId.trans halike₁.vlanId, halike₂.running.trans halike₁.running,
      halike₂.bstpcallout.trans halike₁.bstpcallout⟩, ?_⟩
    intro hmem
    obtain ⟨hno, -⟩ | hifps₁ := hifps₁
    · exact absurd (hmem env) (Bool.eq_false_iff.mp hno)
    · rw [hifps₂ hmem, hifps₁, List.append_assoc]
      rfl

omit [Add κ] [LT κ] [DecidableLT κ] [OfNat κ 0] [OfNat κ 20000] in
theorem startRstp_spec {cdb : Vector PortT maxPorts} {bs bs' : BstpState} {env env' : τ}
    (h : startRstp P cdb ports bs env = some (bs', env')) :
    bs'.vlanId = bs.vlanId ∧ bs'.running = true ∧ ((∀ env, P.host.tmMalloc env = true) →
      bs'.ifps = bs.ifps ++ ports.map (BitVec.setWidth 16)) := by
  obtain ⟨⟨bs₁, env₁⟩, h₁, h₂⟩ := Option.bind_eq_some_iff.mp h
  obtain ⟨halike, hifps⟩ := rstpCreatePorts_spec h₁
  obtain ⟨hv, hrun, hifps'⟩ := Rstp.bstpInit_spec h₂
  exact ⟨hv.trans halike.vlanId, hrun, fun hmem ↦ hifps'.trans (hifps hmem)⟩

end Programs

section Turns

variable {P} {s s₁ s' : Switch κ τ Φ} {c : Command} {v : U16}

omit [Add κ] [LT κ] [DecidableLT κ] [OfNat κ 20000] in
theorem WithStp.stpOr {br : StpInstance κ} (h : WithStp P s v s₁) (hbr : s₁.stp v = some br) :
    StpOr P (s.stp v) v br := by
  cases h with
  | old _ => exact .inl hbr
  | new hnone =>
    have hnew : (s.newStp P v).stp v =
        some (Stp.stpInitStpInstance P.host v P.thisBridge s.env).1 :=
      lookup_append rfl hnone
    exact .inr ⟨hnone, s.env, Option.some.inj (hbr.symm.trans hnew)⟩

omit [Add κ] [LT κ] [DecidableLT κ] [OfNat κ 20000] in
theorem WithStp.vlan {v' : U16} (h : WithStp P s v s₁) : s₁.vlan v' = s.vlan v' := by
  cases h <;> rfl

omit [Add κ] [LT κ] [DecidableLT κ] [OfNat κ 20000] in
theorem WithStp.rstp {v' : U16} (h : WithStp P s v s₁) : s₁.rstp v' = s.rstp v' := by
  cases h <;> rfl

omit [Add κ] [LT κ] [DecidableLT κ] [OfNat κ 20000] in
theorem WithStp.bstpList (h : WithStp P s v s₁) : s₁.bstpList = s.bstpList := by
  cases h <;> rfl

omit [Add κ] [LT κ] [DecidableLT κ] [OfNat κ 20000] in
theorem WithStp.slot_ne {v' : U16} (h : WithStp P s v s₁) (hne : v' ≠ v) :
    s₁.slot v' = s.slot v' := by
  cases h with
  | old _ => rfl
  | new _ =>
    exact slot_eq rfl (lookup_append_ne hne.symm) rfl

omit [Add κ] [LT κ] [DecidableLT κ] [OfNat κ 20000] in
theorem WithStp.nodup (h : WithStp P s v s₁)
    (hs : (s.stpInstanceHead.map StpInstance.vlanId).Nodup) :
    (s₁.stpInstanceHead.map StpInstance.vlanId).Nodup := by
  cases h with
  | old _ => exact hs
  | new hnone => exact nodup_append_absent hs hnone

omit [Add κ] [LT κ] [DecidableLT κ] [OfNat κ 0] [OfNat κ 20000] in
theorem WithRstp.rstpOr {bs : BstpState} (h : WithRstp P s v s₁) (hbs : s₁.rstp v = some bs) :
    RstpOr P (s.rstp v) v bs := by
  cases h with
  | old _ => exact .inl hbs
  | new hnone =>
    have hnew : (s.newRstp P v).rstp v = some (Rstp.bstpAttach P.host v s.env).1 :=
      lookup_append rfl hnone
    exact .inr ⟨hnone, s.env, Option.some.inj (hbs.symm.trans hnew)⟩

omit [Add κ] [LT κ] [DecidableLT κ] [OfNat κ 0] [OfNat κ 20000] in
theorem WithRstp.nodup (h : WithRstp P s v s₁) (hs : (s.bstpList.map BstpState.vlanId).Nodup) :
    (s₁.bstpList.map BstpState.vlanId).Nodup := by
  cases h with
  | old _ => exact hs
  | new hnone => exact nodup_append_absent hs hnone

omit [Add κ] [LT κ] [DecidableLT κ] [OfNat κ 0] [OfNat κ 20000] in
theorem WithRstp.vlan {v' : U16} (h : WithRstp P s v s₁) : s₁.vlan v' = s.vlan v' := by
  cases h <;> rfl

omit [Add κ] [LT κ] [DecidableLT κ] [OfNat κ 0] [OfNat κ 20000] in
theorem WithRstp.slot_ne {v' : U16} (h : WithRstp P s v s₁) (hne : v' ≠ v) :
    s₁.slot v' = s.slot v' := by
  cases h with
  | old _ => rfl
  | new _ =>
    exact slot_eq rfl rfl (lookup_append_ne hne.symm)

structure Turned (P : Platform κ τ Φ) (c : Command) (s s' : Switch κ τ Φ) : Prop where
  turn : Turn P c (s.slot c.vlanId) (s'.slot c.vlanId)
  others : ∀ v, v ≠ c.vlanId → s'.slot v = s.slot v
  nodup : (s'.stpInstanceHead.map StpInstance.vlanId).Nodup
  rstpNodup : (s'.bstpList.map BstpState.vlanId).Nodup

theorem Turned.of_slots {x x' : Slot κ} (hx : s.slot c.vlanId = x) (hx' : s'.slot c.vlanId = x')
    (hturn : Turn P c x x') (hothers : ∀ v, v ≠ c.vlanId → s'.slot v = s.slot v)
    (hnodup : (s'.stpInstanceHead.map StpInstance.vlanId).Nodup)
    (hrstp : (s'.bstpList.map BstpState.vlanId).Nodup) : Turned P c s s' :=
  ⟨hx ▸ hx' ▸ hturn, hothers, hnodup, hrstp⟩

theorem Effect.turned (h : Effect P s c s') (hs : Sound s) :
    s' = s ∧ Idle P s c ∨ Turned P c s s' := by
  cases h with
  | idle _ hidle => exact .inl ⟨rfl, hidle⟩
  | createVlan v hnone =>
    refine .inr (.of_slots (slot_eq hnone rfl rfl) ?_ (.createVlan v _ _) ?_ hs.nodup
      hs.rstpNodup)
    · exact slot_eq (lookup_append rfl hnone) rfl rfl
    · intro v' hne
      exact slot_eq (lookup_append_ne hne.symm) rfl rfl
  | addPort v port type e lists he hlists hno =>
    have hev := vlan_vlanId he
    have hsome : (s.vlan v).isSome := by rw [he]; rfl
    refine .inr (.of_slots (slot_eq he rfl rfl) (slot_eq (vlan_putVlan hev hsome) rfl rfl)
      (.addPort v port type e lists _ _ hlists ?_) ?_ hs.nodup hs.rstpNodup)
    · intro hmode
      exact ⟨s.env, Bool.eq_false_iff.mpr fun hmem ↦ hno ⟨hmode, hmem⟩⟩
    · intro v' hne
      exact slot_eq (vlan_putVlan_ne hev hne) rfl rfl
  | addStpPort v port type e lists i br w he hlists hmode hi hbr hm =>
    obtain rfl := hs.ptr he hi
    have hev := vlan_vlanId he
    have hsome : (s.vlan i).isSome := by rw [he]; rfl
    have hsome' : (s.stp i).isSome := by rw [hbr]; rfl
    have hw : w.br.vlanId = i := (stpCreatePorts_spec hm).1.trans (stp_vlanId hbr)
    refine .inr (.of_slots (slot_eq he hbr rfl)
      (slot_eq (vlan_putVlan hev hsome) (stp_putStp hsome' hw) rfl)
      (.addStpPort i port type e lists (s.world br) w _ hlists hmode hm) ?_
      (nodup_putStp hw hs.nodup) hs.rstpNodup)
    intro v' hne
    exact slot_eq (vlan_putVlan_ne hev hne) (stp_putStp_ne hw hne) rfl
  | delPort v port type e lists he hlists =>
    have hev := vlan_vlanId he
    have hsome : (s.vlan v).isSome := by rw [he]; rfl
    refine .inr (.of_slots (slot_eq he rfl rfl) (slot_eq (vlan_putVlan hev hsome) rfl rfl)
      (.delPort v port type e lists _ _ hlists) ?_ hs.nodup hs.rstpNodup)
    intro v' hne
    exact slot_eq (vlan_putVlan_ne hev hne) rfl rfl
  | enableStp v e s₁ br w he hnot h₁ hbr hm =>
    have hev := vlan_vlanId he
    have hsome : (s₁.vlan v).isSome := by rw [h₁.vlan, he]; rfl
    have hsome' : (s₁.stp v).isSome := by rw [hbr]; rfl
    have hw : w.br.vlanId = v := (startStp_spec hm).1.trans (stp_vlanId hbr)
    refine .inr (.of_slots (slot_eq he rfl rfl)
      (slot_eq (vlan_putVlan hev hsome) (stp_putStp hsome' hw) h₁.rstp)
      (.enableStp v e _ (s₁.world br) w _ hnot (h₁.stpOr hbr) hm) ?_
      (nodup_putStp hw (h₁.nodup hs.nodup)) (h₁.bstpList ▸ hs.rstpNodup))
    intro v' hne
    rw [← h₁.slot_ne hne]
    exact slot_eq (vlan_putVlan_ne hev hne) (stp_putStp_ne hw hne) rfl
  | enableRstp v e s₁ bs bs' env he hnot hi h₁ hbs hm =>
    have hev := vlan_vlanId he
    have hsome : (s₁.vlan v).isSome := by rw [h₁.vlan, he]; rfl
    have hsome' : (s₁.rstp v).isSome := by rw [hbs]; rfl
    have hbs' : bs'.vlanId = v := (startRstp_spec hm).1.trans (rstp_vlanId hbs)
    refine .inr (.of_slots (slot_eq he (hs.null he hi) rfl)
      (slot_eq (vlan_putVlan hev hsome) (h₁.stp.trans (hs.null he hi))
        (rstp_putRstp env hsome' hbs'))
      (.enableRstp v e _ s.portCdb bs bs' s₁.env env hnot (h₁.rstpOr hbs) hm) ?_ ?_
      (nodup_putRstp env hbs' (h₁.nodup hs.rstpNodup)))
    · intro v' hne
      rw [← h₁.slot_ne hne]
      exact slot_eq (vlan_putVlan_ne hev hne) rfl (rstp_putRstp_ne env hbs' hne)
    · have hnodup := hs.nodup
      rwa [← h₁.others.2.1] at hnodup
  | replaceStp v e s₁ bs bs' env i br w he hnot hi h₁ hbs hm hbr hset =>
    obtain rfl := hs.ptr he hi
    have hev := vlan_vlanId he
    have hsome : (s₁.vlan i).isSome := by rw [h₁.vlan, he]; rfl
    have hsome' : (s₁.rstp i).isSome := by rw [hbs]; rfl
    have hsome₂ : (s₁.stp i).isSome := by rw [h₁.stp, hbr]; rfl
    have hbs' : bs'.vlanId = i := (startRstp_spec hm).1.trans (rstp_vlanId hbs)
    have hw : w.br.vlanId = i :=
      (Stp.stpSetState_false_ends () w hset).2.2.trans (stp_vlanId hbr)
    refine .inr (.of_slots (slot_eq he hbr rfl) (slot_eq (vlan_putVlan hev hsome)
        (stp_putStp (s := s₁.putRstp i bs' env) hsome₂ hw) (rstp_putRstp env hsome' hbs'))
      (.replaceStp i e ((s₁.putRstp i bs' env).world br) w _ s.portCdb bs bs' s₁.env env hnot
        (h₁.rstpOr hbs) hm hset) ?_ (nodup_putStp hw ?_)
      (nodup_putRstp env hbs' (h₁.nodup hs.rstpNodup)))
    · intro v' hne
      rw [← h₁.slot_ne hne]
      exact slot_eq (vlan_putVlan_ne hev hne) (stp_putStp_ne (s := s₁.putRstp i bs' env) hw hne)
        (rstp_putRstp_ne env hbs' hne)
    · have hnodup := hs.nodup
      rwa [← h₁.others.2.1] at hnodup
  | disableStp v e i he hen hi hbr =>
    obtain rfl := hs.ptr he hi
    have hev := vlan_vlanId he
    have hsome : (s.vlan i).isSome := by rw [he]; rfl
    obtain ⟨br, hbr⟩ := Option.isSome_iff_exists.mp hbr
    refine .inr (.of_slots (slot_eq he hbr rfl)
      (slot_eq (vlan_putVlan hev hsome) (lookup_remove hs.nodup) rfl)
      (.disableStp i e br _ hen) ?_ (hs.nodup.sublist map_remove_sublist) hs.rstpNodup)
    intro v' hne
    exact slot_eq (vlan_putVlan_ne hev hne) (lookup_remove_ne hne) rfl
  | disableRstp v e he hen hi =>
    have hev := vlan_vlanId he
    have hsome : (s.vlan v).isSome := by rw [he]; rfl
    have hnull := hs.null he hi
    refine .inr (.of_slots (slot_eq he hnull rfl) (slot_eq (vlan_putVlan hev hsome) hnull rfl)
      (.disableRstp v e _ hen) ?_ hs.nodup hs.rstpNodup)
    intro v' hne
    exact slot_eq (vlan_putVlan_ne hev hne) rfl rfl
  | returnToStp v e i br w he hen hi hbr hm =>
    obtain rfl := hs.ptr he hi
    have hev := vlan_vlanId he
    have hsome : (s.vlan i).isSome := by rw [he]; rfl
    have hsome' : (s.stp i).isSome := by rw [hbr]; rfl
    have hw : w.br.vlanId = i := (startStp_spec hm).1.trans (stp_vlanId hbr)
    refine .inr (.of_slots (slot_eq he hbr rfl)
      (slot_eq (vlan_putVlan hev hsome) (stp_putStp hsome' hw) rfl)
      (.returnToStp i e (s.world br) w _ hen hm) ?_ (nodup_putStp hw hs.nodup) hs.rstpNodup)
    intro v' hne
    exact slot_eq (vlan_putVlan_ne hev hne) (stp_putStp_ne hw hne) rfl

theorem Turn.ok {x x' : Slot κ} (h : Turn P c x x') (hx : x.Ok c.vlanId) : x'.Ok c.vlanId := by
  refine ⟨?_, ?_⟩
  · intro e' he'
    cases h with
    | createVlan v br bs =>
      obtain rfl := Option.some.inj he'
      rw [(hx.unowned rfl).1]
      rfl
    | addPort _ _ _ e | delPort _ _ _ e =>
      obtain rfl := Option.some.inj he'
      exact hx.stpInstance e rfl
    | addStpPort _ _ _ e | replaceStp _ e | returnToStp _ e =>
      obtain rfl := Option.some.inj he'
      exact hx.stpInstance e rfl
    | enableRstp _ e | disableRstp _ e =>
      obtain rfl := Option.some.inj he'
      exact hx.stpInstance e rfl
    | enableStp | disableStp =>
      obtain rfl := Option.some.inj he'
      rfl
  · intro hnone
    cases h <;> cases hnone

theorem Sound.effect (hs : Sound s) (h : Effect P s c s') : Sound s' := by
  obtain ⟨rfl, -⟩ | ht := h.turned hs
  · exact hs
  refine ⟨ht.nodup, ht.rstpNodup, ?_⟩
  intro v
  by_cases hv : v = c.vlanId
  · subst hv
    exact ht.turn.ok (hs.slots c.vlanId)
  · rw [ht.others v hv]
    exact hs.slots v

theorem run_slots {C : Switch κ τ Φ → Command → Prop} {I : U16 → Slot κ → Prop}
    (hturn : ∀ s c x', Sound s → C s c → Turn P c (s.slot c.vlanId) x' →
      I c.vlanId (s.slot c.vlanId) → I c.vlanId x')
    {cs : List Command} (h : Run (issue P) C s cs s') (hs : Sound s) (hI : ∀ v, I v (s.slot v)) :
    Sound s' ∧ ∀ v, I v (s'.slot v) := by
  refine h.invariant (I := fun s ↦ Sound s ∧ ∀ v, I v (s.slot v)) ?_ ⟨hs, hI⟩
  intro s c s' hs hc hstep
  have heff := issue_effect hstep
  refine ⟨hs.1.effect heff, ?_⟩
  obtain ⟨rfl, -⟩ | ht := heff.turned hs.1
  · exact hs.2
  intro v
  by_cases hv : v = c.vlanId
  · subst hv
    exact hturn s c _ hs.1 hc ht.turn (hs.2 c.vlanId)
  · rw [ht.others v hv]
    exact hs.2 v

end Turns

def plainPlatform : Platform Int32 Timers.TimerMgr (List U8) where
  host := Stp.relayHost
  wire := Stp.frames .little
  machines := ⟨fun _ _ _ ↦ .discarding, fun _ _ _ _ ↦ .discarding, fun _ _ _ _ ↦ .discarding,
    fun _ _ _ _ _ ↦ .discarding, fun _ _ _ ↦ .discarding⟩
  thisBridge := macAddress 0 0 0 0 0 2

def plainBoot : Switch Int32 Timers.TimerMgr (List U8) :=
  boot Timers.initTimerMgr (.replicate maxPorts ⟨.down, macAddress 0 0 0 0 0 2, none⟩)

end Layer3Switch.Vlan
