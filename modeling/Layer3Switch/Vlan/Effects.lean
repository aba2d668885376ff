import Layer3Switch.Vlan.Switch

namespace Layer3Switch.Vlan

open Lib Lib.Bytes
open Timers (U32)
open Stp (StpInstance StpM World)
open Rstp (BstpState)

variable {κ τ Φ α : Type}

section Lookups

variable {s : Switch κ τ Φ} {e : VlanStaticEntry} {v v' : U16} {w : World κ τ Φ} {bs : BstpState}

theorem vlan_vlanId (h : s.vlan v = some e) : e.vlanId = v := lookup_key h

theorem vlan_putVlan (hv : e.vlanId = v) (h : (s.vlan v).isSome) :
    (s.putVlan e).vlan v = some e := by
  subst hv
  exact lookup_update rfl h

theorem vlan_putVlan_ne (hv : e.vlanId = v) (h : v' ≠ v) : (s.putVlan e).vlan v' = s.vlan v' := by
  subst hv
  exact lookup_update_ne rfl h

theorem stp_putStp (h : (s.stp v).isSome) (hw : w.br.vlanId = v) :
    (s.putStp v w).stp v = some w.br :=
  lookup_update hw h

theorem stp_putStp_ne (hw : w.br.vlanId = v) (h : v' ≠ v) : (s.putStp v w).stp v' = s.stp v' :=
  lookup_update_ne hw h

theorem rstp_putRstp (env : τ) (h : (s.rstp v).isSome) (hbs : bs.vlanId = v) :
    (s.putRstp v bs env).rstp v = some bs :=
  lookup_update hbs h

theorem rstp_putRstp_ne (env : τ) (hbs : bs.vlanId = v) (h : v' ≠ v) :
    (s.putRstp v bs env).rstp v' = s.rstp v' :=
  lookup_update_ne hbs h

theorem update_update {β ι : Type} [DecidableEq ι] {key : β → ι} {l : List β} {x y : β}
    (h : key y = key x) : update key (update key l (key x) y) (key x) x =
      update key l (key x) x := by
  induction l with
  | nil => rfl
  | cons z l ih =>
    rw [update_cons, update_cons]
    split
    · rw [update_cons, if_pos h]
    · rename_i hz
      rw [update_cons, if_neg hz, ih]

theorem putVlan_putVlan {e' : VlanStaticEntry} (h : e'.vlanId = e.vlanId) :
    (s.putVlan e').putVlan e = s.putVlan e := by
  simp only [Switch.putVlan, h, update_update h]

end Lookups

section Rules

variable {s : Switch κ τ Φ} {E : Fault → Prop}

theorem outcome_ok {m : SwitchM κ τ Φ α} {Q : α → Switch κ τ Φ → Prop} {a : α} {s' : Switch κ τ Φ}
    (hm : m s = .ok (a, s')) (h : Q a s') : Outcome m s E Q := by
  constructor
  · intro e he
    cases hm.symm.trans he
  · intro a' s'' h'
    obtain ⟨rfl, rfl⟩ := Prod.mk.inj (Except.ok.inj (hm.symm.trans h'))
    exact h

theorem outcome_error {m : SwitchM κ τ Φ α} {Q : α → Switch κ τ Φ → Prop} {f : Fault}
    (hm : m s = .error f) (h : E f) : Outcome m s E Q := by
  constructor
  · intro e he
    exact Except.error.inj (hm.symm.trans he) ▸ h
  · intro a s' h'
    cases hm.symm.trans h'

theorem onStp_live {v : U16} {br : StpInstance κ} {m : StpM κ τ Φ α} {Q : α → Switch κ τ Φ → Prop}
    (hbr : s.stp v = some br) (hstp : E .stp)
    (h : ∀ a w, m (s.world br) = some (a, w) → Q a (s.putStp v w)) :
    Outcome (onStp (some v) m) s E Q := by
  cases hm : m (s.world br) with
  | none => exact outcome_error (by simp only [onStp, hbr, hm]) hstp
  | some x => exact outcome_ok (by simp only [onStp, hbr, hm]) (h x.1 x.2 hm)

theorem onRstp_live {v : U16} {bs : BstpState} {m : BstpState → τ → Option (BstpState × τ)}
    {Q : Unit → Switch κ τ Φ → Prop} (hbs : s.rstp v = some bs) (hrstp : E .rstp)
    (h : ∀ bs' env, m bs s.env = some (bs', env) → Q () (s.putRstp v bs' env)) :
    Outcome (onRstp (some v) m) s E Q := by
  cases hm : m bs s.env with
  | none => exact outcome_error (by simp only [onRstp, hbs, hm]) hrstp
  | some x => exact outcome_ok (by simp only [onRstp, hbs, hm]) (h x.1 x.2 hm)

theorem onStp_outcome {inst : Option U16} {m : StpM κ τ Φ α} {Q : α → Switch κ τ Φ → Prop}
    (hnull : inst = none → E .nullInstance) (hfreed : E .freed) (hstp : E .stp)
    (h : ∀ v br a w, inst = some v → s.stp v = some br → m (s.world br) = some (a, w) →
      Q a (s.putStp v w)) :
    Outcome (onStp inst m) s E Q := by
  cases inst with
  | none => exact outcome_error rfl (hnull rfl)
  | some v =>
    cases hbr : s.stp v with
    | none => exact outcome_error (by simp only [onStp, hbr]) hfreed
    | some br => exact onStp_live hbr hstp fun a w ↦ h v br a w rfl hbr

theorem onRstp_outcome {v : U16} {m : BstpState → τ → Option (BstpState × τ)}
    {Q : Unit → Switch κ τ Φ → Prop} (hfreed : E .freed) (hrstp : E .rstp)
    (h : ∀ bs bs' env, s.rstp v = some bs → m bs s.env = some (bs', env) →
      Q () (s.putRstp v bs' env)) :
    Outcome (onRstp (some v) m) s E Q := by
  cases hbs : s.rstp v with
  | none => exact outcome_error (by simp only [onRstp, hbs]) hfreed
  | some bs => exact onRstp_live hbs hrstp fun bs' env ↦ h bs bs' env hbs

theorem liftFault_outcome {β : Type} {f : Fault} {x : Option α} {g : α → SwitchM κ τ Φ β}
    {Q : β → Switch κ τ Φ → Prop} (hf : E f) (h : ∀ a, x = some a → Outcome (g a) s E Q) :
    Outcome (liftFault f x >>= g) s E Q := by
  cases x with
  | none => exact .bind (.throw hf)
  | some a => exact .bind (.pure (h a rfl))

end Rules

section Creation

variable (P : Platform κ τ Φ)

def NoMemory (s : Switch κ τ Φ) : Prop := P.host.tmMalloc s.env = false

def Switch.newRstp (s : Switch κ τ Φ) (v : U16) : Switch κ τ Φ :=
  let new := Rstp.bstpAttach P.host v s.env
  { s with bstpList := s.bstpList ++ [new.1], env := new.2 }

/-- The switch in which there is an RSTP instance for the VLAN, made if need be. -/
inductive WithRstp (s : Switch κ τ Φ) (v : U16) : Switch κ τ Φ → Prop
  | old : (s.rstp v).isSome → WithRstp s v s
  | new : s.rstp v = none → WithRstp s v (s.newRstp P v)

def Switch.newStp [OfNat κ 0] (s : Switch κ τ Φ) (v : U16) : Switch κ τ Φ :=
  let new := Stp.stpInitStpInstance P.host v P.thisBridge s.env
  { s with stpInstanceHead := s.stpInstanceHead ++ [new.1], env := new.2 }

inductive WithStp [OfNat κ 0] (s : Switch κ τ Φ) (v : U16) : Switch κ τ Φ → Prop
  | old : (s.stp v).isSome → WithStp s v s
  | new : s.stp v = none → WithStp s v (s.newStp P v)

variable {P} {s s₁ : Switch κ τ Φ} {v v' : U16}

theorem rstpCreateInstance_outcome {E : Fault → Prop} :
    Outcome (rstpCreateInstance P v) s E fun r s' ↦
      r < 0 ∧ s' = s ∧ NoMemory P s ∨ 0 ≤ r ∧ WithRstp P s v s' := by
  apply Outcome.get
  apply Outcome.ite
  · intro h
    exact .pure (.inr ⟨le_rfl, .old h⟩)
  · intro h
    apply Outcome.ite
    · intro hmem
      exact .pure (.inl ⟨by decide, rfl, hmem.2⟩)
    · intro _
      exact outcome_ok rfl (.inr ⟨le_rfl, .new (Option.not_isSome_iff_eq_none.mp h)⟩)

theorem stpCreateStpInstance_outcome [OfNat κ 0] {E : Fault → Prop} :
    Outcome (stpCreateStpInstance P v) s E fun r s' ↦
      r < 0 ∧ s' = s ∧ NoMemory P s ∨ 0 ≤ r ∧ WithStp P s v s' := by
  apply Outcome.get
  apply Outcome.ite
  · intro h
    exact .pure (.inr ⟨le_rfl, .old h⟩)
  · intro h
    apply Outcome.ite
    · intro hmem
      exact .pure (.inl ⟨by decide, rfl, hmem.2⟩)
    · intro _
      exact outcome_ok rfl (.inr ⟨le_rfl, .new (Option.not_isSome_iff_eq_none.mp h)⟩)

theorem WithRstp.others (h : WithRstp P s v s₁) :
    s₁.vlanDb = s.vlanDb ∧ s₁.stpInstanceHead = s.stpInstanceHead ∧ s₁.portCdb = s.portCdb ∧
      s₁.sent = s.sent := by
  cases h <;> exact ⟨rfl, rfl, rfl, rfl⟩

theorem WithRstp.stp (h : WithRstp P s v s₁) : s₁.stp v' = s.stp v' := by
  rw [Switch.stp, h.others.2.1]
  rfl

theorem stpDeleteStpInstance_outcome {inst : Option U16} {E : Fault → Prop}
    (hnull : inst = none → E .nullInstance) (hfreed : E .freed) :
    Outcome (stpDeleteStpInstance inst) s E fun _ s' ↦ ∃ i, inst = some i ∧ (s.stp i).isSome ∧
      s' = { s with stpInstanceHead := remove StpInstance.vlanId s.stpInstanceHead i } := by
  cases inst with
  | none => exact .throw (hnull rfl)
  | some i =>
    apply Outcome.get
    cases hbr : s.stp i with
    | none => exact .throw hfreed
    | some br => exact outcome_ok rfl ⟨i, rfl, by rw [hbr]; rfl, rfl⟩

end Creation

section Effect

variable [Add κ] [LT κ] [DecidableLT κ] [OfNat κ 0] [OfNat κ 20000] (P : Platform κ τ Φ)

def Idle (s : Switch κ τ Φ) : Command → Prop
  | .createVlan v =>
    v = 0 ∨ v.toNat > 4096 ∨ (s.vlan v).isSome ∨ s.vlanDb.length ≥ maxVlanIds
  | .addPort v _ _ | .delPort v _ _ => s.vlan v = none
  | .enable v mode =>
    ∀ e, s.vlan v = some e → e.stpEnabled ∧ e.stpMode = some mode ∨ NoMemory P s
  | .disable v _ => ∀ e, s.vlan v = some e → e.stpEnabled = false

inductive Effect (s : Switch κ τ Φ) : Command → Switch κ τ Φ → Prop
  | idle (c : Command) : Idle P s c → Effect s c s
  | createVlan (v : U16) : s.vlan v = none →
      Effect s (.createVlan v) { s with vlanDb := s.vlanDb ++ [newVlan v] }
  | addPort (v : U16) (port : U32) (type : MemberType) (e : VlanStaticEntry) (lists : Vector U8 4) :
      s.vlan v = some e → editLists setPortList e port type = some lists →
      ¬(e.stpMode = some .stp ∧ P.host.tmMalloc s.env) →
      Effect s (.addPort v port type) (s.putVlan { e with portLists := lists })
  | addStpPort (v : U16) (port : U32) (type : MemberType) (e : VlanStaticEntry)
      (lists : Vector U8 4) (i : U16) (br : StpInstance κ) (w : World κ τ Φ) :
      s.vlan v = some e → editLists setPortList e port type = some lists →
      e.stpMode = some .stp → e.stpInstance = some i → s.stp i = some br →
      stpCreatePorts P [port] (s.world br) = some ((), w) →
      Effect s (.addPort v port type) ((s.putVlan { e with portLists := lists }).putStp i w)
  | delPort (v : U16) (port : U32) (type : MemberType) (e : VlanStaticEntry) (lists : Vector U8 4) :
      s.vlan v = some e → editLists resetPortList e port type = some lists →
      Effect s (.delPort v port type) (s.putVlan { e with portLists := lists })
  | enableStp (v : U16) (e : VlanStaticEntry) (s₁ : Switch κ τ Φ) (br : StpInstance κ)
      (w : World κ τ Φ) : s.vlan v = some e → ¬(e.stpEnabled ∧ e.stpMode = some .stp) →
      WithStp P s v s₁ → s₁.stp v = some br →
      startStp P e.egressPorts (s₁.world br) = some ((), w) →
      Effect s (.enable v .stp) ((s₁.putStp v w).putVlan
        { e with stpInstance := some v, stpEnabled := true, stpMode := some .stp })
  | enableRstp (v : U16) (e : VlanStaticEntry) (s₁ : Switch κ τ Φ) (bs bs' : BstpState) (env : τ) :
      s.vlan v = some e → ¬(e.stpEnabled ∧ e.stpMode = some .rstp) → e.stpInstance = none →
      WithRstp P s v s₁ → s₁.rstp v = some bs →
      startRstp P s.portCdb e.egressPorts bs s₁.env = some (bs', env) →
      Effect s (.enable v .rstp) ((s₁.putRstp v bs' env).putVlan
        { e with rstpInstance := some v, stpEnabled := true, stpMode := some .rstp })
  | replaceStp (v : U16) (e : VlanStaticEntry) (s₁ : Switch κ τ Φ) (bs bs' : BstpState) (env : τ)
      (i : U16) (br : StpInstance κ) (w : World κ τ Φ) :
      s.vlan v = some e → ¬(e.stpEnabled ∧ e.stpMode = some .rstp) → e.stpInstance = some i →
      WithRstp P s v s₁ → s₁.rstp v = some bs →
      startRstp P s.portCdb e.egressPorts bs s₁.env = some (bs', env) → s.stp i = some br →
      Stp.stpSetState P.host P.wire false ((s₁.putRstp v bs' env).world br) = some ((), w) →
      Effect s (.enable v .rstp) (((s₁.putRstp v bs' env).putStp i w).putVlan
        { e with rstpInstance := some v, stpEnabled := true, stpMode := some .rstp })
  | disableStp (v : U16) (e : VlanStaticEntry) (i : U16) : s.vlan v = some e →
      e.stpEnabled → e.stpInstance = some i → (s.stp i).isSome →
      Effect s (.disable v .stp) (Switch.putVlan
        { s with stpInstanceHead := remove StpInstance.vlanId s.stpInstanceHead i }
        { e with stpEnabled := false, stpInstance := none })
  | disableRstp (v : U16) (e : VlanStaticEntry) : s.vlan v = some e → e.stpEnabled →
      e.stpInstance = none →
      Effect s (.disable v .rstp) (s.putVlan { e with stpEnabled := false, rstpInstance := none })
  | returnToStp (v : U16) (e : VlanStaticEntry) (i : U16) (br : StpInstance κ) (w : World κ τ Φ) :
      s.vlan v = some e → e.stpEnabled → e.stpInstance = some i → s.stp i = some br →
      startStp P e.egressPorts (s.world br) = some ((), w) →
      Effect s (.disable v .rstp) ((s.putVlan
        { e with stpEnabled := true, stpMode := some .stp, rstpInstance := none }).putStp i w)

/-- The two commands that use a pointer to an STP instance without a check. -/
inductive UsesNull (s : Switch κ τ Φ) : Command → Prop
  | addPort (v : U16) (port : U32) (type : MemberType) (e : VlanStaticEntry) : s.vlan v = some e →
      e.stpMode = some .stp → e.stpInstance = none → UsesNull s (.addPort v port type)
  | disable (v : U16) (e : VlanStaticEntry) : s.vlan v = some e → e.stpEnabled →
      e.stpInstance = none → UsesNull s (.disable v .stp)

def Command.Explains (s : Switch κ τ Φ) (c : Command) (f : Fault) : Prop :=
  f = .nullInstance → UsesNull s c

variable {P} {s : Switch κ τ Φ}

theorem vlanCreateVlan_effect (v : U16) :
    Outcome (vlanCreateVlan v) s (Command.Explains s (.createVlan v)) fun _ s' ↦
      Effect P s (.createVlan v) s' := by
  apply Outcome.get
  apply Outcome.ite
  · intro hv
    refine .pure (.idle _ ?_)
    obtain hv | hv := hv
    · exact .inl hv
    · exact .inr (.inl hv)
  · intro _
    apply Outcome.ite
    · intro hv
      exact .pure (.idle _ (.inr (.inr (.inl hv))))
    · intro hv
      apply Outcome.ite
      · intro hlen
        exact .pure (.idle _ (.inr (.inr (.inr hlen))))
      · intro _
        exact outcome_ok rfl (.createVlan v (Option.not_isSome_iff_eq_none.mp hv))

theorem vlanAddPort_effect (v : U16) (port : U32) (type : MemberType) :
    Outcome (vlanAddPort P v port type) s (Command.Explains s (.addPort v port type)) fun _ s' ↦
      Effect P s (.addPort v port type) s' := by
  apply Outcome.get
  cases he : s.vlan v with
  | none => exact .pure (.idle _ he)
  | some e =>
    apply liftFault_outcome
    · intro h
      cases h
    intro lists hlists
    apply Outcome.bind
    apply Outcome.update
    apply Outcome.andThen (P := fun _ s' ↦ Effect P s (.addPort v port type) s')
    · apply Outcome.get
      apply Outcome.ite
      · intro hstp
        apply onStp_outcome
        · intro hnull _
          exact .addPort v port type e he hstp.1 hnull
        · intro h
          cases h
        · intro h
          cases h
        · intro i br _ w hi hbr hm
          exact .addStpPort v port type e lists i br w he hlists hstp.1 hi hbr hm
      · intro hstp
        exact .pure (.addPort v port type e lists he hlists hstp)
    · intro _ s' hs'
      exact .pure hs'

theorem vlanDelPort_effect (v : U16) (port : U32) (type : MemberType) :
    Outcome (vlanDelPort v port type) s (Command.Explains s (.delPort v port type)) fun _ s' ↦
      Effect P s (.delPort v port type) s' := by
  apply Outcome.get
  cases he : s.vlan v with
  | none => exact .pure (.idle _ he)
  | some e =>
    apply liftFault_outcome
    · intro h
      cases h
    intro lists hlists
    apply Outcome.bind
    apply Outcome.update
    exact .pure (.delPort v port type e lists he hlists)

theorem enableStp_effect {v : U16} {e : VlanStaticEntry} (he : s.vlan v = some e)
    (hnot : ¬(e.stpEnabled ∧ e.stpMode = some .stp)) :
    Outcome (enableStp P e) s (Command.Explains s (.enable v .stp)) fun _ s' ↦
      Effect P s (.enable v .stp) s' := by
  obtain rfl := vlan_vlanId he
  refine stpCreateStpInstance_outcome.andThen ?_
  rintro r s₁ (⟨hr, rfl, hmem⟩ | ⟨hr, h₁⟩)
  · rw [if_pos hr]
    exact .pure (.idle _ fun _ _ ↦ .inr hmem)
  · rw [if_neg (not_lt.mpr hr)]
    apply Outcome.bind
    apply Outcome.update
    apply Outcome.bind
    apply onStp_outcome
    · intro h
      cases h
    · intro h
      cases h
    · intro h
      cases h
    intro i br _ w hi hbr hm
    obtain rfl := Option.some.inj hi
    apply Outcome.bind
    apply Outcome.update
    apply Outcome.pure
    have heff := Effect.enableStp e.vlanId e s₁ br w he hnot h₁ hbr hm
    have hput : ((s₁.putStp e.vlanId w).putVlan { e with stpInstance := some e.vlanId }).putVlan
        { e with stpInstance := some e.vlanId, stpEnabled := true, stpMode := some .stp } =
        (s₁.putStp e.vlanId w).putVlan
          { e with stpInstance := some e.vlanId, stpEnabled := true, stpMode := some .stp } :=
      putVlan_putVlan rfl
    rw [← hput] at heff
    exact heff

omit [OfNat κ 20000] in
theorem stopStp_outcome {inst : Option U16} {E : Fault → Prop} {Q : Unit → Switch κ τ Φ → Prop}
    (hnone : inst = none → Q () s) (hfreed : E .freed) (hstp : E .stp)
    (h : ∀ i br w, inst = some i → s.stp i = some br →
      Stp.stpSetState P.host P.wire false (s.world br) = some ((), w) → Q () (s.putStp i w)) :
    Outcome (stopStp P inst) s E Q := by
  cases inst with
  | none => exact .pure (hnone rfl)
  | some i =>
    rw [stopStp]
    refine onStp_outcome ?_ hfreed hstp ?_
    · intro h
      cases h
    · intro j br _ w hj hbr hm
      obtain rfl := Option.some.inj hj
      exact h i br w rfl hbr hm

theorem enableRstp_effect {v : U16} {e : VlanStaticEntry} (he : s.vlan v = some e)
    (hnot : ¬(e.stpEnabled ∧ e.stpMode = some .rstp)) :
    Outcome (enableRstp P e) s (Command.Explains s (.enable v .rstp)) fun _ s' ↦
      Effect P s (.enable v .rstp) s' := by
  obtain rfl := vlan_vlanId he
  refine rstpCreateInstance_outcome.andThen ?_
  rintro r s₁ (⟨hr, rfl, hmem⟩ | ⟨hr, h₁⟩)
  · rw [if_pos hr]
    exact .pure (.idle _ fun _ _ ↦ .inr hmem)
  · rw [if_neg (not_lt.mpr hr)]
    apply Outcome.bind
    apply Outcome.update
    apply Outcome.get
    apply Outcome.bind
    apply onRstp_outcome
    · intro h
      cases h
    · intro h
      cases h
    intro bs bs' env hbs hm
    have hput : ∀ s₂ : Switch κ τ Φ, (s₂.putVlan { e with rstpInstance := some e.vlanId }).putVlan
        { e with rstpInstance := some e.vlanId, stpEnabled := true, stpMode := some .rstp } =
        s₂.putVlan
          { e with rstpInstance := some e.vlanId, stpEnabled := true, stpMode := some .rstp } :=
      fun _ ↦ putVlan_putVlan rfl
    have hm' : startRstp P s.portCdb e.egressPorts bs s₁.env = some (bs', env) := by
      rw [← h₁.others.2.2.1]
      exact hm
    apply Outcome.bind
    apply stopStp_outcome
    · intro hi
      apply Outcome.bind
      apply Outcome.update
      apply Outcome.pure
      have heff := Effect.enableRstp e.vlanId e s₁ bs bs' env he hnot hi h₁ hbs hm'
      rw [← hput] at heff
      exact heff
    · intro h
      cases h
    · intro h
      cases h
    · intro i br w hi hbr hset
      apply Outcome.bind
      apply Outcome.update
      apply Outcome.pure
      have hbr' : s.stp i = some br := by
        rw [← h₁.stp]
        exact hbr
      have heff := Effect.replaceStp e.vlanId e s₁ bs bs' env i br w he hnot hi h₁ hbs hm' hbr' hset
      rw [← hput] at heff
      exact heff

theorem disableStp_effect {v : U16} {e : VlanStaticEntry} (he : s.vlan v = some e)
    (hen : e.stpEnabled) :
    Outcome (disableStp e) s (Command.Explains s (.disable v .stp)) fun _ s' ↦
      Effect P s (.disable v .stp) s' := by
  apply Outcome.bind
  apply Outcome.update
  refine (stpDeleteStpInstance_outcome ?_ ?_).andThen ?_
  · intro hi _
    exact .disable v e he hen hi
  · intro h
    cases h
  rintro _ _ ⟨i, hi, hbr, rfl⟩
  apply Outcome.bind
  apply Outcome.update
  apply Outcome.pure
  have heff := Effect.disableStp (P := P) v e i he hen hi hbr
  have hput : ∀ s₁ : Switch κ τ Φ, (s₁.putVlan { e with stpEnabled := false }).putVlan
      { e with stpEnabled := false, stpInstance := none } =
      s₁.putVlan { e with stpEnabled := false, stpInstance := none } :=
    fun _ ↦ putVlan_putVlan rfl
  rw [← hput] at heff
  exact heff

theorem disableRstp_effect {v : U16} {e : VlanStaticEntry} (he : s.vlan v = some e)
    (hen : e.stpEnabled) :
    Outcome (disableRstp P e) s (Command.Explains s (.disable v .rstp)) fun _ s' ↦
      Effect P s (.disable v .rstp) s' := by
  unfold disableRstp
  split
  · rename_i hi
    apply Outcome.bind
    apply Outcome.update
    exact .pure (.disableRstp v e he hen hi)
  · rename_i i hi
    apply Outcome.bind
    apply Outcome.update
    apply Outcome.bind
    apply onStp_outcome
    · intro h
      cases h
    · intro h
      cases h
    · intro h
      cases h
    intro j br _ w hj hbr hm
    obtain rfl := Option.some.inj hj
    exact .pure (.returnToStp v e i br w he hen hi hbr hm)

theorem command_effect (c : Command) :
    Outcome (command P c) s (c.Explains s) fun _ s' ↦ Effect P s c s' := by
  cases c with
  | createVlan v => exact vlanCreateVlan_effect v
  | addPort v port type => exact vlanAddPort_effect v port type
  | delPort v port type => exact vlanDelPort_effect v port type
  | enable v mode =>
    apply Outcome.get
    cases he : s.vlan v with
    | none =>
      apply Outcome.pure
      apply Effect.idle
      intro e he'
      cases he.symm.trans he'
    | some e =>
      apply Outcome.ite
      · intro h
        apply Outcome.pure
        apply Effect.idle
        intro e' he'
        obtain rfl := Option.some.inj (he.symm.trans he')
        exact .inl h
      · intro h
        cases mode with
        | stp => exact enableStp_effect he h
        | rstp => exact enableRstp_effect he h
  | disable v mode =>
    apply Outcome.get
    cases he : s.vlan v with
    | none =>
      apply Outcome.pure
      apply Effect.idle
      intro e he'
      cases he.symm.trans he'
    | some e =>
      apply Outcome.ite
      · intro h
        apply Outcome.pure
        apply Effect.idle
        intro e' he'
        obtain rfl := Option.some.inj (he.symm.trans he')
        exact Bool.eq_false_iff.mpr h
      · intro h
        cases mode with
        | stp => exact disableStp_effect he (not_not.mp h)
        | rstp => exact disableRstp_effect he (not_not.mp h)

theorem issue_effect {c : Command} {s' : Switch κ τ Φ} (h : issue P s c = some s') :
    Effect P s c s' := by
  obtain ⟨_, heff⟩ := (command_effect c).of_toOption h
  exact heff

end Effect

end Layer3Switch.Vlan
