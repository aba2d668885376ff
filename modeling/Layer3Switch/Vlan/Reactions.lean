import Layer3Switch.Vlan.Manager
import Layer3Switch.Vlan.Slots

namespace Layer3Switch.Vlan

open Lib Lib.Bytes
open Timers (U32)
open Stp (IfStatus StpInstance World PortT maxPorts)
open Rstp (BstpState)

variable {κ τ Φ : Type}

def Message.rstp (P : Platform κ τ Φ) (p : ℕ) : Message Φ → BstpState → τ → Option (BstpState × τ)
  | .bpdu frame => Rstp.rstpProcessBpdu P.machines p frame
  | .link status => Rstp.rstpEnableOrDisablePort P.host P.machines p status

variable [Add κ] [LT κ] [DecidableLT κ] [OfNat κ 0] [OfNat κ 20000] (P : Platform κ τ Φ)

inductive Reaction (s : Switch κ τ Φ) : Input τ Φ → Switch κ τ Φ → Prop
  | command (c : Command) (s' : Switch κ τ Φ) : Effect P s c s' → Reaction s (.command c) s'
  | ignored (v port : U16) (m : Message Φ) :
      (s.vlanGetThisBridgeStpMode v = some .stp → s.stpGetPortEntry port = none) →
      (∀ status, m = .link status → s.vlanGetThisBridgeStpMode v = none) →
      Reaction s (.message v port m) s
  | stp (v port v' : U16) (m : Message Φ) (p : ℕ) (br : StpInstance κ) (w : World κ τ Φ) :
      s.vlanGetThisBridgeStpMode v = some .stp → s.stpGetPortEntry port = some (v', p) →
      s.stp v' = some br → Stp.handle P.host P.wire (m.event port) (s.world br) = some ((), w) →
      Reaction s (.message v port m) (s.putStp v' w)
  | rstp (v port v' : U16) (m : Message Φ) (p : ℕ) (bs bs' : BstpState) (env : τ) :
      s.vlanGetThisBridgeStpMode v = some .rstp → s.rstpGetPortInfo port = some (v', p) →
      s.rstp v' = some bs → m.rstp P p bs s.env = some (bs', env) →
      Reaction s (.message v port m) (s.putRstp v' bs' env)
  | interface (i : Fin maxPorts) (status : IfStatus) :
      Reaction s (.interface i status) (s.setOperStatus i status)
  | expiry (v : U16) (timer : Expiry) (br : StpInstance κ) (w : World κ τ Φ) :
      s.stp v = some br → Stp.handle P.host P.wire timer.event (s.world br) = some ((), w) →
      Reaction s (.expiry v timer) (s.putStp v w)
  | bstpTick (v : U16) (bs bs' : BstpState) (env : τ) : s.rstp v = some bs →
      Rstp.bstpTick P.host P.machines bs s.env = some (bs', env) →
      Reaction s (.bstpTick v) (s.putRstp v bs' env)
  | host (env : τ) : Reaction s (.host env) { s with env := env }

def NoPort (s : Switch κ τ Φ) (v port : U16) : Prop :=
  s.vlanGetThisBridgeStpMode v = some .stp ∧ s.stpGetPortEntry port = none ∨
    s.vlanGetThisBridgeStpMode v = some .rstp ∧ s.rstpGetPortInfo port = none

variable {P} {s : Switch κ τ Φ}

omit [Add κ] [LT κ] [DecidableLT κ] [OfNat κ 0] [OfNat κ 20000] in
theorem onStp_unless {E : Fault → Prop} {v : U16} {α : Type} {m : Stp.StpM κ τ Φ α}
    {Q : α → Switch κ τ Φ → Prop} (hfreed : E .freed) (hstp : E .stp)
    (h : ∀ br a w, s.stp v = some br → m (s.world br) = some (a, w) → Q a (s.putStp v w)) :
    Outcome (onStp (some v) m) s E Q := by
  refine onStp_outcome nofun hfreed hstp ?_
  intro v' br a w hv
  obtain rfl := Option.some.inj hv
  exact h br a w

theorem processBpdu_reaction (v port : U16) (frame : Φ) :
    Outcome (processBpdu P frame port v) s (· ≠ .nullPort) fun _ s' ↦
      Reaction P s (.message v port (.bpdu frame)) s' := by
  apply Outcome.get
  cases hmode : s.vlanGetThisBridgeStpMode v with
  | none => exact .pure (.ignored v port _ (fun h ↦ nomatch hmode.symm.trans h) nofun)
  | some mode =>
    cases mode with
    | stp =>
      apply Outcome.bind
      apply Outcome.get
      cases hfind : s.stpGetPortEntry port with
      | none => exact .pure (.pure (.ignored v port _ (fun _ ↦ hfind) nofun))
      | some x =>
        refine onStp_unless nofun nofun ?_
        intro br a w hbr hm
        refine .pure (.stp v port x.1 _ x.2 br w hmode hfind hbr ?_)
        exact Option.bind_eq_some_iff.mpr ⟨(a, w), hm, rfl⟩
    | rstp =>
      apply Outcome.bind
      apply Outcome.get
      cases hfind : s.rstpGetPortInfo port with
      | none => exact .pure (.pure (.ignored v port _ (fun h ↦ nomatch hmode.symm.trans h) nofun))
      | some x =>
        apply Outcome.bind
        refine onRstp_outcome nofun nofun ?_
        intro bs bs' env hbs hm
        exact .pure (.pure (.rstp v port x.1 _ x.2 bs bs' env hmode hfind hbs hm))

theorem stpProcessEvents_reaction (v port : U16) (status : IfStatus) :
    Outcome (stpProcessEvents P port status v) s (fun f ↦ f = .nullPort → NoPort s v port)
      fun _ s' ↦ Reaction P s (.message v port (.link status)) s' := by
  apply Outcome.get
  cases hmode : s.vlanGetThisBridgeStpMode v with
  | none => exact .pure (.ignored v port _ (fun h ↦ nomatch hmode.symm.trans h) fun _ _ ↦ hmode)
  | some mode =>
    cases mode with
    | stp =>
      apply Outcome.get
      cases hfind : s.stpGetPortEntry port with
      | none => exact .throw fun _ ↦ .inl ⟨hmode, hfind⟩
      | some x =>
        refine onStp_unless nofun nofun ?_
        intro br a w hbr hm
        exact .stp v port x.1 _ x.2 br w hmode hfind hbr hm
    | rstp =>
      apply Outcome.get
      cases hfind : s.rstpGetPortInfo port with
      | none => exact .throw fun _ ↦ .inr ⟨hmode, hfind⟩
      | some x =>
        refine onRstp_outcome nofun nofun ?_
        intro bs bs' env hbs hm
        exact .rstp v port x.1 _ x.2 bs bs' env hmode hfind hbs hm

theorem react_reaction (i : Input τ Φ) :
    Outcome (react P i) s (fun _ ↦ True) fun _ s' ↦ Reaction P s i s' := by
  cases i with
  | command c =>
    apply Outcome.bind
    refine ⟨fun _ _ ↦ trivial, ?_⟩
    intro r s' h
    exact .pure (.command c s' ((command_effect c).2 r s' h))
  | message v port m =>
    cases m with
    | bpdu frame =>
      apply Outcome.bind
      refine ⟨fun _ _ ↦ trivial, ?_⟩
      intro r s' h
      exact .pure ((processBpdu_reaction v port frame).2 r s' h)
    | link status => exact ⟨fun _ _ ↦ trivial, (stpProcessEvents_reaction v port status).2⟩
  | interface i status => exact .update (.interface i status)
  | expiry v timer =>
    refine onStp_unless trivial trivial ?_
    intro br _ w hbr hm
    exact .expiry v timer br w hbr hm
  | bstpTick v =>
    refine onRstp_outcome trivial trivial ?_
    intro bs bs' env hbs hm
    exact .bstpTick v bs bs' env hbs hm
  | host env => exact .update (.host env)

theorem feed_reaction {i : Input τ Φ} {s' : Switch κ τ Φ} (h : feed P s i = some s') :
    Reaction P s i s' := by
  obtain ⟨_, hreact⟩ := (react_reaction i).of_toOption h
  exact hreact

section Sound

omit [Add κ] [LT κ] [DecidableLT κ] [OfNat κ 0] [OfNat κ 20000]

theorem Message.event_internal (port : U16) (m : Message Φ) :
    (m.event port : Stp.Event τ Φ).Internal := by
  cases m <;> trivial

theorem Expiry.event_internal (timer : Expiry) : (timer.event : Stp.Event τ Φ).Internal := by
  cases timer <;> trivial

theorem slot_putStp {v v' : U16} {br : StpInstance κ} {w : World κ τ Φ} (hbr : s.stp v = some br)
    (hw : w.br.vlanId = v) :
    (s.putStp v w).slot v' = if v' = v then { s.slot v with stp := some w.br } else s.slot v' := by
  split
  · subst_vars
    exact slot_eq rfl (stp_putStp (by rw [hbr]; rfl) rfl) rfl
  · rename_i hne
    exact slot_eq rfl (stp_putStp_ne hw hne) rfl

theorem slot_putRstp {v v' : U16} {bs bs' : BstpState} {env : τ} (hbs : s.rstp v = some bs)
    (hv : bs'.vlanId = v) :
    (s.putRstp v bs' env).slot v' =
      if v' = v then { s.slot v with rstp := some bs' } else s.slot v' := by
  split
  · subst_vars
    exact slot_eq rfl rfl (rstp_putRstp env (by rw [hbs]; rfl) rfl)
  · rename_i hne
    exact slot_eq rfl rfl (rstp_putRstp_ne env hv hne)

theorem Sound.putStp {v : U16} {br : StpInstance κ} {w : World κ τ Φ} (hs : Sound s)
    (hbr : s.stp v = some br) (hw : w.br.vlanId = v) : Sound (s.putStp v w) := by
  refine ⟨nodup_putStp hw hs.nodup, hs.rstpNodup, ?_⟩
  intro v'
  rw [slot_putStp hbr hw]
  split
  · rename_i hv
    subst hv
    refine ⟨?_, ?_⟩
    · intro e he
      have hptr := (hs.slots v').stpInstance e he
      have hstp : (s.slot v').stp = some br := hbr
      rw [hstp] at hptr
      exact hptr
    · intro hnone
      have hstp := ((hs.slots v').unowned hnone).1
      cases hbr.symm.trans hstp
  · exact hs.slots v'

theorem Sound.putRstp {v : U16} {bs bs' : BstpState} {env : τ} (hs : Sound s)
    (hbs : s.rstp v = some bs) (hv : bs'.vlanId = v) : Sound (s.putRstp v bs' env) := by
  refine ⟨hs.nodup, nodup_putRstp env hv hs.rstpNodup, ?_⟩
  intro v'
  rw [slot_putRstp hbs hv]
  split
  · rename_i hv'
    subst hv'
    refine ⟨(hs.slots v').stpInstance, ?_⟩
    intro hnone
    have hrstp := ((hs.slots v').unowned hnone).2
    cases hbs.symm.trans hrstp
  · exact hs.slots v'

end Sound

omit [OfNat κ 20000] in
theorem handle_vlanId {ev : Stp.Event τ Φ} {v : U16} {br : StpInstance κ} {w : World κ τ Φ}
    (hev : ev.Internal) (hbr : s.stp v = some br)
    (hm : Stp.handle P.host P.wire ev (s.world br) = some ((), w)) :
    w.br.vlanId = v ∧ w.br.fixed = br.fixed := by
  have hfixed := Stp.handle_fixed hev () w hm
  exact ⟨(congrArg Prod.fst hfixed).trans (stp_vlanId hbr), hfixed⟩

omit [Add κ] [LT κ] [DecidableLT κ] [OfNat κ 0] [OfNat κ 20000] in
theorem Message.rstp_ifps {m : Message Φ} {p : ℕ} {bs bs' : BstpState} {env env' : τ}
    (h : m.rstp P p bs env = some (bs', env')) :
    m ≠ .link .down ∧ bs'.ifps = bs.ifps ∨ m = .link .down ∧ bs'.ifps = bs.ifps.eraseIdx p := by
  cases m with
  | bpdu frame =>
    obtain ⟨rfl, -⟩ := Prod.mk.inj (Option.some.inj h)
    exact .inl ⟨nofun, Rstp.ifps_setStates _⟩
  | link status =>
    cases status with
    | up => exact .inl ⟨nofun, (Rstp.bstpEnable_spec h).2⟩
    | down => exact .inr ⟨rfl, (Rstp.bstpDisable_spec h).2⟩

omit [Add κ] [LT κ] [DecidableLT κ] [OfNat κ 0] [OfNat κ 20000] in
theorem Message.rstp_vlanId {m : Message Φ} {p : ℕ} {bs bs' : BstpState} {env env' : τ}
    (h : m.rstp P p bs env = some (bs', env')) : bs'.vlanId = bs.vlanId := by
  cases m with
  | bpdu frame =>
    obtain ⟨rfl, -⟩ := Prod.mk.inj (Option.some.inj h)
    rfl
  | link status =>
    cases status with
    | up => exact (Rstp.bstpEnable_spec h).1.vlanId
    | down => exact (Rstp.bstpDisable_spec h).1.vlanId

theorem Sound.reaction {i : Input τ Φ} {s' : Switch κ τ Φ} (hs : Sound s)
    (h : Reaction P s i s') : Sound s' := by
  cases h with
  | command c s' heff => exact hs.effect heff
  | ignored => exact hs
  | stp v port v' m p br w hmode hfind hbr hm =>
    exact hs.putStp hbr (handle_vlanId (m.event_internal port) hbr hm).1
  | rstp v port v' m p bs bs' env hmode hfind hbs hm =>
    exact hs.putRstp hbs ((Message.rstp_vlanId hm).trans (rstp_vlanId hbs))
  | interface i status => exact ⟨hs.nodup, hs.rstpNodup, hs.slots⟩
  | expiry v timer br w hbr hm =>
    exact hs.putStp hbr (handle_vlanId timer.event_internal hbr hm).1
  | bstpTick v bs bs' env hbs hm =>
    exact hs.putRstp hbs ((Rstp.bstpTick_spec hm).1.vlanId.trans (rstp_vlanId hbs))
  | host env => exact ⟨hs.nodup, hs.rstpNodup, hs.slots⟩

theorem Sound.run {C : Switch κ τ Φ → Input τ Φ → Prop} {is : List (Input τ Φ)}
    {s' : Switch κ τ Φ} (h : Run (feed P) C s is s') (hs : Sound s) : Sound s' :=
  h.invariant (fun _ _ _ hs _ hstep ↦ hs.reaction (feed_reaction hstep)) hs

end Layer3Switch.Vlan
