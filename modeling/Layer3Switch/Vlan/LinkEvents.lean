import Layer3Switch.Vlan.Mirror
import Layer3Switch.Vlan.Reactions

namespace Layer3Switch.Vlan

open Lib Lib.Bytes
open Timers (U32)
open Stp (IfStatus StpInstance World PortT maxPorts)
open Rstp (BstpState)

variable {κ τ Φ : Type}

def vlanCreateDefaultVlan : List Command :=
  .createVlan 1 :: portNumbers.map (.addPort 1 · .tagged) ++ [.enable 1 .stp]

def memberPorts : List U16 := portNumbers.map (BitVec.setWidth 16)

def Input.InScope : Input τ Φ → Prop
  | .command (.enable v _) | .command (.disable v _) => v = 1
  | .command _ => False
  | .message v port (.link _) => v = 1 ∧ port ∈ memberPorts
  | _ => True

def PortsOnce (x : Slot κ) : Prop :=
  ∀ e, x.vlan = some e →
    (e.InStpMode → ∃ br, x.stp = some br ∧ ∀ port ∈ portNumbers, br.numbers.count port = 1) ∧
    (e.stpMode = some .rstp →
      ∃ bs, x.rstp = some bs ∧ ∀ port ∈ memberPorts, bs.ifps.count port = 1)

def KeepsPorts (x : Slot κ) : Input τ Φ → Prop
  | .command (.enable _ .rstp) =>
    x.rstp = none ∨ ∃ e, x.vlan = some e ∧ e.stpEnabled = true ∧ e.stpMode = some .rstp
  | .command (.disable _ .rstp) => ¬∃ e, x.vlan = some e ∧ e.InStpMode
  | .message _ _ (.link .down) => ¬∃ e, x.vlan = some e ∧ e.stpMode = some .rstp
  | _ => True

/-- The default VLAN has all ports, its STP instance mirrors them, and its RSTP
instance has them once. -/
structure Ready (x : Slot κ) : Prop where
  entry : ∃ e, x.vlan = some e ∧ e.egressPorts = portNumbers ∧ e.stpMode.isSome
  mirrored : Mirrored x
  rstp : ∀ bs, x.rstp = some bs → bs.ifps.Perm memberPorts
  running : ∀ e, x.vlan = some e → e.stpMode = some .rstp → x.rstp ≠ none

theorem memberPorts_nodup : memberPorts.Nodup := by decide

theorem mem_portNumbers_of_member {port : U16} (h : port ∈ memberPorts) :
    port.setWidth 32 ∈ portNumbers := by
  obtain ⟨n, hn, rfl⟩ := List.mem_map.mp h
  have hlt := mem_portNumbers.mp hn
  unfold maxPorts at hlt
  have heq : (n.setWidth 16).setWidth 32 = n := by bv_omega
  rw [heq]
  exact hn

section Slots

variable {x : Slot κ} {e : VlanStaticEntry}

theorem Ready.portsOnce (h : Ready x) : PortsOnce x := by
  intro e he
  obtain ⟨e', he', hegress, -⟩ := h.entry
  obtain rfl := Option.some.inj (he.symm.trans he')
  constructor
  · intro hmode
    obtain ⟨br, hbr, hcount⟩ := h.mirrored.mirrors e he hmode
    refine ⟨br, hbr, ?_⟩
    intro port hport
    rw [hcount, hegress, if_pos hport]
  · intro hmode
    obtain ⟨bs, hbs⟩ := Option.ne_none_iff_exists'.mp (h.running e he hmode)
    refine ⟨bs, hbs, ?_⟩
    intro port hport
    rw [(h.rstp bs hbs).count_eq, memberPorts_nodup.count, if_pos hport]

theorem Mirrored.of_numbers {br br' : StpInstance κ} (h : Mirrored x) (hbr : x.stp = some br)
    (hnum : br'.numbers = br.numbers) : Mirrored { x with stp := some br' } where
  mirrors := by
    intro e he hmode
    obtain ⟨br₁, hbr₁, hcount⟩ := h.mirrors e he hmode
    obtain rfl := Option.some.inj (hbr.symm.trans hbr₁)
    exact ⟨br', rfl, hnum ▸ hcount⟩
  off := by
    intro e he hoff
    cases hbr.symm.trans (h.off e he hoff)
  other := by
    intro e br₁ he hmode hbr₁
    obtain rfl := Option.some.inj hbr₁
    rw [hnum]
    exact h.other e br he hmode hbr

theorem Ready.of_numbers {br br' : StpInstance κ} (h : Ready x) (hbr : x.stp = some br)
    (hnum : br'.numbers = br.numbers) : Ready { x with stp := some br' } :=
  ⟨h.entry, h.mirrored.of_numbers hbr hnum, h.rstp, h.running⟩

theorem Ready.of_ifps {bs bs' : BstpState} (h : Ready x) (hbs : x.rstp = some bs)
    (hifps : bs'.ifps = bs.ifps) : Ready { x with rstp := some bs' } where
  entry := h.entry
  mirrored := ⟨h.mirrored.mirrors, h.mirrored.off, h.mirrored.other⟩
  rstp := by
    intro bs₁ hbs₁
    obtain rfl := Option.some.inj hbs₁
    rw [hifps]
    exact h.rstp bs hbs
  running _ _ _ := Option.some_ne_none _

end Slots

variable [Add κ] [LT κ] [DecidableLT κ] [OfNat κ 0] [OfNat κ 20000] {P : Platform κ τ Φ}

omit [Add κ] [LT κ] [DecidableLT κ] [OfNat κ 0] [OfNat κ 20000] in
theorem RstpOr.ifps_start {v : U16} {cdb : Vector PortT maxPorts} {ports : List U32}
    {bs bs' : BstpState} {env env' : τ} (h : RstpOr P none v bs)
    (hmem : ∀ env, P.host.tmMalloc env = true)
    (hm : startRstp P cdb ports bs env = some (bs', env')) :
    bs'.ifps = ports.map (BitVec.setWidth 16) := by
  rw [(startRstp_spec hm).2.2 hmem]
  obtain hsome | ⟨-, env₀, rfl⟩ := h
  · cases hsome
  · rfl

theorem Ready.turn {c : Command} {x x' : Slot κ} (hmem : ∀ env, P.host.tmMalloc env = true)
    (hc : (Input.command c : Input τ Φ).InScope) (ht : Turn P c x x') (hok : x.Ok c.vlanId)
    (h : Ready x) (hkeep : KeepsPorts x (.command c : Input τ Φ)) : Ready x' := by
  have htagged : c.Tagged := by
    cases c with
    | enable | disable => trivial
    | createVlan | addPort | delPort => exact absurd hc id
  have hspoil : ¬SpoilsMirror x c := by
    cases c with
    | createVlan | addPort | delPort => exact absurd hc id
    | enable => exact id
    | disable v mode =>
      cases mode with
      | stp => exact id
      | rstp =>
        rintro ⟨e, he, hin, -⟩
        exact hkeep ⟨e, he, hin⟩
  have hmirrored := h.mirrored.turn hmem htagged ht hok hspoil
  obtain ⟨e₀, he₀, hegress, hmode₀⟩ := h.entry
  cases ht with
  | createVlan | addPort | addStpPort | delPort => exact absurd hc id
  | enableStp v e br w w' bs hnot hor hm =>
    obtain rfl := Option.some.inj he₀
    refine ⟨⟨_, rfl, hegress, rfl⟩, hmirrored, h.rstp, ?_⟩
    intro e' he' hmode
    cases he'
    cases hmode
  | enableRstp v e bs cdb bs₁ bs₂ env env' hnot hor hm =>
    obtain rfl := Option.some.inj he₀
    refine ⟨⟨_, rfl, hegress, rfl⟩, hmirrored, ?_, fun _ _ _ ↦ Option.some_ne_none _⟩
    intro bs' hbs'
    obtain rfl := Option.some.inj hbs'
    obtain hnone | ⟨e', he', hin⟩ := hkeep
    · obtain rfl : bs = none := hnone
      rw [hor.ifps_start hmem hm, hegress]
      exact .refl _
    · obtain rfl := Option.some.inj he'
      exact absurd hin hnot
  | replaceStp v e w w' bs cdb bs₁ bs₂ env env' hnot hor hm hset =>
    obtain rfl := Option.some.inj he₀
    refine ⟨⟨_, rfl, hegress, rfl⟩, hmirrored, ?_, fun _ _ _ ↦ Option.some_ne_none _⟩
    intro bs' hbs'
    obtain rfl := Option.some.inj hbs'
    obtain hnone | ⟨e', he', hin⟩ := hkeep
    · obtain rfl : bs = none := hnone
      rw [hor.ifps_start hmem hm, hegress]
      exact .refl _
    · obtain rfl := Option.some.inj he'
      exact absurd hin hnot
  | disableStp v e br bs hen =>
    obtain rfl := Option.some.inj he₀
    refine ⟨⟨_, rfl, hegress, hmode₀⟩, hmirrored, h.rstp, ?_⟩
    intro e' he' hmode
    cases he'
    exact h.running e rfl hmode
  | disableRstp v e bs hen =>
    obtain rfl := Option.some.inj he₀
    refine ⟨⟨_, rfl, hegress, hmode₀⟩, hmirrored, h.rstp, ?_⟩
    intro e' he' hmode
    cases he'
    exact h.running e rfl hmode
  | returnToStp v e w w' bs hen hm =>
    obtain rfl := Option.some.inj he₀
    refine ⟨⟨_, rfl, hegress, rfl⟩, hmirrored, h.rstp, ?_⟩
    intro e' he' hmode
    cases he'
    cases hmode

theorem count_append_ne_one {α : Type} [DecidableEq α] {l m : List α} {a : α}
    (hl : l.count a = 1) (hm : m.count a = 1) : (l ++ m).count a ≠ 1 := by
  rw [List.count_append, hl, hm]
  decide

theorem count_egress {e : VlanStaticEntry} (h : e.egressPorts = portNumbers) :
    e.egressPorts.count 1 = 1 ∧ (e.egressPorts.map (BitVec.setWidth 16)).count 1 = 1 := by
  rw [h]
  decide

omit [Add κ] [LT κ] [DecidableLT κ] [OfNat κ 0] [OfNat κ 20000] in
theorem Ready.ifps_again {x : Slot κ} {e : VlanStaticEntry} {v : U16} {cdb : Vector PortT maxPorts}
    {bs bs' : BstpState} {env env' : τ} (h : Ready x) (hmem : ∀ env, P.host.tmMalloc env = true)
    (hegress : e.egressPorts = portNumbers) (hor : RstpOr P x.rstp v bs) (hsome : x.rstp ≠ none)
    (hm : startRstp P cdb e.egressPorts bs env = some (bs', env')) : bs'.ifps.count 1 ≠ 1 := by
  obtain hbs | ⟨hnone, -⟩ := hor
  · have hfirst : bs.ifps.count 1 = 1 := by
      rw [(h.rstp bs hbs).count_eq]
      decide
    rw [(startRstp_spec hm).2.2 hmem]
    exact count_append_ne_one hfirst (count_egress hegress).2
  · exact absurd hnone hsome

theorem Ready.not_portsOnce {c : Command} {x x' : Slot κ}
    (hmem : ∀ env, P.host.tmMalloc env = true) (hc : (Input.command c : Input τ Φ).InScope)
    (ht : Turn P c x x') (h : Ready x) (hkeep : ¬KeepsPorts x (.command c : Input τ Φ)) :
    ¬PortsOnce x' := by
  obtain ⟨e₀, he₀, hegress, -⟩ := h.entry
  intro hports
  cases ht with
  | createVlan | addPort | addStpPort | delPort => exact hc
  | enableStp | disableStp => exact hkeep trivial
  | enableRstp v e bs cdb bs₁ bs₂ env env' hnot hor hm =>
    obtain rfl := Option.some.inj he₀
    obtain ⟨bs', hbs', hcount⟩ := (hports _ rfl).2 rfl
    obtain rfl := Option.some.inj hbs'
    refine h.ifps_again hmem hegress hor (fun hnone ↦ hkeep (.inl hnone)) hm ?_
    exact hcount 1 (by decide)
  | replaceStp v e w w' bs cdb bs₁ bs₂ env env' hnot hor hm hset =>
    obtain rfl := Option.some.inj he₀
    obtain ⟨bs', hbs', hcount⟩ := (hports _ rfl).2 rfl
    obtain rfl := Option.some.inj hbs'
    refine h.ifps_again hmem hegress hor (fun hnone ↦ hkeep (.inl hnone)) hm ?_
    exact hcount 1 (by decide)
  | disableRstp v e bs hen =>
    apply hkeep
    rintro ⟨e', he', hin⟩
    obtain ⟨br, hbr, -⟩ := h.mirrored.mirrors e' he' hin
    cases hbr
  | returnToStp v e w w' bs hen hm =>
    apply hkeep
    rintro ⟨e', he', hin⟩
    obtain rfl := Option.some.inj (he'.symm.trans he₀)
    obtain rfl := Option.some.inj he₀
    obtain ⟨br, hbr, hcount⟩ := (hports _ rfl).1 ⟨rfl, rfl⟩
    obtain rfl := Option.some.inj hbr
    have hagain := hcount 1 (by decide)
    rw [(startStp_spec hm).2.2 hmem] at hagain
    have hfirst : w.br.numbers.count 1 = 1 := by
      obtain ⟨br, hbr, hfirst⟩ := (h.portsOnce e he').1 hin
      obtain rfl := Option.some.inj hbr
      exact hfirst 1 (by decide)
    exact count_append_ne_one hfirst (count_egress hegress).1 hagain

/-- Only the default VLAN has a spanning tree, and it is ready for events. -/
structure DefaultOnly (s : Switch κ τ Φ) : Prop where
  sound : Sound s
  alone : ∀ v, v ≠ 1 → s.stp v = none ∧ s.rstp v = none
  ready : Ready (s.slot 1)

section Switches

variable {s s' : Switch κ τ Φ} {i : Input τ Φ}

omit [Add κ] [LT κ] [DecidableLT κ] [OfNat κ 0] [OfNat κ 20000]

theorem DefaultOnly.stp_eq_one {v : U16} {br : StpInstance κ} (h : DefaultOnly s)
    (hbr : s.stp v = some br) : v = 1 := by
  by_contra hne
  cases (h.alone v hne).1.symm.trans hbr

theorem DefaultOnly.rstp_eq_one {v : U16} {bs : BstpState} (h : DefaultOnly s)
    (hbs : s.rstp v = some bs) : v = 1 := by
  by_contra hne
  cases (h.alone v hne).2.symm.trans hbs

theorem DefaultOnly.putStp {v : U16} {br : StpInstance κ} {w : World κ τ Φ} (h : DefaultOnly s)
    (hbr : s.stp v = some br) (hv : w.br.vlanId = v) (hfixed : w.br.fixed = br.fixed) :
    DefaultOnly (s.putStp v w) := by
  obtain rfl := h.stp_eq_one hbr
  refine ⟨h.sound.putStp hbr hv, ?_, ?_⟩
  · intro v' hne
    exact ⟨(stp_putStp_ne hv hne).trans (h.alone v' hne).1, (h.alone v' hne).2⟩
  · rw [slot_putStp hbr hv, if_pos rfl]
    refine h.ready.of_numbers hbr ?_
    rw [Stp.numbers_eq_fixed, hfixed, ← Stp.numbers_eq_fixed]

theorem DefaultOnly.putRstp {v : U16} {bs bs' : BstpState} {env : τ} (h : DefaultOnly s)
    (hbs : s.rstp v = some bs) (hv : bs'.vlanId = bs.vlanId) (hifps : bs'.ifps = bs.ifps) :
    DefaultOnly (s.putRstp v bs' env) := by
  obtain rfl := h.rstp_eq_one hbs
  have hv' : bs'.vlanId = 1 := hv.trans (rstp_vlanId hbs)
  refine ⟨h.sound.putRstp hbs hv', ?_, ?_⟩
  · intro v' hne
    exact ⟨(h.alone v' hne).1, (rstp_putRstp_ne env hv' hne).trans (h.alone v' hne).2⟩
  · rw [slot_putRstp hbs hv', if_pos rfl]
    exact h.ready.of_ifps hbs hifps

theorem DefaultOnly.mode (h : DefaultOnly s) : ∃ e mode, s.vlan 1 = some e ∧
    e.stpMode = some mode ∧ s.vlanGetThisBridgeStpMode 1 = some mode := by
  obtain ⟨e, he, -, hmode⟩ := h.ready.entry
  obtain ⟨mode, hmode⟩ := Option.isSome_iff_exists.mp hmode
  have he' : s.vlan 1 = some e := he
  refine ⟨e, mode, he, hmode, ?_⟩
  rw [Switch.vlanGetThisBridgeStpMode, he', Option.bind_some, hmode]

end Switches

theorem DefaultOnly.reaction {s s' : Switch κ τ Φ} {i : Input τ Φ}
    (hmem : ∀ env, P.host.tmMalloc env = true) (h : DefaultOnly s) (hscope : i.InScope)
    (hr : Reaction P s i s') (hkeep : KeepsPorts (s.slot 1) i) : DefaultOnly s' := by
  have hsound : Sound s' := h.sound.reaction hr
  cases hr with
  | command c s' heff =>
    have hc : c.vlanId = 1 := by
      cases c with
      | createVlan | addPort | delPort => exact absurd hscope id
      | enable v mode | disable v mode => exact hscope
    obtain ⟨rfl, -⟩ | ht := heff.turned h.sound
    · exact h
    refine ⟨hsound, ?_, ?_⟩
    · intro v hne
      have hslot := ht.others v (hc ▸ hne)
      exact ⟨(congrArg Slot.stp hslot).trans (h.alone v hne).1,
        (congrArg Slot.rstp hslot).trans (h.alone v hne).2⟩
    · have hturn := ht.turn
      have hok := h.sound.slots c.vlanId
      rw [hc] at hturn hok
      exact h.ready.turn hmem hscope hturn (hc ▸ hok) hkeep
  | ignored => exact h
  | stp v port v' m p br w hmode hfind hbr hm =>
    obtain ⟨hv, hfixed⟩ := handle_vlanId (m.event_internal port) hbr hm
    exact h.putStp hbr hv hfixed
  | rstp v port v' m p bs bs' env hmode hfind hbs hm =>
    obtain ⟨-, hifps⟩ | ⟨rfl, -⟩ := Message.rstp_ifps hm
    · exact h.putRstp hbs (Message.rstp_vlanId hm) hifps
    · obtain ⟨rfl, -⟩ := hscope
      obtain ⟨e, mode, he, he', hmode'⟩ := h.mode
      rw [hmode] at hmode'
      exact absurd ⟨e, he, he'.trans hmode'.symm⟩ hkeep
  | interface i status => exact ⟨hsound, h.alone, h.ready⟩
  | expiry v timer br w hbr hm =>
    obtain ⟨hv, hfixed⟩ := handle_vlanId timer.event_internal hbr hm
    exact h.putStp hbr hv hfixed
  | bstpTick v bs bs' env hbs hm =>
    obtain ⟨halike, hifps⟩ := Rstp.bstpTick_spec hm
    exact h.putRstp hbs halike.vlanId hifps
  | host env => exact ⟨hsound, h.alone, h.ready⟩

section Search

variable {s : Switch κ τ Φ} {port : U16}

omit [Add κ] [LT κ] [DecidableLT κ] [OfNat κ 0] [OfNat κ 20000]

theorem stpGetPortEntry_isSome {br : StpInstance κ} (h : port.setWidth 32 ∈ br.numbers) :
    (Stp.stpGetPortEntry br port).isSome := by
  obtain ⟨q, hq, hno⟩ := List.mem_map.mp h
  rw [Stp.stpGetPortEntry, List.findIdx?_isSome, List.any_eq_true]
  exact ⟨q, hq, beq_iff_eq.mpr hno⟩

theorem rstpGetPortInfo_isSome {bs : BstpState} (h : port ∈ bs.ifps) :
    (Rstp.rstpGetPortInfo bs port).isSome := by
  obtain ⟨q, hq, hno⟩ := List.mem_map.mp h
  rw [Rstp.rstpGetPortInfo, List.findIdx?_isSome, List.any_eq_true]
  exact ⟨q, hq, beq_iff_eq.mpr hno⟩

theorem DefaultOnly.noPort_iff (h : DefaultOnly s) (hport : port ∈ memberPorts) :
    NoPort s 1 port ↔ ∃ e, s.vlan 1 = some e ∧ e.stpMode = some .stp ∧ e.stpEnabled = false := by
  obtain ⟨e, mode, he, hmode, hget⟩ := h.mode
  constructor
  · rintro (⟨hstp, hnone⟩ | ⟨hrstp, hnone⟩)
    · obtain rfl := Option.some.inj (hget.symm.trans hstp)
      refine ⟨e, he, hmode, Bool.eq_false_iff.mpr ?_⟩
      intro hen
      obtain ⟨br, hbr, hcount⟩ := (h.ready.portsOnce e he).1 ⟨hen, hmode⟩
      have hmem := List.count_pos_iff.mp
        ((hcount _ (mem_portNumbers_of_member hport)).symm ▸ one_pos)
      exact owner_ne_none hbr (stpGetPortEntry_isSome hmem) hnone
    · obtain rfl := Option.some.inj (hget.symm.trans hrstp)
      obtain ⟨bs, hbs, hcount⟩ := (h.ready.portsOnce e he).2 hmode
      have hmem := List.count_pos_iff.mp ((hcount port hport).symm ▸ one_pos)
      exact absurd hnone (owner_ne_none hbs (rstpGetPortInfo_isSome hmem))
  · rintro ⟨e', he', hstp, hoff⟩
    obtain rfl := Option.some.inj (he.symm.trans he')
    refine .inl ⟨hget.trans (hmode.symm.trans hstp), ?_⟩
    have hall : ∀ v, lookup StpInstance.vlanId s.stpInstanceHead v = none := by
      intro v
      by_cases hv : v = 1
      · exact hv ▸ h.ready.mirrored.off e he hoff
      · exact (h.alone v hv).1
    rw [Switch.stpGetPortEntry, eq_nil_of_lookup hall]
    rfl

end Search

theorem stpProcessEvents_nullPort_iff {s : Switch κ τ Φ} {v port : U16} {status : IfStatus} :
    stpProcessEvents P port status v s = .error .nullPort ↔ NoPort s v port := by
  constructor
  · intro hnull
    exact (stpProcessEvents_reaction v port status).1 _ hnull rfl
  · rintro (⟨hmode, hnone⟩ | ⟨hmode, hnone⟩)
    · have hrun : stpProcessEvents P port status v s = stpEnableOrDisablePort P port status s := by
        simp only [stpProcessEvents, bind, StateT.bind, get, getThe, MonadStateOf.get, StateT.get,
          pure, Except.pure, Except.bind, hmode]
      rw [hrun]
      simp only [stpEnableOrDisablePort, bind, StateT.bind, get, getThe, MonadStateOf.get,
        StateT.get, pure, Except.pure, Except.bind, hnone]
      rfl
    · have hrun : stpProcessEvents P port status v s = rstpEnableOrDisablePort P port status s := by
        simp only [stpProcessEvents, bind, StateT.bind, get, getThe, MonadStateOf.get, StateT.get,
          pure, Except.pure, Except.bind, hmode]
      rw [hrun]
      simp only [rstpEnableOrDisablePort, bind, StateT.bind, get, getThe, MonadStateOf.get,
        StateT.get, pure, Except.pure, Except.bind, hnone]
      rfl

theorem count_eraseIdx_find {bs bs' : BstpState} {port : U16} {p : ℕ}
    (hone : bs.ifps.count port = 1)
    (hp : Rstp.rstpGetPortInfo bs port = some p) (hifps : bs'.ifps = bs.ifps.eraseIdx p) :
    bs'.ifps.count port = 0 := by
  obtain ⟨hlt, hat, -⟩ := List.findIdx?_eq_some_iff_getElem.mp hp
  have hlt' : p < bs.ifps.length := by
    rw [BstpState.ifps, List.length_map]
    exact hlt
  have hport : bs.ifps[p] = port := by
    rw [← beq_iff_eq.mp hat]
    exact List.getElem_map _
  have hcount := (List.getElem_cons_eraseIdx_perm hlt').count_eq port
  rw [hport, List.count_cons_self, hone, ← hifps] at hcount
  omega

omit [Add κ] [LT κ] [DecidableLT κ] [OfNat κ 0] [OfNat κ 20000] in
theorem Idle.keepsPorts {s : Switch κ τ Φ} {c : Command} (hmem : ∀ env, P.host.tmMalloc env = true)
    (h : DefaultOnly s) (hc : c.vlanId = 1) (hidle : Idle P s c) :
    KeepsPorts (s.slot 1) (.command c : Input τ Φ) := by
  obtain ⟨e, mode, he, -, -⟩ := h.mode
  cases c with
  | createVlan | addPort | delPort => trivial
  | enable v mode =>
    obtain rfl : v = 1 := hc
    cases mode with
    | stp => trivial
    | rstp =>
      obtain hin | hno := hidle e he
      · exact .inr ⟨e, he, hin⟩
      · exact absurd (hmem s.env) (Bool.eq_false_iff.mp hno)
  | disable v mode =>
    obtain rfl : v = 1 := hc
    cases mode with
    | stp => trivial
    | rstp =>
      rintro ⟨e', he', hin⟩
      exact absurd hin.1 (Bool.eq_false_iff.mp (hidle e' he'))

omit [Add κ] [LT κ] [DecidableLT κ] [OfNat κ 0] [OfNat κ 20000] in
theorem rstp_link_down {s : Switch κ τ Φ} {v port : U16} {m : Message Φ}
    (hscope : (Input.message v port m : Input τ Φ).InScope)
    (hkeep : ¬KeepsPorts (s.slot 1) (.message v port m : Input τ Φ)) :
    v = 1 ∧ port ∈ memberPorts ∧ m = .link .down ∧ s.vlanGetThisBridgeStpMode 1 = some .rstp := by
  cases m with
  | bpdu frame => exact absurd trivial hkeep
  | link status =>
    cases status with
    | up => exact absurd trivial hkeep
    | down =>
      obtain ⟨e, he, hmode⟩ := not_not.mp hkeep
      refine ⟨hscope.1, hscope.2, rfl, ?_⟩
      have he' : s.vlan 1 = some e := he
      rw [Switch.vlanGetThisBridgeStpMode, he', Option.bind_some, hmode]

theorem DefaultOnly.not_portsOnce {s s' : Switch κ τ Φ} {i : Input τ Φ}
    (hmem : ∀ env, P.host.tmMalloc env = true) (h : DefaultOnly s) (hscope : i.InScope)
    (hr : Reaction P s i s') (hkeep : ¬KeepsPorts (s.slot 1) i) : ¬PortsOnce (s'.slot 1) := by
  cases hr with
  | command c s' heff =>
    have hc : c.vlanId = 1 := by
      cases c with
      | createVlan | addPort | delPort => exact absurd hscope id
      | enable v mode | disable v mode => exact hscope
    obtain ⟨rfl, hidle⟩ | ht := heff.turned h.sound
    · exact absurd (hidle.keepsPorts hmem h hc) hkeep
    · have hturn := ht.turn
      rw [hc] at hturn
      exact h.ready.not_portsOnce hmem hscope hturn hkeep
  | ignored v port m hnone hlink =>
    obtain ⟨rfl, -, rfl, hmode⟩ := rstp_link_down hscope hkeep
    cases hmode.symm.trans (hlink .down rfl)
  | stp v port v' m p br w hmode hfind hbr hm =>
    obtain ⟨rfl, -, rfl, hmode'⟩ := rstp_link_down hscope hkeep
    cases hmode.symm.trans hmode'
  | rstp v port v' m p bs bs' env hmode hfind hbs hm =>
    obtain ⟨rfl, hport, rfl, -⟩ := rstp_link_down hscope hkeep
    obtain rfl := h.rstp_eq_one hbs
    obtain ⟨bs₁, hbs₁, hp⟩ := owner_lookup h.sound.rstpNodup hfind
    obtain rfl := Option.some.inj (hbs.symm.trans hbs₁)
    obtain ⟨hne, -⟩ | ⟨-, hifps⟩ := Message.rstp_ifps hm
    · exact absurd rfl hne
    obtain ⟨e, mode, he, hstp, hget⟩ := h.mode
    obtain rfl := Option.some.inj (hmode.symm.trans hget)
    obtain ⟨bs₂, hbs₂, hcount⟩ := (h.ready.portsOnce e he).2 hstp
    obtain rfl := Option.some.inj (hbs.symm.trans hbs₂)
    have hzero := count_eraseIdx_find (hcount port hport) hp hifps
    intro hports
    rw [slot_putRstp hbs ((Message.rstp_vlanId hm).trans (rstp_vlanId hbs)), if_pos rfl] at hports
    obtain ⟨bs₃, hbs₃, hcount'⟩ := (hports e he).2 hstp
    obtain rfl := Option.some.inj hbs₃
    have hone := hcount' port hport
    omega
  | interface | expiry | bstpTick | host => exact absurd trivial hkeep

theorem addPorts_slot {ports : List U32} {s s' : Switch κ τ Φ} {e : VlanStaticEntry}
    (hrun : Run (issue P) (fun _ _ ↦ True) s (ports.map (.addPort 1 · .tagged)) s') (hs : Sound s)
    (hslot : s.slot 1 = ⟨some e, none, none⟩) (hmode : e.stpMode = none) :
    Sound s' ∧ (∀ v, v ≠ 1 → s'.slot v = s.slot v) ∧
      ∃ lists, ports.foldlM (setPortList · 0 ·) e.portLists = some lists ∧
        s'.slot 1 = ⟨some { e with portLists := lists }, none, none⟩ := by
  induction ports generalizing s e with
  | nil =>
    cases hrun
    exact ⟨hs, fun _ _ ↦ rfl, e.portLists, rfl, hslot⟩
  | cons n ports ih =>
    cases hrun with
    | @cons _ s₁ _ _ _ _ hstep hrest =>
      have heff := issue_effect hstep
      obtain ⟨rfl, hidle⟩ | ht := heff.turned hs
      · cases hidle.symm.trans (congrArg Slot.vlan hslot)
      have hturn : Turn P (.addPort 1 n .tagged) (s.slot 1) (s₁.slot 1) := ht.turn
      rw [hslot] at hturn
      generalize hx : s₁.slot 1 = x at hturn
      cases hturn with
      | addPort _ _ _ _ lists _ _ hlists hno =>
        obtain ⟨hs', hothers, lists', hfold, hslot'⟩ := ih hrest (hs.effect heff) hx hmode
        refine ⟨hs', ?_, lists', ?_, hslot'⟩
        · intro v hv
          rw [hothers v hv]
          exact ht.others v hv
        · have hset : setPortList e.portLists 0 n = some lists := hlists
          rw [List.foldlM_cons, hset]
          exact hfold

theorem default_portLists : portNumbers.foldlM (setPortList · 0 ·) (newVlan 1).portLists =
    some #v[255, 15, 0, 5] := by
  decide +kernel

theorem default_egressPorts {e : VlanStaticEntry} (h : e.portLists = #v[255, 15, 0, 5]) :
    e.egressPorts = portNumbers := by
  have hall : portNumbers.all (isPortSetPortList #v[255, 15, 0, 5] 0) = true := by decide +kernel
  rw [← h] at hall
  exact List.filter_eq_self.mpr fun n hn ↦ List.all_eq_true.mp hall n hn

theorem defaultOnly_of_setup (hmem : ∀ env, P.host.tmMalloc env = true) {env : τ}
    {portCdb : Vector PortT maxPorts} {s : Switch κ τ Φ}
    (hrun : Run (issue P) (fun _ _ ↦ True) (boot env portCdb) vlanCreateDefaultVlan s) :
    DefaultOnly s := by
  have hrun' : Run (issue P) (fun _ _ ↦ True) (boot env portCdb)
      ([.createVlan 1] ++ (portNumbers.map (.addPort 1 · .tagged) ++ [.enable 1 .stp])) s := hrun
  obtain ⟨s₁, hcreate, hrest⟩ := hrun'.split
  obtain ⟨s₂, hadd, henable⟩ := hrest.split
  have hs₀ : Sound (boot env portCdb : Switch κ τ Φ) := sound_boot env portCdb
  obtain ⟨hs₁, hothers₁, hslot₁⟩ : Sound s₁ ∧ (∀ v, v ≠ 1 → s₁.slot v = ⟨none, none, none⟩) ∧
      s₁.slot 1 = ⟨some (newVlan 1), none, none⟩ := by
    cases hcreate with
    | cons _ hstep hnil =>
      cases hnil
      have heff := issue_effect hstep
      obtain ⟨rfl, hidle⟩ | ht := heff.turned hs₀
      · obtain hzero | hbig | hsome | hfull := hidle
        · exact absurd hzero (by decide)
        · exact absurd hbig (by decide)
        · cases hsome
        · exact absurd hfull (Nat.not_le.mpr (by decide : 0 < maxVlanIds))
      · refine ⟨hs₀.effect heff, ht.others, ?_⟩
        have hturn : Turn P (.createVlan 1) ⟨none, none, none⟩ (s₁.slot 1) := ht.turn
        generalize s₁.slot 1 = x at hturn
        cases hturn
        rfl
  obtain ⟨hs₂, hothers₂, lists, hfold, hslot₂⟩ := addPorts_slot hadd hs₁ hslot₁ rfl
  obtain rfl : #v[255, 15, 0, 5] = lists :=
    Option.some.inj (default_portLists.symm.trans hfold)
  cases henable with
  | cons _ hstep hnil =>
    cases hnil
    have heff := issue_effect hstep
    obtain ⟨rfl, hidle⟩ | ht := heff.turned hs₂
    · obtain ⟨hen, -⟩ | hno := hidle _ (congrArg Slot.vlan hslot₂)
      · cases hen
      · exact absurd (hmem _) (Bool.eq_false_iff.mp hno)
    have hturn : Turn P (.enable 1 .stp) (s₂.slot 1) (s.slot 1) := ht.turn
    have hok := hs₂.slots 1
    rw [hslot₂] at hturn hok
    have htagged : (Command.enable 1 .stp).Tagged := trivial
    have hmirrored := Mirrored.turn hmem htagged hturn hok (.of_none rfl rfl nofun) id
    refine ⟨hs₂.effect heff, ?_, ?_⟩
    · intro v hv
      have hslot := (ht.others v hv).trans ((hothers₂ v hv).trans (hothers₁ v hv))
      exact ⟨congrArg Slot.stp hslot, congrArg Slot.rstp hslot⟩
    · generalize s.slot 1 = x at hturn hmirrored
      cases hturn with
      | enableStp _ _ _ w w' =>
        refine ⟨⟨_, rfl, default_egressPorts rfl, rfl⟩, hmirrored, nofun, ?_⟩
        intro e he hmode
        cases he
        cases hmode

/-- After the set-up of the default VLAN, and whatever happens as long as RSTP is
enabled once only, not disabled in STP mode, and takes no interface event that
disables a port, every member has one entry in the list of the protocol that runs.
The next input keeps this just when it meets the condition. An event of a member
finds no entry just when STP is disabled in STP mode. -/
theorem link_events_find_port (P : Platform κ τ Φ) (hmem : ∀ env, P.host.tmMalloc env = true)
    (env : τ) (portCdb : Vector PortT maxPorts) {s₀ s : Switch κ τ Φ} {is : List (Input τ Φ)}
    (hsetup : Run (issue P) (fun _ _ ↦ True) (boot env portCdb) vlanCreateDefaultVlan s₀)
    (hrun : Run (feed P) (fun s i ↦ i.InScope ∧ KeepsPorts (s.slot 1) i) s₀ is s) :
    PortsOnce (s.slot 1) ∧
    (∀ i s', i.InScope → feed P s i = some s' →
      (PortsOnce (s'.slot 1) ↔ KeepsPorts (s.slot 1) i)) ∧
    ∀ port ∈ memberPorts, ∀ status,
      (stpProcessEvents P port status 1 s = .error .nullPort ↔
        ∃ e, s.vlan 1 = some e ∧ e.stpMode = some .stp ∧ e.stpEnabled = false) := by
  have h : DefaultOnly s := by
    refine hrun.invariant ?_ (defaultOnly_of_setup hmem hsetup)
    intro s i s' h hc hstep
    exact h.reaction hmem hc.1 (feed_reaction hstep) hc.2
  refine ⟨h.ready.portsOnce, ?_, ?_⟩
  · intro i s' hscope hstep
    have hr := feed_reaction hstep
    constructor
    · intro hports
      by_contra hkeep
      exact h.not_portsOnce hmem hscope hr hkeep hports
    · intro hkeep
      exact (h.reaction hmem hscope hr hkeep).ready.portsOnce
  · intro port hport status
    rw [stpProcessEvents_nullPort_iff]
    exact h.noPort_iff hport

section Runs

instance (i : Input τ Φ) : Decidable i.InScope :=
  match i with
  | .command (.enable v _) | .command (.disable v _) => inferInstanceAs (Decidable (v = 1))
  | .command (.createVlan _) | .command (.addPort _ _ _) | .command (.delPort _ _ _) =>
    inferInstanceAs (Decidable False)
  | .message v port (.link _) => inferInstanceAs (Decidable (v = 1 ∧ port ∈ memberPorts))
  | .message _ _ (.bpdu _) | .interface _ _ | .expiry _ _ | .bstpTick _ | .host _ =>
    inferInstanceAs (Decidable True)

instance (x : Slot κ) (i : Input τ Φ) : Decidable (KeepsPorts x i) :=
  match i with
  | .command (.enable _ .rstp) => inferInstanceAs (Decidable (x.rstp = none ∨
      ∃ e, x.vlan = some e ∧ e.stpEnabled = true ∧ e.stpMode = some .rstp))
  | .command (.disable _ .rstp) =>
    inferInstanceAs (Decidable (¬∃ e, x.vlan = some e ∧ e.InStpMode))
  | .message _ _ (.link .down) =>
    inferInstanceAs (Decidable (¬∃ e, x.vlan = some e ∧ e.stpMode = some .rstp))
  | .command (.enable _ .stp) | .command (.disable _ .stp) | .command (.createVlan _)
  | .command (.addPort _ _ _) | .command (.delPort _ _ _) | .message _ _ (.link .up)
  | .message _ _ (.bpdu _) | .interface _ _ | .expiry _ _ | .bstpTick _ | .host _ =>
    inferInstanceAs (Decidable True)

def afterSetup (is : List (Input Timers.TimerMgr (List U8))) :
    Option (Switch Int32 Timers.TimerMgr (List U8)) :=
  exec (feed plainPlatform) plainBoot (vlanCreateDefaultVlan.map .command ++ is)

def nullPort : Except Fault (Unit × Switch Int32 Timers.TimerMgr (List U8)) → Bool
  | .error f => decide (f = .nullPort)
  | .ok _ => false

theorem eq_error_of_nullPort {r : Except Fault (Unit × Switch Int32 Timers.TimerMgr (List U8))}
    (h : nullPort r = true) : r = .error .nullPort := by
  cases r with
  | error f => rw [decide_eq_true_eq.mp h]
  | ok x => cases h

/-- With STP disabled any event of a port meets a null pointer. With RSTP, the
event that disables a port takes it from the list, and the one that enables it
again meets a null pointer. Disabling RSTP in STP mode, and enabling it a second
time, leaves the ports twice in a list. -/
theorem link_event_meets_null :
    (∃ s, afterSetup [.command (.disable 1 .stp)] = some s ∧
      stpProcessEvents plainPlatform 1 .down 1 s = .error .nullPort) ∧
    (∃ s, afterSetup [.command (.enable 1 .rstp), .message 1 1 (.link .down)] = some s ∧
      stpProcessEvents plainPlatform 1 .up 1 s = .error .nullPort) ∧
    (∃ s br, afterSetup [.command (.disable 1 .rstp)] = some s ∧ s.stp 1 = some br ∧
      br.numbers.count 1 = 2) ∧
    ∃ s bs, afterSetup [.command (.enable 1 .rstp), .command (.enable 1 .stp),
        .command (.enable 1 .rstp)] = some s ∧ s.rstp 1 = some bs ∧ bs.ifps.count 1 = 2 := by
  refine ⟨?_, ?_, ?_, ?_⟩
  · have hcheck : ((afterSetup [.command (.disable 1 .stp)]).any fun s ↦
        nullPort (stpProcessEvents plainPlatform 1 .down 1 s)) = true := by
      decide +kernel
    simp only [Option.any_eq_true] at hcheck
    obtain ⟨s, hs, hnull⟩ := hcheck
    exact ⟨s, hs, eq_error_of_nullPort hnull⟩
  · have hcheck : ((afterSetup [.command (.enable 1 .rstp), .message 1 1 (.link .down)]).any fun s ↦
        nullPort (stpProcessEvents plainPlatform 1 .up 1 s)) = true := by
      decide +kernel
    simp only [Option.any_eq_true] at hcheck
    obtain ⟨s, hs, hnull⟩ := hcheck
    exact ⟨s, hs, eq_error_of_nullPort hnull⟩
  · have hcheck : ((afterSetup [.command (.disable 1 .rstp)]).any fun s ↦
        (s.stp 1).any fun br ↦ decide (br.numbers.count 1 = 2)) = true := by
      decide +kernel
    simp only [Option.any_eq_true, decide_eq_true_eq] at hcheck
    obtain ⟨s, hs, br, hbr, htwo⟩ := hcheck
    exact ⟨s, br, hs, hbr, htwo⟩
  · have hcheck : ((afterSetup [.command (.enable 1 .rstp), .command (.enable 1 .stp),
        .command (.enable 1 .rstp)]).any fun s ↦
          (s.rstp 1).any fun bs ↦ decide (bs.ifps.count 1 = 2)) = true := by
      decide +kernel
    simp only [Option.any_eq_true, decide_eq_true_eq] at hcheck
    obtain ⟨s, hs, bs, hbs, htwo⟩ := hcheck
    exact ⟨s, bs, hs, hbs, htwo⟩

def downUp : List (Input Timers.TimerMgr (List U8)) :=
  [.interface 0 .up, .message 1 1 (.link .up), .message 1 1 (.link .down),
    .message 1 1 (.link .up)]

/-- A port that is disabled and enabled again in STP mode is still there. -/
theorem link_events_find_port_down_up :
    ∃ s₀ s, Run (issue plainPlatform) (fun _ _ ↦ True) plainBoot vlanCreateDefaultVlan s₀ ∧
      Run (feed plainPlatform) (fun s i ↦ i.InScope ∧ KeepsPorts (s.slot 1) i) s₀ downUp s ∧
      PortsOnce (s.slot 1) ∧ ∃ br, s.stp 1 = some br ∧ br.numbers.count 1 = 1 := by
  have hcheck : ((exec (issue plainPlatform) plainBoot vlanCreateDefaultVlan).any fun s₀ ↦
      (exec (fun s i ↦ if i.InScope ∧ KeepsPorts (s.slot 1) i then feed plainPlatform s i else none)
        s₀ downUp).any fun s ↦ (s.stp 1).any fun br ↦ decide (br.numbers.count 1 = 1)) = true := by
    decide +kernel
  simp only [Option.any_eq_true, decide_eq_true_eq] at hcheck
  obtain ⟨s₀, hexec₀, s, hexec, hbr⟩ := hcheck
  have hsetup := run_of_exec hexec₀
  have hrun := (run_of_exec hexec).guarded
  have hports := (link_events_find_port plainPlatform (fun _ ↦ rfl) _ _ hsetup hrun).1
  exact ⟨s₀, s, hsetup, hrun, hports, hbr⟩

end Runs

end Layer3Switch.Vlan
