import Layer3Switch.Bridge.Fdb
import Layer3Switch.Stp.StpInfo
import Layer3Switch.Vlan.Reactions

namespace Layer3Switch.Vlan

open Lib Lib.Bytes
open Timers (U32)
open Stp (StpInstance StpPortEntry World PortT MacAddress maxPorts ifStpInfo InfoKept)
open Rstp (BstpState)
open Bridge (Fdb)

variable {κ τ Φ : Type}

def learnsIn (state : Stp.PortState) : Bool := state == .learning || state == .forwarding

def rstpLearnsIn (state : Rstp.IfState) : Bool := state == .learning || state == .forwarding

section Gate

variable (s : Switch κ τ Φ)

def Switch.entries : List (StpPortEntry κ) := s.stpInstanceHead.flatMap StpInstance.portList

def stpIsMacLearningAllowed (port : U32) : Option Bool := do
  let t ← s.portCdb[(port - 1).toNat]?
  match t.pstpInfo with
  | none => some true
  | some a => (lookup StpPortEntry.self s.entries a).map fun q ↦ learnsIn q.state

variable (e : Endian) (fdbSalt : U32)

def macAddressUpdate (fdb : Fdb) (macAddr : MacAddress) (portNo : U32) (secs : U32) :
    Option (ℤ × Fdb) :=
  (stpIsMacLearningAllowed s portNo).map fun allowed ↦
    Bridge.macAddressUpdate e fdbSalt allowed fdb macAddr portNo.toInt secs

/-- What `process_pkt` does with the source address of a frame. -/
def processSource (fdb : Fdb) (smac : MacAddress) (port : U16) (secs : U32) : Option Fdb := do
  let t ← s.portCdb[(port.setWidth 32 - 1).toNat]?
  if t.ifOperStatus = .down then some fdb
  else if Stp.firstOctet smac = 0 then
    (macAddressUpdate s e fdbSalt fdb smac (port.setWidth 32) secs).map Prod.snd
  else some fdb

end Gate

def MayLearn (s : Switch κ τ Φ) (v port : U16) : Prop :=
  ∀ e, s.vlan v = some e → e.stpEnabled = true →
    (e.stpMode = some .stp → ∀ br, s.stp v = some br → ∀ q ∈ br.portList,
      q.portNo = port.setWidth 32 → learnsIn q.state = true) ∧
    (e.stpMode = some .rstp → ∀ bs, s.rstp v = some bs → ∀ q ∈ bs.bplist,
      q.ifp = port → rstpLearnsIn q.state = true)

def Gated (s : Switch κ τ Φ) (v port : U16) : Prop :=
  ∀ e, s.vlan v = some e → e.stpEnabled = true →
    (e.stpMode = some .stp → ∀ br, s.stp v = some br → ∀ q ∈ br.portList,
      q.portNo = port.setWidth 32 → ifStpInfo s.portCdb (port.setWidth 32) ≠ none) ∧
    (e.stpMode = some .rstp → ∀ bs, s.rstp v = some bs → ∀ q ∈ bs.bplist,
      q.ifp = port → rstpLearnsIn q.state = true)

def InfoLive (s : Switch κ τ Φ) : Prop :=
  ∀ port a, ifStpInfo s.portCdb port = some a →
    ∃ v br q, s.stp v = some br ∧ q ∈ br.portList ∧ q.self = a

def BlocksApart (s : Switch κ τ Φ) : Prop := (s.entries.map StpPortEntry.self).Nodup

def NoStpInfo (portCdb : Vector PortT maxPorts) : Prop :=
  ∀ i : Fin maxPorts, (portCdb.get i).pstpInfo = none

def TearsDown (x : Slot κ) : Command → Prop
  | .disable _ .stp => ∃ e, x.vlan = some e ∧ e.stpEnabled = true
  | .enable _ .rstp => x.stp.isSome = true ∧
      ∃ e, x.vlan = some e ∧ ¬(e.stpEnabled = true ∧ e.stpMode = some .rstp)
  | _ => False

def CreatesNew (x : Slot κ) : Command → Prop
  | .addPort _ port _ => ∀ e, x.vlan = some e → e.stpMode = some .stp →
      ∀ br, x.stp = some br → port ∉ br.numbers
  | .disable _ .rstp => ∀ e, x.vlan = some e → e.stpMode = some .stp →
      ∀ br, x.stp = some br → ∀ port ∈ e.egressPorts, port ∉ br.numbers
  | _ => True

def KeepsInfo (v : U16) (s : Switch κ τ Φ) : Input τ Φ → Prop
  | .command c => c.vlanId = v ∧ CreatesNew (s.slot v) c ∧
      (TearsDown (s.slot v) c → NoStpInfo s.portCdb)
  | _ => True

section Slots

/-- STP entries are there in STP mode only, where it is enabled, and one for a port. -/
structure Tidy (x : Slot κ) : Prop where
  on : ∀ e br, x.vlan = some e → x.stp = some br → e.stpMode = some .stp → e.stpEnabled = true
  empty : ∀ e br, x.vlan = some e → x.stp = some br → e.stpMode ≠ some .stp → br.portList = []
  numbers : ∀ br, x.stp = some br → br.numbers.Nodup

theorem Tidy.of_none {x : Slot κ} (h : x.stp = none) : Tidy x := by
  refine ⟨?_, ?_, ?_⟩
  · intro e br _ hbr
    cases h.symm.trans hbr
  · intro e br _ hbr
    cases h.symm.trans hbr
  · intro br hbr
    cases h.symm.trans hbr

variable [Add κ] [LT κ] [DecidableLT κ] [OfNat κ 0] [OfNat κ 20000] {P : Platform κ τ Φ}
variable {w w' : World κ τ Φ} {ports : List U32}

omit [Add κ] [LT κ] [DecidableLT κ] [OfNat κ 0] in
theorem stpCreatePorts_numbers (h : stpCreatePorts P ports w = some ((), w')) :
    ∃ ns, ns.Sublist ports ∧ w'.br.numbers = w.br.numbers ++ ns := by
  induction ports generalizing w with
  | nil =>
    obtain ⟨-, rfl⟩ := Prod.mk.inj (Option.some.inj h)
    exact ⟨[], .slnil, (List.append_nil _).symm⟩
  | cons n ports ih =>
    obtain ⟨ns, hsub, hnum⟩ := ih (w := (Stp.stpCreatePort P.host P.thisBridge n w).1) h
    by_cases hmem : P.host.tmMalloc w.env = true
    · refine ⟨n :: ns, hsub.cons_cons n, ?_⟩
      rw [hnum, Stp.stpCreatePort_numbers hmem, List.append_assoc]
      rfl
    · have hsame : (Stp.stpCreatePort P.host P.thisBridge n w).1 = w := by
        rw [Stp.stpCreatePort, Bool.eq_false_iff.mpr hmem]
        rfl
      rw [hsame] at hnum
      exact ⟨ns, hsub.cons n, hnum⟩

theorem startStp_numbers (h : startStp P ports w = some ((), w')) :
    ∃ ns, ns.Sublist ports ∧ w'.br.numbers = w.br.numbers ++ ns := by
  obtain ⟨⟨_, w₁⟩, h₁, h₂⟩ := Option.bind_eq_some_iff.mp h
  obtain ⟨-, hfixed⟩ := Stp.stpSetState_true_ends () w' h₂
  rw [Stp.numbers_eq_fixed w'.br, hfixed, ← Stp.numbers_eq_fixed]
  exact stpCreatePorts_numbers h₁

theorem nodup_append_sublist {l m ns : List U32} (hl : l.Nodup) (hm : m.Nodup)
    (hdisj : ∀ n ∈ m, n ∉ l) (hsub : ns.Sublist m) : (l ++ ns).Nodup := by
  rw [List.nodup_append]
  refine ⟨hl, hm.sublist hsub, ?_⟩
  intro a ha b hb
  rintro rfl
  exact hdisj a (hsub.subset hb) ha

theorem Tidy.turn {c : Command} {x x' : Slot κ} (ht : Turn P c x x') (hok : x.Ok c.vlanId)
    (h : Tidy x) (hnew : CreatesNew x c) : Tidy x' := by
  cases ht with
  | createVlan v br bs =>
    exact .of_none (hok.unowned rfl).1
  | addPort v port type e lists br bs hlists hmem =>
    refine ⟨?_, ?_, h.numbers⟩
    · intro e' br' he' hbr'
      obtain rfl := Option.some.inj he'
      exact h.on e br' rfl hbr'
    · intro e' br' he' hbr'
      obtain rfl := Option.some.inj he'
      exact h.empty e br' rfl hbr'
  | addStpPort v port type e lists w w' bs hlists hmode hm =>
    refine ⟨?_, ?_, ?_⟩
    · intro e' br' he' _ _
      obtain rfl := Option.some.inj he'
      exact h.on e w.br rfl rfl hmode
    · intro e' br' he' _ hne
      obtain rfl := Option.some.inj he'
      exact absurd hmode hne
    · intro br' hbr'
      obtain rfl := Option.some.inj hbr'
      obtain ⟨ns, hsub, hnum⟩ := stpCreatePorts_numbers hm
      rw [hnum]
      refine nodup_append_sublist (h.numbers w.br rfl) (List.nodup_singleton port) ?_ hsub
      intro n hn
      rw [List.mem_singleton.mp hn]
      exact hnew e rfl hmode w.br rfl
  | delPort v port type e lists br bs hlists =>
    refine ⟨?_, ?_, h.numbers⟩
    · intro e' br' he' hbr'
      obtain rfl := Option.some.inj he'
      exact h.on e br' rfl hbr'
    · intro e' br' he' hbr'
      obtain rfl := Option.some.inj he'
      exact h.empty e br' rfl hbr'
  | enableStp v e br w w' bs hnot hor hm =>
    have hempty : w.br.portList = [] := by
      obtain hbr | ⟨-, env, hbr⟩ := hor
      · by_cases hmode : e.stpMode = some .stp
        · exact absurd ⟨h.on e w.br rfl hbr hmode, hmode⟩ hnot
        · exact h.empty e w.br rfl hbr hmode
      · rw [hbr]
        rfl
    refine ⟨?_, ?_, ?_⟩
    · intro e' br' he' _ _
      obtain rfl := Option.some.inj he'
      rfl
    · intro e' br' he' _ hne
      obtain rfl := Option.some.inj he'
      exact absurd rfl hne
    · intro br' hbr'
      obtain rfl := Option.some.inj hbr'
      obtain ⟨ns, hsub, hnum⟩ := startStp_numbers hm
      rw [hnum, StpInstance.numbers, hempty]
      exact e.egressPorts_nodup.sublist hsub
  | enableRstp v e bs cdb bs₁ bs₂ env env' hnot hor hm => exact .of_none rfl
  | replaceStp v e w w' bs cdb bs₁ bs₂ env env' hnot hor hm hset =>
    have hports := (Stp.stpSetState_false_ends () w' hset).2.1
    refine ⟨?_, ?_, ?_⟩
    · intro e' br' he' _ hmode
      obtain rfl := Option.some.inj he'
      cases hmode
    · intro e' br' _ hbr' _
      obtain rfl := Option.some.inj hbr'
      exact hports
    · intro br' hbr'
      obtain rfl := Option.some.inj hbr'
      rw [StpInstance.numbers, hports]
      exact List.nodup_nil
  | disableStp v e br bs hen => exact .of_none rfl
  | disableRstp v e bs hen => exact .of_none rfl
  | returnToStp v e w w' bs hen hm =>
    refine ⟨?_, ?_, ?_⟩
    · intro e' br' he' _ _
      obtain rfl := Option.some.inj he'
      rfl
    · intro e' br' he' _ hne
      obtain rfl := Option.some.inj he'
      exact absurd rfl hne
    · intro br' hbr'
      obtain rfl := Option.some.inj hbr'
      obtain ⟨ns, hsub, hnum⟩ := startStp_numbers hm
      rw [hnum]
      refine nodup_append_sublist (h.numbers w.br rfl) e.egressPorts_nodup ?_ hsub
      by_cases hmode : e.stpMode = some .stp
      · exact hnew e rfl hmode w.br rfl
      · intro n _ hn
        rw [StpInstance.numbers, h.empty e w.br rfl rfl hmode] at hn
        cases hn

end Slots

theorem NoStpInfo.null {portCdb : Vector PortT maxPorts} (h : NoStpInfo portCdb) (port : U32) :
    ifStpInfo portCdb port = none := by
  by_cases hlt : (port - 1).toNat < maxPorts
  · rw [ifStpInfo, Vector.getElem?_eq_getElem hlt]
    exact h ⟨_, hlt⟩
  · rw [ifStpInfo, Vector.getElem?_eq_none (not_lt.mp hlt)]
    rfl

theorem noStpInfo_of_null {portCdb : Vector PortT maxPorts}
    (h : ∀ port, ifStpInfo portCdb port = none) : NoStpInfo portCdb := by
  intro i
  have hi := i.isLt
  have hindex : (BitVec.ofNat 32 (i + 1) - 1).toNat = i := by
    unfold maxPorts at hi
    bv_omega
  have hnull := h (BitVec.ofNat 32 (i + 1))
  rw [ifStpInfo, hindex, Vector.getElem?_eq_getElem i.isLt] at hnull
  exact hnull

structure Linked (v : U16) (s : Switch κ τ Φ) : Prop where
  sound : Sound s
  only : ∀ v', v' ≠ v → s.vlan v' = none
  tidy : Tidy (s.slot v)
  info : ∀ br, s.stp v = some br → InfoKept br s.portCdb
  null : s.stp v = none → ∀ port, ifStpInfo s.portCdb port = none

section Switches

variable {s s' : Switch κ τ Φ} {v : U16}

theorem linked_boot {env : τ} {portCdb : Vector PortT maxPorts} (h : NoStpInfo portCdb) :
    Linked v (boot env portCdb : Switch κ τ Φ) where
  sound := sound_boot env portCdb
  only _ _ := rfl
  tidy := .of_none rfl
  info _ hbr := by cases hbr
  null _ := h.null

theorem Linked.vlan_eq (h : Linked v s) {v' : U16} {br : StpInstance κ}
    (hbr : s.stp v' = some br) : v' = v := by
  by_contra hne
  have hnone := ((h.sound.slots v').unowned (h.only v' hne)).1
  cases hbr.symm.trans hnone

theorem Linked.infoKept (h : Linked v s) {v' : U16} {br : StpInstance κ}
    (hbr : s.stp v' = some br) : InfoKept br s.portCdb := by
  obtain rfl := h.vlan_eq hbr
  exact h.info br hbr

theorem Linked.live (h : Linked v s) : InfoLive s := by
  intro port a ha
  cases hbr : s.stp v with
  | none => cases (h.null hbr port).symm.trans ha
  | some br =>
    obtain ⟨q, hq, hself, -⟩ := (h.info br hbr).live port a ha
    exact ⟨v, br, q, hbr, hq, hself⟩

theorem mem_entries {br : StpInstance κ} {q : StpPortEntry κ} (hbr : s.stp v = some br)
    (hq : q ∈ br.portList) : q ∈ s.entries :=
  List.mem_flatMap.mpr ⟨br, lookup_mem hbr, hq⟩

theorem Linked.allowed_iff {port : U16} {t : PortT} (h : Linked v s) (hblocks : BlocksApart s)
    (ht : s.portCdb[(port.setWidth 32 - 1).toNat]? = some t) :
    (stpIsMacLearningAllowed s (port.setWidth 32) = some true → MayLearn s v port) ↔
      Gated s v port := by
  have hopenNull : t.pstpInfo = none →
      stpIsMacLearningAllowed s (port.setWidth 32) = some true := by
    intro hnull
    rw [stpIsMacLearningAllowed, ht, Option.bind_eq_bind, Option.bind_some, hnull]
  have hopenSome : ∀ a, t.pstpInfo = some a → stpIsMacLearningAllowed s (port.setWidth 32) =
      (lookup StpPortEntry.self s.entries a).map fun q ↦ learnsIn q.state := by
    intro a ha
    rw [stpIsMacLearningAllowed, ht, Option.bind_eq_bind, Option.bind_some, ha]
  have hinfo : ifStpInfo s.portCdb (port.setWidth 32) = t.pstpInfo := by
    rw [ifStpInfo, ht]
    rfl
  constructor
  · intro hmay e he hen
    refine ⟨?_, ?_⟩
    · intro hmode br hbr q hq hno hnull
      -- an entry that was never pointed to was never enabled
      rw [hinfo] at hnull
      have hlearns := (hmay (hopenNull hnull) e he hen).1 hmode br hbr q hq hno
      have hlive : q.state ≠ .disabled := by
        intro hdis
        rw [hdis] at hlearns
        cases hlearns
      have hmarked := (h.info br hbr).marked q hq hlive
      rw [hno, hinfo] at hmarked
      exact hmarked hnull
    · intro hmode bs hbs q hq hno
      have hnull : t.pstpInfo = none := by
        rw [← hinfo]
        cases hbr : s.stp v with
        | none => exact h.null hbr _
        | some br =>
          have hempty := h.tidy.empty e br he hbr (by simp [hmode])
          by_contra hsome
          obtain ⟨a, ha⟩ := Option.ne_none_iff_exists'.mp hsome
          obtain ⟨q', hq', -⟩ := (h.info br hbr).live _ a ha
          rw [hempty] at hq'
          cases hq'
      exact (hmay (hopenNull hnull) e he hen).2 hmode bs hbs q hq hno
  · intro hgated hopen e he hen
    refine ⟨?_, (hgated e he hen).2⟩
    intro hmode br hbr q hq hno
    have hsome := (hgated e he hen).1 hmode br hbr q hq hno
    obtain ⟨a, ha⟩ := Option.ne_none_iff_exists'.mp hsome
    obtain ⟨q', hq', rfl, hno'⟩ := (h.info br hbr).live _ a ha
    obtain rfl : q' = q :=
      List.inj_on_of_nodup_map (h.tidy.numbers br hbr) hq' hq (hno'.trans hno.symm)
    rw [hinfo] at ha
    have hgate := hopenSome _ ha
    rw [lookup_of_mem hblocks (mem_entries hbr hq')] at hgate
    exact Option.some.inj (hgate.symm.trans hopen)

theorem processSource_allowed {e : Endian} {fdbSalt secs : U32} {fdb fdb' : Fdb}
    {smac : MacAddress} {port : U16} (h : processSource s e fdbSalt fdb smac port secs = some fdb')
    (hne : fdb' ≠ fdb) : stpIsMacLearningAllowed s (port.setWidth 32) = some true := by
  obtain ⟨t, -, h⟩ := Option.bind_eq_some_iff.mp h
  split at h
  · exact absurd (Option.some.inj h).symm hne
  · split at h
    · obtain ⟨x, hx, rfl⟩ := Option.map_eq_some_iff.mp h
      obtain ⟨allowed, hallowed, rfl⟩ := Option.map_eq_some_iff.mp hx
      cases allowed with
      | true => exact hallowed
      | false => exact absurd rfl hne
    · exact absurd (Option.some.inj h).symm hne

end Switches

section Steps

variable [Add κ] [LT κ] [DecidableLT κ] [OfNat κ 0] [OfNat κ 20000] {P : Platform κ τ Φ}
variable {s s' : Switch κ τ Φ} {v : U16} {w w' : World κ τ Φ} {ports : List U32}

omit [Add κ] [LT κ] [DecidableLT κ] [OfNat κ 0] in
theorem stpCreatePorts_infoKept (h : stpCreatePorts P ports w = some ((), w'))
    (hw : InfoKept w.br w.portCdb) : InfoKept w'.br w'.portCdb := by
  induction ports generalizing w with
  | nil =>
    obtain ⟨-, rfl⟩ := Prod.mk.inj (Option.some.inj h)
    exact hw
  | cons n ports ih =>
    have hcdb : (Stp.stpCreatePort P.host P.thisBridge n w).1.portCdb = w.portCdb := by
      unfold Stp.stpCreatePort
      split <;> rfl
    refine ih (w := (Stp.stpCreatePort P.host P.thisBridge n w).1) h ?_
    rw [hcdb]
    exact Stp.stpCreatePort_infoKept _ n hw

theorem startStp_infoKept (h : startStp P ports w = some ((), w'))
    (hw : InfoKept w.br w.portCdb) : InfoKept w'.br w'.portCdb := by
  obtain ⟨⟨_, w₁⟩, h₁, h₂⟩ := Option.bind_eq_some_iff.mp h
  exact Stp.stpSetState_true_infoKept (stpCreatePorts_infoKept h₁ hw) () w' h₂

omit [Add κ] [LT κ] [DecidableLT κ] [OfNat κ 20000] in
theorem WithStp.portCdb {s₁ : Switch κ τ Φ} (h : WithStp P s v s₁) : s₁.portCdb = s.portCdb := by
  cases h <;> rfl

theorem Linked.pointers {c : Command} (h : Linked v s) (heff : Effect P s c s')
    (hc : KeepsInfo v s (.command c : Input τ Φ)) :
    (∀ br, s'.stp v = some br → InfoKept br s'.portCdb) ∧
      (s'.stp v = none → ∀ port, ifStpInfo s'.portCdb port = none) := by
  obtain ⟨hv, -, htear⟩ := hc
  have hput : ∀ (s₁ : Switch κ τ Φ) {br : StpInstance κ} {w : World κ τ Φ}, s₁.stp v = some br →
      w.br.vlanId = br.vlanId → InfoKept w.br w.portCdb →
      (∀ br', (s₁.putStp v w).stp v = some br' → InfoKept br' w.portCdb) ∧
        ((s₁.putStp v w).stp v = none → ∀ port, ifStpInfo w.portCdb port = none) := by
    intro s₁ br w hbr hw hinfo
    have hstp := stp_putStp (s := s₁) (by rw [hbr]; rfl) (hw.trans (stp_vlanId hbr))
    refine ⟨?_, ?_⟩
    · intro br' hbr'
      obtain rfl := Option.some.inj (hstp.symm.trans hbr')
      exact hinfo
    · intro hnone
      cases hstp.symm.trans hnone
  cases heff with
  | idle _ _ => exact ⟨h.info, h.null⟩
  | createVlan v' hnone => exact ⟨h.info, h.null⟩
  | addPort v' port type e lists he hlists hno => exact ⟨h.info, h.null⟩
  | addStpPort v' port type e lists i br w he hlists hmode hi hbr hm =>
    obtain rfl : i = v := h.vlan_eq hbr
    exact hput (s.putVlan _) hbr (stpCreatePorts_spec hm).1
      (stpCreatePorts_infoKept hm (h.info br hbr))
  | delPort v' port type e lists he hlists => exact ⟨h.info, h.null⟩
  | enableStp v' e s₁ br w he hnot h₁ hbr hm =>
    obtain rfl : v' = v := hv
    have hinfo : InfoKept br s₁.portCdb := by
      rw [h₁.portCdb]
      obtain hold | ⟨hnone, env, rfl⟩ := h₁.stpOr hbr
      · exact h.info br hold
      · exact .of_null rfl (h.null hnone)
    exact hput s₁ hbr (startStp_spec hm).1 (startStp_infoKept hm hinfo)
  | enableRstp v' e s₁ bs bs' env he hnot hi h₁ hbs hm =>
    have hcdb : s₁.portCdb = s.portCdb := h₁.others.2.2.1
    have hstp : s₁.stp v = s.stp v := h₁.stp
    refine ⟨?_, ?_⟩
    · intro br hbr
      exact hcdb ▸ h.info br (hstp.symm.trans hbr)
    · intro hnone
      exact hcdb ▸ h.null (hstp.symm.trans hnone)
  | replaceStp v' e s₁ bs bs' env i br w he hnot hi h₁ hbs hm hbr hset =>
    obtain rfl : i = v := h.vlan_eq hbr
    obtain rfl : v' = i := hv
    have hnull := htear ⟨by rw [Switch.slot, hbr]; rfl, e, he, hnot⟩
    have hcdb : w.portCdb = s.portCdb :=
      (Stp.stpSetState_false_portCdb () w hset).trans h₁.others.2.2.1
    obtain ⟨-, hports, hvlan⟩ := Stp.stpSetState_false_ends () w hset
    have hbr₁ : (s₁.putRstp v' bs' env).stp v' = some br := h₁.stp.trans hbr
    exact hput _ hbr₁ hvlan (.of_null hports (hcdb ▸ hnull.null))
  | disableStp v' e i he hen hi hbr =>
    obtain rfl : v' = v := hv
    have hnull := (htear ⟨e, he, hen⟩).null
    refine ⟨?_, fun _ ↦ hnull⟩
    intro br hbr'
    obtain rfl := h.sound.ptr he hi
    have hnone : lookup StpInstance.vlanId
      (remove StpInstance.vlanId s.stpInstanceHead i) i = none :=
      lookup_remove h.sound.nodup
    cases hbr'.symm.trans hnone
  | disableRstp v' e he hen hi => exact ⟨h.info, h.null⟩
  | returnToStp v' e i br w he hen hi hbr hm =>
    obtain rfl : i = v := h.vlan_eq hbr
    exact hput (s.putVlan _) hbr (startStp_spec hm).1 (startStp_infoKept hm (h.info br hbr))

theorem Linked.effect {c : Command} (h : Linked v s) (heff : Effect P s c s')
    (hc : KeepsInfo v s (.command c : Input τ Φ)) : Linked v s' := by
  obtain ⟨hinfo, hnull⟩ := h.pointers heff hc
  obtain ⟨rfl, hnew, -⟩ := hc
  obtain ⟨rfl, -⟩ | ht := heff.turned h.sound
  · exact h
  refine ⟨h.sound.effect heff, ?_, h.tidy.turn ht.turn (h.sound.slots _) hnew, hinfo, hnull⟩
  intro v' hne
  have hslot := ht.others v' hne
  exact (congrArg Slot.vlan hslot).trans (h.only v' hne)

omit [Add κ] [LT κ] [DecidableLT κ] [OfNat κ 0] [OfNat κ 20000] in
theorem Linked.putStp {v' : U16} {br : StpInstance κ} (h : Linked v s) (hbr : s.stp v' = some br)
    (hfixed : w.br.fixed = br.fixed) (hinfo : InfoKept w.br w.portCdb) :
    Linked v (s.putStp v' w) := by
  obtain rfl : v' = v := h.vlan_eq hbr
  have hvlan : w.br.vlanId = v' := (congrArg Prod.fst hfixed).trans (stp_vlanId hbr)
  have hstp : (s.putStp v' w).stp v' = some w.br := stp_putStp (by rw [hbr]; rfl) hvlan
  refine ⟨h.sound.putStp hbr hvlan, h.only, ⟨?_, ?_, ?_⟩, ?_, ?_⟩
  · intro e _ he _
    exact h.tidy.on e br he hbr
  · intro e br' he hbr' hmode
    obtain rfl := Option.some.inj (hstp.symm.trans hbr')
    have hports : w.br.portList.map StpPortEntry.fixed = br.portList.map StpPortEntry.fixed :=
      congrArg (fun x ↦ x.2.2) hfixed
    rw [h.tidy.empty e br he hbr hmode] at hports
    exact List.map_eq_nil_iff.mp hports
  · intro br' hbr'
    obtain rfl := Option.some.inj (hstp.symm.trans hbr')
    rw [Stp.numbers_eq_fixed, hfixed, ← Stp.numbers_eq_fixed]
    exact h.tidy.numbers br hbr
  · intro br' hbr'
    obtain rfl := Option.some.inj (hstp.symm.trans hbr')
    exact hinfo
  · intro hnone
    cases hstp.symm.trans hnone

omit [Add κ] [LT κ] [DecidableLT κ] [OfNat κ 0] [OfNat κ 20000] in
theorem Linked.of_same (h : Linked v s) (hs : Sound s') (hvlan : s'.vlanDb = s.vlanDb)
    (hstp : s'.stpInstanceHead = s.stpInstanceHead)
    (hcdb : ∀ port, ifStpInfo s'.portCdb port = ifStpInfo s.portCdb port) : Linked v s' := by
  have hvlan' : ∀ v, s'.vlan v = s.vlan v := fun v ↦ by rw [Switch.vlan, hvlan]; rfl
  have hstp' : ∀ v, s'.stp v = s.stp v := fun v ↦ by rw [Switch.stp, hstp]; rfl
  refine ⟨hs, fun v' hne ↦ (hvlan' v').trans (h.only v' hne), ⟨?_, ?_, ?_⟩, ?_, ?_⟩
  · intro e br he hbr
    exact h.tidy.on e br ((hvlan' v).symm.trans he) ((hstp' v).symm.trans hbr)
  · intro e br he hbr
    exact h.tidy.empty e br ((hvlan' v).symm.trans he) ((hstp' v).symm.trans hbr)
  · intro br hbr
    exact h.tidy.numbers br ((hstp' v).symm.trans hbr)
  · intro br hbr
    exact (h.info br ((hstp' v).symm.trans hbr)).of_info hcdb
  · intro hnone port
    rw [hcdb]
    exact h.null ((hstp' v).symm.trans hnone) port

theorem Linked.step {i : Input τ Φ} (h : Linked v s) (hc : KeepsInfo v s i)
    (hfeed : feed P s i = some s') : Linked v s' := by
  have hreact := feed_reaction hfeed
  have hsound := h.sound.reaction hreact
  cases hreact with
  | command c s' heff => exact h.effect heff hc
  | ignored => exact h
  | stp v₀ port v' m p br w hmode hfind hbr hm =>
    exact h.putStp hbr (handle_vlanId (m.event_internal port) hbr hm).2
      (Stp.handle_infoKept (m.event_internal port) (h.infoKept hbr) () w hm)
  | rstp | bstpTick | host => exact h.of_same hsound rfl rfl fun _ ↦ rfl
  | interface i status =>
    exact h.of_same hsound rfl rfl (Stp.ifStpInfo_setOperStatus s.portCdb i status)
  | expiry v' timer br w hbr hm =>
    exact h.putStp hbr (handle_vlanId timer.event_internal hbr hm).2
      (Stp.handle_infoKept timer.event_internal (h.infoKept hbr) () w hm)

theorem Linked.tearsDown {c : Command} (h : Linked v s) (hc : c.vlanId = v)
    (hfeed : feed P s (.command c) = some s') (htear : TearsDown (s.slot v) c)
    (hmem : P.host.tmMalloc s.env = true) :
    s'.portCdb = s.portCdb ∧ ∀ v' br, s'.stp v' = some br → br.portList = [] := by
  cases feed_reaction hfeed with
  | command _ _ heff =>
    have hothers : ∀ v', v' ≠ v → s'.stp v' = none := by
      intro v' hne
      have hnone := ((h.sound.slots v').unowned (h.only v' hne)).1
      obtain ⟨rfl, -⟩ | ht := heff.turned h.sound
      · exact hnone
      · exact (congrArg Slot.stp (ht.others v' (hc ▸ hne))).trans hnone
    have hempty : (∀ br, s'.stp v = some br → br.portList = []) →
        ∀ v' br, s'.stp v' = some br → br.portList = [] := by
      intro hown v' br hbr
      by_cases hne : v' = v
      · exact hown br (hne ▸ hbr)
      · cases (hothers v' hne).symm.trans hbr
    cases heff with
    | idle _ hidle =>
      exfalso
      cases c with
      | createVlan | addPort | delPort => exact htear
      | enable v' mode =>
        cases mode with
        | stp => exact htear
        | rstp =>
          obtain rfl : v' = v := hc
          obtain ⟨-, e, he, hnot⟩ := htear
          obtain hon | hno := hidle e he
          · exact hnot hon
          · cases hmem.symm.trans hno
      | disable v' mode =>
        cases mode with
        | stp =>
          obtain rfl : v' = v := hc
          obtain ⟨e, he, hen⟩ := htear
          cases hen.symm.trans (hidle e he)
        | rstp => exact htear
    | createVlan | addPort | addStpPort | delPort | enableStp | disableRstp | returnToStp =>
      exact absurd htear id
    | enableRstp v' e s₁ bs bs' env he hnot hi h₁ hbs hm =>
      obtain rfl : v' = v := hc
      have hsome : (s.stp v').isSome = true := htear.1
      rw [h.sound.null he hi] at hsome
      cases hsome
    | replaceStp v' e s₁ bs bs' env i br w he hnot hi h₁ hbs hm hbr hset =>
      obtain rfl : i = v := h.vlan_eq hbr
      obtain rfl : v' = i := hc
      refine ⟨(Stp.stpSetState_false_portCdb () w hset).trans h₁.others.2.2.1, hempty ?_⟩
      obtain ⟨-, hports, hvlan⟩ := Stp.stpSetState_false_ends () w hset
      have hstp : ((s₁.putRstp v' bs' env).putStp v' w).stp v' = some w.br := by
        refine stp_putStp ?_ (hvlan.trans (stp_vlanId hbr))
        have hbr₁ : (s₁.putRstp v' bs' env).stp v' = some br := h₁.stp.trans hbr
        rw [hbr₁]
        rfl
      intro br' hbr'
      obtain rfl := Option.some.inj (hstp.symm.trans hbr')
      exact hports
    | disableStp v' e i he hen hi hbr =>
      obtain rfl : v' = v := hc
      refine ⟨rfl, hempty ?_⟩
      intro br' hbr'
      obtain rfl := h.sound.ptr he hi
      have hnone : lookup StpInstance.vlanId (remove StpInstance.vlanId s.stpInstanceHead i) i =
          none := lookup_remove h.sound.nodup
      cases hbr'.symm.trans hnone

/-- In every run of such inputs the pointers of the interface table are good, which
a command that frees the ports keeps just when there are none. Frames that may come
in are learnt from only where the tree allows it, and the gate is open for others
where the tree does not. -/
theorem mac_learning_obeys_tree (P : Platform κ τ Φ) {v : U16} {env : τ}
    {portCdb : Vector PortT maxPorts} (hnull : NoStpInfo portCdb) {is : List (Input τ Φ)}
    {s : Switch κ τ Φ} (h : Run (feed P) (KeepsInfo v) (boot env portCdb) is s) :
    InfoLive s ∧
    (∀ c s', c.vlanId = v → feed P s (.command c) = some s' → TearsDown (s.slot v) c →
      P.host.tmMalloc s.env = true → (InfoLive s' ↔ NoStpInfo s.portCdb)) ∧
    ∀ (port : U16) t, s.portCdb[(port.setWidth 32 - 1).toNat]? = some t → BlocksApart s →
      (Gated s v port → ∀ e fdbSalt fdb smac secs fdb',
        processSource s e fdbSalt fdb smac port secs = some fdb' → fdb' ≠ fdb →
          MayLearn s v port) ∧
      (¬Gated s v port → stpIsMacLearningAllowed s (port.setWidth 32) = some true ∧
        ¬MayLearn s v port) := by
  have hs : Linked v s :=
    h.invariant (fun _ _ _ hs hc hfeed ↦ hs.step hc hfeed) (linked_boot hnull)
  refine ⟨hs.live, ?_, ?_⟩
  · intro c s' hc hfeed htear hmem
    obtain ⟨hcdb, hempty⟩ := hs.tearsDown hc hfeed htear hmem
    constructor
    · intro hlive
      refine noStpInfo_of_null fun port ↦ ?_
      by_contra hsome
      obtain ⟨a, ha⟩ := Option.ne_none_iff_exists'.mp hsome
      obtain ⟨v', br, q, hbr, hq, -⟩ := hlive port a (hcdb ▸ ha)
      rw [hempty v' br hbr] at hq
      cases hq
    · intro hno port a ha
      rw [hcdb] at ha
      cases (hno.null port).symm.trans ha
  · intro port t ht hblocks
    have hiff := hs.allowed_iff hblocks ht
    constructor
    · intro hgated e fdbSalt fdb smac secs fdb' hprocess hne
      exact hiff.mpr hgated (processSource_allowed hprocess hne)
    · intro hnot
      exact Classical.not_imp.mp (mt hiff.mp hnot)

end Steps

section Decidable

variable (s : Switch κ τ Φ) (v port : U16)

instance : Decidable (MayLearn s v port) :=
  inferInstanceAs (Decidable (∀ e, s.vlan v = some e → e.stpEnabled = true →
    (e.stpMode = some .stp → ∀ br, s.stp v = some br → ∀ q ∈ br.portList,
      q.portNo = port.setWidth 32 → learnsIn q.state = true) ∧
    (e.stpMode = some .rstp → ∀ bs, s.rstp v = some bs → ∀ q ∈ bs.bplist,
      q.ifp = port → rstpLearnsIn q.state = true)))

instance : Decidable (Gated s v port) :=
  inferInstanceAs (Decidable (∀ e, s.vlan v = some e → e.stpEnabled = true →
    (e.stpMode = some .stp → ∀ br, s.stp v = some br → ∀ q ∈ br.portList,
      q.portNo = port.setWidth 32 → ifStpInfo s.portCdb (port.setWidth 32) ≠ none) ∧
    (e.stpMode = some .rstp → ∀ bs, s.rstp v = some bs → ∀ q ∈ bs.bplist,
      q.ifp = port → rstpLearnsIn q.state = true)))

instance : Decidable (BlocksApart s) :=
  inferInstanceAs (Decidable (s.entries.map StpPortEntry.self).Nodup)

instance (portCdb : Vector PortT maxPorts) : Decidable (NoStpInfo portCdb) :=
  inferInstanceAs (Decidable (∀ i : Fin maxPorts, (portCdb.get i).pstpInfo = none))

instance (x : Slot κ) (c : Command) : Decidable (TearsDown x c) :=
  match c with
  | .disable _ .stp => inferInstanceAs (Decidable (∃ e, x.vlan = some e ∧ e.stpEnabled = true))
  | .enable _ .rstp => inferInstanceAs (Decidable (x.stp.isSome = true ∧
      ∃ e, x.vlan = some e ∧ ¬(e.stpEnabled = true ∧ e.stpMode = some .rstp)))
  | .disable _ .rstp | .enable _ .stp | .createVlan _ | .addPort _ _ _ | .delPort _ _ _ =>
    inferInstanceAs (Decidable False)

instance (x : Slot κ) (c : Command) : Decidable (CreatesNew x c) :=
  match c with
  | .addPort _ port _ => inferInstanceAs (Decidable (∀ e, x.vlan = some e →
      e.stpMode = some .stp → ∀ br, x.stp = some br → port ∉ br.numbers))
  | .disable _ .rstp => inferInstanceAs (Decidable (∀ e, x.vlan = some e → e.stpMode = some .stp →
      ∀ br, x.stp = some br → ∀ port ∈ e.egressPorts, port ∉ br.numbers))
  | .disable _ .stp | .enable _ _ | .createVlan _ | .delPort _ _ _ =>
    inferInstanceAs (Decidable True)

instance (i : Input τ Φ) : Decidable (KeepsInfo v s i) :=
  match i with
  | .command c => inferInstanceAs (Decidable (c.vlanId = v ∧ CreatesNew (s.slot v) c ∧
      (TearsDown (s.slot v) c → NoStpInfo s.portCdb)))
  | .message _ _ _ | .interface _ _ | .expiry _ _ | .bstpTick _ | .host _ =>
    inferInstanceAs (Decidable True)

end Decidable

def onePort : List (Input Timers.TimerMgr (List U8)) :=
  [.command (.createVlan 1), .command (.addPort 1 1 .tagged)]

def portUp : Input Timers.TimerMgr (List U8) := .interface 0 .up

/-- The instance is freed under the pointer. The gate is open for a port that STP
has not enabled yet, and for one that RSTP has discarding. -/
theorem gate_open_or_dangling :
    (∃ s, Run (feed plainPlatform) (fun _ _ ↦ True) plainBoot
        (onePort ++ [portUp, .command (.enable 1 .stp), .command (.disable 1 .stp)]) s ∧
      ¬InfoLive s ∧ stpIsMacLearningAllowed s 1 = none) ∧
    (∃ s, Run (feed plainPlatform) (fun _ _ ↦ True) plainBoot
        (onePort ++ [.command (.enable 1 .stp), portUp]) s ∧
      stpIsMacLearningAllowed s 1 = some true ∧ ¬MayLearn s 1 1) ∧
    ∃ s, Run (feed plainPlatform) (fun _ _ ↦ True) plainBoot
        (onePort ++ [portUp, .command (.enable 1 .rstp)]) s ∧
      stpIsMacLearningAllowed s 1 = some true ∧ ¬MayLearn s 1 1 := by
  refine ⟨?_, ?_, ?_⟩
  · have hcheck : ((exec (feed plainPlatform) plainBoot
        (onePort ++ [portUp, .command (.enable 1 .stp), .command (.disable 1 .stp)])).any fun s ↦
        decide (ifStpInfo s.portCdb 1 ≠ none ∧ s.stpInstanceHead = [] ∧
          stpIsMacLearningAllowed s 1 = none)) = true := by
      decide +kernel
    simp only [Option.any_eq_true, decide_eq_true_eq] at hcheck
    obtain ⟨s, hexec, hsome, hnil, hgate⟩ := hcheck
    refine ⟨s, run_of_exec hexec, ?_, hgate⟩
    intro hlive
    obtain ⟨a, ha⟩ := Option.ne_none_iff_exists'.mp hsome
    obtain ⟨v, br, q, hbr, -⟩ := hlive 1 a ha
    rw [Switch.stp, hnil] at hbr
    cases hbr
  · have hcheck : ((exec (feed plainPlatform) plainBoot
        (onePort ++ [.command (.enable 1 .stp), portUp])).any fun s ↦
        decide (stpIsMacLearningAllowed s 1 = some true ∧ ¬MayLearn s 1 1)) = true := by
      decide +kernel
    simp only [Option.any_eq_true, decide_eq_true_eq] at hcheck
    obtain ⟨s, hexec, hs⟩ := hcheck
    exact ⟨s, run_of_exec hexec, hs⟩
  · have hcheck : ((exec (feed plainPlatform) plainBoot
        (onePort ++ [portUp, .command (.enable 1 .rstp)])).any fun s ↦
        decide (stpIsMacLearningAllowed s 1 = some true ∧ ¬MayLearn s 1 1)) = true := by
      decide +kernel
    simp only [Option.any_eq_true, decide_eq_true_eq] at hcheck
    obtain ⟨s, hexec, hs⟩ := hcheck
    exact ⟨s, run_of_exec hexec, hs⟩

/-- The port learns once STP has taken it there. -/
theorem mac_learning_obeys_tree_in_learning :
    ∃ s, Run (feed plainPlatform) (KeepsInfo 1) plainBoot
        (onePort ++ [portUp, .command (.enable 1 .stp), .expiry 1 (.forwardDelay 0)]) s ∧
      InfoLive s ∧ stpIsMacLearningAllowed s 1 = some true ∧
      ∀ e fdbSalt fdb smac secs fdb',
        processSource s e fdbSalt fdb smac 1 secs = some fdb' → fdb' ≠ fdb → MayLearn s 1 1 := by
  have hcheck : ((exec (fun s i ↦
    if KeepsInfo 1 s i then feed plainPlatform s i else none) plainBoot
      (onePort ++ [portUp, .command (.enable 1 .stp), .expiry 1 (.forwardDelay 0)])).any fun s ↦
      decide (stpIsMacLearningAllowed s 1 = some true ∧ BlocksApart s ∧ Gated s 1 1)) = true := by
    decide +kernel
  simp only [Option.any_eq_true, decide_eq_true_eq] at hcheck
  obtain ⟨s, hexec, hgate, hblocks, hgated⟩ := hcheck
  have hrun : Run (feed plainPlatform) (KeepsInfo 1) plainBoot
      (onePort ++ [portUp, .command (.enable 1 .stp), .expiry 1 (.forwardDelay 0)]) s :=
    (run_of_exec hexec).guarded
  obtain ⟨hlive, -, hframes⟩ := mac_learning_obeys_tree plainPlatform (by decide) hrun
  have hline : s.portCdb[0]? = some (s.portCdb.get ⟨0, by decide⟩) :=
    Vector.getElem?_eq_getElem (by decide)
  exact ⟨s, hrun, hlive, hgate, (hframes 1 _ hline hblocks).1 hgated⟩

end Layer3Switch.Vlan
