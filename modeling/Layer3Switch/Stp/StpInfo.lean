import Layer3Switch.Stp.Membership
import Layer3Switch.Stp.Selection

namespace Layer3Switch.Stp

open Lib Lib.Bytes
open Timers (U32)

variable {κ τ Φ : Type}

/-- `IF_STP_INFO`, which is null as well for a port without a line. -/
def ifStpInfo (portCdb : Vector PortT maxPorts) (port : U32) : Option ℕ :=
  portCdb[(port - 1).toNat]?.bind PortT.pstpInfo

/-- The pointers of the interface table are to entries of their ports, and all
entries in use are pointed to. -/
structure InfoKept (br : StpInstance κ) (portCdb : Vector PortT maxPorts) : Prop where
  live : ∀ port a, ifStpInfo portCdb port = some a →
    ∃ q ∈ br.portList, q.self = a ∧ q.portNo = port
  marked : ∀ q ∈ br.portList, q.state ≠ .disabled → ifStpInfo portCdb q.portNo ≠ none

theorem index_inj {m n : U32} (h : (m - 1).toNat = (n - 1).toNat) : m = n := by
  have heq := BitVec.eq_of_toNat_eq h
  bv_omega

theorem ifStpInfo_set {portCdb : Vector PortT maxPorts} {n : U32} {t : PortT} {a : ℕ}
    (ht : portCdb[(n - 1).toNat]? = some t) (port : U32) :
    ifStpInfo (portCdb.setIfInBounds (n - 1).toNat { t with pstpInfo := some a }) port =
      if port = n then some a else ifStpInfo portCdb port := by
  have hlt : (n - 1).toNat < maxPorts := by
    by_contra hge
    rw [Vector.getElem?_eq_none (not_lt.mp hge)] at ht
    cases ht
  rw [ifStpInfo, Vector.getElem?_setIfInBounds]
  by_cases hport : port = n
  · rw [if_pos hport, hport, if_pos rfl, if_pos hlt]
    rfl
  · rw [if_neg hport, if_neg fun heq ↦ hport (index_inj heq).symm]
    rfl

theorem ifStpInfo_setOperStatus (portCdb : Vector PortT maxPorts) (i : Fin maxPorts)
    (status : IfStatus) (port : U32) :
    ifStpInfo (portCdb.set i { portCdb.get i with ifOperStatus := status } i.isLt) port =
      ifStpInfo portCdb port := by
  simp only [ifStpInfo, Vector.getElem?_set]
  split
  · rename_i hi
    rw [← hi, Vector.getElem?_eq_getElem i.isLt]
    rfl
  · rfl

theorem InfoKept.of_info {br : StpInstance κ} {portCdb portCdb' : Vector PortT maxPorts}
    (h : InfoKept br portCdb) (hinfo : ∀ port, ifStpInfo portCdb' port = ifStpInfo portCdb port) :
    InfoKept br portCdb' := by
  constructor
  · intro port a ha
    rw [hinfo] at ha
    exact h.live port a ha
  · intro q hq hlive
    rw [hinfo]
    exact h.marked q hq hlive

theorem InfoKept.of_null {br : StpInstance κ} {portCdb : Vector PortT maxPorts}
    (hports : br.portList = []) (hnull : ∀ port, ifStpInfo portCdb port = none) :
    InfoKept br portCdb := by
  constructor
  · intro port a ha
    cases (hnull port).symm.trans ha
  · intro q hq
    rw [hports] at hq
    cases hq

section Kept

variable {w w' : World κ τ Φ}

theorem exists_of_fixed {br br' : StpInstance κ} (h : br'.fixed = br.fixed) {q : StpPortEntry κ}
    (hq : q ∈ br.portList) : ∃ q' ∈ br'.portList, q'.self = q.self ∧ q'.portNo = q.portNo := by
  have hports : br'.portList.map StpPortEntry.fixed = br.portList.map StpPortEntry.fixed :=
    congrArg (fun x ↦ x.2.2) h
  have hmem : q.fixed ∈ br'.portList.map StpPortEntry.fixed := by
    rw [hports]
    exact List.mem_map_of_mem hq
  obtain ⟨q', hq', heq⟩ := List.mem_map.mp hmem
  exact ⟨q', hq', congrArg (fun x ↦ x.2.1) heq, congrArg Prod.fst heq⟩

theorem InfoKept.of_fixed (h : InfoKept w.br w.portCdb) (hcdb : w'.portCdb = w.portCdb)
    (hfixed : w'.br.fixed = w.br.fixed)
    (hstate : ∀ q' ∈ w'.br.portList, q'.state ≠ .disabled →
      ∃ q ∈ w.br.portList, q.portNo = q'.portNo ∧ q.state ≠ .disabled) :
    InfoKept w'.br w'.portCdb where
  live := by
    intro port a ha
    rw [hcdb] at ha
    obtain ⟨q, hq, hself, hno⟩ := h.live port a ha
    obtain ⟨q', hq', hself', hno'⟩ := exists_of_fixed hfixed hq
    exact ⟨q', hq', hself'.trans hself, hno'.trans hno⟩
  marked := by
    intro q' hq' hlive
    obtain ⟨q, hq, hno, hlive⟩ := hstate q' hq' hlive
    rw [hcdb, ← hno]
    exact h.marked q hq hlive

theorem InfoKept.modifyPort {p : ℕ} {f : StpPortEntry κ → StpPortEntry κ}
    (h : InfoKept w.br w.portCdb)
    (hf : ∀ q, w.br.portList[p]? = some q → (f q).fixed = q.fixed ∧
      ((f q).state ≠ .disabled → q.state ≠ .disabled)) :
    InfoKept (w.modifyPort p f).br (w.modifyPort p f).portCdb := by
  refine h.of_fixed rfl (modifyPort_fixed fun q hq ↦ (hf q hq).1) ?_
  intro q' hq' hlive
  obtain ⟨q, hq, rfl | ⟨hp, rfl⟩⟩ := mem_modifyPort hq'
  · exact ⟨q', hq, rfl, hlive⟩
  · exact ⟨q, hq, (congrArg Prod.fst (hf q hp).1).symm, (hf q hp).2 hlive⟩

variable [Add κ] [LT κ] [DecidableLT κ] [OfNat κ 0]

omit [Add κ] [OfNat κ 0] in
theorem selectDesignatedPort_state (e : Endian) (br : StpInstance κ) (q : StpPortEntry κ) :
    (selectDesignatedPort e br q).state = q.state := by
  unfold selectDesignatedPort
  split <;> rfl

omit [Add κ] [LT κ] [DecidableLT κ] [OfNat κ 0] in
theorem InfoKept.initPort {p : ℕ} {q : StpPortEntry κ} {t : PortT} (h : InfoKept w.br w.portCdb)
    (hq : w.br.portList[p]? = some q) (ht : w.portCdb[(q.portNo - 1).toNat]? = some t) :
    InfoKept (w.initPort p q t).br (w.initPort p q t).portCdb := by
  have hinfo : ∀ port, ifStpInfo (w.initPort p q t).portCdb port =
      if port = q.portNo then some q.self else ifStpInfo w.portCdb port := ifStpInfo_set ht
  constructor
  · intro port a ha
    have hfixed : (w.initPort p q t).br.fixed = w.br.fixed := modifyPort_fixed fun _ _ ↦ rfl
    rw [hinfo] at ha
    split at ha
    · rename_i hport
      obtain ⟨q', hq', hself, hno⟩ := exists_of_fixed hfixed (List.mem_of_getElem? hq)
      exact ⟨q', hq', hself.trans (Option.some.inj ha), hno.trans hport.symm⟩
    · obtain ⟨q₀, hq₀, hself₀, hno₀⟩ := h.live port a ha
      obtain ⟨q', hq', hself, hno⟩ := exists_of_fixed hfixed hq₀
      exact ⟨q', hq', hself.trans hself₀, hno.trans hno₀⟩
  · intro q' hq' hlive
    rw [hinfo]
    split
    · exact Option.some_ne_none _
    · rename_i hne
      obtain ⟨q₀, hq₀, rfl | ⟨hp, rfl⟩⟩ := mem_modifyPort hq'
      · exact h.marked q' hq₀ hlive
      · obtain rfl := Option.some.inj (hq.symm.trans hp)
        exact absurd rfl hne

theorem closed_infoKept {H : Host τ} {W : Wire κ Φ} {rcv : U32 → StpBpdu κ → Prop} :
    Closed H W rcv fun w ↦ InfoKept w.br w.portCdb := by
  intro w w' hc h
  cases hc with
  | env | sendConfig | sendTcn => exact ⟨h.live, h.marked⟩
  | elect br hbr =>
    refine h.of_fixed rfl (stpConfigurationUpdate_fixed hbr) ?_
    obtain ⟨br₁, -, -, -, rfl⟩ := stpConfigurationUpdate_cases hbr
    intro q' hq' hlive
    obtain ⟨q, hq, rfl⟩ := List.mem_map.mp hq'
    rw [selectDesignatedPort_state] at hlive
    exact ⟨q, hq, (congrArg Prod.fst (selectDesignatedPort_fixed _ _ q)).symm, hlive⟩
  | designate p => exact h.modifyPort fun _ _ ↦ ⟨rfl, id⟩
  | record p bpdu hr => exact h.modifyPort fun _ _ ↦ ⟨rfl, id⟩
  | rename p newprio => exact h.modifyPort fun _ _ ↦ ⟨rfl, id⟩
  | port p f hf => exact h.modifyPort fun q hq ↦ ⟨(hf q hq).fixed, (hf q hq).state⟩
  | init p q t hq ht _ => exact h.initPort hq ht
  | bridge f hf =>
    obtain ⟨hports, -, -, -⟩ := hf.fields
    have hports' : (f w.br).portList = w.br.portList := hports
    exact ⟨hports' ▸ h.live, hports' ▸ h.marked⟩

end Kept

section Programs

variable [Add κ] [LT κ] [DecidableLT κ] [OfNat κ 0] {H : Host τ} {W : Wire κ Φ} {w : World κ τ Φ}

theorem handle_infoKept {ev : Event τ Φ} (hev : ev.Internal) (h : InfoKept w.br w.portCdb) :
    Ends (handle H W ev) w fun _ w' ↦ InfoKept w'.br w'.portCdb :=
  have hI : Closed H W (fun _ _ ↦ True) fun w ↦ InfoKept w.br w.portCdb := closed_infoKept
  handle_internal_keeps hI.stable hev (fun _ _ _ _ _ _ ↦ trivial) h

theorem stpSetState_true_infoKept (h : InfoKept w.br w.portCdb) :
    Ends (stpSetState H W true) w fun _ w' ↦ InfoKept w'.br w'.portCdb := by
  have hI : Closed H W (fun _ _ ↦ True) fun w ↦ InfoKept w.br w.portCdb := closed_infoKept
  refine (stpEnable_keeps hI.stable h).andThen ?_
  intro _ w' h'
  exact .update ⟨h'.live, h'.marked⟩

theorem stpSetState_false_portCdb :
    Ends (stpSetState H W false) w fun _ w' ↦ w'.portCdb = w.portCdb := by
  have hI : ClosedInPlace H W (fun _ _ ↦ True) fun w' : World κ τ Φ ↦ w'.portCdb = w.portCdb :=
    fun _ _ _ hcdb h ↦ hcdb.trans h
  refine (stpDisable_keeps hI.stableInPlace (fun _ h ↦ h) rfl).andThen ?_
  intro _ w' h'
  exact .update h'

omit [Add κ] [LT κ] [DecidableLT κ] [OfNat κ 0] in
theorem stpCreatePort_infoKept [OfNat κ 20000] (addr : MacAddress) (n : U32)
    (h : InfoKept w.br w.portCdb) :
    InfoKept (stpCreatePort H addr n w).1.br w.portCdb := by
  unfold stpCreatePort
  split
  · exact h
  · constructor
    · intro port a ha
      obtain ⟨q, hq, hkept⟩ := h.live port a ha
      exact ⟨q, List.mem_append_left _ hq, hkept⟩
    · intro q hq hlive
      obtain hq | hq := List.mem_append.mp hq
      · exact h.marked q hq hlive
      · rw [List.mem_singleton.mp hq] at hlive
        exact absurd rfl hlive

end Programs

end Layer3Switch.Stp
