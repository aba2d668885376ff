import Layer3Switch.Stp.RootPort

namespace Layer3Switch.Stp

open Lib Lib.Bytes
open Timers (U32 TimerMgr)

variable {κ τ Φ : Type} {H : Host τ} {W : Wire κ Φ} {w w₀ w' : World κ τ Φ}
variable {br br' : StpInstance κ}

section Entries

variable [Add κ] [LT κ]

/-- A port in use is designated, or its cost grows by that of the port. The
root port is not designated. -/
structure EntryApart (br : StpInstance κ) (q : StpPortEntry κ) : Prop where
  grows : q.state ≠ .disabled →
    stpIsDesignatedPort br q ∨ q.designatedCost < q.designatedCost + q.pathCost
  apart : br.rootPort ≠ 0 → q.portNo = br.rootPort → stpIsDesignatedPort br q = false

structure RootApart (br : StpInstance κ) : Prop extends Rooted br where
  entries : ∀ q ∈ br.portList, EntryApart br q

theorem EntryApart.of_root {q : StpPortEntry κ} (h : EntryApart br q)
    (hroot : br'.rootPort = br.rootPort) (hid : br'.bridgeId = br.bridgeId) :
    EntryApart br' q := by
  constructor
  · simpa only [stpIsDesignatedPort, hid] using h.grows
  · simpa only [stpIsDesignatedPort, hid, hroot] using h.apart

theorem EntryApart.selectState {q : StpPortEntry κ} (h : EntryApart br q) :
    EntryApart (selectStates br) (selectState br q) := by
  refine ⟨fun hlive ↦ h.grows ?_, h.apart⟩
  have hbadge := congrArg Prod.snd (selectState_badge br q)
  intro hdis
  simp only [StpPortEntry.badge, beq_eq_beq] at hbadge
  exact hlive (hbadge.mpr hdis)

theorem RootApart.of_tree_eq (h : RootApart br) (heq : br'.tree = br.tree) : RootApart br' := by
  refine ⟨h.toRooted.of_tree_eq heq, ?_⟩
  intro q' hq'
  obtain ⟨i, hi⟩ := List.mem_iff_getElem?.mp hq'
  obtain ⟨q, hq, hqq'⟩ := entry_of_tree_eq heq hi
  have hroot := congrArg StpInstance.rootPort heq
  have hid := congrArg StpInstance.bridgeId heq
  have hentry := (h.entries q (List.mem_of_getElem? hq)).of_root hroot hid
  have htree : EntryApart br' q.tree := ⟨hentry.grows, hentry.apart⟩
  rw [hqq'] at htree
  exact ⟨htree.grows, htree.apart⟩

end Entries

variable [Add κ] [LT κ] [DecidableLT κ] [OfNat κ 0] {e : Endian} {m : Move κ}

def Edit.Grows (br : StpInstance κ) : Edit κ → Prop
  | .record p bpdu => ∀ q, br.portList[p]? = some q →
      bpdu.rootPathCost < bpdu.rootPathCost + q.pathCost
  | .setPathCost p pathCost => ∀ q, br.portList[p]? = some q → q.state ≠ .disabled →
      stpIsDesignatedPort br q = false → q.designatedCost < q.designatedCost + pathCost
  | _ => True

def Move.KeepsApart (br : StpInstance κ) : Move κ → Prop
  | .elect edit => edit.Grows br
  | .enable p => ∀ q, br.portList[p]? = some q → q.portNo ≠ br.rootPort
  | .setPortPriority p newprio => ∀ q, br.portList[p]? = some q → q.portNo = br.rootPort →
      q.designatedBridge = br.bridgeId →
        q.designatedPort < stpMakePortId newprio (q.portNo.setWidth 16)
  | _ => True

omit [DecidableLT κ] [OfNat κ 0] in
theorem Edit.grows_apply {edit : Edit κ} (h : ∀ q ∈ br.portList, EntryApart br q)
    (hc : edit.Grows br) : ∀ q ∈ (edit.apply br).portList, q.state ≠ .disabled →
      stpIsDesignatedPort (edit.apply br) q ∨ q.designatedCost < q.designatedCost + q.pathCost := by
  intro q' hq' hlive
  cases edit with
  | record p bpdu =>
    obtain ⟨q, hq, rfl | ⟨hp, rfl⟩⟩ := mem_modifyPort hq'
    · exact (h q' hq).grows hlive
    · exact .inr (hc q hp)
  | expireAge p =>
    obtain ⟨q, hq, rfl | ⟨-, rfl⟩⟩ := mem_modifyPort hq'
    · exact (h q' hq).grows hlive
    · exact .inl (by simp [stpIsDesignatedPort, stpBecomeDesignatedPort, Edit.apply,
        StpInstance.modifyPort])
  | disable p =>
    obtain ⟨q, hq, rfl | ⟨-, rfl⟩⟩ := mem_modifyPort hq'
    · exact (h q' hq).grows hlive
    · exact absurd rfl hlive
  | setPathCost p pathCost =>
    obtain ⟨q, hq, rfl | ⟨hp, rfl⟩⟩ := mem_modifyPort hq'
    · exact (h q' hq).grows hlive
    · cases hd : stpIsDesignatedPort br q with
      | true => exact .inl hd
      | false => exact .inr (hc q hp hlive hd)
  | setBridgePriority newprio =>
    obtain ⟨q, hq, rfl⟩ := List.mem_map.mp hq'
    unfold reprioritizePort at hlive ⊢
    split_ifs at hlive ⊢ with hcond
    · left
      simp only [stpIsDesignatedPort, Bool.and_eq_true, beq_iff_eq] at hcond ⊢
      exact ⟨by rw [hcond.2.1]; rfl, hcond.2.2⟩
    · exact ((h q hq).grows hlive).imp_left fun hd ↦ absurd ⟨hlive, hd⟩ hcond
  | changeBridgeId addr =>
    obtain ⟨q, hq, rfl⟩ := List.mem_map.mp hq'
    refine ((h q hq).grows hlive).imp_left fun hd ↦ ?_
    simp only [stpIsDesignatedPort, Bool.and_eq_true, beq_iff_eq] at hd ⊢
    refine ⟨?_, hd.2⟩
    simp only [readdressPort, hd.1, replaceAddr, if_true]
    rfl

omit [Add κ] [OfNat κ 0] in
theorem selectDesignatedPort_root [Std.Asymm (α := κ) (· < ·)] {q : StpPortEntry κ}
    (hd : stpIsDesignatedPort br q = false) (hroot : q.designatedRoot = br.designatedRoot)
    (hcost : q.designatedCost < br.rootPathCost) : selectDesignatedPort e br q = q := by
  have hnot : ¬br.rootPathCost < q.designatedCost := Std.Asymm.asymm _ _ hcost
  have hshould : stpShouldBecomeDesignatedPort e br q = false := by
    simp [stpShouldBecomeDesignatedPort, hd, hroot, hnot, hcost]
  rw [selectDesignatedPort, if_neg (by simp [hshould])]

theorem reelect_apart [Std.Asymm (α := κ) (· < ·)] (hnodup : br.numbers.Nodup)
    (hlive : ∀ q ∈ br.portList, q.state ≠ .disabled → InTable q.portNo)
    (hgrows : ∀ q ∈ br.portList, q.state ≠ .disabled →
      stpIsDesignatedPort br q ∨ q.designatedCost < q.designatedCost + q.pathCost)
    (h : reelect e br = some br') : ∀ q ∈ br'.portList, EntryApart br' q := by
  obtain ⟨br₁, h₁, -, hid, rfl⟩ := reelect_cases h
  intro q' hq'
  obtain ⟨q₁, hq₁, rfl⟩ := List.mem_map.mp hq'
  obtain ⟨q, hq, rfl⟩ := List.mem_map.mp hq₁
  apply EntryApart.selectState
  have hdes : ∀ q, stpIsDesignatedPort
      { br₁ with portList := br.portList.map (selectDesignatedPort e br₁) } q =
        stpIsDesignatedPort br q := by
    intro q
    simp only [stpIsDesignatedPort, hid]
  constructor
  · intro hq'
    rw [hdes]
    unfold selectDesignatedPort at hq' ⊢
    split_ifs at hq' ⊢
    · left
      simp [stpIsDesignatedPort, stpBecomeDesignatedPort, hid]
    · exact hgrows q hq hq'
  · intro hne hno
    rw [(selectDesignatedPort_kept e br₁ q).portNo] at hno
    obtain rfl | ⟨c, hc, hcand, rfl⟩ := stpRootSelection_nodup hnodup hlive h₁
    · exact absurd rfl hne
    · obtain rfl := List.inj_on_of_nodup_map hnodup hq hc hno
      have hcost := (hgrows q hq hcand.state).resolve_left
        (Bool.eq_false_iff.mp hcand.not_designated)
      have hself : selectDesignatedPort e { br with
          rootPort := q.portNo
          designatedRoot := q.designatedRoot
          rootPathCost := q.designatedCost + q.pathCost } q = q :=
        selectDesignatedPort_root hcand.not_designated rfl hcost
      rw [hself, hdes]
      exact hcand.not_designated

omit [Add κ] [LT κ] [DecidableLT κ] [OfNat κ 0] in
theorem stpIsDesignatedPort_renamePort (newprio : U8) (q : StpPortEntry κ) :
    stpIsDesignatedPort br (renamePort newprio br q) = (stpIsDesignatedPort br q ||
      (q.designatedBridge == br.bridgeId &&
        q.designatedPort == stpMakePortId newprio (q.portNo.setWidth 16))) := by
  cases hd : stpIsDesignatedPort br q with
  | true =>
    have hbridge := (Bool.and_eq_true_iff.mp hd).1
    rw [renamePort, hd, stpIsDesignatedPort, hbridge]
    simp
  | false =>
    rw [renamePort, hd, stpIsDesignatedPort]
    simp

omit [DecidableLT κ] [OfNat κ 0] in
theorem EntryApart.renamePort {q : StpPortEntry κ} {newprio : U8} (h : EntryApart br q)
    (hc : q.portNo = br.rootPort → q.designatedBridge = br.bridgeId →
      q.designatedPort < stpMakePortId newprio (q.portNo.setWidth 16)) :
    EntryApart br (renamePort newprio br q) := by
  constructor
  · intro hlive
    refine (h.grows hlive).imp_left fun hd ↦ ?_
    rw [stpIsDesignatedPort_renamePort, hd, Bool.true_or]
  · intro hne hno
    rw [stpIsDesignatedPort_renamePort, h.apart hne hno, Bool.false_or, Bool.and_eq_false_imp]
    intro hbridge
    have hlt := hc hno (eq_of_beq hbridge)
    exact beq_eq_false_iff_ne.mpr (BitVec.ne_of_lt hlt)

omit [DecidableLT κ] [OfNat κ 0] in
theorem rerank_apart {p : ℕ} {newprio : U8} (h : ∀ q ∈ br.portList, EntryApart br q)
    (hc : (Move.setPortPriority p newprio).KeepsApart br) :
    ∀ q ∈ (rerank p newprio br).portList, EntryApart (rerank p newprio br) q := by
  cases hq : br.portList[p]? with
  | none =>
    have hself : br.modifyPort p (renamePort newprio br) = br := by
      rw [StpInstance.modifyPort, List.modify_eq_self (List.getElem?_eq_none_iff.mp hq)]
    simp only [rerank, hself, hq]
    exact h
  | some q =>
    have hrenamed : ∀ q' ∈ (br.modifyPort p (renamePort newprio br)).portList,
      EntryApart br q' := by
      intro q' hq'
      obtain ⟨q₀, hq₀, rfl | ⟨hp, rfl⟩⟩ := mem_modifyPort hq'
      · exact h q' hq₀
      · exact (h q₀ hq₀).renamePort (hc q₀ hp)
    rw [rerank_eq hq]
    split
    · rename_i hbetter
      intro q' hq'
      obtain ⟨q₁, hq₁, rfl⟩ := List.mem_map.mp hq'
      apply EntryApart.selectState
      obtain ⟨q₂, hq₂, rfl | ⟨hp, rfl⟩⟩ := mem_modifyPort hq₁
      · exact (hrenamed _ hq₂).of_root rfl rfl
      · have hq₂' : q₂ = renamePort newprio br q := by
          simpa [StpInstance.modifyPort, hq] using hp.symm
        subst hq₂'
        constructor
        · intro _
          left
          simp [stpIsDesignatedPort, stpBecomeDesignatedPort, StpInstance.modifyPort]
        · intro hne hno
          -- the root port would not have become designated
          have hd := (h q (List.mem_of_getElem? hq)).apart hne hno
          have hlt := hc q hq hno hbetter.1.symm
          have hgt := hbetter.2
          simp only [renamePort, hd, Bool.false_eq_true, if_false] at hgt
          exact absurd hlt (BitVec.lt_asymm hgt)
    · exact fun q' hq' ↦ (hrenamed q' hq').of_root rfl rfl

theorem RootApart.apply [Std.Asymm (α := κ) (· < ·)] (hw : RootApart br) (hv : m.Valid br)
    (hfresh : ∀ q, m = .create q → q.portNo ∉ br.numbers) (hc : m.KeepsApart br)
    (h : m.apply e br = some br') : RootApart br' := by
  refine ⟨hw.toRooted.apply hv hfresh h, ?_⟩
  cases m with
  | elect edit =>
    have helect : reelect e (edit.apply br) = some br' := h
    refine reelect_apart ?_ hw.toRootFound.edit (Edit.grows_apply hw.entries hc) helect
    rw [Edit.numbers]
    exact hw.nodup
  | clearOwn p =>
    obtain rfl := Option.some.inj h
    intro q' hq'
    obtain ⟨q, hq, rfl | ⟨-, rfl⟩⟩ := mem_modifyPort hq'
    · exact (hw.entries q' hq).of_root rfl rfl
    · exact ⟨(hw.entries q hq).grows, (hw.entries q hq).apart⟩
  | enable p =>
    obtain rfl := Option.some.inj h
    intro q' hq'
    obtain ⟨q₁, hq₁, rfl⟩ := List.mem_map.mp hq'
    apply EntryApart.selectState
    obtain ⟨q, hq, rfl | ⟨hp, rfl⟩⟩ := mem_modifyPort hq₁
    · exact (hw.entries _ hq).of_root rfl rfl
    · refine ⟨fun _ ↦ .inl ?_, fun _ hno ↦ absurd hno (hc q hp)⟩
      simp [stpIsDesignatedPort, initPort, stpBecomeDesignatedPort, StpInstance.modifyPort]
  | setPortPriority p newprio =>
    obtain rfl := Option.some.inj h
    exact rerank_apart hw.entries hc
  | advance p =>
    obtain rfl := Option.some.inj h
    intro q' hq'
    obtain ⟨q, hq, rfl | ⟨-, rfl⟩⟩ := mem_modifyPort hq'
    · exact (hw.entries q' hq).of_root rfl rfl
    · refine ⟨fun hlive ↦ (hw.entries q hq).grows ?_, (hw.entries q hq).apart⟩
      exact fun hdis ↦ hlive ((advance_eq_disabled _).mpr hdis)
  | times _ | setEnabled _ =>
    obtain rfl := Option.some.inj h
    exact fun q hq ↦ (hw.entries q hq).of_root rfl rfl
  | create q =>
    obtain rfl := Option.some.inj h
    intro q' hq'
    obtain hq' | hq' := List.mem_append.mp hq'
    · exact (hw.entries q' hq').of_root rfl rfl
    · obtain rfl := List.mem_singleton.mp hq'
      refine ⟨fun hlive ↦ absurd hv.1 hlive, ?_⟩
      intro hne hno
      -- the number of the root port is taken
      have hr : stpIsRootBridge br = false := Bool.eq_false_iff.mpr (mt hw.isRoot.mp hne)
      obtain ⟨q, hq, hqno, -⟩ := hw.root hr
      exact absurd (List.mem_map.mpr ⟨q, hq, hqno.trans hno.symm⟩) (hfresh q' rfl)
  | removeHead =>
    obtain rfl := Option.some.inj h
    exact fun q hq ↦ (hw.entries q (List.mem_of_mem_tail hq)).of_root rfl rfl

omit [DecidableLT κ] [OfNat κ 0] in
theorem Move.KeepsApart.tree (h : m.KeepsApart br) : m.KeepsApart br.tree := by
  have hentry : ∀ {i : ℕ} {q' : StpPortEntry κ}, br.tree.portList[i]? = some q' →
      ∃ q, br.portList[i]? = some q ∧ q.tree = q' :=
    fun hq' ↦ Option.map_eq_some_iff.mp (tree_getElem? br _ ▸ hq')
  cases m with
  | elect edit =>
    cases edit with
    | record p bpdu =>
      intro q' hq'
      obtain ⟨q, hq, rfl⟩ := hentry hq'
      exact h q hq
    | setPathCost p pathCost =>
      intro q' hq'
      obtain ⟨q, hq, rfl⟩ := hentry hq'
      exact h q hq
    | expireAge _ | disable _ | setBridgePriority _ | changeBridgeId _ => trivial
  | enable p =>
    intro q' hq'
    obtain ⟨q, hq, rfl⟩ := hentry hq'
    exact h q hq
  | setPortPriority p newprio =>
    intro q' hq'
    obtain ⟨q, hq, rfl⟩ := hentry hq'
    exact h q hq
  | clearOwn _ | advance _ | times _ | setEnabled _ | create _ | removeHead => trivial

section Steps

def KeepsRootApart (W : Wire κ Φ) (w : World κ τ Φ) : Action κ τ Φ → Prop
  | .event (.receive portNo frame) => ∀ bpdu, W.Config frame bpdu →
      ∀ p, stpGetPortEntry w.br portNo = some p → ∀ q, w.br.portList[p]? = some q →
        bpdu.rootPathCost < bpdu.rootPathCost + q.pathCost
  | .event (.link portNo .up) => portNo.setWidth 32 = w.br.rootPort →
      w.operStatus w.br.rootPort = some .down
  | .event (.setState true) => w.br.rootPort ≠ 0 → w.operStatus w.br.rootPort = some .down
  | .event (.setPortPriority p newprio) => ∀ q, w.br.portList[p]? = some q →
      q.portNo = w.br.rootPort → q.designatedBridge = w.br.bridgeId →
        q.designatedPort < stpMakePortId newprio (q.portNo.setWidth 16)
  | .setPathCost p pathCost => ∀ q, w.br.portList[p]? = some q → q.state ≠ .disabled →
      stpIsDesignatedPort w.br q = false → q.designatedCost < q.designatedCost + pathCost
  | .createPort _ portNo => portNo ∉ w.br.numbers
  | _ => True

/-- What holds within an action that began in `w₀`. -/
structure Within (W : Wire κ Φ) (w₀ : World κ τ Φ) (a : Action κ τ Φ) (w : World κ τ Φ) :
    Prop where
  apart : RootApart w.br
  silent : Silent w.br
  rootPort : a = .event (.setState true) → w.br.rootPort = w₀.br.rootPort
  sent : a ≠ .event (.setState false) →
    SendsFrom W (fun n ↦ w.br.rootPort ≠ 0 → n ≠ w.br.rootPort) w₀ w

variable {a : Action κ τ Φ}

omit [DecidableLT κ] [OfNat κ 0] in
theorem Within.speaks_ne (h : Within W w₀ a w) {q : StpPortEntry κ} (hq : q ∈ w.br.portList)
    (hs : Speaks w.br q) (hne : w.br.rootPort ≠ 0) : q.portNo ≠ w.br.rootPort := by
  intro hno
  have hr : stpIsRootBridge w.br = false := Bool.eq_false_iff.mpr (mt h.apart.isRoot.mp hne)
  obtain ⟨q₀, hq₀, hno₀, hlive⟩ := h.apart.root hr
  obtain rfl := List.inj_on_of_nodup_map h.apart.nodup hq hq₀ (hno.trans hno₀.symm)
  obtain hpend | ⟨-, hd⟩ := hs
  · rw [h.silent q hq hlive hno] at hpend
    cases hpend
  · rw [(h.apart.entries q hq).apart hne hno] at hd
    cases hd

omit [DecidableLT κ] [OfNat κ 0] in
theorem Admits.fresh {q : StpPortEntry κ} (hadm : Admits W w₀ a w (.create q))
    (hc : KeepsRootApart W w₀ a) : q.portNo ∉ w.br.numbers := by
  cases hadm with
  | create addr portNo q hno =>
    rw [hno]
    exact hc

omit [Add κ] [LT κ] [DecidableLT κ] [OfNat κ 0] in
theorem Admits.elect_start {edit : Edit κ} (hadm : Admits W w₀ a w (.elect edit)) :
    a ≠ .event (.setState true) ∧ (a ≠ .event (.setState false) → w = w₀) := by
  cases hadm with
  | disable =>
    refine ⟨?_, fun h ↦ absurd rfl h⟩
    intro h
    cases h
  | record | expireAge | linkDown | setPathCost | setBridgePriority | changeBridgeId =>
    refine ⟨?_, fun _ ↦ rfl⟩
    intro h
    cases h

omit [DecidableLT κ] [OfNat κ 0] in
theorem Admits.keepsApart (hin : Within W w₀ a w) (hc : KeepsRootApart W w₀ a)
    (hadm : Admits W w₀ a w m) (hv : m.Valid w.br) : m.KeepsApart w.br := by
  cases hadm with
  | record portNo frame p q bpdu hp _ _ hbpdu => exact fun q hq ↦ hc bpdu hbpdu p hp q hq
  | linkUp portNo p q hp hq hup =>
    intro q' hq' hno
    obtain rfl := Option.some.inj (hq.symm.trans hq')
    rw [hno] at hup
    exact hup (hc ((stpGetPortEntry_portNo hp hq).symm.trans hno))
  | enable w p q hq hup =>
    intro q' hq' hno
    obtain rfl := Option.some.inj (hq.symm.trans hq')
    have hne := (hv q hq).ne_zero
    rw [hno, hin.rootPort rfl] at hup hne
    exact hup (hc hne)
  | setPortPriority p newprio => exact hc
  | setPathCost p pathCost => exact hc
  | clearOwn | adopt | becomeRoot | expireAge | advance | linkDown | setEnabled | disable
  | removeHead | create | setBridgePriority | changeBridgeId | setBridgeHelloTime
  | setBridgeForwardDelay | setBridgeMaxAge | setBridgeTimes => trivial

theorem Within.move [Std.Asymm (α := κ) (· < ·)] (h : Within W w₀ a w)
    (hc : KeepsRootApart W w₀ a) (hadm : Admits W w₀ a w m) (hv : m.Valid w.br)
    (hmoved : Moved H W m w w') : Within W w₀ a w' where
  apart := by
    refine ((h.apart.of_tree_eq tree_tree).apply hv.tree ?_ (hadm.keepsApart h hc hv).tree
      hmoved.apply).of_tree_eq tree_tree.symm
    rintro q rfl
    rw [numbers_of_badges (badges_of_tree_eq tree_tree)]
    exact hadm.fresh hc
  silent := hmoved.silent h.silent
  rootPort ha := by
    cases hm : m.elects with
    | false => exact (Move.root_kept hm hmoved.apply).1.trans (h.rootPort ha)
    | true =>
      cases m with
      | elect edit => exact absurd ha hadm.elect_start.1
      | clearOwn _ | enable _ | setPortPriority _ _ | advance _ | times _ | setEnabled _
      | create _ | removeHead => cases hm
  sent hne := by
    cases hm : m.elects with
    | false =>
      have hroot : w'.br.rootPort = w.br.rootPort := (Move.root_kept hm hmoved.apply).1
      rw [hroot]
      exact (h.sent hne).trans (hmoved.sent.mono fun _ ↦ False.elim)
    | true =>
      cases m with
      | elect edit =>
        obtain rfl := hadm.elect_start.2 hne
        exact hmoved.sent.mono fun _ ↦ False.elim
      | clearOwn _ | enable _ | setPortPriority _ _ | advance _ | times _ | setEnabled _
      | create _ | removeHead => cases hm

omit [DecidableLT κ] [OfNat κ 0] in
theorem Within.talk (h : Within W w₀ a w) (hquiet : Quiet W w w') : Within W w₀ a w' := by
  have hroot : w'.br.rootPort = w.br.rootPort := (congrArg StpInstance.rootPort hquiet.tree :)
  have hapart := h.apart.of_tree_eq hquiet.tree
  refine ⟨hapart, ?_, fun ha ↦ hroot.trans (h.rootPort ha), ?_⟩
  · intro q' hq' hlive hno
    by_contra hpend
    obtain ⟨i, hi⟩ := List.mem_iff_getElem?.mp hq'
    have hspeaks : Speaks w'.br q' := .inl (Bool.eq_true_of_not_eq_false hpend)
    obtain ⟨q, hq, hs, hqno⟩ := speaks_of_tree_eq hquiet.tree hquiet.pending hi hspeaks
    have hne := (hapart.live q' hq' hlive).ne_zero
    rw [hqno] at hno hne
    rw [hroot] at hno
    exact h.speaks_ne (List.mem_of_getElem? hq) hs (hno ▸ hne) hno
  · intro hne
    rw [hroot]
    refine (h.sent hne).trans (hquiet.sent.mono ?_)
    rintro n ⟨q, hq, hs, rfl⟩
    exact h.speaks_ne hq hs

theorem Within.leads [Std.Asymm (α := κ) (· < ·)] (h : Within W w₀ a w)
    (hc : KeepsRootApart W w₀ a) (hlead : Leads H W (Admits W w₀ a) w w') : Within W w₀ a w' := by
  induction hlead with
  | refl => exact h
  | tail _ hstage ih =>
    cases hstage with
    | move m hadm hv hmoved => exact ih.move hc hadm hv hmoved
    | talk hquiet => exact ih.talk hquiet
    | outside hbr hsent =>
      refine ⟨hbr ▸ ih.apart, hbr ▸ ih.silent, fun ha ↦ hbr ▸ ih.rootPort ha, fun hne ↦ ?_⟩
      rw [hbr]
      exact (ih.sent hne).trans (.of_eq hsent)

theorem sends_leads {adm : World κ τ Φ → Move κ → Prop} (h : Leads H W adm w w') :
    SendsFrom W (fun _ ↦ True) w w' := by
  induction h with
  | refl => exact .refl
  | tail _ hstage ih =>
    refine ih.trans ?_
    cases hstage with
    | move m _ _ hmoved => exact hmoved.sent.mono fun _ _ ↦ trivial
    | talk hquiet => exact hquiet.sent.mono fun _ _ ↦ trivial
    | outside _ hsent => exact .of_eq hsent

variable [OfNat κ 20000]

theorem step_within [Std.Asymm (α := κ) (· < ·)] (hapart : RootApart w.br) (hsilent : Silent w.br)
    (hc : KeepsRootApart W w a) (h : step H W w a = some w') : Within W w a w' :=
  Within.leads ⟨hapart, hsilent, fun _ ↦ rfl, fun _ ↦ .refl⟩ hc (step_leads hapart.toRootFound h)

theorem step_sends_apart [Std.Asymm (α := κ) (· < ·)] (hapart : RootApart w.br)
    (hsilent : Silent w.br) (hc : KeepsRootApart W w a) (h : step H W w a = some w') :
    SendsFrom W (fun n ↦ w'.br.rootPort ≠ 0 → n ≠ w'.br.rootPort) w w' := by
  have hwithin := step_within hapart hsilent hc h
  by_cases ha : a = .event (.setState false)
  · subst ha
    -- no port is left, so the bridge is the root
    obtain ⟨r, hr, rfl⟩ := Option.map_eq_some_iff.mp h
    have hnil := ((stpSetState_safe hapart.toRootFound false).2 r.1 r.2 hr).2 rfl
    refine (sends_leads (step_leads hapart.toRootFound h)).mono fun _ _ hne ↦ absurd ?_ hne
    by_contra hz
    obtain ⟨q, hq, -⟩ := hwithin.apart.root
      (Bool.eq_false_iff.mpr (mt hwithin.apart.isRoot.mp hz))
    rw [hnil] at hq
    cases hq
  · exact hwithin.sent ha

omit [Add κ] [LT κ] [DecidableLT κ] in
theorem newInstance_apart [Add κ] [LT κ] (vlanId : U16) (addr : MacAddress)
    (portCdb : Vector PortT maxPorts) (env : τ) :
    RootApart (newInstance (κ := κ) (Φ := Φ) H vlanId addr [] portCdb env).br ∧
      Silent (newInstance (κ := κ) (Φ := Φ) H vlanId addr [] portCdb env).br :=
  ⟨⟨newInstance_rooted vlanId addr portCdb env, fun _ hq ↦ nomatch hq⟩, fun _ hq ↦ nomatch hq⟩

end Steps

/-- In every run of such actions, a root port is not a designated port, and
configuration BPDUs are sent on other ports only. -/
theorem root_port_never_designated {τ Φ : Type} (H : Host τ) (W : Wire Int32 Φ) {vlanId : U16}
    {addr : MacAddress} {portCdb : Vector PortT maxPorts} {env : τ}
    {as : List (Action Int32 τ Φ)} {w : World Int32 τ Φ}
    (h : Run (step H W) (KeepsRootApart W) (newInstance H vlanId addr [] portCdb env) as w) :
    (w.br.rootPort ≠ 0 → ∃ q, stpGetPort w.br (w.br.rootPort.setWidth 16) = some q ∧
      stpIsDesignatedPort w.br q = false) ∧
    ∀ a w', KeepsRootApart W w a → step H W w a = some w' →
      SendsFrom W (fun n ↦ w'.br.rootPort ≠ 0 → n ≠ w'.br.rootPort) w w' := by
  obtain ⟨hapart, hsilent⟩ : RootApart w.br ∧ Silent w.br := by
    refine h.invariant (I := fun w ↦ RootApart w.br ∧ Silent w.br) ?_
      (newInstance_apart vlanId addr portCdb env)
    rintro _ _ _ ⟨hapart, hsilent⟩ hc hs
    have hwithin := step_within hapart hsilent hc hs
    exact ⟨hwithin.apart, hwithin.silent⟩
  refine ⟨?_, fun a w' hc hs ↦ step_sends_apart hapart hsilent hc hs⟩
  intro hne
  obtain ⟨q, hq, hno, hlive⟩ := hapart.root
    (Bool.eq_false_iff.mpr (mt hapart.isRoot.mp hne))
  refine ⟨q, ?_, (hapart.entries q hq).apart hne hno⟩
  rw [← hno]
  exact stpGetPort_of_mem hapart.nodup hq (hapart.live q hq hlive)

instance (W : Wire Int32 Φ) (w : World Int32 τ Φ) (a : Action Int32 τ Φ) :
    Decidable (KeepsRootApart W w a) :=
  match a with
  | .event (.receive portNo frame) => inferInstanceAs (Decidable (∀ bpdu, W.Config frame bpdu →
      ∀ p, stpGetPortEntry w.br portNo = some p → ∀ q, w.br.portList[p]? = some q →
        bpdu.rootPathCost < bpdu.rootPathCost + q.pathCost))
  | .event (.link _ .up) => inferInstanceAs (Decidable (_ = _ → _ = _))
  | .event (.setState true) => inferInstanceAs (Decidable (_ ≠ _ → _ = _))
  | .event (.setPortPriority p newprio) => inferInstanceAs
      (Decidable (∀ q, w.br.portList[p]? = some q → q.portNo = w.br.rootPort →
        q.designatedBridge = w.br.bridgeId →
          q.designatedPort < stpMakePortId newprio (q.portNo.setWidth 16)))
  | .setPathCost p pathCost => inferInstanceAs
      (Decidable (∀ q, w.br.portList[p]? = some q → q.state ≠ .disabled →
        stpIsDesignatedPort w.br q = false → q.designatedCost < q.designatedCost + pathCost))
  | .createPort _ portNo => inferInstanceAs (Decidable (portNo ∉ w.br.numbers))
  | .event .helloTimer | .event .tcnTimer | .event .topologyChangeTimer |
      .event (.messageAgeTimer _) | .event (.forwardDelayTimer _) | .event (.holdTimer _) |
      .event (.link _ .down) | .event (.setState false) | .event (.setOperStatus _ _) |
      .event (.host _) | .setBridgePriority _ | .changeBridgeId _ | .setBridgeHelloTime _ |
      .setBridgeForwardDelay _ | .setBridgeMaxAge _ | .setBridgeTimes _ _ _ => isTrue trivial

/-- With the link of the root port up, `enable` makes it designated, and the
next hello goes out towards the root. -/
theorem root_port_enabled_again :
    ∃ w w' q, Run (step relayHost (frames .little)) NewNumber leafStart
        (leafActions ++ [.event (.link 1 .up)]) w ∧
      w.br.rootPort = 1 ∧ stpGetPort w.br 1 = some q ∧ stpIsDesignatedPort w.br q = true ∧
      step relayHost (frames .little) w (.event .helloTimer) = some w' ∧
      ∃ x ∈ w'.sent.drop w.sent.length, x.1 = 1 ∧
        (frames .little).type x.2 = some bpduConfigType := by
  have hcheck : ((exec (fun w a ↦ if NewNumber w a then step relayHost (frames .little) w a
      else none) leafStart (leafActions ++ [.event (.link 1 .up)])).any fun w ↦
      (stpGetPort w.br 1).any fun q ↦
      (step relayHost (frames .little) w (.event .helloTimer)).any fun w' ↦
        w.br.rootPort = 1 ∧ stpIsDesignatedPort w.br q = true ∧
        ∃ x ∈ w'.sent.drop w.sent.length, x.1 = 1 ∧
          (frames .little).type x.2 = some bpduConfigType) = true := by
    decide +kernel
  simp only [Option.any_eq_true, decide_eq_true_eq] at hcheck
  obtain ⟨w, hexec, q, hq, w', hw', hroot, hd, hx⟩ := hcheck
  exact ⟨w, w', q, (run_of_exec hexec).guarded, hroot, hq, hd, hw', hx⟩

theorem root_port_never_designated_leaf :
    ∃ w q, Run (step relayHost (frames .little)) (KeepsRootApart (frames .little)) leafStart
        leafActions w ∧
      w.br.rootPort = 1 ∧ stpGetPort w.br 1 = some q ∧ stpIsDesignatedPort w.br q = false := by
  have hcheck : ((exec (fun w a ↦ if KeepsRootApart (frames .little) w a then
      step relayHost (frames .little) w a else none) leafStart leafActions).any fun w ↦
      w.br.rootPort = 1) = true := by
    decide +kernel
  simp only [Option.any_eq_true, decide_eq_true_eq] at hcheck
  obtain ⟨w, hexec, hroot⟩ := hcheck
  have hrun := (run_of_exec hexec).guarded
  have hne : w.br.rootPort ≠ 0 := by
    rw [hroot]
    decide
  obtain ⟨q, hq, hd⟩ := (root_port_never_designated relayHost (frames .little) hrun).1 hne
  rw [hroot] at hq
  exact ⟨w, q, hrun, hroot, hq, hd⟩

end Layer3Switch.Stp
