import Layer3Switch.Stp.Actions

namespace Layer3Switch.Stp

open Lib Lib.Bytes
open Timers (U32)

variable {κ τ Φ : Type} {H : Host τ} {W : Wire κ Φ} {F : Prop} {w₀ w : World κ τ Φ}

/-- The change after which the bridge elects anew has been made. -/
structure Edited (edit : Edit κ) (w₀ w : World κ τ Φ) : Prop where
  tree : w.br.tree = edit.apply w₀.br.tree
  sent : w.sent = w₀.sent
  operStatus : ∀ n, w.operStatus n = w₀.operStatus n

theorem Edit.entry {br : StpInstance κ} {edit : Edit κ} {q' : StpPortEntry κ}
    (h : q' ∈ (edit.apply br).portList) :
    ∃ q ∈ br.portList, q'.portNo = q.portNo ∧ (q.state = .disabled → q'.state = .disabled) := by
  have hmodify : ∀ {p : ℕ} {f : StpPortEntry κ → StpPortEntry κ},
      q' ∈ (br.modifyPort p f).portList →
      (∀ q, (f q).portNo = q.portNo ∧ (q.state = .disabled → (f q).state = .disabled)) →
      ∃ q ∈ br.portList, q'.portNo = q.portNo ∧ (q.state = .disabled → q'.state = .disabled) := by
    intro p f h hf
    obtain ⟨q, hq, rfl | ⟨-, rfl⟩⟩ := mem_modifyPort h
    · exact ⟨q', hq, rfl, id⟩
    · exact ⟨q, hq, hf q⟩
  cases edit with
  | record p bpdu | expireAge p | setPathCost p c => exact hmodify h fun _ ↦ ⟨rfl, id⟩
  | disable p => exact hmodify h fun _ ↦ ⟨rfl, fun _ ↦ rfl⟩
  | setBridgePriority newprio =>
    obtain ⟨q, hq, rfl⟩ := List.mem_map.mp h
    refine ⟨q, hq, ?_⟩
    unfold reprioritizePort
    split <;> exact ⟨rfl, id⟩
  | changeBridgeId addr =>
    obtain ⟨q, hq, rfl⟩ := List.mem_map.mp h
    exact ⟨q, hq, rfl, id⟩

theorem Edited.entry {edit : Edit κ} (h : Edited edit w₀ w) {q' : StpPortEntry κ}
    (hq' : q' ∈ w.br.portList) :
    ∃ q ∈ w₀.br.portList, q'.portNo = q.portNo ∧ (q.state = .disabled → q'.state = .disabled) := by
  have htree : q'.tree ∈ (edit.apply w₀.br).tree.portList := by
    rw [tree_edit, ← h.tree]
    exact List.mem_map_of_mem hq'
  obtain ⟨q₁, hq₁, heq⟩ := List.mem_map.mp htree
  obtain ⟨q, hq, hno, hstate⟩ := Edit.entry hq₁
  have hno' := congrArg StpPortEntry.portNo heq
  have hstate' := congrArg StpPortEntry.state heq
  exact ⟨q, hq, hno'.symm.trans hno, fun hdis ↦ hstate'.symm.trans (hstate hdis)⟩

theorem Edited.live {edit : Edit κ} (h : Edited edit w₀ w) (hw : RootFound w₀.br)
    {q : StpPortEntry κ} (hq : q ∈ w.br.portList) (hlive : q.state ≠ .disabled) :
    InTable q.portNo := by
  obtain ⟨q₀, hq₀, hno, hstate⟩ := h.entry hq
  rw [hno]
  exact hw.live q₀ hq₀ fun hdis ↦ hlive (hstate hdis)

theorem Edited.env {edit : Edit κ} (h : Edited edit w₀ w) (env : τ) :
    Edited edit w₀ { w with env := env } :=
  ⟨h.tree, h.sent, h.operStatus⟩

theorem Selected.ready {w' : World κ τ Φ} (h : Selected W w w') (hw : Ready F w.br) :
    Ready F w'.br := by
  rw [← ready_tree, h.tree]
  refine (ready_tree.mpr hw).of_badges ?_ rfl rfl
  rw [selectStates, List.map_map]
  exact List.map_congr_left fun q _ ↦ selectState_badge _ q

section Entries

variable {br : StpInstance κ} {p : ℕ}

theorem RootFound.enable (hw : RootFound br)
    (hin : ∀ q, br.portList[p]? = some q → InTable q.portNo) :
    RootFound (br.modifyPort p (initPort br)) := by
  constructor
  · intro q' hq' hlive
    obtain ⟨q, hq, rfl | ⟨hp, rfl⟩⟩ := mem_modifyPort hq'
    · exact hw.live _ hq hlive
    · exact hin q hp
  · intro hr
    obtain ⟨q, hq, hno, hlive⟩ := hw.root hr
    obtain ⟨i, hi⟩ := List.mem_iff_getElem?.mp hq
    have hi' := List.getElem?_modify (initPort br) p br.portList i
    rw [hi] at hi'
    refine ⟨_, List.mem_of_getElem? hi', ?_⟩
    split
    · exact ⟨hno, PortState.noConfusion⟩
    · exact ⟨hno, hlive⟩

theorem Ready.enable (hw : Ready F br) (hin : ∀ q, br.portList[p]? = some q → InTable q.portNo) :
    Ready F (br.modifyPort p (initPort br)) := by
  refine ⟨hw.toRootFound.enable hin, ?_⟩
  intro q' hq'
  obtain ⟨q, hq, rfl | ⟨-, rfl⟩⟩ := mem_modifyPort hq'
  · exact hw.table _ hq
  · exact hw.table q hq

theorem RootFound.tail (hw : RootFound br)
    (hhead : ∀ q, br.portList[0]? = some q → q.state = .disabled) :
    RootFound { br with portList := br.portList.tail } := by
  constructor
  · intro q hq
    exact hw.live q (List.mem_of_mem_tail hq)
  · intro hr
    obtain ⟨q, hq, hno, hlive⟩ := hw.root hr
    refine ⟨q, ?_, hno, hlive⟩
    cases hports : br.portList with
    | nil => rw [hports] at hq; cases hq
    | cons q₀ ports =>
      rw [hports] at hq hhead
      obtain rfl | hq := List.mem_cons.mp hq
      · exact absurd (hhead q rfl) hlive
      · exact hq

theorem Ready.tail (hw : Ready F br)
    (hhead : ∀ q, br.portList[0]? = some q → q.state = .disabled) :
    Ready F { br with portList := br.portList.tail } :=
  ⟨hw.toRootFound.tail hhead, fun q hq ↦ hw.table q (List.mem_of_mem_tail hq)⟩

theorem Silent.modifyPort (h : Silent br) {f : StpPortEntry κ → StpPortEntry κ}
    (hf : ∀ q, (f q).portNo = q.portNo ∧ (q.state = .disabled → (f q).state = .disabled) ∧
      (f q).configPending = q.configPending) : Silent (br.modifyPort p f) := by
  intro q' hq' hlive hno
  obtain ⟨q, hq, rfl | ⟨-, rfl⟩⟩ := mem_modifyPort hq'
  · exact h _ hq hlive hno
  · obtain ⟨hno', hstate, hpend⟩ := hf q
    rw [hpend]
    exact h q hq (fun hdis ↦ hlive (hstate hdis)) (hno'.symm.trans hno)

theorem Silent.append (h : Silent br) {q : StpPortEntry κ} (hq : q.configPending = false) :
    Silent { br with portList := br.portList ++ [q] } := by
  intro q' hq' hlive hno
  obtain hq' | hq' := List.mem_append.mp hq'
  · exact h q' hq' hlive hno
  · rw [List.mem_singleton.mp hq']
    exact hq

theorem rerank_eq {q : StpPortEntry κ} {newprio : U8}
    (hq : br.portList[p]? = some q) :
    rerank p newprio br =
      if br.bridgeId = (renamePort newprio br q).designatedBridge ∧
          (renamePort newprio br q).portId < (renamePort newprio br q).designatedPort then
        selectStates ((br.modifyPort p (renamePort newprio br)).modifyPort p
          (stpBecomeDesignatedPort (br.modifyPort p (renamePort newprio br))))
      else br.modifyPort p (renamePort newprio br) := by
  have hentry : (br.modifyPort p (renamePort newprio br)).portList[p]? =
      some (renamePort newprio br q) := by
    simp [StpInstance.modifyPort, hq]
  simp only [rerank, hentry]

end Entries

variable [Add κ] [LT κ] [DecidableLT κ] [OfNat κ 0] {adm : World κ τ Φ → Move κ → Prop}

theorem Edited.moved {edit : Edit κ} (h : Edited edit w₀ w) {br : StpInstance κ}
    (hbr : stpConfigurationUpdate H.endian w.br = some br) {w' : World κ τ Φ}
    (hsel : Selected W { w with br := br } w') : Moved H W (.elect edit) w₀ w' where
  apply := by
    rw [Move.apply, reelect, ← h.tree, stpConfigurationUpdate_tree, hbr, hsel.tree]
    rfl
  operStatus n := (hsel.operStatus n).trans (h.operStatus n)
  sent := (SendsFrom.of_eq h.sent).trans hsel.sent
  silent _ := hsel.silent

theorem reelect_cases {e : Endian} {br br' : StpInstance κ} (h : reelect e br = some br') :
    ∃ br₁, stpRootSelection e br = some br₁ ∧ br₁.portList = br.portList ∧
      br₁.bridgeId = br.bridgeId ∧ br' = selectStates
        { br₁ with portList := br.portList.map (selectDesignatedPort e br₁) } := by
  obtain ⟨br₂, h₂, rfl⟩ := Option.map_eq_some_iff.mp h
  obtain ⟨br₁, h₁, hports, hid, rfl⟩ := stpConfigurationUpdate_cases h₂
  exact ⟨br₁, h₁, hports, hid, rfl⟩

theorem Moved.length {edit : Edit κ} {w' : World κ τ Φ} (h : Moved H W (.elect edit) w w') :
    w'.br.portList.length = w.br.portList.length := by
  obtain ⟨br₁, -, -, -, htree⟩ := reelect_cases h.apply
  have hlen := congrArg (fun t ↦ t.portList.length) htree
  have hedit : (edit.apply w.br.tree).portList.length = w.br.tree.portList.length := by
    cases edit with
    | record _ _ | expireAge _ | disable _ | setPathCost _ _ => exact List.length_modify ..
    | setBridgePriority _ | changeBridgeId _ => exact List.length_map ..
  simp only [selectStates, StpInstance.tree, List.length_map] at hlen hedit
  exact hlen.trans hedit

theorem Moved.disabled {p : ℕ} {w' : World κ τ Φ} (h : Moved H W (.elect (.disable p)) w w')
    {q' : StpPortEntry κ} (hq' : w'.br.tree.portList[p]? = some q') : q'.state = .disabled := by
  obtain ⟨br₁, -, -, -, htree⟩ := reelect_cases h.apply
  rw [htree] at hq'
  simp only [selectStates, Edit.apply, StpInstance.modifyPort, List.getElem?_map,
    List.getElem?_modify, Option.map_eq_map, Option.map_eq_some_iff] at hq'
  obtain ⟨q₂, ⟨q₁, ⟨q, -, rfl⟩, rfl⟩, rfl⟩ := hq'
  simp [selectDesignatedPort, selectState, selectedState, disablePort]

theorem Moved.times (t : BridgeTimes) :
    Moved H W (.times t) w { w with br := w.br.setTimes t } where
  apply := rfl
  operStatus _ := rfl
  sent := .of_eq rfl
  silent h := h

section Programs

variable (hH : H.Faults → F)
include hH

theorem reelect_safe {edit : Edit κ} (hed : Edited edit w₀ w) (hw : Ready F w₀.br) :
    Safe F (do configurationUpdate H; stpPortStateSelection H W) w fun _ w' ↦
      Moved H W (.elect edit) w₀ w' ∧ Ready F w'.br := by
  have hlive : ∀ q ∈ w.br.portList, q.state ≠ .disabled → InTable q.portNo :=
    fun q ↦ hed.live hw.toRootFound
  obtain ⟨br, hbr⟩ := stpConfigurationUpdate_isSome (e := H.endian) hlive
  have hupdate : Safe F (configurationUpdate H) w fun _ w' ↦ w' = { w with br := br } := by
    constructor
    · intro hnone
      rw [configurationUpdate, hbr] at hnone
      cases hnone
    · intro _ w' hm
      rw [configurationUpdate, hbr] at hm
      exact (congrArg Prod.snd (Option.some.inj hm)).symm
  have hready : Ready F br := by
    refine ⟨stpConfigurationUpdate_rootFound hbr hlive, ?_⟩
    obtain ⟨br₁, -, -, -, rfl⟩ := stpConfigurationUpdate_cases hbr
    intro q hq
    obtain ⟨q₁, hq₁, rfl⟩ := List.mem_map.mp hq
    obtain ⟨q₀, hq₀, hno, -⟩ := hed.entry hq₁
    rw [(selectDesignatedPort_kept H.endian br₁ q₁).portNo, hno]
    exact hw.table q₀ hq₀
  refine hupdate.andThen ?_
  rintro _ _ rfl
  refine (stpPortStateSelection_safe hH hready).mono ?_
  intro _ w' hsel
  exact ⟨hed.moved hbr hsel, hsel.ready hready⟩

theorem becomeRootIfElected_safe {edit : Edit κ} (hed : Edited edit w₀ w) (hw : Ready F w₀.br)
    (hadm : adm w₀ (.elect edit))
    (hroot : ∀ w, stpIsRootBridge w.br → adm w (.times w.br.ownTimes)) (wasRoot : Bool) :
    Safe F (becomeRootIfElected H W wasRoot) w fun _ w' ↦ Leads H W adm w₀ w' ∧ Ready F w'.br ∧
      ∃ w₁, Moved H W (.elect edit) w₀ w₁ ∧ w'.br.tree.portList = w₁.br.tree.portList := by
  unfold becomeRootIfElected
  rw [← bind_assoc]
  refine (reelect_safe hH hed hw).andThen ?_
  rintro _ w₁ ⟨h₁, hready⟩
  have hlead : Leads H W adm w₀ w₁ := .single (.move _ hadm trivial h₁)
  apply safe_bridge
  apply Safe.onlyIf
  · intro his
    refine (stpBecomeRootBridge_safe hH hready).mono ?_
    intro _ w' hq
    have htimes := Stage.move _ (hroot w₁ (Bool.and_eq_true_iff.mp his).1) trivial
      (Moved.times (H := H) (W := W) w₁.br.ownTimes)
    have hports := congrArg StpInstance.portList hq.tree
    exact ⟨(hlead.tail htimes).tail (.talk hq), (hready.setTimes _).of_tree_eq hq.tree,
      w₁, h₁, hports⟩
  · intro _
    exact ⟨hlead, hready, w₁, h₁, rfl⟩

theorem stpDisablePort_then {p : ℕ} {q : StpPortEntry κ} {Q : Unit → World κ τ Φ → Prop}
    (hq : w.br.portList[p]? = some q)
    (h : ∀ w', Edited (.disable p) w w' →
      Safe F (becomeRootIfElected H W (stpIsRootBridge w.br)) w' Q) :
    Safe F (stpDisablePort H W p) w Q := by
  apply safe_bridge
  apply safe_setPort
  apply safe_setPort
  have hed : Edited (.disable p) w ((w.modifyPort p (stpBecomeDesignatedPort w.br)).modifyPort p
      ({ · with state := .disabled, topologyChangeAck := false, configPending := false
                isOwnBpdu := false })) := by
    refine ⟨?_, rfl, fun _ ↦ rfl⟩
    have hmod : ((w.modifyPort p (stpBecomeDesignatedPort w.br)).modifyPort p
        ({ · with state := .disabled, topologyChangeAck := false, configPending := false
                  isOwnBpdu := false })).br =
        w.br.modifyPort p (disablePort w.br) := by
      simp only [World.modifyPort, StpInstance.modifyPort, List.modify_modify_eq]
      rfl
    rw [hmod]
    exact tree_edit (.disable p)
  apply safe_port (q := disablePort w.br q)
  · simp [World.modifyPort, hq, disablePort, stpBecomeDesignatedPort]
  have hdel : ∀ (t : TimerRef) (w' : World κ τ Φ), Edited (.disable p) w w' →
      Safe F (delTimer H t) w' fun _ w' ↦ Edited (.disable p) w w' :=
    fun t w' h ↦ safe_delTimer hH fun env ↦ h.env env
  refine (hdel _ _ hed).andThen ?_
  intro _ w₁ h₁
  refine (hdel _ w₁ h₁).andThen ?_
  intro _ w₂ h₂
  refine (hdel _ w₂ h₂).andThen ?_
  intro _ w₃ h₃
  exact h w₃ h₃

theorem stpDisablePort_safe {p : ℕ} {q : StpPortEntry κ} (hq : w.br.portList[p]? = some q)
    (hw : Ready F w.br) (hadm : adm w (.elect (.disable p)))
    (hroot : ∀ w, stpIsRootBridge w.br → adm w (.times w.br.ownTimes)) :
    Safe F (stpDisablePort H W p) w fun _ w' ↦ Leads H W adm w w' ∧ Ready F w'.br ∧
      ∃ w₁, Moved H W (.elect (.disable p)) w w₁ ∧ w'.br.tree.portList = w₁.br.tree.portList :=
  stpDisablePort_then hH hq fun _ hed ↦ becomeRootIfElected_safe hH hed hw hadm hroot _

omit hH in
theorem stpMessageAgeTimerExpired_then {p : ℕ} {q : StpPortEntry κ}
    {Q : Unit → World κ τ Φ → Prop} (hq : w.br.portList[p]? = some q) (hdis : Q () w)
    (h : ∀ w', Edited (.expireAge p) w w' →
      Safe F (becomeRootIfElected H W (stpIsRootBridge w.br)) w' Q) :
    Safe F (stpMessageAgeTimerExpired H W p) w Q := by
  apply safe_port hq
  apply safe_bridge
  apply Safe.onlyIf
  · intro _
    apply safe_setPort
    apply safe_becomeDesignatedPort
    refine h _ ⟨?_, rfl, fun _ ↦ rfl⟩
    have hmod : ((w.modifyPort p ({ · with isOwnBpdu := false })).modifyPort p
        (stpBecomeDesignatedPort (w.modifyPort p ({ · with isOwnBpdu := false })).br)).br =
        w.br.modifyPort p fun q ↦ stpBecomeDesignatedPort w.br { q with isOwnBpdu := false } := by
      simp only [World.modifyPort, StpInstance.modifyPort, List.modify_modify_eq]
      rfl
    rw [hmod]
    exact tree_edit (.expireAge p)
  · intro _
    exact hdis

theorem stpMessageAgeTimerExpired_safe {p : ℕ} {q : StpPortEntry κ}
    (hq : w.br.portList[p]? = some q) (hw : Ready F w.br) (hadm : adm w (.elect (.expireAge p)))
    (hroot : ∀ w, stpIsRootBridge w.br → adm w (.times w.br.ownTimes)) :
    Safe F (stpMessageAgeTimerExpired H W p) w fun _ w' ↦ Leads H W adm w w' :=
  stpMessageAgeTimerExpired_then hq .refl fun _ hed ↦
    (becomeRootIfElected_safe hH hed hw hadm hroot _).mono fun _ _ h ↦ h.1

theorem stpSetPathCost_safe {p : ℕ} {pathCost : κ} (hw : Ready F w.br)
    (hadm : adm w (.elect (.setPathCost p pathCost))) :
    Safe F (stpSetPathCost H W p pathCost) w fun _ w' ↦ Leads H W adm w w' := by
  apply safe_setPort
  refine Safe.mono (reelect_safe hH (?_ : Edited (.setPathCost p pathCost) w _) hw) fun _ _ h ↦
    Relation.ReflTransGen.single (.move _ hadm trivial h.1)
  exact ⟨tree_edit (.setPathCost p pathCost), rfl, fun _ ↦ rfl⟩

theorem stpSetBridgePriority_safe {newprio : U16} (hw : Ready F w.br)
    (hadm : adm w (.elect (.setBridgePriority newprio)))
    (hroot : ∀ w, stpIsRootBridge w.br → adm w (.times w.br.ownTimes)) :
    Safe F (stpSetBridgePriority H W newprio) w fun _ w' ↦ Leads H W adm w w' := by
  apply safe_bridge
  apply safe_setBridge
  refine Safe.mono (becomeRootIfElected_safe hH
    (?_ : Edited (.setBridgePriority newprio) w _) hw hadm hroot _) fun _ _ h ↦ h.1
  exact ⟨tree_edit (.setBridgePriority newprio), rfl, fun _ ↦ rfl⟩

theorem stpChangeBridgeId_safe {addr : MacAddress} (hw : Ready F w.br)
    (hadm : adm w (.elect (.changeBridgeId addr)))
    (hroot : ∀ w, stpIsRootBridge w.br → adm w (.times w.br.ownTimes)) :
    Safe F (stpChangeBridgeId H W addr) w fun _ w' ↦ Leads H W adm w w' := by
  apply safe_bridge
  apply safe_setBridge
  refine Safe.mono (becomeRootIfElected_safe hH
    (?_ : Edited (.changeBridgeId addr) w _) hw hadm hroot _) fun _ _ h ↦ h.1
  exact ⟨tree_edit (.changeBridgeId addr), rfl, fun _ ↦ rfl⟩

omit [Add κ] [LT κ] [DecidableLT κ] [OfNat κ 0] hH in
theorem setIfStpInfo_safe {n : U32} (hn : InTable n) (entry : ℕ) :
    Safe F (setIfStpInfo n entry) w fun _ w' ↦
      w'.br = w.br ∧ w'.sent = w.sent ∧ ∀ m, w'.operStatus m = w.operStatus m := by
  apply safe_portCdb (.inl hn)
  intro t ht
  refine .update ⟨rfl, rfl, ?_⟩
  intro m
  simp only [World.operStatus, Vector.getElem?_setIfInBounds]
  split_ifs with hm hlt
  · rw [← hm, ht]
    rfl
  · exact absurd hn hlt
  · rfl

theorem stpEnablePort_safe {p : ℕ} {q : StpPortEntry κ} (hq : w.br.portList[p]? = some q)
    (hw : Ready F w.br) :
    Safe F (stpEnablePort H W p) w fun _ w' ↦ w' = w ∨
      w.operStatus q.portNo ≠ some .down ∧ InTable q.portNo ∧ Moved H W (.enable p) w w' ∧
        Ready F w'.br := by
  apply safe_port hq
  apply safe_portCdb (hw.table q (List.mem_of_getElem? hq))
  intro t ht
  apply Safe.onlyIf
  · intro hne
    have hin : InTable q.portNo := by
      by_contra hout
      rw [Vector.getElem?_eq_none (Nat.not_lt.mp hout)] at ht
      cases ht
    have hup : w.operStatus q.portNo ≠ some .down := by
      rw [World.operStatus, ht]
      exact fun heq ↦ hne (Option.some.inj heq)
    have hinit : Safe F (stpInitPort p) w fun _ w' ↦
        w'.br = w.br.modifyPort p (initPort w.br) ∧ w'.sent = w.sent ∧
          ∀ m, w'.operStatus m = w.operStatus m := by
      apply safe_bridge
      apply safe_setPort
      apply safe_port (q := initPort w.br q)
      · simp [World.modifyPort, hq]
      exact setIfStpInfo_safe hin _
    refine hinit.andThen ?_
    rintro _ w₁ ⟨hbr, hsent, hoper⟩
    have hready : Ready F w₁.br := by
      rw [hbr]
      refine hw.enable fun q' hq' ↦ ?_
      obtain rfl := Option.some.inj (hq.symm.trans hq')
      exact hin
    refine (stpPortStateSelection_safe hH hready).mono ?_
    intro _ w' hsel
    refine .inr ⟨hup, hin, ⟨?_, ?_, ?_, fun _ ↦ hsel.silent⟩, hsel.ready hready⟩
    · rw [hsel.tree, hbr, tree_modifyPort (g := initPort w.br.tree) fun _ ↦ rfl]
      rfl
    · exact fun n ↦ (hsel.operStatus n).trans (hoper n)
    · exact (SendsFrom.of_eq hsent).trans hsel.sent
  · intro _
    exact .inl rfl

theorem stpSetPortPriority_safe {p : ℕ} {q : StpPortEntry κ} {newprio : U8}
    (hq : w.br.portList[p]? = some q) (hw : Ready F w.br) :
    Safe F (stpSetPortPriority H W p newprio) w fun _ w' ↦
      Moved H W (.setPortPriority p newprio) w w' := by
  have hrename : (w.br.modifyPort p (renamePort newprio w.br)).tree =
      w.br.tree.modifyPort p (renamePort newprio w.br.tree) :=
    tree_modifyPort (f := renamePort newprio w.br) (g := renamePort newprio w.br.tree)
      (fun _ ↦ rfl) p
  have hentry : (w.br.modifyPort p (renamePort newprio w.br)).portList[p]? =
      some (renamePort newprio w.br q) := by
    simp [StpInstance.modifyPort, hq]
  apply safe_bridge
  apply safe_setPort
  apply safe_port hentry
  apply Safe.onlyIf
  · intro hlt
    apply safe_becomeDesignatedPort
    have hready : Ready F (w.br.modifyPort p (renamePort newprio w.br)) :=
      hw.of_badges (badges_modifyPort hq rfl) rfl rfl
    have hready' : Ready F ((w.br.modifyPort p (renamePort newprio w.br)).modifyPort p
        (stpBecomeDesignatedPort (w.br.modifyPort p (renamePort newprio w.br)))) :=
      hready.of_badges (badges_modifyPort hentry rfl) rfl rfl
    refine (stpPortStateSelection_safe hH hready').mono ?_
    intro _ w' hsel
    refine ⟨?_, hsel.operStatus, (SendsFrom.of_eq rfl).trans hsel.sent, fun _ ↦ hsel.silent⟩
    have htree : ((w.br.modifyPort p (renamePort newprio w.br)).modifyPort p
        (stpBecomeDesignatedPort (w.br.modifyPort p (renamePort newprio w.br)))).tree = _ :=
      tree_modifyPort (g := stpBecomeDesignatedPort
        (w.br.modifyPort p (renamePort newprio w.br)).tree)
        (fun _ ↦ rfl) p
    rw [hrename] at htree
    rw [Move.apply, rerank_eq (tree_entry hq), hsel.tree]
    exact congrArg some ((if_pos hlt).trans (congrArg selectStates htree.symm))
  · intro hlt
    refine ⟨?_, fun _ ↦ rfl, .of_eq rfl, fun h ↦ h.modifyPort fun _ ↦ ⟨rfl, id, rfl⟩⟩
    rw [Move.apply, rerank_eq (tree_entry hq)]
    exact congrArg some ((if_neg hlt).trans hrename.symm)

theorem stpForwardDelayTimerExpired_safe {p : ℕ} {q : StpPortEntry κ}
    (hq : w.br.portList[p]? = some q) (hw : Ready F w.br) (hadm : adm w (.advance p)) :
    Safe F (stpForwardDelayTimerExpired H W p) w fun _ w' ↦ Leads H W adm w w' := by
  have hmove : ∀ s, s = q.state.advance →
    Leads H W adm w (w.modifyPort p ({ · with state := s })) := by
    rintro s rfl
    have hbr : w.br.modifyPort p ({ · with state := q.state.advance }) =
        w.br.modifyPort p fun q ↦ { q with state := q.state.advance } := modifyPort_congr hq rfl
    refine .single (.move _ hadm trivial ⟨?_, fun _ ↦ rfl, .of_eq rfl, ?_⟩)
    · refine congrArg some (Eq.symm ?_)
      exact (congrArg StpInstance.tree hbr).trans
        (tree_modifyPort (g := fun q ↦ { q with state := q.state.advance }) (fun _ ↦ rfl) p)
    · intro hsilent
      change Silent (w.br.modifyPort p _)
      rw [hbr]
      refine hsilent.modifyPort fun q ↦ ⟨rfl, ?_, rfl⟩
      intro hdis
      rw [hdis]
      rfl
  apply safe_port hq
  apply safe_bridge
  apply Safe.ite
  · intro hs
    apply safe_setPort
    apply safe_modTimer hH
    intro env
    exact (hmove _ (by rw [hs]; rfl)).tail (.talk (Quiet.refl.env env))
  · intro _
    apply Safe.onlyIf
    · intro hs
      apply safe_setPort
      apply safe_bridge
      have hlive : q.state ≠ .disabled := by
        rw [hs]
        exact PortState.noConfusion
      have hlead := hmove .forwarding (by rw [hs]; rfl)
      apply Safe.onlyIf
      · intro _
        refine (stpTopologyChangeDetection_safe hH
          (hw.setState hq hlive PortState.noConfusion)).mono ?_
        intro _ w' hn
        exact hlead.tail (.talk hn.quiet)
      · intro _
        exact hlead
    · intro _
      exact .refl

omit [Add κ] [OfNat κ 0] hH in
theorem supersedesPortInfo_safe {p : ℕ} {q : StpPortEntry κ} (hq : w.br.portList[p]? = some q)
    (hown : q.isOwnBpdu = false) (bpdu : StpBpdu κ) :
    Safe F (supersedesPortInfo H p bpdu) w fun supersedes w' ↦
      supersedes = (stpSupersedesPortInfo H.endian w.br q bpdu).1 ∧ w' = w := by
  apply safe_port hq
  apply safe_bridge
  apply safe_setPort
  refine .pure ⟨rfl, ?_⟩
  rw [stpSupersedesPortInfo_snd H.endian w.br hown bpdu]
  have hbr : w.br.modifyPort p (fun _ ↦ q) = w.br := modifyPort_self hq rfl
  exact congrArg (fun br ↦ { w with br := br }) hbr

theorem recordSuperior_safe {p : ℕ} {q : StpPortEntry κ} (hq : w.br.portList[p]? = some q)
    (hw : Ready F w.br) (bpdu : StpBpdu κ) (wasRoot : Bool) :
    Safe F (recordSuperior H W p bpdu wasRoot) (w.modifyPort p ({ · with isOwnBpdu := false }))
      fun _ w' ↦ ∃ w₁, Moved H W (.elect (.record p bpdu)) w w₁ ∧ Ready F w₁.br ∧
        Quiet W w₁ w' := by
  unfold recordSuperior stpRecordConfigInformation
  simp only [bind_assoc]
  apply safe_setPort
  apply safe_port (q := recordConfig bpdu { q with isOwnBpdu := false })
  · simp [World.modifyPort, hq]
  apply safe_bridge
  have hed : Edited (.record p bpdu) w
      ((w.modifyPort p ({ · with isOwnBpdu := false })).modifyPort p (recordConfig bpdu)) := by
    refine ⟨?_, rfl, fun _ ↦ rfl⟩
    have hmod : ((w.modifyPort p ({ · with isOwnBpdu := false })).modifyPort p
        (recordConfig bpdu)).br =
        w.br.modifyPort p fun q ↦ recordConfig bpdu { q with isOwnBpdu := false } := by
      simp only [World.modifyPort, StpInstance.modifyPort, List.modify_modify_eq]
      rfl
    rw [hmod]
    exact tree_edit (.record p bpdu)
  refine (safe_modTimer hH (R := fun _ w' ↦ Edited (.record p bpdu) w w')
    fun env ↦ hed.env env).andThen ?_
  intro _ w₁ h₁
  rw [← bind_assoc]
  refine (reelect_safe hH h₁ hw).andThen ?_
  rintro _ w₂ ⟨h₂, hready⟩
  apply safe_bridge
  apply Safe.onlyIf
  · intro _
    exact (ceaseToBeRoot_safe hH hready).mono fun _ _ hquiet ↦ ⟨w₂, h₂, hready, hquiet⟩
  · intro _
    exact ⟨w₂, h₂, hready, .refl⟩

theorem stpReceivedConfigBpdu_safe {p : ℕ} {q : StpPortEntry κ} {bpdu : StpBpdu κ}
    (hq : w.br.portList[p]? = some q) (hlive : q.state ≠ .disabled) (hw : Ready F w.br)
    (hclear : adm w (.clearOwn p)) (hrecord : adm w (.elect (.record p bpdu)))
    (hadopt : ∀ w, adm w (.times (bpdu.times w.br))) :
    Safe F (stpReceivedConfigBpdu H W p bpdu) w fun _ w' ↦ Leads H W adm w w' := by
  apply safe_bridge
  apply safe_setPort
  have hq' : (w.modifyPort p ({ · with isOwnBpdu := false })).br.portList[p]? =
      some { q with isOwnBpdu := false } := by
    simp [World.modifyPort, hq]
  refine (supersedesPortInfo_safe hq' rfl bpdu).andThen ?_
  rintro _ _ ⟨-, rfl⟩
  apply Safe.ite
  · intro _
    refine (recordSuperior_safe hH hq hw bpdu _).andThen ?_
    rintro _ w₁ ⟨w₂, h₂, hready, hquiet⟩
    have hlead : Leads H W adm w w₁ :=
      (Relation.ReflTransGen.single (.move _ hrecord trivial h₂)).tail (.talk hquiet)
    replace hready := hready.of_tree_eq hquiet.tree
    have hlength : p < w₁.br.portList.length := by
      rw [hquiet.length, h₂.length]
      exact (List.getElem?_eq_some_iff.mp hq).1
    apply safe_port (List.getElem?_eq_getElem hlength)
    apply safe_bridge
    apply Safe.onlyIf
    · intro _
      refine (receivedOnRootPort_safe hH bpdu hready).mono ?_
      intro _ w' hquiet
      exact (hlead.tail (.move _ (hadopt w₁) trivial (.times _))).tail (.talk hquiet)
    · intro _
      exact hlead
  · intro _
    have hclear : Stage H W adm w (w.modifyPort p ({ · with isOwnBpdu := false })) := by
      refine .move _ hclear trivial
        ⟨?_, fun _ ↦ rfl, .of_eq rfl, fun h ↦ h.modifyPort fun _ ↦ ⟨rfl, id, rfl⟩⟩
      exact congrArg some (tree_modifyPort (g := ({ · with isOwnBpdu := false }))
        (fun _ ↦ rfl) p).symm
    apply safe_port hq'
    apply safe_bridge
    apply Safe.onlyIf
    · intro hd
      have hready : Ready F (w.br.modifyPort p ({ · with isOwnBpdu := false })) :=
        hw.of_badges (badges_modifyPort hq rfl) rfl rfl
      refine (stpTransmitConfig_safe hH hready hq' (.inr ⟨hlive, hd⟩)).mono ?_
      intro _ w' hquiet
      exact (Relation.ReflTransGen.single hclear).tail (.talk hquiet)
    · intro _
      exact .single hclear

theorem stpEnable_safe (hw : Ready F w.br) (hon : adm w (.setEnabled true))
    (hadm : ∀ w' p q, w'.br.portList[p]? = some q → w.operStatus q.portNo ≠ some .down →
      adm w' (.enable p)) :
    Safe F (stpEnable H W) w fun _ w' ↦ Leads H W adm w w' := by
  apply safe_setBridge
  apply safe_bridge
  have hset : Leads H W adm w { w with br := { w.br with stpEnabled := true } } :=
    .single (.move _ hon trivial ⟨rfl, fun _ ↦ rfl, .of_eq rfl, id⟩)
  have hset' : Ready F { w.br with stpEnabled := true } := hw.of_badges rfl rfl rfl
  refine (safe_modTimer hH (R := fun _ w' ↦
    Quiet W { w with br := { w.br with stpEnabled := true } } w')
    fun env ↦ Quiet.refl.env env).andThen ?_
  intro _ w₁ h₁
  refine (stpConfigBpduGeneration_safe hH (hset'.of_tree_eq h₁.tree)).andThen ?_
  intro _ w₂ h₂
  have hquiet := h₁.trans h₂
  refine Safe.mono (safe_forPorts (I := fun _ w' ↦ Leads H W adm w w' ∧ Ready F w'.br ∧
    w'.br.portList.length = w₂.br.portList.length ∧ ∀ n, w'.operStatus n = w.operStatus n) ?_ ?_)
    fun _ _ h ↦ h.1
  · rintro k hk w₃ ⟨hlead, hready, hlen, hoper⟩
    have hq := List.getElem?_eq_getElem (hlen ▸ hk)
    refine (stpEnablePort_safe hH hq hready).mono ?_
    rintro _ w' (rfl | ⟨hup, hin, hmoved, hready'⟩)
    · exact ⟨hlead, hready, hlen, hoper⟩
    · rw [hoper] at hup
      have hstage : Stage H W adm w₃ w' := by
        refine .move _ (hadm w₃ k _ hq hup) ?_ hmoved
        intro q hq'
        obtain rfl := Option.some.inj (hq.symm.trans hq')
        exact hin
      refine ⟨hlead.tail hstage, hready', ?_, fun n ↦ (hmoved.operStatus n).trans (hoper n)⟩
      have hlen' := congrArg (fun t ↦ t.portList.length) (Option.some.inj hmoved.apply)
      simp only [selectStates, StpInstance.modifyPort, StpInstance.tree, List.length_map,
        List.length_modify] at hlen'
      exact hlen'.symm.trans hlen
  · exact ⟨hset.tail (.talk hquiet), hset'.of_tree_eq hquiet.tree, rfl, hquiet.operStatus⟩

theorem stpDisableHead_safe (hw : Ready F w.br) (hlen : 0 < w.br.portList.length)
    (hadm : ∀ w, adm w (.elect (.disable 0))) (hrem : ∀ w, adm w .removeHead)
    (hroot : ∀ w, stpIsRootBridge w.br → adm w (.times w.br.ownTimes)) :
    Safe F (stpDisableHead H W) w fun _ w' ↦ Leads H W adm w w' ∧ Ready F w'.br ∧
      w'.br.portList.length + 1 = w.br.portList.length := by
  have hq := List.getElem?_eq_getElem hlen
  apply safe_port hq
  have hdisabled : Safe F (onlyIf (w.br.portList[0].state ≠ .disabled) (stpDisablePort H W 0)) w
      fun _ w' ↦ Leads H W adm w w' ∧ Ready F w'.br ∧
        w'.br.portList.length = w.br.portList.length ∧
          ∀ q, w'.br.portList[0]? = some q → q.state = .disabled := by
    apply Safe.onlyIf
    · intro _
      refine (stpDisablePort_safe hH hq hw (hadm w) hroot).mono ?_
      rintro _ w' ⟨hlead, hready, w₁, hmoved, hports⟩
      refine ⟨hlead, hready, ?_, ?_⟩
      · have hlen' := congrArg List.length hports
        simp only [StpInstance.tree, List.length_map] at hlen'
        exact hlen'.trans hmoved.length
      · intro q hq
        have hq' : w₁.br.tree.portList[0]? = some q.tree := by
          rw [← hports]
          exact tree_entry hq
        have hstate := hmoved.disabled hq'
        exact hstate
    · intro hdis
      refine ⟨.refl, hw, rfl, ?_⟩
      intro q hq'
      obtain rfl := Option.some.inj (hq.symm.trans hq')
      exact not_ne_iff.mp hdis
  refine hdisabled.andThen ?_
  rintro _ w₁ ⟨hlead, hready, hlen', hhead⟩
  apply Safe.update
  refine ⟨hlead.tail (.move .removeHead (hrem w₁) hhead ⟨?_, fun _ ↦ rfl, .of_eq rfl, ?_⟩),
    hready.tail hhead, ?_⟩
  · simp only [Move.apply, StpInstance.tree, List.map_tail]
  · exact fun hsilent q hq ↦ hsilent q (List.mem_of_mem_tail hq)
  · simp only [List.length_tail]
    omega

theorem stpDisable_safe (hw : Ready F w.br) (hadm : ∀ w, adm w (.elect (.disable 0)))
    (hrem : ∀ w, adm w .removeHead)
    (hroot : ∀ w, stpIsRootBridge w.br → adm w (.times w.br.ownTimes)) :
    Safe F (stpDisable H W) w fun _ w' ↦ Leads H W adm w w' ∧ Ready F w'.br ∧
      w'.br.portList = [] := by
  have hloop : Safe F (forPorts fun _ ↦ stpDisableHead H W) w fun _ w' ↦
      Leads H W adm w w' ∧ Ready F w'.br ∧ w'.br.portList.length + w.br.portList.length =
        w.br.portList.length := by
    refine safe_forPorts (I := fun k w' ↦ Leads H W adm w w' ∧ Ready F w'.br ∧
      w'.br.portList.length + k = w.br.portList.length) ?_ ⟨.refl, hw, rfl⟩
    rintro k hk w₁ ⟨hlead, hready, hlen⟩
    refine (stpDisableHead_safe hH hready (by omega) hadm hrem hroot).mono ?_
    rintro _ w₂ ⟨hlead', hready', hlen'⟩
    exact ⟨hlead.trans hlead', hready', by omega⟩
  refine hloop.andThen ?_
  rintro _ w₁ ⟨hlead, hready, hlen⟩
  have hnil : w₁.br.portList = [] := List.eq_nil_of_length_eq_zero (by omega)
  apply safe_setBridge
  apply safe_bridge
  have hdel : ∀ t w', Quiet W w₁ w' → Safe F (delTimer H t) w' fun _ w' ↦ Quiet W w₁ w' :=
    fun t w' h ↦ safe_delTimer hH fun env ↦ h.env env
  refine (hdel _ _ (.of_br { w₁.br with topologyChange := false, topologyChangeDetected := false }
    rfl rfl)).andThen ?_
  intro _ w₂ h₂
  refine (hdel _ w₂ h₂).andThen ?_
  intro _ w₃ h₃
  refine (hdel _ w₃ h₃).mono ?_
  intro _ w' hquiet
  refine ⟨hlead.tail (.talk hquiet), hready.of_tree_eq hquiet.tree, ?_⟩
  exact List.eq_nil_of_length_eq_zero (by rw [hquiet.length, hnil, List.length_nil])

end Programs

section Actions

variable [OfNat κ 20000]

/-- The reasons for which an action can break off other than in a timer call. A
null pointer in place of the root port is not among them. -/
inductive Excuse (W : Wire κ Φ) (w : World κ τ Φ) : Action κ τ Φ → Prop
  | table (a : Action κ τ Φ) (q : StpPortEntry κ) : q ∈ w.br.portList → ¬InTable q.portNo →
      Excuse W w a
  | frame (portNo : U16) (frame : Φ) : W.type frame = none →
      Excuse W w (.event (.receive portNo frame))
  | config (portNo : U16) (frame : Φ) : W.type frame = some bpduConfigType →
      W.decode frame = none → Excuse W w (.event (.receive portNo frame))
  | messageAgeTimer (p : ℕ) : w.br.portList[p]? = none → Excuse W w (.event (.messageAgeTimer p))
  | forwardDelayTimer (p : ℕ) : w.br.portList[p]? = none →
      Excuse W w (.event (.forwardDelayTimer p))
  | holdTimer (p : ℕ) : w.br.portList[p]? = none → Excuse W w (.event (.holdTimer p))
  | setPortPriority (p : ℕ) (newprio : U8) : w.br.portList[p]? = none →
      Excuse W w (.event (.setPortPriority p newprio))
  | link (portNo : U16) (status : IfStatus) : stpGetPortEntry w.br portNo = none →
      Excuse W w (.event (.link portNo status))

omit [Add κ] [LT κ] [DecidableLT κ] [OfNat κ 0] [OfNat κ 20000] in
theorem RootFound.ready (h : RootFound w.br) (a : Action κ τ Φ) :
    Ready (H.Faults ∨ Excuse W w a) w.br := by
  refine ⟨h, ?_⟩
  intro q hq
  by_cases hin : InTable q.portNo
  · exact .inl hin
  · exact .inr (.inr (.table a q hq hin))

omit [OfNat κ 20000] in
theorem stpProcessBpdu_safe (hw : RootFound w.br) (portNo : U16) (frame : Φ) :
    Safe (H.Faults ∨ Excuse W w (.event (.receive portNo frame)))
      (stpProcessBpdu H W portNo frame) w
      fun _ w' ↦ Leads H W (Admits W w (.event (.receive portNo frame))) w w' := by
  have hH : H.Faults → H.Faults ∨ Excuse W w (.event (.receive portNo frame)) := .inl
  have hready : Ready (H.Faults ∨ Excuse W w (.event (.receive portNo frame))) w.br := hw.ready _
  apply safe_bridge
  cases hp : stpGetPortEntry w.br portNo with
  | none => exact .pure .refl
  | some p =>
    have hlt : p < w.br.portList.length := (List.findIdx?_eq_some_iff_getElem.mp hp).1
    have hq := List.getElem?_eq_getElem hlt
    apply safe_port hq
    apply Safe.ite
    · intro _
      exact .pure .refl
    · intro hlive
      have hlive : w.br.portList[p].state ≠ .disabled := by
        intro hdis
        simp [hdis] at hlive
      apply safe_reads fun hnone ↦ .inr (.frame portNo frame hnone)
      intro type htype
      apply Safe.ite
      · intro hconfig
        apply Safe.ite
        · intro _
          exact .pure .refl
        · intro _
          apply safe_reads fun hnone ↦ .inr (.config portNo frame (hconfig ▸ htype) hnone)
          intro bpdu hdecode
          have hbpdu : W.Config frame bpdu := ⟨hconfig ▸ htype, hdecode⟩
          refine (stpReceivedConfigBpdu_safe hH hq hlive hready (Admits.clearOwn portNo frame p)
            (Admits.record portNo frame p _ bpdu hp hq hlive hbpdu)
            fun w' ↦ Admits.adopt w' portNo frame bpdu hbpdu).andThen ?_
          intro _ w' hlead
          exact .pure hlead
      · intro _
        apply Safe.ite
        · intro _
          apply Safe.ite
          · intro _
            exact .pure .refl
          · intro _
            refine (stpReceivedTcnBpdu_safe hH hq hlive hready).andThen ?_
            intro _ w' hquiet
            exact .pure (.single (.talk hquiet))
        · intro _
          exact .pure .refl

omit [OfNat κ 20000] in
theorem stpEnableOrDisablePort_safe (hw : RootFound w.br) (portNo : U16) (status : IfStatus) :
    Safe (H.Faults ∨ Excuse W w (.event (.link portNo status)))
      (stpEnableOrDisablePort H W portNo status) w
      fun _ w' ↦ Leads H W (Admits W w (.event (.link portNo status))) w w' := by
  have hH : H.Faults → H.Faults ∨ Excuse W w (.event (.link portNo status)) := .inl
  have hready : Ready (H.Faults ∨ Excuse W w (.event (.link portNo status))) w.br := hw.ready _
  apply safe_bridge
  apply safe_reads fun hnone ↦ .inr (.link portNo status hnone)
  intro p hp
  have hlt : p < w.br.portList.length := (List.findIdx?_eq_some_iff_getElem.mp hp).1
  have hq := List.getElem?_eq_getElem hlt
  cases status with
  | up =>
    refine (stpEnablePort_safe hH hq hready).mono ?_
    rintro _ w' (rfl | ⟨hup, hin, hmoved, -⟩)
    · exact .refl
    · refine .single (.move _ (.linkUp portNo p _ hp hq hup) ?_ hmoved)
      intro q hq'
      obtain rfl := Option.some.inj (hq.symm.trans hq')
      exact hin
  | down =>
    refine (stpDisablePort_safe hH hq hready (.linkDown portNo p hp) ?_).mono fun _ _ h ↦ h.1
    exact fun w' his ↦ .becomeRoot _ w' his

omit [OfNat κ 20000] in
theorem stpSetState_safe (hw : RootFound w.br) (state : Bool) :
    Safe (H.Faults ∨ Excuse W w (.event (.setState state))) (stpSetState H W state) w fun _ w' ↦
      Leads H W (Admits W w (.event (.setState state))) w w' ∧
        (state = false → w'.br.portList = []) := by
  have hH : H.Faults → H.Faults ∨ Excuse W w (.event (.setState state)) := .inl
  have hready : Ready (H.Faults ∨ Excuse W w (.event (.setState state))) w.br := hw.ready _
  have hset : Safe (H.Faults ∨ Excuse W w (.event (.setState state)))
      (if state then stpEnable H W else stpDisable H W) w fun _ w' ↦
        Leads H W (Admits W w (.event (.setState state))) w w' ∧
          (state = false → w'.br.portList = []) := by
    cases state with
    | true =>
      refine (stpEnable_safe hH hready (.setEnabled w true) ?_).mono fun _ _ h ↦
        ⟨h, Bool.noConfusion⟩
      exact fun w' p q hq hup ↦ .enable w' p q hq hup
    | false =>
      refine (stpDisable_safe hH hready (fun w' ↦ .disable w') (fun w' ↦ .removeHead w') ?_).mono
        fun _ _ h ↦ ⟨h.1, fun _ ↦ h.2.2⟩
      exact fun w' his ↦ .becomeRoot _ w' his
  refine hset.andThen ?_
  rintro _ w₁ ⟨hlead, hnil⟩
  apply Safe.update
  exact ⟨hlead.tail (.move _ (.setEnabled w₁ state) trivial ⟨rfl, fun _ ↦ rfl, .of_eq rfl, id⟩),
    hnil⟩

omit [OfNat κ 20000] in
theorem handle_safe (hw : RootFound w.br) (ev : Event τ Φ) :
    Safe (H.Faults ∨ Excuse W w (.event ev)) (handle H W ev) w fun _ w' ↦
      Leads H W (Admits W w (.event ev)) w w' := by
  have hH : H.Faults → H.Faults ∨ Excuse W w (.event ev) := .inl
  have hready : Ready (H.Faults ∨ Excuse W w (.event ev)) w.br := hw.ready _
  cases ev with
  | receive portNo frame =>
    refine (stpProcessBpdu_safe hw portNo frame).andThen ?_
    intro _ w' hlead
    exact .pure hlead
  | helloTimer =>
    refine (stpConfigBpduGeneration_safe hH hready).andThen ?_
    intro _ w₁ hquiet
    apply safe_bridge
    apply safe_modTimer hH
    intro env
    exact .single (.talk (hquiet.env env))
  | tcnTimer =>
    refine (stpTransmitTcn_quiet hready).andThen ?_
    intro _ w₁ hquiet
    apply safe_bridge
    apply safe_modTimer hH
    intro env
    exact .single (.talk (hquiet.env env))
  | topologyChangeTimer =>
    exact .update (.single (.talk (.of_br _ rfl rfl)))
  | messageAgeTimer p =>
    cases hq : w.br.portList[p]? with
    | none => exact safe_port_none hq (.inr (.messageAgeTimer p hq))
    | some q =>
      exact stpMessageAgeTimerExpired_safe hH hq hready (.expireAge p)
        fun w' his ↦ .becomeRoot _ w' his
  | forwardDelayTimer p =>
    cases hq : w.br.portList[p]? with
    | none => exact safe_port_none hq (.inr (.forwardDelayTimer p hq))
    | some q => exact stpForwardDelayTimerExpired_safe hH hq hready (.advance p)
  | holdTimer p =>
    cases hq : w.br.portList[p]? with
    | none => exact safe_port_none hq (.inr (.holdTimer p hq))
    | some q =>
      apply safe_port hq
      apply Safe.onlyIf
      · intro hpend
        exact (stpTransmitConfig_safe hH hready hq (.inl hpend)).mono fun _ _ h ↦ .single (.talk h)
      · intro _
        exact .refl
  | link portNo status => exact stpEnableOrDisablePort_safe hw portNo status
  | setState state => exact (stpSetState_safe hw state).mono fun _ _ h ↦ h.1
  | setPortPriority p newprio =>
    cases hq : w.br.portList[p]? with
    | none =>
      apply safe_bridge
      apply safe_setPort
      apply safe_port_none _ (.inr (.setPortPriority p newprio hq))
      simp [World.modifyPort, hq]
    | some q =>
      exact (stpSetPortPriority_safe hH hq hready).mono fun _ _ h ↦
        .single (.move _ (.setPortPriority p newprio) trivial h)
  | setOperStatus i status => exact .update (.single (.outside rfl rfl))
  | host env => exact .update (.single (.outside rfl rfl))

theorem stpCreatePort_leads (addr : MacAddress) (portNo : U32) :
    Leads H W (Admits W w (.createPort addr portNo)) w (stpCreatePort H addr portNo w).1 := by
  unfold stpCreatePort
  split
  · exact .refl
  · let q : StpPortEntry κ := (newPort H addr portNo w.env).1
    refine .single (.move (.create q) (.create addr portNo q rfl) ⟨rfl, rfl⟩
      ⟨?_, fun _ ↦ rfl, .of_eq rfl, fun h ↦ h.append rfl⟩)
    simp only [Move.apply, StpInstance.tree, List.map_append]
    rfl

omit [OfNat κ 20000] in
theorem setTimes_safe {t : StpInstance κ → BridgeTimes} (hadm : adm w (.times (t w.br))) :
    Safe F (do setBridge fun br ↦ br.setTimes (t br); pure (0 : Int)) w fun _ w' ↦
      Leads H W adm w w' :=
  safe_setBridge (.pure (.single (.move _ hadm trivial (.times _))))

theorem act_safe (hw : RootFound w.br) (a : Action κ τ Φ) :
    Safe (H.Faults ∨ Excuse W w a) (act H W a) w fun _ w' ↦ Leads H W (Admits W w a) w w' := by
  have hH : H.Faults → H.Faults ∨ Excuse W w a := .inl
  have hready : Ready (H.Faults ∨ Excuse W w a) w.br := hw.ready _
  have hroot : ∀ w', stpIsRootBridge w'.br → Admits W w a w' (.times w'.br.ownTimes) :=
    fun w' his ↦ .becomeRoot a w' his
  have hset : ∀ {m : StpM κ τ Φ Int}, Safe (H.Faults ∨ Excuse W w a) m w (fun _ w' ↦
      Leads H W (Admits W w a) w w') →
        Safe (H.Faults ∨ Excuse W w a) (do let _ ← m; pure ()) w fun _ w' ↦
        Leads H W (Admits W w a) w w' :=
    fun h ↦ h.andThen fun _ _ hlead ↦ .pure hlead
  cases a with
  | event ev => exact handle_safe hw ev
  | createPort addr portNo => exact .update (stpCreatePort_leads addr portNo)
  | setPathCost p pathCost => exact stpSetPathCost_safe hH hready (.setPathCost p pathCost)
  | setBridgePriority newprio =>
    exact stpSetBridgePriority_safe hH hready (.setBridgePriority newprio) hroot
  | changeBridgeId addr => exact stpChangeBridgeId_safe hH hready (.changeBridgeId addr) hroot
  | setBridgeHelloTime hello =>
    refine hset (safe_bridge (.ite (fun _ ↦ .pure .refl) fun hin ↦
      .ite (fun _ ↦ .pure .refl) fun _ ↦ ?_))
    obtain ⟨hmin, hmax⟩ := not_or.mp hin
    exact setTimes_safe (.setBridgeHelloTime hello (Int32.not_lt.mp hmin) (Int32.not_lt.mp hmax))
  | setBridgeForwardDelay fwdDly =>
    refine hset (safe_bridge (.ite (fun _ ↦ .pure .refl) fun hin ↦
      .ite (fun _ ↦ .pure .refl) fun _ ↦ ?_))
    obtain ⟨hmin, hmax⟩ := not_or.mp hin
    exact setTimes_safe (.setBridgeForwardDelay fwdDly (Int32.not_lt.mp hmin)
      (Int32.not_lt.mp hmax))
  | setBridgeMaxAge maxAge =>
    refine hset (safe_bridge (.ite (fun _ ↦ .pure .refl) fun hin ↦
      .ite (fun _ ↦ .pure .refl) fun _ ↦ ?_))
    obtain ⟨hmin, hmax⟩ := not_or.mp hin
    exact setTimes_safe (.setBridgeMaxAge maxAge (Int32.not_lt.mp hmin) (Int32.not_lt.mp hmax))
  | setBridgeTimes fdly maxage htime =>
    refine hset (safe_bridge (.ite (fun _ ↦ .pure .refl) fun _ ↦ ?_))
    apply safe_setBridge
    refine .pure (.single ?_)
    by_cases his : stpIsRootBridge w.br
    · simp only [his, if_true]
      refine .move _ (.setBridgeTimes fdly maxage htime _ ?_ ?_ ?_ ?_ ?_) trivial (.times _)
      · exact apply_ite Int32.toBitVec _ _ _
      · exact apply_ite Int32.toBitVec _ _ _
      · exact apply_ite Int32.toBitVec _ _ _
      · exact fun _ ↦ ⟨rfl, rfl, rfl⟩
      · simp [his]
    · simp only [his]
      refine .move _ (.setBridgeTimes fdly maxage htime _ ?_ ?_ ?_ ?_ ?_) trivial (.times _)
      · exact apply_ite Int32.toBitVec _ _ _
      · exact apply_ite Int32.toBitVec _ _ _
      · exact apply_ite Int32.toBitVec _ _ _
      · exact fun h ↦ absurd h his
      · exact fun _ ↦ ⟨rfl, rfl, rfl⟩

end Actions

end Layer3Switch.Stp
