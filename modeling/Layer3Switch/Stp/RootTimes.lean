import Layer3Switch.Stp.Delays

namespace Layer3Switch.Stp

open Lib Lib.Bytes
open Timers (U32 TimerMgr)

variable {κ τ Φ : Type} {H : Host τ} {W : Wire κ Φ} {w w₀ w' : World κ τ Φ}
variable {br br' : StpInstance κ}

/-- The bridge goes by the times that it is configured with. -/
structure OwnTimes (br : StpInstance κ) : Prop where
  maxAge : br.maxAge = br.bridgeMaxAge
  helloTime : br.helloTime = br.bridgeHelloTime
  forwardDelay : br.forwardDelay = br.bridgeForwardDelay

def RootTimes (br : StpInstance κ) : Prop := stpIsRootBridge br = true → OwnTimes br

theorem OwnTimes.of_times (h : OwnTimes br) (heq : br'.times = br.times) : OwnTimes br' := by
  refine ⟨?_, ?_, ?_⟩
  · change br'.times.maxAge = br'.times.bridgeMaxAge
    rw [heq]
    exact h.maxAge
  · change br'.times.helloTime = br'.times.bridgeHelloTime
    rw [heq]
    exact h.helloTime
  · change br'.times.forwardDelay = br'.times.bridgeForwardDelay
    rw [heq]
    exact h.forwardDelay

theorem rootTimes_congr (hroot : stpIsRootBridge br' = stpIsRootBridge br)
    (heq : br'.times = br.times) : RootTimes br' ↔ RootTimes br := by
  unfold RootTimes
  rw [hroot]
  exact forall_congr' fun _ ↦ ⟨fun h ↦ h.of_times heq.symm, fun h ↦ h.of_times heq⟩

theorem rootTimes_tree (heq : br'.tree = br.tree) : RootTimes br' ↔ RootTimes br :=
  rootTimes_congr (congrArg stpIsRootBridge heq :) (congrArg StpInstance.times heq :)

section Elections

variable [Add κ] [LT κ] [DecidableLT κ] {e : Endian} {p : StpPortEntry κ}

def HasCandidate (e : Endian) (br : StpInstance κ) : Prop := ∃ q ∈ br.portList, Candidate e br q

omit [Add κ] [LT κ] [DecidableLT κ] in
theorem hasCandidate_tree : HasCandidate e br.tree ↔ HasCandidate e br := by
  constructor
  · rintro ⟨_, hmem, hc⟩
    obtain ⟨q, hq, rfl⟩ := List.mem_map.mp hmem
    exact ⟨q, hq, hc.state, hc.not_designated, hc.rank_lt, hc.not_own⟩
  · rintro ⟨q, hq, hc⟩
    exact ⟨q.tree, List.mem_map_of_mem hq, hc.state, hc.not_designated, hc.rank_lt, hc.not_own⟩

theorem considerRootPort_zero (h : Candidate e br p) :
    considerRootPort e br 0 p = some (p.portNo.setWidth 16) := by
  have hgt : br.bridgeId.memcmp e p.designatedRoot = .gt := BridgeId.memcmp_eq_gt.mpr h.rank_lt
  simp [considerRootPort, stpShouldBecomeRootPort, h.not_own, h.state, h.not_designated, hgt]

theorem foldlM_considerRootPort_ne_zero (l : List (StpPortEntry κ)) {n m : U16}
    (hlive : ∀ q ∈ l, q.state ≠ .disabled → q.portNo.setWidth 16 ≠ 0#16)
    (hn : n ≠ 0 ∨ ∃ q ∈ l, Candidate e br q)
    (h : l.foldlM (considerRootPort e br) n = some m) : m ≠ 0 := by
  induction l generalizing n with
  | nil =>
    obtain rfl := Option.some.inj h
    exact hn.resolve_right fun ⟨q, hq, _⟩ ↦ List.not_mem_nil hq
  | cons q l ih =>
    rw [List.foldlM_cons] at h
    obtain ⟨k, hk, h⟩ := Option.bind_eq_some_iff.mp h
    refine ih (fun q' hq' ↦ hlive q' (List.mem_cons_of_mem q hq')) ?_ h
    have hq := hlive q List.mem_cons_self
    obtain rfl | ⟨hc, rfl⟩ := considerRootPort_cases hk
    · obtain hn | ⟨q', hq', hc⟩ := hn
      · exact .inl hn
      · obtain rfl | hq' := List.mem_cons.mp hq'
        · by_cases hz : k = 0
          · rw [hz, considerRootPort_zero hc] at hk
            exact absurd (Option.some.inj hk) (hq hc.state)
          · exact .inl hz
        · exact .inr ⟨q', hq', hc⟩
    · exact .inl (hq hc.state)

variable [OfNat κ 0]

theorem isRoot_reelect (hnodup : br.numbers.Nodup)
    (hlive : ∀ q ∈ br.portList, q.state ≠ .disabled → InTable q.portNo)
    (h : reelect e br = some br') : stpIsRootBridge br' = true ↔ ¬HasCandidate e br := by
  refine (reelect_isRoot hnodup hlive h).trans ?_
  obtain ⟨br₁, h₁, -, -, rfl⟩ := reelect_cases h
  change br₁.rootPort = 0 ↔ _
  constructor
  · intro hzero hcand
    unfold stpRootSelection at h₁
    split at h₁
    · cases h₁
    · rename_i n hn
      have hne : n ≠ 0 := foldlM_considerRootPort_ne_zero _
        (fun q hq hs ↦ (hlive q hq hs).setWidth_ne_zero) (.inr hcand) hn
      rw [if_neg hne] at h₁
      split at h₁
      · cases h₁
      · obtain rfl := Option.some.inj h₁
        refine hne ?_
        have hwide : n.setWidth 32 = 0 := hzero
        bv_omega
  · intro hnone
    obtain rfl | ⟨q, hq, hc, -⟩ := stpRootSelection_nodup hnodup hlive h₁
    · rfl
    · exact absurd ⟨q, hq, hc⟩ hnone

theorem Moved.elect_times {edit : Edit κ} (h : Moved H W (.elect edit) w w') :
    w'.br.times = w.br.times :=
  (Move.times_kept (fun _ heq ↦ by cases heq) h.apply :)

omit [Add κ] [LT κ] [DecidableLT κ] [OfNat κ 0] in
theorem numbers_tree : br.tree.numbers = br.numbers :=
  numbers_of_badges (badges_of_tree_eq tree_tree)

theorem Moved.elect_numbers {edit : Edit κ} (h : Moved H W (.elect edit) w w') :
    w'.br.numbers = w.br.numbers := by
  have hnumbers := Move.apply_numbers h.apply
  rw [numbers_tree] at hnumbers
  exact hnumbers.trans numbers_tree

theorem rootTimes_elect {edit : Edit κ} (hw : Rooted w.br)
    (hmoved : Moved H W (.elect edit) w w') :
    (stpIsRootBridge w'.br = true ↔ ¬HasCandidate H.endian (edit.apply w.br)) ∧
      w'.br.times = w.br.times := by
  have helect : reelect H.endian (edit.apply w.br).tree = some w'.br.tree := by
    rw [tree_edit]
    exact hmoved.apply
  refine ⟨?_, hmoved.elect_times⟩
  have hnumbers : (edit.apply w.br).tree.numbers = w.br.numbers := by
    rw [numbers_tree, Edit.numbers]
  have hroot := isRoot_reelect (hnumbers ▸ hw.nodup) ?_ helect
  · rw [hasCandidate_tree] at hroot
    exact hroot
  · intro q hq hlive
    obtain ⟨q₀, hq₀, rfl⟩ := List.mem_map.mp hq
    exact hw.toRootFound.edit q₀ hq₀ hlive

omit [Add κ] [LT κ] [DecidableLT κ] [OfNat κ 0] in
theorem hasCandidate_setPathCost (p : ℕ) (pathCost : κ) :
    HasCandidate e ((Edit.setPathCost p pathCost).apply br) ↔ HasCandidate e br := by
  constructor
  · rintro ⟨q', hq', hc⟩
    obtain ⟨q, hq, rfl | ⟨-, rfl⟩⟩ := mem_modifyPort hq'
    · exact ⟨q', hq, hc.of_bridgeId rfl⟩
    · exact ⟨q, hq, hc.state, hc.not_designated, hc.rank_lt, hc.not_own⟩
  · rintro ⟨q, hq, hc⟩
    obtain ⟨i, hi⟩ := List.mem_iff_getElem?.mp hq
    refine ⟨_, List.mem_of_getElem? (getElem?_modifyPort hi), ?_⟩
    split
    · exact ⟨hc.state, hc.not_designated, hc.rank_lt, hc.not_own⟩
    · exact hc.of_bridgeId rfl

end Elections

def KeepsRootTimes [LT κ] [DecidableLT κ] (e : Endian) (W : Wire κ Φ) (w : World κ τ Φ) :
    Action κ τ Φ → Prop
  | .event (.receive portNo frame) => stpIsRootBridge w.br = true ∨ OwnTimes w.br ∨
      ∀ bpdu, W.Config frame bpdu → ∀ p ∈ stpGetPortEntry w.br portNo, ∀ q ∈ w.br.portList[p]?,
        q.enabled = true → q.state ≠ .disabled →
        (stpSupersedesPortInfo e w.br { q with isOwnBpdu := false } bpdu).1 = true →
        HasCandidate e ((Edit.record p bpdu).apply w.br)
  | .setPathCost _ _ => stpIsRootBridge w.br = true ∨ OwnTimes w.br ∨ HasCandidate e w.br
  | _ => True

section Programs

variable [Add κ] [LT κ] [DecidableLT κ] [OfNat κ 0] {edit : Edit κ}

theorem rootTimes_elect_iff (hw : Rooted w.br) (h : RootTimes w.br)
    (hmoved : Moved H W (.elect edit) w w') :
    RootTimes w'.br ↔ stpIsRootBridge w.br = true ∨ OwnTimes w.br ∨
      HasCandidate H.endian (edit.apply w.br) := by
  obtain ⟨hroot, htimes⟩ := rootTimes_elect hw hmoved
  constructor
  · intro h'
    by_cases hc : HasCandidate H.endian (edit.apply w.br)
    · exact .inr (.inr hc)
    · exact .inr (.inl ((h' (hroot.mpr hc)).of_times htimes.symm))
  · rintro (his | hown | hc) his'
    · exact (h his).of_times htimes
    · exact hown.of_times htimes
    · exact absurd hc (hroot.mp his')

omit [Add κ] [LT κ] [DecidableLT κ] [OfNat κ 0] in
theorem ready_true (hw : RootFound w.br) : Ready True w.br := ⟨hw, fun _ _ ↦ .inr trivial⟩

theorem becomeRootIfElected_rootTimes (hed : Edited edit w₀ w) (hw : Ready True w₀.br)
    (h : RootTimes w₀.br) :
    Safe True (becomeRootIfElected H W (stpIsRootBridge w₀.br)) w fun _ w' ↦ RootTimes w'.br := by
  unfold becomeRootIfElected
  rw [← bind_assoc]
  refine (reelect_safe (fun _ ↦ trivial) hed hw).andThen ?_
  rintro _ w₁ ⟨h₁, hready⟩
  have htimes := h₁.elect_times
  apply safe_bridge
  apply Safe.onlyIf
  · intro _
    refine (stpBecomeRootBridge_safe (fun _ ↦ trivial) hready).mono ?_
    intro _ w' hquiet
    rw [rootTimes_tree hquiet.tree]
    exact fun _ ↦ ⟨rfl, rfl, rfl⟩
  · intro hno his
    cases hwas : stpIsRootBridge w₀.br with
    | false =>
      rw [hwas, his] at hno
      exact absurd rfl hno
    | true => exact (h hwas).of_times htimes

theorem stpDisableHead_rootTimes (hw : Ready True w.br) (hlen : 0 < w.br.portList.length)
    (h : RootTimes w.br) :
    Ends (stpDisableHead H W) w fun _ w' ↦
      (Ready True w'.br ∧ w'.br.portList.length + 1 = w.br.portList.length) ∧ RootTimes w'.br := by
  have hq := List.getElem?_eq_getElem hlen
  have hkept : Safe True (stpDisableHead H W) w fun _ w' ↦ RootTimes w'.br := by
    apply safe_port hq
    refine Safe.andThen (P := fun _ w' ↦ RootTimes w'.br) (.onlyIf (fun _ ↦ ?_) fun _ ↦ h) ?_
    · exact stpDisablePort_then (fun _ ↦ trivial) hq fun _ hed ↦
        becomeRootIfElected_rootTimes hed hw h
    · exact fun _ _ h ↦ .update fun his ↦ (h his).of_times rfl
  have hhead : Safe True (stpDisableHead H W) w fun _ w' ↦ Leads H W (fun _ _ ↦ True) w w' ∧
      Ready True w'.br ∧ w'.br.portList.length + 1 = w.br.portList.length :=
    stpDisableHead_safe (fun _ ↦ trivial) hw hlen (fun _ ↦ trivial) (fun _ ↦ trivial)
      fun _ _ ↦ trivial
  exact Ends.and (hhead.2.mono fun _ _ h ↦ h.2) hkept.2

theorem stpDisable_rootTimes (hw : RootFound w.br) (h : RootTimes w.br) :
    Ends (stpDisable H W) w fun _ w' ↦ RootTimes w'.br := by
  have hloop : Safe True (forPorts fun _ ↦ stpDisableHead H W) w fun _ w' ↦
      (Ready True w'.br ∧ w'.br.portList.length + w.br.portList.length = w.br.portList.length) ∧
        RootTimes w'.br := by
    refine safe_forPorts (I := fun k w' ↦ (Ready True w'.br ∧
      w'.br.portList.length + k = w.br.portList.length) ∧ RootTimes w'.br) ?_
      ⟨⟨ready_true hw, rfl⟩, h⟩
    rintro k hk w₁ ⟨⟨hready, hlen⟩, h₁⟩
    refine ⟨fun _ ↦ trivial, (stpDisableHead_rootTimes hready (by omega) h₁).mono ?_⟩
    rintro _ w₂ ⟨⟨hready', hlen'⟩, h₂⟩
    exact ⟨⟨hready', by omega⟩, h₂⟩
  refine hloop.2.andThen ?_
  rintro _ w₁ ⟨-, h₁⟩
  refine .bind (.update (.bind (ends_bridge ?_)))
  refine Ends.andThen (P := fun _ w' ↦ RootTimes w'.br)
    (ends_callEnv fun _ _ his ↦ (h₁ his).of_times rfl) fun _ w₂ h₂ ↦ ?_
  refine Ends.andThen (P := fun _ w' ↦ RootTimes w'.br)
    (ends_callEnv fun _ _ his ↦ (h₂ his).of_times rfl) fun _ w₃ h₃ ↦ ?_
  exact ends_callEnv fun _ _ his ↦ (h₃ his).of_times rfl

theorem stpReceivedConfigBpdu_rootTimes {p : ℕ} {q : StpPortEntry κ} {bpdu : StpBpdu κ}
    (hq : w.br.portList[p]? = some q) (hlive : q.state ≠ .disabled) (hw : Rooted w.br)
    (h : RootTimes w.br) :
    Ends (stpReceivedConfigBpdu H W p bpdu) w fun _ w' ↦
      RootTimes w'.br ↔ stpIsRootBridge w.br = true ∨ OwnTimes w.br ∨
        ((stpSupersedesPortInfo H.endian w.br { q with isOwnBpdu := false } bpdu).1 = true →
          HasCandidate H.endian ((Edit.record p bpdu).apply w.br)) := by
  have hq' : (w.modifyPort p ({ · with isOwnBpdu := false })).br.portList[p]? =
      some { q with isOwnBpdu := false } := by
    simp [World.modifyPort, hq]
  refine .bind (ends_bridge (.bind (.update ?_)))
  refine (supersedesPortInfo_safe (F := True) hq' rfl bpdu).2.andThen ?_
  rintro _ _ ⟨rfl, rfl⟩
  refine .ite (fun hsup ↦ ?_) fun hsup ↦ ?_
  · refine (recordSuperior_safe (fun _ ↦ trivial) hq (ready_true hw.toRootFound) bpdu _).2.andThen
      ?_
    rintro _ w₂ ⟨w₁, hmoved, hready, hquiet⟩
    have helect := rootTimes_elect_iff hw h hmoved
    rw [← rootTimes_tree hquiet.tree] at helect
    refine .bind (ends_reads fun q₂ hq₂ ↦ .bind (ends_bridge (.onlyIf (fun hno ↦ ?_) fun _ ↦ ?_)))
    · -- a port that the bridge has elected is not the port of a root
      have helected : Rooted w₁.br.tree :=
        (hw.of_tree_eq tree_tree).apply (m := .elect (.record p bpdu)) trivial
          (fun _ heq ↦ by cases heq) hmoved.apply
      have hrooted : Rooted w₂.br := helected.of_tree_eq (hquiet.tree.trans tree_tree.symm)
      have hnumber : q₂.portNo = q.portNo := by
        have hnumbers : w₂.br.numbers = w.br.numbers :=
          (numbers_of_badges (badges_of_tree_eq hquiet.tree)).trans hmoved.elect_numbers
        have hat := congrArg (·[p]?) hnumbers
        have hread : w₂.br.portList[p]? = some q₂ := hq₂
        simp only [StpInstance.numbers, List.getElem?_map, hq, hread, Option.map_some] at hat
        exact Option.some.inj hat
      have hne : w₂.br.rootPort ≠ 0 := by
        rw [← hno, hnumber]
        exact (hw.live q (List.mem_of_getElem? hq) hlive).ne_zero
      have hnot : stpIsRootBridge w₂.br = false := Bool.eq_false_iff.mpr (mt hrooted.isRoot.mp hne)
      refine (receivedOnRootPort_safe (fun _ ↦ trivial) bpdu (hready.of_tree_eq hquiet.tree)).2.mono
        ?_
      intro _ w' hquiet'
      refine iff_of_true ?_ (.inr (.inr fun _ ↦ ?_))
      · rw [rootTimes_tree hquiet'.tree]
        intro his
        exact absurd (hnot.symm.trans his) Bool.false_ne_true
      · by_contra hnone
        have his := (rootTimes_elect hw hmoved).1.mpr hnone
        have heq : stpIsRootBridge w₂.br = stpIsRootBridge w₁.br :=
          (congrArg stpIsRootBridge hquiet.tree :)
        rw [heq, his] at hnot
        cases hnot
    · rw [helect]
      exact or_congr_right (or_congr_right ⟨fun hc _ ↦ hc, fun hc ↦ hc hsup⟩)
  · have hclear : RootTimes (w.modifyPort p ({ · with isOwnBpdu := false })).br :=
      fun his ↦ (h his).of_times rfl
    have hall : stpIsRootBridge w.br = true ∨ OwnTimes w.br ∨
        ((stpSupersedesPortInfo H.endian w.br { q with isOwnBpdu := false } bpdu).1 = true →
          HasCandidate H.endian ((Edit.record p bpdu).apply w.br)) :=
      .inr (.inr fun hyes ↦ absurd hyes hsup)
    refine .bind (ends_reads fun q₂ hq₂ ↦ .bind (ends_bridge (.onlyIf (fun hd ↦ ?_) fun _ ↦ ?_)))
    · obtain rfl := Option.some.inj (hq'.symm.trans hq₂)
      have hready : Ready True (w.br.modifyPort p ({ · with isOwnBpdu := false })) :=
        (ready_true hw.toRootFound).of_badges (badges_modifyPort hq rfl) rfl rfl
      refine (stpTransmitConfig_safe (fun _ ↦ trivial) hready hq' (.inr ⟨hlive, hd⟩)).2.mono ?_
      intro _ w' hquiet
      exact iff_of_true ((rootTimes_tree hquiet.tree).mpr hclear) hall
    · exact iff_of_true hclear hall

theorem stpProcessBpdu_rootTimes (portNo : U16) (frame : Φ) (hw : Rooted w.br)
    (h : RootTimes w.br) :
    Ends (stpProcessBpdu H W portNo frame) w fun _ w' ↦
      RootTimes w'.br ↔ KeepsRootTimes H.endian W w (.event (.receive portNo frame)) := by
  refine .bind (ends_bridge ?_)
  cases hp : stpGetPortEntry w.br portNo with
  | none =>
    refine .pure (iff_of_true h (.inr (.inr ?_)))
    intro bpdu _ p hp'
    rw [hp] at hp'
    cases hp'
  | some p =>
    refine .bind (ends_reads fun q hq ↦ .ite (fun hoff ↦ ?_) fun hon ↦ ?_)
    · refine .pure (iff_of_true h (.inr (.inr ?_)))
      intro bpdu _ p' hp' q' hq' hen hlive
      obtain rfl := Option.some.inj (hp.symm.trans hp')
      obtain rfl := Option.some.inj (hq.symm.trans hq')
      simp [hen, hlive] at hoff
    · have hon' : q.enabled = true ∧ q.state ≠ .disabled := by
        simpa using hon
      refine .bind (ends_reads fun type htype ↦ .ite (fun hconfig ↦ ?_) fun hother ↦ ?_)
      · refine .ite (fun hinvalid ↦ by cases hinvalid) fun _ ↦ ?_
        refine .bind (ends_reads fun bpdu hbpdu ↦ ?_)
        refine (stpReceivedConfigBpdu_rootTimes hq hon'.2 hw h).andThen fun _ w' hw' ↦ .pure ?_
        refine hw'.trans (or_congr_right (or_congr_right ?_))
        constructor
        · intro hc bpdu' hbpdu' p' hp' q' hq' _ _ hsup
          obtain rfl := Option.some.inj (hp.symm.trans hp')
          obtain rfl := Option.some.inj (hq.symm.trans hq')
          obtain rfl := Option.some.inj (hbpdu.symm.trans hbpdu'.2)
          exact hc hsup
        · exact fun hc ↦ hc bpdu ⟨hconfig ▸ htype, hbpdu⟩ p hp q hq hon'.1 hon'.2
      · have hall : KeepsRootTimes H.endian W w (.event (.receive portNo frame)) := by
          refine .inr (.inr ?_)
          intro bpdu hbpdu
          exact absurd (Option.some.inj (htype.symm.trans hbpdu.1)) hother
        refine .ite (fun _ ↦ .ite (fun _ ↦ .pure (iff_of_true h hall)) fun _ ↦ ?_)
          fun _ ↦ .pure (iff_of_true h hall)
        refine (stpReceivedTcnBpdu_safe (fun _ ↦ trivial) hq hon'.2
          (ready_true hw.toRootFound)).2.andThen ?_
        intro _ w' hquiet
        exact .pure (iff_of_true ((rootTimes_tree hquiet.tree).mpr h) hall)

theorem act_rootTimes (hw : RootFound w.br) (h : RootTimes w.br) :
    (∀ p, Ends (stpMessageAgeTimerExpired H W p) w fun _ w' ↦ RootTimes w'.br) ∧
    (∀ portNo, Ends (stpEnableOrDisablePort H W portNo .down) w fun _ w' ↦ RootTimes w'.br) ∧
    Ends (stpSetState H W false) w (fun _ w' ↦ RootTimes w'.br) ∧
    (∀ newprio, Ends (stpSetBridgePriority H W newprio) w fun _ w' ↦ RootTimes w'.br) ∧
    ∀ addr, Ends (stpChangeBridgeId H W addr) w fun _ w' ↦ RootTimes w'.br := by
  have hready := ready_true hw
  refine ⟨fun p ↦ ?_, fun portNo ↦ ?_, ?_, fun newprio ↦ ?_, fun addr ↦ ?_⟩
  · cases hq : w.br.portList[p]? with
    | none => exact (safe_port_none (F := True) hq trivial).2
    | some q =>
      exact (stpMessageAgeTimerExpired_then (F := True) hq h fun _ hed ↦
        becomeRootIfElected_rootTimes hed hready h).2
  · refine .bind (ends_bridge (.bind (ends_reads fun p hp ↦ ?_)))
    have hlt : p < w.br.portList.length := (List.findIdx?_eq_some_iff_getElem.mp hp).1
    exact (stpDisablePort_then (F := True) (fun _ ↦ trivial) (List.getElem?_eq_getElem hlt)
      fun _ hed ↦ becomeRootIfElected_rootTimes hed hready h).2
  · refine (stpDisable_rootTimes hw h).andThen fun _ w₁ h₁ ↦ .update ?_
    exact fun his ↦ (h₁ his).of_times rfl
  · refine .bind (ends_bridge (.bind (.update ?_)))
    refine (becomeRootIfElected_rootTimes (?_ : Edited (.setBridgePriority newprio) w _) hready h).2
    exact ⟨tree_edit (.setBridgePriority newprio), rfl, fun _ ↦ rfl⟩
  · refine .bind (ends_bridge (.bind (.update ?_)))
    refine (becomeRootIfElected_rootTimes (?_ : Edited (.changeBridgeId addr) w _) hready h).2
    exact ⟨tree_edit (.changeBridgeId addr), rfl, fun _ ↦ rfl⟩

theorem stpSetPathCost_rootTimes (hw : Rooted w.br) (h : RootTimes w.br) (p : ℕ) (pathCost : κ) :
    Ends (stpSetPathCost H W p pathCost) w fun _ w' ↦
      RootTimes w'.br ↔ KeepsRootTimes H.endian W w (.setPathCost p pathCost) := by
  refine .bind (.update ?_)
  refine (reelect_safe (F := True) (fun _ ↦ trivial) (?_ : Edited (.setPathCost p pathCost) w _)
    (ready_true hw.toRootFound)).2.mono ?_
  · exact ⟨tree_edit (.setPathCost p pathCost), rfl, fun _ ↦ rfl⟩
  · rintro _ w' ⟨hmoved, -⟩
    rw [rootTimes_elect_iff hw h hmoved, hasCandidate_setPathCost]
    rfl

end Programs

section Steps

variable [Add κ] [LT κ] [DecidableLT κ] [OfNat κ 0] {a : Action κ τ Φ}

omit [Add κ] [LT κ] [DecidableLT κ] [OfNat κ 0] in
theorem Admits.rootTimes {t : BridgeTimes} (hadm : Admits W w₀ a w (.times t))
    (hrcv : ∀ portNo frame, a ≠ .event (.receive portNo frame)) (h : RootTimes w.br) :
    RootTimes (w.br.setTimes t) := by
  intro his
  have his' : stpIsRootBridge w.br = true := his
  cases hadm with
  | adopt _ portNo frame => exact absurd rfl (hrcv portNo frame)
  | becomeRoot => exact ⟨rfl, rfl, rfl⟩
  | setBridgeHelloTime hello => exact ⟨(h his').maxAge, if_pos his', (h his').forwardDelay⟩
  | setBridgeMaxAge maxAge => exact ⟨if_pos his', (h his').helloTime, (h his').forwardDelay⟩
  | setBridgeForwardDelay fwdDly => exact ⟨(h his').maxAge, (h his').helloTime, if_pos his'⟩
  | setBridgeTimes fdly maxage htime t _ _ _ hroot =>
    obtain ⟨hdelay, hage, hhello⟩ := hroot his'
    exact ⟨hage, hhello, hdelay⟩

variable [OfNat κ 20000]

theorem RootTimes.step_plain (hw : RootFound w.br)
    (hplain : ∀ w₁ m, Admits W w a w₁ m → m.elects = false)
    (hrcv : ∀ portNo frame, a ≠ .event (.receive portNo frame)) (h : RootTimes w.br)
    (hs : step H W w a = some w') : RootTimes w'.br := by
  refine (step_leads hw hs).invariant (I := RootTimes) ?_ ?_ h
  · exact fun heq hI ↦ (rootTimes_tree heq).mpr hI
  · intro w₁ m br' hadm _ hI hm
    by_cases ht : ∃ t, m = .times t
    · obtain ⟨t, rfl⟩ := ht
      obtain rfl := Option.some.inj hm
      have hset := hadm.rootTimes hrcv fun his ↦ (hI his).of_times rfl
      exact fun his ↦ (hset his).of_times rfl
    · exact (rootTimes_congr (Move.isRoot_kept (hplain w₁ m hadm) hm)
        (Move.times_kept (not_exists.mp ht) hm)).mpr hI

theorem step_rootTimes_iff (hw : Rooted w.br) (h : RootTimes w.br)
    (hs : step H W w a = some w') : RootTimes w'.br ↔ KeepsRootTimes H.endian W w a := by
  obtain ⟨hage, hdown, hoff, hprio, hid⟩ := act_rootTimes (H := H) (W := W) hw.toRootFound h
  have hplain : (∀ w₁ m, Admits W w a w₁ m → m.elects = false) →
      (∀ portNo frame, a ≠ .event (.receive portNo frame)) → RootTimes w'.br :=
    fun hplain hrcv ↦ h.step_plain hw.toRootFound hplain hrcv hs
  obtain ⟨⟨_, w₁⟩, hr, rfl⟩ := Option.map_eq_some_iff.mp hs
  cases a with
  | event ev =>
    cases ev with
    | receive portNo frame =>
      have hends : Ends (handle H W (.receive portNo frame)) w fun _ w' ↦
          RootTimes w'.br ↔ KeepsRootTimes H.endian W w (.event (.receive portNo frame)) :=
        (stpProcessBpdu_rootTimes portNo frame hw h).andThen fun _ _ h ↦ .pure h
      exact hends _ _ hr
    | messageAgeTimer p => exact iff_of_true (hage p _ _ hr) trivial
    | link portNo status =>
      cases status with
      | down => exact iff_of_true (hdown portNo _ _ hr) trivial
      | up =>
        exact iff_of_true (hplain (fun _ _ hadm ↦ by cases hadm <;> rfl) fun _ _ ↦ nofun) trivial
    | setState state =>
      cases state with
      | false => exact iff_of_true (hoff _ _ hr) trivial
      | true =>
        exact iff_of_true (hplain (fun _ _ hadm ↦ by cases hadm <;> rfl) fun _ _ ↦ nofun) trivial
    | helloTimer | tcnTimer | topologyChangeTimer | forwardDelayTimer _ | holdTimer _
    | setPortPriority _ _ | setOperStatus _ _ | host _ =>
      exact iff_of_true (hplain (fun _ _ hadm ↦ by cases hadm <;> rfl) fun _ _ ↦ nofun) trivial
  | setPathCost p pathCost => exact stpSetPathCost_rootTimes hw h p pathCost _ _ hr
  | setBridgePriority newprio => exact iff_of_true (hprio newprio _ _ hr) trivial
  | changeBridgeId addr => exact iff_of_true (hid addr _ _ hr) trivial
  | createPort _ _ | setBridgeHelloTime _ | setBridgeForwardDelay _ | setBridgeMaxAge _
  | setBridgeTimes _ _ _ =>
    exact iff_of_true (hplain (fun _ _ hadm ↦ by cases hadm <;> rfl) fun _ _ ↦ nofun) trivial

/-- In every run of such actions a bridge that is the root goes by the times
that it is configured with. No other action keeps this. -/
theorem root_uses_own_times (H : Host τ) (W : Wire κ Φ) {vlanId : U16} {addr : MacAddress}
    {portCdb : Vector PortT maxPorts} {env : τ} {as : List (Action κ τ Φ)} {w : World κ τ Φ}
    (h : Run (step H W) (fun w a ↦ NewNumber w a ∧ KeepsRootTimes H.endian W w a)
      (newInstance H vlanId addr [] portCdb env) as w) :
    (stpIsRootBridge w.br = true → w.br.maxAge = w.br.bridgeMaxAge ∧
      w.br.helloTime = w.br.bridgeHelloTime ∧ w.br.forwardDelay = w.br.bridgeForwardDelay) ∧
    ∀ a w', step H W w a = some w' →
      ((stpIsRootBridge w'.br = true → w'.br.maxAge = w'.br.bridgeMaxAge ∧
        w'.br.helloTime = w'.br.bridgeHelloTime ∧
        w'.br.forwardDelay = w'.br.bridgeForwardDelay) ↔ KeepsRootTimes H.endian W w a) := by
  have hstart : RootTimes (newInstance H vlanId addr [] portCdb env : World κ τ Φ).br :=
    fun _ ↦ ⟨rfl, rfl, rfl⟩
  obtain ⟨hw, htimes⟩ : Rooted w.br ∧ RootTimes w.br := by
    refine h.invariant (I := fun w ↦ Rooted w.br ∧ RootTimes w.br) ?_
      ⟨newInstance_rooted vlanId addr portCdb env, hstart⟩
    rintro s a s' ⟨hw, htimes⟩ ⟨hnew, hkeeps⟩ hs
    exact ⟨hw.step hnew hs, (step_rootTimes_iff hw htimes hs).mpr hkeeps⟩
  have hiff : ∀ br : StpInstance κ, (stpIsRootBridge br = true → br.maxAge = br.bridgeMaxAge ∧
      br.helloTime = br.bridgeHelloTime ∧ br.forwardDelay = br.bridgeForwardDelay) ↔ RootTimes br :=
    fun br ↦ forall_congr' fun _ ↦
      ⟨fun h ↦ ⟨h.1, h.2.1, h.2.2⟩, fun h ↦ ⟨h.maxAge, h.helloTime, h.forwardDelay⟩⟩
  refine ⟨(hiff w.br).mpr htimes, fun a w' hs ↦ (hiff w'.br).trans ?_⟩
  exact step_rootTimes_iff hw htimes hs

end Steps

instance : Decidable (OwnTimes br) :=
  decidable_of_iff (br.maxAge = br.bridgeMaxAge ∧ br.helloTime = br.bridgeHelloTime ∧
    br.forwardDelay = br.bridgeForwardDelay)
    ⟨fun h ↦ ⟨h.1, h.2.1, h.2.2⟩, fun h ↦ ⟨h.maxAge, h.helloTime, h.forwardDelay⟩⟩

instance (e : Endian) : Decidable (HasCandidate e br) :=
  inferInstanceAs (Decidable (∃ q ∈ br.portList, Candidate e br q))

instance [LT κ] [DecidableLT κ] (e : Endian) (a : Action κ τ Φ) :
    Decidable (KeepsRootTimes e W w a) :=
  match a with
  | .event (.receive portNo frame) => inferInstanceAs (Decidable (stpIsRootBridge w.br = true ∨
      OwnTimes w.br ∨ ∀ bpdu, W.Config frame bpdu → ∀ p ∈ stpGetPortEntry w.br portNo,
        ∀ q ∈ w.br.portList[p]?, q.enabled = true → q.state ≠ .disabled →
        (stpSupersedesPortInfo e w.br { q with isOwnBpdu := false } bpdu).1 = true →
        HasCandidate e ((Edit.record p bpdu).apply w.br)))
  | .setPathCost _ _ => inferInstanceAs
      (Decidable (stpIsRootBridge w.br = true ∨ OwnTimes w.br ∨ HasCandidate e w.br))
  | .event .helloTimer | .event .tcnTimer | .event .topologyChangeTimer
  | .event (.messageAgeTimer _) | .event (.forwardDelayTimer _) | .event (.holdTimer _)
  | .event (.link _ _) | .event (.setState _) | .event (.setPortPriority _ _)
  | .event (.setOperStatus _ _) | .event (.host _) | .createPort _ _ | .setBridgePriority _
  | .changeBridgeId _ | .setBridgeHelloTime _ | .setBridgeForwardDelay _ | .setBridgeMaxAge _
  | .setBridgeTimes _ _ _ => inferInstanceAs (Decidable True)

def foreignActions : List (Action Int32 TimerMgr (List U8)) :=
  [.createPort (macAddress 0 0 0 0 0 2) 1, .createPort (macAddress 0 0 0 0 0 2) 2,
   .event (.setOperStatus 0 .up), .event (.setState true),
   .event (.receive 1 ((frames .little).config (macAddress 0 0 0 0 0 1)
     { rootHello with maxAge := 30, helloTime := 3, forwardDelay := 20 }))]

/-- The root port is enabled once more, and then a path cost is set. -/
theorem new_root_keeps_foreign_times :
    ∃ as w, Run (step relayHost (frames .little)) NewNumber leafStart as w ∧
      stpIsRootBridge w.br = true ∧
      (w.br.maxAge, w.br.helloTime, w.br.forwardDelay) = (30, 3, 20) ∧
      (w.br.bridgeMaxAge, w.br.bridgeHelloTime, w.br.bridgeForwardDelay) = (20, 2, 15) := by
  have hcheck : ((exec (fun w a ↦ if NewNumber w a then step relayHost (frames .little) w a
      else none) leafStart (foreignActions ++ [.event (.link 1 .up), .setPathCost 0 100])).any
      fun w ↦ stpIsRootBridge w.br = true ∧
        (w.br.maxAge, w.br.helloTime, w.br.forwardDelay) = (30, 3, 20) ∧
        (w.br.bridgeMaxAge, w.br.bridgeHelloTime, w.br.bridgeForwardDelay) = (20, 2, 15)) =
          true := by
    decide +kernel
  simp only [Option.any_eq_true, decide_eq_true_eq] at hcheck
  obtain ⟨w, hexec, hw⟩ := hcheck
  exact ⟨_, w, (run_of_exec hexec).guarded, hw⟩

/-- The information from the root expires, and the bridge takes its place. -/
theorem root_uses_own_times_after_expiry :
    ∃ w, Run (step relayHost (frames .little))
        (fun w a ↦ NewNumber w a ∧ KeepsRootTimes relayHost.endian (frames .little) w a) leafStart
        (foreignActions ++ [.setPathCost 0 100, .event (.messageAgeTimer 0)]) w ∧
      stpIsRootBridge w.br = true ∧ w.br.maxAge = w.br.bridgeMaxAge ∧
      w.br.helloTime = w.br.bridgeHelloTime ∧ w.br.forwardDelay = w.br.bridgeForwardDelay := by
  have hcheck : ((exec (fun w a ↦ if NewNumber w a ∧
      KeepsRootTimes relayHost.endian (frames .little) w a then step relayHost (frames .little) w a
      else none) leafStart (foreignActions ++
        [.setPathCost 0 100, .event (.messageAgeTimer 0)])).any
      fun w ↦ stpIsRootBridge w.br = true) = true := by
    decide +kernel
  simp only [Option.any_eq_true, decide_eq_true_eq] at hcheck
  obtain ⟨w, hexec, hroot⟩ := hcheck
  have hrun := (run_of_exec hexec).guarded
  exact ⟨w, hrun, hroot, (root_uses_own_times relayHost (frames .little) hrun).1 hroot⟩

end Layer3Switch.Stp
