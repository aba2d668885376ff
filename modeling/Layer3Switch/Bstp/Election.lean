import Layer3Switch.Bstp.Same
import Mathlib.Data.Prod.Lex

namespace Layer3Switch.Bstp

open Lib.Bytes
open Rstp (PriVector Info bstpInfoCmp)

variable {H : Host} {w w' w'' : World} {i j : ℕ} {p q r : BstpPort} {bs e : BstpState}

/-! ### The order of priority vectors -/

def rank (pv : PriVector) : ℕ ×ₗ ℕ ×ₗ ℕ ×ₗ ℕ :=
  toLex (pv.pvRootId.toNat, toLex
    (pv.pvCost.toNat, toLex (pv.pvDbridgeId.toNat, pv.pvDportId.toNat)))

theorem bstpInfoCmp_better_iff {pv cpv : PriVector} :
    bstpInfoCmp pv cpv = .better ↔ rank cpv < rank pv := by
  simp only [bstpInfoCmp, rank, Prod.Lex.toLex_lt_toLex, BitVec.lt_def, gt_iff_lt]
  split_ifs <;> simp only [true_iff, false_iff] <;> omega

theorem bstpInfoCmp_worse_iff {pv cpv : PriVector} :
    bstpInfoCmp pv cpv = .worse ↔ rank pv < rank cpv := by
  simp only [bstpInfoCmp, rank, Prod.Lex.toLex_lt_toLex, BitVec.lt_def, gt_iff_lt]
  split_ifs <;> simp only [true_iff, false_iff] <;> omega

theorem bstpInfoCmp_same_iff {pv cpv : PriVector} :
    bstpInfoCmp pv cpv = .same ↔ rank pv = rank cpv := by
  have hbetter : bstpInfoCmp pv cpv = .better ↔ _ := bstpInfoCmp_better_iff
  have hworse : bstpInfoCmp pv cpv = .worse ↔ _ := bstpInfoCmp_worse_iff
  cases h : bstpInfoCmp pv cpv with
  | better => simp [(hbetter.mp h).ne']
  | worse => simp [(hworse.mp h).ne]
  | same =>
    refine ⟨fun _ ↦ le_antisymm (not_lt.mp fun hlt ↦ ?_) (not_lt.mp fun hlt ↦ ?_), fun _ ↦ rfl⟩
    · rw [hbetter.mpr hlt] at h
      exact Info.noConfusion h
    · rw [hworse.mpr hlt] at h
      exact Info.noConfusion h

/-! ### The root -/

def BstpState.Offers (bs : BstpState) (p : BstpPort) : Prop :=
  p.infois = .received ∧ bstpSameBridgeid p.portPv.pvDbridgeId bs.bridgePv.pvDbridgeId = false

/-- What `bstp_assign_roles` finds in its first loop: the bridge itself or a path better than
it, and none of the paths offered is better still. -/
structure IsChoice (bs : BstpState) (l : List (BstpPort × ℕ)) (c : RootChoice) : Prop where
  best : ∀ x ∈ l, bs.Offers x.1 → rank c.pv ≤ rank x.1.rootPathPv
  own : c.rbp = none → c = bs.ownChoice
  path : ∀ r, c.rbp = some r → ∃ p, (p, r) ∈ l ∧ bs.Offers p ∧ c.pv = p.rootPathPv ∧
    c.times = { p.portTimes with msgAge := p.portTimes.msgAge + bstpMessageAgeIncr } ∧
    rank c.pv < rank bs.bridgePv

theorem IsChoice.le_own {l : List (BstpPort × ℕ)} {c : RootChoice}
    (h : IsChoice bs l c) : rank c.pv ≤ rank bs.bridgePv := by
  cases hrbp : c.rbp with
  | none => rw [h.own hrbp]; exact le_rfl
  | some r =>
    obtain ⟨p, -, -, -, -, hlt⟩ := h.path r hrbp
    exact hlt.le

theorem consider_isChoice {l : List (BstpPort × ℕ)} {c : RootChoice}
    (h : IsChoice bs l c) (x : BstpPort × ℕ) : IsChoice bs (l ++ [x]) (bs.consider c x) := by
  unfold BstpState.consider
  split
  · rename_i hx
    simp only [Bool.and_eq_true, decide_eq_true_eq, Bool.not_eq_true'] at hx
    have hlt : rank x.1.rootPathPv < rank c.pv := bstpInfoCmp_better_iff.mp hx.2
    refine ⟨fun y hy hoff ↦ ?_, fun hnone ↦ absurd hnone (Option.some_ne_none _), fun r hr ↦ ?_⟩
    · obtain hy | hy := List.mem_append.mp hy
      · exact hlt.le.trans (h.best y hy hoff)
      · rw [List.mem_singleton.mp hy]
    · obtain rfl := Option.some.inj hr
      exact ⟨x.1, List.mem_append_right l (List.mem_singleton.mpr rfl), hx.1, rfl, rfl,
        hlt.trans_le h.le_own⟩
  · rename_i hx
    refine ⟨fun y hy hoff ↦ ?_, h.own, fun r hr ↦ ?_⟩
    · obtain hy | hy := List.mem_append.mp hy
      · exact h.best y hy hoff
      · obtain rfl := List.mem_singleton.mp hy
        refine not_lt.mp fun hlt ↦ hx ?_
        simp only [Bool.and_eq_true, decide_eq_true_eq, Bool.not_eq_true']
        exact ⟨hoff, bstpInfoCmp_better_iff.mpr hlt⟩
    · obtain ⟨p, hp, hrest⟩ := h.path r hr
      exact ⟨p, List.mem_append_left [x] hp, hrest⟩

theorem rootChoice_isChoice (bs : BstpState) : IsChoice bs bs.bplist.zipIdx bs.rootChoice := by
  have hfold : ∀ (l l' : List (BstpPort × ℕ)) c, IsChoice bs l c →
      IsChoice bs (l ++ l') (l'.foldl bs.consider c) := by
    intro l l'
    induction l' generalizing l with
    | nil => simp
    | cons x l' ih =>
      intro c h
      have hx := ih (l ++ [x]) _ (consider_isChoice h x)
      rwa [List.append_assoc] at hx
  refine hfold [] bs.bplist.zipIdx bs.ownChoice ⟨fun x hx ↦ absurd hx List.not_mem_nil,
    fun _ ↦ rfl, fun r hr ↦ absurd hr.symm (Option.some_ne_none r)⟩

/-! ### One port of the bridge at a time -/

def BstpState.frame (bs : BstpState) : BstpState :=
  { bs with allsynced := false, rootPort := none, bplist := [] }

/-- The world is another in the port at `i` alone. -/
structure Sets (i : ℕ) (q : BstpPort) (w w' : World) : Prop where
  port : ∀ j, w'.port j = if i = j then some q else w.port j
  frame : w'.bs.frame = w.bs.frame
  root : w'.bs.rootPort = w.bs.rootPort
  sent : w'.sent = w.sent

theorem Sets.self (h : Sets i q w w') : w'.port i = some q := (h.port i).trans (if_pos rfl)

theorem Sets.trans (h : Sets i q w w') (h' : Sets i r w' w'') : Sets i r w w'' := by
  refine ⟨fun j ↦ ?_, h'.frame.trans h.frame, h'.root.trans h.root, h'.sent.trans h.sent⟩
  rw [h'.port, h.port]
  split <;> rfl

theorem Sets.unsync (h : Sets i q w w') : Sets i q w (w'.onBs ({ · with allsynced := false })) :=
  ⟨h.port, h.frame, h.root, h.sent⟩

theorem sets_self (hp : w.port i = some p) : Sets i p w w := by
  refine ⟨fun j ↦ ?_, rfl, rfl, rfl⟩
  split
  · subst i
    exact hp
  · rfl

theorem sets_onPort {f : BstpPort → BstpPort} (hp : w.port i = some p) :
    Sets i (f p) w (w.onPort i f) := by
  refine ⟨fun j ↦ ?_, rfl, rfl, rfl⟩
  rw [port_onPort]
  split
  · subst i
    rw [hp, Option.map_some]
  · rfl

theorem Sets.sound (h : Sets i q w w') (hs : Sound w) (hq : Tame q) : Sound w' := by
  refine ⟨fun j r hr ↦ ?_, h.sent ▸ hs.silent⟩
  rw [h.port] at hr
  split at hr
  · exact Option.some.inj hr ▸ hq
  · exact hs.tame j r hr

def changeRole (role : Role) (p : BstpPort) : BstpPort :=
  enterRole role { leaveRole p with role := role, proposing := false }

theorem leaveRole_eq (p : BstpPort) : ∃ t t' t'' b b' b'', leaveRole p = { p with
    forwardDelayTimer := t, recentBackupTimer := t', recentRootTimer := t''
    sync := b, synced := b', reroot := b'' } := by
  unfold leaveRole
  split <;> exact ⟨_, _, _, _, _, _, rfl⟩

theorem changeRole_view (role : Role) (p : BstpPort) :
    view (changeRole role p) = view { p with role := role } ∧
      ((changeRole role p).state = .discarding ∨
        role = .designated ∧ (changeRole role p).state = p.state) := by
  obtain ⟨t, t', t'', b, b', b'', heq⟩ := leaveRole_eq p
  rw [changeRole, heq]
  cases role with
  | designated => exact ⟨rfl, .inr ⟨rfl, rfl⟩⟩
  | disabled | alternate | backup | root =>
    rw [enterRole]
    obtain ⟨t, n, heq⟩ := bstpSetPortState_eq .discarding _
    rw [heq]
    exact ⟨rfl, .inl rfl⟩

theorem changeRole_tame (role : Role) (h : Tame p) : Tame (changeRole role p) := by
  obtain ⟨hview, hstate | ⟨rfl, hstate⟩⟩ := changeRole_view role p
  · exact h.of_view role hview (.inl hstate) fun hne ↦ absurd hstate hne
  · exact h.of_view _ hview (hstate ▸ h.staged) fun _ ↦ inTree_of_view hview

theorem bstpSetPortRole_sets (role : Role) (hs : Sound w) (hp : w.port i = some p) :
    ∃ q, view q = view { p with role := role } ∧ Tame q ∧
      Sets i q w (bstpSetPortRole H role i w) := by
  rw [bstpSetPortRole, withPort_some hp]
  split
  · rename_i hrole
    subst hrole
    exact ⟨p, rfl, hs.tame i p hp, sets_self hp⟩
  · have hleave : Sets i _ w ((w.onPort i fun bp ↦
        { leaveRole bp with role := role, proposing := false }).onBs
          ({ · with allsynced := false })) :=
      (sets_onPort hp).unsync
    have hset := hleave.trans (sets_onPort (f := enterRole role) hleave.self)
    have htame : Tame (changeRole role p) := changeRole_tame role (hs.tame i p hp)
    refine ⟨changeRole role p, (changeRole_view role p).1, htame, ?_⟩
    dsimp only
    rw [bstpUpdateTc_eq (hset.sound hs htame)]
    exact hset

theorem bstpUpdateInfo_sets (hp : w.port i = some p) :
    Sets i (ownInfo p) w (bstpUpdateInfo i w) := by
  rw [bstpUpdateInfo, withPort_some hp]
  dsimp only
  split
  · exact (sets_onPort hp).unsync
  · exact sets_onPort hp

/-! ### The outcome of an election -/

/-- How the role of a port, the source of its information and its vectors go together. -/
structure Fits (bs : BstpState) (j : ℕ) (p : BstpPort) : Prop where
  notAged : p.infois ≠ .aged
  disabled : p.infois = .disabled ↔ p.role = .disabled
  mine : p.infois = .mine ↔ p.role = .designated
  root : p.role = .root ↔ bs.rootPort = some j
  backup : p.role = .backup → bstpSameBridgeid p.portPv.pvDbridgeId bs.bridgePv.pvDbridgeId = true
  alternate : p.role = .alternate →
    bstpSameBridgeid p.portPv.pvDbridgeId bs.bridgePv.pvDbridgeId = false
  desg : p.infois ≠ .disabled → p.desgPv = (designate bs p).desgPv
  own : p.infois = .mine → rank p.portPv = rank p.desgPv
  heard : p.infois = .received → p.role ≠ .root → rank p.portPv ≤ rank p.desgPv

def stand (p : BstpPort) : InfoIs × Role × PriVector × PriVector × U16 :=
  (p.infois, p.role, p.portPv, p.desgPv, p.portId)

theorem Fits.of_stand (hq : stand q = stand p) (h : Fits bs j p) : Fits bs j q := by
  simp only [stand, Prod.mk.injEq] at hq
  obtain ⟨hinfo, hrole, hpv, hdesg, hid⟩ := hq
  have hdesignate : (designate bs q).desgPv = (designate bs p).desgPv := by
    simp only [designate, hid]
  obtain ⟨h₁, h₂, h₃, h₄, h₅, h₆, h₇, h₈, h₉⟩ := h
  constructor <;> simpa only [hinfo, hrole, hpv, hdesg, hdesignate]

theorem Fits.of_view (hq : view q = view p) : Fits bs j p → Fits bs j q :=
  .of_stand (congrArg stand hq :)

theorem Fits.of_bs {bs' : BstpState} (h : Fits bs j p) (hroot : bs'.rootPort = bs.rootPort)
    (hpv : bs'.rootPv = bs.rootPv) (hbridge : bs'.bridgePv = bs.bridgePv) :
    Fits bs' j p := by
  have hdesignate : (designate bs' p).desgPv = (designate bs p).desgPv := by
    simp only [designate, hpv, hbridge]
  obtain ⟨h₁, h₂, h₃, h₄, h₅, h₆, h₇, h₈, h₉⟩ := h
  constructor <;> simpa only [hroot, hbridge, hdesignate]

def BstpPort.member (p : BstpPort) : U16 × Bool := (p.ifp, p.active)

/-- What the second loop of `bstp_assign_roles` makes of a port. -/
structure Outcome (e : BstpState) (i : ℕ) (p q : BstpPort) : Prop where
  member : q.member = p.member
  fits : Fits e i q
  cost : q.pathCost = p.pathCost
  kept : q.infois = .received →
    p.infois = .received ∧ q.portPv = p.portPv ∧ q.portTimes = p.portTimes
  root : e.rootPort = some i → q.infois = .received

theorem outcome_of_role {role : Role} (hview : view q = view { designate e p with role := role })
    (hroot : e.rootPort = some i → p.infois = .received)
    (hfits : Fits e i { designate e p with role := role }) : Outcome e i p q := by
  have hinfo : q.infois = p.infois := (congrArg BstpPort.infois hview :)
  refine ⟨(congrArg BstpPort.member hview :), hfits.of_view hview,
    (congrArg BstpPort.pathCost hview :), fun h ↦ ⟨hinfo ▸ h, ?_, ?_⟩,
    fun h ↦ hinfo.trans (hroot h)⟩
  · exact (congrArg BstpPort.portPv hview :)
  · exact (congrArg BstpPort.portTimes hview :)

theorem outcome_of_own (hview : view q = view { designate e p with role := .designated })
    (hne : e.rootPort ≠ some i) : Outcome e i p (ownInfo q) := by
  have hown : view (ownInfo q) = view { designate e p with
      role := .designated, infois := .mine
      portPv := (designate e p).desgPv, portTimes := q.desgTimes } :=
    (congrArg (fun v ↦ { v with
      infois := .mine, portPv := v.desgPv, portTimes := q.desgTimes }) hview :)
  refine ⟨(congrArg BstpPort.member hown :), .of_view hown ?_, (congrArg BstpPort.pathCost hown :),
    fun h ↦ InfoIs.noConfusion h,
    fun h ↦ absurd h hne⟩
  constructor <;> simp_all [designate]

theorem designate_frame (h : bs.frame = e.frame) : designate bs = designate e := by
  have hbridge : bs.bridgePv = e.bridgePv := (congrArg BstpState.bridgePv h :)
  have hroot : bs.rootPv = e.rootPv := (congrArg BstpState.rootPv h :)
  have htimes : bs.rootTimes = e.rootTimes := (congrArg BstpState.rootTimes h :)
  have hhello : bs.bridgeHtime = e.bridgeHtime := (congrArg BstpState.bridgeHtime h :)
  funext p
  simp only [designate, hbridge, hroot, htimes, hhello]

theorem assignRole_outcome (hs : Sound w) (hframe : w.bs.frame = e.frame) (hp : w.port i = some p)
    (hroot : e.rootPort = some i → p.infois = .received) : ∃ q v, Outcome e i p q ∧ Tame q ∧
      Sets i q w v ∧ assignRole H e.rootPort i w =
        if e.rootPort = some i then v.onBs ({ · with rootPort := some i }) else v := by
  have hbridge : w.bs.bridgePv = e.bridgePv := (congrArg BstpState.bridgePv hframe :)
  have hset : Sets i (designate e p) w (w.onPort i (designate e)) := sets_onPort hp
  have hs₁ : Sound (w.onPort i (designate e)) := hs.onPort_vital fun _ ↦ rfl
  have hrole := fun role ↦ bstpSetPortRole_sets (H := H) role hs₁ hset.self
  rw [assignRole, designate_frame hframe, withPort_some hset.self]
  by_cases hrbp : e.rootPort = some i
  · have hinfo := hroot hrbp
    have hinfo₁ : (designate e p).infois = .received := hinfo
    simp only [hinfo₁, if_pos hrbp]
    obtain ⟨q, hview, htame, hsets⟩ := hrole .root
    refine ⟨q, _, outcome_of_role hview hroot ?_, htame, hset.trans hsets, rfl⟩
    constructor <;> simp_all [designate]
  simp only [if_neg hrbp]
  -- the roles that leave the information alone, and the one that renews it
  have hkeep : ∀ role, Fits e i { designate e p with role := role } → ∃ q v, Outcome e i p q ∧
      Tame q ∧ Sets i q w v ∧ bstpSetPortRole H role i (w.onPort i (designate e)) = v := by
    intro role hfits
    obtain ⟨q, hview, htame, hsets⟩ := hrole role
    exact ⟨q, _, outcome_of_role hview hroot hfits, htame, hset.trans hsets, rfl⟩
  have hown : ∃ q v, Outcome e i p q ∧ Tame q ∧ Sets i q w v ∧
      bstpUpdateInfo i (bstpSetPortRole H .designated i (w.onPort i (designate e))) = v := by
    obtain ⟨q, hview, htame, hsets⟩ := hrole .designated
    exact ⟨ownInfo q, _, outcome_of_own hview hrbp, htame.congr rfl,
      (hset.trans hsets).trans (bstpUpdateInfo_sets hsets.self), rfl⟩
  cases hinfo : p.infois with
  | disabled =>
    have hinfo₁ : (designate e p).infois = .disabled := hinfo
    simp only [hinfo₁]
    refine hkeep .disabled ?_
    constructor <;> simp_all [designate]
  | aged =>
    have hinfo₁ : (designate e p).infois = .aged := hinfo
    simp only [hinfo₁]
    exact hown
  | mine =>
    have hinfo₁ : (designate e p).infois = .mine := hinfo
    simp only [hinfo₁]
    obtain ⟨q, hview, -, hsets⟩ := hrole .designated
    rw [withPort_some hsets.self]
    split
    · exact hown
    · rename_i hsame
      have hpv : q.portPv = p.portPv := (congrArg BstpPort.portPv hview :)
      have hdesg : q.desgPv = (designate e p).desgPv := (congrArg BstpPort.desgPv hview :)
      rw [Bool.or_eq_true, not_or, decide_eq_true_eq, not_not, bstpInfoCmp_same_iff, hpv,
        hdesg] at hsame
      have hrank := hsame.1
      refine hkeep .designated ?_
      clear hsame
      constructor <;> simp_all [designate]
  | received =>
    have hinfo₁ : (designate e p).infois = .received := hinfo
    have hbridge₁ : (w.onPort i (designate e)).bs.bridgePv = e.bridgePv := hbridge
    simp only [hinfo₁, hbridge₁]
    split_ifs with hbetter hsame
    · exact hown
    all_goals have hle := not_lt.mp fun h ↦ hbetter (bstpInfoCmp_better_iff.mpr h)
    · refine hkeep .backup ?_
      constructor <;> simp_all [designate]
    · refine hkeep .alternate ?_
      constructor <;> simp_all [designate]

theorem assignLoop (l : List ℕ) (hl : l.Nodup) (hs : Sound w) (hframe : w.bs.frame = e.frame)
    (hroot : ∀ r, e.rootPort = some r → ∃ p, w.port r = some p ∧ p.infois = .received)
    (hset : w.bs.rootPort = e.rootPort ∨ ∃ r ∈ l, e.rootPort = some r)
    (hport : ∀ i ∈ l, ∃ p, w.port i = some p) :
    let w' := l.foldl (fun w i ↦ assignRole H e.rootPort i w) w
    Sound w' ∧ w'.bs.frame = e.frame ∧ w'.bs.rootPort = e.rootPort ∧
      (∀ j ∉ l, w'.port j = w.port j) ∧
      ∀ j ∈ l, ∃ p q, w.port j = some p ∧ w'.port j = some q ∧ Outcome e j p q := by
  induction l generalizing w with
  | nil => exact ⟨hs, hframe, hset.elim id (by simp), fun _ _ ↦ rfl, by simp⟩
  | cons i l ih =>
    obtain ⟨hi, hl⟩ := List.nodup_cons.mp hl
    obtain ⟨p, hp⟩ := hport i List.mem_cons_self
    obtain ⟨q, v, hout, htame, hsets, heq⟩ := assignRole_outcome (H := H) hs hframe hp fun h ↦ by
      obtain ⟨p', hp', hinfo⟩ := hroot i h
      exact Option.some.inj (hp.symm.trans hp') ▸ hinfo
    have hports : ∀ j, (assignRole H e.rootPort i w).port j =
        if i = j then some q else w.port j := by
      intro j
      rw [heq]
      split <;> exact hsets.port j
    have hne : ∀ j ∈ l, i ≠ j := fun j hj h ↦ hi (h ▸ hj)
    obtain ⟨hs', hframe', hroot', hout₁, hin⟩ := ih (w := assignRole H e.rootPort i w) hl
      (by
        rw [heq]
        split
        · exact (hsets.sound hs htame).onBs rfl
        · exact hsets.sound hs htame)
      (by
        rw [heq]
        split <;> exact hsets.frame.trans hframe)
      (fun r hr ↦ by
        rw [hports]
        split
        · subst i
          exact ⟨q, rfl, hout.root hr⟩
        · exact hroot r hr)
      (by
        rw [heq]
        split
        · exact .inl (Eq.symm ‹_›)
        · rw [hsets.root]
          refine hset.imp id fun ⟨r, hr, hrbp⟩ ↦ ?_
          obtain rfl | hr := List.mem_cons.mp hr
          · exact absurd hrbp ‹_›
          · exact ⟨r, hr, hrbp⟩)
      (fun j hj ↦ by
        rw [hports, if_neg (hne j hj)]
        exact hport j (List.mem_cons_of_mem i hj))
    refine ⟨hs', hframe', hroot', fun j hj ↦ ?_, fun j hj ↦ ?_⟩
    · rw [List.mem_cons, not_or] at hj
      exact (hout₁ j hj.2).trans ((hports j).trans (if_neg (Ne.symm hj.1)))
    · obtain rfl | hj := List.mem_cons.mp hj
      · exact ⟨p, q, hp, (hout₁ j hi).trans ((hports j).trans (if_pos rfl)), hout⟩
      · obtain ⟨p', q', hp', hq', hout'⟩ := hin j hj
        exact ⟨p', q', by rwa [hports, if_neg (hne j hj)] at hp', hq', hout'⟩

structure Settled (w : World) : Prop where
  fits : ∀ j p, w.port j = some p → Fits w.bs j p
  root : ∀ r, w.bs.rootPort = some r → ∃ p, w.port r = some p

def Elected (w : World) : Prop := Settled w ∧ IsChoice w.bs w.bs.bplist.zipIdx w.bs.root

theorem mem_zipIdx_iff : (p, j) ∈ w.bs.bplist.zipIdx ↔ w.port j = some p :=
  List.mem_zipIdx_iff_getElem?

def BstpState.elect (bs : BstpState) : BstpState :=
  { bs with
    rootPv := bs.rootChoice.pv, rootTimes := bs.rootChoice.times, rootPort := bs.rootChoice.rbp }

theorem bstpAssignRoles_outcome (hs : Sound w) : Sound (bstpAssignRoles H w) ∧
    (bstpAssignRoles H w).bs.frame = w.bs.elect.frame ∧
    (bstpAssignRoles H w).bs.rootPort = w.bs.rootChoice.rbp ∧
    (∀ j p, w.port j = some p →
      ∃ q, (bstpAssignRoles H w).port j = some q ∧ Outcome w.bs.elect j p q) ∧
    ∀ j q, (bstpAssignRoles H w).port j = some q →
      ∃ p, w.port j = some p ∧ Outcome w.bs.elect j p q := by
  have hroot : ∀ r, w.bs.rootChoice.rbp = some r → ∃ p, w.port r = some p ∧
    p.infois = .received := by
    intro r hr
    obtain ⟨p, hp, hoff, -⟩ := (rootChoice_isChoice w.bs).path r hr
    exact ⟨p, mem_zipIdx_iff.mp hp, hoff.1⟩
  have hmem : ∀ {j p}, w.port j = some p → j ∈ List.range w.bs.bplist.length := fun hp ↦
    List.mem_range.mpr (List.getElem?_eq_some_iff.mp hp).1
  obtain ⟨hs', hframe, hrbp, hout, hin⟩ := assignLoop (H := H) (e := w.bs.elect)
    (w := w.onBs fun bs ↦ { bs with
      rootPv := w.bs.rootChoice.pv, rootTimes := w.bs.rootChoice.times, rootPort := none })
    (List.range w.bs.bplist.length) List.nodup_range (hs.onBs rfl) rfl hroot
    (by
      cases hrbp : w.bs.rootChoice.rbp with
      | none => exact .inl hrbp.symm
      | some r =>
        obtain ⟨p, hp, -⟩ := hroot r hrbp
        exact .inr ⟨r, hmem hp, hrbp⟩)
    fun i hi ↦ ⟨_, List.getElem?_eq_getElem (List.mem_range.mp hi)⟩
  refine ⟨hs', hframe, hrbp, fun j p hp ↦ ?_, fun j q hq ↦ ?_⟩
  · obtain ⟨p', q, hp', hq, hout'⟩ := hin j (hmem hp)
    obtain rfl := Option.some.inj (hp.symm.trans hp')
    exact ⟨q, hq, hout'⟩
  · by_cases hj : j ∈ List.range w.bs.bplist.length
    · obtain ⟨p, q', hp, hq', hout'⟩ := hin j hj
      obtain rfl := Option.some.inj (hq'.symm.trans hq)
      exact ⟨p, hp, hout'⟩
    · exact absurd (hmem ((hout j hj).symm.trans hq)) hj

theorem bstpAssignRoles_elected (hs : Sound w) : Elected (bstpAssignRoles H w) := by
  obtain ⟨-, hframe, hrbp, hport, hback⟩ := bstpAssignRoles_outcome (H := H) hs
  generalize bstpAssignRoles H w = w' at hframe hrbp hport hback
  have hchoice := rootChoice_isChoice w.bs
  have hbridge : w'.bs.bridgePv = w.bs.bridgePv := (congrArg BstpState.bridgePv hframe :)
  have hpv : w'.bs.rootPv = w.bs.rootChoice.pv := (congrArg BstpState.rootPv hframe :)
  have htimes : w'.bs.rootTimes = w.bs.rootChoice.times := (congrArg BstpState.rootTimes hframe :)
  have hroot : w'.bs.root = w.bs.rootChoice := by rw [BstpState.root, hpv, htimes, hrbp]
  have hown : w'.bs.ownChoice = w.bs.ownChoice := (congrArg BstpState.ownChoice hframe :)
  refine ⟨⟨fun j q hq ↦ ?_, fun r hr ↦ ?_⟩, ?_⟩
  · obtain ⟨p, -, hout⟩ := hback j q hq
    exact hout.fits.of_bs hrbp hpv hbridge
  · obtain ⟨p, hp, -⟩ := hchoice.path r (hrbp.symm.trans hr)
    obtain ⟨q, hq, -⟩ := hport r p (mem_zipIdx_iff.mp hp)
    exact ⟨q, hq⟩
  rw [hroot]
  refine ⟨fun x hx hoff ↦ ?_, fun hnone ↦ (hchoice.own hnone).trans hown.symm, fun r hr ↦ ?_⟩
  · -- a port that still offers a path offered the same one before
    obtain ⟨p, hp, hout⟩ := hback x.2 x.1 (mem_zipIdx_iff.mp hx)
    obtain ⟨hinfo, hpv', -⟩ := hout.kept hoff.1
    have hoff' : w.bs.Offers p := ⟨hinfo, by rw [← hpv', ← hbridge]; exact hoff.2⟩
    rw [BstpPort.rootPathPv, hpv', hout.cost]
    exact hchoice.best (p, x.2) (mem_zipIdx_iff.mpr hp) hoff'
  · obtain ⟨p, hp, hoff, heq, heq', hlt⟩ := hchoice.path r hr
    obtain ⟨q, hq, hout⟩ := hport r p (mem_zipIdx_iff.mp hp)
    obtain ⟨-, hpv', htimes'⟩ := hout.kept (hout.root hr)
    refine ⟨q, mem_zipIdx_iff.mpr hq, ⟨hout.root hr, ?_⟩, ?_, ?_, hbridge ▸ hlt⟩
    · rw [hpv', hbridge]
      exact hoff.2
    · rw [heq, BstpPort.rootPathPv, BstpPort.rootPathPv, hpv', hout.cost]
    · rw [heq', htimes']

theorem Same.settled (h : Same w w') (hs : Settled w) : Settled w' := by
  have hroot : w'.bs.root = w.bs.root := congrArg (fun x ↦ x.2.1) h.ballot
  refine ⟨fun j q hq ↦ ?_, fun r hr ↦ ?_⟩
  · obtain ⟨p, hp, hmild⟩ := h.port_back hq
    exact ((hs.fits j p hp).of_view hmild.view).of_bs (congrArg RootChoice.rbp hroot)
      (congrArg RootChoice.pv hroot) (congrArg Prod.fst h.ballot)
  · obtain ⟨p, hp⟩ := hs.root r ((congrArg RootChoice.rbp hroot).symm.trans hr)
    obtain ⟨q, hq, -⟩ := h.port r p hp
    exact ⟨q, hq⟩

theorem Same.elected (h : Same w w') (he : Elected w) : Elected w' := by
  obtain ⟨hs, hbest, hown, hpath⟩ := he
  refine ⟨h.settled hs, ?_⟩
  have hroot : w'.bs.root = w.bs.root := congrArg (fun x ↦ x.2.1) h.ballot
  have hbridge : w'.bs.bridgePv = w.bs.bridgePv := congrArg Prod.fst h.ballot
  have hchoice : w'.bs.ownChoice = w.bs.ownChoice := congrArg (fun x ↦ x.2.2) h.ballot
  have hoffers : ∀ {p q}, Mild p q → (w'.bs.Offers q ↔ w.bs.Offers p) := by
    intro p q hmild
    rw [BstpState.Offers, BstpState.Offers, hbridge]
    have hview : q.infois = p.infois := (congrArg BstpPort.infois hmild.view :)
    have hpv : q.portPv = p.portPv := (congrArg BstpPort.portPv hmild.view :)
    rw [hview, hpv]
  rw [hroot]
  refine ⟨fun x hx hoff ↦ ?_, fun hnone ↦ (hown hnone).trans hchoice.symm, fun r hr ↦ ?_⟩
  · obtain ⟨p, hp, hmild⟩ := h.port_back (mem_zipIdx_iff.mp hx)
    have hpv : x.1.rootPathPv = p.rootPathPv := (congrArg BstpPort.rootPathPv hmild.view :)
    rw [hpv]
    exact hbest (p, x.2) (mem_zipIdx_iff.mpr hp) ((hoffers hmild).mp hoff)
  · obtain ⟨p, hp, hoff, heq, htimes, hlt⟩ := hpath r hr
    obtain ⟨q, hq, hmild⟩ := h.port r p (mem_zipIdx_iff.mp hp)
    have hpv : q.rootPathPv = p.rootPathPv := (congrArg BstpPort.rootPathPv hmild.view :)
    have htimes' : q.portTimes = p.portTimes := (congrArg BstpPort.portTimes hmild.view :)
    exact ⟨q, mem_zipIdx_iff.mpr hq, (hoffers hmild).mpr hoff, hpv ▸ heq, htimes' ▸ htimes,
      hbridge ▸ hlt⟩

end Layer3Switch.Bstp
