import Layer3Switch.Stp.Types

namespace Layer3Switch.Stp

open Lib.Bytes
open Timers (U32)

section Definitions

variable {κ : Type} [Add κ] [LT κ] [DecidableLT κ] [OfNat κ 0]
variable (e : Endian)

def stpGetPort (br : StpInstance κ) (portNo : U16) : Option (StpPortEntry κ) :=
  br.portList.find? fun p ↦ p.portNo == portNo.setWidth 32

def stpIsRootBridge (br : StpInstance κ) : Bool := br.bridgeId == br.designatedRoot

def stpIsDesignatedPort (br : StpInstance κ) (p : StpPortEntry κ) : Bool :=
  p.designatedBridge == br.bridgeId && p.designatedPort == p.portId

def betterRootPort (p rp : StpPortEntry κ) : Bool :=
  match p.designatedRoot.memcmp e rp.designatedRoot with
  | .lt => true
  | .gt => false
  | .eq =>
    if p.designatedCost + p.pathCost < rp.designatedCost + rp.pathCost then true
    else if rp.designatedCost + rp.pathCost < p.designatedCost + p.pathCost then false
    else
      match p.designatedBridge.memcmp e rp.designatedBridge with
      | .lt => true
      | .gt => false
      | .eq =>
        if p.designatedPort < rp.designatedPort then true
        else if rp.designatedPort < p.designatedPort then false
        else p.portId < rp.portId

/-- The result is `none` where the code reads through the null pointer that
`stp_get_port` returned. -/
def stpShouldBecomeRootPort (br : StpInstance κ) (p : StpPortEntry κ) (rootPort : U16) :
    Option Bool :=
  if p.state = .disabled ∨ stpIsDesignatedPort br p then some false
  else if br.bridgeId.memcmp e p.designatedRoot ≠ .gt then some false
  else if rootPort = 0 then some true
  else (stpGetPort br rootPort).map (betterRootPort e p)

def considerRootPort (br : StpInstance κ) (rootPort : U16) (p : StpPortEntry κ) : Option U16 :=
  if p.isOwnBpdu then some rootPort
  else
    match stpShouldBecomeRootPort e br p rootPort with
    | none => none
    | some true => some (p.portNo.setWidth 16)
    | some false => some rootPort

def stpRootSelection (br : StpInstance κ) : Option (StpInstance κ) :=
  match br.portList.foldlM (considerRootPort e br) 0 with
  | none => none
  | some rootPort =>
    if rootPort = 0 then
      some { br with rootPort := 0, designatedRoot := br.bridgeId, rootPathCost := 0 }
    else
      match stpGetPort br rootPort with
      | none => none
      | some p => some { br with
          rootPort := rootPort.setWidth 32
          designatedRoot := p.designatedRoot
          rootPathCost := p.designatedCost + p.pathCost }

def stpBecomeDesignatedPort (br : StpInstance κ) (p : StpPortEntry κ) : StpPortEntry κ :=
  { p with
    designatedRoot := br.designatedRoot
    designatedCost := br.rootPathCost
    designatedBridge := br.bridgeId
    designatedPort := p.portId }

def stpShouldBecomeDesignatedPort (br : StpInstance κ) (p : StpPortEntry κ) : Bool :=
  if stpIsDesignatedPort br p then true
  else if p.designatedRoot ≠ br.designatedRoot then true
  else if br.rootPathCost < p.designatedCost then true
  else if p.designatedCost < br.rootPathCost then false
  else
    match br.bridgeId.memcmp e p.designatedBridge with
    | .lt => true
    | .gt => false
    | .eq => p.portId < p.designatedPort

def selectDesignatedPort (br : StpInstance κ) (p : StpPortEntry κ) : StpPortEntry κ :=
  if p.state ≠ .disabled ∧ stpShouldBecomeDesignatedPort e br p then stpBecomeDesignatedPort br p
  else p

def stpDesignatedPortSelection (br : StpInstance κ) : StpInstance κ :=
  { br with portList := br.portList.map (selectDesignatedPort e br) }

def stpConfigurationUpdate (br : StpInstance κ) : Option (StpInstance κ) :=
  (stpRootSelection e br).map (stpDesignatedPortSelection e)

def stpSupersedesPortInfo (br : StpInstance κ) (p : StpPortEntry κ) (bpdu : StpBpdu κ) :
    Bool × StpPortEntry κ :=
  match bpdu.rootId.memcmp e p.designatedRoot with
  | .lt => (true, p)
  | .gt => (false, p)
  | .eq =>
    if bpdu.rootPathCost < p.designatedCost then (true, p)
    else if p.designatedCost < bpdu.rootPathCost then (false, p)
    else
      match bpdu.bridgeId.memcmp e p.designatedBridge with
      | .lt => (true, p)
      | .gt => (false, p)
      | .eq =>
        if bpdu.bridgeId ≠ br.bridgeId then (true, p)
        else if bpdu.portId ≤ p.designatedPort then
          (true, if bpdu.portId = p.designatedPort then { p with isOwnBpdu := false } else p)
        else (false, p)

structure Candidate (br : StpInstance κ) (p : StpPortEntry κ) : Prop where
  state : p.state ≠ .disabled
  not_designated : stpIsDesignatedPort br p = false
  rank_lt : p.designatedRoot.rank e < br.bridgeId.rank e
  not_own : p.isOwnBpdu = false

instance (br : StpInstance κ) (p : StpPortEntry κ) : Decidable (Candidate e br p) :=
  decidable_of_iff (p.state ≠ .disabled ∧ stpIsDesignatedPort br p = false ∧
      p.designatedRoot.rank e < br.bridgeId.rank e ∧ p.isOwnBpdu = false)
    ⟨fun h ↦ ⟨h.1, h.2.1, h.2.2.1, h.2.2.2⟩,
      fun h ↦ ⟨h.state, h.not_designated, h.rank_lt, h.not_own⟩⟩

end Definitions

variable {κ : Type} [LT κ] [DecidableLT κ] {e : Endian} {br br' : StpInstance κ}
variable {p : StpPortEntry κ}

omit [LT κ] [DecidableLT κ] in
theorem Candidate.of_bridgeId (h : Candidate e br p) (hid : br'.bridgeId = br.bridgeId) :
    Candidate e br' p where
  state := h.state
  not_designated := by
    rw [stpIsDesignatedPort, hid]
    exact h.not_designated
  rank_lt := by
    rw [hid]
    exact h.rank_lt
  not_own := h.not_own

omit [LT κ] [DecidableLT κ] in
theorem stpGetPort_spec {n : U16} (h : stpGetPort br n = some p) :
    p ∈ br.portList ∧ p.portNo = n.setWidth 32 := by
  unfold stpGetPort at h
  have hb := List.find?_some h
  exact ⟨List.mem_of_find?_eq_some h, eq_of_beq hb⟩

theorem selectDesignatedPort_eq_self (h : selectDesignatedPort e br p = p)
    (hs : p.state ≠ .disabled) :
    p.designatedRoot = br.designatedRoot ∧
      (stpIsDesignatedPort br p → p.designatedCost = br.rootPathCost) := by
  by_cases hd : stpShouldBecomeDesignatedPort e br p
  · rw [selectDesignatedPort, if_pos ⟨hs, hd⟩] at h
    rw [← h]
    exact ⟨rfl, fun _ ↦ rfl⟩
  · rw [stpShouldBecomeDesignatedPort] at hd
    split at hd
    · exact absurd rfl hd
    · rename_i hp
      split at hd
      · exact absurd rfl hd
      · rename_i hr
        exact ⟨not_ne_iff.mp hr, fun hp' ↦ absurd hp' hp⟩

variable [Add κ]

theorem considerRootPort_cases {n m : U16} (h : considerRootPort e br n p = some m) :
    m = n ∨ Candidate e br p ∧ m = p.portNo.setWidth 16 := by
  unfold considerRootPort at h
  split at h
  · exact .inl (Option.some.inj h).symm
  · rename_i hown
    split at h
    · cases h
    · rename_i hs
      right
      refine ⟨?_, (Option.some.inj h).symm⟩
      unfold stpShouldBecomeRootPort at hs
      split at hs
      · cases hs
      · rename_i hp
        push Not at hp
        split at hs
        · cases hs
        · rename_i hgt
          have hlt := BridgeId.memcmp_eq_gt.mp (not_ne_iff.mp hgt)
          exact ⟨hp.1, Bool.eq_false_iff.mpr hp.2, hlt, Bool.eq_false_iff.mpr hown⟩
    · exact .inl (Option.some.inj h).symm

theorem foldlM_considerRootPort (l : List (StpPortEntry κ)) {n m : U16}
    (h : l.foldlM (considerRootPort e br) n = some m) :
    m = n ∨ ∃ p ∈ l, Candidate e br p ∧ m = p.portNo.setWidth 16 := by
  induction l generalizing n with
  | nil => exact .inl (Option.some.inj h).symm
  | cons p l ih =>
    rw [List.foldlM_cons] at h
    obtain ⟨k, hk, h⟩ := Option.bind_eq_some_iff.mp h
    obtain hm | ⟨q, hq, hc⟩ := ih h
    · obtain hk | ⟨hc, hk⟩ := considerRootPort_cases hk
      · exact .inl (hm.trans hk)
      · exact .inr ⟨p, List.mem_cons_self, hc, hm.trans hk⟩
    · exact .inr ⟨q, List.mem_cons_of_mem p hq, hc⟩

variable [OfNat κ 0]

theorem stpRootSelection_cases (h : stpRootSelection e br = some br') :
    br' = { br with rootPort := 0, designatedRoot := br.bridgeId, rootPathCost := 0 } ∨
    ∃ q ∈ br.portList, Candidate e br q ∧ q.portNo.setWidth 16 ≠ 0#16 ∧
      ∃ p, stpGetPort br (q.portNo.setWidth 16) = some p ∧
        br' = { br with
          rootPort := (q.portNo.setWidth 16).setWidth 32
          designatedRoot := p.designatedRoot
          rootPathCost := p.designatedCost + p.pathCost } := by
  unfold stpRootSelection at h
  split at h
  · cases h
  · rename_i n hn
    split at h
    · exact .inl (Option.some.inj h).symm
    · rename_i hz
      obtain h0 | ⟨q, hq, hc, rfl⟩ := foldlM_considerRootPort _ hn
      · exact absurd h0 hz
      · split at h
        · cases h
        · rename_i p hp
          exact .inr ⟨q, hq, hc, hz, p, hp, (Option.some.inj h).symm⟩

theorem stpConfigurationUpdate_eq_self (h : stpConfigurationUpdate e br = some br) :
    stpRootSelection e br = some br ∧ ∀ p ∈ br.portList, selectDesignatedPort e br p = p := by
  obtain ⟨br₁, h₁, h₂⟩ := Option.map_eq_some_iff.mp h
  have hports : br₁.portList = br.portList := by
    obtain rfl | ⟨-, -, -, -, -, -, rfl⟩ := stpRootSelection_cases h₁ <;> rfl
  -- the designated port selection leaves the bridge's own fields alone
  have hbr : br₁ = br := by
    calc br₁ = { stpDesignatedPortSelection e br₁ with portList := br₁.portList } := rfl
      _ = { br with portList := br₁.portList } := by rw [h₂]
      _ = br := by rw [hports]
  subst hbr
  refine ⟨h₁, ?_⟩
  have hmap : br₁.portList.map (selectDesignatedPort e br₁) = br₁.portList :=
    congrArg StpInstance.portList h₂
  have hall := List.map_eq_map_iff.mp (hmap.trans (List.map_id _).symm)
  exact fun p hp ↦ hall p hp

end Layer3Switch.Stp
