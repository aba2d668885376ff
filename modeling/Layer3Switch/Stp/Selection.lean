import Layer3Switch.Stp.Changes
import Layer3Switch.Stp.Quiet

namespace Layer3Switch.Stp

open Lib Lib.Bytes
open Timers (U32)

variable {κ τ Φ : Type} {F : Prop}

section Passes

variable {α : Type} (f : α → α) (l : List α)

def passes (k : ℕ) : List α := (List.range k).foldl (fun l i ↦ l.modify i f) l

theorem passes_succ (k : ℕ) : passes f l (k + 1) = (passes f l k).modify k f := by
  rw [passes, List.range_succ, List.foldl_append]
  rfl

theorem passes_getElem? (k i : ℕ) :
    (passes f l k)[i]? = if i < k then l[i]?.map f else l[i]? := by
  induction k with
  | zero => rfl
  | succ k ih =>
    rw [passes_succ, List.getElem?_modify, ih]
    obtain hi | rfl | hi := lt_trichotomy i k
    · simp [hi, Nat.lt_succ_of_lt hi, Nat.ne_of_gt hi]
    · simp
    · simp [Nat.not_lt_of_gt hi, Nat.not_lt.mpr (Nat.succ_le_of_lt hi), Nat.ne_of_lt hi]

theorem passes_length : passes f l l.length = l.map f := by
  apply List.ext_getElem?
  intro i
  rw [passes_getElem?, List.getElem?_map]
  split
  · rfl
  · rename_i hi
    rw [List.getElem?_eq_none (Nat.not_lt.mp hi)]
    rfl

end Passes

section Modify

variable {br : StpInstance κ} {p : ℕ} {q : StpPortEntry κ} {f g : StpPortEntry κ → StpPortEntry κ}

theorem modifyPort_congr (hq : br.portList[p]? = some q) (h : f q = g q) :
    br.modifyPort p f = br.modifyPort p g := by
  have hports : br.portList.modify p f = br.portList.modify p g := by
    apply List.ext_getElem?
    intro i
    rw [List.getElem?_modify, List.getElem?_modify]
    by_cases hi : p = i
    · subst hi
      simp [hq, h]
    · simp [hi]
  rw [StpInstance.modifyPort, StpInstance.modifyPort, hports]

theorem modifyPort_self (hq : br.portList[p]? = some q) (h : f q = q) : br.modifyPort p f = br := by
  rw [modifyPort_congr (g := id) hq h, StpInstance.modifyPort, List.modify_id]

theorem mem_modifyPort {q' : StpPortEntry κ} (h : q' ∈ (br.modifyPort p f).portList) :
    ∃ q ∈ br.portList, q' = q ∨ br.portList[p]? = some q ∧ q' = f q := by
  obtain ⟨i, hi⟩ := List.mem_iff_getElem?.mp h
  rw [StpInstance.modifyPort, List.getElem?_modify, Option.map_eq_map, Option.map_eq_some_iff] at hi
  obtain ⟨q, hq, rfl⟩ := hi
  refine ⟨q, List.mem_of_getElem? hq, ?_⟩
  split
  · rename_i hpi
    exact .inr ⟨hpi ▸ hq, rfl⟩
  · exact .inl rfl

end Modify

def Silent (br : StpInstance κ) : Prop :=
  ∀ q ∈ br.portList, q.state ≠ .disabled → q.portNo = br.rootPort → q.configPending = false

/-- One entry has been updated, and nothing new is to be transmitted. -/
structure Turned (W : Wire κ Φ) (p : ℕ) (f : StpPortEntry κ → StpPortEntry κ)
    (w w' : World κ τ Φ) : Prop where
  tree : w'.br.tree = w.br.tree.modifyPort p f
  operStatus : ∀ n, w'.operStatus n = w.operStatus n
  sent : SendsFrom W (fun _ ↦ False) w w'
  pending : ∀ (i : ℕ) (q' : StpPortEntry κ), w'.br.portList[i]? = some q' → q'.configPending →
    ∃ q, w.br.portList[i]? = some q ∧ q.configPending

section Turned

variable {H : Host τ} {W : Wire κ Φ} {p : ℕ} {f : StpPortEntry κ → StpPortEntry κ}
  {w w' w'' : World κ τ Φ}

theorem Turned.refl {q : StpPortEntry κ} (hq : w.br.tree.portList[p]? = some q) (hf : f q = q) :
    Turned W p f w w where
  tree := (modifyPort_self hq hf).symm
  operStatus _ := rfl
  sent := .refl
  pending _ q hq hp := ⟨q, hq, hp⟩

theorem Turned.modifyPort {g : StpPortEntry κ → StpPortEntry κ} (hg : ∀ q, (g q).tree = f q.tree)
    (hp : ∀ q, (g q).configPending → q.configPending) : Turned W p f w (w.modifyPort p g) where
  tree := tree_modifyPort hg p
  operStatus _ := rfl
  sent := .of_eq rfl
  pending i q' hq' hpend := by
    simp only [World.modifyPort, List.getElem?_modify, Option.map_eq_map,
      Option.map_eq_some_iff] at hq'
    obtain ⟨q, hq, rfl⟩ := hq'
    refine ⟨q, hq, ?_⟩
    split at hpend
    · exact hp q hpend
    · exact hpend

theorem Turned.noted (h : Turned W p f w w') (h' : Noted H W w' w'') : Turned W p f w w'' where
  tree := h'.quiet.tree.trans h.tree
  operStatus n := (h'.quiet.operStatus n).trans (h.operStatus n)
  sent := h.sent.trans h'.sends
  pending i q' hq' hp := by
    rw [h'.br] at hq'
    exact h.pending i q' hq' hp

theorem Noted.turned (h : Noted H W w w') (h' : Turned W p f w' w'') : Turned W p f w w'' where
  tree := by rw [h'.tree, h.quiet.tree]
  operStatus n := (h'.operStatus n).trans (h.quiet.operStatus n)
  sent := h.sends.trans h'.sent
  pending i q' hq' hp := by
    obtain ⟨q, hq, hp⟩ := h'.pending i q' hq' hp
    rw [h.br] at hq
    exact ⟨q, hq, hp⟩

theorem Turned.env (h : Turned W p f w w') (env : τ) : Turned W p f w { w' with env := env } :=
  ⟨h.tree, h.operStatus, h.sent, h.pending⟩

theorem Turned.congr {g : StpPortEntry κ → StpPortEntry κ} {q : StpPortEntry κ}
    (h : Turned W p f w w') (hq : w.br.tree.portList[p]? = some q) (hfg : f q = g q) :
    Turned W p g w w' :=
  ⟨h.tree.trans (modifyPort_congr hq hfg), h.operStatus, h.sent, h.pending⟩

theorem Turned.entry (h : Turned W p f w w') {q q' : StpPortEntry κ}
    (hq : w.br.portList[p]? = some q) (hq' : w'.br.portList[p]? = some q') :
      q'.tree = f q.tree := by
  have hp := tree_getElem? w'.br p
  rw [h.tree, StpInstance.modifyPort, List.getElem?_modify, tree_getElem?, hq, hq'] at hp
  simpa using hp.symm

theorem Turned.entry_of_ne (h : Turned W p f w w') {i : ℕ} (hi : p ≠ i) {q q' : StpPortEntry κ}
    (hq : w.br.portList[i]? = some q) (hq' : w'.br.portList[i]? = some q') : q'.tree = q.tree := by
  have hp := tree_getElem? w'.br i
  rw [h.tree, StpInstance.modifyPort, List.getElem?_modify, tree_getElem?, hq, hq'] at hp
  simpa [hi] using hp.symm

end Turned

def StpPortEntry.hushed (q : StpPortEntry κ) : StpPortEntry κ :=
  { q with configPending := false, topologyChangeAck := false }

theorem Turned.hushed {W : Wire κ Φ} {p : ℕ} {f : StpPortEntry κ → StpPortEntry κ}
    {w w' : World κ τ Φ} (h : Turned W p f (w.modifyPort p (·.hushed)) w') :
    Turned W p f w w' ∧ ∀ q', w'.br.portList[p]? = some q' → q'.configPending = false := by
  have hhush : Turned W p id w (w.modifyPort p (·.hushed)) :=
    .modifyPort (fun _ ↦ rfl) fun _ hp ↦ absurd hp Bool.false_ne_true
  have htree : (w.modifyPort p (·.hushed)).br.tree = w.br.tree := by
    rw [hhush.tree, StpInstance.modifyPort, List.modify_id]
  refine ⟨⟨by rw [h.tree, htree], h.operStatus, h.sent, ?_⟩, ?_⟩
  · intro i q' hq' hp
    obtain ⟨q₁, hq₁, hp⟩ := h.pending i q' hq' hp
    exact hhush.pending i q₁ hq₁ hp
  · intro q' hq'
    by_contra hp
    obtain ⟨q₁, hq₁, hp⟩ := h.pending p q' hq' (Bool.eq_true_of_not_eq_false hp)
    simp only [World.modifyPort, List.getElem?_modify, Option.map_eq_map,
      Option.map_eq_some_iff] at hq₁
    obtain ⟨q, -, rfl⟩ := hq₁
    simp [StpPortEntry.hushed] at hp

section Selection

variable {H : Host τ} {W : Wire κ Φ} {w : World κ τ Φ} (hH : H.Faults → F)
variable {p : ℕ} {q : StpPortEntry κ}

theorem tree_entry (hq : w.br.portList[p]? = some q) : w.br.tree.portList[p]? = some q.tree := by
  rw [tree_getElem?, hq, Option.map_some]

theorem badges_modifyPort {br : StpInstance κ} {f : StpPortEntry κ → StpPortEntry κ}
    (hq : br.portList[p]? = some q) (hf : (f q).badge = q.badge) :
    (br.modifyPort p f).portList.map (·.badge) = br.portList.map (·.badge) := by
  apply List.ext_getElem?
  intro i
  simp only [StpInstance.modifyPort, List.getElem?_map, List.getElem?_modify]
  by_cases hi : p = i
  · subst hi
    simp [hq, hf]
  · simp [hi]

theorem Ready.setState {br : StpInstance κ} (hw : Ready F br) (hq : br.portList[p]? = some q)
    (hs : q.state ≠ .disabled) {s : PortState} (hs' : s ≠ .disabled) :
    Ready F (br.modifyPort p ({ · with state := s })) := by
  apply hw.of_badges (badges_modifyPort hq _) rfl rfl
  simp only [StpPortEntry.badge, beq_eq_false_iff_ne.mpr hs, beq_eq_false_iff_ne.mpr hs']

theorem startState_ne (br : StpInstance κ) : startState br ≠ .disabled := by
  unfold startState
  split_ifs <;> exact PortState.noConfusion

include hH

theorem stpMakeForwarding_safe (hw : Ready F w.br) (hq : w.br.portList[p]? = some q) :
    Safe F (stpMakeForwarding H W p) w fun _ w' ↦ Turned W p
      (fun q ↦ { q with state := if q.state = .blocking then startState w.br else q.state }) w
        w' := by
  apply safe_port hq
  apply safe_bridge
  apply Safe.onlyIf
  · intro hb
    have hlive : q.state ≠ .disabled := by
      rw [hb]
      exact PortState.noConfusion
    have hset : ∀ s, s = startState w.br → Turned W p
        (fun q ↦ { q with state := if q.state = .blocking then startState w.br else q.state }) w
        (w.modifyPort p ({ · with state := s })) := by
      intro s hs
      have hturn : Turned W p ({ · with state := s }) w (w.modifyPort p ({ · with state := s })) :=
        .modifyPort (fun _ ↦ rfl) fun _ ↦ id
      apply hturn.congr (tree_entry hq)
      rw [show q.tree.state = .blocking from hb, if_pos rfl, hs]
    apply Safe.ite
    · intro hz
      apply safe_setPort
      refine (stpTopologyChangeDetection_safe hH
        (hw.setState hq hlive PortState.noConfusion)).andThen ?_
      intro _ w' hn
      apply safe_delTimer hH
      intro env
      exact ((hset _ (by rw [startState, if_pos hz])).noted hn).env env
    · intro hz
      apply safe_setPort
      apply safe_modTimer hH
      intro env
      exact (hset _ (by rw [startState, if_neg hz])).env env
  · intro hb
    apply Turned.refl (tree_entry hq)
    rw [if_neg (show ¬q.tree.state = .blocking from hb)]

theorem stpMakeBlocking_safe (hw : Ready F w.br) (hq : w.br.portList[p]? = some q)
    (hlive : q.state ≠ .disabled) :
    Safe F (stpMakeBlocking H W p) w fun _ w' ↦
      Turned W p ({ · with state := .blocking }) w w' := by
  apply safe_port hq
  apply Safe.onlyIf
  · intro _
    have hdetect : Safe F (onlyIf (q.state = .forwarding ∨ q.state = .learning)
        (stpTopologyChangeDetection H W)) w fun _ w' ↦ Noted H W w w' :=
      .onlyIf (fun _ ↦ stpTopologyChangeDetection_safe hH hw) fun _ ↦
        ⟨rfl, .inl rfl, rfl, id, .inl rfl⟩
    refine hdetect.andThen ?_
    intro _ w' hn
    apply safe_setPort
    apply safe_delTimer hH
    intro env
    have hturn : Turned W p ({ · with state := .blocking }) w'
        (w'.modifyPort p ({ · with state := .blocking })) := .modifyPort (fun _ ↦ rfl) fun _ ↦ id
    exact (hn.turned hturn).env env
  · intro hb
    have hblocked : q.state = .blocking := by
      by_contra hne
      exact hb ⟨hlive, hne⟩
    apply Turned.refl (tree_entry hq)
    rw [← hblocked]
    rfl

theorem selectPortState_safe (hw : Ready F w.br) (hq : w.br.portList[p]? = some q) :
    Safe F (selectPortState H W p) w fun _ w' ↦ Turned W p (selectState w.br.tree) w w' ∧
      ∀ q', w'.br.portList[p]? = some q' → q'.state ≠ .disabled → q'.portNo = w.br.rootPort →
        q'.configPending = false := by
  apply safe_port hq
  apply safe_bridge
  apply Safe.onlyIf
  · intro hlive
    have hhush : (w.modifyPort p (·.hushed)).br.portList[p]? = some q.hushed := by
      simp [World.modifyPort, hq]
    have hready : Ready F (w.modifyPort p (·.hushed)).br :=
      hw.of_badges (badges_modifyPort hq rfl) rfl rfl
    have hrole : HasRole w.br.tree q.tree → selectState w.br.tree q.tree = { q.tree with
        state := if q.tree.state = .blocking then startState w.br else q.tree.state } := by
      intro hr
      rw [selectState, selectedState, if_neg (show q.tree.state ≠ .disabled from hlive), if_pos hr]
      rfl
    apply Safe.ite
    · intro hroot
      apply safe_setPort
      refine (stpMakeForwarding_safe hH hready hhush).mono ?_
      intro _ w' ht
      obtain ⟨ht, hp⟩ := ht.hushed
      exact ⟨ht.congr (tree_entry hq) (hrole (.inl hroot)).symm, fun q' hq' _ _ ↦ hp q' hq'⟩
    · intro hroot
      apply Safe.ite
      · intro hd
        obtain ⟨hown, hd⟩ := Bool.and_eq_true_iff.mp hd
        have hown : q.isOwnBpdu = false := by simpa using hown
        refine (safe_delTimer hH (R := fun _ w' ↦ ∃ env, w' = { w with env := env })
          fun env ↦ ⟨env, rfl⟩).andThen ?_
        rintro _ _ ⟨env, rfl⟩
        refine (stpMakeForwarding_safe (w := { w with env := env }) hH hw hq).mono ?_
        intro _ w' ht
        have ht : Turned W p _ w w' := ⟨ht.tree, ht.operStatus, ht.sent, ht.pending⟩
        refine ⟨ht.congr (tree_entry hq) (hrole (.inr ⟨hown, hd⟩)).symm, ?_⟩
        intro q' hq' _ hno
        have hno' := congrArg StpPortEntry.portNo (ht.entry hq hq')
        exact absurd (hno'.symm.trans hno) hroot
      · intro hd
        apply safe_setPort
        refine (stpMakeBlocking_safe hH hready hhush hlive).mono ?_
        intro _ w' ht
        obtain ⟨ht, hp⟩ := ht.hushed
        refine ⟨ht.congr (tree_entry hq) ?_, fun q' hq' _ _ ↦ hp q' hq'⟩
        have hnone : ¬HasRole w.br.tree q.tree := by
          rintro (hr | ⟨hown, hr⟩)
          · exact hroot hr
          · exact hd (Bool.and_eq_true_iff.mpr
              ⟨by rw [show q.isOwnBpdu = false from hown]; rfl, hr⟩)
        rw [selectState, selectedState, if_neg (show q.tree.state ≠ .disabled from hlive),
          if_neg hnone]
  · intro hdis
    have hdis : q.state = .disabled := not_ne_iff.mp hdis
    refine ⟨.refl (tree_entry hq) ?_, ?_⟩
    · rw [selectState, selectedState, if_pos (show q.tree.state = .disabled from hdis), ← hdis]
      rfl
    · intro q' hq' hlive
      obtain rfl := Option.some.inj (hq.symm.trans hq')
      exact absurd hdis hlive

structure Selected (W : Wire κ Φ) (w w' : World κ τ Φ) : Prop where
  tree : w'.br.tree = selectStates w.br.tree
  operStatus : ∀ n, w'.operStatus n = w.operStatus n
  sent : SendsFrom W (fun _ ↦ False) w w'
  silent : Silent w'.br

/-- The state selection after `k` passes. -/
structure SelectedTo (W : Wire κ Φ) (w : World κ τ Φ) (k : ℕ) (w' : World κ τ Φ) : Prop where
  tree : w'.br.tree =
    { w.br.tree with portList := passes (selectState w.br.tree) w.br.tree.portList k }
  operStatus : ∀ n, w'.operStatus n = w.operStatus n
  sent : SendsFrom W (fun _ ↦ False) w w'
  silent : ∀ i < k, ∀ q, w'.br.portList[i]? = some q → q.state ≠ .disabled →
    q.portNo = w.br.rootPort → q.configPending = false

omit hH in
theorem selectState_badge (br : StpInstance κ) (q : StpPortEntry κ) :
    (selectState br q).badge = q.badge := by
  have hstate : selectedState br q = .disabled ↔ q.state = .disabled := by
    unfold selectedState
    split_ifs with hdis _ hb
    · exact iff_of_true rfl hdis
    · exact iff_of_false (startState_ne br) hdis
    · rfl
    · simp [hdis]
  simp only [StpPortEntry.badge, selectState, beq_eq_beq.mpr hstate]

omit hH in
theorem SelectedTo.badges {w' : World κ τ Φ} {k : ℕ} (h : SelectedTo W w k w') :
    w'.br.portList.map (·.badge) = w.br.portList.map (·.badge) := by
  have hpasses : (passes (selectState w.br.tree) w.br.tree.portList k).map (·.badge) =
      w.br.tree.portList.map (·.badge) := by
    apply List.ext_getElem?
    intro i
    simp only [List.getElem?_map, passes_getElem?]
    split
    · cases w.br.tree.portList[i]? with
      | none => rfl
      | some q => exact congrArg some (selectState_badge _ q)
    · rfl
  have htree := congrArg (fun t ↦ t.portList.map (·.badge)) h.tree
  rw [hpasses] at htree
  simp only [StpInstance.tree, List.map_map] at htree
  exact htree

omit hH in
theorem SelectedTo.ready {w' : World κ τ Φ} {k : ℕ} (h : SelectedTo W w k w') (hw : Ready F w.br) :
    Ready F w'.br :=
  hw.of_badges h.badges (congrArg StpInstance.rootPort h.tree :) (congrArg stpIsRootBridge h.tree :)

omit hH in
theorem SelectedTo.length {w' : World κ τ Φ} {k : ℕ} (h : SelectedTo W w k w') :
    w'.br.portList.length = w.br.portList.length := by
  simpa using congrArg List.length h.badges

theorem stpPortStateSelection_safe (hw : Ready F w.br) :
    Safe F (stpPortStateSelection H W) w fun _ w' ↦ Selected W w w' := by
  have hloop : Safe F (stpPortStateSelection H W) w fun _ w' ↦
      SelectedTo W w w.br.portList.length w' := by
    refine safe_forPorts (I := SelectedTo W w) ?_ ⟨rfl, fun _ ↦ rfl, .refl, ?_⟩
    · intro k hk w₁ h₁
      have hlength : k < w₁.br.portList.length := h₁.length.symm ▸ hk
      obtain ⟨q, hq⟩ : ∃ q, w₁.br.portList[k]? = some q := ⟨_, List.getElem?_eq_getElem hlength⟩
      refine (selectPortState_safe hH (h₁.ready hw) hq).mono ?_
      rintro _ w₂ ⟨ht, hp⟩
      refine ⟨?_, fun n ↦ (ht.operStatus n).trans (h₁.operStatus n), h₁.sent.trans ht.sent, ?_⟩
      · rw [ht.tree, h₁.tree, passes_succ]
        rfl
      · intro i hi q₂ hq₂ hlive hno
        by_contra hpend
        obtain ⟨q₁, hq₁, hpend'⟩ := ht.pending i q₂ hq₂ (Bool.eq_true_of_not_eq_false hpend)
        have hroot := congrArg StpInstance.rootPort h₁.tree
        obtain hi | rfl := Nat.lt_succ_iff_lt_or_eq.mp hi
        · have heq := ht.entry_of_ne (Nat.ne_of_gt hi) hq₁ hq₂
          have hno₁ := congrArg StpPortEntry.portNo heq
          have hstate₁ := congrArg StpPortEntry.state heq
          have hfalse := h₁.silent i hi q₁ hq₁ (fun hdis ↦ hlive (hstate₁.trans hdis))
            (hno₁.symm.trans hno)
          exact absurd hpend' (Bool.eq_false_iff.mp hfalse)
        · exact hpend (hp q₂ hq₂ hlive (hno.trans hroot.symm))
    · intro i hi
      exact absurd hi (Nat.not_lt_zero i)
  refine hloop.mono ?_
  intro _ w' h
  have hlength : w.br.portList.length = w.br.tree.portList.length := (List.length_map _).symm
  have htree := h.tree
  rw [hlength, passes_length] at htree
  refine ⟨htree, h.operStatus, h.sent, ?_⟩
  intro q hq hlive hno
  obtain ⟨i, hi⟩ := List.mem_iff_getElem?.mp hq
  have hroot := congrArg StpInstance.rootPort h.tree
  have hlt : i < w'.br.portList.length := (List.getElem?_eq_some_iff.mp hi).1
  exact h.silent i (h.length ▸ hlt) q hi hlive (hno.trans hroot)

end Selection

section Elections

variable [Add κ] [LT κ] [DecidableLT κ] [OfNat κ 0] {e : Endian} {br br' : StpInstance κ}

omit [OfNat κ 0] in
theorem foldlM_considerRootPort_isSome
    (hlive : ∀ q ∈ br.portList, q.state ≠ .disabled → InTable q.portNo)
    (l : List (StpPortEntry κ)) (hl : ∀ q ∈ l, q ∈ br.portList) {n : U16}
    (hn : n = 0 ∨ ∃ q, stpGetPort br n = some q) :
    ∃ m, l.foldlM (considerRootPort e br) n = some m ∧ (m = 0 ∨ ∃ q, stpGetPort br m = some q) := by
  induction l generalizing n with
  | nil => exact ⟨n, rfl, hn⟩
  | cons p l ih =>
    have hfound : p.state ≠ .disabled → ∃ q, stpGetPort br (p.portNo.setWidth 16) = some q := by
      intro hs
      apply Option.isSome_iff_exists.mp
      apply List.find?_isSome.mpr
      have hp := hl p List.mem_cons_self
      exact ⟨p, hp, by rw [(hlive p hp hs).setWidth, beq_self_eq_true]⟩
    have hstep : ∃ m, considerRootPort e br n p = some m ∧
        (m = 0 ∨ ∃ q, stpGetPort br m = some q) := by
      have hsome : ∃ b, stpShouldBecomeRootPort e br p n = some b := by
        unfold stpShouldBecomeRootPort
        split_ifs with _ _ hz
        · exact ⟨_, rfl⟩
        · exact ⟨_, rfl⟩
        · exact ⟨_, rfl⟩
        · obtain hn | ⟨q, hq⟩ := hn
          · exact absurd hn hz
          · exact ⟨_, by rw [hq, Option.map_some]⟩
      obtain ⟨b, hb⟩ := hsome
      cases hc : considerRootPort e br n p with
      | none =>
        unfold considerRootPort at hc
        rw [hb] at hc
        split at hc
        · cases hc
        · cases b <;> cases hc
      | some m =>
        refine ⟨m, rfl, ?_⟩
        obtain rfl | ⟨hcand, rfl⟩ := considerRootPort_cases hc
        · exact hn
        · exact .inr (hfound hcand.state)
    obtain ⟨m, hm, hm'⟩ := hstep
    obtain ⟨m', hfold, hm''⟩ := ih (fun q hq ↦ hl q (List.mem_cons_of_mem p hq)) hm'
    exact ⟨m', by rw [List.foldlM_cons, hm]; exact hfold, hm''⟩

theorem stpConfigurationUpdate_isSome
    (hlive : ∀ q ∈ br.portList, q.state ≠ .disabled → InTable q.portNo) :
    ∃ br', stpConfigurationUpdate e br = some br' := by
  obtain ⟨n, hn, hfound⟩ := foldlM_considerRootPort_isSome (e := e) hlive br.portList
    (fun _ ↦ id) (.inl rfl)
  have hroot : ∃ br₁, stpRootSelection e br = some br₁ := by
    unfold stpRootSelection
    rw [hn]
    by_cases hz : n = 0
    · exact ⟨_, if_pos hz⟩
    · obtain ⟨q, hq⟩ := hfound.resolve_left hz
      simp only [if_neg hz, hq]
      exact ⟨_, rfl⟩
  obtain ⟨br₁, h₁⟩ := hroot
  exact ⟨_, by rw [stpConfigurationUpdate, h₁, Option.map_some]⟩

omit [Add κ] [OfNat κ 0] in
theorem selectDesignatedPort_badge (e : Endian) (br : StpInstance κ) (q : StpPortEntry κ) :
    (selectDesignatedPort e br q).badge = q.badge := by
  unfold selectDesignatedPort
  split <;> rfl

theorem stpConfigurationUpdate_rootFound (h : stpConfigurationUpdate e br = some br')
    (hlive : ∀ q ∈ br.portList, q.state ≠ .disabled → InTable q.portNo) : RootFound br' := by
  obtain ⟨br₁, h₁, hports, -, rfl⟩ := stpConfigurationUpdate_cases h
  have hbadges : (br.portList.map (selectDesignatedPort e br₁)).map (·.badge) =
      br₁.portList.map (·.badge) := by
    rw [hports, List.map_map]
    exact List.map_congr_left fun q _ ↦ selectDesignatedPort_badge e br₁ q
  have hfound : RootFound br₁ := by
    refine ⟨hports ▸ hlive, ?_⟩
    obtain rfl | ⟨q, hq, hcand, -, p, -, rfl⟩ := stpRootSelection_cases h₁
    · intro hr
      simp [stpIsRootBridge] at hr
    · intro _
      exact ⟨q, hq, (hlive q hq hcand.state).setWidth.symm, hcand.state⟩
  exact hfound.of_badges hbadges rfl rfl

end Elections

end Layer3Switch.Stp
