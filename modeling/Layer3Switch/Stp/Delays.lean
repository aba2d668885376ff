import Layer3Switch.Stp.RootPort

namespace Layer3Switch.Stp

open Lib Lib.Bytes
open Timers (U32 TimerMgr)

variable {κ τ Φ : Type} {H : Host τ} {W : Wire κ Φ} {w w₀ w' : World κ τ Φ}
variable {br br' : StpInstance κ}

def At (p : ℕ) (s : PortState) (w : World κ τ Φ) : Prop :=
  ∃ q, w.br.portList[p]? = some q ∧ q.state = s

def Onward (s s' : PortState) : Prop :=
  s' = s ∨ s' = .disabled ∨ s' = .blocking ∨ s' = .listening

theorem Onward.trans {s s' s'' : PortState} (h : Onward s s') (h' : Onward s' s'') :
    Onward s s'' := by
  obtain rfl | h' := h'
  · exact h
  · exact .inr h'

/-- The delay that is used and the one that is configured are not zero. -/
structure Delayed (br : StpInstance κ) : Prop where
  forwardDelay : br.forwardDelay ≠ 0
  bridgeForwardDelay : br.bridgeForwardDelay ≠ 0

section Moves

def Move.regular : Move κ → Bool
  | .advance _ | .removeHead => false
  | _ => true

theorem selectedState_onward (hon : br.stpEnabled = true) (hd : br.forwardDelay ≠ 0)
    (q : StpPortEntry κ) : Onward q.state (selectedState br q) := by
  have hstart : startState br = .listening := by
    rw [startState, if_neg hd, if_pos hon]
  unfold selectedState
  split_ifs
  · exact .inr (.inl rfl)
  · exact .inr (.inr (.inr hstart))
  · exact .inl rfl
  · exact .inr (.inr (.inl rfl))

theorem getElem?_modifyPort {p i : ℕ} {f : StpPortEntry κ → StpPortEntry κ} {q : StpPortEntry κ}
    (hq : br.portList[p]? = some q) :
    (br.modifyPort i f).portList[p]? = some (if i = p then f q else q) := by
  rw [StpInstance.modifyPort, List.getElem?_modify, hq]
  rfl

theorem Edit.onward {p : ℕ} {q : StpPortEntry κ} (edit : Edit κ)
    (hq : br.portList[p]? = some q) :
    ∃ q', (edit.apply br).portList[p]? = some q' ∧ Onward q.state q'.state := by
  have hmodify : ∀ {i : ℕ} {f : StpPortEntry κ → StpPortEntry κ}, Onward q.state (f q).state →
      ∃ q', (br.modifyPort i f).portList[p]? = some q' ∧ Onward q.state q'.state := by
    intro i f hf
    refine ⟨_, getElem?_modifyPort hq, ?_⟩
    split
    · exact hf
    · exact .inl rfl
  have hmap : ∀ {f : StpPortEntry κ → StpPortEntry κ}, Onward q.state (f q).state →
      ∃ q', (br.portList.map f)[p]? = some q' ∧ Onward q.state q'.state := by
    intro f hf
    refine ⟨f q, ?_, hf⟩
    rw [List.getElem?_map, hq, Option.map_some]
  cases edit with
  | record _ _ | expireAge _ | setPathCost _ _ => exact hmodify (.inl rfl)
  | disable _ => exact hmodify (.inr (.inl rfl))
  | setBridgePriority newprio =>
    refine hmap (.inl ?_)
    unfold reprioritizePort
    split <;> rfl
  | changeBridgeId addr => exact hmap (.inl rfl)

theorem selectStates_onward {p : ℕ} {q : StpPortEntry κ} (hq : br.portList[p]? = some q)
    (hon : br.stpEnabled = true) (hd : br.forwardDelay ≠ 0) :
    ∃ q', (selectStates br).portList[p]? = some q' ∧ Onward q.state q'.state := by
  refine ⟨selectState br q, ?_, selectedState_onward hon hd q⟩
  rw [selectStates, List.getElem?_map, hq, Option.map_some]

variable [Add κ] [LT κ] [DecidableLT κ] [OfNat κ 0] {e : Endian} {m : Move κ}

theorem stpRootSelection_clock (h : stpRootSelection e br = some br') :
    br'.stpEnabled = br.stpEnabled ∧ br'.times = br.times := by
  obtain rfl | ⟨-, -, -, -, -, -, rfl⟩ := stpRootSelection_cases h <;> exact ⟨rfl, rfl⟩

omit [Add κ] [LT κ] [DecidableLT κ] [OfNat κ 0] in
theorem Edit.clock (edit : Edit κ) :
    (edit.apply br).stpEnabled = br.stpEnabled ∧ (edit.apply br).times = br.times := by
  cases edit <;> exact ⟨rfl, rfl⟩

theorem reelect_onward {edit : Edit κ} (hon : br.stpEnabled = true) (hd : br.forwardDelay ≠ 0)
    (h : reelect e (edit.apply br) = some br') {p : ℕ} {q : StpPortEntry κ}
    (hq : br.portList[p]? = some q) :
    ∃ q', br'.portList[p]? = some q' ∧ Onward q.state q'.state := by
  obtain ⟨br₁, h₁, -, -, rfl⟩ := reelect_cases h
  obtain ⟨hon₁, htimes₁⟩ := stpRootSelection_clock h₁
  obtain ⟨hone, htimese⟩ : (edit.apply br).stpEnabled = br.stpEnabled ∧ _ := edit.clock
  obtain ⟨q₁, hq₁, hon'⟩ := edit.onward hq
  have hstate : (selectDesignatedPort e br₁ q₁).state = q₁.state := by
    unfold selectDesignatedPort
    split <;> rfl
  have hdelay : br₁.forwardDelay = br.forwardDelay :=
    congrArg BridgeTimes.forwardDelay (htimes₁.trans htimese)
  have hd₁ : br₁.forwardDelay ≠ 0 := hdelay ▸ hd
  have hentry : ({ br₁ with
      portList := (edit.apply br).portList.map (selectDesignatedPort e br₁) } :
        StpInstance κ).portList[p]? = some (selectDesignatedPort e br₁ q₁) := by
    rw [List.getElem?_map, hq₁, Option.map_some]
  obtain ⟨q', hq', h'⟩ := selectStates_onward hentry (hon₁.trans (hone.trans hon)) hd₁
  exact ⟨q', hq', hon'.trans (hstate ▸ h')⟩

omit [Add κ] [LT κ] [DecidableLT κ] [OfNat κ 0] in
theorem rerank_onward {i : ℕ} {newprio : U8} (hon : br.stpEnabled = true)
    (hd : br.forwardDelay ≠ 0) {p : ℕ} {q : StpPortEntry κ} (hq : br.portList[p]? = some q) :
    ∃ q', (rerank i newprio br).portList[p]? = some q' ∧ Onward q.state q'.state := by
  obtain ⟨q₁, hq₁, hs₁⟩ : ∃ q₁, (br.modifyPort i (renamePort newprio br)).portList[p]? = some q₁ ∧
      q₁.state = q.state := by
    refine ⟨_, getElem?_modifyPort hq, ?_⟩
    split <;> rfl
  simp only [rerank]
  split
  · exact ⟨q₁, hq₁, .inl hs₁⟩
  · split
    · obtain ⟨q', hq', h'⟩ := selectStates_onward (getElem?_modifyPort hq₁) hon hd
      refine ⟨q', hq', Onward.trans (.inl ?_) h'⟩
      split <;> exact hs₁
    · exact ⟨q₁, hq₁, .inl hs₁⟩

theorem Move.onward (h : m.apply e br = some br') (hm : m.regular = true) {p : ℕ}
    {q : StpPortEntry κ} (hq : br.portList[p]? = some q) (hon : br.stpEnabled = true)
    (hd : br.forwardDelay ≠ 0) :
    ∃ q', br'.portList[p]? = some q' ∧ Onward q.state q'.state := by
  cases m with
  | elect edit => exact reelect_onward hon hd h hq
  | clearOwn i =>
    obtain rfl := Option.some.inj h
    refine ⟨_, getElem?_modifyPort hq, .inl ?_⟩
    split <;> rfl
  | enable i =>
    obtain rfl := Option.some.inj h
    obtain ⟨q', hq', h'⟩ := selectStates_onward (getElem?_modifyPort hq) hon hd
    refine ⟨q', hq', Onward.trans ?_ h'⟩
    split
    · exact .inr (.inr (.inl rfl))
    · exact .inl rfl
  | setPortPriority i newprio =>
    obtain rfl := Option.some.inj h
    exact rerank_onward hon hd hq
  | advance _ | removeHead => cases hm
  | times _ | setEnabled _ =>
    obtain rfl := Option.some.inj h
    exact ⟨q, hq, .inl rfl⟩
  | create q₀ =>
    obtain rfl := Option.some.inj h
    refine ⟨q, ?_, .inl rfl⟩
    exact List.getElem?_append_left (List.getElem?_eq_some_iff.mp hq).1 ▸ hq

theorem Move.times_kept (hm : ∀ t, m ≠ .times t) (h : m.apply e br = some br') :
    br'.times = br.times := by
  cases m with
  | elect edit =>
    obtain ⟨br₁, h₁, -, -, rfl⟩ := reelect_cases h
    exact (stpRootSelection_clock h₁).2.trans edit.clock.2
  | times t => exact absurd rfl (hm t)
  | setPortPriority i newprio =>
    obtain rfl := Option.some.inj h
    simp only [rerank]
    split
    · rfl
    · split <;> rfl
  | clearOwn _ | enable _ | advance _ | setEnabled _ | create _ | removeHead =>
    obtain rfl := Option.some.inj h
    rfl

theorem Move.stpEnabled_kept (hm : ∀ state, m ≠ .setEnabled state)
    (h : m.apply e br = some br') : br'.stpEnabled = br.stpEnabled := by
  cases m with
  | elect edit =>
    obtain ⟨br₁, h₁, -, -, rfl⟩ := reelect_cases h
    exact (stpRootSelection_clock h₁).1.trans edit.clock.1
  | setEnabled state => exact absurd rfl (hm state)
  | setPortPriority i newprio =>
    obtain rfl := Option.some.inj h
    simp only [rerank]
    split
    · rfl
    · split <;> rfl
  | clearOwn _ | enable _ | advance _ | times _ | create _ | removeHead =>
    obtain rfl := Option.some.inj h
    rfl

end Moves

theorem Delayed.of_times (h : Delayed br) (htimes : br'.times = br.times) : Delayed br' := by
  have hused : br'.forwardDelay = br.forwardDelay := congrArg BridgeTimes.forwardDelay htimes
  have hown : br'.bridgeForwardDelay = br.bridgeForwardDelay :=
    congrArg BridgeTimes.bridgeForwardDelay htimes
  exact ⟨hused ▸ h.forwardDelay, hown ▸ h.bridgeForwardDelay⟩

def KeepsDelays (W : Wire κ Φ) : Action κ τ Φ → Prop
  | .event (.receive _ frame) => ∀ bpdu, W.Config frame bpdu → bpdu.forwardDelay ≠ 0
  | .setBridgeTimes fdly _ _ => fdly < 0 ∨ stpMinForwardDelay ≤ fdly ∧ fdly ≤ stpMaxForwardDelay
  | _ => True

section Stages

variable {a : Action κ τ Φ} {m : Move κ}

theorem toBitVec_ne_zero {fwdDly : Int32} (h : stpMinForwardDelay ≤ fwdDly) :
    fwdDly.toBitVec ≠ 0 := by
  intro hz
  obtain rfl : fwdDly = 0 := Int32.toBitVec_inj.mp hz
  exact absurd h (by decide)

theorem Admits.delayed {t : BridgeTimes} (hadm : Admits W w₀ a w (.times t))
    (hc : KeepsDelays W a) (hw : Delayed w.br) : Delayed (w.br.setTimes t) := by
  cases hadm with
  | adopt _ portNo frame bpdu hbpdu =>
    refine ⟨?_, hw.bridgeForwardDelay⟩
    intro hz
    refine hc bpdu hbpdu ?_
    change bpdu.forwardDelay.setWidth 32 = 0 at hz
    bv_omega
  | becomeRoot => exact ⟨hw.bridgeForwardDelay, hw.bridgeForwardDelay⟩
  | setBridgeHelloTime => exact ⟨hw.forwardDelay, hw.bridgeForwardDelay⟩
  | setBridgeMaxAge => exact ⟨hw.forwardDelay, hw.bridgeForwardDelay⟩
  | setBridgeForwardDelay fwdDly hmin =>
    refine ⟨?_, toBitVec_ne_zero hmin⟩
    change (if stpIsRootBridge w.br then fwdDly.toBitVec else w.br.forwardDelay) ≠ 0
    split
    · exact toBitVec_ne_zero hmin
    · exact hw.forwardDelay
  | setBridgeTimes fdly maxage htime t hdelay _ _ hroot hother =>
    have hown : t.bridgeForwardDelay ≠ 0 := by
      rw [hdelay]
      split
      · exact hw.bridgeForwardDelay
      · rename_i hneg
        exact toBitVec_ne_zero (hc.resolve_left hneg).1
    refine ⟨?_, hown⟩
    change t.forwardDelay ≠ 0
    cases his : stpIsRootBridge w.br with
    | true =>
      rw [(hroot his).1]
      exact hown
    | false =>
      rw [(hother his).1]
      exact hw.forwardDelay

theorem Admits.expiry {p : ℕ} (hadm : Admits W w₀ (.event (.forwardDelayTimer p)) w m) :
    m = .advance p ∧ w = w₀ ∨ ∃ t, m = .times t := by
  cases hadm with
  | advance => exact .inl ⟨rfl, rfl⟩
  | becomeRoot => exact .inr ⟨_, rfl⟩

theorem Admits.regular (hadm : Admits W w₀ a w m) (ha : a ≠ .event (.setState false))
    (hp : ∀ p, a ≠ .event (.forwardDelayTimer p)) : m.regular = true := by
  cases hadm with
  | advance p => exact absurd rfl (hp p)
  | removeHead => exact absurd rfl ha
  | clearOwn | record | adopt | becomeRoot | expireAge | linkUp | linkDown | setEnabled | enable
  | disable | setPortPriority | create | setPathCost | setBridgePriority | changeBridgeId
  | setBridgeHelloTime | setBridgeForwardDelay | setBridgeMaxAge | setBridgeTimes => rfl

/-- The port at position `p`, in the state `s` before the action, within it. -/
structure Course (a : Action κ τ Φ) (p : ℕ) (s : PortState) (w : World κ τ Φ) : Prop where
  enabled : w.br.stpEnabled = true
  delayed : Delayed w.br
  state : ∃ q, w.br.portList[p]? = some q ∧
    (Onward s q.state ∨ a = .event (.forwardDelayTimer p) ∧ q.state = s.advance)

variable [Add κ] [LT κ] [DecidableLT κ] [OfNat κ 0]

theorem Delayed.move (hw : Delayed w.br) (hc : KeepsDelays W a) (hadm : Admits W w₀ a w m)
    (hmoved : Moved H W m w w') : Delayed w'.br := by
  by_cases hm : ∃ t, m = .times t
  · obtain ⟨t, rfl⟩ := hm
    exact (hadm.delayed hc hw).of_times
      (congrArg StpInstance.times (Option.some.inj hmoved.apply).symm :)
  · exact hw.of_times (Move.times_kept (not_exists.mp hm) hmoved.apply :)

theorem stpEnabled_move (hw : w.br.stpEnabled = true) (ha : a ≠ .event (.setState false))
    (hadm : Admits W w₀ a w m) (hmoved : Moved H W m w w') : w'.br.stpEnabled = true := by
  by_cases hm : ∃ state, m = .setEnabled state
  · obtain ⟨state, rfl⟩ := hm
    have heq := congrArg StpInstance.stpEnabled (Option.some.inj hmoved.apply)
    cases hadm with
    | setEnabled =>
      cases state with
      | true => exact heq.symm
      | false => exact absurd rfl ha
  · exact (Move.stpEnabled_kept (not_exists.mp hm) hmoved.apply :).trans hw

theorem Course.move {p : ℕ} {s : PortState} (h : Course a p s w) (hstart : At p s w₀)
    (hc : KeepsDelays W a) (ha : a ≠ .event (.setState false)) (hadm : Admits W w₀ a w m)
    (hmoved : Moved H W m w w') : Course a p s w' := by
  refine ⟨stpEnabled_move h.enabled ha hadm hmoved, h.delayed.move hc hadm hmoved, ?_⟩
  obtain ⟨q, hq, hstate⟩ := h.state
  -- entries of the new tree are those of the new state
  have hentry : ∀ {q'}, w'.br.tree.portList[p]? = some q' →
      ∃ q'', w'.br.portList[p]? = some q'' ∧ q''.state = q'.state := by
    intro q' hq'
    rw [tree_getElem?, Option.map_eq_some_iff] at hq'
    obtain ⟨q'', hq'', rfl⟩ := hq'
    exact ⟨q'', hq'', rfl⟩
  by_cases hexp : ∃ i, a = .event (.forwardDelayTimer i)
  · obtain ⟨i, rfl⟩ := hexp
    obtain ⟨rfl, rfl⟩ | ⟨t, rfl⟩ := hadm.expiry
    · obtain ⟨q₀, hq₀, rfl⟩ := hstart
      have htree := (congrArg StpInstance.portList (Option.some.inj hmoved.apply)).symm
      have hat := (congrArg (·[p]?) htree).trans (getElem?_modifyPort (tree_entry hq₀))
      obtain ⟨q', hq', hs⟩ := hentry hat
      refine ⟨q', hq', ?_⟩
      by_cases hi : i = p
      · subst hi
        rw [if_pos rfl] at hs
        exact .inr ⟨rfl, hs⟩
      · rw [if_neg hi] at hs
        exact .inl (.inl hs)
    · have htree := (congrArg StpInstance.portList (Option.some.inj hmoved.apply)).symm
      obtain ⟨q', hq', hs⟩ := hentry ((congrArg (·[p]?) htree).trans (tree_entry hq))
      refine ⟨q', hq', ?_⟩
      rw [hs]
      exact hstate
  · have hexp := not_exists.mp hexp
    have honward := hstate.resolve_right fun hright ↦ hexp p hright.1
    obtain ⟨q', hq', h'⟩ := Move.onward hmoved.apply (hadm.regular ha hexp) (tree_entry hq)
      h.enabled h.delayed.forwardDelay
    obtain ⟨q'', hq'', hs⟩ := hentry hq'
    exact ⟨q'', hq'', .inl (honward.trans (hs ▸ h'))⟩

omit [Add κ] [LT κ] [DecidableLT κ] [OfNat κ 0] in
theorem Course.of_tree_eq {p : ℕ} {s : PortState} (h : Course a p s w)
    (heq : w'.br.tree = w.br.tree) : Course a p s w' := by
  refine ⟨(congrArg StpInstance.stpEnabled heq :).trans h.enabled,
    h.delayed.of_times (congrArg StpInstance.times heq :), ?_⟩
  obtain ⟨q, hq, hstate⟩ := h.state
  obtain ⟨q', hq', hqq'⟩ := entry_of_tree_eq heq.symm hq
  have hs : q'.state = q.state := (congrArg StpPortEntry.state hqq' :)
  exact ⟨q', hq', hs ▸ hstate⟩

theorem Course.leads {p : ℕ} {s : PortState} (h : Course a p s w) (hstart : At p s w₀)
    (hc : KeepsDelays W a) (ha : a ≠ .event (.setState false))
    (hlead : Leads H W (Admits W w₀ a) w w') : Course a p s w' := by
  induction hlead with
  | refl => exact h
  | tail _ hstage ih =>
    cases hstage with
    | move m hadm _ hmoved => exact ih.move hstart hc ha hadm hmoved
    | talk hquiet => exact ih.of_tree_eq hquiet.tree
    | outside hbr _ => exact ih.of_tree_eq (congrArg StpInstance.tree hbr)

theorem Delayed.leads (h : Delayed w.br) (hc : KeepsDelays W a)
    (hlead : Leads H W (Admits W w₀ a) w w') : Delayed w'.br := by
  induction hlead with
  | refl => exact h
  | tail _ hstage ih =>
    cases hstage with
    | move m hadm _ hmoved => exact ih.move hc hadm hmoved
    | talk hquiet => exact ih.of_times (congrArg StpInstance.times hquiet.tree :)
    | outside hbr _ => exact hbr ▸ ih

end Stages

section Runs

variable [Add κ] [LT κ] [DecidableLT κ] [OfNat κ 0] [OfNat κ 20000]

def Action.disables : Action κ τ Φ → Bool
  | .event (.setState false) => true
  | _ => false

def EnabledStep (W : Wire κ Φ) (w : World κ τ Φ) (a : Action κ τ Φ) : Prop :=
  w.br.stpEnabled = true ∧ a.disables = false ∧ KeepsDelays W a

abbrev expiry (p : ℕ) : Action κ τ Φ := .event (.forwardDelayTimer p)

def Learned (H : Host τ) (W : Wire κ Φ) (p : ℕ) (w₁ : World κ τ Φ) (as : List (Action κ τ Φ))
    (w : World κ τ Φ) : Prop :=
  ∃ as₁ as₂ u u', as = as₁ ++ expiry p :: as₂ ∧ Run (step H W) (EnabledStep W) w₁ as₁ u ∧
    At p .listening u ∧ step H W u (expiry p) = some u' ∧
    Run (step H W) (fun w a ↦ EnabledStep W w a ∧ At p .learning w) u' as₂ w ∧ At p .learning w

def Forwards (H : Host τ) (W : Wire κ Φ) (p : ℕ) (w₁ : World κ τ Φ) (as : List (Action κ τ Φ))
    (w : World κ τ Φ) : Prop :=
  ∃ as₁ as₂ u u', as = as₁ ++ expiry p :: as₂ ∧ Learned H W p w₁ as₁ u ∧
    step H W u (expiry p) = some u' ∧
    Run (step H W) (fun w a ↦ EnabledStep W w a ∧ At p .forwarding w) u' as₂ w ∧
    At p .forwarding w

variable {a : Action κ τ Φ} {p : ℕ} {w₁ : World κ τ Φ}

theorem step_course (hfound : RootFound w.br) (hd : Delayed w.br) (hc : EnabledStep W w a)
    (h : step H W w a = some w') {s : PortState} (hs : At p s w) : Course a p s w' := by
  obtain ⟨hon, hdis, hkeeps⟩ := hc
  have ha : a ≠ .event (.setState false) := by
    rintro rfl
    cases hdis
  refine Course.leads ⟨hon, hd, ?_⟩ hs hkeeps ha (step_leads hfound h)
  obtain ⟨q, hq, rfl⟩ := hs
  exact ⟨q, hq, .inl (.inl rfl)⟩

theorem Learned.stay {as : List (Action κ τ Φ)} (h : Learned H W p w₁ as w)
    (hc : EnabledStep W w a) (hs : step H W w a = some w') (hat : At p .learning w') :
    Learned H W p w₁ (as ++ [a]) w' := by
  obtain ⟨as₁, as₂, u, u', rfl, hrun, hu, hexp, hrun', hw⟩ := h
  refine ⟨as₁, as₂ ++ [a], u, u', ?_, hrun, hu, hexp, hrun'.trans (.one ⟨hc, hw⟩ hs), hat⟩
  rw [List.append_assoc, List.cons_append]

theorem Forwards.stay {as : List (Action κ τ Φ)} (h : Forwards H W p w₁ as w)
    (hc : EnabledStep W w a) (hs : step H W w a = some w') (hat : At p .forwarding w') :
    Forwards H W p w₁ (as ++ [a]) w' := by
  obtain ⟨as₁, as₂, u, u', rfl, hlearned, hexp, hrun, hw⟩ := h
  refine ⟨as₁, as₂ ++ [a], u, u', ?_, hlearned, hexp, hrun.trans (.one ⟨hc, hw⟩ hs), hat⟩
  rw [List.append_assoc, List.cons_append]

theorem climbed {as : List (Action κ τ Φ)} (hfound : RootFound w₁.br) (hd : Delayed w₁.br)
    (hblocked : At p .blocking w₁) (h : Run (step H W) (EnabledStep W) w₁ as w) :
    RootFound w.br ∧ Delayed w.br ∧ ∃ s, At p s w ∧ (s = .learning → Learned H W p w₁ as w) ∧
      (s = .forwarding → Forwards H W p w₁ as w) := by
  induction as using List.reverseRecOn generalizing w with
  | nil =>
    cases h
    exact ⟨hfound, hd, .blocking, hblocked, PortState.noConfusion, PortState.noConfusion⟩
  | append_singleton as a ih =>
    obtain ⟨v, hrun, hlast⟩ := h.split
    obtain ⟨hfound', hd', s, hat, hlearned, hforwards⟩ := ih hrun
    cases hlast with
    | cons hc hs hnil =>
      cases hnil
      have hcourse := step_course hfound' hd' hc hs hat
      obtain ⟨q, hq, hstate⟩ := hcourse.state
      refine ⟨hfound'.step hs, hcourse.delayed, q.state, ⟨q, hq, rfl⟩, ?_, ?_⟩
      · intro hq'
        have hat' : At p .learning w := ⟨q, hq, hq'⟩
        rw [hq'] at hstate
        obtain (h | h | h | h) | ⟨rfl, h⟩ := hstate
        · exact (hlearned h.symm).stay hc hs hat'
        · cases h
        · cases h
        · cases h
        · have hlistening : s = .listening := by
            cases s <;> first | rfl | cases h
          exact ⟨as, [], v, w, rfl, hrun, hlistening ▸ hat, hs, .nil w, hat'⟩
      · intro hq'
        have hat' : At p .forwarding w := ⟨q, hq, hq'⟩
        rw [hq'] at hstate
        obtain (h | h | h | h) | ⟨rfl, h⟩ := hstate
        · exact (hforwards h.symm).stay hc hs hat'
        · cases h
        · cases h
        · cases h
        · cases s with
          | learning => exact ⟨as, [], v, w, rfl, hlearned rfl, hs, .nil w, hat'⟩
          | forwarding => exact (hforwards rfl).stay hc hs hat'
          | disabled => cases h
          | listening => cases h
          | blocking => cases h

omit [Add κ] [LT κ] [DecidableLT κ] in
theorem newInstance_delayed (vlanId : U16) (addr : MacAddress) (portCdb : Vector PortT maxPorts)
    (env : τ) : Delayed (newInstance (κ := κ) (Φ := Φ) H vlanId addr [] portCdb env).br :=
  ⟨show stpDefFwdDelay ≠ 0 by decide, show stpDefFwdDelay ≠ 0 by decide⟩

/-- As long as no BPDU asks for a forward delay of zero, a blocked port of an
enabled instance gets to FORWARDING by two expiries of its forward delay only,
from LISTENING to LEARNING and on. -/
theorem port_never_skips_delays (H : Host τ) (W : Wire κ Φ) {vlanId : U16} {addr : MacAddress}
    {portCdb : Vector PortT maxPorts} {env : τ} {as bs : List (Action κ τ Φ)}
    {w₁ w₂ : World κ τ Φ} {p : ℕ}
    (h₁ : Run (step H W) (fun _ a ↦ KeepsDelays W a) (newInstance H vlanId addr [] portCdb env)
      as w₁)
    (hblocked : At p .blocking w₁) (h₂ : Run (step H W) (EnabledStep W) w₁ bs w₂)
    (hforwarding : At p .forwarding w₂) : Forwards H W p w₁ bs w₂ := by
  obtain ⟨hfound, hd⟩ : RootFound w₁.br ∧ Delayed w₁.br := by
    refine h₁.invariant (I := fun w ↦ RootFound w.br ∧ Delayed w.br) ?_
      ⟨(newInstance_rooted vlanId addr portCdb env).toRootFound,
        newInstance_delayed vlanId addr portCdb env⟩
    rintro _ _ _ ⟨hfound, hd⟩ hc hs
    exact ⟨hfound.step hs, hd.leads hc (step_leads hfound hs)⟩
  obtain ⟨-, -, s, ⟨q, hq, hs⟩, -, hforwards⟩ := climbed hfound hd hblocked h₂
  obtain ⟨q', hq', hs'⟩ := hforwarding
  obtain rfl := Option.some.inj (hq.symm.trans hq')
  exact hforwards (hs.symm.trans hs')

end Runs

instance (W : Wire κ Φ) (a : Action κ τ Φ) : Decidable (KeepsDelays W a) :=
  match a with
  | .event (.receive _ frame) => inferInstanceAs
      (Decidable (∀ bpdu, W.Config frame bpdu → bpdu.forwardDelay ≠ 0))
  | .setBridgeTimes _ _ _ => inferInstanceAs (Decidable (_ ∨ _ ∧ _))
  | .event .helloTimer | .event .tcnTimer | .event .topologyChangeTimer |
      .event (.messageAgeTimer _) | .event (.forwardDelayTimer _) | .event (.holdTimer _) |
      .event (.link _ _) | .event (.setState _) | .event (.setPortPriority _ _) |
      .event (.setOperStatus _ _) | .event (.host _) | .createPort _ _ | .setPathCost _ _ |
      .setBridgePriority _ | .changeBridgeId _ | .setBridgeHelloTime _ |
      .setBridgeForwardDelay _ | .setBridgeMaxAge _ => isTrue trivial

instance (W : Wire κ Φ) (w : World κ τ Φ) (a : Action κ τ Φ) : Decidable (EnabledStep W w a) :=
  inferInstanceAs (Decidable (_ ∧ _))

def twinActions (forwardDelay : U16) : List (Action Int32 TimerMgr (List U8)) :=
  [.createPort (macAddress 0 0 0 0 0 2) 1, .createPort (macAddress 0 0 0 0 0 2) 2,
   .event (.setOperStatus 0 .up), .event (.setOperStatus 1 .up),
   .event (.setState true),
   .event (.receive 1 ((frames .little).config (macAddress 0 0 0 0 0 1)
     { rootHello with forwardDelay := forwardDelay })),
   .event (.receive 2 ((frames .little).config (macAddress 0 0 0 0 0 1)
     { rootHello with portId := 2, forwardDelay := forwardDelay }))]

instance (p : ℕ) (s : PortState) (w : World κ τ Φ) : Decidable (At p s w) :=
  decidable_of_iff (w.br.portList[p]?.any (·.state = s)) (by simp [At, Option.any_eq_true])

/-- The time of the blocked port is up, and it forwards at once. -/
theorem blocked_port_forwards_at_once :
    ∃ w w', Run (step relayHost (frames .little)) NewNumber leafStart (twinActions 0) w ∧
      w.br.stpEnabled = true ∧ w.br.bridgeForwardDelay = 15 ∧ At 1 .blocking w ∧
      step relayHost (frames .little) w (.event (.messageAgeTimer 1)) = some w' ∧
      At 1 .forwarding w' := by
  have hcheck : ((exec (fun w a ↦ if NewNumber w a then step relayHost (frames .little) w a
      else none) leafStart (twinActions 0)).any fun w ↦
      (step relayHost (frames .little) w (.event (.messageAgeTimer 1))).any fun w' ↦
        w.br.stpEnabled = true ∧ w.br.bridgeForwardDelay = 15 ∧ At 1 .blocking w ∧
          At 1 .forwarding w') = true := by
    decide +kernel
  simp only [Option.any_eq_true, decide_eq_true_eq] at hcheck
  obtain ⟨w, hexec, w', hs, hon, hdelay, hblocked, hforwarding⟩ := hcheck
  exact ⟨w, w', (run_of_exec hexec).guarded, hon, hdelay, hblocked, hs, hforwarding⟩

theorem port_never_skips_delays_twin :
    ∃ w₁ w₂, At 1 .blocking w₁ ∧ At 1 .forwarding w₂ ∧
      Forwards relayHost (frames .little) 1 w₁
        [.event (.messageAgeTimer 1), expiry 1, expiry 1] w₂ := by
  have hcheck : ((exec (fun w a ↦ if KeepsDelays (frames .little) a then
      step relayHost (frames .little) w a else none) leafStart (twinActions 15)).any fun w₁ ↦
      (exec (fun w a ↦ if EnabledStep (frames .little) w a then
        step relayHost (frames .little) w a else none) w₁
        [.event (.messageAgeTimer 1), expiry 1, expiry 1]).any fun w₂ ↦
      At 1 .blocking w₁ ∧ At 1 .forwarding w₂) = true := by
    decide +kernel
  simp only [Option.any_eq_true, decide_eq_true_eq] at hcheck
  obtain ⟨w₁, h₁, w₂, h₂, hblocked, hforwarding⟩ := hcheck
  exact ⟨w₁, w₂, hblocked, hforwarding, port_never_skips_delays relayHost (frames .little)
    (run_of_exec h₁).guarded hblocked (run_of_exec h₂).guarded hforwarding⟩

end Layer3Switch.Stp
