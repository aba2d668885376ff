import Layer3Switch.Stp.OwnBpdu

namespace Layer3Switch.Stp

open Lib Lib.Bytes
open Timers (U32 TimerId TimerMgr)

variable {κ τ Φ : Type}

def Label.SendsOn (i : TimerId) : Label κ Φ → Prop
  | .transmit hold (.sent _ _ _) | .transmit hold (.dropped _) => hold = some i
  | _ => False

def Label.TriesOn (i : TimerId) : Label κ Φ → Prop
  | .transmit hold _ => hold = some i
  | _ => False

/-- And does not send, because the message age is not below `max_age`. -/
def Label.AgedOn (i : TimerId) : Label κ Φ → Prop
  | .transmit hold (.aged _) => hold = some i
  | _ => False

/-- The hold timer `i` expires, or is stopped because its port is disabled. -/
def Label.Releases (i : TimerId) : Label κ Φ → Prop
  | .tick fired => i ∈ fired
  | .unhold hold => hold = some i
  | _ => False

def Label.Clears (hold : TimerRef) : Label κ Φ → Prop
  | .transmit timer (.sent _ _ _) | .transmit timer (.dropped _) | .settle timer | .disable timer
  | .init timer => timer = hold
  | .remove => True
  | _ => False

theorem Label.AgedOn.tries {i : TimerId} {l : Label κ Φ} (h : l.AgedOn i) : l.TriesOn i := by
  cases l with
  | transmit hold a =>
    cases a with
    | aged age => exact h
    | _ => exact absurd h id
  | _ => exact absurd h id

theorem Label.SendsOn.not_aged {i : TimerId} {l : Label κ Φ} (h : l.SendsOn i) : ¬l.AgedOn i := by
  cases l with
  | transmit hold a =>
    cases a with
    | aged age => exact absurd h id
    | _ => exact id
  | _ => exact id

theorem Label.SendsOn.tries {i : TimerId} {l : Label κ Φ} (h : l.SendsOn i) : l.TriesOn i := by
  cases l with
  | transmit hold a =>
    cases a with
    | sent age portNo frame => exact h
    | dropped age => exact h
    | _ => exact absurd h id
  | _ => exact absurd h id

section Entries

def StpPortEntry.Backlog (q : StpPortEntry κ) : Prop := q.state ≠ .disabled ∧ q.configPending = true

structure EntryDone (l : Label κ Φ) (q q' : StpPortEntry κ) : Prop where
  fixed : q'.fixed = q.fixed
  set : q'.Backlog → q.Backlog ∨ l = .transmit q.holdTimer .held
  kept : q.configPending = true → q'.configPending = true ∨ l.Clears q.holdTimer

variable {l : Label κ Φ} {q q' : StpPortEntry κ}

theorem EntryDone.of_pending (hfixed : q'.fixed = q.fixed)
    (hstate : q'.state ≠ .disabled → q.state ≠ .disabled)
    (hpending : q'.configPending = q.configPending) : EntryDone l q q' where
  fixed := hfixed
  set h := .inl ⟨hstate h.1, hpending ▸ h.2⟩
  kept h := .inl (hpending.trans h)

theorem EntryDone.of_clears (hfixed : q'.fixed = q.fixed) (hpending : q'.configPending = false)
    (hl : l.Clears q.holdTimer) : EntryDone l q q' where
  fixed := hfixed
  set h := absurd (hpending.symm.trans h.2) Bool.false_ne_true
  kept _ := .inr hl

theorem EntryDone.refl (l : Label κ Φ) (q : StpPortEntry κ) : EntryDone l q q :=
  .of_pending rfl id rfl

theorem hold_of_fixed (h : q'.fixed = q.fixed) : q'.holdTimer = q.holdTimer := by
  simp only [StpPortEntry.fixed, StpPortEntry.timers, Prod.mk.injEq, List.cons.injEq] at h
  exact h.2.2.2.2.1

theorem mem_timers_of_hold {br : StpInstance κ} {i : TimerId} (hq : q ∈ br.portList)
    (hi : q.holdTimer = some i) : some i ∈ br.timers :=
  List.mem_append_right _ (List.mem_flatMap.mpr ⟨q, hq, hi ▸ hold_mem_timers q⟩)

theorem entries_modify {w : World κ τ Φ} {p : ℕ} {f : StpPortEntry κ → StpPortEntry κ}
    (h : ∀ q, w.br.portList[p]? = some q → EntryDone l q (f q)) :
    List.Forall₂ (EntryDone l) w.br.portList (w.modifyPort p f).br.portList :=
  forall₂_modify (EntryDone.refl l) h

theorem entries_same (ports : List (StpPortEntry κ)) : List.Forall₂ (EntryDone l) ports ports :=
  List.forall₂_same.mpr fun q _ ↦ .refl l q

theorem Assigned.entries {br br' : StpInstance κ} (h : Assigned br br') :
    List.Forall₂ (EntryDone l) br.portList br'.portList := by
  have hfixed : br'.portList.map StpPortEntry.fixed = br.portList.map StpPortEntry.fixed :=
    congrArg (fun x ↦ x.2.2) h.fixed
  have hlen : br.portList.length = br'.portList.length := by
    simpa using (congrArg List.length hfixed).symm
  refine List.forall₂_iff_get.mpr ⟨hlen, fun p hp hp' ↦ ?_⟩
  have hf := List.getElem_of_eq hfixed (by simpa using hp')
  have hs := List.getElem_of_eq h.pendings (by simpa [StpInstance.pendings] using hp')
  simp only [List.getElem_map, StpInstance.pendings, Prod.mk.injEq] at hf hs
  exact .of_pending hf (fun hlive ↦ hs.1 ▸ hlive) hs.2

variable {H : Host τ} {W : Wire κ Φ} {w w' : World κ τ Φ}

theorem Attempts.entries {p : ℕ} {a : Attempt Φ} (hq : w.br.portList[p]? = some q)
    (h : Attempts H W p q w a w') :
    List.Forall₂ (EntryDone (Label.transmit q.holdTimer a)) w.br.portList w'.br.portList := by
  have hat : ∀ q', w.br.portList[p]? = some q' → q' = q := fun q' hq' ↦
    Option.some.inj (hq'.symm.trans hq)
  cases h with
  | held _ =>
    refine entries_modify fun q' hq' ↦ ?_
    obtain rfl := hat q' hq'
    exact ⟨rfl, fun _ ↦ .inr rfl, fun _ ↦ .inl rfl⟩
  | aged _ _ _ _ => exact entries_same _
  | sent _ _ _ _ _ _ _ _ =>
    refine entries_modify fun q' hq' ↦ ?_
    obtain rfl := hat q' hq'
    exact .of_clears rfl rfl rfl
  | dropped _ _ _ _ _ _ _ =>
    refine entries_modify fun q' hq' ↦ ?_
    obtain rfl := hat q' hq'
    exact .of_clears rfl rfl rfl

variable [LT κ] [DecidableLT κ]

theorem selectDesignatedPort_entry (e : Endian) (br : StpInstance κ) (q : StpPortEntry κ) :
    EntryDone l q (selectDesignatedPort e br q) := by
  unfold selectDesignatedPort
  split
  · exact .of_pending rfl id rfl
  · exact .refl l q

variable [Add κ] [OfNat κ 0]

theorem Deed.entries {rcv : U32 → StpBpdu κ → Prop} (h : Deed H W rcv l w w') :
    List.Forall₂ (EntryDone l) w.br.portList w'.br.portList := by
  cases h with
  | transmit _ _ p q a hq ha => exact ha.entries hq
  | record _ p q bpdu env _ _ _ => exact entries_modify fun _ _ ↦ .of_pending rfl id rfl
  | elect _ br hbr =>
    obtain ⟨br₁, -, -, -, rfl⟩ := stpConfigurationUpdate_cases hbr
    exact List.forall₂_map_right_iff.mpr
      (List.forall₂_same.mpr fun q _ ↦ selectDesignatedPort_entry H.endian br₁ q)
  | designate _ p => exact entries_modify fun _ _ ↦ .of_pending rfl id rfl
  | set _ p f hf =>
    exact entries_modify fun q hq ↦ .of_pending (hf q hq).1.fixed (hf q hq).1.state (hf q hq).2
  | settle _ p q hq _ _ =>
    refine entries_modify fun q' hq' ↦ ?_
    obtain rfl := Option.some.inj (hq'.symm.trans hq)
    exact .of_clears rfl rfl rfl
  | disable _ p q hq =>
    refine entries_modify fun q' hq' ↦ ?_
    obtain rfl := Option.some.inj (hq'.symm.trans hq)
    exact .of_clears rfl rfl rfl
  | rename _ p newprio => exact entries_modify fun _ _ ↦ .of_pending rfl id rfl
  | init _ p q t hq _ _ =>
    refine entries_modify fun q' hq' ↦ ?_
    obtain rfl := Option.some.inj (hq'.symm.trans hq)
    exact .of_clears rfl rfl rfl
  | bridge _ f hf =>
    rw [hf.kept]
    exact entries_same _
  | _ => exact entries_same _

end Entries

section Timers

variable [Add κ] [LT κ] [DecidableLT κ] [OfNat κ 0] [OfNat κ 20000]
variable {e : Endian} {stackByte : U8} {W : Wire κ Φ} {l : Label κ Φ} {w w' : World κ TimerMgr Φ}
variable {q q' : StpPortEntry κ} {i : TimerId}

theorem Works.backlog (h : Works (timerHost e stackByte) W l w w') (hq' : q' ∈ w'.br.portList)
    (hb : q'.Backlog) :
    (∃ q ∈ w.br.portList, q'.fixed = q.fixed ∧ q.Backlog) ∨ l = .transmit q'.holdTimer .held := by
  have hdone : List.Forall₂ (EntryDone l) w.br.portList w'.br.portList →
      (∃ q ∈ w.br.portList, q'.fixed = q.fixed ∧ q.Backlog) ∨
        l = .transmit q'.holdTimer .held := by
    intro hall
    obtain ⟨q, hq, hdone⟩ := exists_of_forall₂_right hall hq'
    obtain hb | hl := hdone.set hb
    · exact .inl ⟨q, hq, hdone.fixed, hb⟩
    · rw [hold_of_fixed hdone.fixed]
      exact .inr hl
  cases h with
  | deed h => exact hdone h.entries
  | assign _ br portCdb h => exact hdone h.entries
  | create _ addr portNo =>
    obtain hold | hnew := List.mem_append.mp hq'
    · exact .inl ⟨q', hold, rfl, hb⟩
    · obtain rfl := List.mem_singleton.mp hnew
      exact absurd hb.2 Bool.false_ne_true
  | remove _ => exact .inl ⟨q', List.mem_of_mem_tail hq', rfl, hb⟩

theorem Works.pending_kept (h : Works (timerHost e stackByte) W l w w') (hq : q ∈ w.br.portList)
    (hp : q.configPending = true) :
    (∃ q' ∈ w'.br.portList, q'.fixed = q.fixed ∧ q'.configPending = true) ∨
      l.Clears q.holdTimer := by
  have hdone : List.Forall₂ (EntryDone l) w.br.portList w'.br.portList →
      (∃ q' ∈ w'.br.portList, q'.fixed = q.fixed ∧ q'.configPending = true) ∨
        l.Clears q.holdTimer := by
    intro hall
    obtain ⟨q', hq', hdone⟩ := exists_of_forall₂_left hall hq
    exact (hdone.kept hp).imp_left fun hp' ↦ ⟨q', hq', hdone.fixed, hp'⟩
  cases h with
  | deed h => exact hdone h.entries
  | assign _ br portCdb h => exact hdone h.entries
  | create _ addr portNo => exact .inl ⟨q, List.mem_append_left _ hq, rfl, hp⟩
  | remove _ => exact .inr trivial

theorem leaves_modTimer {timer : TimerRef} (h : timer ≠ some i) (secs : U32) :
    Timers.Leaves i (.modTimer timer secs true) :=
  ⟨fun _ heq ↦ h (Timers.Event.modTimer.inj heq).1, by simp [Timers.Cancels]⟩

theorem leaves_delTimer {timer : TimerRef} (h : timer ≠ some i) :
    ∀ ev ∈ timer.toList.map Timers.Event.delTimer, Timers.Leaves i ev := by
  intro ev hev
  obtain ⟨j, hj, rfl⟩ := List.mem_map.mp hev
  refine ⟨nofun, ?_⟩
  rintro (heq | heq)
  · cases heq
  · obtain rfl := Timers.Event.delTimer.inj heq
    exact h (Option.mem_toList.mp hj)

theorem Works.calls (h : Works (timerHost e stackByte) W l w w') :
    ∀ ev ∈ l.events, ev ≠ .tick ∧ ev ≠ .serve := by
  have hmod : ∀ {timer : TimerRef} {secs : U32}, ∀ ev ∈ [Timers.Event.modTimer timer secs true],
      ev ≠ .tick ∧ ev ≠ .serve := by
    intro timer secs ev hev
    obtain rfl := List.mem_singleton.mp hev
    exact ⟨nofun, nofun⟩
  have hdel : ∀ {timer : TimerRef}, ∀ ev ∈ timer.toList.map Timers.Event.delTimer,
      ev ≠ .tick ∧ ev ≠ .serve := by
    intro timer ev hev
    obtain ⟨j, -, rfl⟩ := List.mem_map.mp hev
    exact ⟨nofun, nofun⟩
  have hnil : ∀ ev ∈ ([] : List Timers.Event), ev ≠ .tick ∧ ev ≠ .serve := nofun
  cases h with
  | deed h =>
    cases h with
    | start | record => exact hmod
    | stop | stopAge | unhold => exact hdel
    | transmit _ _ p q a _ _ =>
      cases a with
      | sent | dropped => exact hmod
      | held | aged => exact hnil
    | _ => exact hnil
  | create _ addr portNo =>
    intro ev hev
    obtain ⟨h, -, rfl⟩ := List.mem_map.mp hev
    exact ⟨nofun, nofun⟩
  | assign | remove => exact hnil

theorem Works.leaves (h : Works (timerHost e stackByte) W l w w') (hw : Sound w)
    (hq : q ∈ w.br.portList) (hi : q.holdTimer = some i) :
    (∀ ev ∈ l.events, Timers.Leaves i ev) ∨ l.SendsOn i ∨
      l = .unhold (some i) ∧ q.state = .disabled := by
  obtain ⟨hstart, hage⟩ := hw.apart.hold hq hi
  have hnil : ∀ ev ∈ ([] : List Timers.Event), Timers.Leaves i ev := nofun
  have hmod : ∀ {timer : TimerRef} {secs : U32}, timer ≠ some i →
      ∀ ev ∈ [Timers.Event.modTimer timer secs true], Timers.Leaves i ev := by
    intro timer secs hne ev hev
    obtain rfl := List.mem_singleton.mp hev
    exact leaves_modTimer hne secs
  cases h with
  | deed h =>
    cases h with
    | start _ t secs env ht _ => exact .inl (hmod fun heq ↦ hstart (heq ▸ ht))
    | stop _ t env ht _ => exact .inl (leaves_delTimer fun heq ↦ hstart (heq ▸ ht))
    | stopAge _ p q' env hq' _ _ =>
      exact .inl (leaves_delTimer (hage q' (List.mem_of_getElem? hq')))
    | record _ p q' bpdu env hq' _ _ => exact .inl (hmod (hage q' (List.mem_of_getElem? hq')))
    | unhold _ p q' env hq' hdis _ =>
      by_cases heq : q'.holdTimer = some i
      · obtain rfl := hw.apart.entry_eq (List.mem_of_getElem? hq') hq (heq ▸ hold_mem_timers q')
          (hi ▸ hold_mem_timers q)
        exact .inr (.inr ⟨congrArg _ heq, hdis⟩)
      · exact .inl (leaves_delTimer heq)
    | transmit _ _ p q' a _ _ =>
      by_cases heq : q'.holdTimer = some i
      · cases a with
        | sent | dropped => exact .inr (.inl heq)
        | held | aged => exact .inl hnil
      · cases a with
        | sent | dropped => exact .inl (hmod heq)
        | held | aged => exact .inl hnil
    | _ => exact .inl hnil
  | create _ addr portNo =>
    refine .inl fun ev hev ↦ ?_
    obtain ⟨h, -, rfl⟩ := List.mem_map.mp hev
    exact ⟨nofun, by simp [Timers.Cancels]⟩
  | assign | remove => exact .inl hnil

theorem modTimer_pending {timer : TimerRef} {env env' : TimerMgr} (ht : timer = some i)
    (h : (timerHost e stackByte).modTimer timer 1 env = some env') :
    Timers.timerPending env' (some i) = some true := by
  subst ht
  obtain ⟨⟨t, -, -, -, -, harm⟩, -⟩ := modTimer_apptimer h
  have hslot : (1#32 * Timers.tmGetTicksPerSecond).toNat % 368640000 ≠ 0 := by decide
  exact Timers.timerPending_armTimer harm hslot

theorem Works.tries (h : Works (timerHost e stackByte) W l w w') (hl : l.TriesOn i) :
    (∃ q ∈ w.br.portList, q.holdTimer = some i) ∧
      (l.SendsOn i ∨ l.AgedOn i → Timers.timerPending w.env (some i) = some false) ∧
      (l.AgedOn i ∨ Timers.timerPending w'.env (some i) = some true) := by
  cases h with
  | deed h =>
    cases h with
    | transmit _ _ p q a hq ha =>
      have hi : q.holdTimer = some i := hl
      refine ⟨⟨q, List.mem_of_getElem? hq, hi⟩, ?_⟩
      cases ha with
      | held hp => exact ⟨fun h ↦ absurd h (by simp [Label.SendsOn, Label.AgedOn]), .inr (hi ▸ hp)⟩
      | aged _ hp _ _ => exact ⟨fun _ ↦ hi ▸ hp, .inl hi⟩
      | sent _ _ _ hp _ _ _ henv => exact ⟨fun _ ↦ hi ▸ hp, .inr (modTimer_pending hi henv)⟩
      | dropped _ _ hp _ _ _ henv => exact ⟨fun _ ↦ hi ▸ hp, .inr (modTimer_pending hi henv)⟩
    | _ => exact absurd hl id
  | _ => exact absurd hl id

theorem Works.pending (h : Works (timerHost e stackByte) W l w w') (hw : Sound w)
    (hi : some i ∈ w.br.timers) (hleaves : ∀ ev ∈ l.events, Timers.Leaves i ev)
    (hp : Timers.timerPending w.env (some i) = some true) :
    Timers.timerPending w'.env (some i) = some true := by
  refine (h.run.invariant (I := fun s ↦ Timers.Wf s ∧ Timers.Lasting s i ∧
    Timers.timerPending s (some i) = some true) ?_ ⟨hw.wf, hw.lasting i hi, hp⟩).2.2
  rintro s ev s' ⟨hwf, hlast, hp⟩ hev hs
  exact ⟨hwf.step hs, hlast.step hwf hs,
    (hleaves ev hev).pending (h.calls ev hev).1 hwf hlast hp hs⟩

theorem Works.waiting (h : Works (timerHost e stackByte) W l w w') (hw : Sound w)
    {n : Timers.AppTimer} (hn : n ∈ w.env.waiting) : n ∈ w'.env.waiting := by
  refine (h.run.invariant (I := fun s ↦ Timers.Wf s ∧ n ∈ s.waiting) ?_ ⟨hw.wf, hn⟩).2
  rintro s ev s' ⟨hwf, hn⟩ hev hs
  exact ⟨hwf.step hs, Timers.mem_waiting_step hwf (h.calls ev hev).2 hs hn⟩

theorem Works.holds (h : Works (timerHost e stackByte) W l w w') (hw : Sound w)
    (hq' : q' ∈ w'.br.portList) (hi : q'.holdTimer = some i) (hb : q'.Backlog) :
    l.TriesOn i ∧ ¬l.AgedOn i ∧ Timers.timerPending w'.env (some i) = some true ∨
      ∃ q ∈ w.br.portList, q.holdTimer = some i ∧ q.Backlog ∧
        (l.AgedOn i ∧ Timers.timerPending w.env (some i) = some false ∨
          ¬l.TriesOn i ∧ (Timers.timerPending w.env (some i) = some true →
            Timers.timerPending w'.env (some i) = some true)) := by
  obtain ⟨q, hq, hfixed, hbq⟩ | rfl := h.backlog hq' hb
  · have hiq : q.holdTimer = some i := (hold_of_fixed hfixed).symm.trans hi
    by_cases hl : l.TriesOn i
    · obtain ⟨-, hpast, hage | hp⟩ := h.tries hl
      · exact .inr ⟨q, hq, hiq, hbq, .inl ⟨hage, hpast (.inr hage)⟩⟩
      · by_cases hage : l.AgedOn i
        · exact .inr ⟨q, hq, hiq, hbq, .inl ⟨hage, hpast (.inr hage)⟩⟩
        · exact .inl ⟨hl, hage, hp⟩
    · refine .inr ⟨q, hq, hiq, hbq, .inr ⟨hl, fun hp ↦ ?_⟩⟩
      obtain hleaves | hsend | ⟨-, hdis⟩ := h.leaves hw hq hiq
      · have hmem := mem_timers_of_hold hq hiq
        exact h.pending hw hmem hleaves hp
      · exact absurd hsend.tries hl
      · exact absurd hdis hbq.1
  · rw [hi] at h ⊢
    obtain ⟨-, -, hage | hp⟩ := h.tries (i := i) rfl
    · exact absurd hage id
    · exact .inl ⟨rfl, id, hp⟩

end Timers

def Awaits (i : TimerId) (past : List (Label κ Φ)) (w : World κ TimerMgr Φ) : Prop :=
  Timers.timerPending w.env (some i) = some true ∨ (∃ n ∈ w.env.waiting, n.timer = i) ∨
    Since (Label.AgedOn i) (Label.TriesOn i) past

def HeldBack (past : List (Label κ Φ)) (w : World κ TimerMgr Φ) : Prop :=
  ∀ q ∈ w.br.portList, ∀ i, q.holdTimer = some i → q.Backlog → Awaits i past w

def HeldBackExcept (E : TimerId → Prop) (past : List (Label κ Φ)) (w : World κ TimerMgr Φ) : Prop :=
  ∀ q ∈ w.br.portList, ∀ i, q.holdTimer = some i → q.Backlog → ¬E i → Awaits i past w

section Backlog

variable {e : Endian} {stackByte : U8} {W : Wire κ Φ} {l : Label κ Φ} {w w' : World κ TimerMgr Φ}
variable {past ls : List (Label κ Φ)} {E : TimerId → Prop} {p : ℕ} {q : StpPortEntry κ}

theorem HeldBack.except (h : HeldBack past w) (E : TimerId → Prop) : HeldBackExcept E past w :=
  fun q hq i hi hb _ ↦ h q hq i hi hb

theorem HeldBackExcept.heldBack (h : HeldBackExcept E past w)
    (hE : ∀ q ∈ w.br.portList, ∀ i, q.holdTimer = some i → q.Backlog → ¬E i) : HeldBack past w :=
  fun q hq i hi hb ↦ h q hq i hi hb (hE q hq i hi hb)

theorem HeldBack.tick {env : TimerMgr} {ns : List Timers.AppTimer} (h : HeldBack past w)
    (hw : Sound w) (henv : Timers.updateTimes w.env = some env)
    (hns : env.expdTmrs = w.env.expdTmrs ++ ns) :
    HeldBack (past ++ [.tick (ns.map Timers.AppTimer.timer)]) { w with env := env } := by
  obtain ⟨ns', hns', hserving, hall⟩ := Timers.updateTimes_ticked hw.wf henv
  obtain rfl := List.append_cancel_left (hns.symm.trans hns')
  have hwaiting := Timers.waiting_of_expdTmrs hw.wf hns hserving
  intro q hq i hi hb
  obtain hpend | ⟨n, hn, hni⟩ | hsince := h q hq i hi hb
  · obtain ⟨t, ht, hrun⟩ := Timers.timerPending_eq_true.mp hpend
    obtain ⟨t', ht', hticked⟩ := hall i t ht
    obtain hrun' | ⟨n, hn, hni⟩ := hticked.running hrun
    · exact .inl (Timers.timerPending_eq_true.mpr ⟨t', ht', hrun'⟩)
    · exact .inr (.inl ⟨n, hwaiting ▸ List.mem_append_right _ hn, hni⟩)
  · exact .inr (.inl ⟨n, hwaiting ▸ List.mem_append_left _ hn, hni⟩)
  · exact .inr (.inr (since_snoc.mpr (.inr ⟨hsince, id⟩)))

theorem HeldBack.manager {env : TimerMgr} (h : HeldBack past w) (hw : Sound w) (ev : Timers.Event)
    (hne : ev ≠ .tick) (hleaves : ∀ i, some i ∈ w.br.timers → Timers.Leaves i ev)
    (henv : Timers.step w.env ev = some env) :
    HeldBackExcept (fun i ↦ ev = .serve ∧ ∃ n, env.serving = some n ∧ n.timer = i)
      (past ++ [.manager ev]) { w with env := env } := by
  intro q hq i hi hb hE
  have hmem := mem_timers_of_hold hq hi
  obtain hpend | ⟨n, hn, hni⟩ | hsince := h q hq i hi hb
  · exact .inl ((hleaves i hmem).pending hne hw.wf (hw.lasting i hmem) hpend henv)
  · refine .inr (.inl ⟨n, ?_, hni⟩)
    obtain ⟨ns, hns⟩ | ⟨hserve, m, hm, hcons⟩ := Timers.waiting_step hw.wf henv
    · exact hns ▸ List.mem_append_left _ hn
    · obtain rfl | hn := List.mem_cons.mp (hcons ▸ hn)
      · exact absurd ⟨hserve, n, hm, hni⟩ hE
      · exact hn
  · exact .inr (.inr (since_snoc.mpr (.inr ⟨hsince, id⟩)))

variable [Add κ] [LT κ] [DecidableLT κ] [OfNat κ 0] [OfNat κ 20000]

theorem Works.heldBackExcept (h : Works (timerHost e stackByte) W l w w') (hw : Sound w)
    (hheld : HeldBackExcept E past w) :
    HeldBackExcept (fun i ↦ E i ∧ ¬l.TriesOn i) (past ++ [l]) w' := by
  intro q' hq' i hi hb hE
  obtain ⟨-, -, hp⟩ | ⟨q, hq, hiq, hbq, ⟨hage, -⟩ | ⟨hl, hp⟩⟩ := h.holds hw hq' hi hb
  · exact .inl hp
  · exact .inr (.inr (since_snoc.mpr (.inl hage)))
  · obtain hpend | ⟨n, hn, hni⟩ | hsince := hheld q hq i hiq hbq fun hEi ↦ hE ⟨hEi, hl⟩
    · exact .inl (hp hpend)
    · exact .inr (.inl ⟨n, h.waiting hw hn, hni⟩)
    · exact .inr (.inr (since_snoc.mpr (.inr ⟨hsince, hl⟩)))

theorem HeldBack.works (h : HeldBack past w) (hw : Sound w)
    (ht : Trace (Works (timerHost e stackByte) W) w ls w') : HeldBack (past ++ ls) w' := by
  refine (ht.history (J := fun past w ↦ Sound w ∧ HeldBack past w) ?_ ⟨hw, h⟩).2
  rintro past l w w' hl ⟨hw, h⟩
  refine ⟨hl.sound hw, (hl.heldBackExcept hw (h.except fun _ ↦ False)).heldBack ?_⟩
  exact fun _ _ _ _ _ hE ↦ hE.1

theorem timedStep_serve_hold {env : TimerMgr} {n : Timers.AppTimer} (hw : Sound w)
    (hq : w.br.portList[p]? = some q) (hi : q.holdTimer = some n.timer)
    (hpending : q.configPending = true) (henv : Timers.serveTimer w.env = some env)
    (hn : env.serving = some n) :
    timedStep e stackByte W w .serve =
      (stpTransmitConfig (timerHost e stackByte) W p { w with env := env }).map Prod.snd := by
  have hout : (env.serving.bind fun n ↦ timeOut (Φ := Φ) w.br n.timer) = some (.holdTimer p) := by
    rw [hn]
    exact timeOut_hold hw.apart hq hi
  change serveTimed e stackByte W w = _
  rw [serveTimed, henv, Option.bind_some, hout]
  change Option.map Prod.snd (stpHoldTimerExpired (timerHost e stackByte) W p _) = _
  rw [stpHoldTimerExpired, bind_port (w := { w with env := env }) hq, hpending, onlyIf, if_pos rfl]

theorem timedStep_heldBack {ev : TimedEvent κ Φ} (hw : Sound w) (hev : Permits w ev)
    (hheld : HeldBack past w) (h : timedStep e stackByte W w ev = some w') :
    ∃ ls, Trace (Did e stackByte W) w ls w' ∧ HeldBack (past ++ ls) w' := by
  have hworked : ∀ {past} {w : World κ TimerMgr Φ}, Sound w → HeldBack past w →
      Worked (timerHost e stackByte) W w w' →
      ∃ ls, Trace (Did e stackByte W) w ls w' ∧ HeldBack (past ++ ls) w' := by
    rintro past w hw hheld ⟨ls, ht⟩
    exact ⟨ls, ht.mono fun _ _ _ ↦ .works, hheld.works hw ht⟩
  have hmanager : ∀ (ev : Timers.Event) (env : TimerMgr), ev ≠ .tick → ev ≠ .serve →
      (∀ i, some i ∈ w.br.timers → Timers.Leaves i ev) → Timers.step w.env ev = some env →
      ∃ ls, Trace (Did e stackByte W) w ls { w with env := env } ∧
        HeldBack (past ++ ls) { w with env := env } := by
    intro ev env hne hserve hleaves henv
    refine ⟨_, .one (.manager w env ev hne hleaves henv), ?_⟩
    exact (hheld.manager hw ev hne hleaves henv).heldBack fun _ _ _ _ _ hE ↦ hserve hE.1
  cases ev with
  | act a => exact hworked hw hheld (step_worked hev.own h)
  | tick =>
    obtain ⟨env, henv, rfl⟩ := Option.map_eq_some_iff.mp h
    obtain ⟨ns, hns, -⟩ := Timers.updateTimes_ticked hw.wf henv
    exact ⟨_, .one (.tick w env ns henv hns), hheld.tick hw henv hns⟩
  | serve =>
    obtain ⟨env, henv, hcase⟩ := serveTimed_cases h
    have hserve : Did e stackByte W (.manager .serve) w { w with env := env } :=
      .manager w env .serve nofun (fun i _ ↦ leaves_serve i) henv
    have hw' := hserve.sound hw
    have hexcept := hheld.manager hw .serve nofun (fun i _ ↦ leaves_serve i) henv
    by_cases htaken : ∃ n, env.serving = some n ∧
        ∃ q ∈ w.br.portList, q.holdTimer = some n.timer ∧ q.Backlog
    · -- the BPDU is tried again
      obtain ⟨n, hn, q, hq, hi, hb⟩ := htaken
      obtain ⟨p, hp⟩ := List.mem_iff_getElem?.mp hq
      rw [timedStep_serve_hold hw hp hi hb.2 henv hn] at h
      obtain ⟨⟨_, _⟩, htransmit, rfl⟩ := Option.map_eq_some_iff.mp h
      obtain ⟨q', a, hq', ha⟩ := stpTransmitConfig_attempts p _ _ htransmit
      obtain rfl := Option.some.inj (hp.symm.trans hq')
      have hworks := Works.deed (.transmit _ _ p q a hq' ha)
      refine ⟨_, .cons hserve (.one (.works hworks)), ?_⟩
      have hdone := (hworks.heldBackExcept hw' hexcept).heldBack ?_
      · rwa [List.append_assoc] at hdone
      · rintro q' - i - - ⟨⟨-, m, hm, rfl⟩, hl⟩
        obtain rfl := Option.some.inj (hn.symm.trans hm)
        exact hl hi
    · -- no port is waiting for the timer that is taken up
      have hheld' := hexcept.heldBack (by
        rintro q hq i hi hb ⟨-, n, hn, rfl⟩
        exact htaken ⟨n, hn, q, hq, hi, hb⟩)
      obtain ⟨rfl, -⟩ | ⟨n, ev, -, hout, hstep⟩ := hcase
      · exact ⟨_, .one hserve, hheld'⟩
      · obtain ⟨ls, ht, hdone⟩ := hworked hw' hheld' (step_worked (timeOut_own hout) hstep)
        refine ⟨_, .cons hserve ht, ?_⟩
        rwa [List.append_assoc] at hdone
  | finish mem =>
    obtain ⟨env, henv, rfl⟩ := Option.map_eq_some_iff.mp h
    exact hmanager (.finish mem) env nofun nofun (fun i _ ↦ leaves_finish i mem) henv
  | other ev =>
    obtain ⟨env, henv, rfl⟩ := Option.map_eq_some_iff.mp h
    exact hmanager ev env hev.2.1 hev.2.2.1 hev.1 henv

end Backlog

/-- The pace of the BPDUs sent: between two of them on one port the hold timer has
expired or the port has been disabled, and until then the hold timer is pending. -/
structure Paced (past : List (Label κ Φ)) (w : World κ TimerMgr Φ) : Prop where
  sound : Sound w
  allocated : ∀ l ∈ past, ∀ i, l.SendsOn i → i < w.env.nextTimer
  separated : ∀ i, Separated (Label.SendsOn i) (Label.Releases i) past
  pending : ∀ q ∈ w.br.portList, ∀ i, q.holdTimer = some i →
    Since (Label.SendsOn i) (Label.Releases i) past → Timers.timerPending w.env (some i) = some true

theorem newInstance_paced [OfNat κ 0] [OfNat κ 20000] (e : Endian) (stackByte : U8) (vlanId : U16)
    (addr : MacAddress) (portCdb : Vector PortT maxPorts) {env : TimerMgr} (henv : Timers.Wf env) :
    Paced (Φ := Φ) [] (newInstance (κ := κ) (timerHost e stackByte) vlanId addr [] portCdb env)
      where
  sound := newInstance_sound vlanId addr portCdb henv
  allocated _ hl := absurd hl List.not_mem_nil
  separated _ := separated_nil
  pending _ hq := absurd hq List.not_mem_nil

section Pace

variable [Add κ] [LT κ] [DecidableLT κ] [OfNat κ 0] [OfNat κ 20000]
variable {e : Endian} {stackByte : U8} {W : Wire κ Φ} {l : Label κ Φ} {w w' : World κ TimerMgr Φ}
variable {past ls : List (Label κ Φ)} {q' : StpPortEntry κ} {i : TimerId}

theorem Did.nextTimer_le (h : Did e stackByte W l w w') (hw : Sound w) :
    w.env.nextTimer ≤ w'.env.nextTimer := by
  refine (h.run.invariant (I := fun s ↦ Timers.Wf s ∧ w.env.nextTimer ≤ s.nextTimer) ?_
    ⟨hw.wf, le_rfl⟩).2
  rintro s ev s' ⟨hwf, hle⟩ - hs
  exact ⟨hwf.step hs, hle.trans (Timers.nextTimer_le_step hwf hs)⟩

theorem Paced.snoc (hp : Paced past w) (h : Did e stackByte W l w w')
    (hsend : ∀ i, l.SendsOn i → i < w.env.nextTimer ∧
      ¬Since (Label.SendsOn i) (Label.Releases i) past)
    (hpend : ∀ q ∈ w'.br.portList, ∀ i, q.holdTimer = some i →
      l.SendsOn i ∨ Since (Label.SendsOn i) (Label.Releases i) past ∧ ¬l.Releases i →
      Timers.timerPending w'.env (some i) = some true) : Paced (past ++ [l]) w' where
  sound := h.sound hp.sound
  allocated l' hl' i hi := by
    refine Nat.lt_of_lt_of_le ?_ (h.nextTimer_le hp.sound)
    obtain hl' | hl' := List.mem_append.mp hl'
    · exact hp.allocated l' hl' i hi
    · obtain rfl := List.mem_singleton.mp hl'
      exact (hsend i hi).1
  separated i := (hp.separated i).snoc fun hl ↦ (hsend i hl).2
  pending q hq i hi hsince := hpend q hq i hi (since_snoc.mp hsince)

theorem Works.origin (h : Works (timerHost e stackByte) W l w w') (hw : Sound w)
    (hq' : q' ∈ w'.br.portList) :
    (∃ q ∈ w.br.portList, q'.fixed = q.fixed) ∨
      ∀ i, some i ∈ q'.timers → w.env.nextTimer ≤ i := by
  have hfixed : w'.br.fixed = w.br.fixed → ∃ q ∈ w.br.portList, q'.fixed = q.fixed := by
    intro hfixed
    have hmem : q'.fixed ∈ w'.br.portList.map StpPortEntry.fixed := List.mem_map_of_mem hq'
    rw [show w'.br.portList.map StpPortEntry.fixed = w.br.portList.map StpPortEntry.fixed from
      congrArg (fun x ↦ x.2.2) hfixed] at hmem
    obtain ⟨q, hq, heq⟩ := List.mem_map.mp hmem
    exact ⟨q, hq, heq.symm⟩
  cases h with
  | deed h => exact .inl (hfixed ((closed_fixed_eq w.br.fixed).stable h rfl))
  | assign _ br portCdb h => exact .inl (hfixed h.fixed)
  | create _ addr portNo =>
    obtain hold | hnew := List.mem_append.mp hq'
    · exact .inl ⟨q', hold, rfl⟩
    · obtain rfl := List.mem_singleton.mp hnew
      refine .inr ?_
      obtain ⟨-, -, -, hall, -⟩ := setupTimers_apart e stackByte
        [.messageAge portNo, .forwardDelay portNo, .hold portNo] hw.wf
      rw [← newPort_eq (κ := κ) _ addr] at hall
      exact fun i hi ↦ (hall i hi).1
  | remove _ => exact .inl ⟨q', List.mem_of_mem_tail hq', rfl⟩

theorem Works.paced (h : Works (timerHost e stackByte) W l w w') (hp : Paced past w) :
    Paced (past ++ [l]) w' := by
  refine hp.snoc (.works h) (fun i hl ↦ ?_) fun q' hq' i hi hcase ↦ ?_
  · obtain ⟨⟨q, hq, hi⟩, hfree, -⟩ := h.tries hl.tries
    have hmem := mem_timers_of_hold hq hi
    refine ⟨hp.sound.lt_nextTimer hmem, fun hsince ↦ ?_⟩
    have hpend := hp.pending q hq i hi hsince
    rw [hfree (.inl hl)] at hpend
    cases hpend
  · obtain hl | ⟨hsince, hrel⟩ := hcase
    · exact (h.tries hl.tries).2.2.resolve_left hl.not_aged
    · obtain ⟨q, hq, hfixed⟩ | hnew := h.origin hp.sound hq'
      · have hiq : q.holdTimer = some i := (hold_of_fixed hfixed).symm.trans hi
        have hmem := mem_timers_of_hold hq hiq
        obtain hleaves | hl | ⟨rfl, -⟩ := h.leaves hp.sound hq hiq
        · exact h.pending hp.sound hmem hleaves (hp.pending q hq i hiq hsince)
        · exact (h.tries hl.tries).2.2.resolve_left hl.not_aged
        · exact absurd rfl hrel
      · -- nothing can have been sent on a port that is new
        obtain ⟨l', hl', hsend⟩ := hsince.mem
        exact absurd (hp.allocated l' hl' i hsend) 
          (Nat.not_lt.mpr (hnew i (hi ▸ hold_mem_timers q')))

theorem Did.paced (h : Did e stackByte W l w w') (hp : Paced past w) : Paced (past ++ [l]) w' := by
  have hdid := id h
  cases h with
  | works h => exact h.paced hp
  | tick _ env ns henv hns =>
    refine hp.snoc hdid (fun _ ↦ False.elim) fun q hq i hi hcase ↦ ?_
    obtain hl | ⟨hsince, hrel⟩ := hcase
    · exact absurd hl id
    obtain ⟨ns', hns', -, hall⟩ := Timers.updateTimes_ticked hp.sound.wf henv
    obtain rfl := List.append_cancel_left (hns.symm.trans hns')
    obtain ⟨t, ht, hrun⟩ := Timers.timerPending_eq_true.mp (hp.pending q hq i hi hsince)
    obtain ⟨t', ht', hticked⟩ := hall i t ht
    obtain hrun' | ⟨n, hn, rfl⟩ := hticked.running hrun
    · exact Timers.timerPending_eq_true.mpr ⟨t', ht', hrun'⟩
    · exact absurd (List.mem_map_of_mem hn) hrel
  | manager _ env ev hne hleaves henv =>
    refine hp.snoc hdid (fun _ ↦ False.elim) fun q hq i hi hcase ↦ ?_
    obtain hl | ⟨hsince, -⟩ := hcase
    · exact absurd hl id
    have hmem := mem_timers_of_hold hq hi
    exact (hleaves i hmem).pending hne hp.sound.wf (hp.sound.lasting i hmem)
      (hp.pending q hq i hi hsince) henv

theorem Did.pending_kept {q : StpPortEntry κ} (h : Did e stackByte W l w w')
    (hq : q ∈ w.br.portList) (hp : q.configPending = true) :
    (∃ q' ∈ w'.br.portList, q'.fixed = q.fixed ∧ q'.configPending = true) ∨
      l.Clears q.holdTimer := by
  cases h with
  | works h => exact h.pending_kept hq hp
  | tick => exact .inl ⟨q, hq, rfl, hp⟩
  | manager => exact .inl ⟨q, hq, rfl, hp⟩

/-- In every run of an instance, BPDUs are sent on a port no faster than its hold
timer allows, and one that is held back is tried again when the hold timer has
expired, and is not forgotten before it is sent. -/
theorem config_bpdus_held_back {vlanId : U16} {addr : MacAddress} {portCdb : Vector PortT maxPorts}
    {env : TimerMgr} {evs : List (TimedEvent κ Φ)} (henv : Timers.Wf env)
    (hrun : Run (timedStep e stackByte W) Permits
      (newInstance (timerHost e stackByte) vlanId addr [] portCdb env) evs w) :
    (∃ ls, Chronicle (timedStep e stackByte W) (Did e stackByte W) HeldBack
        (newInstance (timerHost e stackByte) vlanId addr [] portCdb env) evs ls w ∧
      w.sent = ls.flatMap Label.sends ∧
      ∀ i, Separated (Label.SendsOn i) (Label.Releases i) ls) ∧
    (∀ p q n env', w.br.portList[p]? = some q → q.holdTimer = some n.timer →
      q.configPending = true → Timers.serveTimer w.env = some env' → env'.serving = some n →
      timedStep e stackByte W w .serve =
        (stpTransmitConfig (timerHost e stackByte) W p { w with env := env' }).map Prod.snd) ∧
    ∀ l w₁ w₂, Did e stackByte W l w₁ w₂ → ∀ q ∈ w₁.br.portList, q.configPending = true →
      (∃ q' ∈ w₂.br.portList, q'.fixed = q.fixed ∧ q'.configPending = true) ∨
        l.Clears q.holdTimer := by
  have hstart := newInstance_paced (κ := κ) (Φ := Φ) e stackByte vlanId addr portCdb henv
  refine ⟨?_, ?_, fun l w₁ w₂ hdid q hq hp ↦ hdid.pending_kept hq hp⟩
  · have hnone : HeldBack (κ := κ) (Φ := Φ) []
        (newInstance (timerHost e stackByte) vlanId addr [] portCdb env) :=
      fun _ hq ↦ absurd hq List.not_mem_nil
    obtain ⟨ls, hls⟩ := hrun.chronicle (R := Did e stackByte W)
      (J := fun past w ↦ Sound w ∧ HeldBack past w) (by
        rintro past w ev w' ⟨hw, hheld⟩ hev hs
        obtain ⟨ls, ht, hheld'⟩ := timedStep_heldBack hw hev hheld hs
        exact ⟨ls, ht, hw.timedStep hev hs, hheld'⟩) ⟨hstart.sound, hnone⟩
    refine ⟨ls, hls.mono fun _ _ h ↦ h.2, ?_, ?_⟩
    · rw [← List.nil_append ls]
      refine hls.trace.history (J := fun past w ↦ w.sent = past.flatMap Label.sends) ?_ ?_
      · intro past l w w' hdid hpast
        rw [hdid.sends, hpast, List.flatMap_append, List.flatMap_singleton]
      · rfl
    · exact (hls.trace.history (fun past l w w' hdid ↦ hdid.paced) hstart).separated
  · intro p q n env' hq hi hp henv' hn
    have hw : Sound w := hstart.sound.timedRun (fun _ _ ↦ id) hrun
    exact timedStep_serve_hold hw hq hi hp henv' hn

end Pace

/-- The same BPDU comes twice from the root, so that the second copy is held back. -/
theorem config_bpdus_held_back_twice :
    ∃ w q, Run (timedStep .little 0 (frames .little)) Permits leafStart (leafEvents 2) w ∧
      q ∈ w.br.portList ∧ q.Backlog ∧
      ∃ ls, Chronicle (timedStep .little 0 (frames .little))
        (Did .little 0 (frames .little)) HeldBack
          leafStart (leafEvents 2) ls w ∧
        w.sent = ls.flatMap Label.sends ∧
        ∀ i, Separated (Label.SendsOn i) (Label.Releases i) ls := by
  have hcheck : ((leafRun (leafEvents 2)).any fun w ↦ w.br.portList[1]?.any fun q ↦
      q.state ≠ .disabled ∧ q.configPending = true) = true := by
    decide +kernel
  simp only [Option.any_eq_true, decide_eq_true_eq] at hcheck
  obtain ⟨w, hw, q, hq, hb⟩ := hcheck
  have hrun := (run_of_leafRun hw).mono fun _ _ hc ↦ hc.1
  exact ⟨w, q, hrun, List.mem_of_getElem? hq, hb, (config_bpdus_held_back Timers.wf_init hrun).1⟩

section Window

variable [Add κ] [LT κ] [DecidableLT κ] [OfNat κ 0] [OfNat κ 20000]
variable {e : Endian} {stackByte : U8} {W : Wire κ Φ} {w w' : World κ TimerMgr Φ}
variable {past ls : List (Label κ Φ)}

def JustHeld (past : List (Label κ Φ)) (w : World κ TimerMgr Φ) : Prop :=
  ∀ q ∈ w.br.portList, ∀ i, q.holdTimer = some i → q.Backlog →
    Timers.timerPending w.env (some i) = some true ∧ ¬Since (Label.AgedOn i) (Label.TriesOn i) past

theorem JustHeld.works (h : JustHeld past w) (hw : Sound w)
    (ht : Trace (Works (timerHost e stackByte) W) w ls w') : JustHeld (past ++ ls) w' := by
  refine (ht.history (J := fun past w ↦ Sound w ∧ JustHeld past w) ?_ ⟨hw, h⟩).2
  rintro past l w w' hl ⟨hw, h⟩
  refine ⟨hl.sound hw, fun q' hq' i hi hb ↦ ?_⟩
  rw [since_snoc, not_or, not_and_not_right]
  obtain ⟨htry, hage, hp⟩ | ⟨q, hq, hiq, hbq, ⟨-, hp⟩ | ⟨htry, hp⟩⟩ := hl.holds hw hq' hi hb
  · exact ⟨hp, hage, fun _ ↦ htry⟩
  · -- an attempt goes past a hold timer that is pending only if it is held
    have hheld := (h q hq i hiq hbq).1
    rw [hp] at hheld
    cases hheld
  · obtain ⟨hheld, hsince⟩ := h q hq i hiq hbq
    exact ⟨hp hheld, fun hage ↦ htry hage.tries, fun h ↦ absurd h hsince⟩

theorem ticks_trace {n : ℕ} (hw : Sound w)
    (h : Run (timedStep e stackByte W) Permits w (List.replicate n .tick) w') :
    w'.br = w.br ∧ ∃ ls, Trace (Did e stackByte W) w ls w' ∧ ∀ l ∈ ls, ∀ i, ¬l.AgedOn i := by
  induction n generalizing w with
  | zero =>
    cases h
    exact ⟨rfl, [], .nil _, nofun⟩
  | succ n ih =>
    cases h with
    | cons hc hs h =>
      obtain ⟨hbr, ls, ht, hls⟩ := ih (hw.timedStep hc hs) h
      obtain ⟨env, henv, rfl⟩ := Option.map_eq_some_iff.mp hs
      obtain ⟨ns, hns, -⟩ := Timers.updateTimes_ticked hw.wf henv
      refine ⟨hbr, _, .cons (.tick w env ns henv hns) ht, fun l hl i ↦ ?_⟩
      obtain rfl | hl := List.mem_cons.mp hl
      · exact id
      · exact hls l hl i

end Window

def helloAgain : Action Int32 TimerMgr (List U8) :=
  .event (.receive 1 ((frames .little).config (macAddress 0 0 0 0 0 1) rootHello))

/-- A second after the BPDU has been held back, the hold timer has expired. Until
the bottom half comes to it, it is not pending, and nobody has tried again. -/
theorem held_back_between_expiry_and_handler :
    ∃ ls w q i, Run (timedStep .little 0 (frames .little)) Permits leafStart
        (leafEvents 1 ++ .act helloAgain :: List.replicate 100 .tick) w ∧
      Trace (Did .little 0 (frames .little)) leafStart ls w ∧ q ∈ w.br.portList ∧ q.Backlog ∧
      q.holdTimer = some i ∧ Timers.timerPending w.env (some i) = some false ∧
      ¬Since (Label.AgedOn i) (Label.TriesOn i) ls := by
  have hcheck : ((leafRun (leafEvents 1)).any fun w₀ ↦
      (timedStep .little 0 (frames .little) w₀ (.act helloAgain)).any fun w₁ ↦
      (exec (fun w ev ↦ if ev.plain then timedStep .little 0 (frames .little) w ev else none) w₁
        (List.replicate 100 .tick)).any fun w ↦
      w.br.portList[1]?.any fun q ↦ q.holdTimer.any fun i ↦
        (∀ q ∈ w₀.br.portList, q.configPending = false) ∧ q.state ≠ .disabled ∧
        q.configPending = true ∧ Timers.timerPending w.env (some i) = some false) = true := by
    decide +kernel
  simp only [Option.any_eq_true, decide_eq_true_eq] at hcheck
  obtain ⟨w₀, hw₀, w₁, hw₁, w, hw, q, hq, i, hi, hnone, hlive, hpending, hidle⟩ := hcheck
  have hrun₀ := (run_of_leafRun hw₀).mono fun _ _ hc ↦ hc.1
  have hstart : Sound leafStart := newInstance_sound 1 (macAddress 0 0 0 0 0 2) _ Timers.wf_init
  have hsound₀ : Sound w₀ := hstart.timedRun (fun _ _ ↦ id) hrun₀
  have hpermits : Permits w₀ (.act helloAgain) := trivial
  have hsound₁ := hsound₀.timedStep hpermits hw₁
  have hticks : Run (timedStep .little 0 (frames .little)) Permits w₁ (List.replicate 100 .tick)
      w := (run_of_exec hw).guarded.mono fun w _ hc ↦ permits_of_plain hc w
  obtain ⟨ls₀, ht₀⟩ := timedRun_trace hstart hrun₀
  have hown : helloAgain.Own := trivial
  obtain ⟨ls₁, ht₁⟩ := step_worked hown hw₁
  obtain ⟨hbr, ls₂, ht₂, hls₂⟩ := ticks_trace hsound₁ hticks
  have hjust : JustHeld (ls₀ ++ ls₁) w₁ := by
    refine JustHeld.works (fun q hq _ _ hb ↦ ?_) hsound₀ ht₁
    exact absurd ((hnone q hq).symm.trans hb.2) Bool.false_ne_true
  refine ⟨ls₀ ++ ls₁ ++ ls₂, w, q, i, hrun₀.trans (.cons hpermits hw₁ hticks),
    (ht₀.trans (ht₁.mono fun _ _ _ ↦ .works)).trans ht₂, List.mem_of_getElem? hq,
    ⟨hlive, hpending⟩, hi, hidle, fun hsince ↦ ?_⟩
  have hmem : q ∈ w₁.br.portList := hbr ▸ List.mem_of_getElem? hq
  exact (hjust q hmem i hi ⟨hlive, hpending⟩).2 (hsince.of_append fun l hl ↦ hls₂ l hl i)

end Layer3Switch.Stp
