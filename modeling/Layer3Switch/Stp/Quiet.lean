import Layer3Switch.Lib.Safe
import Layer3Switch.Stp.Transmit
import Layer3Switch.Stp.Tree

namespace Layer3Switch.Stp

open Lib Lib.Bytes
open Timers (U32)

def InTable (portNo : U32) : Prop := (portNo - 1).toNat < maxPorts

variable {κ τ Φ α β : Type} {F : Prop}

def Host.Faults (H : Host τ) : Prop :=
  ∃ timer env, (∃ secs, H.modTimer timer secs env = none) ∨ H.delTimer timer env = none ∨
    H.timerPending timer env = none ∨ H.timerGetRemainingTime timer env = none

def Host.total (H : Host τ) : Host τ where
  endian := H.endian
  setupTimer := H.setupTimer
  modTimer timer secs env := some ((H.modTimer timer secs env).getD env)
  delTimer timer env := some ((H.delTimer timer env).getD env)
  timerPending timer env := some ((H.timerPending timer env).getD false)
  timerGetRemainingTime timer env := some ((H.timerGetRemainingTime timer env).getD 0)
  tmMalloc := H.tmMalloc
  blockAddr := H.blockAddr
  stackByte := H.stackByte

theorem Host.total_not_faults (H : Host τ) : ¬H.total.Faults := by
  rintro ⟨timer, env, ⟨secs, h⟩ | h | h | h⟩ <;> exact Option.some_ne_none _ h

section Rules

variable {w : World κ τ Φ} {Q : β → World κ τ Φ → Prop}

theorem safe_reads {g : World κ τ Φ → Option α} {f : α → StpM κ τ Φ β} (hnone : g w = none → F)
    (h : ∀ a, g w = some a → Safe F (f a) w Q) : Safe F (reads g >>= f) w Q := by
  have hread : Safe F (reads g) w fun a w' ↦ g w = some a ∧ w' = w :=
    ⟨fun hm ↦ hnone (Option.map_eq_none_iff.mp hm), ends_reads fun _ ha ↦ ⟨ha, rfl⟩⟩
  refine hread.andThen ?_
  rintro a w' ⟨ha, rfl⟩
  exact h a ha

theorem safe_bridge {f : StpInstance κ → StpM κ τ Φ β} (h : Safe F (f w.br) w Q) :
    Safe F (bridge >>= f) w Q :=
  safe_reads (fun hnone ↦ absurd hnone (Option.some_ne_none _))
    fun _ hbr ↦ Option.some.inj hbr ▸ h

theorem safe_port {p : ℕ} {q : StpPortEntry κ} {f : StpPortEntry κ → StpM κ τ Φ β}
    (hq : w.br.portList[p]? = some q) (h : Safe F (f q) w Q) : Safe F (port p >>= f) w Q := by
  apply safe_reads
  · intro hnone
    rw [hq] at hnone
    cases hnone
  · intro q' hq'
    obtain rfl := Option.some.inj (hq.symm.trans hq')
    exact h

theorem safe_port_none {p : ℕ} {f : StpPortEntry κ → StpM κ τ Φ β}
    (hq : w.br.portList[p]? = none) (hF : F) : Safe F (port p >>= f) w Q := by
  apply safe_reads fun _ ↦ hF
  intro q hq'
  rw [hq] at hq'
  cases hq'

theorem safe_portCdb {n : U32} {f : PortT → StpM κ τ Φ β} (hn : InTable n ∨ F)
    (h : ∀ t, w.portCdb[(n - 1).toNat]? = some t → Safe F (f t) w Q) :
    Safe F (portCdb n >>= f) w Q := by
  refine safe_reads ?_ h
  intro hnone
  obtain hn | hF := hn
  · rw [Vector.getElem?_eq_getElem hn] at hnone
    cases hnone
  · exact hF

theorem safe_setPort {p : ℕ} {g : StpPortEntry κ → StpPortEntry κ} {f : Unit → StpM κ τ Φ β}
    (h : Safe F (f ()) (w.modifyPort p g) Q) : Safe F (setPort p g >>= f) w Q :=
  Safe.andThen (P := fun _ w' ↦ w' = w.modifyPort p g) (.update rfl) fun _ _ hw' ↦ hw' ▸ h

theorem safe_setBridge {g : StpInstance κ → StpInstance κ} {f : Unit → StpM κ τ Φ β}
    (h : Safe F (f ()) { w with br := g w.br } Q) : Safe F (setBridge g >>= f) w Q :=
  Safe.andThen (P := fun _ w' ↦ w' = { w with br := g w.br }) (.update rfl) fun _ _ hw' ↦ hw' ▸ h

theorem safe_becomeDesignatedPort {p : ℕ} {f : Unit → StpM κ τ Φ β}
    (h : Safe F (f ()) (w.modifyPort p (stpBecomeDesignatedPort w.br)) Q) :
    Safe F (becomeDesignatedPort p >>= f) w Q := by
  rw [becomeDesignatedPort, bind_assoc]
  exact safe_bridge (safe_setPort h)

theorem safe_forPorts {f : ℕ → StpM κ τ Φ Unit} {I : ℕ → World κ τ Φ → Prop}
    (hstep : ∀ k < w.br.portList.length, ∀ w', I k w' → Safe F (f k) w' fun _ w'' ↦ I (k + 1) w'')
    (h : I 0 w) : Safe F (forPorts f) w fun _ w' ↦ I w.br.portList.length w' :=
  Safe.forM_range hstep h

variable {H : Host τ} (hH : H.Faults → F) {R : Unit → World κ τ Φ → Prop}
include hH

theorem safe_modTimer {timer : TimerRef} {secs : U32} (h : ∀ env, R () { w with env := env }) :
    Safe F (modTimer H timer secs) w R := by
  refine ⟨?_, ends_callEnv fun env _ ↦ h env⟩
  intro hnone
  exact hH ⟨timer, w.env, .inl ⟨secs, Option.map_eq_none_iff.mp hnone⟩⟩

theorem safe_delTimer {timer : TimerRef} (h : ∀ env, R () { w with env := env }) :
    Safe F (delTimer H timer) w R := by
  refine ⟨?_, ends_callEnv fun env _ ↦ h env⟩
  intro hnone
  exact hH ⟨timer, w.env, .inr (.inl (Option.map_eq_none_iff.mp hnone))⟩

theorem safe_timerPending {timer : TimerRef} {f : Bool → StpM κ τ Φ β}
    (h : ∀ b, H.timerPending timer w.env = some b → Safe F (f b) w Q) :
    Safe F (timerPending H timer >>= f) w Q :=
  safe_reads (fun hnone ↦ hH ⟨timer, w.env, .inr (.inr (.inl hnone))⟩) h

theorem safe_timerGetRemainingTime {timer : TimerRef} {f : U32 → StpM κ τ Φ β}
    (h : ∀ n, Safe F (f n) w Q) : Safe F (timerGetRemainingTime H timer >>= f) w Q :=
  safe_reads (fun hnone ↦ hH ⟨timer, w.env, .inr (.inr (.inr hnone))⟩) fun n _ ↦ h n

end Rules

def Speaks (br : StpInstance κ) (q : StpPortEntry κ) : Prop :=
  q.configPending ∨ q.state ≠ .disabled ∧ stpIsDesignatedPort br q

def SendsFrom (W : Wire κ Φ) (P : U32 → Prop) (w w' : World κ τ Φ) : Prop :=
  ∃ new, w'.sent = w.sent ++ new ∧ ∀ x ∈ new, (∃ smac, x.2 = W.tcn smac) ∨ P x.1

def PendsFrom (w w' : World κ τ Φ) : Prop :=
  ∀ (i : ℕ) (q' : StpPortEntry κ), w'.br.portList[i]? = some q' → q'.configPending →
    ∃ q, w.br.portList[i]? = some q ∧ Speaks w.br q

structure Quiet (W : Wire κ Φ) (w w' : World κ τ Φ) : Prop where
  tree : w'.br.tree = w.br.tree
  operStatus : ∀ n, w'.operStatus n = w.operStatus n
  pending : PendsFrom w w'
  sent : SendsFrom W (fun n ↦ ∃ q ∈ w.br.portList, Speaks w.br q ∧ n = q.portNo) w w'

section Sends

variable {H : Host τ} {W : Wire κ Φ} {P P' : U32 → Prop} {w w' w'' : World κ τ Φ}

theorem SendsFrom.refl : SendsFrom W P w w := ⟨[], (List.append_nil _).symm, by simp⟩

theorem SendsFrom.of_eq (h : w'.sent = w.sent) : SendsFrom W P w w' :=
  ⟨[], by rw [h, List.append_nil], by simp⟩

theorem SendsFrom.trans (h : SendsFrom W P w w') (h' : SendsFrom W P w' w'') :
    SendsFrom W P w w'' := by
  obtain ⟨new, hnew, hP⟩ := h
  obtain ⟨new', hnew', hP'⟩ := h'
  refine ⟨new ++ new', by rw [hnew', hnew, List.append_assoc], ?_⟩
  intro x hx
  exact (List.mem_append.mp hx).elim (hP x) (hP' x)

theorem SendsFrom.mono (h : SendsFrom W P w w') (hPP' : ∀ n, P n → P' n) :
    SendsFrom W P' w w' := by
  obtain ⟨new, hnew, hP⟩ := h
  exact ⟨new, hnew, fun x hx ↦ (hP x hx).imp_right (hPP' x.1)⟩

theorem Quiet.refl : Quiet W w w where
  tree := rfl
  operStatus _ := rfl
  pending _ q hq hp := ⟨q, hq, .inl hp⟩
  sent := .refl

theorem entry_of_tree_eq {br br' : StpInstance κ} (h : br'.tree = br.tree) {i : ℕ}
    {q' : StpPortEntry κ} (hq' : br'.portList[i]? = some q') :
    ∃ q, br.portList[i]? = some q ∧ q.tree = q'.tree := by
  have hi : br'.tree.portList[i]? = br.tree.portList[i]? := by rw [h]
  rw [tree_getElem?, tree_getElem?, hq', Option.map_some, eq_comm] at hi
  exact Option.map_eq_some_iff.mp hi

theorem speaks_of_tree_eq (h : w'.br.tree = w.br.tree) (hpending : PendsFrom w w') {i : ℕ}
    {q' : StpPortEntry κ} (hq' : w'.br.portList[i]? = some q') (hs : Speaks w'.br q') :
    ∃ q, w.br.portList[i]? = some q ∧ Speaks w.br q ∧ q'.portNo = q.portNo := by
  obtain ⟨q, hq, heq⟩ := entry_of_tree_eq h hq'
  have hno := congrArg StpPortEntry.portNo heq
  have hstate := congrArg StpPortEntry.state heq
  obtain hp | ⟨hlive, hd⟩ := hs
  · obtain ⟨q₁, hq₁, hs⟩ := hpending i q' hq' hp
    obtain rfl := Option.some.inj (hq.symm.trans hq₁)
    exact ⟨q, hq, hs, hno.symm⟩
  · rw [← stpIsDesignatedPort_tree, h, ← heq] at hd
    exact ⟨q, hq, .inr ⟨fun hdis ↦ hlive (hstate.symm.trans hdis), hd⟩, hno.symm⟩

theorem Quiet.trans (h : Quiet W w w') (h' : Quiet W w' w'') : Quiet W w w'' where
  tree := h'.tree.trans h.tree
  operStatus n := (h'.operStatus n).trans (h.operStatus n)
  pending i q'' hq'' hp := by
    obtain ⟨q', hq', hs⟩ := h'.pending i q'' hq'' hp
    obtain ⟨q, hq, hs, -⟩ := speaks_of_tree_eq h.tree h.pending hq' hs
    exact ⟨q, hq, hs⟩
  sent := by
    apply h.sent.trans
    apply h'.sent.mono
    rintro n ⟨q', hq', hs, rfl⟩
    obtain ⟨i, hi⟩ := List.mem_iff_getElem?.mp hq'
    obtain ⟨q, hq, hs, hno⟩ := speaks_of_tree_eq h.tree h.pending hi hs
    exact ⟨q, List.mem_of_getElem? hq, hs, hno⟩

theorem Quiet.length (h : Quiet W w w') : w'.br.portList.length = w.br.portList.length := by
  have hlen := congrArg (fun t ↦ t.portList.length) h.tree
  simpa only [StpInstance.tree, List.length_map] using hlen

theorem Quiet.env (h : Quiet W w w') (env : τ) : Quiet W w { w' with env := env } :=
  ⟨h.tree, h.operStatus, h.pending, h.sent⟩

theorem Quiet.of_br (br : StpInstance κ) (htree : br.tree = w.br.tree)
    (hp : br.portList = w.br.portList) : Quiet W w { w with br := br } where
  tree := htree
  operStatus _ := rfl
  pending i q' hq' hpend := ⟨q', by rwa [← hp], .inl hpend⟩
  sent := .of_eq rfl

theorem Quiet.of_port {p : ℕ} {q : StpPortEntry κ} {f : StpPortEntry κ → StpPortEntry κ}
    (hq : w.br.portList[p]? = some q) (hf : (f q).tree = q.tree)
    (hs : (f q).configPending → Speaks w.br q) : Quiet W w (w.modifyPort p f) where
  tree := by
    have hports : (w.br.portList.modify p f).map StpPortEntry.tree =
        w.br.portList.map StpPortEntry.tree := by
      apply List.ext_getElem?
      intro i
      simp only [List.getElem?_map, List.getElem?_modify]
      by_cases hip : p = i
      · subst hip
        simp [hq, hf]
      · simp [hip]
    simp only [World.modifyPort, StpInstance.tree, hports]
  operStatus _ := rfl
  pending i q' hq' hpend := by
    simp only [World.modifyPort, List.getElem?_modify, Option.map_eq_map,
      Option.map_eq_some_iff] at hq'
    obtain ⟨q₁, hq₁, rfl⟩ := hq'
    refine ⟨q₁, hq₁, ?_⟩
    split at hpend
    · rename_i hpi
      subst hpi
      obtain rfl := Option.some.inj (hq.symm.trans hq₁)
      exact hs hpend
    · exact .inl hpend
  sent := .of_eq rfl

theorem Noted.sends (h : Noted H W w w') : SendsFrom W P w w' := by
  obtain hs | ⟨n, smac, hs⟩ := h.sent
  · exact .of_eq hs
  · exact ⟨[(n, W.tcn smac)], hs, fun x hx ↦ .inl ⟨smac, by rw [List.mem_singleton.mp hx]⟩⟩

theorem Noted.quiet (h : Noted H W w w') : Quiet W w w' where
  tree := by rw [h.br]; rfl
  operStatus n := by rw [World.operStatus, h.portCdb, World.operStatus]
  pending i q hq hp := by
    rw [h.br] at hq
    exact ⟨q, hq, .inl hp⟩
  sent := h.sends

end Sends

theorem InTable.setWidth {n : U32} (h : InTable n) : (n.setWidth 16).setWidth 32 = n := by
  unfold InTable maxPorts at h
  bv_omega

theorem InTable.setWidth_ne_zero {n : U32} (h : InTable n) : n.setWidth 16 ≠ 0#16 := by
  unfold InTable maxPorts at h
  bv_omega

/-- The ports in use have a line in the interface table, and a bridge that is
not the root has its root port among them. -/
structure RootFound (br : StpInstance κ) : Prop where
  live : ∀ q ∈ br.portList, q.state ≠ .disabled → InTable q.portNo
  root : stpIsRootBridge br = false →
    ∃ q ∈ br.portList, q.portNo = br.rootPort ∧ q.state ≠ .disabled

theorem RootFound.getPort {br : StpInstance κ} (h : RootFound br)
    (hr : stpIsRootBridge br = false) :
    ∃ q, stpGetPort br (br.rootPort.setWidth 16) = some q := by
  obtain ⟨q, hq, hno, hlive⟩ := h.root hr
  apply Option.isSome_iff_exists.mp
  apply List.find?_isSome.mpr
  refine ⟨q, hq, ?_⟩
  rw [← hno, (h.live q hq hlive).setWidth, beq_self_eq_true]

def StpPortEntry.badge (q : StpPortEntry κ) : U32 × Bool := (q.portNo, q.state == .disabled)

theorem exists_badge_eq {l l' : List (StpPortEntry κ)} (h : l'.map (·.badge) = l.map (·.badge))
    {q : StpPortEntry κ} (hq : q ∈ l) :
    ∃ q' ∈ l', q'.portNo = q.portNo ∧ (q'.state = .disabled ↔ q.state = .disabled) := by
  have hmem : q.badge ∈ l'.map (·.badge) := h ▸ List.mem_map_of_mem hq
  obtain ⟨q', hq', heq⟩ := List.mem_map.mp hmem
  obtain ⟨hno, hstate⟩ := Prod.mk.inj heq
  exact ⟨q', hq', hno, by simpa using congrArg (· = true) hstate⟩

theorem RootFound.of_badges {br br' : StpInstance κ} (h : RootFound br)
    (hports : br'.portList.map (·.badge) = br.portList.map (·.badge))
    (hroot : br'.rootPort = br.rootPort) (his : stpIsRootBridge br' = stpIsRootBridge br) :
    RootFound br' where
  live q' hq' hlive := by
    obtain ⟨q, hq, hno, hstate⟩ := exists_badge_eq hports.symm hq'
    rw [← hno]
    exact h.live q hq fun hdis ↦ hlive (hstate.mp hdis)
  root hr := by
    obtain ⟨q, hq, hno, hlive⟩ := h.root (his ▸ hr)
    obtain ⟨q', hq', hno', hstate⟩ := exists_badge_eq hports hq
    exact ⟨q', hq', (hno'.trans hno).trans hroot.symm, fun hdis ↦ hlive (hstate.mp hdis)⟩

theorem badges_of_tree_eq {br br' : StpInstance κ} (h : br'.tree = br.tree) :
    br'.portList.map (·.badge) = br.portList.map (·.badge) := by
  have hports := congrArg (fun t ↦ t.portList.map (·.badge)) h
  simp only [StpInstance.tree, List.map_map] at hports
  exact hports

theorem RootFound.of_tree_eq {br br' : StpInstance κ} (h : RootFound br)
    (heq : br'.tree = br.tree) :
    RootFound br' :=
  h.of_badges (badges_of_tree_eq heq) (congrArg StpInstance.rootPort heq :)
    (congrArg stpIsRootBridge heq :)

/-- What the sending functions need in order not to break off. -/
structure Ready (F : Prop) (br : StpInstance κ) : Prop extends RootFound br where
  table : ∀ q ∈ br.portList, InTable q.portNo ∨ F

theorem Ready.of_badges {br br' : StpInstance κ} (h : Ready F br)
    (hports : br'.portList.map (·.badge) = br.portList.map (·.badge))
    (hroot : br'.rootPort = br.rootPort) (his : stpIsRootBridge br' = stpIsRootBridge br) :
    Ready F br' where
  toRootFound := h.toRootFound.of_badges hports hroot his
  table q' hq' := by
    obtain ⟨q, hq, hno, -⟩ := exists_badge_eq hports.symm hq'
    rw [← hno]
    exact h.table q hq

theorem Ready.of_tree_eq {br br' : StpInstance κ} (h : Ready F br) (heq : br'.tree = br.tree) :
    Ready F br' :=
  h.of_badges (badges_of_tree_eq heq) (congrArg StpInstance.rootPort heq :)
    (congrArg stpIsRootBridge heq :)

theorem Ready.setTimes {br : StpInstance κ} (h : Ready F br) (t : BridgeTimes) :
    Ready F (br.setTimes t) := h.of_badges rfl rfl rfl

theorem ready_tree {br : StpInstance κ} : Ready F br.tree ↔ Ready F br :=
  ⟨fun h ↦ h.of_tree_eq tree_tree.symm, fun h ↦ h.of_tree_eq tree_tree⟩

section Talk

variable {H : Host τ} {W : Wire κ Φ} {w : World κ τ Φ} (hH : H.Faults → F)
include hH

omit hH in
theorem stpSendBpdu_safe {n : U32} (hn : InTable n ∨ F) (frame : MacAddress → Φ) :
    Safe F (stpSendBpdu H n frame) w fun _ _ ↦ True := by
  apply safe_reads
  · intro hnone
    cases hnone
  · intro mem _
    apply Safe.onlyIf
    · intro _
      apply safe_portCdb hn
      intro t _
      exact .update trivial
    · intro _
      trivial

omit hH in
theorem stpTransmitTcn_safe (hw : Ready F w.br) :
    Safe F (stpTransmitTcn H W) w fun _ w' ↦
      w' = w ∨ ∃ portNo smac, w' = w.send portNo (W.tcn smac) := by
  refine ⟨?_, stpTransmitTcn_ends⟩
  have hsafe : Safe F (stpTransmitTcn H W) w fun _ _ ↦ True := by
    apply safe_bridge
    cases hroot : stpGetPort w.br (w.br.rootPort.setWidth 16) with
    | none => exact .pure trivial
    | some q =>
      apply safe_bridge
      apply Safe.onlyIf
      · intro _
        exact stpSendBpdu_safe (hw.table q (stpGetPort_spec hroot).1) W.tcn
      · intro _
        trivial
  exact hsafe.1

theorem stpTransmitConfig_safe {p : ℕ} {q : StpPortEntry κ} (hw : Ready F w.br)
    (hq : w.br.portList[p]? = some q) (hs : Speaks w.br q) :
    Safe F (stpTransmitConfig H W p) w fun _ w' ↦ Quiet W w w' := by
  have hsafe : Safe F (stpTransmitConfig H W p) w fun _ _ ↦ True := by
    apply safe_port hq
    apply safe_timerPending hH
    intro pending _
    apply Safe.ite
    · intro _
      exact .update trivial
    · intro _
      apply safe_bridge
      have hage : Safe F (messageAge H w.br) w fun _ w' ↦ w = w' := by
        apply Safe.ite
        · intro _
          exact .pure rfl
        · intro hr
          obtain ⟨root, hroot⟩ := hw.getPort (Bool.eq_false_iff.mpr hr)
          apply safe_reads
          · intro hnone
            rw [hroot] at hnone
            cases hnone
          · intro _ _
            apply safe_timerGetRemainingTime hH
            intro _
            exact .pure rfl
      refine hage.andThen ?_
      rintro age _ rfl
      apply safe_reads
      · intro hnone
        cases hnone
      · intro stack _
        apply Safe.onlyIf
        · intro _
          have hsend : Safe F (stpSendConfigBpdu H W q (configBpdu stack w.br q age)) w
              fun _ _ ↦ True := by
            apply safe_bridge
            apply Safe.onlyIf
            · intro _
              exact stpSendBpdu_safe (hw.table q (List.mem_of_getElem? hq)) _
            · intro _
              trivial
          refine hsend.andThen ?_
          intro _ w' _
          apply safe_setPort
          apply safe_modTimer hH
          intro _
          trivial
        · intro _
          trivial
  refine ⟨hsafe.1, (stpTransmitConfig_ends p).mono ?_⟩
  rintro _ w' ⟨q₁, hq₁, ht⟩
  obtain rfl := Option.some.inj (hq.symm.trans hq₁)
  cases ht with
  | held _ => exact .of_port hq rfl fun _ ↦ hs
  | aged _ _ _ => exact .refl
  | sent age t env _ _ _ _ _ =>
    have hsend : Quiet W w (w.send q.portNo (W.config t.ifPhysAddress
        (configBpdu (H.stackByte w.env) w.br q age))) := by
      refine ⟨rfl, fun _ ↦ rfl, fun i q' hq' hp ↦ ⟨q', hq', .inl hp⟩, [_], rfl, ?_⟩
      intro x hx
      rw [List.mem_singleton.mp hx]
      exact .inr ⟨q, List.mem_of_getElem? hq, hs, rfl⟩
    exact (hsend.trans (.of_port hq rfl fun hf ↦ absurd hf Bool.false_ne_true)).env env
  | dropped env _ _ => exact (Quiet.of_port hq rfl fun hf ↦ absurd hf Bool.false_ne_true).env env

theorem stpTopologyChangeDetection_safe (hw : Ready F w.br) :
    Safe F (stpTopologyChangeDetection H W) w fun _ w' ↦ Noted H W w w' := by
  refine ⟨?_, stpTopologyChangeDetection_ends⟩
  have hsafe : Safe F (stpTopologyChangeDetection H W) w fun _ _ ↦ True := by
    apply safe_bridge
    apply Safe.onlyIf
    · intro _
      apply Safe.ite
      · intro _
        apply safe_setBridge
        refine (safe_modTimer hH (R := fun _ _ ↦ True) fun _ ↦ trivial).andThen ?_
        intro _ _ _
        exact .update trivial
      · intro _
        have hnotify : Safe F (onlyIf (!w.br.topologyChangeDetected) do
            stpTransmitTcn H W
            modTimer H w.br.tcnTimer w.br.bridgeHelloTime) w fun _ _ ↦ True := by
          apply Safe.onlyIf
          · intro _
            refine (stpTransmitTcn_safe hw).andThen ?_
            intro _ _ _
            exact safe_modTimer hH fun _ ↦ trivial
          · intro _
            trivial
        refine hnotify.andThen ?_
        intro _ _ _
        exact .update trivial
    · intro _
      trivial
  exact hsafe.1

theorem stpConfigBpduGeneration_safe (hw : Ready F w.br) :
    Safe F (stpConfigBpduGeneration H W) w fun _ w' ↦ Quiet W w w' := by
  refine safe_forPorts (I := fun _ w' ↦ Quiet W w w') ?_ .refl
  intro k hk w' hquiet
  obtain ⟨q, hq, -⟩ := entry_of_tree_eq hquiet.tree.symm (List.getElem?_eq_getElem hk)
  apply safe_port hq
  apply safe_bridge
  apply Safe.onlyIf
  · intro hd
    refine (stpTransmitConfig_safe hH (hw.of_tree_eq hquiet.tree) hq (.inr hd)).mono ?_
    intro _ w'' h
    exact hquiet.trans h
  · intro _
    exact hquiet

theorem stpBecomeRootBridge_safe (hw : Ready F w.br) :
    Safe F (stpBecomeRootBridge H W) w fun _ w' ↦
      Quiet W { w with br := w.br.setTimes w.br.ownTimes } w' := by
  have htimes : Ready F (w.br.setTimes w.br.ownTimes) := hw.setTimes _
  apply safe_setBridge
  refine (stpTopologyChangeDetection_safe hH htimes).andThen ?_
  intro _ w₁ hn
  apply safe_bridge
  refine (safe_delTimer hH (R := fun _ w' ↦ Quiet W { w with br := w.br.setTimes w.br.ownTimes } w')
    fun env ↦ hn.quiet.env env).andThen ?_
  intro _ w₂ h₂
  refine (stpConfigBpduGeneration_safe hH (htimes.of_tree_eq h₂.tree)).andThen ?_
  intro _ w₃ h₃
  apply safe_modTimer hH
  intro env
  exact (h₂.trans h₃).env env

omit hH in
theorem stpTransmitTcn_quiet (hw : Ready F w.br) :
    Safe F (stpTransmitTcn H W) w fun _ w' ↦ Quiet W w w' := by
  refine (stpTransmitTcn_safe hw).mono ?_
  rintro _ w' (rfl | ⟨n, smac, rfl⟩)
  · exact .refl
  · refine ⟨rfl, fun _ ↦ rfl, fun i q hq hp ↦ ⟨q, hq, .inl hp⟩, [_], rfl, ?_⟩
    intro x hx
    exact .inl ⟨smac, by rw [List.mem_singleton.mp hx]⟩

theorem ceaseToBeRoot_safe (hw : Ready F w.br) :
    Safe F (ceaseToBeRoot H W) w fun _ w' ↦ Quiet W w w' := by
  have hdel : ∀ t w', Quiet W w w' → Safe F (delTimer H t) w' fun _ w' ↦ Quiet W w w' :=
    fun t w' h ↦ safe_delTimer hH fun env ↦ h.env env
  apply safe_bridge
  refine (hdel _ w .refl).andThen ?_
  intro _ w₁ h₁
  apply Safe.onlyIf
  · intro _
    refine (hdel _ w₁ h₁).andThen ?_
    intro _ w₂ h₂
    refine (stpTransmitTcn_quiet (hw.of_tree_eq h₂.tree)).andThen ?_
    intro _ w₃ h₃
    apply safe_modTimer hH
    intro env
    exact (h₂.trans h₃).env env
  · intro _
    exact h₁

theorem receivedOnRootPort_safe (bpdu : StpBpdu κ) (hw : Ready F w.br) :
    Safe F (receivedOnRootPort H W bpdu) w fun _ w' ↦
      Quiet W { w with br := w.br.setTimes (bpdu.times w.br) } w' := by
  have htimes : Ready F (w.br.setTimes (bpdu.times w.br)) := hw.setTimes _
  apply safe_setBridge
  have hset : Quiet W { w with br := w.br.setTimes (bpdu.times w.br) }
      { w with br := { w.br with
        maxAge := bpdu.maxAge.setWidth 32
        helloTime := bpdu.helloTime.setWidth 32
        forwardDelay := bpdu.forwardDelay.setWidth 32
        topologyChange := bpdu.flags &&& tcBit == tcBit } } := .of_br _ rfl rfl
  refine (stpConfigBpduGeneration_safe hH (htimes.of_tree_eq hset.tree)).andThen ?_
  intro _ w₁ h₁
  apply Safe.onlyIf
  · intro _
    apply safe_setBridge
    apply safe_bridge
    apply safe_delTimer hH
    intro env
    exact ((hset.trans h₁).trans
      (.of_br { w₁.br with topologyChangeDetected := false } rfl rfl)).env env
  · intro _
    exact hset.trans h₁

theorem stpReceivedTcnBpdu_safe {p : ℕ} {q : StpPortEntry κ} (hq : w.br.portList[p]? = some q)
    (hlive : q.state ≠ .disabled) (hw : Ready F w.br) :
    Safe F (stpReceivedTcnBpdu H W p) w fun _ w' ↦ Quiet W w w' := by
  apply safe_port hq
  apply safe_bridge
  apply Safe.onlyIf
  · intro hd
    refine (stpTopologyChangeDetection_safe hH hw).andThen ?_
    intro _ w₁ hn
    have hq₁ : w₁.br.portList[p]? = some q := by rw [hn.br]; exact hq
    have hd₁ : stpIsDesignatedPort w₁.br q := by rw [hn.br]; exact hd
    apply safe_setPort
    have hack : Quiet W w₁ (w₁.modifyPort p ({ · with topologyChangeAck := true })) :=
      .of_port hq₁ rfl .inl
    have hentry : (w₁.modifyPort p ({ · with topologyChangeAck := true })).br.portList[p]? =
        some { q with topologyChangeAck := true } := by
      simp [World.modifyPort, hq₁]
    have hquiet := hn.quiet.trans hack
    refine (stpTransmitConfig_safe hH (hw.of_tree_eq hquiet.tree) hentry (.inr ⟨hlive, hd₁⟩)).mono
      ?_
    intro _ w' h
    exact hquiet.trans h
  · intro _
    exact .refl

end Talk

end Layer3Switch.Stp
