import Layer3Switch.Stp.Traces
import Layer3Switch.Timers.InUse

namespace Layer3Switch.Stp

open Lib Lib.Bytes
open Timers (U32 TimerId TimerMgr InUse Gone Revocable)

/-- The timers in `l` are distinct, and no other is in use. -/
structure Stocked (l : List TimerRef) (s : TimerMgr) : Prop where
  inUse : InUse (fun i ↦ some i ∈ l) s
  apart : Apart l

section Stocked

variable {l l' : List TimerRef} {s s' : TimerMgr} {e : Endian} {stackByte : U8} {t : TimerRef}
  {secs : U32}

theorem Apart.perm (h : Apart l) (hl : l.Perm l') : Apart l' :=
  hl.pairwise h fun hR heq ↦ heq.trans (hR heq.symm)

theorem Stocked.perm (h : Stocked l s) (hl : l.Perm l') : Stocked l' s :=
  ⟨h.inUse.congr fun _ ↦ hl.mem_iff.symm, h.apart.perm hl⟩

theorem Stocked.modTimer (h : Stocked l s) (ht : t ∈ l)
    (henv : (timerHost e stackByte).modTimer t secs s = some s') : Stocked l s' :=
  ⟨h.inUse.modTimer (fun _ hi ↦ hi ▸ ht) henv, h.apart⟩

theorem Stocked.delTimer (h : Stocked l s)
    (henv : (timerHost e stackByte).delTimer t s = some s') : Stocked l s' := by
  obtain ⟨i, -, hi⟩ := Option.bind_eq_some_iff.mp henv
  exact ⟨h.inUse.delTimer hi, h.apart⟩

theorem setupTimers_refs (hs : List TimerHandler) :
    (setupTimers (timerHost e stackByte) hs s).2.refs = s.refs := by
  induction hs generalizing s with
  | nil => rfl
  | cons t hs ih => exact ih.trans (Timers.setupTimer_refs _ _ _)

theorem Stocked.setupTimers (h : Stocked l s) (hs : List TimerHandler) :
    Stocked ((setupTimers (timerHost e stackByte) hs s).1 ++ l)
      (setupTimers (timerHost e stackByte) hs s).2 := by
  obtain ⟨hwf, -, hapart, hnew, hkeep⟩ := setupTimers_apart e stackByte hs h.inUse.wf
  refine ⟨⟨hwf, ?_, ?_⟩, ?_⟩
  · intro x hx
    exact List.mem_append_right _ (h.inUse.node x (setupTimers_refs hs ▸ hx))
  · intro i hi
    obtain hi | hi := List.mem_append.mp hi
    · exact (hnew i hi).2
    · exact hkeep i (h.inUse.lasting i hi)
  · refine List.pairwise_append.mpr ⟨hapart, h.apart, ?_⟩
    intro t ht t' ht' heq
    subst heq
    cases t with
    | none => rfl
    | some i =>
      obtain ⟨p, hp, -⟩ := h.inUse.lasting i ht'
      exact absurd (h.inUse.wf.lt_of_some hp) (Nat.not_lt.mpr (hnew i ht).1)

end Stocked

variable {κ Φ : Type} {e : Endian} {stackByte : U8} {O : List TimerRef}

def Own (O : List TimerRef) (w : World κ TimerMgr Φ) : Prop := Stocked (w.br.timers ++ O) w.env

section Own

variable {w w' : World κ TimerMgr Φ}

theorem Own.inUse (h : Own O w) : InUse (fun i ↦ some i ∈ w.br.timers ++ O) w.env := Stocked.inUse h

theorem Own.apart (h : Own O w) : Apart (w.br.timers ++ O) := Stocked.apart h

theorem Own.mine (h : Own O w) : Apart w.br.timers := (List.pairwise_append.mp h.apart).1

theorem Own.ne {t : TimerRef} {i : TimerId} (h : Own O w) (ht : t ∈ O)
    (hi : some i ∈ w.br.timers) : t ≠ some i := by
  intro heq
  exact Option.some_ne_none i ((List.pairwise_append.mp h.apart).2.2 _ hi t ht heq.symm)

theorem Own.congr (h : Own O w) (henv : w'.env = w.env) (htimers : w'.br.timers = w.br.timers) :
    Own O w' := by
  rw [Own, henv, htimers]
  exact h

theorem Own.create [OfNat κ 20000] (h : Own O w) (addr : MacAddress) (portNo : U32) :
    Own O (stpCreatePort (timerHost e stackByte) addr portNo w).1 := by
  refine (Stocked.setupTimers h [.messageAge portNo, .forwardDelay portNo, .hold portNo]).perm ?_
  rw [stpCreatePort_eq, ← newPort_eq (κ := κ) _ addr]
  simp only [StpInstance.timers, List.flatMap_append, List.flatMap_singleton, ← List.append_assoc]
  refine List.Perm.append_right _ ?_
  rw [List.append_assoc]
  exact List.perm_append_comm

section Closed

variable [Add κ] [LT κ] [DecidableLT κ] [OfNat κ 0] {W : Wire κ Φ} {rcv : U32 → StpBpdu κ → Prop}

theorem closed_own (O : List TimerRef) :
    Closed (timerHost e stackByte) W rcv (Own (κ := κ) (Φ := Φ) O) := by
  intro w w' hc h
  have htimers := timers_of_fixed hc.fixed
  cases hc with
  | env env hcall =>
    cases hcall with
    | mod timer secs hmem henv => exact Stocked.modTimer h (List.mem_append_left _ hmem) henv
    | del timer _ henv => exact Stocked.delTimer h henv
  | _ => exact h.congr rfl htimers

theorem stable_own (O : List TimerRef) :
    Stable (timerHost e stackByte) W (fun _ _ ↦ True) (Own (κ := κ) (Φ := Φ) O) :=
  (closed_own O).stable

end Closed

end Own

/-- `del_timer` would find every node of a timer of the port, and there are none
where it is not called. -/
structure Calm (s : TimerMgr) (q : StpPortEntry κ) : Prop where
  revocable : ∀ i, some i ∈ q.timers → Revocable s i
  delay : q.state = .blocking → ∀ i, q.forwardDelayTimer = some i → Gone s i
  idle : q.state = .disabled → ∀ i, some i ∈ q.timers → Gone s i

theorem forall_timers_iff {l : List TimerRef} {Q : TimerId → Prop} :
    (∀ t ∈ l, ∀ i ∈ t, Q i) ↔ ∀ i, some i ∈ l → Q i :=
  ⟨fun h i hi ↦ h (some i) hi i rfl, fun h _ ht i hi ↦ h i (hi ▸ ht)⟩

theorem calm_iff {s : TimerMgr} {q : StpPortEntry κ} :
    (∀ t ∈ q.timers, ∀ i ∈ t, Revocable s i) ∧
      (q.state = .blocking → ∀ i ∈ q.forwardDelayTimer, Gone s i) ∧
      (q.state = .disabled → ∀ t ∈ q.timers, ∀ i ∈ t, Gone s i) ↔ Calm s q := by
  rw [forall_timers_iff, forall_timers_iff]
  exact ⟨fun h ↦ ⟨h.1, h.2.1, h.2.2⟩, fun h ↦ ⟨h.revocable, h.delay, h.idle⟩⟩

instance (s : TimerMgr) (q : StpPortEntry κ) : Decidable (Calm s q) := decidable_of_iff _ calm_iff

/-- All ports are calm, and with `d` the first one is disabled. -/
structure Calmed (O : List TimerRef) (d : Prop) (w : World κ TimerMgr Φ) : Prop where
  own : Own O w
  calm : ∀ q ∈ w.br.portList, Calm w.env q
  head : d → ∀ q, w.br.portList[0]? = some q → q.state = .disabled

def StpPortEntry.core (q : StpPortEntry κ) : PortState × List TimerRef := (q.state, q.timers)

section Calmed

variable {w w' : World κ TimerMgr Φ} {d : Prop} {p : ℕ} {q q' : StpPortEntry κ} {i : TimerId}
  {t : TimerRef} {secs : U32} {env s s' : TimerMgr}

theorem forwardDelay_mem_timers (q : StpPortEntry κ) : q.forwardDelayTimer ∈ q.timers := by
  simp [StpPortEntry.timers]

theorem Calm.congr (h : Calm s q) (hcore : q'.core = q.core) : Calm s q' := by
  obtain ⟨hstate, htimers⟩ := Prod.mk.inj hcore
  have hdelay : q'.forwardDelayTimer = q.forwardDelayTimer :=
    congrArg (fun l ↦ l.getD 1 none) htimers
  refine ⟨?_, ?_, ?_⟩
  · rw [htimers]
    exact h.revocable
  · rw [hstate, hdelay]
    exact h.delay
  · rw [hstate, htimers]
    exact h.idle

theorem Calm.frame (h : Calm s q) (hr : ∀ i, some i ∈ q.timers → Revocable s i → Revocable s' i)
    (hg : ∀ i, some i ∈ q.timers → Gone s i → Gone s' i) : Calm s' q where
  revocable i hi := hr i hi (h.revocable i hi)
  delay hs i hi := hg i (hi ▸ forwardDelay_mem_timers q) (h.delay hs i hi)
  idle hs i hi := hg i hi (h.idle hs i hi)

theorem Calm.modTimer_ne (h : Calm s q) (hne : ∀ i, some i ∈ q.timers → t ≠ some i)
    (henv : (timerHost e stackByte).modTimer t secs s = some env) : Calm env q :=
  h.frame (fun i hi hr ↦ hr.modTimer_ne (hne i hi) henv) fun i hi hg ↦
    hg.modTimer_ne (hne i hi) henv

theorem Calm.delTimer (h : Calm s q) (hs : Timers.Wf s)
    (henv : (timerHost e stackByte).delTimer t s = some env) : Calm env q := by
  obtain ⟨j, -, hj⟩ := Option.bind_eq_some_iff.mp henv
  refine h.frame ?_ fun i _ hg ↦ hg.delTimer hj
  intro i _ hr
  by_cases hji : j = i
  · subst hji
    exact (hr.delTimer hs hj).revocable
  · exact hr.delTimer_ne hs hji hj

theorem Calm.setupTimer (h : Calm s q) (hq : ∀ i, some i ∈ q.timers → Timers.Lasting s i)
    (hs : Timers.Wf s) (handler : TimerHandler) :
    Calm ((timerHost e stackByte).setupTimer handler s).1 q := by
  refine h.frame ?_ ?_
  · intro i hi hr
    obtain ⟨t, ht, -⟩ := hq i hi
    exact hr.setupTimer (hs.lt_of_some ht) _ _ _
  · intro i _ hg
    exact hg.setupTimer _ _ _

theorem Calmed.congr (h : Calmed O d w) (henv : w'.env = w.env)
    (htimers : w'.br.timers = w.br.timers)
    (hcore : w'.br.portList.map StpPortEntry.core = w.br.portList.map StpPortEntry.core) :
    Calmed O d w' := by
  refine ⟨h.own.congr henv htimers, ?_, ?_⟩
  · intro q' hq'
    obtain ⟨q, hq, hqc⟩ := List.mem_map.mp (hcore ▸ List.mem_map_of_mem hq')
    exact henv ▸ (h.calm q hq).congr hqc.symm
  · intro hd q' hq'
    have hq := congrArg (fun l ↦ l[0]?) hcore
    simp only [List.getElem?_map, hq', Option.map_some] at hq
    obtain ⟨q, hq, hqc⟩ := Option.map_eq_some_iff.mp hq.symm
    exact (congrArg Prod.fst hqc).symm.trans (h.head hd q hq)

theorem Calmed.delTimer (h : Calmed O d w)
    (henv : (timerHost e stackByte).delTimer t w.env = some env) :
    Calmed O d { w with env := env } :=
  ⟨Stocked.delTimer h.own henv, fun q hq ↦ (h.calm q hq).delTimer h.own.inUse.wf henv, h.head⟩

theorem Calmed.gone (h : Calmed O d w) (hq : q ∈ w.br.portList) (ht : t ∈ q.timers)
    (henv : (timerHost e stackByte).delTimer t w.env = some env) (hi : t = some i) :
    Gone env i := by
  subst hi
  exact ((h.calm q hq).revocable i ht).delTimer h.own.inUse.wf henv

theorem gone_delTimer (hg : Gone s i)
    (henv : (timerHost e stackByte).delTimer t s = some env) : Gone env i := by
  obtain ⟨j, -, hj⟩ := Option.bind_eq_some_iff.mp henv
  exact hg.delTimer hj

theorem Calmed.modTimer_bridge (h : Calmed O d w)
    (ht : t ∈ [w.br.helloTimer, w.br.tcnTimer, w.br.topologyChangeTimer])
    (henv : (timerHost e stackByte).modTimer t secs w.env = some env) :
    Calmed O d { w with env := env } := by
  refine ⟨Stocked.modTimer h.own (List.mem_append_left _ (List.mem_append_left _ ht)) henv, ?_,
    h.head⟩
  intro q hq
  refine (h.calm q hq).modTimer_ne ?_ henv
  intro i hi heq
  exact h.own.mine.bridge hq hi (heq ▸ ht)

theorem Calmed.modTimer_port (h : Calmed O d w) (hq : q ∈ w.br.portList) (ht : t ∈ q.timers)
    (hgone : ∀ i, t = some i → Gone w.env i) (hs : q.state ≠ .disabled)
    (hdelay : ∀ i, t = some i → q.forwardDelayTimer = some i → q.state ≠ .blocking)
    (henv : (timerHost e stackByte).modTimer t secs w.env = some env) :
    Calmed O d { w with env := env } := by
  have hmem : t ∈ w.br.timers := List.mem_append_right _ (List.mem_flatMap.mpr ⟨q, hq, ht⟩)
  refine ⟨Stocked.modTimer h.own (List.mem_append_left _ hmem) henv, ?_, h.head⟩
  intro q' hq'
  have hcalm := h.calm q' hq'
  by_cases hmine : ∃ i, t = some i ∧ some i ∈ q'.timers
  case neg => exact hcalm.modTimer_ne (fun i hi heq ↦ hmine ⟨i, heq, hi⟩) henv
  obtain ⟨i, rfl, hi⟩ := hmine
  obtain rfl := h.own.mine.entry_eq hq hq' ht hi
  refine ⟨?_, ?_, fun hd ↦ absurd hd hs⟩
  · intro j hj
    by_cases hji : some i = some j
    · obtain rfl := Option.some.inj hji
      exact (hgone i rfl).modTimer henv
    · exact (hcalm.revocable j hj).modTimer_ne hji henv
  · intro hb j hj
    by_cases hji : some i = some j
    · exact absurd hb (hdelay i rfl (hj.trans hji.symm))
    · exact (hcalm.delay hb j hj).modTimer_ne hji henv

theorem Calmed.modifyPort (h : Calmed O d w) {f : StpPortEntry κ → StpPortEntry κ}
    (hq : w.br.portList[p]? = some q) (hfixed : (f q).fixed = q.fixed)
    (hblock : (f q).state = .blocking → ∀ i, q.forwardDelayTimer = some i → Gone w.env i)
    (hdis : (f q).state = .disabled → ∀ i, some i ∈ q.timers → Gone w.env i)
    (hhead : d → p = 0 → (f q).state = .disabled) : Calmed O d (w.modifyPort p f) := by
  have hkeep : (w.modifyPort p f).br.fixed = w.br.fixed := by
    refine modifyPort_fixed ?_
    intro q' hq'
    obtain rfl := Option.some.inj (hq.symm.trans hq')
    exact hfixed
  have htimers : (f q).timers = q.timers := congrArg (fun x ↦ x.2.2) hfixed
  refine ⟨h.own.congr rfl (timers_of_fixed hkeep), ?_, ?_⟩
  · intro q' hq'
    obtain ⟨j, hj⟩ := List.mem_iff_getElem?.mp hq'
    simp only [World.modifyPort, List.getElem?_modify, Option.map_eq_map,
      Option.map_eq_some_iff] at hj
    obtain ⟨q₀, hq₀, rfl⟩ := hj
    have hcalm := h.calm q₀ (List.mem_of_getElem? hq₀)
    split
    · rename_i hpj
      obtain rfl := Option.some.inj (hq.symm.trans (hpj ▸ hq₀))
      have hdelay : (f q).forwardDelayTimer = q.forwardDelayTimer :=
        congrArg (fun l ↦ l.getD 1 none) htimers
      refine ⟨?_, ?_, ?_⟩
      · rw [htimers]
        exact hcalm.revocable
      · rw [hdelay]
        exact hblock
      · rw [htimers]
        exact hdis
    · exact hcalm
  · intro hd q' hq'
    simp only [World.modifyPort, List.getElem?_modify, Option.map_eq_map,
      Option.map_eq_some_iff] at hq'
    obtain ⟨q₀, hq₀, rfl⟩ := hq'
    split
    · rename_i hp
      subst hp
      obtain rfl := Option.some.inj (hq.symm.trans hq₀)
      exact hhead hd rfl
    · exact h.head hd q₀ hq₀

theorem Calmed.remove (h : Calmed O True w) :
    Calmed O False { w with br := { w.br with portList := w.br.portList.tail } } := by
  have hsub : ({ w.br with portList := w.br.portList.tail } : StpInstance κ).timers.Sublist
      w.br.timers :=
    (List.Sublist.refl _).append ((List.tail_sublist _).flatMap _)
  have hall := hsub.append (List.Sublist.refl O)
  refine ⟨⟨?_, h.own.apart.sublist hall⟩,
    fun q hq ↦ h.calm q (List.mem_of_mem_tail hq), fun hd ↦ hd.elim⟩
  refine h.own.inUse.give_up (fun i hi ↦ hall.mem hi) ?_
  intro i hi
  obtain hi | hi := List.mem_append.mp hi
  case inr => exact .inl (List.mem_append_right _ hi)
  obtain hb | hports := List.mem_append.mp hi
  · exact .inl (List.mem_append_left _ (List.mem_append_left _ hb))
  obtain ⟨q, hq, hqi⟩ := List.mem_flatMap.mp hports
  cases hl : w.br.portList with
  | nil =>
    rw [hl] at hq
    cases hq
  | cons q₀ l =>
    rw [hl] at hq
    obtain rfl | hq := List.mem_cons.mp hq
    · have hq₀ : w.br.portList[0]? = some q := by rw [hl]; rfl
      exact .inr ((h.calm q (List.mem_of_getElem? hq₀)).idle (h.head trivial q hq₀) i hqi)
    · refine .inl (List.mem_append_left _ (List.mem_append_right _ ?_))
      exact List.mem_flatMap.mpr ⟨q, hq, hqi⟩

section Loop

variable {W : Wire κ Φ}

theorem Calmed.transmit {a : Attempt Φ} (h : Calmed O d w) (hq : w.br.portList[p]? = some q)
    (hs : q.state ≠ .disabled) (ha : Attempts (timerHost e stackByte) W p q w a w') :
    Calmed O d w' := by
  have hmem := List.mem_of_getElem? hq
  have hset : ∀ (f : StpPortEntry κ → StpPortEntry κ) (w₁ : World κ TimerMgr Φ),
      (∀ q, (f q).core = q.core ∧ (f q).fixed = q.fixed) → Calmed O d w₁ →
      Calmed O d (w₁.modifyPort p f) := by
    intro f w₁ hf h₁
    refine h₁.congr rfl (timers_of_fixed (modifyPort_fixed fun q _ ↦ (hf q).2)) ?_
    exact map_modify_of_eq fun q _ ↦ (hf q).1
  have hstart : ∀ env, (timerHost e stackByte).timerPending q.holdTimer w.env = some false →
      (timerHost e stackByte).modTimer q.holdTimer 1 w.env = some env →
      Calmed O d { w with env := env } := by
    intro env hpending henv
    refine h.modTimer_port hmem (hold_mem_timers q) ?_ hs ?_ henv
    · intro i hi
      rw [hi] at hpending
      obtain ⟨t, ht, hrun⟩ := Option.map_eq_some_iff.mp hpending
      exact ((h.calm q hmem).revocable i (hi ▸ hold_mem_timers q)).gone ht hrun
    · intro i hi hdelay
      exact absurd hi ((h.own.mine.entry hmem).2 hdelay)
  cases ha with
  | held _ => exact hset _ w (fun _ ↦ ⟨rfl, rfl⟩) h
  | aged _ _ _ _ => exact h
  | sent age t env hpending _ _ _ henv =>
    exact hset _ (({ w with env := env } : World κ TimerMgr Φ).send _ _) (fun _ ↦ ⟨rfl, rfl⟩)
      ((hstart env hpending henv).congr rfl rfl rfl)
  | dropped _ env hpending _ _ _ henv =>
    exact hset _ { w with env := env } (fun _ ↦ ⟨rfl, rfl⟩) (hstart env hpending henv)

variable [Add κ] [LT κ] [DecidableLT κ] [OfNat κ 0]

theorem stpConfigurationUpdate_core {br br' : StpInstance κ}
    (h : stpConfigurationUpdate e br = some br') :
    br'.portList.map StpPortEntry.core = br.portList.map StpPortEntry.core := by
  obtain ⟨br₁, -, -, -, rfl⟩ := stpConfigurationUpdate_cases h
  rw [List.map_map]
  refine List.map_congr_left ?_
  intro q _
  simp only [Function.comp, selectDesignatedPort]
  split <;> rfl

theorem outward_calmed (O : List TimerRef) (d : Prop) :
    Outward (timerHost e stackByte) W (Calmed (κ := κ) (Φ := Φ) O d) where
  start _ _ _ _ ht henv h := h.modTimer_bridge ht henv
  stop _ _ _ _ henv h := h.delTimer henv
  transmit _ _ _ _ _ hq hs ha h := h.transmit hq hs ha
  elect _ _ hbr h := h.congr rfl (timers_of_fixed (stpConfigurationUpdate_fixed hbr))
    (stpConfigurationUpdate_core hbr)
  designate _ _ h := h.congr rfl (timers_of_fixed (modifyPort_fixed fun _ _ ↦ rfl))
    (map_modify_of_eq fun _ _ ↦ rfl)
  bridge w f hf h := by
    rw [hf.kept]
    exact h.congr rfl rfl rfl
  sendTcn _ _ _ h := h.congr rfl rfl rfl

theorem stpMakeBlocking_calmed (p : ℕ) (h : Calmed O d w) :
    Ends (stpMakeBlocking (timerHost e stackByte) W p) w fun _ w' ↦ Calmed O d w' := by
  apply Ends.bind
  apply ends_reads
  intro q hq
  apply Ends.onlyIf
  · intro hs
    have hdetect : Ends (onlyIf (q.state = .forwarding ∨ q.state = .learning)
        (stpTopologyChangeDetection (timerHost e stackByte) W)) w fun _ w' ↦
          Calmed O d w' ∧ w'.br.portList = w.br.portList := by
      apply Ends.onlyIf
      · intro _
        refine ((stpTopologyChangeDetection_outward (outward_calmed O d) h).and
          stpTopologyChangeDetection_ends).mono ?_
        intro _ w' h'
        exact ⟨h'.1, by rw [h'.2.br]⟩
      · intro _
        exact ⟨h, rfl⟩
    refine hdetect.andThen ?_
    intro _ w₁ h₁
    rw [← h₁.2] at hq
    apply Ends.bind
    apply Ends.update
    apply ends_callEnv
    intro env henv
    -- stopping the timer first leads to the same state
    refine Calmed.modifyPort (w := { w₁ with env := env }) (h₁.1.delTimer henv) hq rfl ?_ nofun ?_
    · intro _ i hi
      exact h₁.1.gone (List.mem_of_getElem? hq) (forwardDelay_mem_timers q) henv hi
    · intro hd hp
      subst hp
      exact absurd (h₁.1.head hd q hq) hs.1
  · intro _
    exact h

theorem stpMakeForwarding_calmed (p : ℕ) (h : Calmed O d w) :
    Ends (stpMakeForwarding (timerHost e stackByte) W p) w fun _ w' ↦ Calmed O d w' := by
  apply Ends.bind
  apply ends_reads
  intro q hq
  apply Ends.bind
  apply ends_bridge
  apply Ends.onlyIf
  · intro hs
    have hset : ∀ st : PortState, st ≠ .blocking → st ≠ .disabled →
        Calmed O d (w.modifyPort p ({ · with state := st })) := by
      intro st hblock hdis
      refine h.modifyPort hq rfl (fun hst ↦ absurd hst hblock) (fun hst ↦ absurd hst hdis) ?_
      intro hd hp
      subst hp
      cases hs.symm.trans (h.head hd q hq)
    apply Ends.ite
    · intro _
      apply Ends.bind
      apply Ends.update
      refine (stpTopologyChangeDetection_outward (outward_calmed O d)
        (hset .forwarding nofun nofun)).andThen ?_
      intro _ w₂ h₂
      apply ends_callEnv
      intro env henv
      exact h₂.delTimer henv
    · intro _
      apply Ends.bind
      apply Ends.update
      apply ends_callEnv
      intro env henv
      have hst : (if w.br.stpEnabled then PortState.listening else .learning) ≠ .blocking ∧
          (if w.br.stpEnabled then PortState.listening else .learning) ≠ .disabled := by
        split <;> exact ⟨nofun, nofun⟩
      have hq' : (w.modifyPort p ({ · with
          state := if w.br.stpEnabled then .listening else .learning })).br.portList[p]? =
          some { q with state := if w.br.stpEnabled then .listening else .learning } := by
        simp [World.modifyPort, hq]
      refine (hset _ hst.1 hst.2).modTimer_port (List.mem_of_getElem? hq')
        (forwardDelay_mem_timers q) ?_ hst.2 (fun _ _ _ ↦ hst.1) henv
      exact (h.calm q (List.mem_of_getElem? hq)).delay hs
  · intro _
    exact h

theorem selectPortState_calmed (p : ℕ) (h : Calmed O d w) :
    Ends (selectPortState (timerHost e stackByte) W p) w fun _ w' ↦ Calmed O d w' := by
  have hsettle : Calmed O d
      (w.modifyPort p ({ · with configPending := false, topologyChangeAck := false })) :=
    h.congr rfl (timers_of_fixed (modifyPort_fixed fun _ _ ↦ rfl)) (map_modify_of_eq fun _ _ ↦ rfl)
  apply Ends.bind
  apply ends_reads
  intro q hq
  apply Ends.bind
  apply ends_bridge
  apply Ends.onlyIf
  · intro _
    apply Ends.ite
    · intro _
      apply Ends.bind
      apply Ends.update
      exact stpMakeForwarding_calmed p hsettle
    · intro _
      apply Ends.ite
      · intro _
        apply Ends.bind
        apply ends_callEnv
        intro env henv
        exact stpMakeForwarding_calmed p (h.delTimer henv)
      · intro _
        apply Ends.bind
        apply Ends.update
        exact stpMakeBlocking_calmed p hsettle
  · intro _
    exact h

theorem becomeRootIfElected_calmed (wasRoot : Bool) (h : Calmed O d w) :
    Ends (becomeRootIfElected (timerHost e stackByte) W wasRoot) w fun _ w' ↦ Calmed O d w' := by
  refine (configurationUpdate_outward (W := W) (outward_calmed O d) h).andThen ?_
  intro _ w h
  refine (ends_forPorts (fun p _ h ↦ selectPortState_calmed p h) h).andThen ?_
  intro _ w h
  apply Ends.bind
  apply ends_bridge
  exact .onlyIf (fun _ ↦ stpBecomeRootBridge_outward (outward_calmed O d) h) fun _ ↦ h

theorem stpDisablePort_calmed (h : Calmed O False w) :
    Ends (stpDisablePort (timerHost e stackByte) W 0) w fun _ w' ↦ Calmed O True w' := by
  have hout : Outward (timerHost e stackByte) W (Calmed (κ := κ) (Φ := Φ) O False) :=
    outward_calmed O False
  have h₁ := hout.designate w 0 h
  apply Ends.bind
  apply ends_bridge
  apply Ends.bind
  apply Ends.update
  generalize w.modifyPort 0 (stpBecomeDesignatedPort w.br) = w₁ at h₁
  apply Ends.bind
  apply Ends.update
  apply Ends.bind
  apply ends_reads
  intro q' hq'
  simp only [World.modifyPort, List.getElem?_modify_eq, Option.map_eq_map,
    Option.map_eq_some_iff] at hq'
  obtain ⟨q, hq, rfl⟩ := hq'
  have hmem := List.mem_of_getElem? hq
  apply Ends.bind
  apply ends_callEnv
  intro env₂ henv₂
  have h₂ := h₁.delTimer henv₂
  apply Ends.bind
  apply ends_callEnv
  intro env₃ henv₃
  have h₃ := h₂.delTimer henv₃
  apply Ends.bind
  apply ends_callEnv
  intro env₄ henv₄
  have h₄ := h₃.delTimer henv₄
  apply becomeRootIfElected_calmed
  -- stopping the timers first leads to the same state
  have hgone : ∀ i, some i ∈ q.timers → Gone env₄ i := by
    intro i hi
    simp only [StpPortEntry.timers, List.mem_cons, List.not_mem_nil, or_false] at hi
    obtain hi | hi | hi := hi
    · have hg := h₁.gone hmem (messageAge_mem_timers q) henv₂ hi.symm
      exact gone_delTimer (gone_delTimer hg henv₃) henv₄
    · exact gone_delTimer (h₂.gone hmem (forwardDelay_mem_timers q) henv₃ hi.symm) henv₄
    · exact h₃.gone hmem (hold_mem_timers q) henv₄ hi.symm
  have h₅ := h₄.modifyPort (f := ({ · with
      state := .disabled, topologyChangeAck := false, configPending := false,
      isOwnBpdu := false })) hq rfl (fun hb ↦ absurd hb PortState.noConfusion) (fun _ ↦ hgone)
      fun hd ↦ hd.elim
  refine ⟨h₅.own, h₅.calm, ?_⟩
  intro _ q' hq'
  simp only [World.modifyPort, List.getElem?_modify_eq, hq] at hq'
  obtain rfl := Option.some.inj hq'
  rfl

theorem stpDisable_calmed (h : Calmed O False w) :
    Ends (stpDisable (timerHost e stackByte) W) w fun _ w' ↦ Calmed O False w' := by
  have hloop : Ends (forPorts fun _ ↦ stpDisableHead (timerHost e stackByte) W) w fun _ w' ↦
      Calmed O False w' := by
    apply ends_forPorts _ h
    intro _ w h
    apply Ends.bind
    apply ends_reads
    intro q hq
    have hd : Ends (onlyIf (q.state ≠ .disabled) (stpDisablePort (timerHost e stackByte) W 0)) w
        fun _ w' ↦ Calmed O True w' := by
      refine .onlyIf (fun _ ↦ stpDisablePort_calmed h) fun hs ↦ ⟨h.own, h.calm, ?_⟩
      intro _ q' hq'
      obtain rfl := Option.some.inj (hq.symm.trans hq')
      exact not_not.mp hs
    refine hd.andThen ?_
    intro _ w h
    exact .update h.remove
  refine hloop.andThen ?_
  intro _ w h
  apply Ends.bind
  apply Ends.update
  apply Ends.bind
  apply ends_bridge
  apply Ends.bind
  apply ends_callEnv
  intro env₁ henv₁
  apply Ends.bind
  apply ends_callEnv
  intro env₂ henv₂
  apply ends_callEnv
  intro env₃ henv₃
  have h₁ := (h.delTimer henv₁).delTimer henv₂
  exact (h₁.delTimer henv₃).congr rfl rfl rfl

theorem stpSetState_own (h : Own O w) (hcalm : ∀ q ∈ w.br.portList, Calm w.env q) :
    Ends (stpSetState (timerHost e stackByte) W false) w fun _ w' ↦ Own O w' := by
  have hset : Ends (if false = true then stpEnable (timerHost e stackByte) W
      else stpDisable (timerHost e stackByte) W) w fun _ w' ↦ Calmed O False w' := by
    rw [if_neg Bool.false_ne_true]
    exact stpDisable_calmed ⟨h, hcalm, fun hd ↦ hd.elim⟩
  refine hset.andThen ?_
  intro _ w h
  exact .update (h.own.congr rfl rfl)

end Loop

end Calmed

end Layer3Switch.Stp
