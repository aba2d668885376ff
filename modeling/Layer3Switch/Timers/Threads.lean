import Layer3Switch.Timers.WellFormed

namespace Layer3Switch.Timers

open Lib Lib.Rbtree Function

def tmrServeTimers : U32 := 0x1

/-- Where the tick thread is: asleep, in `process_timers` for a wheel with the
count so far, or before `evt_snd`. -/
inductive TickPc where
  | idle
  | processing (w : Wheel) (timersExp : ℕ)
  | sending

/-- Where the bottom half is: before or in `evt_rx`, behind it, behind its
`list_empty`, before a node of the walk, or at the node that it serves with the
next one saved. -/
inductive BtmPc where
  | waiting
  | woken
  | entering
  | walking (pnode : NodeId)
  | serving (next : Option NodeId)
  deriving DecidableEq

/-- The timer manager with its two threads and the event word of the bottom half.
`appended` and `unlinked` list what went to `expd_tmrs` and what left it, and
`unsent` tells that a node was appended since the last `evt_snd`. -/
structure Threads where
  mgr : TimerMgr
  currEvt : U32
  tick : TickPc
  btm : BtmPc
  appended : List AppTimer
  unlinked : List AppTimer
  unsent : Bool

namespace Threads

def init : Threads := ⟨initTimerMgr, 0, .idle, .waiting, [], [], false⟩

def nextWheel (c : Clock) : Wheel → Option Wheel
  | .tick => if c.isNxtSecHappend then some .sec else none
  | .sec => if c.isNxtMinHappend then some .min else none
  | .min => if c.isNxtHrHappend then some .hrs else none
  | .hrs => none

def afterWheel (c : Clock) (timersExp : ℕ) (w : Wheel) : TickPc :=
  match nextWheel c w with
  | some w => .processing w timersExp
  | none => if timersExp ≠ 0 then .sending else .idle

inductive Event where
  | call (c : Timers.Event)
  | tickClock
  | tickNode
  | evtSnd
  | evtRx
  | btmHlf
  | walkFirst
  | walkServe
  | walkNext (mem : Bool)

def isCall : Timers.Event → Bool
  | .tick => false
  | .serve => false
  | .finish _ => false
  | _ => true

def tickClock (s : Threads) : Option Threads :=
  match s.tick with
  | .idle =>
    let mgr := { s.mgr with clk := s.mgr.clk.next }
    some { s with
      mgr := mgr
      tick := if timersPendingForService mgr then .processing .tick 0 else .idle }
  | _ => none

def tickNode (s : Threads) : Option Threads :=
  match s.tick with
  | .processing w timersExp =>
    match timerTreeWalk s.mgr w (s.mgr.clk.get w) with
    | none => some { s with tick := afterWheel s.mgr.clk timersExp w }
    | some ptmr =>
      (processTimer w ptmr s.mgr).map fun m ↦
        let new := m.expdTmrs.drop s.mgr.expdTmrs.length
        { s with
          mgr := m
          tick := .processing w (timersExp + 1)
          appended := s.appended ++ new
          unsent := s.unsent || !new.isEmpty }
  | _ => none

def evtSnd (s : Threads) : Option Threads :=
  match s.tick with
  | .sending =>
    some { s with currEvt := s.currEvt ||| tmrServeTimers, tick := .idle, unsent := false }
  | _ => none

def evtRx (s : Threads) : Option Threads :=
  match s.btm with
  | .waiting =>
    if s.currEvt &&& tmrServeTimers ≠ 0 then some { s with currEvt := 0, btm := .woken } else none
  | _ => none

def btmHlf (s : Threads) : Option Threads :=
  match s.btm with
  | .woken => some { s with btm := if s.mgr.expdTmrs.isEmpty then .waiting else .entering }
  | _ => none

def walkFirst (s : Threads) : Option Threads :=
  match s.btm with
  | .entering =>
    some { s with
      btm := match s.mgr.expdTmrs with
        | [] => .waiting
        | pnode :: _ => .walking pnode.id }
  | _ => none

def walkServe (s : Threads) : Option Threads :=
  match s.btm with
  | .walking pnode =>
    match s.mgr.expdTmrs.dropWhile fun n ↦ n.id ≠ pnode with
    | [] => none
    | ptmr :: rest =>
      match s.mgr.timers ptmr.timer with
      | none => none
      | some _ =>
        some { s with
          mgr := { s.mgr with serving := some ptmr }
          btm := .serving (rest.head?.map AppTimer.id) }
  | _ => none

def walkNext (mem : Bool) (s : Threads) : Option Threads :=
  match s.btm with
  | .serving next =>
    (finishTimer mem s.mgr).map fun m ↦
      { s with
        mgr := m
        unlinked := s.unlinked ++ s.mgr.serving.toList
        btm := match next with
          | none => .waiting
          | some pnode => .walking pnode }
  | _ => none

def step (s : Threads) : Event → Option Threads
  | .call c => if isCall c then (Timers.step s.mgr c).map fun m ↦ { s with mgr := m } else none
  | .tickClock => s.tickClock
  | .tickNode => s.tickNode
  | .evtSnd => s.evtSnd
  | .evtRx => s.evtRx
  | .btmHlf => s.btmHlf
  | .walkFirst => s.walkFirst
  | .walkServe => s.walkServe
  | .walkNext mem => s.walkNext mem

def Due (s : Threads) : Prop := s.currEvt &&& tmrServeTimers ≠ 0 ∨ s.unsent = true

def Sends (s : Threads) : Prop :=
  match s.tick with
  | .idle => s.unsent = false
  | .processing _ timersExp => s.unsent = true → timersExp ≠ 0
  | .sending => True

def Walks (s : Threads) : BtmPc → Prop
  | .waiting => s.mgr.expdTmrs ≠ [] → s.Due
  | .woken => True
  | .entering => s.mgr.expdTmrs ≠ []
  | .walking pnode => ∃ p rest, s.mgr.expdTmrs = p :: rest ∧ p.id = pnode
  | .serving next => ∃ p rest, s.mgr.expdTmrs = p :: rest ∧ s.mgr.serving = some p ∧
      (∀ pnode, next = some pnode → ∃ q rest', rest = q :: rest' ∧ q.id = pnode) ∧
      (next = none → rest ≠ [] → s.Due)

structure Watched (s : Threads) : Prop where
  log : s.appended = s.unlinked ++ s.mgr.expdTmrs
  sends : s.Sends
  walks : s.Walks s.btm

variable {s s' : Threads} {m m' : TimerMgr}

theorem Walks.grow {l : List AppTimer} {pc : BtmPc} (h : s.Walks pc)
    (hlist : s'.mgr.expdTmrs = s.mgr.expdTmrs ++ l) (hserving : s'.mgr.serving = s.mgr.serving)
    (hnew : l ≠ [] → s'.Due) (hdue : s.Due → s'.Due) : s'.Walks pc := by
  cases pc with
  | waiting =>
    intro hne
    by_cases hold : s.mgr.expdTmrs = []
    · rw [hlist, hold, List.nil_append] at hne
      exact hnew hne
    · exact hdue (h hold)
  | woken => trivial
  | entering =>
    intro hnil
    rw [hlist, List.append_eq_nil_iff] at hnil
    exact h hnil.1
  | walking pnode =>
    obtain ⟨p, rest, hp, hid⟩ := h
    exact ⟨p, rest ++ l, by rw [hlist, hp, List.cons_append], hid⟩
  | serving next =>
    obtain ⟨p, rest, hp, hserved, hnext, hlast⟩ := h
    refine ⟨p, rest ++ l, by rw [hlist, hp, List.cons_append], hserving.trans hserved, ?_, ?_⟩
    · intro pnode hpnode
      obtain ⟨q, rest', rfl, hq⟩ := hnext pnode hpnode
      exact ⟨q, rest' ++ l, rfl, hq⟩
    · intro hnone hne
      by_cases hold : rest = []
      · rw [hold, List.nil_append] at hne
        exact hnew hne
      · exact hdue (hlast hnone hold)

theorem processTimer_expdTmrs {w : Wheel} {n : AppTimer} (h : processTimer w n m = some m') :
    (∃ new, m'.expdTmrs = m.expdTmrs ++ new) ∧ m'.serving = m.serving := by
  unfold processTimer at h
  cases hclear : clearWheelTimer n m with
  | none =>
    rw [hclear] at h
    cases h
  | some n' =>
    rw [hclear] at h
    cases hdel : timerDel n.id (some w) m with
    | none =>
      simp only [hdel] at h
      cases h
    | some m₁ =>
      simp only [hdel] at h
      have hm₁ : m₁.expdTmrs = m.expdTmrs ∧ m₁.serving = m.serving := by
        unfold timerDel at hdel
        split at hdel
        · cases hdel
        · split at hdel
          · obtain rfl := Option.some.inj hdel
            exact ⟨rfl, rfl⟩
          · obtain ⟨-, hdel⟩ := Option.ite_none_right_eq_some.mp hdel
            obtain rfl := Option.some.inj hdel
            exact ⟨rfl, rfl⟩
      rw [← hm₁.1, ← hm₁.2]
      unfold timerExpiryAction at h
      split at h
      · split at h
        · cases h
        · obtain rfl := Option.some.inj h
          exact ⟨⟨[n'], rfl⟩, rfl⟩
      · unfold findTmrSlotAndPlace at h
        split at h
        · obtain rfl := Option.some.inj h
          exact ⟨⟨[], (List.append_nil _).symm⟩, rfl⟩
        · split at h
          · cases h
          · obtain rfl := Option.some.inj h
            exact ⟨⟨[], (List.append_nil _).symm⟩, rfl⟩

theorem call_expdTmrs {c : Timers.Event} (hc : isCall c = true) (h : Timers.step m c = some m') :
    m'.expdTmrs = m.expdTmrs ∧ m'.serving = m.serving := by
  cases step_cases h with
  | setupFail => exact ⟨rfl, rfl⟩
  | setup => exact ⟨rfl, rfl⟩
  | startFail => exact ⟨rfl, rfl⟩
  | start harm =>
    obtain ⟨-, rfl⟩ | ⟨w, t, -, rfl⟩ := armTimer_cases harm
    · exact ⟨rfl, rfl⟩
    · exact ⟨rfl, rfl⟩
  | modFail => exact ⟨rfl, rfl⟩
  | mod _ harm =>
    obtain ⟨-, rfl⟩ | ⟨w, t, -, rfl⟩ := armTimer_cases harm
    · exact ⟨rfl, rfl⟩
    · exact ⟨rfl, rfl⟩
  | stop _ hstop =>
    obtain ⟨p, -, ⟨rfl, -⟩ | ⟨a, w, r, -, -, -, -, rfl⟩⟩ := stopTimer_cases hstop
    · exact ⟨rfl, rfl⟩
    · exact ⟨rfl, rfl⟩
  | tick => cases hc
  | serve => cases hc
  | finish => cases hc

theorem finishTimer_expdTmrs {mem : Bool} {p : AppTimer} {rest : List AppTimer}
    (hp : m.expdTmrs = p :: rest) (hserved : m.serving = some p)
    (h : finishTimer mem m = some m') : m'.expdTmrs = rest := by
  unfold finishTimer timerRestart at h
  simp only [hserved, hp, List.eraseP_cons, beq_self_eq_true, cond_true] at h
  split at h
  · cases h
  · split_ifs at h <;> exact Option.some.inj h ▸ rfl

theorem Sends.afterWheel {c : Clock} {timersExp : ℕ} (w : Wheel)
    (h : s.unsent = true → timersExp ≠ 0) :
    Sends { s with tick := afterWheel c timersExp w } := by
  unfold Sends Threads.afterWheel
  cases nextWheel c w with
  | some w => exact h
  | none =>
    by_cases hzero : timersExp ≠ 0
    · simp only [if_pos hzero]
    · simp only [if_neg hzero]
      exact Bool.eq_false_iff.mpr fun hunsent ↦ hzero (h hunsent)

theorem Watched.call {c : Timers.Event} (h : s.Watched) (hstep : s.step (.call c) = some s') :
    s'.Watched := by
  obtain ⟨hc, hstep⟩ := Option.ite_none_right_eq_some.mp hstep
  obtain ⟨m, hm, rfl⟩ := Option.map_eq_some_iff.mp hstep
  obtain ⟨hlist, hserving⟩ := call_expdTmrs hc hm
  refine ⟨?_, h.sends, h.walks.grow (l := []) ?_ hserving (absurd rfl) id⟩
  · simp only [hlist]
    exact h.log
  · simp only [hlist, List.append_nil]

theorem Watched.tickClock (h : s.Watched) (hstep : s.tickClock = some s') : s'.Watched := by
  have hsends := h.sends
  unfold Threads.tickClock at hstep
  split at hstep
  · rename_i htick
    rw [Sends, htick] at hsends
    obtain rfl := Option.some.inj hstep
    refine ⟨h.log, ?_, h.walks.grow (l := []) (List.append_nil _).symm rfl (absurd rfl) id⟩
    unfold Sends
    by_cases hpending : timersPendingForService { s.mgr with clk := s.mgr.clk.next } = true
    · simp only [if_pos hpending, hsends]
      exact nofun
    · simp only [if_neg hpending, hsends]
  · cases hstep

theorem Watched.tickNode (h : s.Watched) (hstep : s.tickNode = some s') : s'.Watched := by
  have hsends := h.sends
  unfold Threads.tickNode at hstep
  split at hstep
  · rename_i w timersExp htick
    rw [Sends, htick] at hsends
    split at hstep
    · obtain rfl := Option.some.inj hstep
      exact ⟨h.log, Sends.afterWheel w hsends,
        h.walks.grow (l := []) (List.append_nil _).symm rfl (absurd rfl) id⟩
    · obtain ⟨m, hm, rfl⟩ := Option.map_eq_some_iff.mp hstep
      obtain ⟨⟨new, hlist⟩, hserving⟩ := processTimer_expdTmrs hm
      have hnew : m.expdTmrs.drop s.mgr.expdTmrs.length = new := by
        rw [hlist, List.drop_left]
      refine ⟨?_, fun _ ↦ Nat.succ_ne_zero _, h.walks.grow hlist hserving ?_ ?_⟩
      · simp only [hnew]
        rw [h.log, hlist, List.append_assoc]
      · intro hne
        refine .inr ?_
        simp only [hnew, Bool.or_eq_true, Bool.not_eq_true', List.isEmpty_eq_false_iff]
        exact .inr hne
      · refine Or.imp_right fun hunsent ↦ ?_
        simp only [hunsent, Bool.true_or]
  · cases hstep

theorem Watched.evtSnd (h : s.Watched) (hstep : s.evtSnd = some s') : s'.Watched := by
  unfold Threads.evtSnd at hstep
  split at hstep
  · obtain rfl := Option.some.inj hstep
    refine ⟨h.log, rfl, h.walks.grow (l := []) (List.append_nil _).symm rfl (absurd rfl) ?_⟩
    refine fun _ ↦ .inl ?_
    rw [BitVec.and_or_distrib_right]
    intro hzero
    exact absurd (BitVec.or_eq_zero_iff.mp hzero).2 (by decide)
  · cases hstep

theorem Watched.evtRx (h : s.Watched) (hstep : s.evtRx = some s') : s'.Watched := by
  unfold Threads.evtRx at hstep
  split at hstep
  · obtain ⟨-, hstep⟩ := Option.ite_none_right_eq_some.mp hstep
    obtain rfl := Option.some.inj hstep
    exact ⟨h.log, h.sends, trivial⟩
  · cases hstep

theorem Watched.btmHlf (h : s.Watched) (hstep : s.btmHlf = some s') : s'.Watched := by
  unfold Threads.btmHlf at hstep
  split at hstep
  · obtain rfl := Option.some.inj hstep
    refine ⟨h.log, h.sends, ?_⟩
    by_cases hlist : s.mgr.expdTmrs = []
    · simp only [hlist, List.isEmpty_nil, if_true]
      exact absurd hlist
    · have hempty : ¬s.mgr.expdTmrs.isEmpty = true := fun hnil ↦ hlist (List.isEmpty_iff.mp hnil)
      simp only [if_neg hempty]
      exact hlist
  · cases hstep

theorem Watched.walkFirst (h : s.Watched) (hstep : s.walkFirst = some s') : s'.Watched := by
  have hwalks := h.walks
  unfold Threads.walkFirst at hstep
  split at hstep
  · rename_i hbtm
    rw [hbtm] at hwalks
    obtain rfl := Option.some.inj hstep
    refine ⟨h.log, h.sends, ?_⟩
    cases hlist : s.mgr.expdTmrs with
    | nil => exact absurd hlist hwalks
    | cons n l => exact ⟨n, l, hlist, rfl⟩
  · cases hstep

theorem Watched.walkServe (h : s.Watched) (hstep : s.walkServe = some s') : s'.Watched := by
  have hwalks := h.walks
  unfold Threads.walkServe at hstep
  split at hstep
  · rename_i pnode hbtm
    rw [hbtm] at hwalks
    obtain ⟨p, rest, hp, rfl⟩ := hwalks
    have hdrop : s.mgr.expdTmrs.dropWhile (fun n ↦ n.id ≠ p.id) = p :: rest := by
      rw [hp, List.dropWhile_cons_of_neg]
      simp
    simp only [hdrop] at hstep
    split at hstep
    · cases hstep
    · obtain rfl := Option.some.inj hstep
      refine ⟨h.log, h.sends, p, rest, hp, rfl, ?_, ?_⟩
      · intro q hq
        cases rest with
        | nil => cases hq
        | cons r rest => exact ⟨r, rest, rfl, Option.some.inj hq⟩
      · intro hnone hne
        cases rest with
        | nil => exact absurd rfl hne
        | cons r rest => cases hnone
  · cases hstep

theorem Watched.walkNext {mem : Bool} (h : s.Watched) (hstep : s.walkNext mem = some s') :
    s'.Watched := by
  have hwalks := h.walks
  unfold Threads.walkNext at hstep
  split at hstep
  · rename_i next hbtm
    rw [hbtm] at hwalks
    obtain ⟨p, rest, hp, hserved, hnext, hlast⟩ := hwalks
    obtain ⟨m, hm, rfl⟩ := Option.map_eq_some_iff.mp hstep
    have hlist := finishTimer_expdTmrs hp hserved hm
    refine ⟨?_, h.sends, ?_⟩
    · simp only [hlist, hserved, Option.toList_some]
      rw [h.log, hp, List.append_assoc, List.singleton_append]
    · cases next with
      | none =>
        intro hne
        simp only [hlist] at hne
        exact hlast rfl hne
      | some pnode =>
        obtain ⟨q, rest', rfl, hq⟩ := hnext pnode rfl
        exact ⟨q, rest', hlist, hq⟩
  · cases hstep

theorem Watched.step {ev : Event} (h : s.Watched) (hstep : s.step ev = some s') : s'.Watched := by
  cases ev with
  | call c => exact h.call hstep
  | tickClock => exact h.tickClock hstep
  | tickNode => exact h.tickNode hstep
  | evtSnd => exact h.evtSnd hstep
  | evtRx => exact h.evtRx hstep
  | btmHlf => exact h.btmHlf hstep
  | walkFirst => exact h.walkFirst hstep
  | walkServe => exact h.walkServe hstep
  | walkNext mem => exact h.walkNext hstep

theorem watched_init : init.Watched := ⟨rfl, rfl, absurd rfl⟩

end Threads

end Layer3Switch.Timers
