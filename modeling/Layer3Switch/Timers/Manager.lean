import Layer3Switch.Lib.RbRoot
import Layer3Switch.Timers.Ctime

namespace Layer3Switch.Timers

open Lib.Rbtree Function

abbrev TimerId := ℕ
abbrev NodeId := ℕ

/-- `TIMER_T`. The wheel is `none` for `WAIT_TIMERS`, and the time-out handler
is `none` for a null pointer. -/
structure TimerT where
  rmt : U32
  exp : U32
  wheel : Option Wheel
  idx : U32
  flags : U32
  isRunning : Bool
  data : ℕ
  apptimer : Option NodeId
  timeOutHandler : Option ℕ
  deriving DecidableEq, Repr

/-- `APP_TIMER_T`, with its address in place of the tree and list links. -/
structure AppTimer where
  id : NodeId
  timer : TimerId
  ctime : U32
  rt : U32
  deriving DecidableEq, Repr

def AppTimer.key (n : AppTimer) : ℕ := n.rt.toNat

/-- `clk`. -/
structure Clock where
  tick : U32
  sec : U32
  min : U32
  hrs : U32
  deriving DecidableEq, Repr

def Clock.get (c : Clock) : Wheel → U32
  | .tick => c.tick
  | .sec => c.sec
  | .min => c.min
  | .hrs => c.hrs

/-- `tmrrq.root`. -/
abbrev Wheels := Wheel → RbRoot AppTimer.key

/-- The timer manager. `timers` holds the allocated `TIMER_T` blocks,
`unlinked` the nodes that found no slot, and `serving` the node whose handler
the bottom half is running. A block is never at an address used before.
`count` is a natural number: it counts live `APP_TIMER_T` blocks. -/
structure TimerMgr where
  clk : Clock
  root : Wheels
  count : ℕ
  expdTmrs : List AppTimer
  timers : TimerId → Option TimerT
  unlinked : List NodeId
  indx : U32
  nextTimer : TimerId
  nextNode : NodeId
  serving : Option AppTimer

def maxTimers : ℕ := 2000

def timerOnce : U32 := 0x1
def timerRepeat : U32 := 0x2
def timerForever : U32 := 0x4

/-- `init_timer_mgr`, with `clk` zero at load time. -/
def initTimerMgr : TimerMgr where
  clk := ⟨0, 0, 0, 0⟩
  root := fun _ ↦ .empty
  count := 0
  expdTmrs := []
  timers := fun _ ↦ none
  unlinked := []
  indx := 0
  nextTimer := 0
  nextNode := 0
  serving := none

def timerAdd (n : AppTimer) (w : Wheel) (s : TimerMgr) : TimerMgr :=
  { s with root := update s.root w ((s.root w).insert n) }

/-- Erasing the node from the tree at `root[w]`. A node that was never linked
has null links, so `rb_erase` takes it for a lone root and empties the tree.
Any other node that is not in the tree is freed memory or belongs to another
tree, and the run ends. -/
def timerDel (n : NodeId) (w : Option Wheel) (s : TimerMgr) : Option TimerMgr :=
  match w with
  | none => none
  | some w =>
    match (s.root w).erase (fun m ↦ m.id == n) with
    | some r => some { s with root := update s.root w r }
    | none => if n ∈ s.unlinked then some { s with root := update s.root w .empty } else none

def timerTreeWalk (s : TimerMgr) (w : Wheel) (key : U32) : Option AppTimer :=
  (s.root w).search key.toNat

/-- The coarsest wheel with a non-zero field, and that field. -/
def findTmrSlot (ct : U32) : Option (Wheel × U32) :=
  if getHrs ct ≠ 0 then some (.hrs, getHrs ct)
  else if getMins ct ≠ 0 then some (.min, getMins ct)
  else if getSecs ct ≠ 0 then some (.sec, getSecs ct)
  else if getTick ct ≠ 0 then some (.tick, getTick ct)
  else none

def findTmrSlotAndPlace (ptmr : AppTimer) (s : TimerMgr) : Option TimerMgr :=
  match findTmrSlot ptmr.ctime with
  | none => some { s with unlinked := ptmr.id :: s.unlinked }
  | some (w, t) =>
    match s.timers ptmr.timer with
    | none => none
    | some p =>
      let timers := update s.timers ptmr.timer (some { p with wheel := some w, isRunning := true })
      some (timerAdd { ptmr with rt := s.clk.get w + t } w { s with timers := timers })

/-- The tail that `start_timer` and `mod_timer` share: a fresh node for timer
`i`, its packed time, its slot. -/
def armTimer (i : TimerId) (p : TimerT) (s : TimerMgr) : Option TimerMgr :=
  let apptimer : AppTimer := ⟨s.nextNode, i, packTime 0 p.rmt, 0⟩
  let new := { p with apptimer := some apptimer.id, exp := p.rmt + s.clk.tick }
  let s := { s with timers := update s.timers i (some new), nextNode := s.nextNode + 1 }
  match findTmrSlotAndPlace apptimer s with
  | none => none
  | some s => some { s with count := s.count + 1 }

/-- Zero stands for a refusal. The `int` comes round to zero in the end. -/
def allocTimerId (s : TimerMgr) : U32 × TimerMgr :=
  if s.count > maxTimers then (0, s) else (s.indx + 1, { s with indx := s.indx + 1 })

/-- `mem` and `memApp` tell whether `tm_calloc` finds memory for the two
blocks. The timer's address is returned. -/
def startTimer (ticks : U32) (data : ℕ) (handler : Option ℕ) (flags : U32) (mem memApp : Bool)
    (s : TimerMgr) : Option (TimerMgr × Option TimerId) :=
  match allocTimerId s with
  | (idx, s) =>
    if idx = 0 ∨ mem = false then some (s, none)
    else
      let new : TimerT := ⟨ticks, 0, some .tick, idx, if flags ≠ 0 then flags else timerOnce, false,
        data, none, handler⟩
      if !memApp then some (s, none)
      else
        match armTimer s.nextTimer new { s with nextTimer := s.nextTimer + 1 } with
        | none => none
        | some s' => some (s', some s.nextTimer)

def setupTimer (handler : Option ℕ) (data : ℕ) (mem : Bool) (s : TimerMgr) :
    TimerMgr × Option TimerId :=
  match allocTimerId s with
  | (idx, s) =>
    if idx = 0 ∨ mem = false then (s, none)
    else
      let new : TimerT := ⟨0, 0, none, idx, timerForever, false, data, none, handler⟩
      ({ s with timers := update s.timers s.nextTimer (some new), nextTimer := s.nextTimer + 1 },
        some s.nextTimer)

def modTimer (timer : Option TimerId) (secs : U32) (mem : Bool) (s : TimerMgr) :
    Option (TimerMgr × Int) :=
  match timer with
  | none => some (s, -1)
  | some i =>
    if !mem then some (s, -1)
    else
      match s.timers i with
      | none => none
      | some p =>
        match armTimer i { p with rmt := secs * tmGetTicksPerSecond } s with
        | none => none
        | some s => some (s, 0)

/-- The new node's timer pointer is never set, so `calc_time` reads through a
null pointer unless the allocation failed. -/
def timerRestart (mem : Bool) (s : TimerMgr) : Option TimerMgr :=
  if !mem then some s else none

def stopTimer (i : TimerId) (s : TimerMgr) : Option TimerMgr :=
  match s.timers i with
  | none => none
  | some p =>
    match p.apptimer, p.isRunning with
    | some n, true =>
      match timerDel n p.wheel s with
      | none => none
      | some s =>
        some { s with
          timers := update s.timers i (some { p with isRunning := false })
          unlinked := s.unlinked.erase n
          count := s.count - 1 }
    | _, _ => some s

def delTimer (i : TimerId) (s : TimerMgr) : Option TimerMgr :=
  match s.timers i with
  | none => none
  | some p => if p.apptimer.isSome && p.isRunning then stopTimer i s else some s

def timerPending (s : TimerMgr) : Option TimerId → Option Bool
  | none => some false
  | some i => (s.timers i).map TimerT.isRunning

/-- The remaining time, and whether the branch for a negative one was taken. -/
def timerGetRemainingTime (s : TimerMgr) : Option TimerId → Option (U32 × Bool)
  | none => some (0, false)
  | some i =>
    match s.timers i with
    | none => none
    | some p =>
      if !p.isRunning then some (0, false)
      else
        let t := p.exp - s.clk.tick
        if t.toInt < 0 then some (0, true) else some (t, false)

end Layer3Switch.Timers
