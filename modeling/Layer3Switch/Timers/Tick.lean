import Layer3Switch.Lib.Run
import Layer3Switch.Timers.Manager

namespace Layer3Switch.Timers

open Lib.Rbtree Function

def Clock.isNxtSecHappend (c : Clock) : Bool := c.tick % tmGetTicksPerSecond == 0

def Clock.isNxtMinHappend (c : Clock) : Bool := if c.sec ≠ 0 then c.sec % 60#32 == 0 else false

def Clock.isNxtHrHappend (c : Clock) : Bool := if c.min ≠ 0 then c.min % 60#32 == 0 else false

def Clock.next (c : Clock) : Clock :=
  let tick := c.tick + 1
  if tick % tmGetTicksPerSecond ≠ 0 then { c with tick := tick }
  else
    let sec := c.sec + 1
    if sec % 60#32 ≠ 0 then { c with tick := tick, sec := sec }
    else
      let min := c.min + 1
      if min % 60#32 ≠ 0 then { c with tick := tick, sec := sec, min := min }
      else ⟨tick, sec, min, c.hrs + 1⟩

def timerExpiryAction (ptmr : AppTimer) (s : TimerMgr) : Option TimerMgr :=
  if ptmr.ctime = 0 then
    match s.timers ptmr.timer with
    | none => none
    | some p =>
      some { s with
        count := s.count - 1
        timers := update s.timers ptmr.timer (some { p with isRunning := false })
        expdTmrs := s.expdTmrs ++ [ptmr] }
  else findTmrSlotAndPlace ptmr s

def clearWheelTimer (ptmr : AppTimer) (s : TimerMgr) : Option AppTimer :=
  match s.timers ptmr.timer with
  | none => none
  | some p =>
    match p.wheel with
    | none => none
    | some w => some { ptmr with ctime := ptmr.ctime &&& wheelMask w }

def processTimer (w : Wheel) (ptmr : AppTimer) (s : TimerMgr) : Option TimerMgr :=
  match clearWheelTimer ptmr s with
  | none => none
  | some ptmr' =>
    match timerDel ptmr.id (some w) s with
    | none => none
    | some s => timerExpiryAction ptmr' s

def processTimersLoop (w : Wheel) (expires : U32) : ℕ → ℕ → TimerMgr → Option (TimerMgr × ℕ)
  | 0, k, s => some (s, k)
  | fuel + 1, k, s =>
    match timerTreeWalk s w expires with
    | none => some (s, k)
    | some ptmr =>
      match processTimer w ptmr s with
      | none => none
      | some s => processTimersLoop w expires fuel (k + 1) s

def processTimers (w : Wheel) (s : TimerMgr) : Option (TimerMgr × ℕ) :=
  processTimersLoop w (s.clk.get w) (s.root w).toList.length 0 s

def tmProcessTickAndUpdateTimers (s : TimerMgr) : Option (TimerMgr × ℕ) := do
  let (s, n) ← processTimers .tick s
  if s.clk.isNxtSecHappend then
    let (s, n₁) ← processTimers .sec s
    if s.clk.isNxtMinHappend then
      let (s, n₂) ← processTimers .min s
      if s.clk.isNxtHrHappend then
        let (s, n₃) ← processTimers .hrs s
        return (s, n + n₁ + n₂ + n₃)
      else return (s, n + n₁ + n₂)
    else return (s, n + n₁)
  else return (s, n)

def timersPendingForService (s : TimerMgr) : Bool :=
  s.count != 0 &&
    ((s.root .tick).first.isSome ||
      (s.clk.isNxtSecHappend && (s.root .sec).first.isSome) ||
      (s.clk.isNxtMinHappend && (s.root .min).first.isSome) ||
      (s.clk.isNxtHrHappend && (s.root .hrs).first.isSome))

/-- One tick. `service_timers` wakes the bottom half, which the model lets run
at any time. -/
def updateTimes (s : TimerMgr) : Option TimerMgr :=
  let s := { s with clk := s.clk.next }
  if timersPendingForService s then (tmProcessTickAndUpdateTimers s).map Prod.fst else some s

def serveTimer (s : TimerMgr) : Option TimerMgr :=
  match s.serving, s.expdTmrs with
  | some _, _ => none
  | none, [] => some s
  | none, ptmr :: _ =>
    match s.timers ptmr.timer with
    | none => none
    | some _ => some { s with serving := some ptmr }

def finishTimer (mem : Bool) (s : TimerMgr) : Option TimerMgr :=
  match s.serving with
  | none => none
  | some ptmr =>
    let s := { s with
      serving := none
      expdTmrs := s.expdTmrs.eraseP (fun n ↦ n.id == ptmr.id) }
    match s.timers ptmr.timer with
    | none => none
    | some p =>
      let p := { p with apptimer := none }
      if p.flags &&& timerOnce ≠ 0 then
        some { s with timers := update s.timers ptmr.timer none }
      else
        let s := { s with timers := update s.timers ptmr.timer (some p) }
        if p.flags &&& timerRepeat ≠ 0 then timerRestart mem s else some s

inductive Event
  | setupTimer (handler : Option ℕ) (data : ℕ) (mem : Bool)
  | startTimer (ticks : U32) (data : ℕ) (handler : Option ℕ) (flags : U32) (mem memApp : Bool)
  | modTimer (timer : Option TimerId) (secs : U32) (mem : Bool)
  | stopTimer (timer : TimerId)
  | delTimer (timer : TimerId)
  | tick
  | serve
  | finish (mem : Bool)
  deriving DecidableEq, Repr

def step (s : TimerMgr) : Event → Option TimerMgr
  | .setupTimer handler data mem => some (setupTimer handler data mem s).1
  | .startTimer ticks data handler flags mem memApp =>
    (startTimer ticks data handler flags mem memApp s).map Prod.fst
  | .modTimer timer secs mem => (modTimer timer secs mem s).map Prod.fst
  | .stopTimer timer => stopTimer timer s
  | .delTimer timer => delTimer timer s
  | .tick => updateTimes s
  | .serve => serveTimer s
  | .finish mem => finishTimer mem s

end Layer3Switch.Timers
