import Layer3Switch.Stp.World

namespace Layer3Switch.Stp

open Lib.Bytes
open Timers (U32 TimerMgr)

def TimerHandler.code : TimerHandler → ℕ × ℕ
  | .hello => (0, 0)
  | .tcn => (1, 0)
  | .topologyChange => (2, 0)
  | .messageAge portNo => (3, portNo.toNat)
  | .forwardDelay portNo => (4, portNo.toNat)
  | .hold portNo => (5, portNo.toNat)
  | .bstpTick => (6, 0)

def timerHost (endian : Endian) (stackByte : U8) : Host TimerMgr where
  endian := endian
  setupTimer := fun h env ↦ Timers.setupTimer (some h.code.1) h.code.2 true env
  modTimer := fun timer secs env ↦ (Timers.modTimer timer secs true env).map Prod.fst
  delTimer := fun timer env ↦ timer.bind fun i ↦ Timers.delTimer i env
  timerPending := fun timer env ↦ Timers.timerPending env timer
  timerGetRemainingTime := fun timer env ↦ (Timers.timerGetRemainingTime env timer).map Prod.fst
  tmMalloc := fun _ ↦ true
  blockAddr := fun env ↦ env.nextTimer
  stackByte := fun _ ↦ stackByte

end Layer3Switch.Stp
