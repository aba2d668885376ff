import Layer3Switch.Stp.Main

namespace Layer3Switch.Stp

open Lib
open Timers (U32)

def bridgeTimerRelation (fdelay maxAge hello : Int32) : Int :=
  if 2 * (fdelay - 1) < maxAge ∨ maxAge < 2 * (hello + 1) then -1 else 0

def stpMinHelloTime : Int32 := 1
def stpMaxHelloTime : Int32 := 10
def stpMinMaxAge : Int32 := 6
def stpMaxMaxAge : Int32 := 40
def stpMinForwardDelay : Int32 := 2
def stpMaxForwardDelay : Int32 := 30

/-- The times a bridge uses and, under `bridge`, those it is configured with. -/
structure BridgeTimes where
  maxAge : U32
  helloTime : U32
  forwardDelay : U32
  bridgeMaxAge : U32
  bridgeHelloTime : U32
  bridgeForwardDelay : U32

variable {κ τ Φ : Type}

def StpInstance.times (br : StpInstance κ) : BridgeTimes where
  maxAge := br.maxAge
  helloTime := br.helloTime
  forwardDelay := br.forwardDelay
  bridgeMaxAge := br.bridgeMaxAge
  bridgeHelloTime := br.bridgeHelloTime
  bridgeForwardDelay := br.bridgeForwardDelay

def StpInstance.setTimes (br : StpInstance κ) (t : BridgeTimes) : StpInstance κ :=
  { br with
    maxAge := t.maxAge
    helloTime := t.helloTime
    forwardDelay := t.forwardDelay
    bridgeMaxAge := t.bridgeMaxAge
    bridgeHelloTime := t.bridgeHelloTime
    bridgeForwardDelay := t.bridgeForwardDelay }

def StpInstance.ownTimes (br : StpInstance κ) : BridgeTimes :=
  { br.times with
    maxAge := br.bridgeMaxAge
    helloTime := br.bridgeHelloTime
    forwardDelay := br.bridgeForwardDelay }

def StpBpdu.times (bpdu : StpBpdu κ) (br : StpInstance κ) : BridgeTimes :=
  { br.times with
    maxAge := bpdu.maxAge.setWidth 32
    helloTime := bpdu.helloTime.setWidth 32
    forwardDelay := bpdu.forwardDelay.setWidth 32 }

def stpSetBridgeHelloTime (hello : Int32) : StpM κ τ Φ Int := do
  let br ← bridge
  if hello < stpMinHelloTime ∨ stpMaxHelloTime < hello then pure (-1)
  else if bridgeTimerRelation (.ofBitVec br.bridgeForwardDelay)
    (.ofBitVec br.bridgeMaxAge) hello ≠ 0
  then pure (-1)
  else do
    setBridge fun br ↦ br.setTimes { br.times with
      bridgeHelloTime := hello.toBitVec
      helloTime := if stpIsRootBridge br then hello.toBitVec else br.helloTime }
    pure 0

def stpSetBridgeForwardDelay (fwdDly : Int32) : StpM κ τ Φ Int := do
  let br ← bridge
  if fwdDly < stpMinForwardDelay ∨ stpMaxForwardDelay < fwdDly then pure (-1)
  else if bridgeTimerRelation fwdDly (.ofBitVec br.bridgeMaxAge) (.ofBitVec br.bridgeHelloTime) ≠ 0
  then pure (-1)
  else do
    setBridge fun br ↦ br.setTimes { br.times with
      bridgeForwardDelay := fwdDly.toBitVec
      forwardDelay := if stpIsRootBridge br then fwdDly.toBitVec else br.forwardDelay }
    pure 0

def stpSetBridgeMaxAge (maxAge : Int32) : StpM κ τ Φ Int := do
  let br ← bridge
  if maxAge < stpMinMaxAge ∨ stpMaxMaxAge < maxAge then pure (-1)
  else if bridgeTimerRelation (.ofBitVec br.bridgeForwardDelay) maxAge
    (.ofBitVec br.bridgeHelloTime)
    ≠ 0 then pure (-1)
  else do
    setBridge fun br ↦ br.setTimes { br.times with
      bridgeMaxAge := maxAge.toBitVec
      maxAge := if stpIsRootBridge br then maxAge.toBitVec else br.maxAge }
    pure 0

def stpSetBridgeTimes (fdly maxage htime : Int32) : StpM κ τ Φ Int := do
  let br ← bridge
  let htime := if htime < 0 then .ofBitVec br.bridgeHelloTime else htime
  let fdly := if fdly < 0 then .ofBitVec br.bridgeForwardDelay else fdly
  let maxage := if maxage < 0 then .ofBitVec br.bridgeMaxAge else maxage
  if bridgeTimerRelation fdly maxage htime ≠ 0 then pure (-1)
  else do
    setBridge fun br ↦
      if stpIsRootBridge br then br.setTimes
        ⟨maxage.toBitVec, htime.toBitVec, fdly.toBitVec, maxage.toBitVec, htime.toBitVec,
          fdly.toBitVec⟩
      else br.setTimes { br.times with
        bridgeMaxAge := maxage.toBitVec
        bridgeHelloTime := htime.toBitVec
        bridgeForwardDelay := fdly.toBitVec }
    pure 0

end Layer3Switch.Stp
