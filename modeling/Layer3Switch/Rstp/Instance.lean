import Layer3Switch.Lib.Keyed
import Layer3Switch.Stp.World

namespace Layer3Switch.Rstp

open Lib.Bytes
open Timers (U32)
open Stp (Host IfStatus TimerRef)

/-- The constants `BSTP_IFSTATE_…`. -/
inductive IfState
  | disabled
  | listening
  | learning
  | forwarding
  | blocking
  | discarding
  deriving DecidableEq, Repr

structure BstpPort where
  ifp : U16
  active : Bool
  state : IfState
  deriving DecidableEq, Repr

structure BstpState where
  vlanId : U16
  running : Bool
  bstpcallout : TimerRef
  bplist : List BstpPort
  deriving DecidableEq, Repr

/-- The state machines of RSTP: the states in which they leave the ports. -/
structure Machines (τ Φ : Type) where
  reinit : BstpState → τ → ℕ → IfState
  updateRoles : ℕ → BstpState → τ → ℕ → IfState
  disablePort : ℕ → BstpState → τ → ℕ → IfState
  received : ℕ → Φ → BstpState → τ → ℕ → IfState
  tick : BstpState → τ → ℕ → IfState

def bstpMinHelloTime : Int32 := 1
def bstpMaxHelloTime : Int32 := 10
def bstpMinMaxAge : Int32 := 6
def bstpMaxMaxAge : Int32 := 40
def bstpMinForwardDelay : Int32 := 4
def bstpMaxForwardDelay : Int32 := 30
def bstpDefaultMaxAge : U16 := 20
def bstpDefaultHelloTime : U16 := 2
def bstpDefaultForwardDelay : U16 := 15
def bstpTickVal : U32 := 1

def BstpState.setStates (bs : BstpState) (f : ℕ → IfState) : BstpState :=
  { bs with bplist := bs.bplist.mapIdx fun i p ↦ { p with state := f i } }

variable {τ Φ : Type} (H : Host τ) (M : Machines τ Φ)

def bstpAttach (vlanId : U16) (env : τ) : BstpState × τ :=
  let callout := H.setupTimer .bstpTick env
  ({ vlanId := vlanId, running := false, bstpcallout := callout.2, bplist := [] }, callout.1)

def bstpReinit (bs : BstpState) (env : τ) : Option (BstpState × τ) :=
  (if bs.running then H.timerPending bs.bstpcallout env else some true).bind fun pending ↦
  (if pending then some env else H.modTimer bs.bstpcallout bstpTickVal env).map fun env ↦
    (bs.setStates (M.reinit bs env), env)

def bstpInit (bs : BstpState) (env : τ) : Option (BstpState × τ) :=
  bstpReinit H M { bs with running := true } env

def bstpEnable (p : ℕ) (bs : BstpState) (env : τ) : Option (BstpState × τ) :=
  let bs := { bs with bplist := bs.bplist.modify p ({ · with active := true }) }
  (bstpReinit H M bs env).map fun (bs, env) ↦ (bs.setStates (M.updateRoles p bs env), env)

def bstpDisable (p : ℕ) (bs : BstpState) (env : τ) : Option (BstpState × τ) :=
  let bs := bs.setStates (M.disablePort p bs env)
  bstpReinit H M { bs with bplist := bs.bplist.eraseIdx p } env

def bstpCreate (ifp : U16) (operState : IfStatus) (bs : BstpState) (env : τ) :
    Option (BstpState × τ) :=
  let new := { bs with bplist := bs.bplist ++ [⟨ifp, false, .discarding⟩] }
  if operState = .up then bstpEnable H M bs.bplist.length new env else some (new, env)

def rstpCreatePort (ifp : U16) (operState : IfStatus) (bs : BstpState) (env : τ) :
    Option (BstpState × τ) :=
  if H.tmMalloc env then bstpCreate H M ifp operState bs env else some (bs, env)

def rstpGetPortInfo (bs : BstpState) (port : U16) : Option ℕ := bs.bplist.findIdx? (·.ifp == port)

def rstpEnableOrDisablePort (p : ℕ) (state : IfStatus) (bs : BstpState) (env : τ) :
    Option (BstpState × τ) :=
  match state with
  | .up => bstpEnable H M p bs env
  | .down => bstpDisable H M p bs env

def rstpProcessBpdu (p : ℕ) (frame : Φ) (bs : BstpState) (env : τ) : Option (BstpState × τ) :=
  some (bs.setStates (M.received p frame bs env), env)

def bstpTick (bs : BstpState) (env : τ) : Option (BstpState × τ) :=
  if bs.running then
    (H.modTimer bs.bstpcallout bstpTickVal env).map fun env ↦ (bs.setStates (M.tick bs env), env)
  else some (bs, env)

def BstpState.ifps (bs : BstpState) : List U16 := bs.bplist.map BstpPort.ifp

/-- The instance with other ports, perhaps, is the same in all that the state
machines leave alone. -/
structure Alike (bs bs' : BstpState) : Prop where
  vlanId : bs'.vlanId = bs.vlanId
  running : bs'.running = bs.running
  bstpcallout : bs'.bstpcallout = bs.bstpcallout

section Specs

variable {H M} {bs bs' : BstpState} {env env' : τ} {p : ℕ}

@[simp] theorem ifps_setStates (f : ℕ → IfState) : (bs.setStates f).ifps = bs.ifps := by
  apply List.ext_getElem?
  intro i
  simp only [BstpState.ifps, BstpState.setStates, List.getElem?_map, List.getElem?_mapIdx,
    Option.map_map]
  rfl

theorem bstpReinit_spec (h : bstpReinit H M bs env = some (bs', env')) :
    Alike bs bs' ∧ bs'.ifps = bs.ifps := by
  obtain ⟨_, -, hmap⟩ := Option.bind_eq_some_iff.mp h
  obtain ⟨_, -, heq⟩ := Option.map_eq_some_iff.mp hmap
  obtain ⟨rfl, -⟩ := Prod.mk.inj heq
  exact ⟨⟨rfl, rfl, rfl⟩, ifps_setStates _⟩

theorem bstpInit_spec (h : bstpInit H M bs env = some (bs', env')) :
    bs'.vlanId = bs.vlanId ∧ bs'.running = true ∧ bs'.ifps = bs.ifps := by
  obtain ⟨halike, hifps⟩ := bstpReinit_spec h
  exact ⟨halike.vlanId, halike.running, hifps⟩

theorem bstpEnable_spec (h : bstpEnable H M p bs env = some (bs', env')) :
    Alike bs bs' ∧ bs'.ifps = bs.ifps := by
  obtain ⟨⟨bs₁, env₁⟩, h₁, heq⟩ := Option.map_eq_some_iff.mp h
  obtain ⟨halike, hifps⟩ := bstpReinit_spec h₁
  obtain ⟨rfl, -⟩ := Prod.mk.inj heq
  refine ⟨⟨halike.vlanId, halike.running, halike.bstpcallout⟩, ?_⟩
  rw [ifps_setStates, hifps]
  exact Lib.map_modify_of_eq fun _ _ ↦ rfl

theorem bstpDisable_spec (h : bstpDisable H M p bs env = some (bs', env')) :
    Alike bs bs' ∧ bs'.ifps = bs.ifps.eraseIdx p := by
  obtain ⟨halike, hifps⟩ := bstpReinit_spec h
  refine ⟨⟨halike.vlanId, halike.running, halike.bstpcallout⟩, ?_⟩
  rw [hifps, BstpState.ifps, ← List.eraseIdx_map]
  exact congrArg (List.eraseIdx · p) (ifps_setStates _)

theorem bstpTick_spec (h : bstpTick H M bs env = some (bs', env')) :
    Alike bs bs' ∧ bs'.ifps = bs.ifps := by
  unfold bstpTick at h
  split at h
  · obtain ⟨_, -, heq⟩ := Option.map_eq_some_iff.mp h
    obtain ⟨rfl, -⟩ := Prod.mk.inj heq
    exact ⟨⟨rfl, rfl, rfl⟩, ifps_setStates _⟩
  · obtain ⟨rfl, -⟩ := Prod.mk.inj (Option.some.inj h)
    exact ⟨⟨rfl, rfl, rfl⟩, rfl⟩

theorem bstpCreate_spec {ifp : U16} {operState : IfStatus}
    (h : bstpCreate H M ifp operState bs env = some (bs', env')) :
    Alike bs bs' ∧ bs'.ifps = bs.ifps ++ [ifp] := by
  have hnew : ({ bs with bplist := bs.bplist ++ [⟨ifp, false, .discarding⟩] } : BstpState).ifps =
      bs.ifps ++ [ifp] := by
    simp [BstpState.ifps]
  unfold bstpCreate at h
  split at h
  · obtain ⟨halike, hifps⟩ := bstpEnable_spec h
    exact ⟨⟨halike.vlanId, halike.running, halike.bstpcallout⟩, hifps.trans hnew⟩
  · obtain ⟨rfl, -⟩ := Prod.mk.inj (Option.some.inj h)
    exact ⟨⟨rfl, rfl, rfl⟩, hnew⟩

theorem rstpCreatePort_spec {ifp : U16} {operState : IfStatus}
    (h : rstpCreatePort H M ifp operState bs env = some (bs', env')) :
    Alike bs bs' ∧ (H.tmMalloc env = false ∧ bs'.ifps = bs.ifps ∨ bs'.ifps = bs.ifps ++ [ifp]) := by
  unfold rstpCreatePort at h
  split at h
  · obtain ⟨halike, hifps⟩ := bstpCreate_spec h
    exact ⟨halike, .inr hifps⟩
  · rename_i hmem
    obtain ⟨rfl, -⟩ := Prod.mk.inj (Option.some.inj h)
    exact ⟨⟨rfl, rfl, rfl⟩, .inl ⟨Bool.eq_false_iff.mpr hmem, rfl⟩⟩

/-- What has happened to the environment of an instance: its callout was started,
now and then. -/
inductive Calls (H : Host τ) (callout : TimerRef) : τ → τ → Prop
  | refl (env : τ) : Calls H callout env env
  | mod (env env' env'' : τ) (secs : U32) : Calls H callout env env' →
      H.modTimer callout secs env' = some env'' → Calls H callout env env''

theorem Calls.trans {callout : TimerRef} {env₁ env₂ env₃ : τ} (h : Calls H callout env₁ env₂)
    (h' : Calls H callout env₂ env₃) : Calls H callout env₁ env₃ := by
  induction h' with
  | refl => exact h
  | mod env' env'' secs _ hm ih => exact .mod _ _ _ secs ih hm

theorem bstpReinit_calls (h : bstpReinit H M bs env = some (bs', env')) :
    Calls H bs.bstpcallout env env' := by
  obtain ⟨pending, -, hmap⟩ := Option.bind_eq_some_iff.mp h
  obtain ⟨env₁, henv₁, heq⟩ := Option.map_eq_some_iff.mp hmap
  obtain ⟨-, rfl⟩ := Prod.mk.inj heq
  split at henv₁
  · obtain rfl := Option.some.inj henv₁
    exact .refl env
  · exact .mod _ _ _ _ (.refl env) henv₁

theorem bstpEnable_calls (h : bstpEnable H M p bs env = some (bs', env')) :
    Calls H bs.bstpcallout env env' := by
  obtain ⟨⟨bs₁, env₁⟩, h₁, heq⟩ := Option.map_eq_some_iff.mp h
  obtain ⟨-, rfl⟩ := Prod.mk.inj heq
  have hcalls := bstpReinit_calls h₁
  exact hcalls

theorem bstpDisable_calls (h : bstpDisable H M p bs env = some (bs', env')) :
    Calls H bs.bstpcallout env env' := by
  have hcalls := bstpReinit_calls h
  exact hcalls

theorem bstpTick_calls (h : bstpTick H M bs env = some (bs', env')) :
    Calls H bs.bstpcallout env env' := by
  unfold bstpTick at h
  split at h
  · obtain ⟨env₁, henv₁, heq⟩ := Option.map_eq_some_iff.mp h
    obtain ⟨-, rfl⟩ := Prod.mk.inj heq
    exact .mod _ _ _ _ (.refl env) henv₁
  · obtain ⟨-, rfl⟩ := Prod.mk.inj (Option.some.inj h)
    exact .refl env

theorem rstpCreatePort_calls {ifp : U16} {operState : IfStatus}
    (h : rstpCreatePort H M ifp operState bs env = some (bs', env')) :
    Calls H bs.bstpcallout env env' := by
  unfold rstpCreatePort bstpCreate at h
  split_ifs at h
  · have hcalls := bstpEnable_calls h
    exact hcalls
  · obtain ⟨-, rfl⟩ := Prod.mk.inj (Option.some.inj h)
    exact .refl env
  · obtain ⟨-, rfl⟩ := Prod.mk.inj (Option.some.inj h)
    exact .refl env

theorem bstpInit_calls (h : bstpInit H M bs env = some (bs', env')) :
    bs'.bstpcallout = bs.bstpcallout ∧ Calls H bs.bstpcallout env env' := by
  have hcalls := bstpReinit_calls h
  exact ⟨(bstpReinit_spec h).1.bstpcallout, hcalls⟩

end Specs

end Layer3Switch.Rstp
