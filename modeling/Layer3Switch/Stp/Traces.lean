import Layer3Switch.Lib.Trace
import Layer3Switch.Stp.Actions
import Layer3Switch.Stp.TimerHost
import Layer3Switch.Timers.Course

namespace Layer3Switch.Stp

open Lib Lib.Bytes
open Timers (U32 TimerId TimerMgr)

variable {κ τ Φ : Type}

def StpInstance.pendings (br : StpInstance κ) : List (PortState × Bool) :=
  br.portList.map fun q ↦ (q.state, q.configPending)

structure Assigned (br br' : StpInstance κ) : Prop where
  fixed : br'.fixed = br.fixed
  pendings : br'.pendings = br.pendings

theorem assigned_modifyPort {w : World κ τ Φ} {p : ℕ} {f : StpPortEntry κ → StpPortEntry κ}
    (hf : ∀ q, w.br.portList[p]? = some q →
      (f q).fixed = q.fixed ∧ ((f q).state, (f q).configPending) = (q.state, q.configPending)) :
    Assigned w.br (w.modifyPort p f).br :=
  ⟨modifyPort_fixed fun q hq ↦ (hf q hq).1, map_modify_of_eq fun q hq ↦ (hf q hq).2⟩

theorem assigned_map {br br' : StpInstance κ} {f : StpPortEntry κ → StpPortEntry κ}
    (hbr : br'.vlanId = br.vlanId ∧ br'.helloTimer = br.helloTimer ∧ br'.tcnTimer = br.tcnTimer ∧
      br'.topologyChangeTimer = br.topologyChangeTimer)
    (hports : br'.portList = br.portList.map f)
    (hf : ∀ q, (f q).fixed = q.fixed ∧ (f q).state = q.state ∧
      (f q).configPending = q.configPending) : Assigned br br' := by
  obtain ⟨hvlan, hhello, htcn, htc⟩ := hbr
  constructor
  · rw [StpInstance.fixed, StpInstance.fixed, hvlan, hhello, htcn, htc, hports, List.map_map]
    exact congrArg (fun l ↦ (_, _, l)) (List.map_congr_left fun q _ ↦ (hf q).1)
  · rw [StpInstance.pendings, StpInstance.pendings, hports, List.map_map]
    exact List.map_congr_left fun q _ ↦ Prod.ext (hf q).2.1 (hf q).2.2

section Works

variable [Add κ] [LT κ] [DecidableLT κ] [OfNat κ 0] [OfNat κ 20000]

inductive Works (H : Host τ) (W : Wire κ Φ) : Label κ Φ → World κ τ Φ → World κ τ Φ → Prop
  | deed {l : Label κ Φ} {w w' : World κ τ Φ} : Deed H W (fun _ _ ↦ True) l w w' → Works H W l w w'
  | assign (w : World κ τ Φ) (br : StpInstance κ) (portCdb : Vector PortT maxPorts) :
      Assigned w.br br → Works H W .assign w { w with br := br, portCdb := portCdb }
  | create (w : World κ τ Φ) (addr : MacAddress) (portNo : U32) :
      Works H W (.create portNo) w (stpCreatePort H addr portNo w).1
  | remove (w : World κ τ Φ) :
      Works H W .remove w { w with br := { w.br with portList := w.br.portList.tail } }

def Worked (H : Host τ) (W : Wire κ Φ) (w w' : World κ τ Φ) : Prop :=
  ∃ ls, Trace (Works H W) w ls w'

variable {H : Host τ} {W : Wire κ Φ} {w w₀ w₁ w₂ : World κ τ Φ}

theorem Worked.snoc {l : Label κ Φ} (h : Worked H W w₀ w₁) (hl : Works H W l w₁ w₂) :
    Worked H W w₀ w₂ := by
  obtain ⟨ls, h⟩ := h
  exact ⟨ls ++ [l], h.snoc hl⟩

theorem stable_worked (w : World κ τ Φ) : Stable H W (fun _ _ ↦ True) (Worked H W w) :=
  fun _ _ _ hd h ↦ h.snoc (.deed hd)

theorem setTimes_worked {f : StpInstance κ → StpInstance κ} (h : Worked H W w₀ w)
    (hf : ∃ t, f w.br = w.br.setTimes t) :
    Ends (do setBridge f; pure (0 : Int)) w fun _ w' ↦ Worked H W w₀ w' := by
  obtain ⟨t, ht⟩ := hf
  apply Ends.bind
  apply Ends.update
  apply Ends.pure
  have hassigned : Assigned w.br (f w.br) := by
    rw [ht]
    exact ⟨rfl, rfl⟩
  exact h.snoc (.assign w (f w.br) w.portCdb hassigned)

theorem stpSetBridgeHelloTime_worked (hello : Int32) (h : Worked H W w₀ w) :
    Ends (stpSetBridgeHelloTime hello) w fun _ w' ↦ Worked H W w₀ w' := by
  apply Ends.bind
  apply ends_bridge
  refine .ite (fun _ ↦ .pure h) fun _ ↦ .ite (fun _ ↦ .pure h) fun _ ↦ setTimes_worked h ⟨_, rfl⟩

theorem stpSetBridgeForwardDelay_worked (fwdDly : Int32) (h : Worked H W w₀ w) :
    Ends (stpSetBridgeForwardDelay fwdDly) w fun _ w' ↦ Worked H W w₀ w' := by
  apply Ends.bind
  apply ends_bridge
  refine .ite (fun _ ↦ .pure h) fun _ ↦ .ite (fun _ ↦ .pure h) fun _ ↦ setTimes_worked h ⟨_, rfl⟩

theorem stpSetBridgeMaxAge_worked (maxAge : Int32) (h : Worked H W w₀ w) :
    Ends (stpSetBridgeMaxAge maxAge) w fun _ w' ↦ Worked H W w₀ w' := by
  apply Ends.bind
  apply ends_bridge
  refine .ite (fun _ ↦ .pure h) fun _ ↦ .ite (fun _ ↦ .pure h) fun _ ↦ setTimes_worked h ⟨_, rfl⟩

theorem stpSetBridgeTimes_worked (fdly maxage htime : Int32) (h : Worked H W w₀ w) :
    Ends (stpSetBridgeTimes fdly maxage htime) w fun _ w' ↦ Worked H W w₀ w' := by
  apply Ends.bind
  apply ends_bridge
  refine .ite (fun _ ↦ .pure h) fun _ ↦ setTimes_worked h ?_
  split
  · exact ⟨_, rfl⟩
  · exact ⟨_, rfl⟩

theorem stpSetPathCost_worked (p : ℕ) (pathCost : κ) (h : Worked H W w₀ w) :
    Ends (stpSetPathCost H W p pathCost) w fun _ w' ↦ Worked H W w₀ w' := by
  have hI := (stable_worked (H := H) (W := W) w₀).inPlace
  apply Ends.bind
  apply Ends.update
  have hassigned : Assigned w.br (w.modifyPort p ({ · with pathCost := pathCost })).br :=
    assigned_modifyPort fun _ _ ↦ ⟨rfl, rfl⟩
  refine (configurationUpdate_keeps hI (h.snoc (.assign w _ w.portCdb hassigned))).andThen ?_
  intro _ w h
  exact stpPortStateSelection_keeps hI h

theorem stpSetBridgePriority_worked (newprio : U16) (h : Worked H W w₀ w) :
    Ends (stpSetBridgePriority H W newprio) w fun _ w' ↦ Worked H W w₀ w' := by
  apply Ends.bind
  apply ends_bridge
  apply Ends.bind
  apply Ends.update
  apply becomeRootIfElected_keeps (stable_worked w₀).inPlace
  refine h.snoc (.assign w _ w.portCdb (assigned_map ⟨rfl, rfl, rfl, rfl⟩ rfl ?_))
  intro q
  split
  · exact ⟨rfl, rfl, rfl⟩
  · exact ⟨rfl, rfl, rfl⟩

theorem stpChangeBridgeId_worked (addr : MacAddress) (h : Worked H W w₀ w) :
    Ends (stpChangeBridgeId H W addr) w fun _ w' ↦ Worked H W w₀ w' := by
  apply Ends.bind
  apply ends_bridge
  apply Ends.bind
  apply Ends.update
  apply becomeRootIfElected_keeps (stable_worked w₀).inPlace
  refine h.snoc (.assign w _ w.portCdb (assigned_map ⟨rfl, rfl, rfl, rfl⟩ rfl ?_))
  exact fun _ ↦ ⟨rfl, rfl, rfl⟩

def Action.Own : Action κ τ Φ → Prop
  | .event (.host _) => False
  | _ => True

theorem handle_worked {ev : Event τ Φ} (hev : (Action.event (κ := κ) ev).Own)
    (h : Worked H W w₀ w) : Ends (handle H W ev) w fun _ w' ↦ Worked H W w₀ w' := by
  have hI : Stable H W (fun _ _ ↦ True) (Worked H W w₀) := stable_worked w₀
  cases ev with
  | setState state => exact stpSetState_keeps hI (fun w h ↦ h.snoc (.remove w)) state h
  | setOperStatus i status => exact .update (h.snoc (.assign w w.br _ ⟨rfl, rfl⟩))
  | host env => exact absurd hev id
  | _ => exact handle_internal_keeps hI trivial (fun _ _ _ _ _ _ ↦ trivial) h

theorem act_worked {a : Action κ τ Φ} (ha : a.Own) (w : World κ τ Φ) :
    Ends (act H W a) w fun _ w' ↦ Worked H W w w' := by
  have h : Worked H W w w := ⟨[], .nil w⟩
  have hdrop : ∀ {m : StpM κ τ Φ Int}, Ends m w (fun _ w' ↦ Worked H W w w') →
      Ends (do let _ ← m; pure ()) w fun _ w' ↦ Worked H W w w' := by
    intro m hm
    refine hm.andThen ?_
    intro _ w' h'
    exact .pure h'
  cases a with
  | event ev => exact handle_worked ha h
  | createPort addr portNo => exact .update (h.snoc (.create w addr portNo))
  | setPathCost p pathCost => exact stpSetPathCost_worked p pathCost h
  | setBridgePriority newprio => exact stpSetBridgePriority_worked newprio h
  | changeBridgeId addr => exact stpChangeBridgeId_worked addr h
  | setBridgeHelloTime hello => exact hdrop (stpSetBridgeHelloTime_worked hello h)
  | setBridgeForwardDelay fwdDly => exact hdrop (stpSetBridgeForwardDelay_worked fwdDly h)
  | setBridgeMaxAge maxAge => exact hdrop (stpSetBridgeMaxAge_worked maxAge h)
  | setBridgeTimes fdly maxage htime => exact hdrop (stpSetBridgeTimes_worked fdly maxage htime h)

end Works

def Apart (timers : List TimerRef) : Prop := timers.Pairwise fun t t' ↦ t = t' → t = none

section Apart

variable {br : StpInstance κ} {p p' : ℕ} {q q' : StpPortEntry κ} {i : TimerId}

theorem Apart.position (h : Apart br.timers) (hq : br.portList[p]? = some q)
    (hq' : br.portList[p']? = some q') (hi : some i ∈ q.timers) (hi' : some i ∈ q'.timers) :
    p = p' := by
  have hports := (List.pairwise_flatMap.mp (List.pairwise_append.mp h).2.1).2
  obtain ⟨hp, rfl⟩ := List.getElem?_eq_some_iff.mp hq
  obtain ⟨hp', rfl⟩ := List.getElem?_eq_some_iff.mp hq'
  rw [List.pairwise_iff_getElem] at hports
  obtain hlt | heq | hlt := Nat.lt_trichotomy p p'
  · exact absurd (hports p p' hp hp' hlt _ hi _ hi' rfl) (Option.some_ne_none i)
  · exact heq
  · exact absurd (hports p' p hp' hp hlt _ hi' _ hi rfl) (Option.some_ne_none i)

theorem Apart.port (h : Apart br.timers) (hq : q ∈ br.portList) : Apart q.timers :=
  (List.pairwise_flatMap.mp (List.pairwise_append.mp h).2.1).1 q hq

theorem Apart.bridge (h : Apart br.timers) (hq : q ∈ br.portList) (hi : some i ∈ q.timers) :
    some i ∉ [br.helloTimer, br.tcnTimer, br.topologyChangeTimer] := by
  intro hb
  have hport := List.mem_flatMap.mpr ⟨q, hq, hi⟩
  exact absurd ((List.pairwise_append.mp h).2.2 _ hb _ hport rfl) (Option.some_ne_none i)

theorem Apart.entry (h : Apart br.timers) (hq : q ∈ br.portList) :
    (q.messageAgeTimer = some i → q.forwardDelayTimer ≠ some i ∧ q.holdTimer ≠ some i) ∧
      (q.forwardDelayTimer = some i → q.holdTimer ≠ some i) := by
  have hport := h.port hq
  simp only [Apart, StpPortEntry.timers, List.pairwise_cons, List.mem_cons, List.not_mem_nil,
    or_false, forall_eq_or_imp, forall_eq] at hport
  obtain ⟨⟨hdelay, hhold⟩, hboth, -⟩ := hport
  refine ⟨fun hi ↦ ⟨fun hi' ↦ ?_, fun hi' ↦ ?_⟩, fun hi hi' ↦ ?_⟩
  · exact Option.some_ne_none i (hi.symm.trans (hdelay (hi.trans hi'.symm)))
  · exact Option.some_ne_none i (hi.symm.trans (hhold (hi.trans hi'.symm)))
  · exact Option.some_ne_none i (hi.symm.trans (hboth (hi.trans hi'.symm)))

theorem Apart.entry_eq (h : Apart br.timers) (hq : q ∈ br.portList) (hq' : q' ∈ br.portList)
    (hi : some i ∈ q.timers) (hi' : some i ∈ q'.timers) : q' = q := by
  obtain ⟨p, hp⟩ := List.mem_iff_getElem?.mp hq
  obtain ⟨p', hp'⟩ := List.mem_iff_getElem?.mp hq'
  obtain rfl := h.position hp hp' hi hi'
  exact Option.some.inj (hp'.symm.trans hp)

theorem Apart.startable (h : Apart br.timers) (hq : q ∈ br.portList) (hi : some i ∈ q.timers)
    (hdelay : q.forwardDelayTimer ≠ some i) : some i ∉ br.startable := by
  intro hstart
  obtain hb | hports := List.mem_append.mp hstart
  · exact h.bridge hq hi hb
  · obtain ⟨q', hq', hdelay'⟩ := List.mem_map.mp hports
    have hi' : some i ∈ q'.timers := by simp [StpPortEntry.timers, hdelay']
    rw [h.entry_eq hq hq' hi hi'] at hdelay'
    exact hdelay hdelay'

theorem Apart.hold (h : Apart br.timers) (hq : q ∈ br.portList) (hi : q.holdTimer = some i) :
    some i ∉ br.startable ∧ ∀ q' ∈ br.portList, q'.messageAgeTimer ≠ some i := by
  have hmem : some i ∈ q.timers := hi ▸ hold_mem_timers q
  refine ⟨h.startable hq hmem fun hdelay ↦ (h.entry hq).2 hdelay hi, ?_⟩
  intro q' hq' hage
  obtain rfl := h.entry_eq hq hq' hmem (hage ▸ messageAge_mem_timers q')
  exact ((h.entry hq).1 hage).2 hi

theorem Apart.messageAge (h : Apart br.timers) (hq : q ∈ br.portList)
    (hi : q.messageAgeTimer = some i) :
    some i ∉ br.startable ∧ ∀ q' ∈ br.portList, q'.holdTimer ≠ some i := by
  have hmem : some i ∈ q.timers := hi ▸ messageAge_mem_timers q
  refine ⟨h.startable hq hmem ((h.entry hq).1 hi).1, ?_⟩
  intro q' hq' hhold
  exact (h.hold hq' hhold).2 q hq hi

end Apart

theorem timers_of_fixed {br br' : StpInstance κ} (h : br'.fixed = br.fixed) :
    br'.timers = br.timers := by
  have hbridge := congrArg (fun x ↦ x.2.1) h
  have hports := congrArg (fun x ↦ x.2.2.flatMap fun e ↦ e.2.2) h
  simp only [StpInstance.fixed, List.flatMap_map, StpPortEntry.fixed] at hbridge hports
  exact congrArg₂ (· ++ ·) hbridge hports

def setupTimers (H : Host τ) : List TimerHandler → τ → List TimerRef × τ
  | [], env => ([], env)
  | h :: hs, env =>
    let timer := H.setupTimer h env
    let rest := setupTimers H hs timer.1
    (timer.2 :: rest.1, rest.2)

section Sound

variable {e : Endian} {stackByte : U8} {s s' : TimerMgr} {i : TimerId}

theorem setupTimer_lasting (h : TimerHandler)
    (hi : ((timerHost e stackByte).setupTimer h s).2 = some i) :
    s.nextTimer ≤ i ∧ i < ((timerHost e stackByte).setupTimer h s).1.nextTimer ∧
      Timers.Lasting ((timerHost e stackByte).setupTimer h s).1 i := by
  simp only [timerHost, Timers.setupTimer] at hi ⊢
  obtain halloc | halloc := Timers.allocTimerId_cases s
  · simp only [halloc, true_or, if_true] at hi
    cases hi
  · rw [halloc] at hi ⊢
    dsimp only at hi ⊢
    split at hi
    · cases hi
    · rename_i hidx
      obtain rfl := Option.some.inj hi
      rw [if_neg hidx]
      exact ⟨le_rfl, Nat.lt_succ_self _, _, Function.update_self _ _ _, rfl⟩

theorem setupTimers_apart (e : Endian) (stackByte : U8) (hs : List TimerHandler)
    (hwf : Timers.Wf s) :
    let new := setupTimers (timerHost e stackByte) hs s
    Timers.Wf new.2 ∧ s.nextTimer ≤ new.2.nextTimer ∧ Apart new.1 ∧
      (∀ i, some i ∈ new.1 → s.nextTimer ≤ i ∧ Timers.Lasting new.2 i) ∧
      ∀ i, Timers.Lasting s i → Timers.Lasting new.2 i := by
  induction hs generalizing s with
  | nil => exact ⟨hwf, le_rfl, .nil, nofun, fun _ ↦ id⟩
  | cons h hs ih =>
    have hstep : Timers.step s (.setupTimer (some h.code.1) h.code.2 true) =
        some ((timerHost e stackByte).setupTimer h s).1 := rfl
    obtain ⟨hwf', hle, hapart, hnew, hkeep⟩ := ih (hwf.step hstep)
    have hle₁ := Timers.nextTimer_le_step hwf hstep
    refine ⟨hwf', hle₁.trans hle, ?_, ?_, ?_⟩
    · refine List.pairwise_cons.mpr ⟨?_, hapart⟩
      intro t ht heq
      cases t with
      | none => exact heq
      | some i =>
        have hlt := (setupTimer_lasting h heq).2.1
        exact absurd hlt (Nat.not_lt.mpr (hnew i ht).1)
    · intro i hi
      obtain hi | hi := List.mem_cons.mp hi
      · obtain ⟨hge, -, hlast⟩ := setupTimer_lasting h hi.symm
        exact ⟨hge, hkeep i hlast⟩
      · exact ⟨hle₁.trans (hnew i hi).1, (hnew i hi).2⟩
    · exact fun i hlast ↦ hkeep i (hlast.step hwf hstep)

/-- The timers of an instance are distinct blocks of a timer manager in order. -/
structure Sound (w : World κ TimerMgr Φ) : Prop where
  wf : Timers.Wf w.env
  lasting : ∀ i, some i ∈ w.br.timers → Timers.Lasting w.env i
  apart : Apart w.br.timers

variable {w w' : World κ TimerMgr Φ}

theorem Sound.lt_nextTimer (h : Sound w) (hi : some i ∈ w.br.timers) : i < w.env.nextTimer := by
  obtain ⟨t, ht, -⟩ := h.lasting i hi
  exact h.wf.lt_of_some ht

theorem Sound.of_run {C : TimerMgr → Timers.Event → Prop} {es : List Timers.Event} (h : Sound w)
    (hfixed : w'.br.fixed = w.br.fixed) (hrun : Run Timers.step C w.env es w'.env) : Sound w' := by
  refine ⟨h.wf.run hrun, ?_, ?_⟩
  · intro i hi
    rw [timers_of_fixed hfixed] at hi
    exact (h.lasting i hi).run h.wf hrun
  · rw [timers_of_fixed hfixed]
    exact h.apart

section Creation

variable [OfNat κ 20000]

theorem newPort_eq (H : Host τ) (addr : MacAddress) (portNo : U32) (env : τ) :
    ((newPort (κ := κ) H addr portNo env).1.timers, (newPort (κ := κ) H addr portNo env).2) =
      setupTimers H [.messageAge portNo, .forwardDelay portNo, .hold portNo] env := rfl

theorem stpCreatePort_eq (addr : MacAddress) (portNo : U32) (w : World κ TimerMgr Φ) :
    (stpCreatePort (timerHost e stackByte) addr portNo w).1 =
      { w with
        br := { w.br with portList :=
          w.br.portList ++ [(newPort (timerHost e stackByte) addr portNo w.env).1] }
        env := (newPort (κ := κ) (timerHost e stackByte) addr portNo w.env).2 } := rfl

theorem Sound.create (h : Sound w) (addr : MacAddress) (portNo : U32) :
    Sound (stpCreatePort (timerHost e stackByte) addr portNo w).1 := by
  obtain ⟨hwf, -, hapart, hnew, hkeep⟩ := setupTimers_apart e stackByte
    [.messageAge portNo, .forwardDelay portNo, .hold portNo] h.wf
  rw [← newPort_eq (κ := κ) _ addr] at hwf hapart hnew hkeep
  have htimers : (stpCreatePort (timerHost e stackByte) addr portNo w).1.br.timers =
      w.br.timers ++ (newPort (κ := κ) (timerHost e stackByte) addr portNo w.env).1.timers := by
    rw [stpCreatePort_eq, StpInstance.timers, StpInstance.timers, List.flatMap_append,
      List.flatMap_singleton, List.append_assoc]
  refine ⟨hwf, ?_, ?_⟩
  · intro i hi
    rw [htimers] at hi
    obtain hi | hi := List.mem_append.mp hi
    · exact hkeep i (h.lasting i hi)
    · exact (hnew i hi).2
  · rw [htimers]
    refine List.pairwise_append.mpr ⟨h.apart, hapart, ?_⟩
    intro t ht t' ht' heq
    subst heq
    cases t with
    | none => rfl
    | some i => exact absurd (h.lt_nextTimer ht) (Nat.not_lt.mpr (hnew i ht').1)

omit [OfNat κ 20000] in
theorem stpInitStpInstance_timers [OfNat κ 0] (H : Host τ) (vlanId : U16) (addr : MacAddress)
    (env : τ) : ((stpInitStpInstance (κ := κ) H vlanId addr env).1.timers,
      (stpInitStpInstance (κ := κ) H vlanId addr env).2) =
      setupTimers H [.hello, .tcn, .topologyChange] env := rfl

theorem newInstance_sound [OfNat κ 0] (vlanId : U16) (addr : MacAddress)
    (portCdb : Vector PortT maxPorts) (hs : Timers.Wf s) :
    Sound (newInstance (κ := κ) (Φ := Φ) (timerHost e stackByte) vlanId addr [] portCdb s) := by
  have hsetup := setupTimers_apart e stackByte [.hello, .tcn, .topologyChange] hs
  rw [← stpInitStpInstance_timers (κ := κ) _ vlanId addr] at hsetup
  obtain ⟨hwf, -, hapart, hnew, -⟩ := hsetup
  exact ⟨hwf, fun i hi ↦ (hnew i hi).2, hapart⟩

end Creation

theorem Sound.remove (h : Sound w) :
    Sound { w with br := { w.br with portList := w.br.portList.tail } } := by
  have hsub : ({ w.br with portList := w.br.portList.tail } : StpInstance κ).timers.Sublist
      w.br.timers :=
    (List.Sublist.refl _).append ((List.tail_sublist _).flatMap _)
  exact ⟨h.wf, fun i hi ↦ h.lasting i (hsub.mem hi), h.apart.sublist hsub⟩

end Sound

def Label.events : Label κ Φ → List Timers.Event
  | .start timer secs | .record timer secs _ => [.modTimer timer secs true]
  | .stop timer | .unhold timer => timer.toList.map .delTimer
  | .transmit hold (.sent _ _ _) | .transmit hold (.dropped _) => [.modTimer hold 1 true]
  | .create portNo => [TimerHandler.messageAge portNo, .forwardDelay portNo, .hold portNo].map
      fun h ↦ .setupTimer (some h.code.1) h.code.2 true
  | .tick _ => [.tick]
  | .manager ev => [ev]
  | _ => []

def Label.sends : Label κ Φ → List (U32 × Φ)
  | .transmit _ (.sent _ portNo frame) | .notify portNo frame => [(portNo, frame)]
  | _ => []

section Did

variable {e : Endian} {stackByte : U8} {W : Wire κ Φ} {l : Label κ Φ} {w w' : World κ TimerMgr Φ}
variable {p : ℕ} {q : StpPortEntry κ} {a : Attempt Φ}

theorem run_modTimer {timer : TimerRef} {secs : U32} {env env' : TimerMgr}
    (h : (timerHost e stackByte).modTimer timer secs env = some env') :
    Run Timers.step (fun _ ev ↦ ev ∈ [Timers.Event.modTimer timer secs true]) env
      [.modTimer timer secs true] env' :=
  .one (List.mem_singleton_self _) h

theorem run_delTimer {timer : TimerRef} {env env' : TimerMgr}
    (h : (timerHost e stackByte).delTimer timer env = some env') :
    Run Timers.step (fun _ ev ↦ ev ∈ timer.toList.map Timers.Event.delTimer) env
      (timer.toList.map .delTimer) env' := by
  obtain ⟨i, rfl, h⟩ := Option.bind_eq_some_iff.mp h
  exact .one (List.mem_singleton_self _) h

theorem Attempts.run (h : Attempts (timerHost e stackByte) W p q w a w') :
    Run Timers.step (fun _ ev ↦ ev ∈ (Label.transmit (κ := κ) q.holdTimer a).events) w.env
      (Label.transmit (κ := κ) q.holdTimer a).events w'.env := by
  cases h with
  | held _ => exact .nil _
  | aged _ _ _ _ => exact .nil _
  | sent _ _ _ _ _ _ _ henv => exact run_modTimer henv
  | dropped _ _ _ _ _ _ henv => exact run_modTimer henv

variable [Add κ] [LT κ] [DecidableLT κ] [OfNat κ 0] [OfNat κ 20000]

/-- What happens to an instance over the timer library: its own work, the ticks
with the timers that they let expire, and steps of the library that have nothing
to do with the timers of the instance. -/
inductive Did (e : Endian) (stackByte : U8) (W : Wire κ Φ) :
    Label κ Φ → World κ TimerMgr Φ → World κ TimerMgr Φ → Prop
  | works {l : Label κ Φ} {w w' : World κ TimerMgr Φ} :
      Works (timerHost e stackByte) W l w w' → Did e stackByte W l w w'
  | tick (w : World κ TimerMgr Φ) (env : TimerMgr) (ns : List Timers.AppTimer) :
      Timers.updateTimes w.env = some env → env.expdTmrs = w.env.expdTmrs ++ ns →
      Did e stackByte W (.tick (ns.map Timers.AppTimer.timer)) w { w with env := env }
  | manager (w : World κ TimerMgr Φ) (env : TimerMgr) (ev : Timers.Event) : ev ≠ .tick →
      (∀ i, some i ∈ w.br.timers → Timers.Leaves i ev) → Timers.step w.env ev = some env →
      Did e stackByte W (.manager ev) w { w with env := env }

theorem Works.run (h : Works (timerHost e stackByte) W l w w') :
    Run Timers.step (fun _ ev ↦ ev ∈ l.events) w.env l.events w'.env := by
  cases h with
  | deed h =>
    cases h with
    | start _ t secs env _ henv => exact run_modTimer henv
    | stop _ t env _ henv => exact run_delTimer henv
    | stopAge _ p q env _ _ henv => exact run_delTimer henv
    | unhold _ p q env _ _ henv => exact run_delTimer henv
    | transmit _ _ p q a _ ha => exact ha.run
    | record _ p q bpdu env _ _ henv => exact run_modTimer henv
    | _ => exact .nil _
  | assign _ _ _ _ => exact .nil _
  | create _ addr portNo =>
    refine .cons ?_ rfl (.cons ?_ rfl (.one ?_ rfl))
    all_goals simp [Label.events]
  | remove _ => exact .nil _

theorem Did.run (h : Did e stackByte W l w w') :
    Run Timers.step (fun _ ev ↦ ev ∈ l.events) w.env l.events w'.env := by
  cases h with
  | works h => exact h.run
  | tick _ env ns henv _ => exact .one (List.mem_singleton_self _) henv
  | manager _ env ev _ _ henv => exact .one (List.mem_singleton_self _) henv

theorem Did.sends (h : Did e stackByte W l w w') : w'.sent = w.sent ++ l.sends := by
  cases h with
  | works h =>
    cases h with
    | deed h =>
      cases h with
      | transmit _ _ p q a _ ha =>
        cases ha with
        | sent _ _ _ _ _ _ _ _ => rfl
        | _ => exact (List.append_nil _).symm
      | sendTcn _ portNo smac => rfl
      | _ => exact (List.append_nil _).symm
    | _ => exact (List.append_nil _).symm
  | _ => exact (List.append_nil _).symm

theorem Works.sound (h : Works (timerHost e stackByte) W l w w') (hw : Sound w) : Sound w' := by
  have hrun := h.run
  cases h with
  | deed h => exact hw.of_run ((closed_fixed_eq w.br.fixed).stable h rfl) hrun
  | assign _ br portCdb hassigned => exact hw.of_run hassigned.fixed hrun
  | create _ addr portNo => exact hw.create addr portNo
  | remove _ => exact hw.remove

theorem Did.sound (h : Did e stackByte W l w w') (hw : Sound w) : Sound w' := by
  have hrun := h.run
  cases h with
  | works h => exact h.sound hw
  | tick _ env ns _ _ => exact hw.of_run rfl hrun
  | manager _ env ev _ _ _ => exact hw.of_run rfl hrun

end Did

end Layer3Switch.Stp
