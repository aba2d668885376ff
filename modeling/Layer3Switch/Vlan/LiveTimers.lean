import Layer3Switch.Stp.Removal
import Layer3Switch.Stp.Timed
import Layer3Switch.Vlan.Reactions

namespace Layer3Switch.Vlan

open Lib Lib.Bytes
open Timers (U32 TimerId TimerMgr Gone)
open Stp (IfStatus StpInstance World PortT TimerRef MacAddress Wire timerHost maxPorts Stocked Own
  Calm)
open Rstp (BstpState Machines Calls)

/-- What happens on a switch with the timer library of this repository: an input
other than a time-out, a tick, or a step of the bottom half. -/
inductive TimedInput (Φ : Type)
  | command (c : Command)
  | message (vlanId port : U16) (m : Message Φ)
  | interface (i : Fin maxPorts) (status : IfStatus)
  | tick
  | serve
  | finish (mem : Bool)

variable {κ τ Φ : Type}

def Switch.timers (s : Switch κ τ Φ) : List TimerRef :=
  s.stpInstanceHead.flatMap StpInstance.timers ++ s.bstpList.map BstpState.bstpcallout

def timerPlatform (e : Endian) (stackByte : U8) (W : Wire κ Φ) (M : Machines TimerMgr Φ)
    (addr : MacAddress) : Platform κ TimerMgr Φ := ⟨timerHost e stackByte, W, M, addr⟩

section System

variable [Add κ] [LT κ] [DecidableLT κ] [OfNat κ 0] [OfNat κ 20000] (P : Platform κ TimerMgr Φ)

/-- The time-out handler of timer `i` runs on what it was given as data, unless
that has been freed. -/
def timeOutHandler (i : TimerId) : SwitchM κ TimerMgr Φ Unit := do
  let s ← get
  match owner StpInstance.vlanId (Stp.timeOut (Φ := Φ) · i) s.stpInstanceHead with
  | some (v, ev) => onStp (some v) (Stp.handle P.host P.wire ev)
  | none =>
    match s.bstpList.find? (·.bstpcallout == some i) with
    | some bs => onRstp (some bs.vlanId) (Rstp.bstpTick P.host P.machines)
    | none => throw .freed

def serveSwitch (s : Switch κ TimerMgr Φ) : Option (Switch κ TimerMgr Φ) :=
  (Timers.serveTimer s.env).bind fun env ↦
    match env.serving with
    | none => some { s with env := env }
    | some n => (timeOutHandler P n.timer { s with env := env }).toOption.map Prod.snd

def timedFeed (s : Switch κ TimerMgr Φ) : TimedInput Φ → Option (Switch κ TimerMgr Φ)
  | .command c => feed P s (.command c)
  | .message v port m => feed P s (.message v port m)
  | .interface i status => feed P s (.interface i status)
  | .tick => (Timers.updateTimes s.env).map fun env ↦ { s with env := env }
  | .serve => serveSwitch P s
  | .finish mem => (Timers.finishTimer mem s.env).map fun env ↦ { s with env := env }

def handlerFault (s : Switch κ TimerMgr Φ) : Option Fault :=
  (Timers.serveTimer s.env).bind fun env ↦ env.serving.bind fun n ↦
    match timeOutHandler P n.timer { s with env := env } with
    | .error f => some f
    | .ok _ => none

end System

def NoStray (s : Switch κ TimerMgr Φ) : Prop := ∀ x ∈ s.env.refs, some x.2 ∈ s.timers

instance (s : Switch κ TimerMgr Φ) : Decidable (NoStray s) :=
  inferInstanceAs (Decidable (∀ x ∈ s.env.refs, some x.2 ∈ s.timers))

def Quiet (s : Switch κ TimerMgr Φ) : TimedInput Φ → Prop
  | .command (.disable v .stp) => ∀ e ∈ s.vlan v, e.stpEnabled = true → ∀ i ∈ e.stpInstance,
      ∀ br ∈ s.stp i, ∀ t ∈ br.timers, ∀ j ∈ t, Gone s.env j
  | .command (.enable v .rstp) => ∀ e ∈ s.vlan v, ¬(e.stpEnabled ∧ e.stpMode = some .rstp) →
      ∀ i ∈ e.stpInstance, ∀ br ∈ s.stp i, ∀ q ∈ br.portList, Calm s.env q
  | _ => True

instance (s : Switch κ TimerMgr Φ) : ∀ inp, Decidable (Quiet s inp)
  | .command (.disable v .stp) => inferInstanceAs (Decidable (∀ e ∈ s.vlan v,
      e.stpEnabled = true → ∀ i ∈ e.stpInstance, ∀ br ∈ s.stp i, ∀ t ∈ br.timers, ∀ j ∈ t,
        Gone s.env j))
  | .command (.enable v .rstp) => inferInstanceAs (Decidable (∀ e ∈ s.vlan v,
      ¬(e.stpEnabled ∧ e.stpMode = some .rstp) → ∀ i ∈ e.stpInstance, ∀ br ∈ s.stp i,
        ∀ q ∈ br.portList, Calm s.env q))
  | .command (.disable _ .rstp) | .command (.enable _ .stp) | .command (.createVlan _)
  | .command (.addPort _ _ _) | .command (.delPort _ _ _) | .message _ _ _ | .interface _ _
  | .tick | .serve | .finish _ => inferInstanceAs (Decidable True)

section Timers

variable {s : Switch κ TimerMgr Φ} {v : U16} {br : StpInstance κ} {bs bs' : BstpState}
  {w : World κ TimerMgr Φ} {env env' : TimerMgr} {e : Endian} {stackByte : U8}

def Switch.others (s : Switch κ τ Φ) (v : U16) : List TimerRef :=
  (remove StpInstance.vlanId s.stpInstanceHead v).flatMap StpInstance.timers ++
    s.bstpList.map BstpState.bstpcallout

theorem timers_perm (h : s.stp v = some br) : s.timers.Perm (br.timers ++ s.others v) := by
  rw [Switch.timers, Switch.others, ← List.append_assoc]
  exact ((perm_of_lookup h).flatMap_right _).append_right _

theorem timers_putStp_perm (h : s.stp v = some br) :
    (s.putStp v w).timers.Perm (w.br.timers ++ s.others v) := by
  rw [Switch.timers, Switch.others, ← List.append_assoc]
  exact ((update_perm (Option.isSome_of_eq_some h)).flatMap_right _).append_right _

theorem timers_putRstp (hbs : s.rstp v = some bs) (h : bs'.bstpcallout = bs.bstpcallout) :
    (s.putRstp v bs' env).timers = s.timers := by
  refine congrArg (s.stpInstanceHead.flatMap StpInstance.timers ++ ·) (map_update ?_)
  intro bs₁ hbs₁
  obtain rfl := Option.some.inj (hbs.symm.trans hbs₁)
  exact h

theorem callout_mem (hbs : s.rstp v = some bs) : bs.bstpcallout ∈ s.timers :=
  List.mem_append_right _ (List.mem_map_of_mem (lookup_mem hbs))

def Accounted (s : Switch κ TimerMgr Φ) : Prop := Stocked s.timers s.env

theorem Accounted.noStray (h : Accounted s) : NoStray s := h.inUse.node

theorem accounted_boot (portCdb : Vector PortT maxPorts) :
    Accounted (boot Timers.initTimerMgr portCdb : Switch κ TimerMgr Φ) :=
  ⟨Timers.inUse_init.congr fun _ ↦ by simp [Switch.timers, boot], .nil⟩

theorem Accounted.own (h : Accounted s) (hbr : s.stp v = some br) : Own (s.others v) (s.world br) :=
  Stocked.perm h (timers_perm hbr)

theorem accounted_putStp (hbr : s.stp v = some br) (hw : Own (s.others v) w) :
    Accounted (s.putStp v w) :=
  Stocked.perm hw (timers_putStp_perm hbr).symm

theorem stocked_calls {l : List TimerRef} {t : TimerRef} (h : Stocked l env) (ht : t ∈ l)
    (hcalls : Calls (timerHost e stackByte) t env env') : Stocked l env' := by
  induction hcalls with
  | refl => exact h
  | mod env' env'' secs _ hm ih => exact ih.modTimer ht hm

theorem calm_calls {q : Stp.StpPortEntry κ} {t : TimerRef} (h : Calm env q)
    (hne : ∀ i, some i ∈ q.timers → t ≠ some i)
    (hcalls : Calls (timerHost e stackByte) t env env') : Calm env' q := by
  induction hcalls with
  | refl => exact h
  | mod env' env'' secs _ hm ih => exact ih.modTimer_ne hne hm

theorem Accounted.putRstp (h : Accounted s) (hbs : s.rstp v = some bs)
    (hcallout : bs'.bstpcallout = bs.bstpcallout)
    (hcalls : Calls (timerHost e stackByte) bs.bstpcallout s.env env) :
    Accounted (s.putRstp v bs' env) := by
  rw [Accounted, timers_putRstp hbs hcallout]
  exact stocked_calls h (callout_mem hbs) hcalls

end Timers

section Effects

variable {s s₁ s' : Switch κ TimerMgr Φ} {v : U16} {br : StpInstance κ} {bs bs' : BstpState}
  {w w' : World κ TimerMgr Φ} {env env' : TimerMgr} {e : Endian} {stackByte : U8} {W : Wire κ Φ}
  {M : Machines TimerMgr Φ} {addr : MacAddress} {ports : List U32} {O : List TimerRef}

theorem rstpCreatePorts_calls {cdb : Vector PortT maxPorts}
    (h : rstpCreatePorts (timerPlatform (κ := κ) e stackByte W M addr) cdb ports bs env =
      some (bs', env')) : Calls (timerHost e stackByte) bs.bstpcallout env env' := by
  induction ports generalizing bs env with
  | nil =>
    obtain ⟨-, rfl⟩ := Prod.mk.inj (Option.some.inj h)
    exact .refl env
  | cons n ports ih =>
    rw [rstpCreatePorts, List.foldlM_cons] at h
    obtain ⟨⟨bs₁, env₁⟩, h₁, h₂⟩ := Option.bind_eq_some_iff.mp h
    obtain ⟨t, -, hcreate⟩ := Option.bind_eq_some_iff.mp h₁
    have hrest := ih h₂
    rw [(Rstp.rstpCreatePort_spec hcreate).1.bstpcallout] at hrest
    exact (Rstp.rstpCreatePort_calls hcreate).trans hrest

theorem startRstp_calls {cdb : Vector PortT maxPorts}
    (h : startRstp (timerPlatform (κ := κ) e stackByte W M addr) cdb ports bs env =
      some (bs', env')) :
    bs'.bstpcallout = bs.bstpcallout ∧ Calls (timerHost e stackByte) bs.bstpcallout env env' := by
  obtain ⟨⟨bs₁, env₁⟩, h₁, h₂⟩ := Option.bind_eq_some_iff.mp h
  have hcallout := (rstpCreatePorts_spec h₁).1.bstpcallout
  obtain ⟨hcallout', hcalls⟩ := Rstp.bstpInit_calls h₂
  rw [hcallout] at hcallout' hcalls
  exact ⟨hcallout', (rstpCreatePorts_calls h₁).trans hcalls⟩

theorem message_calls {m : Message Φ} {p : ℕ}
    (h : m.rstp (timerPlatform (κ := κ) e stackByte W M addr) p bs env = some (bs', env')) :
    bs'.bstpcallout = bs.bstpcallout ∧ Calls (timerHost e stackByte) bs.bstpcallout env env' := by
  cases m with
  | bpdu frame =>
    obtain ⟨rfl, rfl⟩ := Prod.mk.inj (Option.some.inj h)
    exact ⟨rfl, .refl env⟩
  | link status =>
    cases status with
    | up => exact ⟨(Rstp.bstpEnable_spec h).1.bstpcallout, Rstp.bstpEnable_calls h⟩
    | down => exact ⟨(Rstp.bstpDisable_spec h).1.bstpcallout, Rstp.bstpDisable_calls h⟩

theorem Accounted.withRstp (h : Accounted s)
    (h₁ : WithRstp (timerPlatform (κ := κ) e stackByte W M addr) s v s₁) : Accounted s₁ := by
  cases h₁ with
  | old _ => exact h
  | new _ =>
    refine (Stocked.setupTimers h [.bstpTick]).perm ?_
    simp only [Switch.timers, Switch.newRstp, List.map_append, ← List.append_assoc]
    rw [List.append_assoc]
    exact List.perm_append_comm

variable [OfNat κ 0]

theorem Accounted.withStp (h : Accounted s)
    (h₁ : WithStp (timerPlatform (κ := κ) e stackByte W M addr) s v s₁) : Accounted s₁ := by
  cases h₁ with
  | old _ => exact h
  | new _ =>
    let new := Stp.setupTimers (timerHost e stackByte) [.hello, .tcn, .topologyChange] s.env
    have hsetup : Stocked (new.1 ++ s.timers) new.2 := Stocked.setupTimers h _
    have hnew : _ = new := Stp.stpInitStpInstance_timers (κ := κ)
      (timerHost e stackByte) v addr s.env
    rw [← hnew] at hsetup
    refine hsetup.perm ?_
    simp only [Switch.timers, Switch.newStp, List.flatMap_append, ← List.append_assoc]
    refine List.Perm.append_right _ ?_
    exact List.perm_append_comm

variable [OfNat κ 20000]

omit [OfNat κ 0] in
theorem stpCreatePorts_own
    (h : stpCreatePorts (timerPlatform e stackByte W M addr) ports w = some ((), w'))
    (hw : Own O w) : Own O w' := by
  induction ports generalizing w with
  | nil =>
    obtain ⟨-, rfl⟩ := Prod.mk.inj (Option.some.inj h)
    exact hw
  | cons n ports ih => exact ih h (hw.create addr n)

variable [Add κ] [LT κ] [DecidableLT κ]

theorem startStp_own (h : startStp (timerPlatform e stackByte W M addr) ports w = some ((), w'))
    (hw : Own O w) : Own O w' := by
  obtain ⟨⟨_, w₁⟩, h₁, h₂⟩ := Option.bind_eq_some_iff.mp h
  have hstable : Stp.Stable (timerHost e stackByte) W (fun _ _ ↦ True) (Own (Φ := Φ) O) :=
    Stp.stable_own O
  have henable : Lib.Ends (Stp.stpSetState (timerHost e stackByte) W true) w₁ fun _ w' ↦
    Own O w' := by
    have hset : Lib.Ends (if true = true then Stp.stpEnable (timerHost e stackByte) W
        else Stp.stpDisable (timerHost e stackByte) W) w₁ fun _ w' ↦ Own O w' := by
      rw [if_pos rfl]
      exact Stp.stpEnable_keeps hstable (stpCreatePorts_own h₁ hw)
    refine hset.andThen ?_
    intro _ w h
    exact Stp.setBridge_keeps hstable.inPlace ⟨rfl⟩ h
  exact henable () w' h₂

omit [OfNat κ 20000] in
theorem handle_own {ev : Stp.Event TimerMgr Φ} (hev : ev.Internal)
    (h : Stp.handle (timerHost e stackByte) W ev w = some ((), w')) (hw : Own O w) : Own O w' :=
  Stp.handle_internal_keeps (Stp.stable_own O) hev (fun _ _ _ _ _ _ ↦ trivial) hw () w' h

theorem Accounted.effect {c : Command} (h : Accounted s) (hquiet : Quiet s (.command c))
    (heff : Effect (timerPlatform e stackByte W M addr) s c s') : Accounted s' := by
  cases heff with
  | idle | createVlan | addPort | delPort | disableRstp => exact h
  | addStpPort v port type ent lists i br w _ _ _ _ hbr hm =>
    exact accounted_putStp (s := s.putVlan _) hbr (stpCreatePorts_own hm (h.own hbr))
  | enableStp v ent s₁ br w _ _ h₁ hbr hm =>
    exact accounted_putStp hbr (startStp_own hm ((h.withStp h₁).own hbr))
  | returnToStp v ent i br w _ _ _ hbr hm =>
    exact accounted_putStp (s := s.putVlan _) hbr (startStp_own hm (h.own hbr))
  | enableRstp v ent s₁ bs bs' env _ _ _ h₁ hbs hm =>
    obtain ⟨hcallout, hcalls⟩ := startRstp_calls hm
    exact (h.withRstp h₁).putRstp hbs hcallout hcalls
  | replaceStp v ent s₁ bs bs' env i br w he hnot hi h₁ hbs hm hbr hset =>
    obtain ⟨hcallout, hcalls⟩ := startRstp_calls hm
    have hbr₁ : s₁.stp i = some br := h₁.stp.trans hbr
    have hall := (h.withRstp h₁).putRstp hbs hcallout hcalls
    have hcalm : ∀ q ∈ br.portList, Calm env q := by
      intro q hq
      have hmine : ∀ j, some j ∈ q.timers → some j ∈ br.timers := fun j hj ↦
        List.mem_append_right _ (List.mem_flatMap.mpr ⟨q, hq, hj⟩)
      have hcalm₁ : Calm s₁.env q := by
        cases h₁ with
        | old _ => exact hquiet ent he hnot i hi br hbr q hq
        | new _ =>
          refine (hquiet ent he hnot i hi br hbr q hq).setupTimer ?_ h.inUse.wf .bstpTick
          intro j hj
          exact (h.own hbr).inUse.lasting j (List.mem_append_left _ (hmine j hj))
      refine calm_calls hcalm₁ ?_ hcalls
      intro j hj
      exact ((h.withRstp h₁).own hbr₁).ne (List.mem_append_right _ (List.mem_map_of_mem
        (lookup_mem hbs))) (hmine j hj)
    exact accounted_putStp (s := s₁.putRstp v bs' env) hbr₁
      (Stp.stpSetState_own (hall.own hbr₁) hcalm () w hset)
  | disableStp v ent i he hen hi hsome =>
    obtain ⟨br, hbr⟩ := Option.isSome_iff_exists.mp hsome
    have hown := h.own hbr
    have hsub : (s.others i).Sublist (br.timers ++ s.others i) := List.sublist_append_right _ _
    refine ⟨hown.inUse.give_up (fun j hj ↦ hsub.mem hj) ?_, hown.apart.sublist hsub⟩
    intro j hj
    obtain hj | hj := List.mem_append.mp hj
    · exact .inr (hquiet ent he hen i hi br hbr (some j) hj j rfl)
    · exact .inl hj

end Effects

section Run

variable {s s' : Switch κ TimerMgr Φ} {e : Endian} {stackByte : U8} {W : Wire κ Φ}
  {M : Machines TimerMgr Φ} {addr : MacAddress} {i : TimerId}
  [Add κ] [LT κ] [DecidableLT κ] [OfNat κ 0] [OfNat κ 20000]

theorem Accounted.reaction {inp : Input TimerMgr Φ} (h : Accounted s)
    (hr : Reaction (timerPlatform e stackByte W M addr) s inp s')
    (hquiet : ∀ c, inp = .command c → Quiet s (.command c)) (hhost : ∀ env, inp ≠ .host env) :
    Accounted s' := by
  cases hr with
  | command c s' heff => exact h.effect (hquiet c rfl) heff
  | ignored | interface => exact h
  | stp v port v' m p br w _ _ hbr hm =>
    exact accounted_putStp hbr (handle_own (m.event_internal port) hm (h.own hbr))
  | rstp v port v' m p bs bs' env _ _ hbs hm =>
    obtain ⟨hcallout, hcalls⟩ := message_calls hm
    exact h.putRstp hbs hcallout hcalls
  | expiry v timer br w hbr hm =>
    exact accounted_putStp hbr (handle_own timer.event_internal hm (h.own hbr))
  | bstpTick v bs bs' env hbs hm =>
    exact h.putRstp hbs (Rstp.bstpTick_spec hm).1.bstpcallout (Rstp.bstpTick_calls hm)
  | host env => exact absurd rfl (hhost env)

omit [OfNat κ 20000] in
theorem timeOutHandler_outcome (h : Accounted s) (hi : some i ∈ s.timers) :
    Outcome (timeOutHandler (timerPlatform e stackByte W M addr) i) s (· ≠ .freed) fun _ s' ↦
      Accounted s' := by
  apply Outcome.get
  cases hown : owner StpInstance.vlanId (Stp.timeOut (Φ := Φ) · i) s.stpInstanceHead with
  | some x =>
    obtain ⟨br₀, hbr₀, heq⟩ := List.exists_of_findSome?_eq_some hown
    obtain ⟨ev, hev, rfl⟩ := Option.map_eq_some_iff.mp heq
    have hsome : (s.stp br₀.vlanId).isSome := lookup_isSome.mpr (List.mem_map_of_mem hbr₀)
    obtain ⟨br, hbr⟩ := Option.isSome_iff_exists.mp hsome
    refine onStp_live hbr nofun ?_
    intro _ w hm
    exact accounted_putStp hbr (handle_own (Stp.timeOut_internal hev) hm (h.own hbr))
  | none =>
    have hcallout : ∃ bs ∈ s.bstpList, bs.bstpcallout = some i := by
      obtain hi | hi := List.mem_append.mp hi
      · obtain ⟨br, hbr, hi⟩ := List.mem_flatMap.mp hi
        obtain ⟨ev, hev⟩ := Option.isSome_iff_exists.mp (Stp.timeOut_isSome (Φ := Φ) hi)
        have hnone := List.findSome?_eq_none_iff.mp hown br hbr
        cases (Option.map_eq_none_iff.mp hnone).symm.trans hev
      · exact List.mem_map.mp hi
    cases hfind : s.bstpList.find? (·.bstpcallout == some i) with
    | none =>
      obtain ⟨bs, hbs, hbsi⟩ := hcallout
      exact absurd (beq_iff_eq.mpr hbsi) (List.find?_eq_none.mp hfind bs hbs)
    | some bs₀ =>
      have hmem := List.mem_of_find?_eq_some hfind
      have hsome : (s.rstp bs₀.vlanId).isSome := lookup_isSome.mpr (List.mem_map_of_mem hmem)
      obtain ⟨bs, hbs⟩ := Option.isSome_iff_exists.mp hsome
      refine onRstp_live hbs nofun ?_
      intro bs' env hm
      exact h.putRstp hbs (Rstp.bstpTick_spec hm).1.bstpcallout (Rstp.bstpTick_calls hm)

theorem Accounted.timedFeed {inp : TimedInput Φ} (h : Accounted s) (hquiet : Quiet s inp)
    (hfeed : timedFeed (timerPlatform e stackByte W M addr) s inp = some s') : Accounted s' := by
  cases inp with
  | command c =>
    refine h.reaction (feed_reaction hfeed) ?_ nofun
    intro c' hc
    obtain rfl := Input.command.inj hc
    exact hquiet
  | message v port m => exact h.reaction (feed_reaction hfeed) nofun nofun
  | interface i status => exact h.reaction (feed_reaction hfeed) nofun nofun
  | tick =>
    obtain ⟨env, henv, rfl⟩ := Option.map_eq_some_iff.mp hfeed
    exact ⟨h.inUse.updateTimes henv, h.apart⟩
  | serve =>
    obtain ⟨env, henv, hrest⟩ := Option.bind_eq_some_iff.mp hfeed
    have henv' : Accounted { s with env := env } := ⟨h.inUse.serveTimer henv, h.apart⟩
    split at hrest
    · obtain rfl := Option.some.inj hrest
      exact henv'
    · rename_i n hn
      obtain ⟨-, hs'⟩ := (timeOutHandler_outcome henv' (henv'.inUse.serving hn)).of_toOption hrest
      exact hs'
  | finish mem =>
    obtain ⟨env, henv, rfl⟩ := Option.map_eq_some_iff.mp hfeed
    exact ⟨h.inUse.finishTimer henv, h.apart⟩

omit [OfNat κ 20000] in
theorem Accounted.handlerFault (h : Accounted s) :
    handlerFault (timerPlatform e stackByte W M addr) s ≠ some .freed := by
  intro hfault
  obtain ⟨env, henv, hrest⟩ := Option.bind_eq_some_iff.mp hfault
  obtain ⟨n, hn, hrest⟩ := Option.bind_eq_some_iff.mp hrest
  have henv' : Accounted { s with env := env } := ⟨h.inUse.serveTimer henv, h.apart⟩
  have hout : Outcome (timeOutHandler (timerPlatform e stackByte W M addr) n.timer)
      { s with env := env } (· ≠ .freed) fun _ s' ↦ Accounted s' :=
    timeOutHandler_outcome henv' (henv'.inUse.serving hn)
  split at hrest
  · rename_i f hf
    exact hout.1 f hf (Option.some.inj hrest)
  · cases hrest

theorem Accounted.disable_iff {v : U16} (h : Accounted s)
    (hfeed : Vlan.timedFeed (timerPlatform e stackByte W M addr) s (.command (.disable v .stp)) =
      some s') : NoStray s' ↔ Quiet s (.command (.disable v .stp)) := by
  refine ⟨?_, fun hquiet ↦ (h.timedFeed hquiet hfeed).noStray⟩
  intro hstray ent he hen i hi br hbr t ht j hj x hx hxj
  cases feed_reaction hfeed with
  | command c s' heff =>
    cases heff with
    | idle c hidle => cases hen.symm.trans (hidle ent he)
    | disableStp v ent' i' he' _ hi' _ =>
      obtain rfl := Option.some.inj (he.symm.trans he')
      obtain rfl := Option.some.inj (hi.symm.trans hi')
      have hmem : some x.2 ∈ s.others i := hstray x hx
      exact (h.own hbr).ne hmem (hj ▸ ht) (congrArg some hxj)

/-- In every run in which the two commands that free find the timers quiet, every
node is of a timer of a live instance or port, and no handler runs on freed memory. -/
theorem timers_of_live_objects (e : Endian) (stackByte : U8) (W : Wire κ Φ)
    (M : Machines TimerMgr Φ) (addr : MacAddress) (portCdb : Vector PortT maxPorts)
    {is : List (TimedInput Φ)}
    (hrun : Run (Vlan.timedFeed (timerPlatform e stackByte W M addr)) Quiet
      (boot Timers.initTimerMgr portCdb) is s) :
    NoStray s ∧ Vlan.handlerFault (timerPlatform e stackByte W M addr) s ≠ some .freed ∧
      ∀ v s', Vlan.timedFeed (timerPlatform e stackByte W M addr) s (.command (.disable v .stp)) =
        some s' → (NoStray s' ↔ Quiet s (.command (.disable v .stp))) := by
  have hall : Accounted s :=
    hrun.invariant (fun _ _ _ h hquiet hfeed ↦ h.timedFeed hquiet hfeed) (accounted_boot portCdb)
  exact ⟨hall.noStray, hall.handlerFault, fun v s' hfeed ↦ hall.disable_iff hfeed⟩

end Run

def plainTimed : Platform Int32 TimerMgr (List U8) :=
  timerPlatform .little 0 (Stp.frames .little) plainPlatform.machines plainPlatform.thisBridge

def stpStart : List (TimedInput (List U8)) :=
  [.command (.createVlan 1), .command (.addPort 1 1 .tagged), .interface 0 .up,
    .command (.enable 1 .stp), .tick]

/-- RSTP takes over, and the STP instance is deleted. -/
theorem timers_of_live_objects_takeover :
    ∃ s, Run (timedFeed plainTimed) Quiet plainBoot
      (stpStart ++ [.command (.enable 1 .rstp), .command (.disable 1 .stp)]) s ∧
      NoStray s ∧ handlerFault plainTimed s ≠ some .freed := by
  have hcheck : ((exec (fun s inp ↦ if Quiet s inp then timedFeed plainTimed s inp else none)
      plainBoot stpStart).any fun s₁ ↦
      decide (∀ br ∈ s₁.stpInstanceHead, ∀ q ∈ br.portList, Calm s₁.env q) &&
      (timedFeed plainTimed s₁ (.command (.enable 1 .rstp))).any fun s₂ ↦
        decide (∀ br ∈ s₂.stpInstanceHead, ∀ t ∈ br.timers, ∀ j ∈ t, Gone s₂.env j) &&
        (timedFeed plainTimed s₂ (.command (.disable 1 .stp))).isSome) = true := by
    decide +kernel
  simp only [Option.any_eq_true, Bool.and_eq_true, decide_eq_true_eq,
    Option.isSome_iff_exists] at hcheck
  obtain ⟨s₁, h₁, hcalm, s₂, h₂, hgone, s, h₃⟩ := hcheck
  have hrun : Run (timedFeed plainTimed) Quiet plainBoot
      (stpStart ++ [.command (.enable 1 .rstp), .command (.disable 1 .stp)]) s := by
    refine (run_of_exec h₁).guarded.trans (.cons ?_ h₂ (.cons ?_ h₃ (.nil s)))
    · intro _ _ _ _ _ br hbr
      exact hcalm br (lookup_mem hbr)
    · intro _ _ _ _ _ br hbr
      exact hgone br (lookup_mem hbr)
  have hlive := timers_of_live_objects .little 0 (Stp.frames .little) plainPlatform.machines
    plainPlatform.thisBridge _ hrun
  exact ⟨s, hrun, hlive.1, hlive.2.1⟩

/-- STP is switched on and off again: the hello timer of the instance stays armed. -/
theorem deleted_instance_stays_armed :
    ∃ s, Run (timedFeed plainTimed) (fun _ _ ↦ True) plainBoot
      [.command (.createVlan 1), .command (.enable 1 .stp), .command (.disable 1 .stp)] s ∧
      ¬NoStray s := by
  have hcheck : ((exec (timedFeed plainTimed) plainBoot
      [.command (.createVlan 1), .command (.enable 1 .stp), .command (.disable 1 .stp)]).any
        fun s ↦ decide (¬NoStray s)) = true := by decide +kernel
  simp only [Option.any_eq_true, decide_eq_true_eq] at hcheck
  obtain ⟨s, hs, hstray⟩ := hcheck
  exact ⟨s, run_of_exec hs, hstray⟩

end Layer3Switch.Vlan
