import Layer3Switch.Bridge.Frames
import Layer3Switch.Mem.PoolSteps

namespace Layer3Switch.Bridge

open Lib Lib.Bytes Mem Timers Stp

/-- The tasks that send messages: the one that receives packets, in `process_pkt`, and
the one of the command line. -/
inductive Task where
  | driver
  | cli

/-- Where a sending task is: out of the two functions, in `alloc_block`, or on the way to
`msg_send` with the block it has filled. -/
inductive SendPc where
  | idle
  | alloc (d : StpMsgInit) (call : BlockCall)
  | send (msg : ℤ)

/-- Where `stpmgr_task` is: in `msg_rcv`, at work on a message, or in `free_blk`. -/
inductive MgrPc where
  | waiting
  | working (msg : ℤ)
  | freeing (call : BlockCall)

structure Tasks where
  rx : Rx
  driver : SendPc
  cli : SendPc
  mgr : MgrPc

namespace Tasks

def start (rx : Rx) : Tasks := ⟨rx, .idle, .idle, .waiting⟩

def sender (s : Tasks) : Task → SendPc
  | .driver => s.driver
  | .cli => s.cli

def setSender (t : Task) (pc : SendPc) (s : Tasks) : Tasks :=
  match t with
  | .driver => { s with driver := pc }
  | .cli => { s with cli := pc }

/-- `alloc_block` has returned. -/
def allocated (t : Task) (d : StpMsgInit) (r : Option ℤ) (s : Tasks) : Tasks :=
  match r with
  | none => s.setSender t .idle
  | some msg => { s with rx := s.rx.fill d msg }.setSender t (.send msg)

def allocating (t : Task) (d : StpMsgInit) (c : BlockCall) (s : Tasks) : Tasks :=
  match c with
  | .ret r => s.allocated t d r
  | .access write next => s.setSender t (.alloc d (.access write next))

def freeing (c : BlockCall) (s : Tasks) : Tasks :=
  match c with
  | .ret _ => { s with mgr := .waiting }
  | .access write next => { s with mgr := .freeing (.access write next) }

/-- `stpmgr_task` frees the frame of the message it has worked on. -/
def Rx.freeFrame (msg : ℤ) (s : Rx) : Rx :=
  match (s.mem msg).body with
  | .bpdu pkt => { s with freed := s.freed ++ [pkt] }
  | .events _ => s

end Tasks

/-- One step of a task. `access` and `free` are single accesses to the pool, by a sender
and by the manager. `msg_send` and `msg_rcv` hold the mutex of the queue. -/
inductive TaskStep where
  | frame (allowed : Bool) (secs : U32) (p : EtherHdr) (len : ℤ) (port : U16)
  | link (port : U16) (status : IfStatus)
  | access (t : Task)
  | send (t : Task)
  | rcv
  | work
  | free

namespace Tasks

def step (e : Endian) (fdbSalt : U32) (s : Tasks) : TaskStep → Option Tasks
  | .frame allowed secs p len port =>
    match s.driver with
    | .idle =>
      match takePkt e fdbSalt allowed secs p port s.rx with
      | (false, rx) => some { s with rx := rx }
      | (true, rx) => some { s with
          rx := rx
          driver := .alloc (bpduMsg s.rx.given port.toNat 1 len) (.allocBlock rx.pool.nblks) }
    | _ => none
  | .link port status =>
    match s.cli with
    | .idle => some { s with
        rx := s.rx.setPort port status
        cli := .alloc (eventMsg status port.toNat 1) (.allocBlock s.rx.pool.nblks) }
    | _ => none
  | .access t =>
    match s.sender t with
    | .alloc d (.access write next) =>
      some ({ s with rx := { s.rx with pool := write s.rx.pool } }.allocating t d (next s.rx.pool))
    | _ => none
  | .send t =>
    match s.sender t with
    | .send msg => (s.rx.post msg).map fun rx ↦ { s with rx := rx }.setSender t .idle
    | _ => none
  | .rcv =>
    match s.mgr with
    | .waiting => (msgRcv s.rx.queue).map fun x ↦
        { s with rx := { s.rx with queue := x.2 }, mgr := .working x.1 }
    | _ => none
  | .work =>
    match s.mgr with
    | .working msg => (BlockCall.freeBlk s.rx.pool msg).map fun c ↦
        { s with rx := Rx.freeFrame msg s.rx }.freeing c
    | _ => none
  | .free =>
    match s.mgr with
    | .freeing (.access write next) =>
      some ({ s with rx := { s.rx with pool := write s.rx.pool } }.freeing (next s.rx.pool))
    | _ => none

end Tasks

def SendPc.inPool : SendPc → Bool
  | .alloc _ _ => true
  | _ => false

def MgrPc.inPool : MgrPc → Bool
  | .freeing _ => true
  | _ => false

/-- The block in the hands of a task. -/
def SendPc.held : SendPc → List ℤ
  | .send msg => [msg]
  | _ => []

def MgrPc.held : MgrPc → List ℤ
  | .working msg => [msg]
  | _ => []

theorem SendPc.eq_idle_iff (pc : SendPc) : pc = .idle ↔ pc.held = [] ∧ pc.inPool = false := by
  cases pc <;> simp [SendPc.held, SendPc.inPool]

theorem MgrPc.eq_waiting_iff (pc : MgrPc) : pc = .waiting ↔ pc.held = [] ∧ pc.inPool = false := by
  cases pc <;> simp [MgrPc.held, MgrPc.inPool]

instance (pc : SendPc) : Decidable (pc = .idle) := decidable_of_iff _ pc.eq_idle_iff.symm

instance (pc : MgrPc) : Decidable (pc = .waiting) := decidable_of_iff _ pc.eq_waiting_iff.symm

namespace Tasks

/-- How many tasks are in `alloc_block` or `free_blk`. -/
def inPool (s : Tasks) : ℕ := s.driver.inPool.toNat + s.cli.inPool.toNat + s.mgr.inPool.toNat

/-- A call of `alloc_block` or `free_blk` begins only while no other is under way. -/
def Alone (e : Endian) (s : Tasks) : TaskStep → Prop
  | .frame _ _ p _ port => s.rx.oper port = .down ∨ s.rx.admin port = .down ∨
      isDestStpGroupAddress e p.dmac = false ∨ s.inPool = 0
  | .link _ _ | .work => s.inPool = 0
  | _ => True

/-- `process_pkt` leaves no frame behind: one for a port that is up is a BPDU. -/
def Taken (e : Endian) (s : Tasks) : TaskStep → Prop
  | .frame _ _ p _ port => s.rx.oper port = .down ∨ s.rx.admin port = .down ∨
      isDestStpGroupAddress e p.dmac = true
  | _ => True

/-- A message is sent while the queue has a node left. -/
def Room (s : Tasks) : TaskStep → Prop
  | .send _ => s.rx.queue.messages.length < sizeofMsg
  | _ => True

def Careful (e : Endian) (s : Tasks) (ev : TaskStep) : Prop := s.Taken e ev ∧ s.Room ev

instance (e : Endian) (s : Tasks) : DecidablePred (s.Alone e)
  | .frame _ _ p _ port => inferInstanceAs (Decidable (s.rx.oper port = .down ∨
      s.rx.admin port = .down ∨ isDestStpGroupAddress e p.dmac = false ∨ s.inPool = 0))
  | .link _ _ | .work => inferInstanceAs (Decidable (s.inPool = 0))
  | .access _ | .send _ | .rcv | .free => .isTrue trivial

instance (e : Endian) (s : Tasks) : DecidablePred (s.Taken e)
  | .frame _ _ p _ port => inferInstanceAs (Decidable (s.rx.oper port = .down ∨
      s.rx.admin port = .down ∨ isDestStpGroupAddress e p.dmac = true))
  | .link _ _ | .access _ | .send _ | .rcv | .work | .free => .isTrue trivial

instance (s : Tasks) : DecidablePred s.Room
  | .send _ => inferInstanceAs (Decidable (s.rx.queue.messages.length < sizeofMsg))
  | .frame _ _ _ _ _ | .link _ _ | .access _ | .rcv | .work | .free => .isTrue trivial

instance (e : Endian) (s : Tasks) (ev : TaskStep) : Decidable (s.Careful e ev) :=
  inferInstanceAs (Decidable (_ ∧ _))

/-! ### Calls under way -/

/-- The state once the call that a sender has under way is over. -/
def settleSender (t : Task) (s : Tasks) : Tasks :=
  match s.sender t with
  | .alloc d c =>
    { s with rx := { s.rx with pool := (c.finish s.rx.pool).2 } }.allocated t d
      (c.finish s.rx.pool).1
  | _ => s

def settleMgr (s : Tasks) : Tasks :=
  match s.mgr with
  | .freeing c => { s with rx := { s.rx with pool := (c.finish s.rx.pool).2 }, mgr := .waiting }
  | _ => s

/-- The state once all calls are over. -/
def settled (s : Tasks) : Tasks := ((s.settleSender .driver).settleSender .cli).settleMgr

variable {e : Endian} {fdbSalt : U32} {s s' : Tasks} {t : Task} {d : StpMsgInit} {c : BlockCall}
  {msg : ℤ} {evs : List TaskStep}

theorem settleSender_of_not (h : (s.sender t).inPool = false) : s.settleSender t = s := by
  unfold settleSender
  cases hpc : s.sender t with
  | alloc d c =>
    rw [hpc] at h
    cases h
  | idle | send msg => rfl

theorem settleMgr_of_not (h : s.mgr.inPool = false) : s.settleMgr = s := by
  unfold settleMgr
  cases hpc : s.mgr with
  | freeing c =>
    rw [hpc] at h
    cases h
  | waiting | working msg => rfl

theorem settled_of_free (h : s.inPool = 0) : s.settled = s := by
  obtain ⟨rx, driver, cli, mgr⟩ := s
  cases driver <;> cases cli <;> cases mgr <;> first | rfl | cases h

theorem settleSender_allocating (c : BlockCall) :
    (s.allocating t d c).settleSender t =
      { s with rx := { s.rx with pool := (c.finish s.rx.pool).2 } }.allocated t d
        (c.finish s.rx.pool).1 := by
  cases c with
  | ret r => cases t <;> cases r <;> rfl
  | access write next =>
    cases t <;> simp only [allocating, settleSender, setSender, sender] <;>
      cases (BlockCall.finish (.access write next) s.rx.pool).1 <;> rfl

theorem settleMgr_freeing (c : BlockCall) :
    (s.freeing c).settleMgr =
      { s with rx := { s.rx with pool := (c.finish s.rx.pool).2 }, mgr := .waiting } := by
  cases c <;> rfl

theorem allocating_cli_driver (c : BlockCall) : (s.allocating .cli d c).driver = s.driver := by
  cases c with
  | ret r => cases r <;> rfl
  | access write next => rfl

theorem driver_not_inPool (h : s.inPool ≤ 1) (hcli : s.cli.inPool = true) :
    s.driver.inPool = false := by
  by_contra hin
  rw [Bool.not_eq_false] at hin
  rw [inPool, hcli, hin, Bool.toNat_true] at h
  omega

theorem settled_access (h : s.inPool ≤ 1)
    (hstep : s.step e fdbSalt (.access t) = some s') : s'.settled = s.settled ∧ s'.inPool ≤ 1 := by
  cases hpc : s.sender t with
  | idle | send msg => simp [step, hpc] at hstep
  | alloc d c =>
    cases c with
    | ret r => simp [step, hpc] at hstep
    | access write next =>
      simp only [step, hpc, Option.some.injEq] at hstep
      subst hstep
      have hsettle : ∀ x : Tasks, x = { s with rx := { s.rx with pool := write s.rx.pool } } →
          (x.allocating t d (next s.rx.pool)).settleSender t = s.settleSender t := by
        rintro x rfl
        rw [settleSender_allocating, settleSender, hpc]
        rfl
      have hfew : ∀ c, ({ s with rx := { s.rx with pool := write s.rx.pool } }.allocating t d
          c).inPool ≤ s.inPool := by
        intro c
        cases t <;> cases c with
        | ret r => cases r <;> simp [allocating, allocated, setSender, inPool, SendPc.inPool]
        | access => simp [allocating, setSender, inPool, SendPc.inPool, sender] at hpc ⊢; simp [hpc]
      refine ⟨?_, (hfew _).trans h⟩
      cases t with
      | driver => rw [settled, hsettle _ rfl, settled]
      | cli =>
        have hdriver := driver_not_inPool h (by rw [show s.cli = _ from hpc]; rfl)
        have hdriver' : ((allocating .cli d (next s.rx.pool)
            { s with rx := { s.rx with pool := write s.rx.pool } }).sender .driver).inPool =
              false :=
          (congrArg SendPc.inPool (allocating_cli_driver _)).trans hdriver
        rw [settled, settleSender_of_not hdriver', hsettle _ rfl, settled,
          settleSender_of_not (t := .driver) hdriver]

theorem settled_freeing (hdriver : s.driver.inPool = false) (hcli : s.cli.inPool = false)
    (c : BlockCall) : (s.freeing c).settled =
      { s with rx := { s.rx with pool := (c.finish s.rx.pool).2 }, mgr := .waiting } := by
  have hnot : ∀ t, ((s.freeing c).sender t).inPool = false := by
    intro t
    cases t <;> cases c
    · exact hdriver
    · exact hdriver
    · exact hcli
    · exact hcli
  rw [settled, settleSender_of_not (hnot _), settleSender_of_not (hnot _), settleMgr_freeing]

theorem settled_free (h : s.inPool ≤ 1)
    (hstep : s.step e fdbSalt .free = some s') : s'.settled = s.settled ∧ s'.inPool ≤ 1 := by
  cases hpc : s.mgr with
  | waiting | working msg => simp [step, hpc] at hstep
  | freeing c =>
    cases c with
    | ret r => simp [step, hpc] at hstep
    | access write next =>
      simp only [step, hpc, Option.some.injEq] at hstep
      subst hstep
      obtain ⟨hdriver, hcli⟩ : s.driver.inPool = false ∧ s.cli.inPool = false := by
        rw [inPool, hpc, show (MgrPc.freeing _).inPool = true from rfl, Bool.toNat_true] at h
        constructor <;> by_contra hin <;> rw [Bool.not_eq_false] at hin <;>
          rw [hin, Bool.toNat_true] at h <;> omega
      constructor
      · refine (settled_freeing (by exact hdriver) (by exact hcli) _).trans ?_
        rw [settled, settleSender_of_not (t := .driver) hdriver,
          settleSender_of_not (t := .cli) hcli, settleMgr, hpc]
        rfl
      · cases next s.rx.pool <;> simp [freeing, inPool, hdriver, hcli, MgrPc.inPool]

theorem settled_rx (s : Tasks) :
    ∃ pool mem, s.settled.rx = { s.rx with pool := pool, mem := mem } := by
  have hsender : ∀ (t : Task) (s : Tasks),
      ∃ pool mem, (s.settleSender t).rx = { s.rx with pool := pool, mem := mem } := by
    intro t s
    unfold settleSender
    split
    · rename_i d c _
      cases t <;> cases (c.finish s.rx.pool).1 <;> exact ⟨_, _, rfl⟩
    · exact ⟨_, _, rfl⟩
  obtain ⟨pool₁, mem₁, h₁⟩ := hsender .driver s
  obtain ⟨pool₂, mem₂, h₂⟩ := hsender .cli (s.settleSender .driver)
  rw [settled, settleMgr]
  split
  · exact ⟨_, mem₂, by rw [h₂, h₁]⟩
  · exact ⟨pool₂, mem₂, by rw [h₂, h₁]⟩

theorem settleSender_other {t' : Task} (h : (s.sender t).inPool = false) :
    (s.settleSender t').sender t = s.sender t := by
  unfold settleSender
  split
  · rename_i d c hpc
    cases t <;> cases t' <;> cases (c.finish s.rx.pool).1 <;>
      first | rfl | (rw [hpc] at h; cases h)
  · rfl

theorem settled_sender (h : (s.sender t).inPool = false) : s.settled.sender t = s.sender t := by
  have hmgr : ∀ (t : Task) (s : Tasks), s.settleMgr.sender t = s.sender t := by
    intro t s
    unfold settleMgr
    cases t <;> split <;> rfl
  have h₁ : (s.settleSender .driver).sender t = s.sender t := settleSender_other h
  rw [settled, hmgr, settleSender_other (by rw [h₁]; exact h), h₁]

theorem settleSender_mgr (t : Task) (s : Tasks) : (s.settleSender t).mgr = s.mgr := by
  unfold settleSender
  split
  · rename_i d c _
    cases t <;> cases (c.finish s.rx.pool).1 <;> rfl
  · rfl

theorem settled_mgr (h : s.mgr.inPool = false) : s.settled.mgr = s.mgr := by
  have hmgr : ((s.settleSender .driver).settleSender .cli).mgr = s.mgr := by
    rw [settleSender_mgr, settleSender_mgr]
  rw [settled, settleMgr_of_not (by rw [hmgr]; exact h), hmgr]

theorem settled_note (given : ℕ) (freed : List ℕ) (fdb : Fdb) (s : Tasks) :
    settled { s with rx := { s.rx with given := given, freed := freed, fdb := fdb } } =
      { s.settled with
        rx := { s.settled.rx with given := given, freed := freed, fdb := fdb } } := by
  have hsender : ∀ (t : Task) (s : Tasks), settleSender t
      { s with rx := { s.rx with given := given, freed := freed, fdb := fdb } } =
      { s.settleSender t with
        rx := { (s.settleSender t).rx with given := given, freed := freed, fdb := fdb } } := by
    rintro t ⟨rx, driver, cli, mgr⟩
    cases t with
    | driver =>
      cases driver with
      | alloc d c =>
        simp only [settleSender, sender]
        cases (c.finish rx.pool).1 <;> rfl
      | idle | send msg => rfl
    | cli =>
      cases cli with
      | alloc d c =>
        simp only [settleSender, sender]
        cases (c.finish rx.pool).1 <;> rfl
      | idle | send msg => rfl
  rw [settled, hsender, hsender, settled]
  generalize (s.settleSender .driver).settleSender .cli = s
  obtain ⟨rx, driver, cli, mgr⟩ := s
  cases mgr <;> rfl

theorem settled_deliver (q : Q ℤ) (h : s.sender t = .send msg) :
    settled (setSender t .idle { s with rx := { s.rx with queue := q } }) =
      setSender t .idle { s.settled with rx := { s.settled.rx with queue := q } } := by
  have hmgr : ∀ s : Tasks, settleMgr (setSender t .idle { s with rx := { s.rx with queue := q } }) =
      setSender t .idle { s.settleMgr with rx := { s.settleMgr.rx with queue := q } } := by
    rintro ⟨rx, driver, cli, mgr⟩
    cases t <;> cases mgr <;> rfl
  have hthis : settleSender t s = s := settleSender_of_not (by rw [h]; rfl)
  cases t with
  | driver =>
    have hother : settleSender .cli (setSender .driver .idle
        { s with rx := { s.rx with queue := q } }) = setSender .driver .idle
          { s.settleSender .cli with rx := { (s.settleSender .cli).rx with queue := q } } := by
      obtain ⟨rx, driver, cli, mgr⟩ := s
      cases cli with
      | alloc d c =>
        simp only [settleSender, sender, setSender]
        cases (c.finish rx.pool).1 <;> rfl
      | idle | send _ => rfl
    rw [settled, settleSender_of_not (t := .driver) rfl, hother, hmgr, settled, hthis]
  | cli =>
    have hother : settleSender .driver (setSender .cli .idle
        { s with rx := { s.rx with queue := q } }) = setSender .cli .idle
          { s.settleSender .driver with
            rx := { (s.settleSender .driver).rx with queue := q } } := by
      obtain ⟨rx, driver, cli, mgr⟩ := s
      cases driver with
      | alloc d c =>
        simp only [settleSender, sender, setSender]
        cases (c.finish rx.pool).1 <;> rfl
      | idle | send _ => rfl
    have hafter : settleSender .cli (s.settleSender .driver) = s.settleSender .driver :=
      settleSender_of_not (by rw [settleSender_other (t := .cli) (by rw [h]; rfl), h]; rfl)
    rw [settled, hother, settleSender_of_not (t := .cli) rfl, hmgr, settled, hafter]

theorem settled_receive (q : Q ℤ) (msg : ℤ) (h : s.mgr = .waiting) :
    settled { s with rx := { s.rx with queue := q }, mgr := .working msg } =
      { s.settled with rx := { s.settled.rx with queue := q }, mgr := .working msg } := by
  have hsender : ∀ (t : Task) (s : Tasks), settleSender t
      { s with rx := { s.rx with queue := q }, mgr := .working msg } =
      { s.settleSender t with
        rx := { (s.settleSender t).rx with queue := q }, mgr := .working msg } := by
    rintro t ⟨rx, driver, cli, mgr⟩
    cases t with
    | driver =>
      cases driver with
      | alloc d c =>
        simp only [settleSender, sender]
        cases (c.finish rx.pool).1 <;> rfl
      | idle | send msg => rfl
    | cli =>
      cases cli with
      | alloc d c =>
        simp only [settleSender, sender]
        cases (c.finish rx.pool).1 <;> rfl
      | idle | send msg => rfl
  have hmgr : ((s.settleSender .driver).settleSender .cli).mgr.inPool = false := by
    rw [settleSender_mgr, settleSender_mgr, h]
    rfl
  rw [settled, hsender, hsender, settleMgr_of_not rfl, settled, settleMgr_of_not hmgr]

theorem sender_not_inPool (h : s.inPool = 0) (t : Task) : (s.sender t).inPool = false := by
  simp only [inPool, Nat.add_eq_zero_iff, Bool.toNat_eq_zero] at h
  cases t
  · exact h.1.1
  · exact h.1.2

theorem mgr_not_inPool (h : s.inPool = 0) : s.mgr.inPool = false := by
  simp only [inPool, Nat.add_eq_zero_iff, Bool.toNat_eq_zero] at h
  exact h.2

theorem settled_allocating (h : s.inPool = 0) (c : BlockCall) :
    (s.allocating t d c).settled =
      { s with rx := { s.rx with pool := (c.finish s.rx.pool).2 } }.allocated t d
        (c.finish s.rx.pool).1 := by
  have hsettle := settleSender_allocating (s := s) (t := t) (d := d) c
  have hmgr : ∀ r (x : Tasks), x.mgr = s.mgr → (x.allocated t d r).mgr.inPool = false := by
    intro r x hx
    rw [show (x.allocated t d r).mgr = x.mgr by cases t <;> cases r <;> rfl, hx]
    exact mgr_not_inPool h
  cases t with
  | driver =>
    have hcli : ∀ r (x : Tasks), x.cli = s.cli →
        ((x.allocated .driver d r).sender .cli).inPool = false := by
      intro r x hx
      rw [show (x.allocated .driver d r).sender .cli = x.cli by cases r <;> rfl, hx]
      exact sender_not_inPool h .cli
    rw [settled, hsettle, settleSender_of_not, settleMgr_of_not]
    · exact hmgr _ _ rfl
    · exact hcli _ _ rfl
  | cli =>
    have hdriver : ((s.allocating .cli d c).sender .driver).inPool = false :=
      (congrArg SendPc.inPool (allocating_cli_driver c)).trans (sender_not_inPool h .driver)
    rw [settled, settleSender_of_not hdriver, hsettle, settleMgr_of_not]
    exact hmgr _ _ rfl

/-! ### What is held -/

/-- The messages in the queue, in process, and with their senders. -/
def held (s : Tasks) : List ℤ :=
  s.rx.queue.messages ++ (s.mgr.held ++ (s.driver.held ++ s.cli.held))

/-- How many of them refer to a frame. -/
def refs (s : Tasks) (n : ℕ) : ℕ := s.held.countP fun msg ↦ (s.rx.mem msg).body = .bpdu n

/-- How often a frame is freed or referred to. -/
def account (s : Tasks) (n : ℕ) : ℕ := s.rx.freed.count n + s.refs n

/-- The blocks that are in use without a message. -/
def lost (s : Tasks) : ℤ := s.rx.pool.useblks - s.held.length

/-- What holds in any case while no call is under way: the messages are blocks of the
pool, and no frame is freed or referred to before it came. -/
structure Base (s : Tasks) : Prop where
  works : s.rx.queue.Works
  gives : ∃ rest, Gives s.rx.pool (s.held ++ rest)
  nblks : s.rx.pool.nblks = stpMaxMsg
  unseen : ∀ n, s.rx.given ≤ n → s.account n = 0

/-- Every frame of `N` is freed once or has one reference, and the blocks in use are those
of the messages. -/
def Kept (N : ℕ → Prop) (s : Tasks) : Prop := (∀ n < s.rx.given, N n → s.account n = 1) ∧ s.lost = 0

theorem held_perm (s : Tasks) (t : Task) :
    s.held.Perm ((s.sender t).held ++ (s.setSender t .idle).held) := by
  rw [List.perm_iff_count]
  intro a
  cases t <;> simp only [held, sender, setSender, List.count_append, SendPc.held,
    List.count_nil] <;> omega

theorem Base.lost_nonneg (h : s.Base) : 0 ≤ s.lost := by
  obtain ⟨rest, hgives⟩ := h.gives
  rw [lost, hgives.useblks, List.length_append]
  omega

theorem Base.held_length (h : s.Base) : s.held.length ≤ sizeofMsg + 3 := by
  obtain ⟨p, -, hnblks, hgives⟩ := h.works
  have hlen := hgives.length
  have hfblks := hgives.ok.fblks
  have hmsgs : s.rx.queue.messages.length = (s.rx.queue.msgList.map Prod.fst).length := by
    rw [Q.messages, List.length_map, List.length_map]
  have hmgr : s.mgr.held.length ≤ 1 := by cases s.mgr <;> simp [MgrPc.held]
  have hsender : ∀ pc : SendPc, pc.held.length ≤ 1 := by
    intro pc
    cases pc <;> simp [SendPc.held]
  have hdriver := hsender s.driver
  have hcli := hsender s.cli
  simp only [held, List.length_append]
  omega

theorem countP_update {mem : ℤ → StpMsg} {x : StpMsg} {l : List ℤ} {n : ℕ} (hmsg : msg ∉ l) :
    l.countP (fun a ↦ (Function.update mem msg x a).body = .bpdu n) =
      l.countP fun a ↦ (mem a).body = .bpdu n := by
  refine List.countP_congr fun a ha ↦ ?_
  rw [Function.update_of_ne (ne_of_mem_of_not_mem ha hmsg)]

theorem Base.note (h : s.Base) (fdb : Fdb) {freed : List ℕ}
    (hfreed : ∀ n, n ≠ s.rx.given → freed.count n = s.rx.freed.count n) :
    Base { s with rx := { s.rx with given := s.rx.given + 1, freed := freed, fdb := fdb } } := by
  refine ⟨h.works, h.gives, h.nblks, fun n hn ↦ ?_⟩
  have hn : s.rx.given + 1 ≤ n := hn
  have hunseen := h.unseen n (by omega)
  rw [account] at hunseen ⊢
  simp only [hfreed n (by omega)]
  exact hunseen

theorem Base.alloc (h : s.Base) (hidle : s.sender t = .idle)
    (hd : ∀ n, d.body = .bpdu n → n < s.rx.given) {s' : Tasks}
    (hs' : s' = { s with rx := { s.rx with pool := (allocBlock s.rx.pool).2 } }.allocated t d
      (allocBlock s.rx.pool).1) :
    s'.Base ∧ s'.rx.given = s.rx.given ∧ s'.lost = s.lost ∧
      ((∃ msg, msg ∉ s.held ∧ s'.held.Perm (msg :: s.held) ∧
          s'.rx.mem = Function.update s.rx.mem msg (d.write (s.rx.mem msg)) ∧
          ∀ n, s'.account n = s.account n + if d.body = .bpdu n then 1 else 0) ∨
        s' = s ∧ 0 < s.lost) := by
  obtain ⟨rest, hgives⟩ := h.gives
  obtain ⟨halloc, hfull⟩ | ⟨msg, pool, halloc, -, hmsg, hgives', hfixed⟩ := hgives.alloc
  · have hsame : s' = s := by
      rw [hs', halloc]
      obtain ⟨rx, driver, cli, mgr⟩ := s
      cases t with
      | driver =>
        obtain rfl : driver = .idle := hidle
        rfl
      | cli =>
        obtain rfl : cli = .idle := hidle
        rfl
    rw [hsame]
    refine ⟨h, rfl, rfl, .inr ⟨rfl, ?_⟩⟩
    have hlen := h.held_length
    have huse := hgives.useblks
    have hnblks := h.nblks
    unfold lost sizeofMsg stpMaxMsg at *
    omega
  · rw [halloc] at hs'
    have hheld : msg ∉ s.held := fun hmem ↦ hmsg (List.mem_append_left rest hmem)
    have hrx : s'.rx = { s.rx with
        pool := pool, mem := Function.update s.rx.mem msg (d.write (s.rx.mem msg)) } := by
      rw [hs']
      cases t <;> rfl
    have hperm : s'.held.Perm (msg :: s.held) := by
      have h₁ := s'.held_perm t
      have h₂ := s.held_perm t
      have hnew : s'.sender t = .send msg := by
        rw [hs']
        cases t <;> rfl
      have hrest : (s'.setSender t .idle).held = (s.setSender t .idle).held := by
        rw [hs']
        cases t <;> rfl
      rw [hnew, hrest] at h₁
      rw [hidle] at h₂
      exact h₁.trans (h₂.symm.cons msg)
    have haccount : ∀ n, s'.account n = s.account n + if d.body = .bpdu n then 1 else 0 := by
      intro n
      have hwrite : (d.write (s.rx.mem msg)).body = d.body := rfl
      rw [account, account, refs, hperm.countP_eq, List.countP_cons, hrx]
      simp only [countP_update hheld, Function.update_self, hwrite, decide_eq_true_eq]
      rw [refs, add_assoc]
    have huse := hgives.useblks
    have huse' := hgives'.useblks
    refine ⟨⟨?_, ⟨rest, ?_⟩, ?_, ?_⟩, ?_, ?_, .inl ⟨msg, hheld, hperm, ?_, haccount⟩⟩
    · rw [hrx]
      exact h.works
    · rw [hrx]
      exact hgives'.perm (hperm.append_right rest)
    · rw [hrx]
      exact (congrArg (·.2.2.1) hfixed).trans h.nblks
    · intro n hn
      rw [hrx] at hn
      rw [haccount, h.unseen n hn, if_neg fun hb ↦ absurd (hd n hb) (not_lt.mpr hn)]
    · rw [hrx]
    · have hlen := hperm.length_eq
      rw [List.length_cons] at hlen huse'
      rw [lost, lost, hrx, huse, hlen]
      simp only [huse']
      push_cast
      omega
    · rw [hrx]

theorem Base.requeue (h : s.Base) {q : Q ℤ} (hworks : q.Works)
    (hrx : s'.rx = { s.rx with queue := q }) (hperm : s'.held.Perm s.held) :
    s'.Base ∧ (∀ n, s'.account n = s.account n) ∧ s'.lost = s.lost := by
  obtain ⟨rest, hgives⟩ := h.gives
  have haccount : ∀ n, s'.account n = s.account n := by
    intro n
    rw [account, account, refs, refs, hperm.countP_eq, hrx]
  refine ⟨⟨by rw [hrx]; exact hworks, ⟨rest, ?_⟩, by rw [hrx]; exact h.nblks, ?_⟩, haccount, ?_⟩
  · rw [hrx]
    exact hgives.perm (hperm.append_right rest)
  · intro n hn
    rw [hrx] at hn
    rw [haccount]
    exact h.unseen n hn
  · rw [lost, lost, hrx, hperm.length_eq]

theorem Base.deliver (h : s.Base) (hsend : s.sender t = .send msg) {rx : Rx}
    (hpost : s.rx.post msg = some rx) :
    Base ({ s with rx := rx }.setSender t .idle) ∧ rx.given = s.rx.given ∧ rx.mem = s.rx.mem ∧
      (∀ a ∈ ({ s with rx := rx }.setSender t .idle).held, a ∈ s.held) ∧
      ((∀ n, ({ s with rx := rx }.setSender t .idle).account n = s.account n) ∧
          ({ s with rx := rx }.setSender t .idle).lost = s.lost ∧
          s.rx.queue.messages.length < sizeofMsg ∨
        ({ s with rx := rx }.setSender t .idle).lost = s.lost + 1 ∧
          ¬s.rx.queue.messages.length < sizeofMsg) := by
  obtain ⟨rest, hgives⟩ := h.gives
  obtain ⟨q, hq, hworks, -, -, hmsgs⟩ := h.works.send msg
  obtain rfl : { s.rx with queue := q } = rx := by
    rw [Rx.post, hq] at hpost
    exact Option.some.inj hpost
  set s' := setSender t .idle { s with rx := { s.rx with queue := q } } with hs'
  have hrx : s'.rx = { s.rx with queue := q } := by
    rw [hs']
    cases t <;> rfl
  have hold : s.held.Perm (msg :: (s.setSender t .idle).held) := by
    have hperm := s.held_perm t
    rw [hsend] at hperm
    exact hperm
  by_cases hroom : s.rx.queue.messages.length < sizeofMsg
  · rw [if_pos hroom] at hmsgs
    have hperm : s'.held.Perm s.held := by
      refine List.Perm.trans ?_ hold.symm
      rw [List.perm_iff_count]
      intro a
      rw [hs']
      cases t <;> simp only [held, setSender, hmsgs, List.count_append, List.count_cons,
        List.count_nil] <;> omega
    obtain ⟨hbase, haccount, hlost⟩ := h.requeue hworks hrx hperm
    exact ⟨hbase, rfl, rfl, fun a ha ↦ hperm.mem_iff.mp ha, .inl ⟨haccount, hlost, hroom⟩⟩
  · rw [if_neg hroom] at hmsgs
    have hheld : s'.held = (s.setSender t .idle).held := by
      rw [hs']
      cases t <;> simp only [held, setSender, hmsgs]
    have hsub : ∀ n, s'.account n ≤ s.account n := by
      intro n
      rw [account, account, refs, refs, hold.countP_eq, List.countP_cons, hheld, hrx]
      dsimp only
      omega
    refine ⟨⟨by rw [hrx]; exact hworks, ⟨msg :: rest, ?_⟩, by rw [hrx]; exact h.nblks, ?_⟩, rfl,
      rfl, fun a ha ↦ hold.mem_iff.mpr (List.mem_cons_of_mem _ (hheld ▸ ha)), .inr ⟨?_, hroom⟩⟩
    · rw [hrx, hheld]
      exact hgives.perm (List.perm_middle.trans (hold.symm.append_right rest))
    · intro n hn
      rw [hrx] at hn
      have hunseen := h.unseen n hn
      have hle := hsub n
      omega
    · have hlen := hold.length_eq
      rw [List.length_cons] at hlen
      rw [lost, lost, hrx, hheld, hlen]
      push_cast
      omega

theorem Base.receive (h : s.Base) (hmgr : s.mgr = .waiting) {q : Q ℤ}
    (hrcv : msgRcv s.rx.queue = some (msg, q)) {s' : Tasks}
    (hs' : s' = { s with rx := { s.rx with queue := q }, mgr := .working msg }) :
    s'.Base ∧ s'.held.Perm s.held ∧ (∀ n, s'.account n = s.account n) ∧ s'.lost = s.lost := by
  cases hmsgs : s.rx.queue.messages with
  | nil =>
    rw [Q.msgRcv_eq_none hmsgs] at hrcv
    cases hrcv
  | cons msg' msgs =>
    obtain ⟨q', hrcv', hworks, -, -, hmsgs'⟩ := h.works.rcv hmsgs
    obtain ⟨rfl, rfl⟩ := Prod.mk.inj (Option.some.inj (hrcv.symm.trans hrcv'))
    have hperm : s'.held.Perm s.held := by
      rw [List.perm_iff_count]
      intro a
      rw [hs']
      simp only [held, hmsgs', hmsgs, hmgr, MgrPc.held, List.count_append, List.count_cons,
        List.count_nil]
      omega
    obtain ⟨hbase, hsame⟩ := h.requeue hworks (by rw [hs']) hperm
    exact ⟨hbase, hperm, hsame⟩

theorem Base.done (h : s.Base) (hmgr : s.mgr = .working msg) {c : BlockCall}
    (hfree : BlockCall.freeBlk s.rx.pool msg = some c) {s' : Tasks}
    (hs' : s' = { s with
      rx := { Rx.freeFrame msg s.rx with pool := (c.finish s.rx.pool).2 }, mgr := .waiting }) :
    s'.Base ∧ (∀ a ∈ s'.held, a ∈ s.held) ∧ (∀ n, s'.account n = s.account n) ∧
      s'.lost = s.lost := by
  obtain ⟨rest, hgives⟩ := h.gives
  have hold : s.held.Perm (msg :: s'.held) := by
    rw [List.perm_iff_count]
    intro a
    have hqueue : (Rx.freeFrame msg s.rx).queue = s.rx.queue := by
      unfold Rx.freeFrame
      split <;> rfl
    rw [hs']
    simp only [held, hqueue, hmgr, MgrPc.held, List.count_append, List.count_cons, List.count_nil]
    omega
  have hgives' : Gives s.rx.pool (msg :: (s'.held ++ rest)) :=
    hgives.perm (hold.append_right rest).symm
  obtain ⟨pool, hblk, hgivesP, hfixed⟩ := hgives'.free List.mem_cons_self
  rw [List.erase_cons_head] at hgivesP
  have hpool : (c.finish s.rx.pool).2 = pool := by
    have hfinish := BlockCall.freeBlk_finish (p := s.rx.pool) msg
    rw [hfree, hblk] at hfinish
    exact Option.some.inj hfinish
  rw [hpool] at hs'
  have hfields : s'.rx.mem = s.rx.mem ∧ s'.rx.given = s.rx.given ∧ s'.rx.queue = s.rx.queue ∧
      s'.rx.pool = pool := by
    rw [hs', Rx.freeFrame]
    split <;> exact ⟨rfl, rfl, rfl, rfl⟩
  obtain ⟨hmem, hgiven, hqueue, hpool'⟩ := hfields
  have haccount : ∀ n, s'.account n = s.account n := by
    intro n
    have hrefs : s.refs n = s'.refs n + if (s.rx.mem msg).body = .bpdu n then 1 else 0 := by
      rw [refs, hold.countP_eq, List.countP_cons, refs, hmem]
      simp only [decide_eq_true_eq]
    have hfreed : s'.rx.freed.count n =
        s.rx.freed.count n + if (s.rx.mem msg).body = .bpdu n then 1 else 0 := by
      rw [hs', Rx.freeFrame]
      cases hbody : (s.rx.mem msg).body with
      | events event => simp
      | bpdu pkt => simp [List.count_append, List.count_singleton]
    rw [account, account, hrefs, hfreed]
    omega
  refine ⟨⟨?_, ⟨rest, ?_⟩, ?_, ?_⟩, fun a ha ↦ hold.mem_iff.mpr (List.mem_cons_of_mem _ ha),
    haccount, ?_⟩
  · rw [hqueue]
    exact h.works
  · rw [hpool']
    exact hgivesP
  · rw [hpool']
    exact (congrArg (·.2.2.1) hfixed).trans h.nblks
  · intro n hn
    rw [haccount]
    exact h.unseen n (hgiven ▸ hn)
  · have huse := hgives'.useblks
    have huseP := hgivesP.useblks
    have hlen := hold.length_eq
    rw [lost, lost, hpool', huse, huseP, hlen]
    simp only [List.length_cons, List.length_append]
    push_cast
    omega

/-! ### Steps and runs -/

/-- The messages after a step are messages as before, or new ones of no older frame. -/
structure Carries (s s' : Tasks) : Prop where
  given : s.rx.given ≤ s'.rx.given
  held : ∀ msg ∈ s'.held, msg ∈ s.held ∧ s'.rx.mem msg = s.rx.mem msg ∨
    ∀ n < s.rx.given, (s'.rx.mem msg).body ≠ .bpdu n

/-- One call at a time is under way, and once it is over the blocks are in order. -/
structure Traced (s : Tasks) : Prop where
  single : s.inPool ≤ 1
  base : s.settled.Base

theorem Base.alloc_finish (h : s.Base) :
    (BlockCall.allocBlock s.rx.pool.nblks).finish s.rx.pool = allocBlock s.rx.pool := by
  obtain ⟨rest, hgives⟩ := h.gives
  exact BlockCall.allocBlock_finish hgives.ok.nblks

theorem Base.begin (h : s.Base) (hfree : s.inPool = 0) (hidle : s.sender t = .idle)
    (hd : ∀ n, d.body = .bpdu n → n < s.rx.given) {s' : Tasks}
    (hs' : s' = s.allocating t d (.allocBlock s.rx.pool.nblks)) :
    Traced s' ∧ s'.settled.rx.given = s.rx.given ∧ s'.settled.lost = s.lost ∧
      ((∃ msg, msg ∉ s.held ∧ s'.settled.held.Perm (msg :: s.held) ∧
          s'.settled.rx.mem = Function.update s.rx.mem msg (d.write (s.rx.mem msg)) ∧
          ∀ n, s'.settled.account n = s.account n + if d.body = .bpdu n then 1 else 0) ∨
        s'.settled = s ∧ 0 < s.lost) := by
  have hsettled := settled_allocating (t := t) (d := d) hfree (.allocBlock s.rx.pool.nblks)
  rw [← hs', h.alloc_finish] at hsettled
  obtain ⟨hbase, hrest⟩ := h.alloc hidle hd hsettled
  refine ⟨⟨?_, hbase⟩, hrest⟩
  simp only [inPool, Nat.add_eq_zero_iff] at hfree
  rw [hs']
  cases t with
  | driver =>
    change true.toNat + s.cli.inPool.toNat + s.mgr.inPool.toNat ≤ 1
    rw [hfree.1.2, hfree.2]
    decide
  | cli =>
    change s.driver.inPool.toNat + true.toNat + s.mgr.inPool.toNat ≤ 1
    rw [hfree.1.1, hfree.2]
    decide

theorem kept_counted {N : ℕ → Prop} (hgiven : s'.rx.given = s.rx.given + 1)
    (hlost : s'.lost = s.lost) (hold : ∀ n ≠ s.rx.given, s'.account n = s.account n) :
    s'.Kept N ↔ s.Kept N ∧ (N s.rx.given → s'.account s.rx.given = 1) := by
  rw [Kept, Kept, hgiven, hlost]
  constructor
  · rintro ⟨hall, hzero⟩
    refine ⟨⟨fun n hn hN ↦ ?_, hzero⟩, hall _ (Nat.lt_succ_self _)⟩
    rw [← hold n hn.ne]
    exact hall n (Nat.lt_succ_of_lt hn) hN
  · rintro ⟨⟨hall, hzero⟩, hnew⟩
    refine ⟨fun n hn hN ↦ ?_, hzero⟩
    by_cases heq : n = s.rx.given
    · subst heq
      exact hnew hN
    · rw [hold n heq]
      exact hall n (by omega) hN

theorem Base.fresh (h : s.Base) :
    s.rx.freed.count s.rx.given = 0 ∧ s.refs s.rx.given = 0 ∧
      ∀ msg ∈ s.held, (s.rx.mem msg).body ≠ .bpdu s.rx.given := by
  have hunseen := h.unseen _ le_rfl
  rw [account, Nat.add_eq_zero_iff] at hunseen
  refine ⟨hunseen.1, hunseen.2, fun msg hmsg hbody ↦ ?_⟩
  exact List.countP_eq_zero.mp hunseen.2 msg hmsg (decide_eq_true hbody)

-- the frame is counted, and freed or not
theorem Traced.note (h : s.Traced) (fdb : Fdb) {freed : List ℕ}
    (hcount : ∀ n, n ≠ s.rx.given → freed.count n = s.rx.freed.count n)
    (hs' : s' = { s with rx := { s.rx with
      given := s.rx.given + 1, freed := freed, fdb := fdb } }) :
    s'.Traced ∧
      (∀ N, s'.settled.Kept N ↔ s.settled.Kept N ∧
        (N s.rx.given → freed.count s.rx.given = 1)) ∧
      s.settled.Carries s'.settled ∧
      ∀ msg ∈ s'.settled.held, (s'.settled.rx.mem msg).body ≠ .bpdu s.rx.given := by
  obtain ⟨pool, mem, hrx⟩ := s.settled_rx
  have hgiven : s.settled.rx.given = s.rx.given := by rw [hrx]
  have hfreed : s.settled.rx.freed = s.rx.freed := by rw [hrx]
  obtain ⟨-, hrefs, hnobody⟩ := h.base.fresh
  have hbase := h.base.note fdb (by rw [hgiven, hfreed]; exact hcount)
  have hsettled := settled_note (s.rx.given + 1) freed fdb s
  rw [hgiven] at hrefs hnobody hbase
  subst hs'
  refine ⟨⟨h.single, ?_⟩, ?_⟩
  · rw [hsettled]
    exact hbase
  rw [hsettled]
  refine ⟨fun N ↦ ?_, ⟨hgiven.le.trans (Nat.le_succ _), fun msg hmsg ↦ .inl ⟨hmsg, rfl⟩⟩, hnobody⟩
  refine Iff.trans (kept_counted (s := s.settled) (by rw [hgiven]) rfl fun n hn ↦ ?_) ?_
  · rw [account, account, hfreed, ← hcount n (hgiven ▸ hn)]
    rfl
  · rw [hgiven]
    change _ ∧ (_ → freed.count s.rx.given + s.settled.refs s.rx.given = 1) ↔ _
    rw [hrefs, Nat.add_zero]

theorem Base.begin_bpdu {port : ℤ} {len : ℤ} {fdb : Fdb} {u : Tasks} (h : s.Base)
    (hfree : s.inPool = 0) (hidle : s.driver = .idle)
    (hu : u = { s with rx := { s.rx with given := s.rx.given + 1, fdb := fdb } })
    (hs' : s' = u.allocating .driver (bpduMsg s.rx.given port 1 len)
      (.allocBlock u.rx.pool.nblks)) :
    s'.Traced ∧ (∀ N, s'.settled.Kept N ↔ s.Kept N) ∧ s.Carries s'.settled ∧
      ∀ msg ∈ s'.settled.held, (s'.settled.rx.mem msg).body = .bpdu s.rx.given →
        s'.settled.rx.mem msg = ⟨.bpdu s.rx.given, port, 1, len⟩ := by
  obtain ⟨-, -, hnobody⟩ := h.fresh
  have hunseen := h.unseen _ le_rfl
  have hbase : u.Base := by
    rw [hu]
    exact h.note fdb fun _ _ ↦ rfl
  subst hu
  obtain ⟨htraced, hgiven', hlost, hcases⟩ := hbase.begin (t := .driver) hfree hidle
    (d := bpduMsg s.rx.given port 1 len)
    (fun n hn ↦ (StpMsgBody.bpdu.inj hn) ▸ Nat.lt_succ_self _) hs'
  refine ⟨htraced, ?_⟩
  obtain ⟨msg, hmsg, hperm, hmem, haccount⟩ | ⟨hsame, hpos⟩ := hcases
  · simp only [bpduMsg, StpMsgBody.bpdu.injEq] at haccount
    refine ⟨fun N ↦ ?_, ⟨hgiven'.ge.trans' (Nat.le_succ _), ?_⟩, ?_⟩
    · refine Iff.trans (kept_counted (s := s) hgiven' hlost fun n hn ↦ ?_)
        (and_iff_left fun _ ↦ ?_)
      · rw [haccount, if_neg hn.symm]
        rfl
      · rw [haccount, if_pos rfl]
        exact congrArg (· + 1) hunseen
    · intro a ha
      rw [hmem]
      by_cases heq : a = msg
      · subst heq
        rw [Function.update_self]
        exact .inr fun n hn hb ↦ hn.ne (StpMsgBody.bpdu.inj hb).symm
      · rw [Function.update_of_ne heq]
        exact .inl ⟨List.mem_of_ne_of_mem heq (hperm.mem_iff.mp ha), rfl⟩
    · intro a ha hbody
      rw [hmem] at hbody ⊢
      by_cases heq : a = msg
      · subst heq
        rw [Function.update_self]
        rfl
      · rw [Function.update_of_ne heq] at hbody
        exact absurd hbody (hnobody a (List.mem_of_ne_of_mem heq (hperm.mem_iff.mp ha)))
  · rw [hsame]
    refine ⟨?_, ⟨Nat.le_succ _, fun a ha ↦ .inl ⟨ha, rfl⟩⟩, fun a ha hbody ↦
      absurd hbody (hnobody a ha)⟩
    exact fun N ↦ iff_of_false (fun hk ↦ hpos.ne' hk.2) fun hk ↦ hpos.ne' hk.2

theorem Traced.frame {allowed : Bool} {secs : U32} {p : EtherHdr}
    {len : ℤ} {port : U16} (h : s.Traced) (ha : s.Alone e (.frame allowed secs p len port))
    (hstep : s.step e fdbSalt (.frame allowed secs p len port) = some s') :
    s'.Traced ∧
      (∀ N, s'.settled.Kept N ↔ s.settled.Kept N ∧
        (N s.rx.given → s.Taken e (.frame allowed secs p len port))) ∧
      s.settled.Carries s'.settled ∧
      ∀ msg ∈ s'.settled.held, (s'.settled.rx.mem msg).body = .bpdu s.rx.given →
        s'.settled.rx.mem msg = ⟨.bpdu s.rx.given, port.toNat, 1, len⟩ := by
  have hfresh : s.rx.freed.count s.rx.given = 0 := by
    obtain ⟨pool, mem, hrx⟩ := s.settled_rx
    have hfresh := h.base.fresh.1
    rwa [hrx] at hfresh
  cases hdriver : s.driver with
  | alloc d c | send msg => simp [step, hdriver] at hstep
  | idle =>
  obtain ⟨hdown, htake⟩ | ⟨hup, htake⟩ := takePkt_cases e fdbSalt allowed secs p port s.rx
  · simp only [step, hdriver, htake, Option.some.injEq] at hstep
    rw [← hdriver] at hstep
    obtain ⟨htraced, hkept, hcarries, hno⟩ := h.note s.rx.fdb
      (fun n hn ↦ by simp [List.count_append, hn.symm]) hstep.symm
    have hone : (s.rx.freed ++ [s.rx.given]).count s.rx.given = 1 := by
      rw [List.count_append, hfresh, List.count_singleton_self]
    have htaken : s.Taken e (.frame allowed secs p len port) :=
      hdown.elim .inl fun hadmin ↦ .inr (.inl hadmin)
    refine ⟨htraced, fun N ↦ (hkept N).trans ?_, hcarries, fun msg hmsg hbody ↦
      absurd hbody (hno msg hmsg)⟩
    exact and_congr_right fun _ ↦ iff_of_true (fun _ ↦ hone) fun _ ↦ htaken
  · cases hdest : isDestStpGroupAddress e p.dmac with
    | false =>
      rw [hdest] at htake
      simp only [step, hdriver, htake, Option.some.injEq] at hstep
      rw [← hdriver] at hstep
      obtain ⟨htraced, hkept, hcarries, hno⟩ := h.note _ (fun _ _ ↦ rfl) hstep.symm
      have hleft : ¬s.Taken e (.frame allowed secs p len port) := by
        rintro (ho | ha | hd)
        · exact hup (.inl ho)
        · exact hup (.inr ha)
        · rw [hdest] at hd
          cases hd
      refine ⟨htraced, fun N ↦ (hkept N).trans ?_, hcarries, fun msg hmsg hbody ↦
        absurd hbody (hno msg hmsg)⟩
      rw [hfresh]
      exact and_congr_right fun _ ↦ imp_congr_right fun _ ↦ iff_of_false Nat.zero_ne_one hleft
    | true =>
      have hfree : s.inPool = 0 := by
        obtain ho | ha | hd | hfree := ha
        · exact absurd (.inl ho) hup
        · exact absurd (.inr ha) hup
        · rw [hdest] at hd
          cases hd
        · exact hfree
      have hbase := h.base
      rw [settled_of_free hfree] at hbase ⊢
      rw [hdest] at htake
      simp only [step, hdriver, htake, Option.some.injEq] at hstep
      obtain ⟨htraced, hkept, hrest⟩ := hbase.begin_bpdu hfree hdriver rfl hstep.symm
      have htaken : s.Taken e (.frame allowed secs p len port) := .inr (.inr hdest)
      exact ⟨htraced, fun N ↦ (hkept N).trans (and_iff_left fun _ ↦ htaken).symm, hrest⟩

theorem Traced.link {port : U16} {status : IfStatus} (h : s.Traced)
    (hfree : s.inPool = 0) (hstep : s.step e fdbSalt (.link port status) = some s') :
    s'.Traced ∧ (∀ N, s'.settled.Kept N ↔ s.settled.Kept N) ∧ s.settled.Carries s'.settled := by
  have hself := settled_of_free hfree
  have hbase := h.base
  rw [hself] at hbase ⊢
  cases hcli : s.cli with
  | alloc d c | send msg => simp [step, hcli] at hstep
  | idle =>
    simp only [step, hcli, Option.some.injEq] at hstep
    let u : Tasks := { s with rx := s.rx.setPort port status }
    have hu : u.Base := ⟨hbase.works, hbase.gives, hbase.nblks, hbase.unseen⟩
    have hs' : s' = u.allocating .cli (eventMsg status port.toNat 1)
      (.allocBlock u.rx.pool.nblks) := hstep.symm
    obtain ⟨htraced, hgiven, hlost, hcases⟩ := hu.begin (t := .cli) hfree hcli
      (d := eventMsg status port.toNat 1) nofun hs'
    refine ⟨htraced, ?_⟩
    obtain ⟨msg, hmsg, hperm, hmem, haccount⟩ | ⟨hsame, hpos⟩ := hcases
    · refine ⟨fun N ↦ ?_, hgiven.ge, ?_⟩
      · have hsame : ∀ n, s'.settled.account n = s.account n := fun n ↦ haccount n
        rw [Kept, Kept, hgiven, hlost]
        simp only [hsame]
        rfl
      · intro a ha
        rw [hmem]
        by_cases heq : a = msg
        · subst heq
          rw [Function.update_self]
          exact .inr fun n _ hb ↦ by cases hb
        · rw [Function.update_of_ne heq]
          exact .inl ⟨List.mem_of_ne_of_mem heq (hperm.mem_iff.mp ha), rfl⟩
    · rw [hsame]
      exact ⟨fun N ↦ iff_of_false (fun hk ↦ hpos.ne' hk.2) fun hk ↦ hpos.ne' hk.2, le_rfl,
        fun a ha ↦ .inl ⟨ha, rfl⟩⟩

theorem Traced.send (h : s.Traced)
    (hstep : s.step e fdbSalt (.send t) = some s') :
    s'.Traced ∧ (∀ N, s'.settled.Kept N ↔ s.settled.Kept N ∧ s.Room (.send t)) ∧
      s.settled.Carries s'.settled := by
  cases hpc : s.sender t with
  | idle | alloc d c => simp [step, hpc] at hstep
  | send msg =>
    simp only [step, hpc] at hstep
    obtain ⟨rx, hpost, rfl⟩ := Option.map_eq_some_iff.mp hstep
    obtain ⟨x, hq, rfl⟩ := Option.map_eq_some_iff.mp hpost
    obtain ⟨pool, mem, hrx⟩ := s.settled_rx
    have hsend : s.settled.sender t = .send msg := by
      rw [settled_sender (by rw [hpc]; rfl), hpc]
    have hpost' : s.settled.rx.post msg = some { s.settled.rx with queue := x.2 } := by
      rw [Rx.post, show s.settled.rx.queue = s.rx.queue by rw [hrx], hq, Option.map_some]
    obtain ⟨hbase, -, -, hheld, hcases⟩ := h.base.deliver hsend hpost'
    have hsettled := settled_deliver x.2 hpc
    rw [← hsettled] at hbase hheld hcases
    have hroom_iff : s.Room (.send t) ↔ s.settled.rx.queue.messages.length < sizeofMsg := by
      rw [hrx]
      exact Iff.rfl
    have hgiven : (settled (setSender t .idle { s with
        rx := { s.rx with queue := x.2 } })).rx.given = s.settled.rx.given := by
      rw [hsettled]
      cases t <;> rfl
    have hmem : (settled (setSender t .idle { s with
        rx := { s.rx with queue := x.2 } })).rx.mem = s.settled.rx.mem := by
      rw [hsettled]
      cases t <;> rfl
    refine ⟨⟨?_, hbase⟩, fun N ↦ ?_, hgiven.ge, fun a ha ↦ .inl ⟨hheld a ha, by rw [hmem]⟩⟩
    · have hle := h.single
      have hidle : SendPc.idle.inPool.toNat = 0 := rfl
      cases t <;> simp only [setSender, inPool, hidle] at hle ⊢ <;> omega
    · rw [hroom_iff]
      have hnonneg := h.base.lost_nonneg
      obtain ⟨haccount, hlost, hroom⟩ | ⟨hlost, hfull⟩ := hcases
      · rw [and_iff_left hroom, Kept, Kept, hgiven, hlost]
        simp only [haccount]
      · refine iff_of_false (fun hk ↦ ?_) fun hk ↦ hfull hk.2
        have hzero := hlost.symm.trans hk.2
        omega

theorem Traced.rcv (h : s.Traced)
    (hstep : s.step e fdbSalt .rcv = some s') :
    s'.Traced ∧ (∀ N, s'.settled.Kept N ↔ s.settled.Kept N) ∧ s.settled.Carries s'.settled := by
  cases hpc : s.mgr with
  | working msg | freeing c => simp [step, hpc] at hstep
  | waiting =>
    simp only [step, hpc] at hstep
    obtain ⟨⟨msg, q⟩, hrcv, rfl⟩ := Option.map_eq_some_iff.mp hstep
    obtain ⟨pool, mem, hrx⟩ := s.settled_rx
    have hmgr : s.settled.mgr = .waiting := by
      rw [settled_mgr (by rw [hpc]; rfl), hpc]
    have hrcv' : msgRcv s.settled.rx.queue = some (msg, q) := by
      rw [show s.settled.rx.queue = s.rx.queue by rw [hrx]]
      exact hrcv
    have hsettled := settled_receive q msg hpc
    obtain ⟨hbase, hperm, haccount, hlost⟩ := h.base.receive hmgr hrcv' hsettled
    refine ⟨⟨?_, hbase⟩, fun N ↦ ?_, ?_, ?_⟩
    · have hle := h.single
      simp only [inPool] at hle ⊢
      simp [MgrPc.inPool]
      omega
    · rw [Kept, Kept, hlost, hsettled]
      rw [hsettled] at haccount
      simp only [haccount]
    · rw [hsettled]
    · intro a ha
      refine .inl ⟨hperm.mem_iff.mp ha, ?_⟩
      rw [hsettled]

theorem Traced.work (h : s.Traced) (hfree : s.inPool = 0)
    (hstep : s.step e fdbSalt .work = some s') :
    s'.Traced ∧ (∀ N, s'.settled.Kept N ↔ s.settled.Kept N) ∧ s.settled.Carries s'.settled := by
  have hself := settled_of_free hfree
  have hbase := h.base
  rw [hself] at hbase ⊢
  cases hpc : s.mgr with
  | waiting | freeing c => simp [step, hpc] at hstep
  | working msg =>
    simp only [step, hpc] at hstep
    obtain ⟨c, hcall, rfl⟩ := Option.map_eq_some_iff.mp hstep
    have hfields : (Rx.freeFrame msg s.rx).pool = s.rx.pool ∧
        (Rx.freeFrame msg s.rx).mem = s.rx.mem ∧ (Rx.freeFrame msg s.rx).given = s.rx.given := by
      unfold Rx.freeFrame
      split <;> exact ⟨rfl, rfl, rfl⟩
    obtain ⟨hpool, hmem, hgiven⟩ := hfields
    have hsettled := settled_freeing (s := ⟨Rx.freeFrame msg s.rx, s.driver, s.cli, .working msg⟩)
      (sender_not_inPool hfree .driver) (sender_not_inPool hfree .cli) c
    simp only [hpool] at hsettled
    obtain ⟨hbase', hheld, haccount, hlost⟩ := hbase.done hpc hcall hsettled
    refine ⟨⟨?_, hbase'⟩, fun N ↦ ?_, ?_, ?_⟩
    · simp only [inPool, Nat.add_eq_zero_iff] at hfree
      cases c <;> simp [freeing, inPool, MgrPc.inPool, hfree]
    · rw [Kept, Kept, hlost]
      have hgiven' : (freeing c
        ⟨Rx.freeFrame msg s.rx, s.driver, s.cli, .working msg⟩).settled.rx.given =
          s.rx.given := by
        rw [hsettled]
        exact hgiven
      rw [hgiven']
      simp only [haccount]
    · rw [hsettled]
      exact hgiven.ge
    · intro a ha
      refine .inl ⟨hheld a ha, ?_⟩
      rw [hsettled]
      exact congrFun hmem a

theorem Traced.step {ev : TaskStep} (h : s.Traced)
    (ha : s.Alone e ev) (hstep : s.step e fdbSalt ev = some s') :
    s'.Traced ∧ (∀ N, s'.settled.Kept N ↔ s.settled.Kept N ∧
      (N s.rx.given → s.Taken e ev) ∧ s.Room ev) ∧ s.settled.Carries s'.settled := by
  cases ev with
  | frame allowed secs p len port =>
    obtain ⟨htraced, hkept, hcarries, -⟩ := h.frame ha hstep
    refine ⟨htraced, fun N ↦ (hkept N).trans (and_congr_right fun _ ↦ ?_), hcarries⟩
    exact (and_iff_left trivial).symm
  | link port status =>
    obtain ⟨htraced, hkept, hcarries⟩ := h.link ha hstep
    exact ⟨htraced, fun N ↦ (hkept N).trans
      (and_iff_left ⟨fun _ ↦ trivial, trivial⟩).symm, hcarries⟩
  | send t =>
    obtain ⟨htraced, hkept, hcarries⟩ := h.send hstep
    refine ⟨htraced, fun N ↦ (hkept N).trans (and_congr_right fun _ ↦ ?_), hcarries⟩
    exact (and_iff_right fun _ ↦ trivial).symm
  | rcv =>
    obtain ⟨htraced, hkept, hcarries⟩ := h.rcv hstep
    exact ⟨htraced, fun N ↦ (hkept N).trans
      (and_iff_left ⟨fun _ ↦ trivial, trivial⟩).symm, hcarries⟩
  | work =>
    obtain ⟨htraced, hkept, hcarries⟩ := h.work ha hstep
    exact ⟨htraced, fun N ↦ (hkept N).trans
      (and_iff_left ⟨fun _ ↦ trivial, trivial⟩).symm, hcarries⟩
  | access t =>
    obtain ⟨hsettled, hsingle⟩ := settled_access h.single hstep
    rw [hsettled]
    exact ⟨⟨hsingle, hsettled ▸ h.base⟩, fun N ↦ (and_iff_left ⟨fun _ ↦ trivial, trivial⟩).symm,
      le_rfl, fun a hmem ↦ .inl ⟨hmem, rfl⟩⟩
  | free =>
    obtain ⟨hsettled, hsingle⟩ := settled_free h.single hstep
    rw [hsettled]
    exact ⟨⟨hsingle, hsettled ▸ h.base⟩, fun N ↦ (and_iff_left ⟨fun _ ↦ trivial, trivial⟩).symm,
      le_rfl, fun a hmem ↦ .inl ⟨hmem, rfl⟩⟩

theorem Traced.run (h : s.Traced)
    (hrun : Run (Tasks.step e fdbSalt) (Alone e) s evs s') : s'.Traced :=
  hrun.invariant (I := Traced) (fun _ _ _ h ha hstep ↦ (h.step ha hstep).1) h

theorem traced_start (fdb : Fdb) (mem : ℤ → StpMsg) {poolAddr : ℤ} {queueAddr : ℕ}
    (hpool : 0 < poolAddr) (hqueue : queueAddr ≠ 0) :
    (Tasks.start (.start fdb mem poolAddr queueAddr)).Traced where
  single := Nat.zero_le 1
  base := {
    works := Rx.works_start fdb mem poolAddr hqueue
    gives := ⟨[], gives_memPoolCreate (by decide) (by decide) (by decide) hpool⟩
    nblks := int_eq (n := (100 : ℕ)) (by decide) (by decide)
    unseen := fun _ _ ↦ rfl }

/-- Every frame is freed once or has one reference, of a message that is queued or in
process, and the blocks in use are those of the messages. -/
structure Conserved (s : Tasks) : Prop where
  frames : ∀ n < s.rx.given,
    (s.rx.freed.count n = 1 ∧ s.refs n = 0) ∨ (s.rx.freed.count n = 0 ∧ s.refs n = 1)
  blocks : s.rx.pool.useblks = s.rx.queue.messages.length + s.mgr.held.length

/-- No sender is in the middle of a call, nor the manager in `free_blk`. -/
structure AtRest (s : Tasks) : Prop where
  driver : s.driver = .idle
  cli : s.cli = .idle
  mgr : s.mgr.inPool = false

instance (s : Tasks) : Decidable s.AtRest :=
  decidable_of_iff (s.driver = .idle ∧ s.cli = .idle ∧ s.mgr.inPool = false)
    ⟨fun ⟨hd, hc, hm⟩ ↦ ⟨hd, hc, hm⟩, fun h ↦ ⟨h.driver, h.cli, h.mgr⟩⟩

theorem AtRest.inPool (h : s.AtRest) : s.inPool = 0 := by
  rw [Tasks.inPool, h.driver, h.cli, h.mgr]
  rfl

theorem AtRest.held (h : s.AtRest) : s.held = s.rx.queue.messages ++ s.mgr.held := by
  rw [Tasks.held, h.driver, h.cli]
  simp [SendPc.held]

theorem AtRest.conserved_iff (h : s.AtRest) : s.Conserved ↔ s.Kept fun _ ↦ True := by
  have hblocks : s.rx.pool.useblks = s.rx.queue.messages.length + s.mgr.held.length ↔
      s.lost = 0 := by
    rw [lost, h.held, List.length_append]
    omega
  constructor
  · intro hc
    refine ⟨fun n hn _ ↦ ?_, hblocks.mp hc.blocks⟩
    have hframe := hc.frames n hn
    rw [account]
    omega
  · rintro ⟨hframes, hlost⟩
    refine ⟨fun n hn ↦ ?_, hblocks.mpr hlost⟩
    have hframe := hframes n hn trivial
    rw [account] at hframe
    omega

/-! ### The messages that the manager works on -/

/-- The message that a step works on. -/
def working (s : Tasks) : TaskStep → List StpMsg
  | .work => s.mgr.held.map s.rx.mem
  | _ => []

/-- The messages that the steps of a run work on. -/
def worked (e : Endian) (fdbSalt : U32) : Tasks → List TaskStep → List StpMsg
  | _, [] => []
  | s, ev :: evs => s.working ev ++ (s.step e fdbSalt ev).elim [] (worked e fdbSalt · evs)

theorem worked_cons {ev : TaskStep}
    (hstep : s.step e fdbSalt ev = some s') :
    worked e fdbSalt s (ev :: evs) = s.working ev ++ worked e fdbSalt s' evs := by
  rw [worked, hstep]
  rfl

theorem step_freed {ev : TaskStep} {n : ℕ} (hn : n < s.rx.given)
    (hstep : s.step e fdbSalt ev = some s') : n < s'.rx.given ∧
      s'.rx.freed.count n = s.rx.freed.count n +
        (s.working ev).countP fun m ↦ m.body = .bpdu n := by
  have hsame : ∀ u : Tasks, u = s' → u.rx.given = s.rx.given → u.rx.freed = s.rx.freed →
      n < s'.rx.given ∧ s'.rx.freed.count n = s.rx.freed.count n + 0 := by
    rintro u rfl hgiven hfreed
    rw [hgiven, hfreed]
    exact ⟨hn, rfl⟩
  cases ev with
  | frame allowed secs p len port =>
    cases hdriver : s.driver with
    | alloc d c | send msg => simp [step, hdriver] at hstep
    | idle =>
      obtain ⟨-, htake⟩ | ⟨-, htake⟩ := takePkt_cases e fdbSalt allowed secs p port s.rx
      · simp only [step, hdriver, htake, Option.some.injEq] at hstep
        subst hstep
        refine ⟨Nat.lt_succ_of_lt hn, ?_⟩
        change (s.rx.freed ++ [s.rx.given]).count n = s.rx.freed.count n + 0
        rw [List.count_append, List.count_singleton, if_neg (by simpa using hn.ne')]
      · simp only [step, hdriver, htake] at hstep
        cases hdest : isDestStpGroupAddress e p.dmac <;>
          simp only [hdest, Option.some.injEq] at hstep <;> subst hstep <;>
          exact ⟨Nat.lt_succ_of_lt hn, rfl⟩
  | link port status =>
    cases hcli : s.cli with
    | alloc d c | send msg => simp [step, hcli] at hstep
    | idle =>
      simp only [step, hcli, Option.some.injEq] at hstep
      exact hsame _ hstep rfl rfl
  | access t =>
    cases hpc : s.sender t with
    | idle | send msg => simp [step, hpc] at hstep
    | alloc d c =>
      cases c with
      | ret r => simp [step, hpc] at hstep
      | access write next =>
        simp only [step, hpc, Option.some.injEq] at hstep
        refine hsame _ hstep ?_ ?_ <;>
        · cases next s.rx.pool with
          | ret r => cases r <;> cases t <;> rfl
          | access => cases t <;> rfl
  | send t =>
    cases hpc : s.sender t with
    | idle | alloc d c => simp [step, hpc] at hstep
    | send msg =>
      simp only [step, hpc] at hstep
      obtain ⟨rx, hpost, hs'⟩ := Option.map_eq_some_iff.mp hstep
      obtain ⟨x, -, rfl⟩ := Option.map_eq_some_iff.mp hpost
      refine hsame _ hs' ?_ ?_ <;> cases t <;> rfl
  | rcv =>
    cases hpc : s.mgr with
    | working msg | freeing c => simp [step, hpc] at hstep
    | waiting =>
      simp only [step, hpc] at hstep
      obtain ⟨x, -, hs'⟩ := Option.map_eq_some_iff.mp hstep
      exact hsame _ hs' rfl rfl
  | work =>
    cases hpc : s.mgr with
    | waiting | freeing c => simp [step, hpc] at hstep
    | working msg =>
      simp only [step, hpc] at hstep
      obtain ⟨c, -, rfl⟩ := Option.map_eq_some_iff.mp hstep
      have hrx : (freeing c ⟨Rx.freeFrame msg s.rx, s.driver, s.cli, .working msg⟩).rx =
          Rx.freeFrame msg s.rx := by
        cases c <;> rfl
      rw [hrx, working, hpc]
      simp only [MgrPc.held, List.map_cons, List.map_nil, List.countP_singleton,
        decide_eq_true_eq, Rx.freeFrame]
      cases hbody : (s.rx.mem msg).body with
      | bpdu pkt => simp [hn, List.count_append, List.count_singleton]
      | events event => simp [hn]
  | free =>
    cases hpc : s.mgr with
    | waiting | working msg => simp [step, hpc] at hstep
    | freeing c =>
      cases c with
      | ret r => simp [step, hpc] at hstep
      | access write next =>
        simp only [step, hpc, Option.some.injEq] at hstep
        refine hsame _ hstep ?_ ?_ <;> cases next s.rx.pool <;> rfl

theorem run_freed {C : Tasks → TaskStep → Prop} {n : ℕ}
    (hn : n < s.rx.given)
    (hrun : Run (Tasks.step e fdbSalt) C s evs s') :
    s'.rx.freed.count n = s.rx.freed.count n +
      (worked e fdbSalt s evs).countP fun m ↦ m.body = .bpdu n := by
  induction hrun with
  | nil => rfl
  | cons _ hstep _ ih =>
    obtain ⟨hn', hfreed⟩ := step_freed hn hstep
    rw [ih hn', hfreed, worked_cons hstep, List.countP_append, Nat.add_assoc]

/-- The messages of frame `n` are all `m`. -/
structure Labelled (n : ℕ) (m : StpMsg) (s : Tasks) : Prop where
  given : n < s.rx.given
  held : ∀ msg ∈ s.held, (s.rx.mem msg).body = .bpdu n → s.rx.mem msg = m

theorem Labelled.carries {n : ℕ} {m : StpMsg} (h : s.Labelled n m) (hc : s.Carries s') :
    s'.Labelled n m where
  given := h.given.trans_le hc.given
  held := by
    intro msg hmsg hbody
    obtain ⟨hold, hmem⟩ | hnew := hc.held msg hmsg
    · rw [hmem] at hbody ⊢
      exact h.held msg hold hbody
    · exact absurd hbody (hnew n h.given)

theorem worked_labelled {n : ℕ} {m : StpMsg}
    (h : s.Traced) (hl : s.settled.Labelled n m)
    (hrun : Run (Tasks.step e fdbSalt) (Alone e) s evs s') :
    ∀ x ∈ worked e fdbSalt s evs, x.body = .bpdu n → x = m := by
  induction hrun with
  | nil => exact fun _ hx ↦ absurd hx List.not_mem_nil
  | @cons s s₁ s₂ ev evs ha hstep _ ih =>
    intro x hx hbody
    obtain ⟨htraced, -, hcarries⟩ := h.step ha hstep
    rw [worked_cons hstep, List.mem_append] at hx
    obtain hx | hx := hx
    · cases ev with
      | work =>
        -- no call is under way, so the memory is what it will be
        rw [settled_of_free (show s.inPool = 0 from ha)] at hl
        obtain ⟨msg, hmsg, rfl⟩ := List.mem_map.mp hx
        refine hl.held msg ?_ hbody
        rw [held, List.mem_append, List.mem_append]
        exact .inr (.inl hmsg)
      | frame | link | access | send | rcv | free => cases hx
    · exact ih htraced (hl.carries hcarries) x hx hbody

/-- The calls on the pool do not overlap, and no message is dropped. -/
def Orderly (e : Endian) (s : Tasks) (ev : TaskStep) : Prop := s.Alone e ev ∧ s.Room ev

instance (e : Endian) (s : Tasks) (ev : TaskStep) : Decidable (s.Orderly e ev) :=
  inferInstanceAs (Decidable (_ ∧ _))

theorem Traced.kept_run {N : ℕ → Prop}
    (h : s.Traced) (hN : ∀ n, N n → n < s.rx.given) (hk : s.settled.Kept N)
    (hrun : Run (Tasks.step e fdbSalt) (Orderly e) s evs s') :
    s'.settled.Kept N := by
  have hinv := hrun.invariant (I := fun s ↦ s.Traced ∧ (∀ n, N n → n < s.rx.given) ∧
    s.settled.Kept N) ?_ ⟨h, hN, hk⟩
  · exact hinv.2.2
  · rintro s ev s' ⟨h, hN, hk⟩ ⟨ha, hroom⟩ hstep
    obtain ⟨htraced, hkept, -⟩ := h.step ha hstep
    refine ⟨htraced, fun n hn ↦ (step_freed (hN n hn) hstep).1, (hkept N).mpr ⟨hk, ?_, hroom⟩⟩
    exact fun hg ↦ absurd (hN _ hg) (Nat.lt_irrefl _)

/-- In a run that is in order, a frame for the STP group comes in on a port that is up. -/
structure Arrives (e : Endian) (fdbSalt : U32) (p : EtherHdr) (len : ℤ) (port : U16)
    (s s' : Tasks) : Prop where
  run : ∃ fdb mem poolAddr queueAddr evs, 0 < poolAddr ∧ queueAddr ≠ 0 ∧
    Run (Tasks.step e fdbSalt) (Orderly e) (.start (.start fdb mem poolAddr queueAddr)) evs s
  step : ∃ allowed secs, s.Alone e (.frame allowed secs p len port) ∧
    s.step e fdbSalt (.frame allowed secs p len port) = some s'
  oper : s.rx.oper port ≠ .down
  admin : s.rx.admin port ≠ .down
  group : isDestStpGroupAddress e p.dmac = true

theorem Arrives.worked {p : EtherHdr} {len : ℤ} {port : U16}
    {s'' : Tasks} (h : Arrives e fdbSalt p len port s s')
    (hrun : Run (Tasks.step e fdbSalt) (Orderly e) s' evs s'') :
    (∀ m ∈ worked e fdbSalt s' evs, m.body = .bpdu s.rx.given →
      m = ⟨.bpdu s.rx.given, port.toNat, 1, len⟩) ∧
    (s''.AtRest → s''.rx.queue.messages = [] → s''.mgr = .waiting →
      (worked e fdbSalt s' evs).countP (fun m ↦ m.body = .bpdu s.rx.given) = 1) := by
  obtain ⟨⟨fdb, mem, poolAddr, queueAddr, evs₀, hpool, hqueue, hrun₀⟩, ⟨allowed, secs, ha, hstep⟩,
    hoper, hadmin, hgroup⟩ := h
  have hstart := traced_start fdb mem hpool hqueue
  have htraced := hstart.run (hrun₀.mono fun _ _ h ↦ h.1)
  have hnone := hstart.kept_run (N := fun _ ↦ False) (fun _ hn ↦ hn.elim)
    ⟨fun _ _ hn ↦ hn.elim, rfl⟩ hrun₀
  obtain ⟨htraced', hkept, hcarries, hlabel⟩ := htraced.frame ha hstep
  have hgiven : s.settled.rx.given = s.rx.given := by
    obtain ⟨pool, mem, hrx⟩ := s.settled_rx
    rw [hrx]
  have hcounts : s'.rx.given = s.rx.given + 1 ∧ s'.rx.freed = s.rx.freed := by
    cases hdriver : s.driver with
    | alloc d c | send msg => simp [Tasks.step, hdriver] at hstep
    | idle =>
      obtain ⟨hdown, -⟩ | ⟨-, htake⟩ := takePkt_cases e fdbSalt allowed secs p port s.rx
      · exact absurd hdown (not_or.mpr ⟨hoper, hadmin⟩)
      · simp only [Tasks.step, hdriver, htake, hgroup, Option.some.injEq] at hstep
        subst hstep
        exact ⟨rfl, rfl⟩
  have hlt : s.rx.given < s'.rx.given := hcounts.1 ▸ Nat.lt_succ_self _
  refine ⟨worked_labelled htraced' ⟨?_, hlabel⟩ (hrun.mono fun _ _ h ↦ h.1), ?_⟩
  · obtain ⟨pool, mem, hrx⟩ := s'.settled_rx
    rw [hrx]
    exact hlt
  · intro hrest hempty hwaiting
    have hk : s'.settled.Kept (· = s.rx.given) := by
      refine (hkept _).mpr ⟨⟨fun n hn heq ↦ ?_, hnone.2⟩, fun _ ↦ .inr (.inr hgroup)⟩
      omega
    have hend := htraced'.kept_run (N := (· = s.rx.given)) (fun _ hn ↦ hn ▸ hlt) hk hrun
    rw [settled_of_free hrest.inPool] at hend
    have hlt' : s.rx.given < s''.rx.given :=
      hrun.invariant (I := fun u ↦ s.rx.given < u.rx.given)
        (fun _ _ _ hn _ hstep ↦ (step_freed hn hstep).1) hlt
    have hone := hend.1 _ hlt' rfl
    rw [account, refs, hrest.held, hempty, hwaiting, run_freed hlt hrun, hcounts.2] at hone
    have hunseen := htraced.base.unseen s.rx.given hgiven.le
    have hfreed : s.settled.rx.freed = s.rx.freed := by
      obtain ⟨pool, mem, hrx⟩ := s.settled_rx
      rw [hrx]
    rw [account, hfreed] at hunseen
    simp only [MgrPc.held, List.append_nil, List.countP_nil] at hone
    omega

end Tasks

open Tasks in
/-- While the calls of `alloc_block` and `free_blk` do not overlap, frames and blocks are
conserved in the runs in which every frame of a port that is up is a BPDU, and every
message is sent while the queue has a node left; and in no others. -/
theorem frames_conserved_iff {fdb : Fdb} {mem : ℤ → StpMsg} {poolAddr : ℤ} {queueAddr : ℕ}
    {events : List TaskStep} {s : Tasks} (e : Endian) (fdbSalt : U32) (hpool : 0 < poolAddr)
    (hqueue : queueAddr ≠ 0)
    (hrun : Run (Tasks.step e fdbSalt) (Alone e) (.start (.start fdb mem poolAddr queueAddr))
      events s) (hrest : s.AtRest) :
    (Conserved s ↔ Run (Tasks.step e fdbSalt) (Careful e)
      (.start (.start fdb mem poolAddr queueAddr)) events s) ∧
    (Conserved s → s.rx.queue.messages = [] → s.mgr = .waiting →
      s.rx.pool.fblks = stpMaxMsg ∧ ∀ n < s.rx.given, s.rx.freed.count n = 1) := by
  have hstart := traced_start fdb mem hpool hqueue
  have htraced : s.Traced := hstart.run hrun
  have hself := settled_of_free hrest.inPool
  refine ⟨?_, ?_⟩
  · have hiff := hrun.iff_of_step (I := Traced) (P := fun s ↦ s.settled.Kept fun _ ↦ True)
      (D := Careful e) (fun _ _ _ h ha hstep ↦ (h.step ha hstep).1)
      (fun s ev _ h ha hstep ↦ ((h.step ha hstep).2.1 _).trans
        (and_congr_right fun _ ↦ and_congr_left fun _ ↦ true_imp_iff)) hstart
    rw [hself, ← hrest.conserved_iff] at hiff
    refine hiff.trans (and_iff_right ?_)
    exact ⟨fun n hn ↦ absurd hn (Nat.not_lt_zero n), rfl⟩
  · intro hconserved hempty hwaiting
    obtain ⟨-, hgives, hnblks, -⟩ := htraced.base
    rw [hself] at hgives hnblks
    obtain ⟨rest, hgives⟩ := hgives
    have hblocks := hconserved.blocks
    have htotal := hgives.ok.total
    rw [hempty, hwaiting] at hblocks
    simp only [MgrPc.held, List.length_nil] at hblocks
    refine ⟨by omega, fun n hn ↦ ?_⟩
    obtain ⟨hfreed, -⟩ | ⟨-, hrefs⟩ := hconserved.frames n hn
    · exact hfreed
    · rw [refs, hrest.held, hempty, hwaiting] at hrefs
      cases hrefs

/-- The accesses of a call of `alloc_block` that finds its block at place `i`. -/
def TaskStep.allocates (t : Task) (i : ℕ) : List TaskStep := List.replicate (8 + i) (.access t)

/-- A port comes up, and the manager has worked on the event. -/
def linkUp (port : U16) : List TaskStep :=
  [.link port .up] ++ TaskStep.allocates .cli 0 ++ [.send .cli, .rcv, .work] ++
    List.replicate 6 .free

def bpduFrame : TaskStep := .frame true 5 ⟨brGroupAddress, .replicate 6 2⟩ 60 3

open Tasks in
/-- Two BPDUs come in, and the manager takes the first while the second is being sent. -/
theorem frames_conserved_two_bpdus : ∃ (events : List TaskStep) (s : Tasks),
    Run (Tasks.step .little 7) (fun s ev ↦ s.Alone .little ev ∧ s.Careful .little ev)
      (.start .boot) events s ∧ s.rx.given = 2 ∧ s.rx.freed = [0] ∧ Conserved s := by
  let events := linkUp 3 ++ [bpduFrame] ++ TaskStep.allocates .driver 0 ++
    [.send .driver, bpduFrame,
    .access .driver, .rcv] ++ TaskStep.allocates .driver 0 ++ [.send .driver, .work] ++
      List.replicate 6 .free
  obtain ⟨s, hexec, hgiven, hfreed, hrest⟩ : ∃ s : Tasks,
      exec (fun s ev ↦ if Alone .little s ev ∧ Careful .little s ev then
        Tasks.step .little 7 s ev else none) (.start .boot) events = some s ∧
      s.rx.given = 2 ∧ s.rx.freed = [0] ∧ s.AtRest := by
    decide +kernel
  have hrun := (run_of_exec hexec).guarded
  have hiff := (frames_conserved_iff .little 7 (by decide) (by decide)
    (hrun.mono fun _ _ h ↦ h.1) hrest).1
  exact ⟨events, s, hrun, hgiven, hfreed, hiff.mpr (hrun.mono fun _ _ h ↦ h.2)⟩

open Tasks in
/-- A frame for another station stays allocated when the queue is drained, and of 25
BPDUs the last one and its block. Two tasks that are in `alloc_block` at once get one
block, and a frame is freed twice. -/
theorem frames_leak :
    (∃ (events : List TaskStep) (s : Tasks), Run (Tasks.step .little 7) (Alone .little)
      (.start .boot) events s ∧ s.rx.queue.messages = [] ∧ s.rx.given = 1 ∧ s.rx.freed = [] ∧
      s.rx.pool.fblks = 100) ∧
    (∃ (events : List TaskStep) (s : Tasks), Run (Tasks.step .little 7) (Alone .little)
      (.start .boot) events s ∧ s.rx.given = 25 ∧ s.rx.freed = [] ∧
      s.rx.queue.messages.length = 24 ∧ s.rx.pool.useblks = 25) ∧
    ∃ (events : List TaskStep) (s : Tasks), Run (Tasks.step .little 7) (Careful .little)
      (.start .boot) events s ∧ s.rx.given = 1 ∧ s.rx.freed = [0, 0] := by
  obtain ⟨s, hexec, hs⟩ : ∃ s : Tasks,
      exec (fun s ev ↦ if Alone .little s ev then Tasks.step .little 7 s ev else none)
        (.start .boot) (linkUp 3 ++ [.frame true 5 ⟨.replicate 6 4, .replicate 6 2⟩ 60 3]) =
          some s ∧
      s.rx.queue.messages = [] ∧ s.rx.given = 1 ∧ s.rx.freed = [] ∧
        s.rx.pool.fblks = 100 := by
    decide +kernel
  obtain ⟨t, hexec', ht⟩ : ∃ s : Tasks,
      exec (fun s ev ↦ if Alone .little s ev then Tasks.step .little 7 s ev else none)
        (.start .boot) (linkUp 3 ++ (List.range 25).flatMap fun i ↦
          [bpduFrame] ++ TaskStep.allocates .driver i ++ [.send .driver]) = some s ∧
      s.rx.given = 25 ∧ s.rx.freed = [] ∧ s.rx.queue.messages.length = 24 ∧
        s.rx.pool.useblks = 25 := by
    decide +kernel
  obtain ⟨u, hexec'', hu⟩ : ∃ s : Tasks,
      exec (fun s ev ↦ if Careful .little s ev then Tasks.step .little 7 s ev else none)
        (.start .boot) (linkUp 3 ++ [bpduFrame] ++ List.replicate 3 (.access .driver) ++
          [.link 4 .up] ++ TaskStep.allocates .cli 0 ++ [.send .cli] ++
          List.replicate 5 (.access .driver) ++ [.send .driver, .rcv, .work] ++
          List.replicate 6 .free ++ [.rcv, .work]) = some s ∧
      s.rx.given = 1 ∧ s.rx.freed = [0, 0] := by
    decide +kernel
  exact ⟨⟨_, s, (run_of_exec hexec).guarded, hs⟩, ⟨_, t, (run_of_exec hexec').guarded, ht⟩,
    _, u, (run_of_exec hexec'').guarded, hu⟩

end Layer3Switch.Bridge
