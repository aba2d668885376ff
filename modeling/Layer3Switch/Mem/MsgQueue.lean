import Layer3Switch.Mem.Pool

namespace Layer3Switch.Mem

open Lib

variable {δ : Type}

abbrev maxMsgQ : ℕ := 10

def sizeofMsg : ℕ := 24

inductive MqFlags where
  | free
  | active
  deriving DecidableEq

/-- `struct Q`. A node of `msg_list` stands with its address, and `mpool` is
`none` for the pool id `-1`. -/
structure Q (δ : Type) where
  maxMsg : ℤ
  size : ℤ
  mpool : Option MemInfo
  flags : MqFlags
  msgList : List (ℤ × δ)

def msgQInit : Fin maxMsgQ → Q δ := fun _ ↦ ⟨0, 0, none, .free, []⟩

def getQid (queue : Fin maxMsgQ → Q δ) : Option (Fin maxMsgQ) :=
  (List.finRange maxMsgQ).reverse.find? fun i ↦ (queue i).flags = .free

def Q.activate (q : Q δ) (maxmsg size : ℤ) (saddr : ℕ) : Q δ where
  maxMsg := maxmsg
  size := size
  mpool := some (memPoolCreate (maxmsg * sizeofMsg % 2 ^ 64).toNat sizeofMsg saddr)
  flags := .active
  msgList := q.msgList

def msgCreateQ (queue : Fin maxMsgQ → Q δ) (maxmsg size : ℤ) (saddr : ℕ) :
    Option (Fin maxMsgQ) × (Fin maxMsgQ → Q δ) :=
  match getQid queue with
  | none => (none, queue)
  | some qid =>
    if saddr = 0 then (none, Function.update queue qid { queue qid with mpool := none })
    else (some qid, Function.update queue qid ((queue qid).activate maxmsg size saddr))

def msgRcv (q : Q δ) : Option (δ × Q δ) :=
  match q.msgList with
  | [] => none
  | (p, msg) :: msgList =>
    match q.mpool with
    | none => some (msg, { q with msgList := msgList })
    | some mpool => (freeBlk mpool p).map fun x ↦
      (msg, { q with msgList := msgList, mpool := some x.2 })

def msgSend (q : Q δ) (msg : δ) : Option (ℤ × Q δ) :=
  q.mpool.map fun mpool ↦
    match allocBlock mpool with
    | (some p, mpool) => (0, { q with mpool := some mpool, msgList := q.msgList ++ [(p, msg)] })
    | (none, mpool) => (0, { q with mpool := some mpool })

namespace Q

variable {q q' : Q δ} {msg : δ}

def messages (q : Q δ) : List δ := q.msgList.map Prod.snd

def Works (q : Q δ) : Prop :=
  ∃ p, q.mpool = some p ∧ p.nblks = sizeofMsg ∧ Gives p (q.msgList.map Prod.fst)

theorem Works.send (h : q.Works) (msg : δ) :
    ∃ q', msgSend q msg = some (0, q') ∧ q'.Works ∧ q'.maxMsg = q.maxMsg ∧ q'.flags = q.flags ∧
      q'.messages = if q.messages.length < sizeofMsg then q.messages ++ [msg] else q.messages := by
  obtain ⟨p, hp, hnblks, hgives⟩ := h
  have hlen : (q.msgList.map Prod.fst).length = q.messages.length := by
    rw [messages, List.length_map, List.length_map]
  obtain ⟨halloc, hfull⟩ | ⟨addr, p', halloc, hroom, -, hgives', hfixed⟩ := hgives.alloc
  · refine ⟨{ q with mpool := some p }, ?_, ⟨p, rfl, hnblks, hgives⟩, rfl, rfl, ?_⟩
    · rw [msgSend, hp, Option.map_some, halloc]
    · rw [if_neg (by omega)]
      rfl
  · refine ⟨{ q with mpool := some p', msgList := q.msgList ++ [(addr, msg)] }, ?_,
      ⟨p', rfl, ?_, ?_⟩,
      rfl, rfl, ?_⟩
    · rw [msgSend, hp, Option.map_some, halloc]
    · exact (congrArg (·.2.2.1) hfixed).trans hnblks
    · rw [List.map_append]
      exact hgives'.perm (List.perm_append_singleton addr _)
    · rw [if_pos (by omega), messages, List.map_append]
      rfl

theorem Works.rcv {ms : List δ} (h : q.Works) (hmsg : q.messages = msg :: ms) :
    ∃ q', msgRcv q = some (msg, q') ∧ q'.Works ∧ q'.maxMsg = q.maxMsg ∧ q'.flags = q.flags ∧
      q'.messages = ms := by
  obtain ⟨p, hp, hnblks, hgives⟩ := h
  obtain ⟨⟨addr, m⟩, l, hl, rfl, rfl⟩ := List.map_eq_cons_iff.mp hmsg
  rw [hl] at hgives
  obtain ⟨p', hfree, hgives', hfixed⟩ := hgives.free List.mem_cons_self
  refine ⟨{ q with mpool := some p', msgList := l }, ?_, ⟨p', rfl, ?_, ?_⟩, rfl, rfl, rfl⟩
  · rw [msgRcv, hl]
    simp only [hp, hfree, Option.map_some]
  · exact (congrArg (·.2.2.1) hfixed).trans hnblks
  · rw [List.map_cons, List.erase_cons_head] at hgives'
    exact hgives'

theorem msgRcv_eq_none (hmsg : q.messages = []) : msgRcv q = none := by
  rw [msgRcv, List.map_eq_nil_iff.mp hmsg]

end Q

theorem Q.works_activate {q : Q δ} {maxmsg size : ℤ} {saddr : ℕ} (hmax : 1 ≤ maxmsg)
    (hfits : maxmsg * sizeofMsg * sizeofMsg < 2 ^ 31) (hsaddr : saddr ≠ 0)
    (hlist : q.msgList = []) : (q.activate maxmsg size saddr).Works := by
  obtain ⟨n, rfl⟩ := Int.eq_ofNat_of_zero_le (by omega : 0 ≤ maxmsg)
  unfold sizeofMsg at *
  have hbytes : ((n : ℤ) * (24 : ℕ) % 2 ^ 64).toNat = n * 24 := by omega
  have hpool : Gives (memPoolCreate (n * 24) 24 saddr) [] :=
    gives_memPoolCreate (by omega) (by omega) (by omega) (by omega)
  rw [← hbytes] at hpool
  refine ⟨_, rfl, ?_, ?_⟩
  · exact int_eq (n := (24 : ℕ)) (by omega) (by omega)
  · simp only [activate, hlist]
    exact hpool

inductive QCall (δ : Type) where
  | create (maxmsg size : ℤ) (saddr : ℕ)
  | send (qid : Fin maxMsgQ) (msg : δ)
  | rcv (qid : Fin maxMsgQ)

/-- The queues, the messages given to `msg_send` and those that `msg_rcv`
returned. -/
structure Post (δ : Type) where
  queue : Fin maxMsgQ → Q δ
  sent : Fin maxMsgQ → List δ
  received : Fin maxMsgQ → List δ

namespace Post

def init : Post δ := ⟨msgQInit, fun _ ↦ [], fun _ ↦ []⟩

def call (s : Post δ) : QCall δ → Option (Post δ)
  | .create maxmsg size saddr => some { s with queue := (msgCreateQ s.queue maxmsg size saddr).2 }
  | .send qid msg =>
    (msgSend (s.queue qid) msg).map fun x ↦
      { s with
        queue := Function.update s.queue qid x.2
        sent := Function.update s.sent qid (s.sent qid ++ [msg]) }
  | .rcv qid =>
    (msgRcv (s.queue qid)).map fun x ↦
      { s with
        queue := Function.update s.queue qid x.2
        received := Function.update s.received qid (s.received qid ++ [x.1]) }

def Declared (s : Post δ) : QCall δ → Prop
  | .create maxmsg _ _ => maxmsg * sizeofMsg * sizeofMsg < 2 ^ 31
  | .send qid _ => (s.sent qid).length < (s.received qid).length + (s.queue qid).maxMsg
  | .rcv _ => True

def Room (qid : Fin maxMsgQ) (s : Post δ) : QCall δ → Prop
  | .create _ _ _ => True
  | .send i _ => i = qid → (s.queue qid).messages.length < sizeofMsg
  | .rcv _ => True

instance (s : Post δ) : DecidablePred s.Declared
  | .create maxmsg _ _ => inferInstanceAs (Decidable (maxmsg * sizeofMsg * sizeofMsg < 2 ^ 31))
  | .send qid _ => inferInstanceAs
    (Decidable ((s.sent qid).length < (s.received qid).length + (s.queue qid).maxMsg))
  | .rcv _ => inferInstanceAs (Decidable True)

variable {s s' : Post δ} {c : QCall δ} {qid : Fin maxMsgQ}

def Lossless (qid : Fin maxMsgQ) (s : Post δ) : Prop :=
  s.sent qid = s.received qid ++ (s.queue qid).messages

/-- What is received and queued was sent, in this order. A queue without a
usable pool has had no messages. -/
structure Orderly (s : Post δ) (qid : Fin maxMsgQ) : Prop where
  sublist : (s.received qid ++ (s.queue qid).messages).Sublist (s.sent qid)
  works : 1 ≤ (s.queue qid).maxMsg → (s.queue qid).Works
  unused : (s.queue qid).maxMsg < 1 → s.sent qid = []
  created : (s.queue qid).flags = .free → (s.queue qid).maxMsg < 1

theorem Orderly.length_le (h : s.Orderly qid) :
    (s.received qid).length + (s.queue qid).messages.length ≤ (s.sent qid).length := by
  rw [← List.length_append]
  exact h.sublist.length_le

theorem Orderly.empty (h : s.Orderly qid) (hmax : (s.queue qid).maxMsg < 1) :
    s.sent qid = [] ∧ s.received qid = [] ∧ (s.queue qid).msgList = [] := by
  have hsent := h.unused hmax
  have hsublist := h.sublist
  rw [hsent, List.sublist_nil, List.append_eq_nil_iff] at hsublist
  exact ⟨hsent, hsublist.1, List.map_eq_nil_iff.mp hsublist.2⟩

theorem Orderly.same {t : Post δ} (h : s.Orderly qid) (hqueue : t.queue qid = s.queue qid)
    (hsent : t.sent qid = s.sent qid) (hrcvd : t.received qid = s.received qid) :
    t.Orderly qid ∧ (Lossless qid t ↔ Lossless qid s) := by
  refine ⟨⟨?_, ?_, ?_, ?_⟩, ?_⟩
  · rw [hqueue, hsent, hrcvd]
    exact h.sublist
  · rw [hqueue]
    exact h.works
  · rw [hqueue, hsent]
    exact h.unused
  · rw [hqueue]
    exact h.created
  · rw [Lossless, Lossless, hqueue, hsent, hrcvd]

theorem getQid_eq_some {queue : Fin maxMsgQ → Q δ} (h : getQid queue = some qid) :
    (queue qid).flags = .free := by
  have hfree := List.find?_some h
  simpa using hfree

theorem orderly_of_empty {q : Q δ} (hqueue : s.queue qid = q) (hsent : s.sent qid = [])
    (hrcvd : s.received qid = []) (hlist : q.msgList = []) (hworks : 1 ≤ q.maxMsg → q.Works)
    (hfree : q.flags = .free → q.maxMsg < 1) : s.Orderly qid ∧ Lossless qid s := by
  have hmsgs : (s.queue qid).messages = [] := by
    rw [hqueue, Q.messages, hlist, List.map_nil]
  refine ⟨⟨?_, ?_, fun _ ↦ hsent, ?_⟩, ?_⟩
  · rw [hrcvd, hmsgs]
    exact List.nil_sublist _
  · rw [hqueue]
    exact hworks
  · rw [hqueue]
    exact hfree
  · rw [Lossless, hsent, hrcvd, hmsgs, List.append_nil]

theorem Orderly.create {maxmsg size : ℤ} {saddr : ℕ} (h : s.Orderly qid)
    (hfits : maxmsg * sizeofMsg * sizeofMsg < 2 ^ 31)
    (hcall : s.call (.create maxmsg size saddr) = some s') :
    s'.Orderly qid ∧ (Lossless qid s' ↔ Lossless qid s) := by
  obtain rfl := Option.some.inj hcall
  cases hget : getQid s.queue with
  | none => exact h.same (by simp only [msgCreateQ, hget]) rfl rfl
  | some i =>
    by_cases hi : qid = i
    · subst hi
      have hmax := h.created (getQid_eq_some hget)
      obtain ⟨hsent, hrcvd, hlist⟩ := h.empty hmax
      have hlossless : Lossless qid s := by
        rw [Lossless, hsent, hrcvd, Q.messages, hlist]
        rfl
      have hnew : ∀ q : Q δ, (msgCreateQ s.queue maxmsg size saddr).2 qid = q →
          q.msgList = [] → (1 ≤ q.maxMsg → q.Works) → (q.flags = .free → q.maxMsg < 1) →
          Orderly { s with queue := (msgCreateQ s.queue maxmsg size saddr).2 } qid ∧
            (Lossless qid { s with queue := (msgCreateQ s.queue maxmsg size saddr).2 } ↔
              Lossless qid s) := by
        intro q hq hlist hworks hfree
        obtain ⟨horderly, hloss⟩ := orderly_of_empty (s := { s with
          queue := (msgCreateQ s.queue maxmsg size saddr).2 }) hq hsent hrcvd hlist hworks hfree
        exact ⟨horderly, iff_of_true hloss hlossless⟩
      by_cases hsaddr : saddr = 0
      · refine hnew { s.queue qid with mpool := none } ?_ hlist ?_ fun _ ↦ hmax
        · simp only [msgCreateQ, hget, if_pos hsaddr, Function.update_self]
        · exact fun hone ↦ absurd hmax (not_lt.mpr hone)
      · refine hnew ((s.queue qid).activate maxmsg size saddr) ?_ hlist
          (fun hone ↦ Q.works_activate hone hfits hsaddr hlist) nofun
        simp only [msgCreateQ, hget, if_neg hsaddr, Function.update_self]
    · refine h.same ?_ rfl rfl
      by_cases hsaddr : saddr = 0
      · simp only [msgCreateQ, hget, if_pos hsaddr, Function.update_of_ne hi]
      · simp only [msgCreateQ, hget, if_neg hsaddr, Function.update_of_ne hi]

theorem Orderly.send {msg : δ} (h : s.Orderly qid) (hdecl : s.Declared (.send qid msg))
    (hcall : s.call (.send qid msg) = some s') :
    s'.Orderly qid ∧
      (Lossless qid s' ↔ Lossless qid s ∧ (s.queue qid).messages.length < sizeofMsg) := by
  have hlen := h.length_le
  have hmax : 1 ≤ (s.queue qid).maxMsg := by
    have hdecl' : ((s.sent qid).length : ℤ) < (s.received qid).length +
      (s.queue qid).maxMsg := hdecl
    omega
  obtain ⟨q', hsend, hworks, hmax', hflags, hmsgs⟩ := (h.works hmax).send msg
  rw [call, hsend, Option.map_some] at hcall
  obtain rfl := Option.some.inj hcall
  refine ⟨⟨?_, ?_, ?_, ?_⟩, ?_⟩
  · simp only [Function.update_self, hmsgs]
    by_cases hroom : (s.queue qid).messages.length < sizeofMsg
    · rw [if_pos hroom, ← List.append_assoc]
      exact h.sublist.append_right [msg]
    · rw [if_neg hroom]
      exact h.sublist.trans (List.sublist_append_left _ _)
  · intro _
    simp only [Function.update_self]
    exact hworks
  · intro hnone
    simp only [Function.update_self, hmax'] at hnone
    exact absurd hnone (not_lt.mpr hmax)
  · intro hfree
    simp only [Function.update_self, hmax', hflags] at hfree ⊢
    exact h.created hfree
  · simp only [Lossless, Function.update_self, hmsgs]
    by_cases hroom : (s.queue qid).messages.length < sizeofMsg
    · rw [if_pos hroom, ← List.append_assoc, List.append_left_inj]
      exact ⟨fun heq ↦ ⟨heq, hroom⟩, And.left⟩
    · rw [if_neg hroom]
      refine iff_of_false ?_ fun h ↦ hroom h.2
      intro heq
      have hlen' := congrArg List.length heq
      simp only [List.length_append, List.length_singleton] at hlen'
      omega

theorem Orderly.rcv (h : s.Orderly qid) (hcall : s.call (.rcv qid) = some s') :
    s'.Orderly qid ∧ (Lossless qid s' ↔ Lossless qid s) := by
  cases hmsgs : (s.queue qid).messages with
  | nil =>
    rw [call, Q.msgRcv_eq_none hmsgs] at hcall
    cases hcall
  | cons msg ms =>
    have hmax : 1 ≤ (s.queue qid).maxMsg := by
      by_contra hmax
      have hempty := (h.empty (by omega)).2.2
      rw [Q.messages, hempty] at hmsgs
      cases hmsgs
    obtain ⟨q', hrcv, hworks, hmax', hflags, hms⟩ := (h.works hmax).rcv hmsgs
    rw [call, hrcv, Option.map_some] at hcall
    obtain rfl := Option.some.inj hcall
    have happend : s.received qid ++ [msg] ++ ms = s.received qid ++ (s.queue qid).messages := by
      rw [hmsgs, List.append_assoc, List.singleton_append]
    refine ⟨⟨?_, ?_, ?_, ?_⟩, ?_⟩
    · simp only [Function.update_self, hms, happend]
      exact h.sublist
    · intro _
      simp only [Function.update_self]
      exact hworks
    · intro hnone
      simp only [Function.update_self, hmax'] at hnone
      exact absurd hnone (not_lt.mpr hmax)
    · intro hfree
      simp only [Function.update_self, hmax', hflags] at hfree ⊢
      exact h.created hfree
    · simp only [Lossless, Function.update_self, hms, happend]

theorem Orderly.call (h : s.Orderly qid) (hdecl : s.Declared c) (hcall : s.call c = some s') :
    s'.Orderly qid ∧ (Lossless qid s' ↔ Lossless qid s ∧ Room qid s c) := by
  cases c with
  | create maxmsg size saddr =>
    obtain ⟨horderly, hiff⟩ := h.create hdecl hcall
    exact ⟨horderly, hiff.trans (and_iff_left trivial).symm⟩
  | send i msg =>
    by_cases hi : i = qid
    · subst hi
      obtain ⟨horderly, hiff⟩ := h.send hdecl hcall
      exact ⟨horderly, hiff.trans
        (and_congr_right fun _ ↦ ⟨fun hroom _ ↦ hroom, fun hroom ↦ hroom rfl⟩)⟩
    · obtain ⟨x, -, rfl⟩ := Option.map_eq_some_iff.mp hcall
      obtain ⟨horderly, hiff⟩ := h.same (t := { s with
        queue := Function.update s.queue i x.2
        sent := Function.update s.sent i (s.sent i ++ [msg]) })
        (Function.update_of_ne (Ne.symm hi) _ _) (Function.update_of_ne (Ne.symm hi) _ _) rfl
      exact ⟨horderly, hiff.trans (and_iff_left fun heq ↦ absurd heq hi).symm⟩
  | rcv i =>
    by_cases hi : i = qid
    · subst hi
      obtain ⟨horderly, hiff⟩ := h.rcv hcall
      exact ⟨horderly, hiff.trans (and_iff_left trivial).symm⟩
    · obtain ⟨x, -, rfl⟩ := Option.map_eq_some_iff.mp hcall
      obtain ⟨horderly, hiff⟩ := h.same (t := { s with
        queue := Function.update s.queue i x.2
        received := Function.update s.received i (s.received i ++ [x.1]) })
        (Function.update_of_ne (Ne.symm hi) _ _) rfl (Function.update_of_ne (Ne.symm hi) _ _)
      exact ⟨horderly, hiff.trans (and_iff_left trivial).symm⟩

theorem orderly_init (qid : Fin maxMsgQ) : (init : Post δ).Orderly qid :=
  ⟨.slnil, nofun, fun _ ↦ rfl, fun _ ↦ Int.one_pos⟩

end Post

open Post in
/-- Within its declared size a queue loses no message and keeps their order just
when every message that is sent to it meets fewer than 24 that wait. With that
many `msg_send` still returns 0, and the message is gone. -/
theorem queue_lossless_iff {calls : List (QCall δ)} {s : Post δ} (qid : Fin maxMsgQ)
    (hrun : Run Post.call Declared init calls s) :
    (s.sent qid = s.received qid ++ (s.queue qid).messages ↔
      Run Post.call (Room qid) init calls s) ∧
    ∀ msg, s.Declared (.send qid msg) → ∃ q', msgSend (s.queue qid) msg = some (0, q') ∧
      (q'.messages = (s.queue qid).messages ++ [msg] ↔
        (s.queue qid).messages.length < sizeofMsg) := by
  have horderly : s.Orderly qid :=
    hrun.invariant (I := (Orderly · qid)) (fun _ _ _ h hd hc ↦ (h.call hd hc).1) (orderly_init qid)
  refine ⟨?_, ?_⟩
  · have hiff := hrun.iff_of_step (I := (Orderly · qid)) (P := Lossless qid) (D := Room qid)
      (fun _ _ _ h hd hc ↦ (h.call hd hc).1) (fun _ _ _ h hd hc ↦ (h.call hd hc).2)
      (orderly_init qid)
    exact hiff.trans (and_iff_right rfl)
  · intro msg hdecl
    have hlen := horderly.length_le
    have hmax : 1 ≤ (s.queue qid).maxMsg := by
      have hdecl' : ((s.sent qid).length : ℤ) < (s.received qid).length + (s.queue qid).maxMsg :=
        hdecl
      omega
    obtain ⟨q', hsend, -, -, -, hmsgs⟩ := (horderly.works hmax).send msg
    refine ⟨q', hsend, ?_⟩
    rw [hmsgs]
    by_cases hroom : (s.queue qid).messages.length < sizeofMsg
    · rw [if_pos hroom]
      exact iff_of_true rfl hroom
    · rw [if_neg hroom]
      exact iff_of_false (fun heq ↦ by simpa using congrArg List.length heq) hroom

open Post in
theorem queue_lossless_two_messages : ∃ s : Post ℕ, s.received 9 = [7] ∧
    (s.sent 9 = s.received 9 ++ (s.queue 9).messages ↔
      Run Post.call (Room 9) init
        [.create 100 8 1000, .create 5 8 900000, .send 9 7, .send 9 8, .send 8 1, .rcv 9] s) := by
  have hcheck : ((exec (fun s c ↦ if s.Declared c then s.call c else none) (init : Post ℕ)
      [.create 100 8 1000, .create 5 8 900000, .send 9 7, .send 9 8, .send 8 1, .rcv 9]).any fun s ↦
        s.received 9 = [7]) = true := by
    decide +kernel
  simp only [Option.any_eq_true, decide_eq_true_eq] at hcheck
  obtain ⟨s, hexec, hrcvd⟩ := hcheck
  exact ⟨s, hrcvd, (queue_lossless_iff 9 (run_of_exec hexec).guarded).1⟩

open Post in
/-- A queue for 100 messages that is sent 25 has 24. -/
theorem queue_loses_message : ∃ (calls : List (QCall ℕ)) (s : Post ℕ),
    Run Post.call Declared init calls s ∧ (s.queue 9).maxMsg = 100 ∧
    s.sent 9 = List.range 25 ∧ s.received 9 = [] ∧ (s.queue 9).messages = List.range 24 := by
  have hcheck : ((exec (fun s c ↦ if s.Declared c then s.call c else none) (init : Post ℕ)
      (.create 100 8 1000 :: (List.range 25).map (.send 9))).any fun s ↦
        (s.queue 9).maxMsg = 100 ∧ s.sent 9 = List.range 25 ∧ s.received 9 = [] ∧
          (s.queue 9).messages = List.range 24) = true := by
    decide +kernel
  simp only [Option.any_eq_true, decide_eq_true_eq] at hcheck
  obtain ⟨s, hexec, hs⟩ := hcheck
  exact ⟨_, s, (run_of_exec hexec).guarded, hs⟩

end Layer3Switch.Mem
