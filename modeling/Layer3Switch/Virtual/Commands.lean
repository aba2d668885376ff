import Layer3Switch.Lib.Bytes
import Layer3Switch.Lib.Keyed

namespace Layer3Switch.Virtual

open Lib Lib.Bytes

def maxTokens : ℕ := 32
def maxCmdName : ℕ := 128

abbrev Token := List U8

/-- `cmdnode_t`, with a number for its handler. -/
structure Cmdnode where
  cmd : List U8
  privMode : BitVec 32
  handler : ℕ
  fits : cmd.length < maxCmdName

/-- `cmd_t`: the commands that begin with one character. -/
structure CmdT where
  startChar : ℕ
  head : List Cmdnode

abbrev CmdRoot := List CmdT

abbrev Args := ℕ → Token

inductive CliError where
  | invalidCommand
  | commandConflicts

def tokens (line : List U8) : List Token := (line.splitOn 32#8).filter (· ≠ [])

def isParameter (token : Token) : Bool := token.head? = some 60#8

def firstChar (line : List U8) : U8 := line.headD 0#8

/-- A `char` as an `unsigned int`. -/
def charKey (c : U8) : ℕ := (c.signExtend 32).toNat

def cmdTreeWalk (cmdRoot : CmdRoot) (key : ℕ) : Option CmdT := Lib.lookup CmdT.startChar cmdRoot key

def installCmdHandler (cmdRoot : CmdRoot) (new : Cmdnode) : CmdRoot :=
  match cmdTreeWalk cmdRoot (charKey (firstChar new.cmd)) with
  | some p => Lib.update CmdT.startChar cmdRoot p.startChar { p with head := new :: p.head }
  | none => cmdRoot ++ [⟨(firstChar new.cmd).toNat, [new]⟩]

def install (cmds : List Cmdnode) : CmdRoot := cmds.foldl installCmdHandler []

def matchLoop (isHelp : Bool) : ℕ → List Token → List Token → ℕ → Args → Option (Bool × Args)
  | 0, _, _, _, _ => none
  | room + 1, cmdToken :: cmdTokens, token :: tokens, j, args =>
    if isParameter cmdToken then
      matchLoop isHelp room cmdTokens tokens (j + 1) (Function.update args j token)
    else if token <+: cmdToken then matchLoop isHelp room cmdTokens tokens j args
    else some (false, args)
  | _ + 1, [], _ :: _, _, args => some (false, args)
  | _ + 1, _ :: _, [], _, args => some (isHelp, args)
  | _ + 1, [], [], _, args => some (true, args)

def matchCommand (isHelp : Bool) (cmd : Cmdnode) (token : List Token) (args : Args) :
    Option (Bool × Args) :=
  matchLoop isHelp maxTokens (tokens cmd.cmd) token 0 args

/-- What `command_lookup` keeps while it goes through a list. -/
structure Search where
  nref : ℕ
  found : Option Cmdnode
  args : Args

def lookupStep (isHelp : Bool) (token : List Token) (s : Search) (cmd : Cmdnode) : Option Search :=
  (matchCommand isHelp cmd token s.args).map fun y ↦
    if y.1 then ⟨s.nref + 1, some cmd, y.2⟩ else { s with args := y.2 }

def Search.outcome (s : Search) (level : BitVec 32) : Except CliError Cmdnode :=
  match s.nref, s.found with
  | 1, some m => if m.privMode &&& level ≠ 0#32 then .ok m else .error .invalidCommand
  | 0, _ => .error .invalidCommand
  | _, _ => .error .commandConflicts

def commandLookup (isHelp : Bool) (level : BitVec 32) (cmdRoot : CmdRoot) (command : List U8)
    (args : Args) : Option (Except CliError Cmdnode × Args) :=
  match cmdTreeWalk cmdRoot (charKey (firstChar command)) with
  | none => some (.error .invalidCommand, args)
  | some p =>
    if maxCmdName < command.length + 1 then none
    else (p.head.foldlM (lookupStep isHelp (tokens command)) ⟨0, none, args⟩).map fun s ↦
      (s.outcome level, s.args)

def parseAndExecute (isHelp : Bool) (level : BitVec 32) (cmdRoot : CmdRoot) (line : List U8)
    (args : Args) : Option (Option (ℕ × Args)) :=
  (commandLookup isHelp level cmdRoot line args).map fun y ↦
    match y.1 with
    | .error _ => none
    | .ok cmdNode => if level &&& cmdNode.privMode = 0#32 then none else some (cmdNode.handler, y.2)

section Buckets

def bucket (cmds : List Cmdnode) (c : U8) : List Cmdnode := cmds.filter (firstChar ·.cmd = c)

variable {cmds : List Cmdnode} {c : U8}

theorem charKey_of_lt (h : c.toNat < 128) : charKey c = c.toNat := by
  rw [charKey, BitVec.toNat_signExtend]
  have hmsb : c.msb = false := by
    rw [BitVec.msb_eq_false_iff_two_mul_lt]
    omega
  rw [hmsb]
  simp
  omega

theorem charKey_of_ge (h : 128 ≤ c.toNat) : 256 ≤ charKey c := by
  rw [charKey, BitVec.toNat_signExtend]
  have hmsb : c.msb = true := by
    rw [BitVec.msb_eq_true_iff_two_mul_ge]
    omega
  rw [hmsb]
  simp

theorem install_concat (cmds : List Cmdnode) (new : Cmdnode) :
    install (cmds ++ [new]) = installCmdHandler (install cmds) new := by
  rw [install, List.foldl_append]
  rfl

theorem bucket_concat (cmds : List Cmdnode) (new : Cmdnode) :
    bucket (cmds ++ [new]) c =
      if firstChar new.cmd = c then bucket cmds c ++ [new] else bucket cmds c := by
  rw [bucket, List.filter_append]
  split_ifs with hnew <;> simp [hnew, bucket]

theorem cmdTreeWalk_install (cmds : List Cmdnode) (h : c.toNat < 128) :
    cmdTreeWalk (install cmds) c.toNat =
      if bucket cmds c = [] then none else some ⟨c.toNat, (bucket cmds c).reverse⟩ := by
  induction cmds using List.reverseRecOn with
  | nil => rfl
  | append_singleton cmds new ih =>
    rw [install_concat, bucket_concat, installCmdHandler]
    by_cases hnew : firstChar new.cmd = c
    · rw [if_pos hnew, hnew, charKey_of_lt h, ih]
      by_cases hnil : bucket cmds c = []
      · rw [if_pos hnil] at ih ⊢
        rw [hnil, List.nil_append, if_neg (List.cons_ne_nil _ _)]
        exact lookup_append rfl ih
      · rw [if_neg hnil] at ih ⊢
        rw [if_neg (List.append_ne_nil_of_right_ne_nil _ (List.cons_ne_nil _ _)),
          List.reverse_append]
        exact lookup_update rfl (Option.isSome_iff_exists.mpr ⟨_, ih⟩)
    · rw [if_neg hnew, ← ih]
      have hne : (firstChar new.cmd).toNat ≠ c.toNat :=
        fun heq ↦ hnew (BitVec.eq_of_toNat_eq heq)
      cases hwalk : cmdTreeWalk (install cmds) (charKey (firstChar new.cmd)) with
      | none => exact lookup_append_ne hne
      | some p =>
        refine lookup_update_ne rfl fun heq ↦ ?_
        -- A node found under the key of the new character is not that of another one.
        have hkey : p.startChar = charKey (firstChar new.cmd) := lookup_key hwalk
        by_cases hlt : (firstChar new.cmd).toNat < 128
        · rw [charKey_of_lt hlt] at hkey
          exact hne (hkey.symm.trans heq.symm)
        · have hge := charKey_of_ge (not_lt.mp hlt)
          omega

theorem cmdTreeWalk_high (cmds : List Cmdnode) {key : ℕ} (h : 256 ≤ key) :
    cmdTreeWalk (install cmds) key = none := by
  induction cmds using List.reverseRecOn with
  | nil => rfl
  | append_singleton cmds new ih =>
    rw [install_concat, installCmdHandler]
    cases hwalk : cmdTreeWalk (install cmds) (charKey (firstChar new.cmd)) with
    | none =>
      refine (lookup_append_ne ?_).trans ih
      have hlt := (firstChar new.cmd).isLt
      exact ne_of_lt (lt_of_lt_of_le hlt h)
    | some p =>
      have hkey : p.startChar = charKey (firstChar new.cmd) := lookup_key hwalk
      have hne : key ≠ p.startChar := by
        intro heq
        rw [← hkey, ← heq, ih] at hwalk
        cases hwalk
      exact (lookup_update_ne (x := { p with head := new :: p.head }) rfl hne).trans ih

end Buckets

section Matching

variable {cs ts l : List Token} {args : Args} {n j : ℕ} {isHelp : Bool}

def Admits (cmdToken token : Token) : Prop := isParameter cmdToken = true ∨ token <+: cmdToken

def taken : List Token → List Token → List Token
  | cmdToken :: cmdTokens, token :: tokens =>
    if isParameter cmdToken then token :: taken cmdTokens tokens
    else if token <+: cmdToken then taken cmdTokens tokens
    else []
  | [], _ => []
  | _ :: _, [] => []

def store (args : Args) (j : ℕ) : List Token → Args
  | [] => args
  | token :: l => store (Function.update args j token) (j + 1) l

theorem store_apply (args : Args) (j : ℕ) (l : List Token) (i : ℕ) :
    store args j l i = if i < j then args i else (l[i - j]?).getD (args i) := by
  induction l generalizing args j with
  | nil =>
    rw [store]
    split_ifs <;> rfl
  | cons token l ih =>
    rw [store, ih]
    obtain hlt | rfl | hgt := lt_trichotomy i j
    · rw [if_pos (by omega), if_pos hlt, Function.update_of_ne (by omega)]
    · rw [if_pos (by omega), if_neg (lt_irrefl _), Nat.sub_self, Function.update_self]
      rfl
    · rw [if_neg (by omega), if_neg (by omega), Function.update_of_ne (by omega)]
      have hindex : i - j = i - (j + 1) + 1 := by omega
      rw [hindex, List.getElem?_cons_succ]

def Overruns (n : ℕ) (cs ts : List Token) : Prop :=
  n ≤ cs.length ∧ n ≤ ts.length ∧ List.Forall₂ Admits (cs.take n) (ts.take n)

theorem overruns_zero : Overruns 0 cs ts := ⟨Nat.zero_le _, Nat.zero_le _, List.Forall₂.nil⟩

theorem overruns_cons {c t : Token} :
    Overruns (n + 1) (c :: cs) (t :: ts) ↔ Admits c t ∧ Overruns n cs ts := by
  simp only [Overruns, List.length_cons, Nat.add_le_add_iff_right, List.take_succ_cons,
    List.forall₂_cons]
  tauto

theorem matchLoop_none : matchLoop isHelp n cs ts j args = none ↔ Overruns n cs ts := by
  induction n generalizing cs ts j args with
  | zero => exact iff_of_true rfl overruns_zero
  | succ n ih =>
    cases cs with
    | nil => cases ts <;> simp [matchLoop, Overruns]
    | cons c cs =>
      cases ts with
      | nil => simp [matchLoop, Overruns]
      | cons t ts =>
        rw [overruns_cons, matchLoop, Admits]
        split_ifs with hparam hword
        · rw [ih]
          simp [hparam]
        · rw [ih]
          simp [hword]
        · simp [hparam, hword]

theorem matchLoop_eq (h : ¬Overruns n cs ts) : ∃ found,
    matchLoop false n cs ts j args = some (found, store args j (taken cs ts)) ∧
    (found = true ↔ List.Forall₂ Admits cs ts) := by
  induction n generalizing cs ts j args with
  | zero => exact absurd overruns_zero h
  | succ n ih =>
    cases cs with
    | nil =>
      cases ts with
      | nil => exact ⟨true, rfl, iff_of_true rfl .nil⟩
      | cons t ts => exact ⟨false, rfl, by simp⟩
    | cons c cs =>
      cases ts with
      | nil => exact ⟨false, rfl, by simp⟩
      | cons t ts =>
        rw [overruns_cons] at h
        rw [matchLoop, taken]
        simp only [List.forall₂_cons]
        split_ifs with hparam hword
        · have hadmits : Admits c t := .inl hparam
          obtain ⟨found, heq, hfound⟩ := ih fun hover ↦ h ⟨hadmits, hover⟩
          exact ⟨found, heq, by rw [hfound, and_iff_right hadmits]⟩
        · have hadmits : Admits c t := .inr hword
          obtain ⟨found, heq, hfound⟩ := ih fun hover ↦ h ⟨hadmits, hover⟩
          exact ⟨found, heq, by rw [hfound, and_iff_right hadmits]⟩
        · refine ⟨false, rfl, iff_of_false Bool.false_ne_true ?_⟩
          rintro ⟨hadmits, -⟩
          exact hadmits.elim hparam hword

end Matching

section Lookup

variable {cmds l : List Cmdnode} {line : List U8} {level : BitVec 32} {args : Args} {m c : Cmdnode}
  {s : Search}

def Accepts (line : List U8) (m : Cmdnode) : Prop :=
  List.Forall₂ Admits (tokens m.cmd) (tokens line)

def parameters (m : Cmdnode) (line : List U8) : List Token :=
  ((tokens m.cmd).zip (tokens line)).filterMap fun x ↦ if isParameter x.1 then some x.2 else none

theorem taken_eq_parameters (h : Accepts line m) :
    taken (tokens m.cmd) (tokens line) = parameters m line := by
  rw [parameters]
  unfold Accepts at h
  generalize tokens m.cmd = cs, tokens line = ts at h
  induction h with
  | nil => rfl
  | @cons c t cs ts hadmits _ ih =>
    rw [taken, List.zip_cons_cons, List.filterMap_cons, ih]
    by_cases hparam : isParameter c = true
    · simp only [if_pos hparam]
    · simp only [if_neg hparam, if_pos (hadmits.resolve_left hparam)]

def leaves (line : List U8) (args : Args) (c : Cmdnode) : Args :=
  store args 0 (taken (tokens c.cmd) (tokens line))

instance decidableAdmits (c t : Token) : Decidable (Admits c t) :=
  inferInstanceAs (Decidable (isParameter c = true ∨ t <+: c))

instance decidableAccepts (line : List U8) (m : Cmdnode) : Decidable (Accepts line m) :=
  inferInstanceAs (Decidable (List.Forall₂ Admits (tokens m.cmd) (tokens line)))

def accepting (line : List U8) (l : List Cmdnode) : List Cmdnode :=
  l.filter fun c ↦ Accepts line c

theorem lookupStep_eq (h : ¬Overruns maxTokens (tokens c.cmd) (tokens line)) :
    (Accepts line c → lookupStep false (tokens line) s c =
      some ⟨s.nref + 1, some c, leaves line s.args c⟩) ∧
    (¬Accepts line c → lookupStep false (tokens line) s c =
      some { s with args := leaves line s.args c }) := by
  obtain ⟨found, hmatch, hfound⟩ : ∃ found, matchCommand false c (tokens line) s.args =
      some (found, leaves line s.args c) ∧ (found = true ↔ Accepts line c) := matchLoop_eq h
  rw [lookupStep, hmatch]
  constructor
  · intro haccepts
    rw [hfound.mpr haccepts]
    rfl
  · intro haccepts
    rw [Bool.eq_false_iff.mpr fun htrue ↦ haccepts (hfound.mp htrue)]
    rfl

theorem lookup_list (h : ∀ c ∈ l, ¬Overruns maxTokens (tokens c.cmd) (tokens line)) (s : Search) :
    l.foldlM (lookupStep false (tokens line)) s = some ⟨s.nref + (accepting line l).length,
      ((accepting line l).getLast?).or s.found, l.foldl (leaves line) s.args⟩ := by
  induction l generalizing s with
  | nil => rfl
  | cons c l ih =>
    obtain ⟨hyes, hno⟩ := lookupStep_eq (s := s) (h c List.mem_cons_self)
    have hrest := ih fun c' hc' ↦ h c' (List.mem_cons_of_mem _ hc')
    rw [List.foldlM_cons]
    by_cases haccepts : Accepts line c
    · have hlist : accepting line (c :: l) = c :: accepting line l := by
        simp [accepting, haccepts]
      rw [hyes haccepts, hlist, List.getLast?_cons, List.length_cons]
      refine (hrest _).trans ?_
      cases (accepting line l).getLast? <;> simp <;> omega
    · have hlist : accepting line (c :: l) = accepting line l := by
        simp [accepting, haccepts]
      rw [hno haccepts, hlist]
      exact hrest _

theorem lookup_overrun (hc : c ∈ l) (h : Overruns maxTokens (tokens c.cmd) (tokens line))
    (s : Search) : l.foldlM (lookupStep false (tokens line)) s = none := by
  induction l generalizing s with
  | nil => exact absurd hc List.not_mem_nil
  | cons c' l ih =>
    rw [List.foldlM_cons]
    obtain rfl | hc := List.mem_cons.mp hc
    · have hnone : lookupStep false (tokens line) s c = none := by
        rw [lookupStep, matchCommand, matchLoop_none.mpr h]
        rfl
      rw [hnone]
      rfl
    · cases hstep : lookupStep false (tokens line) s c' with
      | none => rfl
      | some s' => exact ih hc s'

theorem leaves_foldl (l : List Cmdnode) (args : Args) (j : ℕ) :
    l.reverse.foldl (leaves line) args j =
      (l.findSome? fun c ↦ (taken (tokens c.cmd) (tokens line))[j]?).getD (args j) := by
  induction l with
  | nil => rfl
  | cons c l ih =>
    rw [List.reverse_cons, List.foldl_append, List.foldl_cons, List.foldl_nil, leaves, store_apply,
      if_neg (Nat.not_lt_zero j), Nat.sub_zero, List.findSome?_cons, ih]
    cases (taken (tokens c.cmd) (tokens line))[j]? <;> rfl

theorem Search.outcome_eq_ok : s.outcome level = .ok m ↔
    s.nref = 1 ∧ s.found = some m ∧ m.privMode &&& level ≠ 0#32 := by
  obtain ⟨nref, found, args⟩ := s
  rcases nref with _ | _ | nref
  · simp [Search.outcome]
  · cases found with
    | none => simp [Search.outcome]
    | some m' =>
      simp only [Search.outcome, Nat.zero_add, Option.some_inj, true_and]
      constructor
      · intro hok
        split_ifs at hok with hlevel
        obtain rfl := Except.ok.inj hok
        exact ⟨rfl, hlevel⟩
      · rintro ⟨rfl, hlevel⟩
        rw [if_pos hlevel]
  · simp [Search.outcome]

def Chosen (cmds : List Cmdnode) (line : List U8) (level : BitVec 32) (m : Cmdnode) : Prop :=
  accepting line (bucket cmds (firstChar line)) = [m] ∧ m.privMode &&& level ≠ 0#32

/-- A line finds the command it stands for and nothing else, and its handler gets the
parameters of the line. -/
structure Served (cmds : List Cmdnode) (line : List U8) (level : BitVec 32) (args : Args) :
    Prop where
  finds : ∃ r args', commandLookup false level (install cmds) line args = some (r, args') ∧
    ∀ m, r = .ok m ↔ Chosen cmds line level m
  hands : ∀ m, Chosen cmds line level m → ∃ args',
    parseAndExecute false level (install cmds) line args = some (some (m.handler, args')) ∧
      (List.range (parameters m line).length).map args' = parameters m line

def firstTaken (cmds : List Cmdnode) (line : List U8) (j : ℕ) : Option Token :=
  (bucket cmds (firstChar line)).findSome? fun c ↦ (taken (tokens c.cmd) (tokens line))[j]?

/-- Nothing comes in the way of a line: it fits in the buffers, and no command that was
installed first takes another parameter in the place of one. -/
structure Clear (cmds : List Cmdnode) (line : List U8) (level : BitVec 32) : Prop where
  char : (firstChar line).toNat < 128
  length : line.length < maxCmdName
  tokens : ∀ c ∈ bucket cmds (firstChar line), ¬Overruns maxTokens (tokens c.cmd) (tokens line)
  args : ∀ m, Chosen cmds line level m → ∀ j, j < (parameters m line).length →
    firstTaken cmds line j = (parameters m line)[j]?

theorem accepting_reverse (l : List Cmdnode) :
    accepting line l.reverse = (accepting line l).reverse := List.filter_reverse

theorem commandLookup_bucket (hchar : (firstChar line).toNat < 128)
    (hne : bucket cmds (firstChar line) ≠ []) :
    commandLookup false level (install cmds) line args =
      if maxCmdName < line.length + 1 then none
      else ((bucket cmds (firstChar line)).reverse.foldlM (lookupStep false (Virtual.tokens line))
        ⟨0, none, args⟩).map fun s ↦ (s.outcome level, s.args) := by
  rw [commandLookup, charKey_of_lt hchar, cmdTreeWalk_install cmds hchar, if_neg hne]

theorem commandLookup_clear (level : BitVec 32) (args : Args) (hchar : (firstChar line).toNat < 128)
    (hne : bucket cmds (firstChar line) ≠ []) (hlength : line.length < maxCmdName)
    (htokens : ∀ c ∈ bucket cmds (firstChar line),
      ¬Overruns maxTokens (tokens c.cmd) (tokens line)) :
    ∃ r args', commandLookup false level (install cmds) line args = some (r, args') ∧
      (∀ m, r = .ok m ↔ Chosen cmds line level m) ∧
      ∀ j, args' j = (firstTaken cmds line j).getD (args j) := by
  rw [commandLookup_bucket hchar hne, if_neg (by omega),
    lookup_list fun c hc ↦ htokens c (List.mem_reverse.mp hc)]
  refine ⟨_, _, rfl, fun m ↦ ?_, fun j ↦ leaves_foldl _ args j⟩
  rw [Search.outcome_eq_ok, Chosen, accepting_reverse, ← and_assoc]
  refine and_congr_left fun _ ↦ ?_
  simp only [Nat.zero_add, List.length_reverse, Option.or_none, List.getLast?_reverse]
  constructor
  · rintro ⟨hlen, hhead⟩
    obtain ⟨m', hm'⟩ := List.length_eq_one_iff.mp hlen
    rw [hm'] at hhead ⊢
    rw [Option.some.inj hhead]
  · intro heq
    rw [heq]
    exact ⟨rfl, rfl⟩

theorem parseAndExecute_eq {r : Except CliError Cmdnode} {args' : Args}
    (h : commandLookup false level (install cmds) line args = some (r, args')) (hr : r = .ok m)
    (hlevel : m.privMode &&& level ≠ 0#32) :
    parseAndExecute false level (install cmds) line args = some (some (m.handler, args')) := by
  have hlevel' : ¬level &&& m.privMode = 0#32 := by
    rw [BitVec.and_comm]
    exact hlevel
  rw [parseAndExecute, h, hr]
  simp only [Option.map_some, if_neg hlevel']

theorem firstTaken_isSome (h : Chosen cmds line level m) {j : ℕ}
    (hj : j < (parameters m line).length) : ∃ t, firstTaken cmds line j = some t := by
  have hm : m ∈ accepting line (bucket cmds (firstChar line)) := by
    rw [h.1]
    exact List.mem_singleton_self m
  obtain ⟨hbucket, haccepts⟩ := List.mem_filter.mp hm
  rw [← Option.isSome_iff_exists, firstTaken, List.findSome?_isSome_iff]
  refine ⟨m, hbucket, ?_⟩
  rw [taken_eq_parameters (of_decide_eq_true haccepts), List.getElem?_eq_getElem hj]
  rfl

theorem range_map_eq_iff {l : List Token} {args : Args} :
    (List.range l.length).map args = l ↔ ∀ j, j < l.length → some (args j) = l[j]? := by
  constructor
  · intro heq j hj
    have hget := congrArg (·[j]?) heq
    simpa [hj] using hget
  · intro h
    refine List.ext_getElem (by simp) fun j hj hj' ↦ ?_
    have hget := h j hj'
    rw [List.getElem?_eq_getElem hj'] at hget
    simpa using Option.some.inj hget

theorem served_iff_clear (hchar : (firstChar line).toNat < 128)
    (hne : bucket cmds (firstChar line) ≠ []) :
    Served cmds line level args ↔ Clear cmds line level := by
  constructor
  · intro hserved
    obtain ⟨r, args', hlookup, -⟩ := hserved.finds
    have hlength : line.length < maxCmdName := by
      by_contra hge
      rw [commandLookup_bucket hchar hne, if_pos (by omega)] at hlookup
      cases hlookup
    have htokens : ∀ c ∈ bucket cmds (firstChar line),
        ¬Overruns maxTokens (tokens c.cmd) (tokens line) := by
      intro c hc hover
      rw [commandLookup_bucket hchar hne, if_neg (by omega),
        lookup_overrun (List.mem_reverse.mpr hc) hover] at hlookup
      cases hlookup
    refine ⟨hchar, hlength, htokens, fun m hm j hj ↦ ?_⟩
    obtain ⟨r, args₁, hlookup₁, hfinds, hargs⟩ :=
      commandLookup_clear level args hchar hne hlength htokens
    obtain ⟨args₂, hparse, hmap⟩ := hserved.hands m hm
    rw [parseAndExecute_eq hlookup₁ ((hfinds m).mpr hm) hm.2] at hparse
    obtain ⟨-, rfl⟩ := Prod.mk.inj (Option.some.inj (Option.some.inj hparse))
    obtain ⟨t, ht⟩ := firstTaken_isSome hm hj
    have hval := range_map_eq_iff.mp hmap j hj
    rw [hargs, ht] at hval
    rw [ht]
    exact hval
  · intro hclear
    obtain ⟨r, args', hlookup, hfinds, hargs⟩ :=
      commandLookup_clear level args hchar hne hclear.length hclear.tokens
    refine ⟨⟨r, args', hlookup, hfinds⟩, fun m hm ↦ ?_⟩
    refine ⟨args', parseAndExecute_eq hlookup ((hfinds m).mpr hm) hm.2, ?_⟩
    refine range_map_eq_iff.mpr fun j hj ↦ ?_
    obtain ⟨t, ht⟩ := firstTaken_isSome hm hj
    rw [hargs, ← hclear.args m hm j hj, ht]
    rfl

theorem not_chosen_of_nil (h : bucket cmds (firstChar line) = []) (m : Cmdnode) :
    ¬Chosen cmds line level m := by
  intro hm
  have hone := hm.1
  rw [h] at hone
  cases hone

theorem served_of_no_node (h : cmdTreeWalk (install cmds) (charKey (firstChar line)) = none) :
    Served cmds line level args ↔ ∀ m, ¬Chosen cmds line level m := by
  have hlookup : commandLookup false level (install cmds) line args =
      some (.error .invalidCommand, args) := by
    rw [commandLookup, h]
  constructor
  · intro hserved m hm
    obtain ⟨r, args', hlookup', hfinds⟩ := hserved.finds
    obtain ⟨rfl, -⟩ := Prod.mk.inj (Option.some.inj (hlookup.symm.trans hlookup'))
    cases (hfinds m).mpr hm
  · intro hnone
    refine ⟨⟨_, args, hlookup, fun m ↦ iff_of_false ?_ (hnone m)⟩, fun m hm ↦ absurd hm (hnone m)⟩
    intro hok
    cases hok

end Lookup

/-- A line is served if no command begins with its character, and otherwise if the line fits
in the buffers and the array ends up with the parameters of its own command. A character from
128 on finds no command at all. -/
theorem command_served_iff (cmds : List Cmdnode) (line : List U8) (level : BitVec 32)
    (args : Args) :
    Served cmds line level args ↔
      bucket cmds (firstChar line) = [] ∨
      (128 ≤ (firstChar line).toNat ∧ ∀ m, ¬Chosen cmds line level m) ∨
      Clear cmds line level := by
  by_cases hnil : bucket cmds (firstChar line) = []
  · refine iff_of_true ((served_of_no_node ?_).mpr (not_chosen_of_nil hnil)) (.inl hnil)
    by_cases hchar : (firstChar line).toNat < 128
    · rw [charKey_of_lt hchar, cmdTreeWalk_install cmds hchar, if_pos hnil]
    · exact cmdTreeWalk_high cmds (charKey_of_ge (not_lt.mp hchar))
  · rw [or_iff_right hnil]
    by_cases hchar : (firstChar line).toNat < 128
    · rw [served_iff_clear hchar hnil]
      exact (or_iff_right fun hhigh ↦ absurd hchar (not_lt.mpr hhigh.1)).symm
    · have hhigh := not_lt.mp hchar
      rw [served_of_no_node (cmdTreeWalk_high cmds (charKey_of_ge hhigh)), and_iff_right hhigh]
      exact (or_iff_left fun hclear ↦ hchar hclear.char).symm

def shortCommand (handler : ℕ) : Cmdnode :=
  ⟨[115#8, 32#8, 60#8, 120#8, 62#8, 32#8, 98#8], 1#32, handler, by decide⟩

def otherCommand (handler : ℕ) : Cmdnode :=
  ⟨[115#8, 32#8, 97#8, 32#8, 60#8, 121#8, 62#8], 1#32, handler, by decide⟩

/-- `s a 1` is served where `s <x> b` is installed as well, behind `s a <y>`. -/
theorem command_served_alone :
    Served [otherCommand 1, shortCommand 0] [115#8, 32#8, 97#8, 32#8, 49#8] 1#32 (fun _ ↦ []) := by
  refine (command_served_iff _ _ _ _).mpr (.inr (.inr ⟨by decide, by decide, ?_, ?_⟩))
  · intro c hc hover
    have hlen := hover.2.1
    revert hlen
    decide
  · intro m hm j hj
    have hone : accepting [115#8, 32#8, 97#8, 32#8, 49#8]
        (bucket [otherCommand 1, shortCommand 0] (firstChar [115#8, 32#8, 97#8, 32#8, 49#8])) =
          [otherCommand 1] := rfl
    obtain rfl := List.singleton_inj.mp (hone.symm.trans hm.1)
    obtain rfl : j = 0 := Nat.lt_one_iff.mp hj
    rfl

/-- `s a 1` runs the command `s a <y>`, which was installed after `s <x> b`. Its handler gets
`a`, which the other command took for its parameter before it failed. -/
theorem command_wrong_argument :
    (parseAndExecute false 1#32 (install [shortCommand 0, otherCommand 1])
      [115#8, 32#8, 97#8, 32#8, 49#8] (fun _ ↦ [])).map
        (fun y ↦ y.map fun z ↦ (z.1, z.2 0)) = some (some (1, [97#8])) ∧
    ¬Served [shortCommand 0, otherCommand 1] [115#8, 32#8, 97#8, 32#8, 49#8] 1#32
      (fun _ ↦ []) := by
  have hparse : (parseAndExecute false 1#32 (install [shortCommand 0, otherCommand 1])
      [115#8, 32#8, 97#8, 32#8, 49#8] (fun _ ↦ [])).map
        (fun y ↦ y.map fun z ↦ (z.1, z.2 0)) = some (some (1, [97#8])) := by decide +kernel
  refine ⟨hparse, fun hserved ↦ ?_⟩
  have hchosen : Chosen [shortCommand 0, otherCommand 1] [115#8, 32#8, 97#8, 32#8, 49#8] 1#32
      (otherCommand 1) := ⟨rfl, by decide⟩
  obtain ⟨args', hrun, hmap⟩ := hserved.hands _ hchosen
  rw [hrun] at hparse
  have hfirst : args' 0 = [97#8] :=
    (Prod.mk.inj (Option.some.inj (Option.some.inj hparse))).2
  have hown : args' 0 = [49#8] := List.singleton_inj.mp hmap
  rw [hfirst] at hown
  exact absurd hown (by decide)

end Layer3Switch.Virtual
