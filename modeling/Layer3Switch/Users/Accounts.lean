import Layer3Switch.Lib.CString
import Layer3Switch.Lib.Run
import Layer3Switch.Users.Login

namespace Layer3Switch.Users

open Lib Lib.Bytes Lib.CString

abbrev maxUsers : ℕ := 8

/-- `struct user_db`. The status is 0 or 1. -/
structure UserDb where
  userName : Field maxUserName
  password : Field maxUserPassword
  privLevel : BitVec 32
  status : Bool
  deriving DecidableEq

def UserDb.zero : UserDb := ⟨strncpy maxUserName [], strncpy maxUserPassword [], 0#32, false⟩

abbrev Database := Fin maxUsers → UserDb

def emptyDatabase : Database := fun _ ↦ UserDb.zero

def isSpace (c : U8) : Bool := c = 32#8 ∨ 9 ≤ c.toNat ∧ c.toNat ≤ 13
def isUpper (c : U8) : Bool := 65 ≤ c.toNat ∧ c.toNat ≤ 90
def isLower (c : U8) : Bool := 97 ≤ c.toNat ∧ c.toNat ≤ 122
def isDigit (c : U8) : Bool := 48 ≤ c.toNat ∧ c.toNat ≤ 57

def passwordLoop (isU isL isD : Bool) : List U8 → ℤ
  | [] => if isD && isL && isU then 0 else -1
  | c :: pswd =>
    if isSpace c then -1
    else if !isU && isUpper c then passwordLoop true isL isD pswd
    else if !isL && isLower c then passwordLoop isU true isD pswd
    else if !isD && isDigit c then passwordLoop isU isL true pswd
    else passwordLoop isU isL isD pswd

def passwordValidation (pswd : List U8) : ℤ :=
  if pswd = [] then -1 else passwordLoop false false false pswd

section Image

variable (e : Endian)

def UserDb.tail (level : BitVec 32) (status : Bool) : List U8 :=
  e.store 4 level.toNat ++ e.store 4 status.toNat

def UserDb.passwordString (u : UserDb) : List U8 :=
  cstr (u.password.bytes ++ UserDb.tail e u.privLevel u.status)

def UserDb.nameString (u : UserDb) : List U8 :=
  cstr (u.userName.bytes ++ (u.password.bytes ++ UserDb.tail e u.privLevel u.status))

def getUserInfo (username : List U8) (userdb : Database) : Option (Fin maxUsers) :=
  if username = [] then none
  else (List.finRange maxUsers).reverse.find? fun i ↦
    (userdb i).status && (userdb i).nameString e = username

def validateUsernamePassword (user passwd : List U8) (userdb : Database) : ℤ :=
  match getUserInfo e user userdb with
  | none => -1
  | some p => if (userdb p).passwordString e = passwd then 0 else -1

def updateUserInfo (username password : List U8) (privLevel : BitVec 32) (userdb : Database) :
    ℤ × Database :=
  match getUserInfo e username userdb with
  | none => (-1, userdb)
  | some p => (0, Function.update userdb p
    { userdb p with
      privLevel := if 0 ≤ privLevel.toInt then privLevel else (userdb p).privLevel
      password := strncpy maxUserPassword password })

def newUser (username password : List U8) (privLevel : BitVec 32) : UserDb :=
  ⟨strncpy maxUserName username, strncpy maxUserPassword password,
    if 0 ≤ privLevel.toInt then privLevel else 5#32, true⟩

def freeUser (userdb : Database) : Option (Fin maxUsers) :=
  (List.finRange maxUsers).reverse.find? fun i ↦ !(userdb i).status

def createUser (username password : List U8) (privLevel : BitVec 32) (userdb : Database) :
    ℤ × Database :=
  if passwordValidation password < 0 then (-1, userdb)
  else if privLevel.toInt < 0 ∨ privLevel.toInt > 5 then (-1, userdb)
  else
    let updated := updateUserInfo e username password privLevel userdb
    if updated.1 = 0 then (-1, updated.2)
    else match freeUser updated.2 with
      | none => (-1, updated.2)
      | some i => (0, Function.update updated.2 i (newUser username password privLevel))

def userDel (username : List U8) (userdb : Database) : ℤ × Database :=
  match getUserInfo e username userdb with
  | none => (-1, userdb)
  | some del => (0, Function.update userdb del UserDb.zero)

end Image

structure GoodPassword (pswd : List U8) : Prop where
  upper : ∃ c ∈ pswd, isUpper c = true
  lower : ∃ c ∈ pswd, isLower c = true
  digit : ∃ c ∈ pswd, isDigit c = true
  noSpace : ∀ c ∈ pswd, isSpace c = false

theorem passwordLoop_eq_zero {isU isL isD : Bool} {pswd : List U8} :
    passwordLoop isU isL isD pswd = 0 ↔
      (isU = true ∨ ∃ c ∈ pswd, isUpper c = true) ∧ (isL = true ∨ ∃ c ∈ pswd, isLower c = true) ∧
      (isD = true ∨ ∃ c ∈ pswd, isDigit c = true) ∧ ∀ c ∈ pswd, isSpace c = false := by
  induction pswd generalizing isU isL isD with
  | nil => cases isU <;> cases isL <;> cases isD <;> simp [passwordLoop]
  | cons c pswd ih =>
    -- A character is of one kind at most, so that the chain of tests skips none.
    have hul : isUpper c = true → isLower c = false ∧ isDigit c = false := by
      simp only [isUpper, isLower, isDigit, decide_eq_true_eq, decide_eq_false_iff_not]
      omega
    have hld : isLower c = true → isDigit c = false := by
      simp only [isLower, isDigit, decide_eq_true_eq, decide_eq_false_iff_not]
      omega
    rw [passwordLoop]
    simp only [List.exists_mem_cons_iff, List.forall_mem_cons]
    cases hs : isSpace c with
    | true => simp
    | false =>
      cases hu : isUpper c with
      | true =>
        obtain ⟨hl, hd⟩ := hul hu
        cases isU <;> simp [hl, hd, ih]
      | false =>
        cases hl : isLower c with
        | true => cases isL <;> simp [hld hl, ih]
        | false => cases hd : isDigit c <;> cases isD <;> simp [ih]

theorem passwordLoop_cases (isU isL isD : Bool) (pswd : List U8) :
    passwordLoop isU isL isD pswd = 0 ∨ passwordLoop isU isL isD pswd = -1 := by
  induction pswd generalizing isU isL isD with
  | nil =>
    rw [passwordLoop]
    split_ifs
    · exact .inl rfl
    · exact .inr rfl
  | cons c pswd ih =>
    rw [passwordLoop]
    split_ifs
    · exact .inr rfl
    all_goals exact ih _ _ _

theorem passwordValidation_neg_iff {pswd : List U8} :
    passwordValidation pswd < 0 ↔ ¬GoodPassword pswd := by
  have hgood : GoodPassword pswd ↔ passwordLoop false false false pswd = 0 := by
    rw [passwordLoop_eq_zero]
    simp only [Bool.false_eq_true, false_or]
    exact ⟨fun h ↦ ⟨h.upper, h.lower, h.digit, h.noSpace⟩, fun ⟨hu, hl, hd, hs⟩ ↦ ⟨hu, hl, hd, hs⟩⟩
  rw [passwordValidation]
  split_ifs with hnil
  · subst hnil
    refine iff_of_true (by decide) fun h ↦ ?_
    obtain ⟨c, hc, -⟩ := h.upper
    exact absurd hc List.not_mem_nil
  · rw [hgood]
    obtain h | h := passwordLoop_cases false false false pswd
    · rw [h]
      decide
    · rw [h]
      decide

section Lookup

variable {e : Endian} {userdb : Database} {username password v : List U8} {privLevel : BitVec 32}
  {i j : Fin maxUsers} {u : UserDb}

def Carries (e : Endian) (u : UserDb) (username : List U8) : Prop :=
  u.status = true ∧ u.nameString e = username

theorem getUserInfo_some (h : getUserInfo e username userdb = some i) :
    username ≠ [] ∧ Carries e (userdb i) username := by
  unfold getUserInfo at h
  split_ifs at h with hnil
  have hfound := List.find?_some h
  rw [Bool.and_eq_true, decide_eq_true_eq] at hfound
  exact ⟨hnil, hfound⟩

theorem getUserInfo_none (hname : username ≠ []) :
    getUserInfo e username userdb = none ↔ ∀ i, ¬Carries e (userdb i) username := by
  rw [getUserInfo, if_neg hname, List.find?_eq_none]
  simp [Carries]

theorem getUserInfo_congr {userdb' : Database}
    (h : ∀ i, Carries e (userdb' i) username ↔ Carries e (userdb i) username) :
    getUserInfo e username userdb' = getUserInfo e username userdb := by
  have hsame : ∀ i, ((userdb' i).status && decide ((userdb' i).nameString e = username)) =
      ((userdb i).status && decide ((userdb i).nameString e = username)) := by
    intro i
    rw [Bool.eq_iff_iff, Bool.and_eq_true, Bool.and_eq_true, decide_eq_true_eq, decide_eq_true_eq]
    exact h i
  rw [getUserInfo, getUserInfo]
  simp only [hsame]

theorem freeUser_some (h : freeUser userdb = some i) : (userdb i).status = false := by
  have hfree := List.find?_some h
  exact (Bool.not_eq_true' _).mp hfree

theorem freeUser_none : freeUser userdb = none ↔ ∀ i, (userdb i).status = true := by
  rw [freeUser, List.find?_eq_none]
  simp

theorem getUserInfo_fill (hfree : (userdb i).status = false) (hv : ¬Carries e u v) :
    getUserInfo e v (Function.update userdb i u) = getUserInfo e v userdb := by
  refine getUserInfo_congr fun j ↦ ?_
  by_cases hj : j = i
  · subst hj
    rw [Function.update_self]
    refine iff_of_false hv fun hold ↦ ?_
    exact absurd (hfree.symm.trans hold.1) Bool.false_ne_true
  · rw [Function.update_of_ne hj]

theorem getUserInfo_filled (hnone : getUserInfo e username userdb = none) (hname : username ≠ [])
    (hu : Carries e u username) :
    getUserInfo e username (Function.update userdb i u) = some i := by
  cases hget : getUserInfo e username (Function.update userdb i u) with
  | none =>
    refine absurd ?_ ((getUserInfo_none hname).mp hget i)
    rw [Function.update_self]
    exact hu
  | some j =>
    by_cases hj : j = i
    · rw [hj]
    · have hfound := (getUserInfo_some hget).2
      rw [Function.update_of_ne hj] at hfound
      exact absurd hfound ((getUserInfo_none hname).mp hnone j)

end Lookup

/-- The law of `create_user`. -/
structure Lawful (e : Endian) (userdb : Database) (username password : List U8)
    (privLevel : BitVec 32) : Prop where
  returns : (createUser e username password privLevel userdb).1 = 0 ↔
    username ≠ [] ∧ (∀ i, ¬Carries e (userdb i) username) ∧ GoodPassword password ∧
      (0 ≤ privLevel.toInt ∧ privLevel.toInt ≤ 5) ∧ ∃ i, (userdb i).status = false
  created : (createUser e username password privLevel userdb).1 = 0 →
    validateUsernamePassword e username password
      (createUser e username password privLevel userdb).2 = 0 ∧
    (∀ other, other ≠ password → validateUsernamePassword e username other
      (createUser e username password privLevel userdb).2 = -1) ∧
    ∀ v, v ≠ username →
      (getUserInfo e v (createUser e username password privLevel userdb).2).map
          (createUser e username password privLevel userdb).2 =
        (getUserInfo e v userdb).map userdb
  refused : (createUser e username password privLevel userdb).1 = -1 →
    (createUser e username password privLevel userdb).2 = userdb

/-- The strings are read back from the fields of a new entry. A string that fills its field
runs on into what is stored behind it. -/
structure ReadsBack (e : Endian) (username password : List U8) (privLevel : BitVec 32) : Prop where
  name : username.length < maxUserName ∨ username.drop maxUserName =
    cstr ((strncpy maxUserPassword password).bytes ++ UserDb.tail e privLevel true)
  password : password.length < maxUserPassword ∨
    password.drop maxUserPassword = cstr (UserDb.tail e privLevel true)

def Admitted (e : Endian) (userdb : Database) (username password : List U8)
    (privLevel : BitVec 32) : Prop :=
  GoodPassword password → 0 ≤ privLevel.toInt → privLevel.toInt ≤ 5 →
    (∀ i, getUserInfo e username userdb = some i → (userdb i).privLevel = privLevel ∧
      (userdb i).password = strncpy maxUserPassword password) ∧
    (getUserInfo e username userdb = none → (∃ i, (userdb i).status = false) →
      username ≠ [] ∧ ReadsBack e username password privLevel)

section Create

variable {e : Endian} {userdb : Database} {username password v : List U8} {privLevel : BitVec 32}
  {i j : Fin maxUsers} {u : UserDb}

theorem createUser_refused (h :
    ¬(GoodPassword password ∧ 0 ≤ privLevel.toInt ∧ privLevel.toInt ≤ 5)) :
    createUser e username password privLevel userdb = (-1, userdb) := by
  rw [createUser]
  by_cases hgood : GoodPassword password
  · have hlevel : privLevel.toInt < 0 ∨ privLevel.toInt > 5 := by
      by_contra hcon
      exact h ⟨hgood, by omega, by omega⟩
    rw [if_pos hlevel, ite_self]
  · rw [if_pos (passwordValidation_neg_iff.mpr hgood)]

theorem lawful_of_unchanged (hcreate : createUser e username password privLevel
    userdb = (-1, userdb))
    (h : ¬(username ≠ [] ∧ (∀ i, ¬Carries e (userdb i) username) ∧ GoodPassword password ∧
      (0 ≤ privLevel.toInt ∧ privLevel.toInt ≤ 5) ∧ ∃ i, (userdb i).status = false)) :
    Lawful e userdb username password privLevel := by
  have hresult : (createUser e username password privLevel userdb).1 ≠ 0 := by
    rw [hcreate]
    exact Int.neg_ne_zero.mpr one_ne_zero
  refine ⟨iff_of_false hresult h, fun hzero ↦ absurd hzero hresult, fun _ ↦ ?_⟩
  rw [hcreate]

variable (hgood : GoodPassword password) (hlow : 0 ≤ privLevel.toInt) (hhigh : privLevel.toInt ≤ 5)
include hgood hlow hhigh

theorem createUser_checked (r : ℤ × Database)
    (h : updateUserInfo e username password privLevel userdb = r) :
    createUser e username password privLevel userdb =
      if r.1 = 0 then (-1, r.2) else (freeUser r.2).elim (-1, r.2) fun i ↦
        (0, Function.update r.2 i (newUser username password privLevel)) := by
  have hpass : ¬passwordValidation password < 0 :=
    fun hneg ↦ passwordValidation_neg_iff.mp hneg hgood
  have hlevel : ¬(privLevel.toInt < 0 ∨ privLevel.toInt > 5) := by omega
  rw [createUser, if_neg hpass, if_neg hlevel, h]
  dsimp only
  cases freeUser r.2 <;> rfl

theorem createUser_found (h : getUserInfo e username userdb = some i) :
    createUser e username password privLevel userdb = (-1, Function.update userdb i
      { userdb i with
        privLevel := privLevel, password := strncpy maxUserPassword password }) := by
  refine (createUser_checked hgood hlow hhigh _ rfl).trans ?_
  rw [updateUserInfo, h]
  simp only [if_pos hlow, if_true]

theorem createUser_full (h : getUserInfo e username userdb = none)
    (hfree : freeUser userdb = none) :
    createUser e username password privLevel userdb = (-1, userdb) := by
  have hupdate : updateUserInfo e username password privLevel userdb = (-1, userdb) := by
    rw [updateUserInfo, h]
  rw [createUser_checked hgood hlow hhigh _ hupdate, hfree]
  rfl

theorem createUser_new (h : getUserInfo e username userdb = none)
    (hfree : freeUser userdb = some i) :
    createUser e username password privLevel userdb =
      (0, Function.update userdb i (newUser username password privLevel)) := by
  have hupdate : updateUserInfo e username password privLevel userdb = (-1, userdb) := by
    rw [updateUserInfo, h]
  rw [createUser_checked hgood hlow hhigh _ hupdate, hfree]
  rfl

omit hgood hhigh in
theorem nameString_newUser (hname : 0#8 ∉ username) :
    (newUser username password privLevel).nameString e = username ↔
      username.length < maxUserName ∨ username.drop maxUserName =
        cstr ((strncpy maxUserPassword password).bytes ++ UserDb.tail e privLevel true) := by
  rw [UserDb.nameString, newUser, if_pos hlow]
  exact cstr_strncpy_eq_iff hname _

omit hgood hhigh in
theorem passwordString_newUser (username : List U8) (hpass : 0#8 ∉ password) :
    (newUser username password privLevel).passwordString e = password ↔
      password.length < maxUserPassword ∨
        password.drop maxUserPassword = cstr (UserDb.tail e privLevel true) := by
  rw [UserDb.passwordString, newUser, if_pos hlow]
  exact cstr_strncpy_eq_iff hpass _

theorem lawful_found (h : getUserInfo e username userdb = some i) :
    Lawful e userdb username password privLevel ↔ (userdb i).privLevel = privLevel ∧
      (userdb i).password = strncpy maxUserPassword password := by
  have hcreate := createUser_found (e := e) hgood hlow hhigh h
  constructor
  · intro hlaw
    have hsame := hlaw.refused (by rw [hcreate])
    rw [hcreate] at hsame
    have hentry := (Function.update_self i _ userdb).symm.trans (congrFun hsame i)
    exact ⟨(congrArg UserDb.privLevel hentry).symm, (congrArg UserDb.password hentry).symm⟩
  · rintro ⟨hlevel, hpass⟩
    have hentry : { userdb i with
        privLevel := privLevel, password := strncpy maxUserPassword password } = userdb i := by
      rw [← hlevel, ← hpass]
    rw [hentry, Function.update_eq_self] at hcreate
    refine lawful_of_unchanged hcreate ?_
    rintro ⟨-, habsent, -⟩
    exact habsent i (getUserInfo_some h).2

theorem lawful_new (hname : 0#8 ∉ username) (hpass : 0#8 ∉ password)
    (h : getUserInfo e username userdb = none) (hfree : freeUser userdb = some i) :
    Lawful e userdb username password privLevel ↔
      username ≠ [] ∧ ReadsBack e username password privLevel := by
  have hcreate := createUser_new (e := e) hgood hlow hhigh h hfree
  have hslot := freeUser_some hfree
  constructor
  · intro hlaw
    have hzero : (createUser e username password privLevel userdb).1 = 0 := by rw [hcreate]
    obtain ⟨hnonempty, -⟩ := hlaw.returns.mp hzero
    have hvalid := (hlaw.created hzero).1
    rw [hcreate] at hvalid
    dsimp only [validateUsernamePassword] at hvalid
    have hreads : (newUser username password privLevel).nameString e = username := by
      by_contra hne
      rw [getUserInfo_fill hslot fun hc ↦ hne hc.2, h] at hvalid
      cases hvalid
    rw [getUserInfo_filled h hnonempty ⟨rfl, hreads⟩] at hvalid
    refine ⟨hnonempty, (nameString_newUser hlow hname).mp hreads, ?_⟩
    refine (passwordString_newUser hlow username hpass).mp ?_
    by_contra hne
    simp only [Function.update_self] at hvalid
    rw [if_neg hne] at hvalid
    cases hvalid
  · rintro ⟨hnonempty, hreads⟩
    have hcarries : Carries e (newUser username password privLevel) username :=
      ⟨rfl, (nameString_newUser hlow hname).mpr hreads.name⟩
    have hstring : (newUser username password privLevel).passwordString e = password :=
      (passwordString_newUser hlow username hpass).mpr hreads.password
    have hget := getUserInfo_filled (i := i) h hnonempty hcarries
    refine ⟨?_, ?_, ?_⟩
    · rw [hcreate]
      refine iff_of_true rfl ⟨hnonempty, (getUserInfo_none hnonempty).mp h, hgood, ⟨hlow, hhigh⟩,
        i, hslot⟩
    · rw [hcreate]
      intro _
      refine ⟨?_, ?_, ?_⟩
      · simp only [validateUsernamePassword, hget, Function.update_self, hstring, if_true]
      · intro other hother
        simp only [validateUsernamePassword, hget, Function.update_self, hstring,
          if_neg (Ne.symm hother)]
      · intro v hv
        have hsame : getUserInfo e v (Function.update userdb i
            (newUser username password privLevel)) = getUserInfo e v userdb :=
          getUserInfo_fill hslot fun hc ↦ hv (hc.2.symm.trans hcarries.2)
        rw [hsame]
        cases hv' : getUserInfo e v userdb with
        | none => rfl
        | some j =>
          have hj : j ≠ i := by
            rintro rfl
            exact absurd (hslot.symm.trans (getUserInfo_some hv').2.1) Bool.false_ne_true
          exact congrArg some (Function.update_of_ne hj _ _)
    · rw [hcreate]
      intro hneg
      cases hneg

omit hgood hlow hhigh in
theorem lawful_iff (hname : 0#8 ∉ username) (hpass : 0#8 ∉ password) :
    Lawful e userdb username password privLevel ↔
      Admitted e userdb username password privLevel := by
  by_cases hchecks : GoodPassword password ∧ 0 ≤ privLevel.toInt ∧ privLevel.toInt ≤ 5
  · obtain ⟨hgood, hlow, hhigh⟩ := hchecks
    have hadmitted : Admitted e userdb username password privLevel ↔
        (∀ i, getUserInfo e username userdb = some i → (userdb i).privLevel = privLevel ∧
          (userdb i).password = strncpy maxUserPassword password) ∧
        (getUserInfo e username userdb = none → (∃ i, (userdb i).status = false) →
          username ≠ [] ∧ ReadsBack e username password privLevel) :=
      ⟨fun h ↦ h hgood hlow hhigh, fun h _ _ _ ↦ h⟩
    rw [hadmitted]
    cases hget : getUserInfo e username userdb with
    | some i =>
      rw [lawful_found hgood hlow hhigh hget]
      simp
    | none =>
      cases hfree : freeUser userdb with
      | some i =>
        rw [lawful_new hgood hlow hhigh hname hpass hget hfree]
        have hslot : ∃ i, (userdb i).status = false := ⟨i, freeUser_some hfree⟩
        simp [hslot]
      | none =>
        have hfull : ¬∃ i, (userdb i).status = false := by
          rintro ⟨i, hi⟩
          exact absurd (hi.symm.trans (freeUser_none.mp hfree i)) Bool.false_ne_true
        refine iff_of_true ?_ ⟨fun i hi ↦ absurd hi (Option.some_ne_none i).symm,
          fun _ hslot ↦ absurd hslot hfull⟩
        refine lawful_of_unchanged (createUser_full hgood hlow hhigh hget hfree) ?_
        rintro ⟨-, -, -, -, hslot⟩
        exact hfull hslot
  · refine iff_of_true ?_ fun hgood hlow hhigh ↦ absurd ⟨hgood, hlow, hhigh⟩ hchecks
    refine lawful_of_unchanged (createUser_refused hchecks) ?_
    rintro ⟨-, -, hgood, hlevel, -⟩
    exact hchecks ⟨hgood, hlevel⟩

end Create

inductive Call where
  | create (username password : List U8) (privLevel : BitVec 32)
  | update (username password : List U8) (privLevel : BitVec 32)
  | delete (username : List U8)

def step (e : Endian) (userdb : Database) : Call → Option Database
  | .create username password privLevel => some (createUser e username password privLevel userdb).2
  | .update username password privLevel =>
    some (updateUserInfo e username password privLevel userdb).2
  | .delete username => some (userDel e username userdb).2

def Sound (e : Endian) (userdb : Database) : Call → Prop
  | .create username password privLevel => 0#8 ∉ username ∧ username.length < maxUserName ∧
      Admitted e userdb username password privLevel
  | .update _ _ _ => True
  | .delete _ => True

def NamesDistinct (e : Endian) (userdb : Database) : Prop :=
  ∀ i j, (userdb i).status = true → (userdb j).status = true →
    (userdb i).nameString e = (userdb j).nameString e → i = j

section Names

variable {e : Endian} {userdb userdb' : Database} {username password : List U8}
  {privLevel : BitVec 32} {i : Fin maxUsers} {u : UserDb} {c : Call}

/-- Names end in their own field, where no change of the password or the level reaches them. -/
structure Orderly (userdb : Database) : Prop where
  ends : ∀ i, (userdb i).status = true → 0#8 ∈ (userdb i).userName.bytes
  distinct : ∀ i j, (userdb i).status = true → (userdb j).status = true →
    cstr (userdb i).userName.bytes = cstr (userdb j).userName.bytes → i = j

theorem nameString_of_ends (h : 0#8 ∈ u.userName.bytes) :
    u.nameString e = cstr u.userName.bytes := cstr_append_of_mem h

theorem Orderly.namesDistinct (h : Orderly userdb) : NamesDistinct e userdb := by
  intro i j hi hj heq
  rw [nameString_of_ends (h.ends i hi), nameString_of_ends (h.ends j hj)] at heq
  exact h.distinct i j hi hj heq

theorem Orderly.set (h : Orderly userdb) (hends : u.status = true → 0#8 ∈ u.userName.bytes)
    (hown : u.status = true → ∀ j, j ≠ i → (userdb j).status = true →
      cstr (userdb j).userName.bytes ≠ cstr u.userName.bytes) :
    Orderly (Function.update userdb i u) := by
  constructor
  · intro j hj
    by_cases hji : j = i
    · subst hji
      rw [Function.update_self] at hj ⊢
      exact hends hj
    · rw [Function.update_of_ne hji] at hj ⊢
      exact h.ends j hj
  · intro j k hj hk heq
    by_cases hji : j = i <;> by_cases hki : k = i
    · rw [hji, hki]
    · subst hji
      rw [Function.update_self] at hj heq
      rw [Function.update_of_ne hki] at hk heq
      exact absurd heq.symm (hown hj k hki hk)
    · subst hki
      rw [Function.update_self] at hk heq
      rw [Function.update_of_ne hji] at hj heq
      exact absurd heq (hown hk j hji hj)
    · rw [Function.update_of_ne hji] at hj heq
      rw [Function.update_of_ne hki] at hk heq
      exact h.distinct j k hj hk heq

theorem Orderly.update (h : Orderly userdb) :
    Orderly (updateUserInfo e username password privLevel userdb).2 := by
  rw [updateUserInfo]
  cases hget : getUserInfo e username userdb with
  | none => exact h
  | some i =>
    refine h.set (h.ends i) ?_
    intro hi j hji hj heq
    exact hji (h.distinct j i hj hi heq)

theorem Orderly.delete (h : Orderly userdb) : Orderly (userDel e username userdb).2 := by
  rw [userDel]
  cases hget : getUserInfo e username userdb with
  | none => exact h
  | some i =>
    exact h.set (fun hzero ↦ absurd hzero Bool.false_ne_true)
      (fun hzero ↦ absurd hzero Bool.false_ne_true)

theorem Orderly.create (h : Orderly userdb) (hname : 0#8 ∉ username)
    (hlen : username.length < maxUserName)
    (hadmitted : Admitted e userdb username password privLevel) :
    Orderly (createUser e username password privLevel userdb).2 := by
  by_cases hchecks : GoodPassword password ∧ 0 ≤ privLevel.toInt ∧ privLevel.toInt ≤ 5
  · obtain ⟨hgood, hlow, hhigh⟩ := hchecks
    cases hget : getUserInfo e username userdb with
    | some i =>
      rw [createUser_found hgood hlow hhigh hget]
      refine h.set (h.ends i) ?_
      intro hi j hji hj heq
      exact hji (h.distinct j i hj hi heq)
    | none =>
      cases hfree : freeUser userdb with
      | none =>
        rw [createUser_full hgood hlow hhigh hget hfree]
        exact h
      | some i =>
        rw [createUser_new hgood hlow hhigh hget hfree]
        obtain ⟨hnonempty, -⟩ := (hadmitted hgood hlow hhigh).2 hget ⟨i, freeUser_some hfree⟩
        refine h.set (fun _ ↦ mem_strncpy hlen) ?_
        intro _ j _ hj heq
        -- The name was looked up before, so that no entry in use has it.
        have hread : cstr (newUser username password privLevel).userName.bytes = username :=
          cstr_strncpy hname hlen
        rw [hread, ← nameString_of_ends (e := e) (h.ends j hj)] at heq
        exact (getUserInfo_none hnonempty).mp hget j ⟨hj, heq⟩
  · rw [createUser_refused hchecks]
    exact h

theorem Orderly.step (h : Orderly userdb) (hc : Sound e userdb c)
    (hstep : step e userdb c = some userdb') : Orderly userdb' := by
  cases c with
  | create username password privLevel =>
    obtain rfl := Option.some.inj hstep
    exact h.create hc.1 hc.2.1 hc.2.2
  | update username password privLevel =>
    obtain rfl := Option.some.inj hstep
    exact h.update
  | delete username =>
    obtain rfl := Option.some.inj hstep
    exact h.delete

theorem orderly_empty : Orderly emptyDatabase :=
  ⟨fun _ hi ↦ absurd hi Bool.false_ne_true, fun _ _ hi ↦ absurd hi Bool.false_ne_true⟩

end Names

/-- Creation keeps its law just when a user that exists would not be changed, and a new one
has a name and strings that are read back. In a run whose creations keep to that, with names
shorter than their field, no name is carried twice. -/
theorem create_user_lawful_iff (e : Endian) :
    (∀ userdb username password privLevel, 0#8 ∉ username → 0#8 ∉ password →
      (Lawful e userdb username password privLevel ↔
        Admitted e userdb username password privLevel)) ∧
    ∀ calls userdb, Run (step e) (Sound e) emptyDatabase calls userdb →
      NamesDistinct e userdb := by
  refine ⟨fun userdb username password privLevel hname hpass ↦ lawful_iff hname hpass, ?_⟩
  intro calls userdb hrun
  have horderly : Orderly userdb :=
    hrun.invariant (fun _ _ _ h hc hstep ↦ Orderly.step h hc hstep) orderly_empty
  exact horderly.namesDistinct

/-- The user `guest` with the password `Guest1`, whose strings are short, and then `root`. -/
theorem create_user_lawful_guest :
    Lawful .little emptyDatabase [103#8, 117#8, 101#8, 115#8, 116#8]
      [71#8, 117#8, 101#8, 115#8, 116#8, 49#8] 5#32 ∧
    ∃ userdb, Run (step .little) (Sound .little) emptyDatabase
        [.create [103#8, 117#8, 101#8, 115#8, 116#8] [71#8, 117#8, 101#8, 115#8, 116#8, 49#8] 5#32,
          .create [114#8, 111#8, 111#8, 116#8] [71#8, 117#8, 101#8, 115#8, 116#8, 49#8] 1#32]
            userdb ∧
      (∃ i j, i ≠ j ∧ (userdb i).status = true ∧ (userdb j).status = true) ∧
      NamesDistinct .little userdb := by
  have hfirst : Admitted .little emptyDatabase [103#8, 117#8, 101#8, 115#8, 116#8]
      [71#8, 117#8, 101#8, 115#8, 116#8, 49#8] 5#32 := by
    intro _ _ _
    refine ⟨fun i hi ↦ absurd (getUserInfo_some hi).2.1 Bool.false_ne_true, fun _ _ ↦ ?_⟩
    exact ⟨by decide, .inl (by decide), .inl (by decide)⟩
  let userdb := (createUser .little [103#8, 117#8, 101#8, 115#8, 116#8]
    [71#8, 117#8, 101#8, 115#8, 116#8, 49#8] 5#32 emptyDatabase).2
  have hnone : getUserInfo .little [114#8, 111#8, 111#8, 116#8] userdb = none := by
    decide +kernel
  have hrun : Run (step .little) (Sound .little) emptyDatabase
      [.create [103#8, 117#8, 101#8, 115#8, 116#8] [71#8, 117#8, 101#8, 115#8, 116#8, 49#8] 5#32,
        .create [114#8, 111#8, 111#8, 116#8] [71#8, 117#8, 101#8, 115#8, 116#8, 49#8] 1#32]
      (createUser .little [114#8, 111#8, 111#8, 116#8] [71#8, 117#8, 101#8, 115#8, 116#8, 49#8] 1#32
        userdb).2 := by
    refine .cons ⟨by decide, by decide, hfirst⟩ rfl (.one ⟨by decide, by decide, ?_⟩ rfl)
    intro _ _ _
    refine ⟨fun i hi ↦ absurd (hnone.symm.trans hi) (Option.some_ne_none i).symm, fun _ _ ↦ ?_⟩
    exact ⟨by decide, .inl (by decide), .inl (by decide)⟩
  obtain ⟨hlaw, hdistinct⟩ := create_user_lawful_iff .little
  refine ⟨(hlaw _ _ _ _ (by decide) (by decide)).mpr hfirst, _, hrun, ?_, hdistinct _ _ hrun⟩
  decide +kernel

/-- A second creation of `guest` fails, and yet changes the password and the level. -/
theorem create_user_overwrites :
    (createUser .little [103#8] [71#8, 117#8, 50#8] 0#32
      (createUser .little [103#8] [71#8, 117#8, 49#8] 5#32 emptyDatabase).2).1 = -1 ∧
    validateUsernamePassword .little [103#8] [71#8, 117#8, 50#8]
      (createUser .little [103#8] [71#8, 117#8, 50#8] 0#32
        (createUser .little [103#8] [71#8, 117#8, 49#8] 5#32 emptyDatabase).2).2 = 0 ∧
    ¬Lawful .little (createUser .little [103#8] [71#8, 117#8, 49#8] 5#32 emptyDatabase).2 [103#8]
      [71#8, 117#8, 50#8] 0#32 := by
  have hresult : (createUser .little [103#8] [71#8, 117#8, 50#8] 0#32
      (createUser .little [103#8] [71#8, 117#8, 49#8] 5#32 emptyDatabase).2).1 = -1 := by
    decide +kernel
  have hlevel : ((createUser .little [103#8] [71#8, 117#8, 50#8] 0#32
      (createUser .little [103#8] [71#8, 117#8, 49#8] 5#32 emptyDatabase).2).2 7).privLevel ≠
      ((createUser .little [103#8] [71#8, 117#8, 49#8] 5#32 emptyDatabase).2 7).privLevel := by
    decide +kernel
  refine ⟨hresult, by decide +kernel, fun hlaw ↦ hlevel ?_⟩
  rw [hlaw.refused hresult]

end Layer3Switch.Users
