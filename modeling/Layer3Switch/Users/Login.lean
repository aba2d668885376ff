import Layer3Switch.Lib.Bytes

namespace Layer3Switch.Users

open Lib.Bytes

def maxUserName : ℕ := 32
def maxUserPassword : ℕ := 32

def isBackSpace (c : U8) : Bool := c = 0x7f#8

/-- The memory from `pword` on, the index in it, and the indices written so far. -/
structure Line where
  pword : ℕ → U8
  i : ℕ
  writes : List ℕ

namespace Line

def put (s : Line) (k : ℕ) (c : U8) : Line :=
  { s with pword := Function.update s.pword k c, writes := k :: s.writes }

def text (s : Line) : List U8 := (List.range s.i).map s.pword

def readChar (s : Line) (ch : U8) : Line :=
  if isBackSpace ch then
    if s.pword 0 = 0#8 then s
    else if 0 < s.i then { s.put (s.i - 1) 0#8 with i := s.i - 1 } else s
  else { s.put s.i ch with i := s.i + 1 }

def readLoop (s : Line) : List U8 → Option (Line × List U8)
  | [] => none
  | ch :: input => if ch = 10#8 then some (s.put s.i 0#8, input) else readLoop (s.readChar ch) input

end Line

def readUsernamePassword (pword : ℕ → U8) (input : List U8) : Option (Line × List U8) :=
  Line.readLoop ⟨pword, 0, []⟩ input

def press (text : List U8) (ch : U8) : List U8 :=
  if isBackSpace ch then text.dropLast else text ++ [ch]

def edited (typed : List U8) : List U8 := typed.foldl press []

theorem edited_concat (typed : List U8) (ch : U8) :
    edited (typed ++ [ch]) = press (edited typed) ch := by
  rw [edited, List.foldl_append]
  rfl

namespace Line

variable {s : Line} {k : ℕ} {ch c : U8} {typed rest : List U8}

theorem text_put (h : s.i ≤ k) : (s.put k c).text = s.text := by
  refine List.map_congr_left fun j hj ↦ ?_
  have hlt : j < s.i := List.mem_range.mp hj
  exact Function.update_of_ne (by omega) _ _

theorem length_text (s : Line) : s.text.length = s.i := by
  rw [text, List.length_map, List.length_range]

theorem text_char (h : isBackSpace ch = false) : (s.readChar ch).text = s.text ++ [ch] := by
  rw [readChar, h]
  have hold : (List.range s.i).map (Function.update s.pword s.i ch) = s.text :=
    text_put (s := s) (k := s.i) le_rfl
  simp only [text, put, Bool.false_eq_true, if_false, List.range_succ, List.map_append, hold,
    List.map_cons, List.map_nil, Function.update_self]

theorem text_backSpace (h : isBackSpace ch = true) :
    (s.readChar ch).text = if s.text.head? = some 0#8 then s.text else s.text.dropLast := by
  rw [readChar, h, if_pos rfl]
  obtain hi | ⟨k, hk⟩ : s.i = 0 ∨ ∃ k, s.i = k + 1 := by
    cases s.i with
    | zero => exact .inl rfl
    | succ k => exact .inr ⟨k, rfl⟩
  · have hsame : s.text = [] := by rw [text, hi, List.range_zero, List.map_nil]
    rw [if_neg (show ¬0 < s.i by omega), ite_self, hsame]
    rfl
  · have hhead : s.text.head? = some (s.pword 0) := by
      rw [text, hk, List.range_succ_eq_map]
      rfl
    have hlast : s.text.dropLast = (List.range k).map s.pword := by
      rw [text, hk, List.range_succ, List.map_append]
      exact List.dropLast_concat
    rw [hhead, hlast, if_pos (show 0 < s.i by omega)]
    by_cases hnull : s.pword 0 = 0#8
    · rw [if_pos hnull, if_pos (congrArg some hnull)]
    · rw [if_neg hnull, if_neg (fun heq ↦ hnull (Option.some.inj heq)), hk]
      exact text_put (s := { s with i := k }) (k := k) le_rfl

theorem writes_char (h : isBackSpace ch = false) : (s.readChar ch).writes = s.i :: s.writes := by
  rw [readChar, h]
  rfl

theorem writes_backSpace (h : isBackSpace ch = true) :
    (s.readChar ch).writes = s.writes ∨ (s.readChar ch).writes = (s.i - 1) :: s.writes := by
  rw [readChar, h, if_pos rfl]
  split_ifs
  · exact .inl rfl
  · exact .inr rfl
  · exact .inl rfl

theorem readLoop_newline (h : 10#8 ∉ typed) :
    s.readLoop (typed ++ 10#8 :: rest) =
      some (((typed.foldl readChar s).put (typed.foldl readChar s).i 0#8), rest) := by
  induction typed generalizing s with
  | nil => exact if_pos rfl
  | cons ch typed ih =>
    obtain ⟨hch, htyped⟩ := not_or.mp (mt List.mem_cons.mpr h)
    rw [List.cons_append, readLoop, if_neg (Ne.symm hch), List.foldl_cons]
    exact ih htyped

def after (pword : ℕ → U8) (typed : List U8) : Line := typed.foldl readChar ⟨pword, 0, []⟩

theorem after_concat (pword : ℕ → U8) (typed : List U8) (ch : U8) :
    after pword (typed ++ [ch]) = (after pword typed).readChar ch := by
  rw [after, List.foldl_append]
  rfl

end Line

def NoDeadKey (typed : List U8) : Prop :=
  ∀ front ch, front ++ [ch] <+: typed → isBackSpace ch = true → (edited front).head? ≠ some 0#8

def Fits (typed : List U8) : Prop := ∀ front, front <+: typed → (edited front).length ≤ maxUserName

variable {typed rest : List U8} {ch : U8} {pword : ℕ → U8}

theorem NoDeadKey.concat_iff : NoDeadKey (typed ++ [ch]) ↔
    NoDeadKey typed ∧ (isBackSpace ch = true → (edited typed).head? ≠ some 0#8) := by
  constructor
  · intro h
    refine ⟨fun front c hfront ↦ h front c (hfront.trans (List.prefix_append _ _)), ?_⟩
    exact h typed ch List.prefix_rfl
  · rintro ⟨h, hlast⟩ front c hfront hc
    obtain heq | hfront := List.prefix_concat_iff.mp hfront
    · obtain ⟨rfl, hch⟩ := List.append_inj' heq rfl
      obtain rfl := List.singleton_inj.mp hch
      exact hlast hc
    · exact h front c hfront hc

theorem Fits.concat_iff :
    Fits (typed ++ [ch]) ↔ Fits typed ∧ (edited (typed ++ [ch])).length ≤ maxUserName := by
  constructor
  · intro h
    exact ⟨fun front hfront ↦ h front (hfront.trans (List.prefix_append _ _)), h _ List.prefix_rfl⟩
  · rintro ⟨h, hlast⟩ front hfront
    obtain rfl | hfront := List.prefix_concat_iff.mp hfront
    · exact hlast
    · exact h front hfront

theorem text_after (h : NoDeadKey typed) : (Line.after pword typed).text = edited typed := by
  induction typed using List.reverseRecOn with
  | nil => rfl
  | append_singleton typed ch ih =>
    obtain ⟨hbefore, hch⟩ := NoDeadKey.concat_iff.mp h
    rw [Line.after_concat, edited_concat, press]
    cases hb : isBackSpace ch with
    | false =>
      rw [Line.text_char hb, ih hbefore]
      rfl
    | true =>
      rw [Line.text_backSpace hb, ih hbefore, if_neg (hch hb)]
      rfl

theorem text_ahead (pword : ℕ → U8) (h : ¬NoDeadKey typed) :
    (Line.after pword typed).text.head? = some 0#8 ∧
      (edited typed).length < (Line.after pword typed).text.length := by
  induction typed using List.reverseRecOn with
  | nil =>
    refine absurd ?_ h
    intro front ch hfront
    exact absurd (List.prefix_nil.mp hfront) (by simp)
  | append_singleton typed ch ih =>
    rw [Line.after_concat, edited_concat, press]
    by_cases hbefore : NoDeadKey typed
    · have hdead : ¬(isBackSpace ch = true → (edited typed).head? ≠ some 0#8) :=
        fun hch ↦ h (NoDeadKey.concat_iff.mpr ⟨hbefore, hch⟩)
      obtain ⟨hb, hhead⟩ := Classical.not_imp.mp hdead
      have hhead := not_not.mp hhead
      have hpos : 0 < (edited typed).length := by
        cases htext : edited typed with
        | nil =>
          rw [htext] at hhead
          cases hhead
        | cons c cs => exact Nat.succ_pos _
      rw [Line.text_backSpace hb, text_after hbefore, if_pos hhead, if_pos hb, List.length_dropLast]
      exact ⟨hhead, by omega⟩
    · obtain ⟨hhead, hlt⟩ := ih hbefore
      cases hb : isBackSpace ch with
      | false =>
        rw [Line.text_char hb, List.head?_append, hhead]
        simp only [Bool.false_eq_true, if_false, List.length_append, List.length_cons,
          List.length_nil]
        exact ⟨rfl, by omega⟩
      | true =>
        rw [Line.text_backSpace hb, if_pos hhead, if_pos rfl, List.length_dropLast]
        exact ⟨hhead, by omega⟩

theorem writes_after (h : NoDeadKey typed) :
    (∀ k ∈ (Line.after pword typed).writes, k < maxUserName) ↔ Fits typed := by
  induction typed using List.reverseRecOn with
  | nil =>
    refine iff_of_true (fun k hk ↦ absurd hk List.not_mem_nil) ?_
    intro front hfront
    rw [List.prefix_nil.mp hfront]
    exact Nat.zero_le _
  | append_singleton typed ch ih =>
    obtain ⟨hbefore, -⟩ := NoDeadKey.concat_iff.mp h
    have hi : (Line.after pword typed).i = (edited typed).length := by
      rw [← Line.length_text, text_after hbefore]
    rw [Fits.concat_iff, ← ih hbefore, Line.after_concat, edited_concat, press]
    cases hb : isBackSpace ch with
    | false =>
      rw [Line.writes_char hb, List.forall_mem_cons, hi]
      simp only [Bool.false_eq_true, if_false, List.length_append, List.length_cons,
        List.length_nil]
      rw [and_comm]
      rfl
    | true =>
      rw [if_pos rfl, List.length_dropLast]
      constructor
      · intro hwrites
        have hold : ∀ k ∈ (Line.after pword typed).writes, k < maxUserName := by
          intro k hk
          obtain heq | heq := Line.writes_backSpace (s := Line.after pword typed) hb
          · exact hwrites k (heq ▸ hk)
          · exact hwrites k (heq ▸ List.mem_cons_of_mem _ hk)
        have hlen := (ih hbefore).mp hold typed List.prefix_rfl
        exact ⟨hold, by omega⟩
      · rintro ⟨hold, -⟩ k hk
        obtain heq | heq := Line.writes_backSpace (s := Line.after pword typed) hb
        · exact hold k (heq ▸ hk)
        · rw [heq] at hk
          obtain rfl | hk := List.mem_cons.mp hk
          · have hlen := (ih hbefore).mp hold typed List.prefix_rfl
            have hmax : maxUserName = 32 := rfl
            omega
          · exact hold k hk

def Entered (pword : ℕ → U8) (typed rest : List U8) : Prop :=
  ∃ s, readUsernamePassword pword (typed ++ 10#8 :: rest) = some (s, rest) ∧
    (∀ k ∈ s.writes, k < maxUserName) ∧ s.text = edited typed ∧ s.pword s.i = 0#8

/-- Nothing bounds the index. A line stays in the buffer just when the text never has more
than 32 characters, and 31 at the end, and no backspace meets a null character in front. -/
theorem login_input_entered_iff (pword : ℕ → U8) (h : 10#8 ∉ typed) (rest : List U8) :
    Entered pword typed rest ↔
      NoDeadKey typed ∧ Fits typed ∧ (edited typed).length < maxUserName := by
  have hread : readUsernamePassword pword (typed ++ 10#8 :: rest) =
      some ((Line.after pword typed).put (Line.after pword typed).i 0#8, rest) :=
    Line.readLoop_newline h
  have htext : ((Line.after pword typed).put (Line.after pword typed).i 0#8).text =
      (Line.after pword typed).text := Line.text_put le_rfl
  constructor
  · rintro ⟨s, hs, hwrites, hedited, -⟩
    obtain ⟨rfl, -⟩ := Prod.mk.inj (Option.some.inj (hread.symm.trans hs))
    rw [htext] at hedited
    have hkeys : NoDeadKey typed := by
      by_contra hdead
      have hahead := (text_ahead pword hdead).2
      rw [hedited] at hahead
      exact lt_irrefl _ hahead
    have hlast := hwrites _ List.mem_cons_self
    rw [← Line.length_text, hedited] at hlast
    exact ⟨hkeys, (writes_after hkeys).mp fun k hk ↦ hwrites k (List.mem_cons_of_mem _ hk), hlast⟩
  · rintro ⟨hkeys, hfits, hlast⟩
    refine ⟨_, hread, ?_, htext.trans (text_after hkeys), Function.update_self _ _ _⟩
    intro k hk
    obtain rfl | hk := List.mem_cons.mp hk
    · rw [← Line.length_text, text_after hkeys]
      exact hlast
    · exact (writes_after hkeys).mpr hfits k hk

/-- The name `admin`, with one slip. -/
theorem login_input_entered_admin :
    Entered (fun _ ↦ 0#8) [97#8, 100#8, 110#8, 0x7f#8, 109#8, 105#8, 110#8] [] := by
  refine (login_input_entered_iff _ (by decide) []).mpr ⟨?_, ?_, by decide⟩
  · intro front ch hfront _
    have hall : ∀ front ∈ ([97#8, 100#8, 110#8, 0x7f#8, 109#8, 105#8, 110#8] : List U8).inits,
        (edited front).head? ≠ some 0#8 := by decide
    exact hall front ((List.mem_inits _ _).mpr ((List.prefix_append _ _).trans hfront))
  · intro front hfront
    have hall : ∀ front ∈ ([97#8, 100#8, 110#8, 0x7f#8, 109#8, 105#8, 110#8] : List U8).inits,
        (edited front).length ≤ maxUserName := by decide
    exact hall front ((List.mem_inits _ _).mpr hfront)

/-- A name of 32 characters has its null byte written behind the buffer. -/
theorem login_input_overrun :
    (readUsernamePassword (fun _ ↦ 0#8) (List.replicate 32 97#8 ++ [10#8])).any
      (fun y ↦ decide (32 ∈ y.1.writes)) = true ∧
    ¬Entered (fun _ ↦ 0#8) (List.replicate 32 97#8) [] := by
  have hwrites : (readUsernamePassword (fun _ ↦ 0#8) (List.replicate 32 97#8 ++ [10#8])).any
      (fun y ↦ decide (32 ∈ y.1.writes)) = true := by decide +kernel
  refine ⟨hwrites, ?_⟩
  rintro ⟨s, hs, hbound, -⟩
  rw [hs] at hwrites
  exact absurd (hbound 32 (of_decide_eq_true hwrites)) (lt_irrefl _)

end Layer3Switch.Users
