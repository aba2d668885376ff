import Layer3Switch.Lib.Bytes

namespace Layer3Switch.Lib.CString

open Bytes

variable {n : ℕ} {as bs s : List U8}

def cstr (bs : List U8) : List U8 := bs.takeWhile (· ≠ 0#8)

/-- A `char` array of a fixed size. -/
structure Field (n : ℕ) where
  bytes : List U8
  length_bytes : bytes.length = n
  deriving DecidableEq

theorem length_strncpy (n : ℕ) (s : List U8) :
    (s.take n ++ List.replicate (n - s.length) 0#8).length = n := by
  rw [List.length_append, List.length_take, List.length_replicate]
  omega

def strncpy (n : ℕ) (s : List U8) : Field n :=
  ⟨s.take n ++ List.replicate (n - s.length) 0#8, length_strncpy n s⟩

theorem bytes_strncpy (n : ℕ) (s : List U8) :
    (strncpy n s).bytes = s.take n ++ List.replicate (n - s.length) 0#8 := rfl

theorem cstr_append_of_mem (h : 0#8 ∈ as) : cstr (as ++ bs) = cstr as := by
  induction as with
  | nil => exact absurd h List.not_mem_nil
  | cons a as ih =>
    rw [List.cons_append, cstr, cstr, List.takeWhile_cons, List.takeWhile_cons]
    by_cases ha : a = 0#8
    · simp [ha]
    · obtain h | h := List.mem_cons.mp h
      · exact absurd h.symm ha
      · simp only [ne_eq, ha, not_false_eq_true, decide_true, if_true]
        exact congrArg (a :: ·) (ih h)

theorem cstr_append_of_not_mem (h : 0#8 ∉ as) : cstr (as ++ bs) = as ++ cstr bs := by
  refine List.takeWhile_append_of_pos fun a ha ↦ ?_
  exact decide_eq_true (ne_of_mem_of_not_mem ha h)

theorem mem_strncpy (h : s.length < n) : 0#8 ∈ (strncpy n s).bytes := by
  refine List.mem_append_right _ (List.mem_replicate.mpr ⟨?_, rfl⟩)
  omega

theorem cstr_strncpy (hs : 0#8 ∉ s) (h : s.length < n) : cstr (strncpy n s).bytes = s := by
  obtain ⟨k, hk⟩ : ∃ k, n - s.length = k + 1 := ⟨n - s.length - 1, by omega⟩
  rw [bytes_strncpy, hk, List.take_of_length_le h.le, cstr_append_of_not_mem hs,
    List.replicate_succ]
  exact List.append_nil s

theorem cstr_strncpy_append (hs : 0#8 ∉ s) (bs : List U8) :
    cstr ((strncpy n s).bytes ++ bs) = if s.length < n then s else s.take n ++ cstr bs := by
  split_ifs with h
  · rw [cstr_append_of_mem (mem_strncpy h), cstr_strncpy hs h]
  · have hfull : (strncpy n s).bytes = s.take n := by
      rw [bytes_strncpy, Nat.sub_eq_zero_of_le (not_lt.mp h)]
      exact List.append_nil _
    rw [hfull, cstr_append_of_not_mem fun hmem ↦ hs (List.mem_of_mem_take hmem)]

theorem cstr_strncpy_eq_iff (hs : 0#8 ∉ s) (bs : List U8) :
    cstr ((strncpy n s).bytes ++ bs) = s ↔ s.length < n ∨ s.drop n = cstr bs := by
  rw [cstr_strncpy_append hs]
  split_ifs with h
  · exact iff_of_true rfl (.inl h)
  · have hsplit : s.take n ++ cstr bs = s.take n ++ s.drop n ↔ cstr bs = s.drop n :=
      List.append_right_inj _
    rw [List.take_append_drop] at hsplit
    rw [hsplit]
    exact ⟨fun heq ↦ .inr heq.symm, fun hor ↦ (hor.resolve_left h).symm⟩

end Layer3Switch.Lib.CString
