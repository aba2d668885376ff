import Layer3Switch.Lib.Bytes

namespace Layer3Switch.Lib.Checksum

open Bytes

variable (e : Endian)

def wordSum : List U8 → ℕ
  | a :: b :: bs => e.load [a, b] + wordSum bs
  | [a] => e.hton 2 (a.toNat * 256)
  | [] => 0

def complement (sum : ℕ) : ℕ :=
  let sum := sum / 65536 + sum % 65536
  let sum := sum + sum / 65536
  65535 - sum % 65536

/-- The checksum of the internet protocols, whose sum does not overflow an `int`. -/
def inCsum (addr : List U8) (csum : ℕ) : ℕ := complement (csum + wordSum e addr)

variable {e} {as bs : List U8} {sum : ℕ}

theorem wordSum_append {n : ℕ} (h : as.length = 2 * n) :
    wordSum e (as ++ bs) = wordSum e as + wordSum e bs := by
  induction n generalizing as with
  | zero =>
    rw [List.length_eq_zero_iff.mp h, List.nil_append, wordSum, Nat.zero_add]
  | succ n ih =>
    cases as with
    | nil => cases h
    | cons a as =>
      cases as with
      | nil =>
        rw [List.length_singleton] at h
        omega
      | cons b as =>
        have hlen : as.length = 2 * n := by
          rw [List.length_cons, List.length_cons] at h
          omega
        rw [List.cons_append, List.cons_append, wordSum, wordSum, ih hlen, Nat.add_assoc]

theorem wordSum_zeros (n : ℕ) : wordSum e (List.replicate (2 * n) 0#8) = 0 := by
  induction n with
  | zero => rfl
  | succ n ih =>
    have hload : e.load [0#8, 0#8] = 0 := by cases e <;> rfl
    rw [Nat.mul_succ, List.replicate_succ, List.replicate_succ, wordSum, hload, ih]

theorem wordSum_store {x : ℕ} (h : x < 65536) : wordSum e (e.store 2 x) = x := by
  have hload := load_store e 2 x
  have hlen := length_store e 2 x
  obtain ⟨a, b, hab⟩ : ∃ a b, e.store 2 x = [a, b] := List.length_eq_two.mp hlen
  rw [hab] at hload ⊢
  rw [wordSum, hload]
  exact Nat.mod_eq_of_lt h

theorem wordSum_lt {n : ℕ} (h : bs.length = 2 * n) : wordSum e bs ≤ 65535 * n := by
  induction n generalizing bs with
  | zero =>
    rw [List.length_eq_zero_iff.mp h]
    exact Nat.zero_le _
  | succ n ih =>
    cases bs with
    | nil => exact Nat.zero_le _
    | cons a bs =>
      cases bs with
      | nil =>
        rw [List.length_singleton] at h
        omega
      | cons b bs =>
        have hlen : bs.length = 2 * n := by
          rw [List.length_cons, List.length_cons] at h
          omega
        have hword : e.load [a, b] < 256 ^ 2 := load_lt e [a, b]
        have hrest := ih hlen
        rw [wordSum]
        omega

theorem complement_lt (sum : ℕ) : complement sum < 65536 := by
  rw [complement]
  omega

theorem complement_halves {hi lo : ℕ} (hhi : hi < 1024) (hlo : lo < 65536) :
    complement (65536 * hi + lo) = if hi + lo < 65536 then 65535 - (hi + lo)
      else 131070 - (hi + lo) := by
  have hdiv : (65536 * hi + lo) / 65536 = hi := by omega
  have hmod : (65536 * hi + lo) % 65536 = lo := by omega
  rw [complement, hdiv, hmod]
  split_ifs <;> omega

theorem exists_halves (h : sum < 2 ^ 26) :
    ∃ hi lo, sum = 65536 * hi + lo ∧ hi < 1024 ∧ lo < 65536 :=
  ⟨sum / 65536, sum % 65536, (Nat.div_add_mod _ _).symm, by omega, Nat.mod_lt _ (by decide)⟩

theorem add_complement (h : sum < 2 ^ 26) : (sum + complement sum) % 65535 = 0 := by
  obtain ⟨hi, lo, rfl, hhi, hlo⟩ := exists_halves h
  rw [complement_halves hhi hlo]
  split_ifs with hcarry
  · have hsum : 65536 * hi + lo + (65535 - (hi + lo)) = 65535 * (hi + 1) := by omega
    rw [hsum, Nat.mul_mod_right]
  · have hsum : 65536 * hi + lo + (131070 - (hi + lo)) = 65535 * (hi + 2) := by omega
    rw [hsum, Nat.mul_mod_right]

theorem complement_eq_zero_iff (h : sum < 2 ^ 26) :
    complement sum = 0 ↔ 0 < sum ∧ sum % 65535 = 0 := by
  have hadd := add_complement h
  have hlt := complement_lt sum
  constructor
  · intro hzero
    rw [hzero, Nat.add_zero] at hadd
    refine ⟨Nat.pos_of_ne_zero fun hsum ↦ ?_, hadd⟩
    rw [hsum] at hzero
    cases hzero
  · rintro ⟨hpos, hsum⟩
    -- The complement is 0 or 65535, and it is the latter for no sum but 0.
    have hcases : complement sum = 0 ∨ complement sum = 65535 := by omega
    refine hcases.resolve_right fun hfull ↦ ?_
    obtain ⟨hi, lo, rfl, hhi, hlo⟩ := exists_halves h
    rw [complement_halves hhi hlo] at hfull
    split_ifs at hfull <;> omega

end Layer3Switch.Lib.Checksum
