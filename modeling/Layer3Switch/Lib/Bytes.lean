import Mathlib.Data.BitVec
import Mathlib.Tactic

namespace Layer3Switch.Lib.Bytes

abbrev U8 := BitVec 8
abbrev U16 := BitVec 16

def value : List U8 → ℕ
  | [] => 0
  | b :: bs => b.toNat * 256 ^ bs.length + value bs

def digits : ℕ → ℕ → List U8
  | 0, _ => []
  | n + 1, x => BitVec.ofNat 8 (x / 256 ^ n) :: digits n x

@[simp] theorem length_digits (n x : ℕ) : (digits n x).length = n := by
  induction n with
  | zero => rfl
  | succ n ih => rw [digits, List.length_cons, ih]

theorem value_lt (bs : List U8) : value bs < 256 ^ bs.length := by
  induction bs with
  | nil => exact Nat.one_pos
  | cons b bs ih =>
    have hb : b.toNat + 1 ≤ 256 := b.isLt
    have h := Nat.mul_le_mul_right (256 ^ bs.length) hb
    rw [Nat.add_mul, Nat.one_mul] at h
    rw [value, List.length_cons, Nat.pow_succ']
    omega

theorem value_append (as bs : List U8) :
    value (as ++ bs) = value as * 256 ^ bs.length + value bs := by
  induction as with
  | nil => simp [value]
  | cons a as ih =>
    rw [List.cons_append, value, value, ih, List.length_append]
    ring

theorem value_digits (n x : ℕ) : value (digits n x) = x % 256 ^ n := by
  induction n with
  | zero => rw [Nat.pow_zero, Nat.mod_one]; rfl
  | succ n ih =>
    rw [digits, value, length_digits, ih, Nat.mod_pow_succ, BitVec.toNat_ofNat, Nat.add_comm,
      Nat.mul_comm]

theorem digits_add_mul (n x k : ℕ) : digits n (x + k * 256 ^ n) = digits n x := by
  induction n generalizing k with
  | zero => rfl
  | succ n ih =>
    have hk : x + k * 256 ^ (n + 1) = x + k * 256 * 256 ^ n := by ring
    rw [digits, digits, hk, ih, Nat.add_mul_div_right _ _ (Nat.pow_pos (by decide))]
    congr 1
    apply BitVec.eq_of_toNat_eq
    rw [BitVec.toNat_ofNat, BitVec.toNat_ofNat, Nat.add_mul_mod_self_right]

theorem digits_value (bs : List U8) : digits bs.length (value bs) = bs := by
  induction bs with
  | nil => rfl
  | cons b bs ih =>
    have hlt := value_lt bs
    rw [List.length_cons, digits, value, Nat.add_comm, digits_add_mul, ih,
      Nat.add_mul_div_right _ _ (Nat.pow_pos (by decide)), Nat.div_eq_of_lt hlt, Nat.zero_add,
      BitVec.ofNat_toNat, BitVec.setWidth_eq]

theorem value_inj {as bs : List U8} (hl : as.length = bs.length) (h : value as = value bs) :
    as = bs := by
  rw [← digits_value as, ← digits_value bs, hl, h]

def memcmp : List U8 → List U8 → Ordering
  | a :: as, b :: bs => (compare a.toNat b.toNat).then (memcmp as bs)
  | _, _ => .eq

theorem compare_then_compare {x y a b m : ℕ} (ha : a < m) (hb : b < m) :
    (compare x y).then (compare a b) = compare (x * m + a) (y * m + b) := by
  obtain h | rfl | h := Nat.lt_trichotomy x y
  · have hm := Nat.mul_le_mul_right m (Nat.succ_le_of_lt h)
    rw [Nat.succ_mul] at hm
    have hlt : x * m + a < y * m + b := by omega
    rw [Nat.compare_eq_lt.mpr h, Nat.compare_eq_lt.mpr hlt]
    rfl
  · rw [Nat.compare_eq_eq.mpr rfl, Nat.compare_eq_ite_lt, Nat.compare_eq_ite_lt]
    simp only [Nat.add_lt_add_iff_left]
    rfl
  · have hm := Nat.mul_le_mul_right m (Nat.succ_le_of_lt h)
    rw [Nat.succ_mul] at hm
    have hlt : y * m + b < x * m + a := by omega
    rw [Nat.compare_eq_gt.mpr h, Nat.compare_eq_gt.mpr hlt]
    rfl

theorem memcmp_eq_compare {as bs : List U8} (hl : as.length = bs.length) :
    memcmp as bs = compare (value as) (value bs) := by
  induction as generalizing bs with
  | nil =>
    obtain rfl := List.length_eq_zero_iff.mp hl.symm
    rfl
  | cons a as ih =>
    cases bs with
    | nil => exact absurd hl (Nat.succ_ne_zero _)
    | cons b bs =>
      have hl' : as.length = bs.length := Nat.succ.inj hl
      have ha := value_lt as
      rw [hl'] at ha
      rw [memcmp, ih hl', value, value, hl', compare_then_compare ha (value_lt bs)]

inductive Endian
  | little
  | big
  deriving DecidableEq, Repr

def Endian.store (e : Endian) (n x : ℕ) : List U8 :=
  match e with
  | .little => (digits n x).reverse
  | .big => digits n x

def Endian.load (e : Endian) (bs : List U8) : ℕ :=
  match e with
  | .little => value bs.reverse
  | .big => value bs

@[simp] theorem length_store (e : Endian) (n x : ℕ) : (e.store n x).length = n := by
  cases e <;> simp [Endian.store]

theorem store_load (e : Endian) (bs : List U8) : e.store bs.length (e.load bs) = bs := by
  cases e with
  | little =>
    have h := digits_value bs.reverse
    rw [List.length_reverse] at h
    rw [Endian.store, Endian.load, h, List.reverse_reverse]
  | big => exact digits_value bs

theorem load_store (e : Endian) (n x : ℕ) : e.load (e.store n x) = x % 256 ^ n := by
  cases e with
  | little => rw [Endian.store, Endian.load, List.reverse_reverse, value_digits]
  | big => exact value_digits n x

theorem load_lt (e : Endian) (bs : List U8) : e.load bs < 256 ^ bs.length := by
  cases e with
  | little => simpa only [Endian.load, List.length_reverse] using value_lt bs.reverse
  | big => exact value_lt bs

def Endian.hton (e : Endian) (n x : ℕ) : ℕ := e.load (digits n x)

def Endian.ntoh (e : Endian) (n x : ℕ) : ℕ := value (e.store n x)

theorem hton_lt (e : Endian) (n x : ℕ) : e.hton n x < 256 ^ n := by
  simpa only [Endian.hton, length_digits] using load_lt e (digits n x)

theorem store_hton (e : Endian) (n x : ℕ) : e.store n (e.hton n x) = digits n x := by
  simpa only [Endian.hton, length_digits] using store_load e (digits n x)

theorem ntoh_load (e : Endian) (bs : List U8) : e.ntoh bs.length (e.load bs) = value bs := by
  rw [Endian.ntoh, store_load]

theorem ntoh_ofNat_load (e : Endian) {n w : ℕ} (hw : 256 ^ n = 2 ^ w) (x : BitVec w) :
    BitVec.ofNat w (e.ntoh n (BitVec.ofNat w (e.load (digits n x.toNat))).toNat) = x := by
  have h := load_lt e (digits n x.toNat)
  have hn := ntoh_load e (digits n x.toNat)
  rw [length_digits] at h hn
  rw [hw] at h
  rw [BitVec.toNat_ofNat, Nat.mod_eq_of_lt h, hn, value_digits, hw, Nat.mod_eq_of_lt x.isLt,
    BitVec.ofNat_toNat, BitVec.setWidth_eq]

theorem hton_big {n x : ℕ} (hx : x < 256 ^ n) : Endian.big.hton n x = x := by
  rw [Endian.hton, Endian.load, value_digits, Nat.mod_eq_of_lt hx]

end Layer3Switch.Lib.Bytes
