import Mathlib.Data.BitVec
import Mathlib.Tactic

namespace Layer3Switch.Timers

abbrev U32 := BitVec 32

/-- The indices of `clk` and of the wheel trees. -/
inductive Wheel
  | tick
  | sec
  | min
  | hrs
  deriving DecidableEq, Repr

def tmGetTicksPerSecond : U32 := 100

def tickBits : ℕ := 0xa
def secsBits : ℕ := 0x6
def minsBits : ℕ := 0x6
def hrsBits : ℕ := 0xa

def secBitsOffset : ℕ := tickBits
def minBitsOffset : ℕ := secBitsOffset + secsBits
def hrsBitsOffset : ℕ := minBitsOffset + minsBits

def setTick (ct t : U32) : U32 := ct ||| t % tmGetTicksPerSecond
def setSecs (ct t : U32) : U32 := ct ||| (t % 60#32) <<< secBitsOffset
def setMins (ct t : U32) : U32 := ct ||| (t % 60#32) <<< minBitsOffset
def setHrs (ct t : U32) : U32 := ct ||| t <<< hrsBitsOffset

def getBits (bits offset : ℕ) (ct : U32) : U32 := ~~~(~~~0#32 <<< bits) &&& ct >>> offset

def getTick (ct : U32) : U32 := getBits tickBits 0 ct
def getSecs (ct : U32) : U32 := getBits secsBits secBitsOffset ct
def getMins (ct : U32) : U32 := getBits minsBits minBitsOffset ct
def getHrs (ct : U32) : U32 := getBits hrsBits hrsBitsOffset ct

def getField : Wheel → U32 → U32
  | .tick => getTick
  | .sec => getSecs
  | .min => getMins
  | .hrs => getHrs

def wheelMask : Wheel → U32
  | .tick => 0xFFFFFC00
  | .sec => 0xFFFF03FF
  | .min => 0xFFC0FFFF
  | .hrs => 0x3FFFFF

def packTime (ct tick : U32) : U32 :=
  let secs := tick / tmGetTicksPerSecond
  let mins := secs / 60#32
  let hrs := mins / 60#32
  setHrs (setMins (setSecs (setTick ct tick) secs) mins) hrs

theorem getBits_getLsbD (bits offset i : ℕ) (ct : U32) :
    (getBits bits offset ct).getLsbD i = (decide (i < bits) && ct.getLsbD (offset + i)) := by
  by_cases hi : i < 32
  · simp only [getBits, BitVec.getLsbD_and, BitVec.getLsbD_not, BitVec.getLsbD_shiftLeft,
      BitVec.getLsbD_ushiftRight, BitVec.getLsbD_zero, hi, decide_true, Bool.true_and]
    by_cases hb : i < bits
    · simp [hb]
    · have hj : i - bits < 32 := by omega
      simp [hb, hj]
  · rw [BitVec.getLsbD_of_ge _ i (by omega), BitVec.getLsbD_of_ge ct _ (by omega), Bool.and_false]

theorem toNat_getBits (bits offset : ℕ) (ct : U32) :
    (getBits bits offset ct).toNat = ct.toNat / 2 ^ offset % 2 ^ bits := by
  apply Nat.eq_of_testBit_eq
  intro i
  rw [Nat.testBit_mod_two_pow, Nat.testBit_div_two_pow, BitVec.testBit_toNat,
    BitVec.testBit_toNat, getBits_getLsbD, Nat.add_comm]

theorem getBits_and (bits offset : ℕ) (ct mask : U32) (b : Bool)
    (h : ∀ i < bits, mask.getLsbD (offset + i) = b) :
    getBits bits offset (ct &&& mask) = bif b then getBits bits offset ct else 0 := by
  apply BitVec.eq_of_getLsbD_eq
  intro i _
  by_cases hi : i < bits
  · cases b <;> simp [getBits_getLsbD, h i hi]
  · cases b <;> simp [getBits_getLsbD, hi]

theorem getField_and_wheelMask (w v : Wheel) (ct : U32) :
    getField v (ct &&& wheelMask w) = if v = w then 0 else getField v ct := by
  cases w <;> cases v <;> first
    | exact getBits_and _ _ ct _ true (by decide)
    | exact getBits_and _ _ ct _ false (by decide)

theorem toNat_getTick (ct : U32) : (getTick ct).toNat = ct.toNat % 1024 := by
  rw [getTick, toNat_getBits]
  simp [tickBits]

theorem toNat_getSecs (ct : U32) : (getSecs ct).toNat = ct.toNat / 1024 % 64 :=
  toNat_getBits _ _ ct

theorem toNat_getMins (ct : U32) : (getMins ct).toNat = ct.toNat / 65536 % 64 :=
  toNat_getBits _ _ ct

theorem toNat_getHrs (ct : U32) : (getHrs ct).toNat = ct.toNat / 4194304 % 1024 :=
  toNat_getBits _ _ ct

theorem getField_lt (w : Wheel) (ct : U32) : (getField w ct).toNat < 1024 := by
  cases w with
  | tick => have h := toNat_getTick ct; simp only [getField]; omega
  | sec => have h := toNat_getSecs ct; simp only [getField]; omega
  | min => have h := toNat_getMins ct; simp only [getField]; omega
  | hrs => have h := toNat_getHrs ct; simp only [getField]; omega

theorem eq_zero_of_getField (ct : U32) (h : ∀ w, getField w ct = 0) : ct = 0 := by
  have ht := congrArg BitVec.toNat (h .tick)
  have hs := congrArg BitVec.toNat (h .sec)
  have hm := congrArg BitVec.toNat (h .min)
  have hh := congrArg BitVec.toNat (h .hrs)
  simp only [getField, toNat_getTick, toNat_getSecs, toNat_getMins, toNat_getHrs] at ht hs hm hh
  apply BitVec.eq_of_toNat_eq
  have hlt := ct.isLt
  simp only [BitVec.ofNat_eq_ofNat, BitVec.toNat_ofNat, Nat.zero_mod] at *
  omega

theorem toNat_or_shiftLeft (a b : U32) {k : ℕ} (hk : k ≤ 32) (ha : a.toNat < 2 ^ k) :
    (a ||| b <<< k).toNat = a.toNat + b.toNat % 2 ^ (32 - k) * 2 ^ k := by
  have hp : 2 ^ 32 = 2 ^ (32 - k) * 2 ^ k := by rw [← Nat.pow_add]; congr 1; omega
  rw [BitVec.toNat_or, BitVec.toNat_shiftLeft, Nat.shiftLeft_eq, hp, Nat.mul_mod_mul_right,
    Nat.or_comm, Nat.mul_comm _ (2 ^ k), ← Nat.two_pow_add_eq_or_of_lt ha]
  omega

theorem toNat_or_field {a b : U32} {x y k : ℕ} (hk : k ≤ 32) (ha : a.toNat = x) (hb : b.toNat = y)
    (hx : x < 2 ^ k) : (a ||| b <<< k).toNat = x + y % 2 ^ (32 - k) * 2 ^ k := by
  rw [toNat_or_shiftLeft a b hk (by rwa [ha]), ha, hb]

theorem toNat_packTime (n : U32) :
    (packTime 0 n).toNat = n.toNat % 100 + n.toNat / 100 % 60 * 1024 + n.toNat / 6000 % 60 * 65536 +
      n.toNat / 360000 % 1024 * 4194304 := by
  have ht : (setTick 0 n).toNat = n.toNat % 100 := by simp [setTick, tmGetTicksPerSecond]
  have hs : (n / tmGetTicksPerSecond % 60#32).toNat = n.toNat / 100 % 60 := by
    simp [tmGetTicksPerSecond]
  have hm : (n / tmGetTicksPerSecond / 60#32 % 60#32).toNat = n.toNat / 6000 % 60 := by
    simp [tmGetTicksPerSecond, Nat.div_div_eq_div_mul]
  have hh : (n / tmGetTicksPerSecond / 60#32 / 60#32).toNat = n.toNat / 360000 := by
    simp [tmGetTicksPerSecond, Nat.div_div_eq_div_mul]
  have ht' : n.toNat % 100 < 100 := Nat.mod_lt _ (by decide)
  have hs' : n.toNat / 100 % 60 < 60 := Nat.mod_lt _ (by decide)
  have hm' : n.toNat / 6000 % 60 < 60 := Nat.mod_lt _ (by decide)
  generalize n.toNat % 100 = t, n.toNat / 100 % 60 = s, n.toNat / 6000 % 60 = m at *
  have h₁ := toNat_or_field (k := 10) (by decide) ht hs (by omega)
  have h₂ := toNat_or_field (k := 16) (by decide) h₁ hm (by omega)
  have h₃ := toNat_or_field (k := 22) (by decide) h₂ hh (by omega)
  rw [Nat.mod_eq_of_lt (by omega : s < 2 ^ (32 - 10)),
    Nat.mod_eq_of_lt (by omega : m < 2 ^ (32 - 16))] at h₃
  exact h₃

theorem toNat_getField_packTime (w : Wheel) (n : U32) :
    (getField w (packTime 0 n)).toNat =
      match w with
      | .tick => n.toNat % 100
      | .sec => n.toNat / 100 % 60
      | .min => n.toNat / 6000 % 60
      | .hrs => n.toNat / 360000 % 1024 := by
  have ht : n.toNat % 100 < 100 := Nat.mod_lt _ (by decide)
  have hs : n.toNat / 100 % 60 < 60 := Nat.mod_lt _ (by decide)
  have hm : n.toNat / 6000 % 60 < 60 := Nat.mod_lt _ (by decide)
  have hh : n.toNat / 360000 % 1024 < 1024 := Nat.mod_lt _ (by decide)
  cases w <;>
    simp only [getField, toNat_getTick, toNat_getSecs, toNat_getMins, toNat_getHrs,
      toNat_packTime] <;>
    generalize n.toNat % 100 = t, n.toNat / 100 % 60 = s, n.toNat / 6000 % 60 = m,
      n.toNat / 360000 % 1024 = h at * <;>
    omega

end Layer3Switch.Timers
