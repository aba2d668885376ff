import Mathlib.Order.Defs.LinearOrder

namespace Layer3Switch.Lib

/-- Signed words in their own order. -/
instance instLinearOrderInt32 : LinearOrder Int32 where
  le_refl := Int32.le_refl
  le_trans _ _ _ := Int32.le_trans
  lt_iff_le_not_ge a b := by
    rw [Int32.lt_iff_toInt_lt, Int32.le_iff_toInt_le, Int32.le_iff_toInt_le]
    omega
  le_antisymm _ _ := Int32.le_antisymm
  le_total := Int32.le_total
  toDecidableLE := Int32.decLe
  toDecidableEq := instDecidableEqInt32
  toDecidableLT := Int32.decLt

end Layer3Switch.Lib
