import Layer3Switch.Stp.SpanningTree
import Layer3Switch.Stp.Wire

namespace Layer3Switch.Rstp

open Lib.Bytes Stp
open Timers (U32)

abbrev U64 := BitVec 64

def bridgeIdWord (prio : U16) (addr : MacAddress) : U64 :=
  prio.setWidth 64 <<< 48 ||| addr[0].setWidth 64 <<< 40 ||| addr[1].setWidth 64 <<< 32 |||
    addr[2].setWidth 64 <<< 24 ||| addr[3].setWidth 64 <<< 16 ||| addr[4].setWidth 64 <<< 8 |||
    addr[5].setWidth 64

def bstpDecodeId (e : Endian) (pri : U16) (addr : MacAddress) : U64 :=
  bridgeIdWord (ntohs e pri) addr

/-- `struct bstp_pri_vector`. -/
structure PriVector where
  pvRootId : U64
  pvDbridgeId : U64
  pvCost : U32
  pvDportId : U16
  pvPortId : U16
  deriving DecidableEq, Repr

inductive Info
  | worse
  | same
  | better
  deriving DecidableEq, Repr

def bstpInfoCmp (pv cpv : PriVector) : Info :=
  if cpv.pvRootId < pv.pvRootId then .better
  else if cpv.pvRootId > pv.pvRootId then .worse
  else if cpv.pvCost < pv.pvCost then .better
  else if cpv.pvCost > pv.pvCost then .worse
  else if cpv.pvDbridgeId < pv.pvDbridgeId then .better
  else if cpv.pvDbridgeId > pv.pvDbridgeId then .worse
  else if cpv.pvDportId < pv.pvDportId then .better
  else if cpv.pvDportId > pv.pvDportId then .worse
  else .same

def numericCompare (a b : BridgeId) : Ordering :=
  (compare a.prio.toNat b.prio.toNat).then
    (compare (value a.addr.toList) (value b.addr.toList))

def Concordant (a b : BridgeId) : Prop :=
  (a.prio.toNat % 256 ≤ b.prio.toNat % 256 ∧ a.prio.toNat / 256 ≤ b.prio.toNat / 256) ∨
    (b.prio.toNat % 256 ≤ a.prio.toNat % 256 ∧ b.prio.toNat / 256 ≤ a.prio.toNat / 256)

theorem toNat_shifted {w k : ℕ} (x : BitVec w) (h : w + k ≤ 64) :
    (x.setWidth 64 <<< k).toNat = x.toNat * 2 ^ k := by
  have hw : x.toNat < 2 ^ 64 := x.isLt.trans_le (Nat.pow_le_pow_right (by decide) (by omega))
  have hk : x.toNat * 2 ^ k < 2 ^ 64 := by
    calc x.toNat * 2 ^ k < 2 ^ w * 2 ^ k := Nat.mul_lt_mul_of_pos_right x.isLt (by positivity)
      _ = 2 ^ (w + k) := (Nat.pow_add 2 w k).symm
      _ ≤ 2 ^ 64 := Nat.pow_le_pow_right (by decide) h
  rw [BitVec.toNat_shiftLeft, BitVec.toNat_setWidth, Nat.mod_eq_of_lt hw, Nat.shiftLeft_eq,
    Nat.mod_eq_of_lt hk]

theorem toNat_or_byte {x : U64} {m k : ℕ} (hk : k ≤ 56) (hx : x.toNat = m * 2 ^ (k + 8)) (b : U8) :
    (x ||| b.setWidth 64 <<< k).toNat = (m * 256 + b.toNat) * 2 ^ k := by
  have hb : b.toNat * 2 ^ k < 2 ^ (k + 8) := by
    rw [Nat.pow_add, Nat.mul_comm]
    exact Nat.mul_lt_mul_of_pos_left b.isLt (by positivity)
  rw [BitVec.toNat_or, hx, toNat_shifted b (by omega), Nat.mul_comm m,
    ← Nat.two_pow_add_eq_or_of_lt hb, Nat.pow_add]
  ring

theorem value_macAddress (addr : MacAddress) :
    value addr.toList = addr[0].toNat * 2 ^ 40 + addr[1].toNat * 2 ^ 32 + addr[2].toNat * 2 ^ 24 +
      addr[3].toNat * 2 ^ 16 + addr[4].toNat * 2 ^ 8 + addr[5].toNat := by
  have hlist : addr.toList = [addr[0], addr[1], addr[2], addr[3], addr[4], addr[5]] := by
    apply List.ext_getElem
    · simp
    · intro i hi _
      have hi : i < 6 := by simpa using hi
      interval_cases i <;> rfl
  rw [hlist]
  simp only [value, List.length_cons, List.length_nil]
  ring

theorem toNat_bridgeIdWord (prio : U16) (addr : MacAddress) :
    (bridgeIdWord prio addr).toNat = prio.toNat * 2 ^ 48 + value addr.toList := by
  have h := toNat_or_byte (by decide) (toNat_shifted (k := 48) prio (by decide)) addr[0]
  have h := toNat_or_byte (k := 32) (by decide) h addr[1]
  have h := toNat_or_byte (k := 24) (by decide) h addr[2]
  have h := toNat_or_byte (k := 16) (by decide) h addr[3]
  have h := toNat_or_byte (k := 8) (by decide) h addr[4]
  have h := toNat_or_byte (k := 0) (by decide) h addr[5]
  rw [BitVec.shiftLeft_zero] at h
  rw [bridgeIdWord, h, value_macAddress]
  ring

theorem rank_eq (e : Endian) (b : BridgeId) :
    b.rank e = value (e.store 2 b.prio.toNat) * 2 ^ 48 + value b.addr.toList := by
  rw [BridgeId.rank, BridgeId.image, value_append, Vector.length_toList]
  rfl

theorem value_store_big (prio : U16) : value (Endian.big.store 2 prio.toNat) = prio.toNat := by
  have h := prio.isLt
  rw [Endian.store, value_digits]
  omega

theorem value_store_little (prio : U16) :
    value (Endian.little.store 2 prio.toNat) = prio.toNat % 256 * 256 + prio.toNat / 256 := by
  have h := prio.isLt
  simp only [Endian.store, digits, List.reverse_cons, List.reverse_nil, List.nil_append,
    List.cons_append, value, List.length_cons, List.length_nil, BitVec.toNat_ofNat]
  omega

theorem value_macAddress_lt (addr : MacAddress) : value addr.toList < 2 ^ 48 := by
  have h := value_lt addr.toList
  rwa [Vector.length_toList] at h

theorem toNat_bridgeIdWord_eq_rank (b : BridgeId) :
    (bridgeIdWord b.prio b.addr).toNat = b.rank .big := by
  rw [toNat_bridgeIdWord, rank_eq, value_store_big]

theorem numericCompare_eq (a b : BridgeId) :
    numericCompare a b = compare (a.rank .big) (b.rank .big) := by
  rw [numericCompare, compare_then_compare (value_macAddress_lt a.addr)
    (value_macAddress_lt b.addr),
    rank_eq, rank_eq, value_store_big, value_store_big]

theorem memcmp_little_eq (a b : BridgeId) :
    a.memcmp .little b = (compare (a.prio.toNat % 256 * 256 + a.prio.toNat / 256)
      (b.prio.toNat % 256 * 256 + b.prio.toNat / 256)).then
        (compare (value a.addr.toList) (value b.addr.toList)) := by
  rw [BridgeId.memcmp_eq_compare, rank_eq, rank_eq, value_store_little, value_store_little,
    compare_then_compare (value_macAddress_lt a.addr) (value_macAddress_lt b.addr)]

theorem memcmp_little_eq_iff (a b : BridgeId) :
    a.memcmp .little b = numericCompare a b ↔ Concordant a b := by
  have ha := a.prio.isLt
  have hb := b.prio.isLt
  rw [memcmp_little_eq, numericCompare, Concordant]
  generalize compare (value a.addr.toList) (value b.addr.toList) = rest
  generalize a.prio.toNat = x at *
  generalize b.prio.toNat = y at *
  obtain h | h | h := Nat.lt_trichotomy x y
  · rw [Nat.compare_eq_lt.mpr h]
    obtain h' | h' := Nat.lt_or_gt_of_ne
      (show x % 256 * 256 + x / 256 ≠ y % 256 * 256 + y / 256 by omega)
    · rw [Nat.compare_eq_lt.mpr h']
      exact iff_of_true rfl (by omega)
    · rw [Nat.compare_eq_gt.mpr h']
      exact iff_of_false Ordering.noConfusion (by omega)
  · have hself : ∀ n : ℕ, compare n n = .eq := fun n ↦ Nat.compare_eq_eq.mpr rfl
    rw [h, hself, hself]
    exact iff_of_true rfl (.inl ⟨le_rfl, le_rfl⟩)
  · rw [Nat.compare_eq_gt.mpr h]
    obtain h' | h' := Nat.lt_or_gt_of_ne
      (show x % 256 * 256 + x / 256 ≠ y % 256 * 256 + y / 256 by omega)
    · rw [Nat.compare_eq_lt.mpr h']
      exact iff_of_false Ordering.noConfusion (by omega)
    · rw [Nat.compare_eq_gt.mpr h']
      exact iff_of_true rfl (by omega)

theorem bstpInfoCmp_root {a b : BridgeId} {pv cpv : PriVector}
    (ha : pv.pvRootId = bridgeIdWord a.prio a.addr)
    (hb : cpv.pvRootId = bridgeIdWord b.prio b.addr) :
    (numericCompare b a = .lt → bstpInfoCmp pv cpv = .better) ∧
      (numericCompare b a = .gt → bstpInfoCmp pv cpv = .worse) := by
  have hlt : cpv.pvRootId < pv.pvRootId ↔ b.rank .big < a.rank .big := by
    rw [ha, hb, BitVec.lt_def, toNat_bridgeIdWord_eq_rank, toNat_bridgeIdWord_eq_rank]
  have hgt : pv.pvRootId < cpv.pvRootId ↔ a.rank .big < b.rank .big := by
    rw [ha, hb, BitVec.lt_def, toNat_bridgeIdWord_eq_rank, toNat_bridgeIdWord_eq_rank]
  rw [numericCompare_eq, Nat.compare_eq_lt, Nat.compare_eq_gt, ← hlt, ← hgt]
  constructor
  · intro h
    rw [bstpInfoCmp, if_pos h]
  · intro h
    have hn : ¬cpv.pvRootId < pv.pvRootId := by
      rw [BitVec.lt_def] at h ⊢
      omega
    rw [bstpInfoCmp, if_neg hn, if_pos h]

theorem memcmp_ne_gt_iff {a b : BridgeId} (h : numericCompare a b ≠ .gt) :
    a.memcmp .little b ≠ .gt ↔ Concordant a b := by
  rw [← memcmp_little_eq_iff]
  constructor
  · intro hm
    have heq : a.memcmp .little b = .eq ↔ numericCompare a b = .eq := by
      rw [BridgeId.memcmp_eq_eq, numericCompare_eq, Nat.compare_eq_eq,
        (BridgeId.rank_injective .big).eq_iff]
    cases h₁ : a.memcmp .little b with
    | lt =>
      cases h₂ : numericCompare a b with
      | lt => rfl
      | eq => rw [heq.mpr h₂] at h₁; cases h₁
      | gt => exact absurd h₂ h
    | eq => exact (heq.mp h₁).symm
    | gt => exact absurd h₁ hm
  · intro heq
    rwa [heq]

theorem elected_iff {ι Λ : Type} [Finite ι] {N : Network ι Λ} (h : N.Stable .little)
    {c : N.wiring.ConnectedComponent} {i₀ : ι} (hi₀ : .inl i₀ ∈ c.supp)
    (hmin : ∀ i, .inl i ∈ c.supp →
      numericCompare (N.bridge i₀).bridgeId (N.bridge i).bridgeId ≠ .gt) :
    (∀ i, .inl i ∈ c.supp → (N.bridge i).designatedRoot = (N.bridge i₀).bridgeId) ↔
      ∀ i, .inl i ∈ c.supp → Concordant (N.bridge i₀).bridgeId (N.bridge i).bridgeId := by
  constructor
  · intro hroot i hi
    have hle := h.rank_designatedRoot_le i
    rw [hroot i hi] at hle
    rw [← memcmp_ne_gt_iff (hmin i hi), ne_eq, BridgeId.memcmp_eq_gt]
    omega
  · intro hconc i hi
    obtain ⟨r, hr, -, hall⟩ := h.exists_root c
    have hroot : ∀ i, .inl i ∈ c.supp → (N.bridge i).designatedRoot = (N.bridge r).bridgeId :=
      fun i hi ↦ hall (.inl i) hi
    have hle := h.rank_designatedRoot_le i₀
    rw [hroot i₀ hi₀] at hle
    have hge := (memcmp_ne_gt_iff (hmin r hr)).mpr (hconc r hr)
    rw [ne_eq, BridgeId.memcmp_eq_gt] at hge
    have heq : (N.bridge i₀).bridgeId.rank .little = (N.bridge r).bridgeId.rank .little := by omega
    rw [hroot i hi, BridgeId.rank_injective .little heq]

/-- On a little-endian host STP ranks two bridges in the numeric order, which is
that of RSTP, exactly when their priorities are concordant; and a stable network
has elected its numerically least bridge exactly when the priority of that bridge
is concordant with all others. -/
theorem stp_ranks_as_rstp_iff (a b : BridgeId) :
    (a.memcmp .little b = numericCompare a b ↔ Concordant a b) ∧
    (∀ pv cpv : PriVector, pv.pvRootId = bridgeIdWord a.prio a.addr →
      cpv.pvRootId = bridgeIdWord b.prio b.addr →
      (numericCompare b a = .lt → bstpInfoCmp pv cpv = .better) ∧
      (numericCompare b a = .gt → bstpInfoCmp pv cpv = .worse)) ∧
    (∀ e : Endian, bstpDecodeId e (BitVec.ofNat 16 (e.load (digits 2 a.prio.toNat))) a.addr =
      bridgeIdWord a.prio a.addr) ∧
    ∀ (ι Λ : Type) [Finite ι] (N : Network ι Λ), N.Stable .little →
      ∀ (c : N.wiring.ConnectedComponent) (i₀ : ι), .inl i₀ ∈ c.supp →
      (∀ i, .inl i ∈ c.supp →
        numericCompare (N.bridge i₀).bridgeId (N.bridge i).bridgeId ≠ .gt) →
      ((∀ i, .inl i ∈ c.supp → (N.bridge i).designatedRoot = (N.bridge i₀).bridgeId) ↔
        ∀ i, .inl i ∈ c.supp →
          Concordant (N.bridge i₀).bridgeId (N.bridge i).bridgeId) := by
  refine ⟨memcmp_little_eq_iff a b, ?_, ?_, ?_⟩
  · intro pv cpv ha hb
    exact bstpInfoCmp_root ha hb
  · intro e
    rw [bstpDecodeId, ntohs_load]
  · intro ι Λ _ N h c i₀ hi₀ hmin
    exact elected_iff h hi₀ hmin

/-- STP prefers the priority 256 to the priority 1. -/
theorem stp_prefers_larger_priority :
    numericCompare (bridgeOf 1) (bridgeOf 256) = .lt ∧
      (bridgeOf 1).memcmp .little (bridgeOf 256) = .gt := by
  decide

end Layer3Switch.Rstp
