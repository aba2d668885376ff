import Layer3Switch.Stp.World

namespace Layer3Switch.Vlan

open Lib.Bytes
open Timers (U32)
open Stp (maxPorts)

/-- `MODE_STP` and `MODE_RSTP`. -/
inductive StpMode
  | stp
  | rstp
  deriving DecidableEq, Repr

/-- `TAGGED`, `UNTAGGED` and `FORBIDDEN`. -/
inductive MemberType
  | tagged
  | untagged
  | forbidden
  deriving DecidableEq, Repr

/-- `struct vlan_static_entry`. A `PORTLIST` is one byte long, so that the macros
for ports above eight reach into the byte behind it. `portLists` holds the bytes
`egress_ports`, `forbidden_egress_ports`, `untagged_ports` and `row_status`.
The two instance pointers are given by the VLAN of the instance. -/
structure VlanStaticEntry where
  vlanId : U16
  portLists : Vector U8 4
  stpEnabled : Bool
  stpMode : Option StpMode
  stpInstance : Option U16
  rstpInstance : Option U16
  deriving DecidableEq, Repr

def MemberType.list : MemberType → Option ℕ
  | .tagged => some 0
  | .untagged => some 2
  | .forbidden => none

def portByte (port : U32) : ℕ := (port - 1).toNat / 8

def portBit (port : U32) : ℕ := (port - 1).toNat % 8

def isPortSetPortList (lists : Vector U8 4) (list : ℕ) (port : U32) : Bool :=
  lists[list + portByte port]?.any fun byte ↦ byte.getLsbD (portBit port)

def setPortList (lists : Vector U8 4) (list : ℕ) (port : U32) : Option (Vector U8 4) :=
  lists[list + portByte port]?.map fun byte ↦
    lists.setIfInBounds (list + portByte port) (byte ||| .twoPow 8 (portBit port))

def resetPortList (lists : Vector U8 4) (list : ℕ) (port : U32) : Option (Vector U8 4) :=
  lists[list + portByte port]?.map fun byte ↦
    lists.setIfInBounds (list + portByte port) (byte &&& ~~~.twoPow 8 (portBit port))

def portNumbers : List U32 := (List.range maxPorts).map fun i ↦ BitVec.ofNat 32 (i + 1)

def VlanStaticEntry.egress (e : VlanStaticEntry) (port : U32) : Bool :=
  isPortSetPortList e.portLists 0 port

def VlanStaticEntry.egressPorts (e : VlanStaticEntry) : List U32 := portNumbers.filter e.egress

def rowStateCreateWait : U8 := 5

def newVlan (vlanId : U16) : VlanStaticEntry where
  vlanId := vlanId
  portLists := #v[0, 0, 0, rowStateCreateWait]
  stpEnabled := false
  stpMode := none
  stpInstance := none
  rstpInstance := none

theorem portNumbers_nodup : portNumbers.Nodup := by decide

theorem mem_portNumbers {port : U32} : port ∈ portNumbers ↔ (port - 1).toNat < maxPorts := by
  constructor
  · intro h
    obtain ⟨i, hi, rfl⟩ := List.mem_map.mp h
    have hi' := List.mem_range.mp hi
    unfold maxPorts at hi' ⊢
    bv_omega
  · intro h
    refine List.mem_map.mpr ⟨(port - 1).toNat, List.mem_range.mpr h, ?_⟩
    unfold maxPorts at h
    bv_omega

theorem VlanStaticEntry.egressPorts_nodup (e : VlanStaticEntry) : e.egressPorts.Nodup :=
  portNumbers_nodup.filter _

section Macros

variable {lists lists' : Vector U8 4} {port port' : U32}

theorem portBit_lt (port : U32) : portBit port < 8 := Nat.mod_lt _ (by decide)

theorem eq_of_portBit (hbyte : portByte port' = portByte port)
    (hbit : portBit port' = portBit port) :
    port' = port := by
  have hsub : (port' - 1).toNat = (port - 1).toNat := by
    rw [← Nat.div_add_mod (port' - 1).toNat 8, ← Nat.div_add_mod (port - 1).toNat 8]
    exact congrArg₂ (8 * · + ·) hbyte hbit
  have heq : port' - 1 = port - 1 := BitVec.eq_of_toNat_eq hsub
  bv_omega

theorem isPortSet_set {list : ℕ} (h : setPortList lists list port = some lists') :
    isPortSetPortList lists' list port' =
      (decide (port' = port) || isPortSetPortList lists list port') := by
  obtain ⟨byte, hbyte, rfl⟩ := Option.map_eq_some_iff.mp h
  obtain ⟨hlt, -⟩ := Vector.getElem?_eq_some_iff.mp hbyte
  by_cases hb : portByte port' = portByte port
  · rw [isPortSetPortList, isPortSetPortList, hb, Vector.getElem?_setIfInBounds_self_of_lt hlt,
      hbyte]
    by_cases hbit : portBit port' = portBit port
    · simp [eq_of_portBit hb hbit, portBit_lt]
    · have hne : port' ≠ port := fun heq ↦ hbit (congrArg portBit heq)
      simp [hne, BitVec.getLsbD_twoPow, Ne.symm hbit]
  · have hne : port' ≠ port := fun heq ↦ hb (congrArg portByte heq)
    have hidx : list + portByte port ≠ list + portByte port' := by omega
    simp [isPortSetPortList, Vector.getElem?_setIfInBounds_ne hidx, hne]

theorem isPortSet_reset {list : ℕ} (h : resetPortList lists list port = some lists') :
    isPortSetPortList lists' list port' =
      (decide (port' ≠ port) && isPortSetPortList lists list port') := by
  obtain ⟨byte, hbyte, rfl⟩ := Option.map_eq_some_iff.mp h
  obtain ⟨hlt, -⟩ := Vector.getElem?_eq_some_iff.mp hbyte
  by_cases hb : portByte port' = portByte port
  · rw [isPortSetPortList, isPortSetPortList, hb, Vector.getElem?_setIfInBounds_self_of_lt hlt,
      hbyte]
    by_cases hbit : portBit port' = portBit port
    · simp [eq_of_portBit hb hbit, portBit_lt]
    · have hne : port' ≠ port := fun heq ↦ hbit (congrArg portBit heq)
      simp [hne, hbit, portBit_lt]
  · have hne : port' ≠ port := fun heq ↦ hb (congrArg portByte heq)
    have hidx : list + portByte port ≠ list + portByte port' := by omega
    simp [isPortSetPortList, Vector.getElem?_setIfInBounds_ne hidx, hne]

end Macros

end Layer3Switch.Vlan
