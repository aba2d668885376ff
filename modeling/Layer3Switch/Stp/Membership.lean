import Layer3Switch.Stp.Create
import Layer3Switch.Stp.Events

namespace Layer3Switch.Stp

open Lib Lib.Bytes
open Timers (U32)

variable {κ τ Φ : Type}

theorem numbers_eq_fixed (br : StpInstance κ) : br.numbers = br.fixed.2.2.map Prod.fst := by
  rw [StpInstance.numbers, StpInstance.fixed, List.map_map]
  rfl

section Create

variable [OfNat κ 20000] {H : Host τ} {addr : MacAddress} {n : U32} {w : World κ τ Φ}

theorem stpCreatePort_numbers (hmem : H.tmMalloc w.env = true) :
    (stpCreatePort H addr n w).1.br.numbers = w.br.numbers ++ [n] := by
  rw [stpCreatePort, hmem]
  simp [StpInstance.numbers, newPort]

theorem stpCreatePort_others :
    (stpCreatePort H addr n w).1.br.vlanId = w.br.vlanId ∧
      (stpCreatePort H addr n w).1.br.stpEnabled = w.br.stpEnabled := by
  unfold stpCreatePort
  split <;> exact ⟨rfl, rfl⟩

end Create

variable [Add κ] [LT κ] [DecidableLT κ] [OfNat κ 0] {H : Host τ} {W : Wire κ Φ} {w : World κ τ Φ}

theorem stable_fixed_eq (x : U16 × List TimerRef × List (U32 × ℕ × List TimerRef)) :
    Stable H W (fun _ _ ↦ True) fun w ↦ w.br.fixed = x :=
  (closed_fixed_eq x).stable

theorem handle_fixed {ev : Event τ Φ} (hev : ev.Internal) :
    Ends (handle H W ev) w fun _ w' ↦ w'.br.fixed = w.br.fixed :=
  handle_internal_keeps (stable_fixed_eq w.br.fixed) hev (fun _ _ _ _ _ _ ↦ trivial) rfl

theorem stpSetState_true_ends :
    Ends (stpSetState H W true) w fun _ w' ↦ w'.br.stpEnabled = true ∧
      w'.br.fixed = w.br.fixed := by
  refine (stpEnable_keeps (stable_fixed_eq w.br.fixed) rfl).andThen ?_
  intro _ w' h
  exact .update ⟨rfl, h⟩

theorem stpSetState_false_ends :
    Ends (stpSetState H W false) w fun _ w' ↦
      w'.br.stpEnabled = false ∧ w'.br.portList = [] ∧ w'.br.vlanId = w.br.vlanId := by
  have hloop : Ends (forPorts fun _ ↦ stpDisableHead H W) w fun _ w' ↦
      w'.br.fixed = (w.br.fixed.1, w.br.fixed.2.1, w.br.fixed.2.2.drop w.br.portList.length) := by
    refine Ends.forM_range (I := fun k (w' : World κ τ Φ) ↦
      w'.br.fixed = (w.br.fixed.1, w.br.fixed.2.1, w.br.fixed.2.2.drop k)) ?_ rfl
    intro k w₁ h₁
    apply Ends.bind
    apply ends_reads
    intro q _
    have hd : Ends (onlyIf (q.state ≠ .disabled) (stpDisablePort H W 0)) w₁ fun _ w' ↦
        w'.br.fixed = w₁.br.fixed :=
      .onlyIf (fun _ ↦ stpDisablePort_keeps (stable_fixed_eq w₁.br.fixed).inPlace 0 rfl) fun _ ↦ rfl
    refine hd.andThen ?_
    intro _ w₂ h₂
    apply Ends.update
    have htail : ({ w₂.br with portList := w₂.br.portList.tail } : StpInstance κ).fixed =
        (w₂.br.fixed.1, w₂.br.fixed.2.1, w₂.br.fixed.2.2.tail) := by
      simp only [StpInstance.fixed, List.map_tail]
    rw [htail, h₂, h₁, List.tail_drop]
  have hstop : Ends (stpDisable H W) w fun _ w' ↦
      w'.br.fixed = (w.br.fixed.1, w.br.fixed.2.1, []) := by
    refine hloop.andThen ?_
    intro _ w₁ h₁
    have hnil : w.br.fixed.2.2.drop w.br.portList.length = [] := by
      apply List.drop_eq_nil_of_le
      simp [StpInstance.fixed]
    rw [hnil] at h₁
    have hI := (stable_fixed_eq (H := H) (W := W) (w.br.fixed.1, w.br.fixed.2.1, [])).inPlace
    refine (setBridge_keeps hI ⟨rfl⟩ h₁).andThen ?_
    intro _ w₂ h₂
    apply Ends.bind
    apply ends_bridge
    exact stopBridgeTimers_keeps hI h₂
  refine hstop.andThen ?_
  intro _ w' h
  have hports := congrArg (fun x ↦ x.2.2) h
  have hvlan := congrArg Prod.fst h
  exact .update ⟨rfl, List.map_eq_nil_iff.mp hports, hvlan⟩

end Layer3Switch.Stp
