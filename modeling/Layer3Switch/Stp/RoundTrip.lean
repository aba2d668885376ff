import Layer3Switch.Lib.Run
import Layer3Switch.Stp.Create
import Layer3Switch.Stp.Events
import Layer3Switch.Stp.TimerHost
import Layer3Switch.Stp.Wire

namespace Layer3Switch.Stp

open Lib Lib.Bytes
open Timers (U32 TimerMgr initTimerMgr)

/-- The BPDU says what the bridge and the port hold, and the given age. -/
structure Carries (br : StpInstance Int32) (q : StpPortEntry Int32) (age : U16)
    (bpdu : StpBpdu Int32) : Prop where
  rootId : bpdu.rootId = br.designatedRoot
  rootPathCost : bpdu.rootPathCost = br.rootPathCost
  bridgeId : bpdu.bridgeId = br.bridgeId
  portId : bpdu.portId = q.portId
  messageAge : bpdu.messageAge = age
  maxAge : bpdu.maxAge.setWidth 32 = br.maxAge
  helloTime : bpdu.helloTime.setWidth 32 = br.helloTime
  forwardDelay : bpdu.forwardDelay.setWidth 32 = br.forwardDelay

def CostFits (e : Endian) (cost : Int32) : Prop :=
  e = .big ∨ (digits 4 cost.toBitVec.toNat).reverse = digits 4 cost.toBitVec.toNat

/-- The times of the bridge fit in the 16 bits they have in a BPDU. -/
structure TimesFit (br : StpInstance Int32) : Prop where
  maxAge : br.maxAge.toNat < 2 ^ 16
  helloTime : br.helloTime.toNat < 2 ^ 16
  forwardDelay : br.forwardDelay.toNat < 2 ^ 16

theorem conveyedCost_eq_iff (e : Endian) (cost : Int32) :
    conveyedCost e cost = cost ↔ CostFits e cost := by
  cases e with
  | big => exact iff_of_true (conveyedCost_big cost) (.inl rfl)
  | little =>
    have hlt : Endian.little.hton 4 cost.toBitVec.toNat < 2 ^ 32 := hton_lt _ _ _
    have hval : value (digits 4 cost.toBitVec.toNat) = cost.toBitVec.toNat := by
      rw [value_digits]
      exact Nat.mod_eq_of_lt cost.toBitVec.isLt
    rw [← Int32.toBitVec_inj, conveyedCost, Int32.toBitVec_ofBitVec, htonl, ← BitVec.toNat_inj,
      BitVec.toNat_ofNat, Nat.mod_eq_of_lt hlt]
    constructor
    · intro h
      exact .inr (value_inj (by simp) (h.trans hval.symm))
    · intro h
      obtain h | h := h
      · cases h
      · rw [Endian.hton, Endian.load, h, hval]

theorem setWidth_setWidth_eq_iff (x : U32) :
    (x.setWidth 16).setWidth 32 = x ↔ x.toNat < 2 ^ 16 := by
  rw [← BitVec.toNat_inj, BitVec.toNat_setWidth, BitVec.toNat_setWidth]
  omega

/-- A BPDU that is sent reaches every other host with all it carries exactly when
the cost and the times of the sending bridge fit. -/
theorem config_bpdu_round_trip_iff {τ : Type} (H : Host τ) (e : Endian) {p : ℕ}
    {w w' : World Int32 τ (List U8)} {portNo : U32} {frame : List U8}
    (hrun : stpTransmitConfig H (frames H.endian) p w = some ((), w'))
    (hsent : w'.sent = w.sent ++ [(portNo, frame)]) :
    ∃ q age bpdu, w.br.portList[p]? = some q ∧ portNo = q.portNo ∧ HasAge H w age ∧
      (frames e).decode frame = some bpdu ∧
      (Carries w.br q age bpdu ↔ CostFits H.endian w.br.rootPathCost ∧ TimesFit w.br) := by
  obtain ⟨q, hq, ht⟩ := stpTransmitConfig_ends p _ _ hrun
  obtain ⟨age, smac, hage, hx⟩ := ht.sent_eq hsent
  obtain ⟨rfl, rfl⟩ := Prod.mk.inj hx
  refine ⟨q, age, _, hq, rfl, hage, decode_config H.endian e smac _, ?_⟩
  rw [← conveyedCost_eq_iff]
  constructor
  · intro h
    refine ⟨h.rootPathCost, ?_, ?_, ?_⟩
    · exact (setWidth_setWidth_eq_iff _).mp h.maxAge
    · exact (setWidth_setWidth_eq_iff _).mp h.helloTime
    · exact (setWidth_setWidth_eq_iff _).mp h.forwardDelay
  · intro h
    obtain ⟨hcost, htimes⟩ := h
    refine ⟨rfl, hcost, rfl, rfl, rfl, ?_, ?_, ?_⟩
    · exact (setWidth_setWidth_eq_iff _).mpr htimes.maxAge
    · exact (setWidth_setWidth_eq_iff _).mpr htimes.helloTime
    · exact (setWidth_setWidth_eq_iff _).mpr htimes.forwardDelay

def relayHost : Host TimerMgr := timerHost .little 0

def relayStart : World Int32 TimerMgr (List U8) :=
  newInstance relayHost 1 (macAddress 0 0 0 0 0 2) [1, 2]
    (.replicate maxPorts ⟨.down, macAddress 0 0 0 0 0 2, none⟩) initTimerMgr

def relayStep (w : World Int32 TimerMgr (List U8)) (ev : Event TimerMgr (List U8)) :
    Option (World Int32 TimerMgr (List U8)) :=
  (handle relayHost (frames .little) ev w).map Prod.snd

def rootHello : StpBpdu Int32 where
  flags := 0
  rootId := ⟨stpDefPriority, macAddress 0 0 0 0 0 1⟩
  rootPathCost := 0
  bridgeId := ⟨stpDefPriority, macAddress 0 0 0 0 0 1⟩
  portId := 1
  messageAge := 0
  maxAge := 20
  helloTime := 2
  forwardDelay := 15

def relayEvents : List (Event TimerMgr (List U8)) :=
  [.setOperStatus 0 .up, .setState true,
   .receive 1 ((frames .little).config (macAddress 0 0 0 0 0 1) rootHello),
   .setOperStatus 1 .up, .link 2 .up]

def relaySends (es : List (Event TimerMgr (List U8))) (p : ℕ)
    (ok : World Int32 TimerMgr (List U8) → U32 × List U8 → Bool) : Bool :=
  (exec relayStep relayStart es).any fun w ↦
    (stpTransmitConfig relayHost (frames .little) p w).any fun x ↦
      match x.2.sent.drop w.sent.length with
      | [y] => x.2.sent = w.sent ++ [y] && ok w y
      | _ => false

theorem relaySends_spec {es : List (Event TimerMgr (List U8))} {p : ℕ}
    {ok : World Int32 TimerMgr (List U8) → U32 × List U8 → Bool} (h : relaySends es p ok = true) :
    ∃ w w' y, exec relayStep relayStart es = some w ∧
      stpTransmitConfig relayHost (frames .little) p w = some ((), w') ∧
      w'.sent = w.sent ++ [y] ∧ ok w y = true := by
  obtain ⟨w, hw, h⟩ := (Option.any_eq_true _ _).mp h
  obtain ⟨x, hx, h⟩ := (Option.any_eq_true _ _).mp h
  split at h
  · rename_i y _
    obtain ⟨hsent, hok⟩ := Bool.and_eq_true_iff.mp h
    exact ⟨w, x.2, y, hw, hx, of_decide_eq_true hsent, hok⟩
  · cases h

/-- The cost of 20000 arrives with its bytes reversed. -/
theorem config_bpdu_cost_reversed :
    ∃ w w' portNo frame bpdu, exec relayStep relayStart relayEvents = some w ∧
      stpTransmitConfig relayHost (frames .little) 1 w = some ((), w') ∧
      w'.sent = w.sent ++ [(portNo, frame)] ∧ (frames .little).decode frame = some bpdu ∧
      w.br.rootPathCost = 20000 ∧ bpdu.rootPathCost = 541982720 := by
  have hsends : relaySends relayEvents 1 (fun w y ↦ w.br.rootPathCost = 20000 &&
      ((frames .little).decode y.2).any fun bpdu ↦ bpdu.rootPathCost = 541982720) = true := by
    decide +kernel
  obtain ⟨w, w', ⟨portNo, frame⟩, hw, hrun, hsent, hok⟩ := relaySends_spec hsends
  obtain ⟨hcost, hany⟩ := Bool.and_eq_true_iff.mp hok
  obtain ⟨bpdu, hbpdu, hcost'⟩ := (Option.any_eq_true _ _).mp hany
  exact ⟨w, w', portNo, frame, bpdu, hw, hrun, hsent, hbpdu, of_decide_eq_true hcost,
    of_decide_eq_true hcost'⟩

/-- A bridge that takes itself for the root sends a cost of zero. -/
theorem config_bpdu_round_trip_root :
    ∃ w w' portNo frame, exec relayStep relayStart (relayEvents.take 2) = some w ∧
      stpTransmitConfig relayHost (frames .little) 0 w = some ((), w') ∧
      w'.sent = w.sent ++ [(portNo, frame)] ∧
      ∃ q age bpdu, w.br.portList[0]? = some q ∧ (frames .big).decode frame = some bpdu ∧
        Carries w.br q age bpdu := by
  have hsends : relaySends (relayEvents.take 2) 0 (fun w _ ↦ w.br.rootPathCost = 0 &&
      (w.br.maxAge = 20 && (w.br.helloTime = 2 && w.br.forwardDelay = 15))) = true := by
    decide +kernel
  obtain ⟨w, w', ⟨portNo, frame⟩, hw, hrun, hsent, hok⟩ := relaySends_spec hsends
  simp only [Bool.and_eq_true, decide_eq_true_eq] at hok
  obtain ⟨hcost, hage, hhello, hdelay⟩ := hok
  obtain ⟨q, age, bpdu, hq, -, -, hbpdu, hiff⟩ :=
    config_bpdu_round_trip_iff relayHost .big hrun hsent
  refine ⟨w, w', portNo, frame, hw, hrun, hsent, q, age, bpdu, hq, hbpdu, hiff.mpr ⟨.inr ?_, ?_⟩⟩
  · rw [hcost]
    decide
  · exact ⟨by rw [hage]; decide, by rw [hhello]; decide, by rw [hdelay]; decide⟩

end Layer3Switch.Stp
