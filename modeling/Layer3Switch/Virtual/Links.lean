import Layer3Switch.Lib.Run
import Layer3Switch.Lib.Bytes

namespace Layer3Switch.Virtual

open Lib Lib.Bytes

def tmVirtPort : ℕ := 9000

/-- `inst_t`, an endpoint: a switch instance and a port of it. -/
structure Inst where
  inst : U8
  port : U8
  deriving DecidableEq, Repr

def tmInstPort (inst : U8) : ℕ := tmVirtPort + inst.toNat

/-- `vlink_t`. -/
structure VLink where
  inst₀ : Inst
  inst₁ : Inst
  pktCount : BitVec 32
  deriving DecidableEq

/-- A packet: the header, which says where it comes from, and what follows. -/
structure Packet where
  hdr : Inst
  body : List U8
  deriving DecidableEq

/-- A datagram for the UDP port `dest`. -/
structure Tx where
  dest : ℕ
  pkt : Packet
  deriving DecidableEq

def readInst (inst port : ℤ) : Inst := ⟨.ofInt 8 inst, .ofInt 8 port⟩

def createVirtualLink (a b : Inst) (pktCount : BitVec 32) (vlink : List VLink) : ℤ × List VLink :=
  (0, vlink ++ [⟨a, b, pktCount⟩])

def destroyVirtualLink (a b : Inst) (vlink : List VLink) : ℤ × List VLink :=
  if ∃ v ∈ vlink, v.inst₀ = a ∧ v.inst₁ = b then
    (0, vlink.eraseP fun v ↦ v.inst₀ = a ∧ v.inst₁ = b)
  else (-1, vlink)

def txPkt (dest : Inst) (body : List U8) : Tx := ⟨tmInstPort dest.inst, dest, body⟩

def processPkt (body : List U8) : Inst → List VLink → List (VLink × Option Tx)
  | _, [] => []
  | hdr, v :: vs =>
    if v.inst₀ = hdr then
      ({ v with pktCount := v.pktCount + 1 }, some (txPkt v.inst₁ body)) ::
        processPkt body v.inst₁ vs
    else if v.inst₁ = hdr then
      ({ v with pktCount := v.pktCount + 1 }, some (txPkt v.inst₀ body)) ::
        processPkt body v.inst₀ vs
    else (v, none) :: processPkt body hdr vs

inductive LinkEvent where
  | create (inst₀ port₀ inst₁ port₁ : ℤ) (pktCount : BitVec 32)
  | destroy (inst₀ port₀ inst₁ port₁ : ℤ)
  | packet (pkt : Packet)

def linkStep (vlink : List VLink) : LinkEvent → List VLink
  | .create i p j q pktCount => (createVirtualLink (readInst i p) (readInst j q) pktCount vlink).2
  | .destroy i p j q => (destroyVirtualLink (readInst i p) (readInst j q) vlink).2
  | .packet pkt => (processPkt pkt.body pkt.hdr vlink).map Prod.fst

def VLink.other (v : VLink) (e : Inst) : Option Inst :=
  if v.inst₀ = e then some v.inst₁ else if v.inst₁ = e then some v.inst₀ else none

def Unambiguous (e : Inst) : List VLink → Prop
  | [] => True
  | v :: vs => (∀ f, v.other e = some f → f ≠ e → ∀ w ∈ vs, w.other e = none ∧ w.other f = none) ∧
      Unambiguous e vs

instance decidableUnambiguous (e : Inst) : (vs : List VLink) → Decidable (Unambiguous e vs)
  | [] => inferInstanceAs (Decidable True)
  | v :: vs =>
    have : Decidable (Unambiguous e vs) := decidableUnambiguous e vs
    inferInstanceAs (Decidable ((∀ f, v.other e = some f → f ≠ e →
      ∀ w ∈ vs, w.other e = none ∧ w.other f = none) ∧ Unambiguous e vs))

section Relay

variable {body : List U8} {e f hdr : Inst} {v : VLink} {vs : List VLink}

theorem processPkt_cons : (processPkt body hdr (v :: vs)).map Prod.snd =
    (v.other hdr).map (txPkt · body) ::
      (processPkt body ((v.other hdr).getD hdr) vs).map Prod.snd := by
  unfold VLink.other
  rw [processPkt]
  by_cases h₀ : v.inst₀ = hdr
  · simp only [if_pos h₀, List.map_cons, Option.map_some, Option.getD_some]
  · by_cases h₁ : v.inst₁ = hdr
    · simp only [if_neg h₀, if_pos h₁, List.map_cons, Option.map_some, Option.getD_some]
    · simp only [if_neg h₀, if_neg h₁, List.map_cons, Option.map_none, Option.getD_none]

theorem txPkt_injective : Function.Injective (txPkt · body) := by
  intro a b h
  exact congrArg (fun t : Tx ↦ t.pkt.hdr) h

theorem processPkt_none (h : ∀ w ∈ vs, w.other hdr = none) :
    (processPkt body hdr vs).map Prod.snd = vs.map fun _ ↦ none := by
  induction vs with
  | nil => rfl
  | cons v vs ih =>
    have hv := h v List.mem_cons_self
    rw [processPkt_cons, hv, Option.getD_none, ih fun w hw ↦ h w (List.mem_cons_of_mem v hw)]
    rfl

theorem other_eq_other (hne : f ≠ e) (h : v.other f = v.other e) : v.other e = none := by
  unfold VLink.other at *
  by_cases h₀ : v.inst₀ = e
  · rw [if_neg (fun hf ↦ hne (hf.symm.trans h₀)), if_pos h₀] at h
    by_cases h₁ : v.inst₁ = f
    · rw [if_pos h₁, h₀, h₁] at h
      exact absurd (Option.some.inj h).symm hne
    · rw [if_neg h₁] at h
      cases h
  · rw [if_neg h₀] at h ⊢
    by_cases h₁ : v.inst₁ = e
    · rw [if_pos h₁] at h
      by_cases hf : v.inst₀ = f
      · rw [if_pos hf, h₁, hf] at h
        exact absurd (Option.some.inj h).symm hne
      · rw [if_neg hf, if_neg (fun hf ↦ hne (hf.symm.trans h₁))] at h
        cases h
    · rw [if_neg h₁]

theorem processPkt_changed (hne : f ≠ e) :
    (processPkt body f vs).map Prod.snd = vs.map (fun w ↦ (w.other e).map (txPkt · body)) ↔
      ∀ w ∈ vs, w.other e = none ∧ w.other f = none := by
  constructor
  · intro h
    induction vs with
    | nil => exact fun w hw ↦ absurd hw List.not_mem_nil
    | cons v vs ih =>
      rw [processPkt_cons, List.map_cons, List.cons.injEq] at h
      obtain ⟨hv, hvs⟩ := h
      have heq : v.other f = v.other e := Option.map_injective txPkt_injective hv
      have hnone := other_eq_other hne heq
      rw [heq, hnone, Option.getD_none] at hvs
      intro w hw
      obtain rfl | hw := List.mem_cons.mp hw
      · exact ⟨hnone, heq.trans hnone⟩
      · exact ih hvs w hw
  · intro h
    rw [processPkt_none fun w hw ↦ (h w hw).2]
    refine List.map_congr_left fun w hw ↦ ?_
    rw [(h w hw).1]
    rfl

theorem processPkt_iff : (processPkt body e vs).map Prod.snd =
    vs.map (fun w ↦ (w.other e).map (txPkt · body)) ↔ Unambiguous e vs := by
  induction vs with
  | nil => exact iff_of_true rfl trivial
  | cons v vs ih =>
    rw [processPkt_cons, List.map_cons, List.cons.injEq, Unambiguous]
    refine (and_iff_right rfl).trans ?_
    cases hv : v.other e with
    | none => exact ih.trans (and_iff_right nofun).symm
    | some f =>
      rw [Option.getD_some]
      by_cases hne : f = e
      · subst hne
        refine ih.trans (and_iff_right fun g hg hgne ↦ ?_).symm
        exact absurd (Option.some.inj hg).symm hgne
      · rw [processPkt_changed hne]
        constructor
        · intro h
          refine ⟨fun g hg _ ↦ Option.some.inj hg ▸ h, ?_⟩
          rw [← ih, processPkt_none fun w hw ↦ (h w hw).1]
          refine List.map_congr_left fun w hw ↦ ?_
          rw [(h w hw).1]
          rfl
        · exact fun h ↦ h.1 f rfl hne

end Relay

/-- After any creations and deletions a packet from `e` is sent once for every link
with the end `e`, to the other end of it, and for no other link, just when no link
from `e` to an endpoint `f` has one behind it with the end `e` or `f`. -/
theorem packets_follow_links_iff (events : List LinkEvent) (e : Inst) (body : List U8) :
    (processPkt body e (events.foldl linkStep [])).map Prod.snd =
        (events.foldl linkStep []).map (fun v ↦ (v.other e).map (txPkt · body)) ↔
      Unambiguous e (events.foldl linkStep []) := processPkt_iff

/-- Instance 1 sends over its link to instance 2. The packet then takes the link
from instance 2 to 3 as well, and not the second link of instance 1. -/
theorem packet_leaves_links : ∃ events : List LinkEvent,
    (events.foldl linkStep []).map (fun v ↦ (v.inst₀, v.inst₁)) =
      [(⟨1, 1⟩, ⟨2, 1⟩), (⟨2, 1⟩, ⟨3, 1⟩), (⟨1, 1⟩, ⟨4, 1⟩)] ∧
    (processPkt [9] ⟨1, 1⟩ (events.foldl linkStep [])).map Prod.snd =
      [some ⟨9002, ⟨2, 1⟩, [9]⟩, some ⟨9003, ⟨3, 1⟩, [9]⟩, none] := by
  refine ⟨[.create 1 1 2 1 0, .create 2 1 3 1 0, .create 5 1 6 1 0, .create 1 1 4 1 0,
    .destroy 5 1 6 1], ?_, ?_⟩ <;> decide +kernel

end Layer3Switch.Virtual
