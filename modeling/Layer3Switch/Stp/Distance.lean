import Layer3Switch.Lib.Run
import Layer3Switch.Stp.Create
import Layer3Switch.Stp.Events
import Layer3Switch.Stp.TimerHost

namespace Layer3Switch.Stp

open Lib Lib.Bytes
open Timers (U32 TimerMgr initTimerMgr)

inductive Msg (κ : Type)
  | config (bpdu : StpBpdu κ)
  | tcn
  deriving DecidableEq, Repr

def asSent (κ : Type) : Wire κ (Msg κ) where
  config := fun _ bpdu ↦ .config bpdu
  tcn := fun _ ↦ .tcn
  type
    | .config _ => some bpduConfigType
    | .tcn => some bpduTcType
  decode
    | .config bpdu => some bpdu
    | .tcn => none

/-- What does not change: the ids of the bridges, their ports with the path
costs, and the LAN into which a port is plugged. -/
structure Wiring (ι Λ : Type) where
  bridgeId : ι → BridgeId
  ports : ι → List (U32 × ℤ)
  lan : ι → U32 → Λ

namespace Wiring

variable {ι Λ τ : Type} (N : Wiring ι Λ)

/-- A path through the network with the sum of the costs of the ports by which
it leaves its bridges. -/
inductive Path : ι → ι → ℤ → Prop
  | nil (i : ι) : Path i i 0
  | hop {i j k : ι} {n m : U32} {c c' d : ℤ} : (n, c) ∈ N.ports i → (m, c') ∈ N.ports j →
      N.lan i n = N.lan j m → Path j k d → Path i k (d + c)

def Sound (root : BridgeId) (cost : ℤ) (bridge : BridgeId) : Prop :=
  ∃ i k, N.bridgeId i = bridge ∧ N.bridgeId k = root ∧ N.Path i k cost

def SoundOn (l : Λ) (root : BridgeId) (cost : ℤ) (bridge : BridgeId) : Prop :=
  ∃ i k, N.bridgeId i = bridge ∧ N.bridgeId k = root ∧ N.Path i k cost ∧
    ∃ n c, (n, c) ∈ N.ports i ∧ N.lan i n = l

/-- What holds of an entry of bridge `i`. It keeps sound information from the
time it is enabled for the first time, also while it is `DISABLED`. -/
structure EntryOk (i : ι) (p : StpPortEntry ℤ) : Prop where
  wired : (p.portNo, p.pathCost) ∈ N.ports i
  info : p.enabled →
    N.SoundOn (N.lan i p.portNo) p.designatedRoot p.designatedCost p.designatedBridge
  enabled : p.state ≠ .disabled → p.enabled
  portNo_lt : p.enabled → p.portNo.toNat < 2 ^ 16

/-- What holds of bridge `i` throughout. Of the entries that bear one number
the first is enabled first, and that is the one `stp_get_port` finds. -/
structure Inv (i : ι) (w : World ℤ τ (Msg ℤ)) : Prop where
  bridgeId : w.br.bridgeId = N.bridgeId i
  own : ∃ k, N.bridgeId k = w.br.designatedRoot ∧ N.Path i k w.br.rootPathCost
  entries : ∀ (j : ℕ) p, w.br.portList[j]? = some p → N.EntryOk i p
  first : ∀ (j k : ℕ) p q, j < k → w.br.portList[j]? = some p → w.br.portList[k]? = some q →
    p.portNo = q.portNo → q.enabled → p.enabled
  sent : ∀ n bpdu, (n, Msg.config bpdu) ∈ w.sent →
    N.SoundOn (N.lan i n) bpdu.rootId bpdu.rootPathCost bpdu.bridgeId

variable {N} {i : ι} {w w' : World ℤ τ (Msg ℤ)}

theorem SoundOn.sound {l : Λ} {root bridge : BridgeId} {cost : ℤ}
    (h : N.SoundOn l root cost bridge) : N.Sound root cost bridge := by
  obtain ⟨i, k, hi, hk, hpath, -⟩ := h
  exact ⟨i, k, hi, hk, hpath⟩

def Knows (N : Wiring ι Λ) (i : ι) (br : StpInstance ℤ) : Prop :=
  br.bridgeId = N.bridgeId i ∧ ∃ k, N.bridgeId k = br.designatedRoot ∧ N.Path i k br.rootPathCost

theorem Knows.soundOn {br : StpInstance ℤ} (h : N.Knows i br) {p : StpPortEntry ℤ}
    (hp : (p.portNo, p.pathCost) ∈ N.ports i) :
    N.SoundOn (N.lan i p.portNo) br.designatedRoot br.rootPathCost br.bridgeId := by
  obtain ⟨hid, k, hk, hpath⟩ := h
  exact ⟨i, k, hid.symm, hk, hpath, p.portNo, p.pathCost, hp, rfl⟩

theorem Inv.knows (h : N.Inv i w) : N.Knows i w.br := ⟨h.bridgeId, h.own⟩

theorem EntryOk.designated {br : StpInstance ℤ} (hbr : N.Knows i br) {p : StpPortEntry ℤ}
    (h : N.EntryOk i p) : N.EntryOk i (stpBecomeDesignatedPort br p) :=
  ⟨h.wired, fun _ ↦ hbr.soundOn h.wired, h.enabled, h.portNo_lt⟩

theorem EntryOk.kept {p p' : StpPortEntry ℤ} (h : N.EntryOk i p) (hk : PortKept p p') :
    N.EntryOk i p' := by
  have hs := hk.state
  rw [hk.kept] at hs ⊢
  exact ⟨h.wired, h.info, fun hne ↦ h.enabled (hs hne), h.portNo_lt⟩

theorem Inv.update (h : N.Inv i w) (hbr : N.Knows i w'.br)
    (hsent : ∀ n bpdu, (n, Msg.config bpdu) ∈ w'.sent →
      N.SoundOn (N.lan i n) bpdu.rootId bpdu.rootPathCost bpdu.bridgeId)
    (he : ∀ (j : ℕ) q', w'.br.portList[j]? = some q' → ∃ q, w.br.portList[j]? = some q ∧
      EntryKept q q' ∧ (N.EntryOk i q → N.EntryOk i q') ∧
      (q'.enabled → q.enabled ∨
        ∀ k < j, ∀ p, w.br.portList[k]? = some p → p.portNo = q.portNo → p.enabled)) :
    N.Inv i w' where
  bridgeId := hbr.1
  own := hbr.2
  entries := by
    intro j q' hq'
    obtain ⟨q, hq, -, hok, -⟩ := he j q' hq'
    exact hok (h.entries j q hq)
  first := by
    intro j k p' q' hjk hp' hq' hno hen
    obtain ⟨p, hp, hpk, -, -⟩ := he j p' hp'
    obtain ⟨q, hq, hqk, -, hnew⟩ := he k q' hq'
    have hno' : p.portNo = q.portNo := by rw [← hpk.portNo, hno, hqk.portNo]
    apply hpk.enabled
    obtain hold | hpred := hnew hen
    · exact h.first j k p q hjk hp hq hno' hold
    · exact hpred j hjk p hp hno'
  sent := hsent

theorem setWidth_setWidth_of_lt {n : U32} (h : n.toNat < 2 ^ 16) :
    (n.setWidth 16).setWidth 32 = n := by
  apply BitVec.eq_of_toNat_eq
  rw [BitVec.toNat_setWidth, BitVec.toNat_setWidth]
  omega

theorem Inv.getPort (h : N.Inv i w) {p q : StpPortEntry ℤ} (hq : q ∈ w.br.portList)
    (hs : q.state ≠ .disabled) (hp : stpGetPort w.br (q.portNo.setWidth 16) = some p) :
    p.enabled ∧ ∃ j : ℕ, w.br.portList[j]? = some p := by
  obtain ⟨k, hk⟩ := List.mem_iff_getElem?.mp hq
  have hok := h.entries k q hk
  have hen := hok.enabled hs
  have hno : p.portNo = q.portNo := by
    rw [(stpGetPort_spec hp).2, setWidth_setWidth_of_lt (hok.portNo_lt hen)]
  obtain ⟨-, j, hj, hjp, hbefore⟩ := List.find?_eq_some_iff_getElem.mp hp
  have hj' : w.br.portList[j]? = some p := List.getElem?_eq_some_iff.mpr ⟨hj, hjp⟩
  refine ⟨?_, j, hj'⟩
  obtain hlt | rfl | hgt := Nat.lt_trichotomy j k
  · exact h.first j k p q hlt hj' hk hno hen
  · obtain rfl := Option.some.inj (hj'.symm.trans hk)
    exact hen
  · obtain ⟨_, hkq⟩ := List.getElem?_eq_some_iff.mp hk
    have hne := hbefore k hgt
    rw [hkq, setWidth_setWidth_of_lt (hok.portNo_lt hen)] at hne
    simp at hne

theorem Inv.rootSelection (h : N.Inv i w) {e : Endian} {br : StpInstance ℤ}
    (hbr : stpRootSelection e w.br = some br) : N.Knows i br := by
  obtain rfl | ⟨q, hq, hc, -, p, hp, rfl⟩ := stpRootSelection_cases hbr
  · exact ⟨h.bridgeId, i, h.bridgeId.symm, .nil i⟩
  · obtain ⟨hen, j, hj⟩ := h.getPort hq hc.state hp
    have hok := h.entries j p hj
    obtain ⟨i', k, -, hk, hpath, n, c, hn, hlan⟩ := hok.info hen
    exact ⟨h.bridgeId, k, hk, .hop hok.wired hn hlan.symm hpath⟩

theorem Inv.modifyPort (h : N.Inv i w) {p : ℕ} {f : StpPortEntry ℤ → StpPortEntry ℤ}
    (hf : ∀ q, w.br.portList[p]? = some q → EntryKept q (f q) ∧
      (N.EntryOk i q → N.EntryOk i (f q)) ∧ ((f q).enabled → q.enabled ∨
        ∀ k < p, ∀ p', w.br.portList[k]? = some p' → p'.portNo = q.portNo → p'.enabled)) :
    N.Inv i (w.modifyPort p f) := by
  refine h.update ?_ ?_ ?_
  · exact h.knows
  · exact h.sent
  intro j q' hq'
  simp only [World.modifyPort, List.getElem?_modify, Option.map_eq_map,
    Option.map_eq_some_iff] at hq'
  obtain ⟨q, hq, rfl⟩ := hq'
  refine ⟨q, hq, ?_⟩
  split
  · rename_i hpj
    subst hpj
    exact hf q hq
  · exact ⟨⟨rfl, rfl, id⟩, id, .inl⟩

theorem portNo_lt_of_maxPorts {n : U32} (h : (n - 1).toNat < maxPorts) : n.toNat < 2 ^ 16 := by
  have hn := n.isLt
  rw [BitVec.toNat_sub, maxPorts] at h
  simp only [BitVec.ofNat_eq_ofNat, BitVec.toNat_ofNat] at h
  omega

theorem closed_inv (N : Wiring ι Λ) (H : Host τ) (i : ι) :
    Closed H (asSent ℤ)
      (fun n bpdu ↦ N.SoundOn (N.lan i n) bpdu.rootId bpdu.rootPathCost bpdu.bridgeId)
      (N.Inv i) := by
  intro w w' hc h
  cases hc with
  | env _ _ => exact ⟨h.bridgeId, h.own, h.entries, h.first, h.sent⟩
  | elect br hbr =>
    obtain ⟨br₁, h₁, -, -, rfl⟩ := stpConfigurationUpdate_cases hbr
    have hknows := h.rootSelection h₁
    refine h.update ?_ ?_ ?_
    · exact hknows
    · exact h.sent
    intro j q' hq'
    rw [List.getElem?_map, Option.map_eq_some_iff] at hq'
    obtain ⟨q, hq, rfl⟩ := hq'
    refine ⟨q, hq, selectDesignatedPort_kept _ _ _, ?_, ?_⟩
    · intro hok
      unfold selectDesignatedPort
      split
      · exact hok.designated hknows
      · exact hok
    · intro hen
      unfold selectDesignatedPort at hen
      split at hen <;> exact .inl hen
  | designate p =>
    apply h.modifyPort
    intro q _
    exact ⟨⟨rfl, rfl, id⟩, fun hok ↦ hok.designated h.knows, .inl⟩
  | record p bpdu hr =>
    apply h.modifyPort
    intro q hq
    refine ⟨⟨rfl, rfl, id⟩, ?_, .inl⟩
    intro hok
    exact ⟨hok.wired, fun _ ↦ hr q hq, hok.enabled, hok.portNo_lt⟩
  | port p f hf =>
    apply h.modifyPort
    intro q hq
    refine ⟨(hf q hq).entryKept, fun hok ↦ hok.kept (hf q hq), ?_⟩
    intro hen
    rw [(hf q hq).kept] at hen
    exact .inl hen
  | rename p newprio =>
    apply h.modifyPort
    intro q _
    refine ⟨⟨rfl, rfl, id⟩, ?_, .inl⟩
    intro hok
    exact ⟨hok.wired, hok.info, hok.enabled, hok.portNo_lt⟩
  | init p q t hq ht hfirst =>
    have hlt : (q.portNo - 1).toNat < maxPorts := (Vector.getElem?_eq_some_iff.mp ht).1
    have hinit : N.Inv i (w.modifyPort p (initPort w.br)) := by
      apply h.modifyPort
      intro q' hq'
      obtain rfl := Option.some.inj (hq.symm.trans hq')
      refine ⟨⟨rfl, rfl, fun _ ↦ rfl⟩, ?_, fun _ ↦ .inr hfirst⟩
      intro hok
      exact ⟨hok.wired, fun _ ↦ h.knows.soundOn hok.wired, fun _ ↦ rfl,
        fun _ ↦ portNo_lt_of_maxPorts hlt⟩
    exact ⟨hinit.bridgeId, hinit.own, hinit.entries, hinit.first, hinit.sent⟩
  | bridge f hf =>
    obtain ⟨hports, hroot, hcost, hid⟩ := hf.fields
    refine ⟨hid.trans h.bridgeId, ?_, ?_, ?_, h.sent⟩
    · rw [hroot, hcost]
      exact h.own
    · rw [hports]
      exact h.entries
    · rw [hports]
      exact h.first
  | sendConfig q smac stack age hq =>
    refine ⟨h.bridgeId, h.own, h.entries, h.first, ?_⟩
    intro n bpdu hmem
    obtain hmem | hmem := List.mem_append.mp hmem
    · exact h.sent n bpdu hmem
    · obtain ⟨j, hj⟩ := List.mem_iff_getElem?.mp hq
      obtain ⟨rfl, heq⟩ := Prod.mk.inj (List.mem_singleton.mp hmem)
      obtain rfl := Msg.config.inj heq
      exact h.knows.soundOn (h.entries j q hj).wired
  | sendTcn n smac =>
    refine ⟨h.bridgeId, h.own, h.entries, h.first, ?_⟩
    intro n bpdu hmem
    obtain hmem | hmem := List.mem_append.mp hmem
    · exact h.sent n bpdu hmem
    · obtain ⟨-, heq⟩ := Prod.mk.inj (List.mem_singleton.mp hmem)
      cases heq

theorem Inv.tail (h : N.Inv i w) :
    N.Inv i { w with br := { w.br with portList := w.br.portList.tail } } := by
  refine ⟨h.bridgeId, h.own, ?_, ?_, h.sent⟩
  · intro j p hp
    rw [List.getElem?_tail] at hp
    exact h.entries (j + 1) p hp
  · intro j k p q hjk hp hq
    rw [List.getElem?_tail] at hp hq
    exact h.first (j + 1) (k + 1) p q (Nat.succ_lt_succ hjk) hp hq

theorem Inv.handle (h : N.Inv i w) (H : Host τ) (ev : Event τ (Msg ℤ))
    (hr : ∀ portNo bpdu, ev = .receive portNo (.config bpdu) →
      N.SoundOn (N.lan i (portNo.setWidth 32)) bpdu.rootId bpdu.rootPathCost bpdu.bridgeId)
    (hw : handle H (asSent ℤ) ev w = some ((), w')) : N.Inv i w' := by
  refine handle_keeps (closed_inv N H i).stable ?_ ?_ ?_ ev ?_ h () w' hw
  · intro w h
    exact h.tail
  · intro w j status h
    exact ⟨h.bridgeId, h.own, h.entries, h.first, h.sent⟩
  · intro w env h
    exact ⟨h.bridgeId, h.own, h.entries, h.first, h.sent⟩
  · intro portNo msg bpdu hev _ hdec
    cases msg with
    | config b =>
      obtain rfl := Option.some.inj hdec
      exact hr portNo b hev
    | tcn => cases hdec

/-- Bridges and the BPDUs in flight on the LANs. A BPDU stays in flight, so it
may be received late, more than once, in any order or not at all. -/
structure NetState (ι Λ τ : Type) where
  world : ι → World ℤ τ (Msg ℤ)
  flight : List (Λ × Msg ℤ)

def step [DecidableEq ι] (N : Wiring ι Λ) (H : ι → Host τ) (s : NetState ι Λ τ)
    (x : ι × Event τ (Msg ℤ)) : Option (NetState ι Λ τ) :=
  (Stp.handle (H x.1) (asSent ℤ) x.2 { s.world x.1 with sent := [] }).map fun r ↦
    { world := Function.update s.world x.1 r.2
      flight := s.flight ++ r.2.sent.map fun y ↦ (N.lan x.1 y.1, y.2) }

def Delivers (N : Wiring ι Λ) (s : NetState ι Λ τ) (x : ι × Event τ (Msg ℤ)) : Prop :=
  match x.2 with
  | .receive portNo msg => (N.lan x.1 (portNo.setWidth 32), msg) ∈ s.flight
  | _ => True

instance [DecidableEq Λ] (N : Wiring ι Λ) (s : NetState ι Λ τ) (x : ι × Event τ (Msg ℤ)) :
    Decidable (N.Delivers s x) := by
  unfold Delivers
  split <;> infer_instance

structure Fresh (N : Wiring ι Λ) (s : NetState ι Λ τ) : Prop where
  bridges : ∀ i, (s.world i).br.Fresh
  bridgeId : ∀ i, (s.world i).br.bridgeId = N.bridgeId i
  wired : ∀ i, ∀ p ∈ (s.world i).br.portList, (p.portNo, p.pathCost) ∈ N.ports i
  flight : s.flight = []

structure NetInv (N : Wiring ι Λ) (s : NetState ι Λ τ) : Prop where
  bridges : ∀ i, N.Inv i { s.world i with sent := [] }
  flight : ∀ l bpdu, (l, Msg.config bpdu) ∈ s.flight →
    N.SoundOn l bpdu.rootId bpdu.rootPathCost bpdu.bridgeId

variable {s s' : NetState ι Λ τ}

theorem Fresh.netInv (h : N.Fresh s) : N.NetInv s where
  bridges := by
    intro i
    have hentry : ∀ (j : ℕ) p, (s.world i).br.portList[j]? = some p →
        p.enabled = false ∧ N.EntryOk i p := by
      intro j p hp
      have hmem := List.mem_of_getElem? hp
      obtain ⟨hst, hen⟩ := (h.bridges i).ports p hmem
      refine ⟨hen, h.wired i p hmem, ?_, fun hs ↦ absurd hst hs, ?_⟩
      · intro hen'
        rw [hen] at hen'
        cases hen'
      · intro hen'
        rw [hen] at hen'
        cases hen'
    have hroot := (h.bridges i).designatedRoot.trans (h.bridgeId i)
    refine ⟨h.bridgeId i, ⟨i, hroot.symm, ?_⟩, ?_, ?_, ?_⟩
    · rw [(h.bridges i).rootPathCost]
      exact .nil i
    · intro j p hp
      exact (hentry j p hp).2
    · intro j k p q _ _ hq _ hen
      rw [(hentry k q hq).1] at hen
      cases hen
    · intro n bpdu hmem
      cases hmem
  flight := by
    intro l bpdu hmem
    rw [h.flight] at hmem
    cases hmem

variable [DecidableEq ι] {H : ι → Host τ} {x : ι × Event τ (Msg ℤ)}

theorem NetInv.step (h : N.NetInv s) (hd : N.Delivers s x) (hs : N.step H s x = some s') :
    N.NetInv s' := by
  obtain ⟨⟨⟨⟩, w'⟩, hw, rfl⟩ := Option.map_eq_some_iff.mp hs
  have hinv : N.Inv x.1 w' := by
    apply (h.bridges x.1).handle (H x.1) x.2 _ hw
    intro portNo bpdu hev
    rw [Delivers, hev] at hd
    exact h.flight _ bpdu hd
  refine ⟨?_, ?_⟩
  · intro i
    by_cases hi : i = x.1
    · subst hi
      simp only [Function.update_self]
      refine ⟨hinv.bridgeId, hinv.own, hinv.entries, hinv.first, ?_⟩
      intro n bpdu hmem
      cases hmem
    · simp only [Function.update_of_ne hi]
      exact h.bridges i
  · intro l bpdu hmem
    obtain hmem | hmem := List.mem_append.mp hmem
    · exact h.flight l bpdu hmem
    · obtain ⟨⟨n, msg⟩, hsent, heq⟩ := List.mem_map.mp hmem
      obtain ⟨rfl, rfl⟩ := Prod.mk.inj heq
      exact hinv.sent n bpdu hsent

end Wiring

/-- In every run of a network, whatever is lost, repeated, delayed or switched
off and on: the root named by a port that is not `DISABLED`, or by a BPDU in
flight, is a bridge of the network, and a path leads from the designated bridge
to it at exactly the stated cost. -/
theorem distance_never_invented {ι Λ τ : Type} [DecidableEq ι] (N : Wiring ι Λ) (H : ι → Host τ)
    {s₀ s : Wiring.NetState ι Λ τ} {es : List (ι × Event τ (Msg ℤ))} (h₀ : N.Fresh s₀)
    (hrun : Run (N.step H) N.Delivers s₀ es s) :
    (∀ i, ∀ p ∈ (s.world i).br.portList, p.state ≠ .disabled →
      N.Sound p.designatedRoot p.designatedCost p.designatedBridge) ∧
    ∀ l bpdu, (l, Msg.config bpdu) ∈ s.flight →
      N.Sound bpdu.rootId bpdu.rootPathCost bpdu.bridgeId := by
  have hinv : N.NetInv s :=
    hrun.invariant (fun _ _ _ hi hd hs ↦ hi.step hd hs) h₀.netInv
  refine ⟨?_, ?_⟩
  · intro i p hp hs
    obtain ⟨j, hj⟩ := List.mem_iff_getElem?.mp hp
    have hok := (hinv.bridges i).entries j p hj
    exact (hok.info (hok.enabled hs)).sound
  · intro l bpdu hmem
    exact (hinv.flight l bpdu hmem).sound

def pairWiring : Wiring Bool Unit where
  bridgeId := fun i ↦ ⟨stpDefPriority, macAddress 0 0 0 0 0 (if i then 2 else 1)⟩
  ports := fun _ ↦ [(1, 20000)]
  lan := fun _ _ ↦ ()

def pairStart : Wiring.NetState Bool Unit TimerMgr where
  world := fun i ↦ newInstance (timerHost .little 0) 1 (pairWiring.bridgeId i).addr [1]
    (.replicate maxPorts ⟨.down, (pairWiring.bridgeId i).addr, none⟩) initTimerMgr
  flight := []

theorem pairStart_fresh : pairWiring.Fresh pairStart where
  bridges := fun _ ↦ newInstance_fresh _ _ _ _ _ _
  bridgeId := fun _ ↦ rfl
  wired := by decide
  flight := rfl

def pairHello : StpBpdu ℤ where
  flags := 0
  rootId := pairWiring.bridgeId false
  rootPathCost := 0
  bridgeId := pairWiring.bridgeId false
  portId := 1
  messageAge := 0
  maxAge := 20
  helloTime := 2
  forwardDelay := 15

def pairEvents : List (Bool × Event TimerMgr (Msg ℤ)) :=
  [(false, .setOperStatus 0 .up), (false, .setState true), (false, .helloTimer),
   (true, .setOperStatus 0 .up), (true, .setState true),
   (true, .receive 1 (.config pairHello))]

theorem distance_never_invented_pair :
    pairWiring.Fresh pairStart ∧ ∃ s, Run (pairWiring.step fun _ ↦ timerHost .little 0)
      pairWiring.Delivers pairStart pairEvents s ∧
      ∃ p ∈ (s.world true).br.portList, p.designatedRoot = pairWiring.bridgeId false ∧
        pairWiring.Sound p.designatedRoot p.designatedCost p.designatedBridge := by
  have hrun : (exec (fun s x ↦ if pairWiring.Delivers s x then
      pairWiring.step (fun _ ↦ timerHost .little 0) s x else none) pairStart pairEvents).any
        (fun s ↦ (s.world true).br.portList.any fun p ↦
          p.state ≠ .disabled && p.designatedRoot = pairWiring.bridgeId false) = true := by
    decide +kernel
  obtain ⟨s, hs, hany⟩ := (Option.any_eq_true _ _).mp hrun
  obtain ⟨p, hp, hp'⟩ := List.any_eq_true.mp hany
  obtain ⟨hstate, hroot⟩ := Bool.and_eq_true_iff.mp hp'
  have hs := (run_of_exec hs).guarded
  refine ⟨pairStart_fresh, s, hs, p, hp, of_decide_eq_true hroot, ?_⟩
  exact (distance_never_invented _ _ pairStart_fresh hs).1 true p hp (of_decide_eq_true hstate)

end Layer3Switch.Stp
