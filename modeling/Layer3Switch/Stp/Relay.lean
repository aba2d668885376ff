import Layer3Switch.Stp.Hold

namespace Layer3Switch.Stp

open Lib Lib.Bytes
open Timers (U32 TimerId TimerMgr)

variable {κ Φ : Type}

def Label.RecordsOn (i : TimerId) : Label κ Φ → Prop
  | .record age _ _ => age = some i
  | _ => False

def Label.Relays (W : Wire κ Φ) (v m : ℕ) : Label κ Φ → Prop
  | .transmit _ (.sent age _ frame) => age.toNat = v ∧ v < m ∧
      ∃ smac bpdu, frame = W.config smac bpdu ∧ bpdu.messageAge = age
  | .transmit _ (.dropped age) => age.toNat = v ∧ v < m
  | .transmit _ (.aged _) => m ≤ v
  | _ => True

def ticks (ls : List (Label κ Φ)) : ℕ := (ls.flatMap Label.events).count .tick

def relayedAge (bpdu : StpBpdu κ) (ls : List (Label κ Φ)) : ℕ :=
  bpdu.messageAge.toNat + 1 + (ticks ls + 99) / 100

section Expiry

theorem messageAge_of_fixed {q q' : StpPortEntry κ} (h : q'.fixed = q.fixed) :
    q'.messageAgeTimer = q.messageAgeTimer := by
  simp only [StpPortEntry.fixed, StpPortEntry.timers, Prod.mk.injEq, List.cons.injEq] at h
  exact h.2.2.1

variable [Add κ] [LT κ] [DecidableLT κ] [OfNat κ 0] [OfNat κ 20000]
variable {e : Endian} {stackByte : U8} {W : Wire κ Φ} {l : Label κ Φ} {ls : List (Label κ Φ)}
variable {w w' : World κ TimerMgr Φ} {q q' : StpPortEntry κ} {i : TimerId} {exp : U32}

theorem Trace.run (h : Trace (Did e stackByte W) w ls w') :
    Run Timers.step (fun _ _ ↦ True) w.env (ls.flatMap Label.events) w'.env := by
  induction h with
  | nil => exact .nil _
  | cons hl _ ih =>
    rw [List.flatMap_cons]
    exact (hl.run.mono fun _ _ _ ↦ trivial).trans ih

theorem Did.unarmed (h : Did e stackByte W l w w') (hw : Sound w) (hq : q ∈ w.br.portList)
    (hi : q.messageAgeTimer = some i) (hl : ¬l.RecordsOn i) :
    ∀ ev ∈ l.events, ∀ secs, ev ≠ .modTimer (some i) secs true := by
  obtain ⟨hstart, hhold⟩ := hw.apart.messageAge hq hi
  have hnil : ∀ ev ∈ ([] : List Timers.Event), ∀ secs, ev ≠ .modTimer (some i) secs true := nofun
  have hmod : ∀ {timer : TimerRef} {secs : U32}, timer ≠ some i →
      ∀ ev ∈ [Timers.Event.modTimer timer secs true], ∀ secs,
        ev ≠ .modTimer (some i) secs true := by
    intro timer secs hne ev hev
    obtain rfl := List.mem_singleton.mp hev
    exact (leaves_modTimer hne secs).1
  have hdel : ∀ {timer : TimerRef}, ∀ ev ∈ timer.toList.map Timers.Event.delTimer, ∀ secs,
      ev ≠ .modTimer (some i) secs true := by
    intro timer ev hev
    obtain ⟨j, -, rfl⟩ := List.mem_map.mp hev
    nofun
  cases h with
  | works h =>
    cases h with
    | deed h =>
      cases h with
      | start _ t secs env ht _ => exact hmod fun heq ↦ hstart (heq ▸ ht)
      | record _ p q' bpdu env hq' _ _ => exact hmod hl
      | stop | stopAge | unhold => exact hdel
      | transmit _ _ p q' a hq' _ =>
        cases a with
        | sent | dropped => exact hmod (hhold q' (List.mem_of_getElem? hq'))
        | held | aged => exact hnil
      | _ => exact hnil
    | create _ addr portNo =>
      intro ev hev
      obtain ⟨h, -, rfl⟩ := List.mem_map.mp hev
      nofun
    | assign | remove => exact hnil
  | tick _ env ns _ _ =>
    intro ev hev
    obtain rfl := List.mem_singleton.mp hev
    nofun
  | manager _ env ev _ hleaves _ =>
    intro ev' hev
    obtain rfl := List.mem_singleton.mp hev
    refine (hleaves i (List.mem_append_right _ (List.mem_flatMap.mpr ⟨q, hq, ?_⟩))).1
    exact hi ▸ messageAge_mem_timers q

theorem Did.origin (h : Did e stackByte W l w w') (hw : Sound w) (hq' : q' ∈ w'.br.portList) :
    (∃ q ∈ w.br.portList, q'.fixed = q.fixed) ∨
      ∀ i, some i ∈ q'.timers → w.env.nextTimer ≤ i := by
  cases h with
  | works h => exact h.origin hw hq'
  | tick => exact .inl ⟨q', hq', rfl⟩
  | manager => exact .inl ⟨q', hq', rfl⟩

/-- As long as a port has message age timer `i`, that is to expire at `exp`. -/
structure Expires (i : TimerId) (exp : U32) (w : World κ TimerMgr Φ) : Prop where
  sound : Sound w
  allocated : i < w.env.nextTimer
  exp : ∀ q ∈ w.br.portList, q.messageAgeTimer = some i →
    ∃ t, w.env.timers i = some t ∧ t.exp = exp

theorem Did.expires (h : Did e stackByte W l w w') (hl : ¬l.RecordsOn i) (hw : Expires i exp w) :
    Expires i exp w' := by
  refine ⟨h.sound hw.sound, hw.allocated.trans_le (h.nextTimer_le hw.sound), ?_⟩
  intro q' hq' hi
  obtain ⟨q, hq, hfixed⟩ | hnew := h.origin hw.sound hq'
  · have hiq : q.messageAgeTimer = some i := (messageAge_of_fixed hfixed).symm.trans hi
    have hmem : some i ∈ w.br.timers := List.mem_append_right _
      (List.mem_flatMap.mpr ⟨q, hq, hiq ▸ messageAge_mem_timers q⟩)
    obtain ⟨t, ht, rfl⟩ := hw.exp q hq hiq
    obtain ⟨t₁, ht₁, hforever⟩ := hw.sound.lasting i hmem
    obtain rfl := Option.some.inj (ht.symm.trans ht₁)
    exact Timers.exp_run (fun _ ev hev ↦ h.unarmed hw.sound hq hiq hl ev hev) hw.sound.wf ht
      hforever h.run
  · have hle := hnew i (hi ▸ messageAge_mem_timers q')
    exact absurd hw.allocated (Nat.not_lt.mpr hle)

theorem expires_of_record {secs : U32} {bpdu : StpBpdu κ}
    (h : Did e stackByte W (.record (some i) secs bpdu) w w') (hw : Sound w) :
    secs = w.br.maxAge - bpdu.messageAge.setWidth 32 ∧
      Expires i (secs * Timers.tmGetTicksPerSecond + w.env.clk.tick) w' ∧
      w'.env.clk = w.env.clk := by
  have hsound := h.sound hw
  generalize hl : Label.record (some i) secs bpdu = l at h
  cases h with
  | works h =>
    cases h with
    | deed h =>
      cases h with
      | record _ p q bpdu env hq _ henv =>
        obtain ⟨hi, rfl, rfl⟩ := Label.record.inj hl
        rw [← hi] at henv
        obtain ⟨⟨t, -, -, -, -, harm⟩, -⟩ := modTimer_apptimer henv
        obtain ⟨t', ht', hexp⟩ : ∃ t', env.timers i = some t' ∧ t'.exp =
            (w.br.maxAge - bpdu.messageAge.setWidth 32) * Timers.tmGetTicksPerSecond +
              w.env.clk.tick := by
          obtain ⟨-, rfl⟩ | ⟨wheel, k, -, rfl⟩ := Timers.armTimer_cases harm
          · exact ⟨_, Function.update_self _ _ _, rfl⟩
          · exact ⟨_, Function.update_self _ _ _, rfl⟩
        refine ⟨rfl, ⟨hsound, hsound.wf.lt_of_some ht', fun _ _ _ ↦ ⟨t', ht', hexp⟩⟩, ?_⟩
        exact Timers.armTimer_clk harm
      | _ => cases hl
    | _ => cases hl
  | _ => cases hl

end Expiry

section Arithmetic

theorem remaining_toInt {maxAge t d : U32} {messageAge : U16} {k : ℕ} (hm : maxAge.toNat < 2 ^ 16)
    (hk : k < 2 ^ 30) (hd : d = (maxAge - messageAge.setWidth 32) * Timers.tmGetTicksPerSecond + t -
      (t + BitVec.ofNat 32 k)) :
    d.toInt = 100 * ((maxAge.toNat : ℤ) - messageAge.toNat) - k := by
  have hage := messageAge.isLt
  have hint : d = BitVec.ofInt 32 (100 * ((maxAge.toNat : ℤ) - messageAge.toNat) - k) := by
    have hmax : BitVec.ofInt 32 (maxAge.toNat : ℤ) = maxAge := by
      rw [BitVec.ofInt_natCast, BitVec.ofNat_toNat, BitVec.setWidth_eq]
    have hmsg : BitVec.ofInt 32 (messageAge.toNat : ℤ) = messageAge.setWidth 32 := by
      rw [BitVec.ofInt_natCast, BitVec.ofNat_toNat]
    have hticks : BitVec.ofInt 32 100 = Timers.tmGetTicksPerSecond := rfl
    rw [sub_eq_add_neg, sub_eq_add_neg, BitVec.ofInt_add, BitVec.ofInt_mul, BitVec.ofInt_add,
      BitVec.ofInt_neg, BitVec.ofInt_neg, hmax, hmsg, hticks, BitVec.ofInt_natCast, hd]
    ring
  rw [hint, BitVec.toInt_ofInt, Int.bmod_eq_of_le]
  · omega
  · omega

theorem remaining_toNat {maxAge t d : U32} {messageAge : U16} {k : ℕ} (hm : maxAge.toNat < 2 ^ 16)
    (hk : k < 2 ^ 30) (hd : d = (maxAge - messageAge.setWidth 32) * Timers.tmGetTicksPerSecond + t -
      (t + BitVec.ofNat 32 k)) :
    (if d.toInt < 0 then 0 else d).toNat = 100 * (maxAge.toNat - messageAge.toNat) - k := by
  have hint := remaining_toInt hm hk hd
  split_ifs with hneg
  · change 0 = _
    omega
  · have hnat : (d.toNat : ℤ) = d.toInt := by
      have hlt := d.isLt
      rw [BitVec.toInt_eq_toNat_cond] at hneg ⊢
      split_ifs at hneg ⊢ <;> omega
    omega

theorem age_toNat (maxAge rmt : U32) :
    ((maxAge - rmt / Timers.tmGetTicksPerSecond + messageAgeIncr).setWidth 16).toNat =
      (maxAge.toNat + 2 ^ 32 - rmt.toNat / 100 + 1) % 2 ^ 16 := by
  have hdiv : (rmt / Timers.tmGetTicksPerSecond).toNat = rmt.toNat / 100 := BitVec.toNat_udiv
  have hone : messageAgeIncr.toNat = 1 := rfl
  have hr := rmt.isLt
  rw [BitVec.toNat_setWidth, BitVec.toNat_add, BitVec.toNat_sub, hdiv, hone]
  omega

end Arithmetic

section Age

variable [Add κ] [LT κ] [DecidableLT κ] [OfNat κ 0] [OfNat κ 20000]
variable {e : Endian} {stackByte : U8} {W : Wire κ Φ} {ls : List (Label κ Φ)}
variable {w w₁ w' : World κ TimerMgr Φ} {i : TimerId} {bpdu : StpBpdu κ} {v : U16}

variable (e stackByte W) in
/-- The BPDU was recorded in state `w₁` at the port with message age timer `i`, `ls`
has happened since, and the port is the root port, with the `max_age` of the BPDU. -/
structure Relaying (i : TimerId) (bpdu : StpBpdu κ) (w₁ : World κ TimerMgr Φ)
    (ls : List (Label κ Φ)) (w : World κ TimerMgr Φ) : Prop where
  recorded : ∃ secs w₂, Did e stackByte W (.record (some i) secs bpdu) w₁ w₂ ∧
    Trace (Did e stackByte W) w₂ ls w
  latest : ∀ l ∈ ls, ¬l.RecordsOn i
  relayed : stpIsRootBridge w.br = false
  root : ∃ root, stpGetPort w.br (w.br.rootPort.setWidth 16) = some root ∧
    root.messageAgeTimer = some i
  maxAge : w.br.maxAge.toNat = bpdu.maxAge.toNat

theorem Relaying.age_eq (h : Relaying e stackByte W i bpdu w₁ ls w) (hw₁ : Sound w₁)
    (hm : w₁.br.maxAge.toNat < 2 ^ 16) (hk : ticks ls < 2 ^ 30)
    (hage : HasAge (timerHost e stackByte) w v) :
    ∃ pending, Timers.timerPending w.env (some i) = some pending ∧ v.toNat =
      (bpdu.maxAge.toNat + 2 ^ 32 - (if pending then
        100 * (w₁.br.maxAge.toNat - bpdu.messageAge.toNat) - ticks ls else 0) / 100 + 1)
          % 2 ^ 16 := by
  obtain ⟨secs, w₂, hrecord, htrace⟩ := h.recorded
  obtain ⟨rfl, hexpires, hclk⟩ := expires_of_record hrecord hw₁
  have hexp := htrace.labels.invariant (I := Expires i _)
    (fun l w w' hl hw ↦ hl.1.expires (h.latest l hl.2) hw) hexpires
  have hnow : w.env.clk.tick = w₁.env.clk.tick + BitVec.ofNat 32 (ticks ls) := by
    rw [Timers.run_clk_tick hexpires.sound.wf (Trace.run htrace), hclk]
    rfl
  obtain ⟨root, hroot, hi⟩ := h.root
  obtain ⟨t, ht, htexp⟩ := hexp.exp root (List.mem_of_find?_eq_some hroot) hi
  cases hage with
  | root hr => exact absurd (h.relayed.symm.trans hr) Bool.false_ne_true
  | relayed root' rmt _ hroot' hrmt =>
    obtain rfl := Option.some.inj (hroot.symm.trans hroot')
    refine ⟨t.isRunning, by rw [Timers.timerPending, ht]; rfl, ?_⟩
    have hrem : rmt.toNat = if t.isRunning then
        100 * (w₁.br.maxAge.toNat - bpdu.messageAge.toNat) - ticks ls else 0 := by
      obtain ⟨⟨_, neg⟩, hread, rfl⟩ := Option.map_eq_some_iff.mp hrmt
      rw [hi, Timers.timerGetRemainingTime, ht] at hread
      dsimp only at hread
      have hsub := remaining_toNat hm hk (congrArg₂ (· - ·) htexp hnow)
      cases hrun : t.isRunning with
      | false =>
        rw [hrun] at hread
        obtain rfl := (Prod.mk.inj (Option.some.inj hread)).1
        rfl
      | true =>
        simp only [hrun, Bool.not_true, Bool.false_eq_true, if_false, if_true] at hread ⊢
        rw [← hsub]
        split_ifs at hread with hneg
        · obtain rfl := (Prod.mk.inj (Option.some.inj hread)).1
          rw [if_pos hneg]
        · obtain rfl := (Prod.mk.inj (Option.some.inj hread)).1
          rw [if_neg hneg]
    rw [age_toNat, h.maxAge, hrem]

theorem Did.attempt {hold : TimerRef} {a : Attempt Φ}
    (h : Did e stackByte W (.transmit hold a) w w') :
    ∃ p q, w.br.portList[p]? = some q ∧ Attempts (timerHost e stackByte) W p q w a w' := by
  cases h with
  | works h =>
    cases h with
    | deed h =>
      cases h with
      | transmit _ _ p q a hq ha => exact ⟨p, q, hq, ha⟩

theorem Relaying.below (h : Relaying e stackByte W i bpdu w₁ ls w) :
    v.setWidth 32 < w.br.maxAge ↔ v.toNat < bpdu.maxAge.toNat := by
  have hlt := v.isLt
  rw [BitVec.lt_def, BitVec.toNat_setWidth, h.maxAge, Nat.mod_eq_of_lt (by omega)]

theorem Relaying.relays {hold : TimerRef} {a : Attempt Φ}
    (h : Relaying e stackByte W i bpdu w₁ ls w) (hw₁ : Sound w₁)
    (hd : Did e stackByte W (.transmit hold a) w w')
    (hsane : bpdu.messageAge.toNat < bpdu.maxAge.toNat)
    (hsame : w₁.br.maxAge.toNat = bpdu.maxAge.toNat) (hfits : bpdu.maxAge.toNat + 1 < 2 ^ 16)
    (hk : ticks ls < 2 ^ 30)
    (hpending : relayedAge bpdu ls < bpdu.maxAge.toNat →
      Timers.timerPending w.env (some i) = some true) :
    (Label.transmit hold a).Relays W (relayedAge bpdu ls) bpdu.maxAge.toNat := by
  -- the age that is computed is the right one, or both are too old
  have hage : ∀ {v : U16}, HasAge (timerHost e stackByte) w v →
      v.toNat = relayedAge bpdu ls ∨ bpdu.maxAge.toNat < v.toNat ∧
        bpdu.maxAge.toNat ≤ relayedAge bpdu ls := by
    intro v hv
    obtain ⟨pending, hp, hv⟩ := h.age_eq hw₁ (by omega) hk hv
    rw [hsame] at hv
    unfold relayedAge at hpending ⊢
    cases pending with
    | true =>
      rw [if_pos rfl] at hv
      omega
    | false =>
      rw [if_neg Bool.false_ne_true] at hv
      by_cases hlt : bpdu.messageAge.toNat + 1 + (ticks ls + 99) / 100 < bpdu.maxAge.toNat
      · exact absurd (hp.symm.trans (hpending hlt)) (by simp)
      · omega
  obtain ⟨p, q, -, hattempt⟩ := hd.attempt
  cases hattempt with
  | held _ => exact trivial
  | aged v _ hv hold =>
    rw [h.below] at hold
    have hage := hage hv
    change bpdu.maxAge.toNat ≤ relayedAge bpdu ls
    omega
  | sent v t env _ hv hlt _ _ =>
    rw [h.below] at hlt
    have hage := hage hv
    exact ⟨by omega, by omega, t.ifPhysAddress, _, rfl, rfl⟩
  | dropped v env _ hv hlt _ _ =>
    rw [h.below] at hlt
    have hage := hage hv
    exact ⟨by omega, by omega⟩

theorem Relaying.not_relays {hold : TimerRef} {a : Attempt Φ}
    (h : Relaying e stackByte W i bpdu w₁ ls w) (hw₁ : Sound w₁)
    (hd : Did e stackByte W (.transmit hold a) w w') (ha : a ≠ .held)
    (hm : w₁.br.maxAge.toNat < 2 ^ 16) (hyoung : relayedAge bpdu ls < bpdu.maxAge.toNat)
    (hbad : ¬(w₁.br.maxAge.toNat = bpdu.maxAge.toNat ∧
      Timers.timerPending w.env (some i) = some true)) :
    ¬(Label.transmit hold a).Relays W (relayedAge bpdu ls) bpdu.maxAge.toNat := by
  have hmax := bpdu.maxAge.isLt
  have hage : ∀ {v : U16}, HasAge (timerHost e stackByte) w v → v.toNat ≠ relayedAge bpdu ls := by
    intro v hv
    have hk : ticks ls < 2 ^ 30 := by
      unfold relayedAge at hyoung
      omega
    obtain ⟨pending, hp, hv⟩ := h.age_eq hw₁ hm hk hv
    unfold relayedAge at hyoung ⊢
    cases pending with
    | true =>
      have hne : w₁.br.maxAge.toNat ≠ bpdu.maxAge.toNat := fun heq ↦ hbad ⟨heq, hp⟩
      rw [if_pos rfl] at hv
      omega
    | false =>
      rw [if_neg Bool.false_ne_true] at hv
      omega
  obtain ⟨p, q, -, hattempt⟩ := hd.attempt
  intro hrelays
  cases hattempt with
  | held _ => exact ha rfl
  | aged v _ hv _ => exact absurd hyoung (Nat.not_lt.mpr hrelays)
  | sent v t env _ hv _ _ _ => exact hage hv hrelays.1
  | dropped v env _ hv _ _ _ => exact hage hv hrelays.1

/-- In every run of an instance, a BPDU that was recorded under its own `max_age` is
relayed at the age that it came with, one more, and the seconds since. -/
theorem relayed_age_tracks {vlanId : U16} {addr : MacAddress} {portCdb : Vector PortT maxPorts}
    {env : TimerMgr} (henv : Timers.Wf env) :
    (∀ evs w, Run (timedStep e stackByte W) Permits
        (newInstance (timerHost e stackByte) vlanId addr [] portCdb env) evs w →
      ∃ ls, Trace (Did e stackByte W)
        (newInstance (timerHost e stackByte) vlanId addr [] portCdb env) ls w) ∧
    ∀ past w₁ i bpdu ls w hold a w', Trace (Did e stackByte W)
        (newInstance (timerHost e stackByte) vlanId addr [] portCdb env) past w₁ →
      Relaying e stackByte W i bpdu w₁ ls w → Did e stackByte W (.transmit hold a) w w' →
      bpdu.messageAge.toNat < bpdu.maxAge.toNat →
      (w₁.br.maxAge.toNat = bpdu.maxAge.toNat → bpdu.maxAge.toNat + 1 < 2 ^ 16 →
        ticks ls < 2 ^ 30 →
        (relayedAge bpdu ls < bpdu.maxAge.toNat →
          Timers.timerPending w.env (some i) = some true) →
        (Label.transmit hold a).Relays W (relayedAge bpdu ls) bpdu.maxAge.toNat) ∧
      (w₁.br.maxAge.toNat < 2 ^ 16 → a ≠ .held → relayedAge bpdu ls < bpdu.maxAge.toNat →
        ¬(w₁.br.maxAge.toNat = bpdu.maxAge.toNat ∧
          Timers.timerPending w.env (some i) = some true) →
        ¬(Label.transmit hold a).Relays W (relayedAge bpdu ls) bpdu.maxAge.toNat) := by
  have hstart : Sound (κ := κ) (Φ := Φ)
      (newInstance (timerHost e stackByte) vlanId addr [] portCdb env) :=
    newInstance_sound vlanId addr portCdb henv
  refine ⟨fun evs w hrun ↦ timedRun_trace hstart hrun, ?_⟩
  intro past w₁ i bpdu ls w hold a w' hpast hrelaying hd hsane
  have hw₁ := hpast.invariant (fun _ _ _ hd hw ↦ hd.sound hw) hstart
  refine ⟨fun hsame hfits hk hpending ↦ ?_, fun hm ha hyoung hbad ↦ ?_⟩
  · exact hrelaying.relays hw₁ hd hsane hsame hfits hk hpending
  · exact hrelaying.not_relays hw₁ hd ha hm hyoung hbad

end Age

/-- The hello of the root is recorded, the election is held, and the second port
transmits. -/
theorem relayed_age_tracks_hello :
    ∃ past w₁ i ls w hold a w',
      Trace (Did .little 0 (frames .little)) leafStart past w₁ ∧
      Relaying .little 0 (frames .little) i rootHello w₁ ls w ∧
      Did .little 0 (frames .little) (.transmit hold a) w w' ∧ w.sent.length < w'.sent.length ∧
      (Label.transmit hold a).Relays (frames .little) 1 20 := by
  have hcheck : ((leafRun ((leafActions.take 4).map .act)).any fun w₁ ↦
      w₁.br.portList[0]?.any fun q ↦ q.messageAgeTimer.any fun i ↦
      ((timerHost .little 0).modTimer (some i)
        (w₁.br.maxAge - rootHello.messageAge.setWidth 32) w₁.env).any fun env ↦
      (stpConfigurationUpdate .little (w₁.modifyPort 0 (recordConfig rootHello)).br).any fun br ↦
      (stpGetPort br (br.rootPort.setWidth 16)).any fun root ↦
      (stpTransmitConfig (timerHost .little 0) (frames .little) 1
        { w₁ with br := br, env := env }).any fun x ↦
        stpIsRootBridge br = false ∧ root.messageAgeTimer = some i ∧ br.maxAge.toNat = 20 ∧
        w₁.br.maxAge.toNat = 20 ∧ Timers.timerPending env (some i) = some true ∧
        w₁.sent.length < x.2.sent.length) = true := by
    decide +kernel
  simp only [Option.any_eq_true, decide_eq_true_eq] at hcheck
  obtain ⟨w₁, hw₁, q, hq, i, hi, env, henv, br, hbr, root, hroot, ⟨_, w'⟩, hw', hrelayed, hir, hmax,
    hmax₁, hpending, hsent⟩ := hcheck
  have hstart : Sound leafStart := newInstance_sound 1 (macAddress 0 0 0 0 0 2) _ Timers.wf_init
  obtain ⟨past, hpast⟩ := timedRun_trace hstart ((run_of_leafRun hw₁).mono fun _ _ hc ↦ hc.1)
  have hrecord : Did .little 0 (frames .little) (.record (some i)
      (w₁.br.maxAge - rootHello.messageAge.setWidth 32) rootHello) w₁
      { w₁.modifyPort 0 (recordConfig rootHello) with env := env } :=
    hi ▸ .works (.deed (.record w₁ 0 q rootHello env hq trivial (hi.symm ▸ henv)))
  have helect : Did .little 0 (frames .little) .assign
      { w₁.modifyPort 0 (recordConfig rootHello) with env := env }
      { w₁ with br := br, env := env } :=
    .works (.deed (.elect _ br hbr))
  have hlatest : ∀ l ∈ [Label.assign (κ := Int32) (Φ := List U8)], ¬l.RecordsOn i := by
    intro l hl
    obtain rfl := List.mem_singleton.mp hl
    exact id
  have hrelaying : Relaying .little 0 (frames .little) i rootHello w₁ [.assign]
      { w₁ with br := br, env := env } :=
    ⟨⟨_, _, hrecord, .one helect⟩, hlatest, hrelayed, ⟨root, hroot, hir⟩, hmax⟩
  obtain ⟨q', a, hq', ha⟩ := stpTransmitConfig_attempts 1 _ _ hw'
  have hd : Did .little 0 (frames .little) (.transmit q'.holdTimer a)
      { w₁ with br := br, env := env } w' := .works (.deed (.transmit _ _ 1 q' a hq' ha))
  refine ⟨past, w₁, i, _, _, _, a, w', hpast, hrelaying, hd, hsent, ?_⟩
  exact ((relayed_age_tracks Timers.wf_init).2 past w₁ i rootHello _ _ _ a w' hpast hrelaying hd
    (by decide)).1 hmax₁ (by decide) (by decide) fun _ ↦ hpending

def twinPorts : List (Action Int32 TimerMgr (List U8)) :=
  [.createPort (macAddress 0 0 0 0 0 2) 1, .createPort (macAddress 0 0 0 0 0 2) 2,
   .event (.setOperStatus 0 .up), .event (.setOperStatus 1 .up),
   .event (.setState true)]

/-- The bridge has heard of no other `max_age` than its own, 20 s, when the hello of
a root with `max_age` 30 s comes in, and passes it on at once, at age 11. -/
theorem relayed_age_off_by_difference :
    ∃ w w' smac bpdu, Run (timedStep .little 0 (frames .little)) Permits leafStart
        (twinPorts.map .act) w ∧
      timedStep .little 0 (frames .little) w (.act (.event (.receive 1
        ((frames .little).config (macAddress 0 0 0 0 0 1) { rootHello with maxAge := 30 })))) =
          some w' ∧
      w.br.maxAge = 20 ∧ w'.br.maxAge = 30 ∧ w'.br.rootPort = 1 ∧ w.sent = [] ∧
      (2, (frames .little).config smac bpdu) ∈ w'.sent ∧ bpdu.messageAge = 11 := by
  have hcheck : ((leafRun (twinPorts.map .act)).any fun w ↦
      (timedStep .little 0 (frames .little) w (.act (.event (.receive 1
        ((frames .little).config (macAddress 0 0 0 0 0 1) { rootHello with maxAge := 30 }))))).any
          fun w' ↦
      w'.br.portList[1]?.any fun q ↦ w.br.maxAge = 20 ∧ w'.br.maxAge = 30 ∧ w'.br.rootPort = 1 ∧
        w.sent = [] ∧ (2, (frames .little).config (macAddress 0 0 0 0 0 2)
          (configBpdu 0 w'.br q 11)) ∈ w'.sent) = true := by
    decide +kernel
  simp only [Option.any_eq_true, decide_eq_true_eq] at hcheck
  obtain ⟨w, hw, w', hw', q, -, hmax, hmax', hroot, hnone, hsent⟩ := hcheck
  have hrun := (run_of_leafRun hw).mono fun _ _ hc ↦ hc.1
  exact ⟨w, w', _, _, hrun, hw', hmax, hmax', hroot, hnone, hsent, rfl⟩

end Layer3Switch.Stp
