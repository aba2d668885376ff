import Layer3Switch.Timers.Cancel
import Layer3Switch.Timers.Trajectory

namespace Layer3Switch.Timers

open Lib Lib.Rbtree Function

section Tick

variable {s s' : TimerMgr} {i : TimerId} {w u v : Wheel} {n m : AppTimer} {exp : U32}

/-- Timer `i` runs towards `exp`, with its one node `n` in wheel `w`. -/
structure Track (s : TimerMgr) (i : TimerId) (exp : U32) (w : Wheel) (n : AppTimer) : Prop where
  holds : Holds s i w n
  timer : ∃ p, s.timers i = some p ∧ p.isRunning = true ∧ p.wheel = some w ∧ p.exp = exp

theorem Track.sameFor (ht : Track s i exp w n) (h : SameFor i s s') : Track s' i exp w n :=
  ⟨h.holds ht.holds, h.timer ▸ ht.timer⟩

def Arrived (i : TimerId) (exp : U32) (xs : List AppTimer) (n : AppTimer)
    (o : Option (Wheel × AppTimer)) (s : TimerMgr) : Prop :=
  match o with
  | some (u, m) => Track s i exp u m ∧ s.expired i = xs
  | none => Unheld s i ∧ s.expired i = xs ++ [{ n with ctime := 0 }]

theorem Arrived.sameFor {xs : List AppTimer} {o : Option (Wheel × AppTimer)}
    (ha : Arrived i exp xs n o s) (h : SameFor i s s') : Arrived i exp xs n o s' := by
  cases o with
  | none => exact ⟨h.unheld ha.1, h.expired.trans ha.2⟩
  | some um => exact ⟨ha.1.sameFor h, h.expired.trans ha.2⟩

theorem Track.processTimer (ht : Track s i exp w n) (hs : Wf s)
    (h : processTimer w n s = some s') :
    Arrived i exp (s.expired i) n (dueTo s.clk w n) s' := by
  obtain ⟨p, hp, hrun, hw, rfl⟩ := ht.timer
  have hni := ht.holds.timer
  subst hni
  obtain ⟨q, v, r, hq, hv, hr, hcase⟩ := processTimer_cases hs.wheels_nodup ht.holds.mem h
  obtain rfl := Option.some.inj (hp.symm.trans hq)
  obtain rfl := Option.some.inj (hw.symm.trans hv)
  rcases hcase with ⟨hz, rfl⟩ | ⟨u, t, hf, rfl⟩
  · rw [dueTo, findTmrSlot_eq_none.mpr hz]
    refine ⟨ht.holds.erase hs hr, ?_⟩
    simp [TimerMgr.expired, List.filter_append]
  · rw [dueTo, hf]
    exact ⟨⟨holds_insert (ht.holds.erase hs hr) rfl rfl, _, update_self _ _ _, rfl, rfl, rfl⟩, rfl⟩

theorem Track.serviceWheel_of_not_due (ht : Track s i exp w n) (hs : Wf s)
    (hno : v = w → n.rt ≠ s.clk.get v) (h : serviceWheel v s = some s') :
    Track s' i exp w n ∧ s'.expired i = s.expired i := by
  refine serviceWheel_invariant (I := fun s₁ ↦ Track s₁ i exp w n ∧ s₁.expired i = s.expired i) ?_
    hs ⟨ht, rfl⟩ h
  rintro s₁ m s₂ hs₁ hc₁ ⟨ht₁, hx₁⟩ hm hrt h₁
  have hmi : m.timer ≠ i := by
    intro hmi
    obtain ⟨rfl, rfl⟩ := ht₁.holds.only v m hm hmi
    exact hno rfl hrt
  have hsame := processTimer_sameFor hs₁ hm hmi h₁
  exact ⟨ht₁.sameFor hsame, hsame.expired.trans hx₁⟩

theorem Unheld.serviceWheel (hu : Unheld s i) (hs : Wf s) (h : serviceWheel v s = some s') :
    Unheld s' i ∧ s'.expired i = s.expired i := by
  refine serviceWheel_invariant (I := fun s₁ ↦ Unheld s₁ i ∧ s₁.expired i = s.expired i) ?_
    hs ⟨hu, rfl⟩ h
  rintro s₁ m s₂ hs₁ hc₁ ⟨hu₁, hx₁⟩ hm hrt h₁
  have hsame := processTimer_sameFor hs₁ hm (hu₁ v m hm) h₁
  exact ⟨hsame.unheld hu₁, hsame.expired.trans hx₁⟩

theorem dueTo_rt_ne {c : Clock} (h : dueTo c w n = some (u, m)) : m.rt ≠ c.get u := by
  obtain ⟨⟨u', t⟩, hf, he⟩ := Option.map_eq_some_iff.mp h
  obtain ⟨rfl, rfl⟩ := Prod.mk.inj he
  simpa using (findTmrSlot_spec hf).2

theorem Arrived.serviceWheel {xs : List AppTimer} (ha : Arrived i exp xs n (dueTo s.clk w n) s)
    (hs : Wf s) (h : serviceWheel v s = some s') : Arrived i exp xs n (dueTo s.clk w n) s' := by
  cases ho : dueTo s.clk w n with
  | none =>
    rw [ho] at ha
    obtain ⟨hu, hx⟩ := ha.1.serviceWheel hs h
    exact ⟨hu, hx.trans ha.2⟩
  | some um =>
    rw [ho] at ha
    obtain ⟨ht, hx⟩ := ha.1.serviceWheel_of_not_due hs (fun hv ↦ hv ▸ dueTo_rt_ne ho) h
    exact ⟨ht, hx.trans ha.2⟩

theorem serviceWheel_done (hs : Wf s) (hserve : s.clk.serves w = true)
    (h : serviceWheel w s = some s') : ∀ m ∈ s'.root w, m.rt ≠ s.clk.get w := by
  unfold Timers.serviceWheel at h
  rw [if_pos hserve] at h
  obtain ⟨⟨s₁, k⟩, h₁, rfl⟩ := Option.map_eq_some_iff.mp h
  exact processTimers_done hs h₁

theorem Track.serviceWheel_of_due (ht : Track s i exp w n) (hs : Wf s)
    (hserve : s.clk.serves w = true) (hdue : n.rt = s.clk.get w)
    (h : serviceWheel w s = some s') : Arrived i exp (s.expired i) n (dueTo s.clk w n) s' := by
  have hor : (Track s' i exp w n ∧ s'.expired i = s.expired i) ∨
      Arrived i exp (s.expired i) n (dueTo s.clk w n) s' := by
    refine serviceWheel_invariant (I := fun s₁ ↦ (Track s₁ i exp w n ∧ s₁.expired i = s.expired i) ∨
      Arrived i exp (s.expired i) n (dueTo s.clk w n) s₁) ?_ hs (.inl ⟨ht, rfl⟩) h
    intro s₁ m s₂ hs₁ hc₁ hor hm hrt h₁
    rcases hor with ⟨ht₁, hx₁⟩ | ha
    · by_cases hmi : m.timer = i
      · obtain ⟨-, rfl⟩ := ht₁.holds.only w m hm hmi
        have ha := ht₁.processTimer hs₁ h₁
        rw [hx₁, hc₁] at ha
        exact .inr ha
      · have hsame := processTimer_sameFor hs₁ hm hmi h₁
        exact .inl ⟨ht₁.sameFor hsame, hsame.expired.trans hx₁⟩
    · refine .inr (ha.sameFor (processTimer_sameFor hs₁ hm (fun hmi ↦ ?_) h₁))
      cases ho : dueTo s.clk w n with
      | none =>
        rw [ho] at ha
        exact ha.1 w m hm hmi
      | some um =>
        rw [ho] at ha
        obtain ⟨hwu, rfl⟩ := ha.1.holds.only w m hm hmi
        exact dueTo_rt_ne ho (hwu ▸ hrt)
  rcases hor with ⟨ht', -⟩ | ha
  · exact absurd hdue (serviceWheel_done hs hserve h n ht'.holds.mem)
  · exact ha

theorem Track.updateTimes (ht : Track s i exp w n) (hs : Wf s) (h : updateTimes s = some s') :
    Arrived i exp (s.expired i) n (nextPlace s.clk.next w n) s' := by
  rw [updateTimes_eq hs] at h
  have hs₀ := hs.clk s.clk.next
  have ht₀ : Track { s with clk := s.clk.next } i exp w n := ⟨⟨ht.holds.mem, ht.holds.timer,
    ht.holds.only⟩, ht.timer⟩
  have hx₀ : TimerMgr.expired { s with clk := s.clk.next } i = s.expired i := rfl
  have hc₀ : TimerMgr.clk { s with clk := s.clk.next } = s.clk.next := rfl
  generalize { s with clk := s.clk.next } = s₀ at *
  rw [← hc₀, ← hx₀, nextPlace]
  -- `d` tells whether the pass over the node's own wheel is behind us
  have hpass (v : Wheel) {s₁ s₂ : TimerMgr} {d : Prop} (hs₁ : Wf s₁) (hc : s₁.clk = s₀.clk)
      (hd : (¬d ∧ Track s₁ i exp w n ∧ s₁.expired i = s₀.expired i) ∨
        (d ∧ Arrived i exp (s₀.expired i) n (dueTo s₀.clk w n) s₁))
      (h₁ : serviceWheel v s₁ = some s₂) :
      let d' := d ∨ v = w ∧ s₀.clk.serves w = true ∧ n.rt = s₀.clk.get w
      (¬d' ∧ Track s₂ i exp w n ∧ s₂.expired i = s₀.expired i) ∨
        (d' ∧ Arrived i exp (s₀.expired i) n (dueTo s₀.clk w n) s₂) := by
    intro d'
    rcases hd with ⟨hd, ht₁, hx₁⟩ | ⟨hd, ha⟩
    · by_cases hv : v = w ∧ s₀.clk.serves w = true ∧ n.rt = s₀.clk.get w
      · obtain ⟨rfl, hserve, hdue⟩ := hv
        have ha := ht₁.serviceWheel_of_due hs₁ (hc ▸ hserve) (hc ▸ hdue) h₁
        rw [hx₁, hc] at ha
        exact .inr ⟨.inr ⟨rfl, hserve, hdue⟩, ha⟩
      · refine .inl ⟨fun hd' ↦ hd'.elim hd hv, ?_⟩
        by_cases hserve : s₁.clk.serves v = true
        · obtain ⟨ht₂, hx₂⟩ := ht₁.serviceWheel_of_not_due hs₁ (fun hvw hrt ↦ hv ⟨hvw,
            hvw ▸ hc ▸ hserve, hvw ▸ hc ▸ hrt⟩) h₁
          exact ⟨ht₂, hx₂.trans hx₁⟩
        · unfold Timers.serviceWheel at h₁
          rw [if_neg hserve] at h₁
          exact Option.some.inj h₁ ▸ ⟨ht₁, hx₁⟩
    · rw [← hc] at ha
      have ha' := ha.serviceWheel hs₁ h₁
      rw [hc] at ha'
      exact .inr ⟨.inl hd, ha'⟩
  obtain ⟨s₁, h₁, h⟩ := Option.bind_eq_some_iff.mp h
  obtain ⟨s₂, h₂, h⟩ := Option.bind_eq_some_iff.mp h
  obtain ⟨s₃, h₃, h⟩ := Option.bind_eq_some_iff.mp h
  obtain ⟨hs₁, hc₁⟩ := hs₀.serviceWheel h₁
  obtain ⟨hs₂, hc₂⟩ := hs₁.serviceWheel h₂
  obtain ⟨hs₃, hc₃⟩ := hs₂.serviceWheel h₃
  have hd₀ : (¬False ∧ Track s₀ i exp w n ∧ s₀.expired i = s₀.expired i) ∨
      (False ∧ Arrived i exp (s₀.expired i) n (dueTo s₀.clk w n) s₀) :=
    .inl ⟨id, ht₀, rfl⟩
  have hd₁ := hpass .tick hs₀ rfl hd₀ h₁
  have hd₂ := hpass .sec hs₁ hc₁ hd₁ h₂
  have hd₃ := hpass .min hs₂ (hc₂.trans hc₁) hd₂ h₃
  have hd₄ := hpass .hrs hs₃ (hc₃.trans (hc₂.trans hc₁)) hd₃ h
  rcases hd₄ with ⟨hno, ht', hx'⟩ | ⟨hyes, ha⟩
  · rw [if_neg fun hdue ↦ hno (by cases w <;> simp [hdue])]
    exact ⟨ht', hx'⟩
  · rw [if_pos]
    · exact ha
    · rcases hyes with (((hf | hv) | hv) | hv) | hv
      · exact hf.elim
      all_goals exact hv.2

end Tick

end Layer3Switch.Timers
