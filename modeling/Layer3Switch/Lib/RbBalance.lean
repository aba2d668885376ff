import Layer3Switch.Lib.Rbtree

namespace Layer3Switch.Lib.Rbtree

variable {α κ : Type}

/-- The red-black discipline, with the root's colour and the black height. -/
inductive Balanced : Color → ℕ → RbNode α → Prop
  | nil : Balanced .black 0 .nil
  | red {n : ℕ} {l r : RbNode α} {a : α} :
      Balanced .black n l → Balanced .black n r → Balanced .red n (.node .red l a r)
  | black {c d : Color} {n : ℕ} {l r : RbNode α} {a : α} :
      Balanced c n l → Balanced d n r → Balanced .black (n + 1) (.node .black l a r)

/-- Paths whose hole takes a subtree of the given colour and black height. -/
inductive Hole : Color → ℕ → List (Frame α) → Prop
  | top (n : ℕ) : Hole .black n []
  | redLeft {n : ℕ} {a : α} {r : RbNode α} {up : List (Frame α)} :
      Balanced .black n r → Hole .red n up → Hole .black n (.left .red a r :: up)
  | redRight {n : ℕ} {a : α} {l : RbNode α} {up : List (Frame α)} :
      Balanced .black n l → Hole .red n up → Hole .black n (.right .red l a :: up)
  | blackLeft {c d : Color} {n : ℕ} {a : α} {r : RbNode α} {up : List (Frame α)} :
      Balanced d n r → Hole .black (n + 1) up → Hole c n (.left .black a r :: up)
  | blackRight {c d : Color} {n : ℕ} {a : α} {l : RbNode α} {up : List (Frame α)} :
      Balanced d n l → Hole .black (n + 1) up → Hole c n (.right .black l a :: up)

def IsRb (t : RbNode α) : Prop := ∃ n, Balanced .black n t

theorem Balanced.setBlack {c : Color} {n : ℕ} {t : RbNode α} (h : Balanced c n t) :
    IsRb t.setBlack := by
  cases h with
  | nil => exact ⟨0, .nil⟩
  | @red n _ _ _ hl hr => exact ⟨n + 1, .black hl hr⟩
  | @black _ _ n _ _ _ hl hr => exact ⟨n + 1, .black hl hr⟩

theorem IsRb.setBlack {t : RbNode α} (h : IsRb t) : IsRb t.setBlack := h.choose_spec.setBlack

theorem Balanced.black_of_not_red {c : Color} {n : ℕ} {t : RbNode α} (h : Balanced c n t)
    (ht : t.isRed = false) : Balanced .black n t := by
  cases h with
  | nil => exact .nil
  | red hl hr => simp [RbNode.isRed] at ht
  | black hl hr => exact .black hl hr

theorem Balanced.setBlack_of_red {c : Color} {n : ℕ} {t : RbNode α} (h : Balanced c n t)
    (ht : t.isRed = true) : Balanced .black (n + 1) t.setBlack := by
  cases h with
  | nil => simp [RbNode.isRed] at ht
  | red hl hr => exact .black hl hr
  | black hl hr => simp [RbNode.isRed] at ht

theorem Hole.zip {c : Color} {n : ℕ} {t : RbNode α} {up : List (Frame α)}
    (hu : Hole c n up) (ht : Balanced c n t) : IsRb (zip t up) := by
  induction hu generalizing t with
  | top n => exact ⟨n, ht⟩
  | redLeft hr _ ih => exact ih (.red ht hr)
  | redRight hl _ ih => exact ih (.red hl ht)
  | blackLeft hr _ ih => exact ih (.black ht hr)
  | blackRight hl _ ih => exact ih (.black hl ht)

theorem rbInsertColor_of_black {t : RbNode α} {f : Frame α} {up : List (Frame α)}
    (hf : f.isRed = false) : rbInsertColor t (f :: up) = some (zip t (f :: up)).setBlack := by
  cases up with
  | nil => cases f <;> simp [rbInsertColor, hf, zip]
  | cons g up => simp [rbInsertColor, hf]

theorem rbInsertColor_isRb {n : ℕ} {t : RbNode α} {up : List (Frame α)}
    (ht : Balanced .red n t) (hu : Hole .black n up) :
    ∃ t', rbInsertColor t up = some t' ∧ IsRb t' := by
  induction hk : up.length using Nat.strong_induction_on generalizing n t up with
  | _ k ih =>
    cases hu with
    | top => exact ⟨_, rfl, ht.setBlack⟩
    | blackLeft hr hu =>
      exact ⟨_, rbInsertColor_of_black rfl, ((Hole.blackLeft hr hu).zip ht).setBlack⟩
    | blackRight hl hu =>
      exact ⟨_, rbInsertColor_of_black rfl, ((Hole.blackRight hl hu).zip ht).setBlack⟩
    | @redLeft _ p s _ hs hu =>
      cases hu with
      | @blackLeft _ _ _ q u up hq hu =>
        cases hred : u.isRed with
        | true =>
          have hn := Balanced.red (a := q) (.black (a := p) ht hs) (hq.setBlack_of_red hred)
          obtain ⟨t', h, ht'⟩ := ih up.length (by simp at hk; omega) hn hu rfl
          exact ⟨t', by simpa [rbInsertColor, Frame.isRed, hred] using h, ht'⟩
        | false =>
          have hq' := hq.black_of_not_red hred
          exact ⟨_, by simp [rbInsertColor, Frame.isRed, hred]; rfl,
            (hu.zip (.black ht (.red hs hq'))).setBlack⟩
      | @blackRight _ _ _ q u up hq hu =>
        cases hred : u.isRed with
        | true =>
          have hn := Balanced.red (a := q) (hq.setBlack_of_red hred) (.black (a := p) ht hs)
          obtain ⟨t', h, ht'⟩ := ih up.length (by simp at hk; omega) hn hu rfl
          exact ⟨t', by simpa [rbInsertColor, Frame.isRed, hred] using h, ht'⟩
        | false =>
          have hq' := hq.black_of_not_red hred
          cases ht with
          | red hx hy =>
            exact ⟨_, by simp [rbInsertColor, Frame.isRed, hred]; rfl,
              (hu.zip (.black (.red hq' hx) (.red hy hs))).setBlack⟩
    | @redRight _ p s _ hs hu =>
      cases hu with
      | @blackRight _ _ _ q u up hq hu =>
        cases hred : u.isRed with
        | true =>
          have hn := Balanced.red (a := q) (hq.setBlack_of_red hred) (.black (a := p) hs ht)
          obtain ⟨t', h, ht'⟩ := ih up.length (by simp at hk; omega) hn hu rfl
          exact ⟨t', by simpa [rbInsertColor, Frame.isRed, hred] using h, ht'⟩
        | false =>
          have hq' := hq.black_of_not_red hred
          exact ⟨_, by simp [rbInsertColor, Frame.isRed, hred]; rfl,
            (hu.zip (.black (.red hq' hs) ht)).setBlack⟩
      | @blackLeft _ _ _ q u up hq hu =>
        cases hred : u.isRed with
        | true =>
          have hn := Balanced.red (a := q) (.black (a := p) hs ht) (hq.setBlack_of_red hred)
          obtain ⟨t', h, ht'⟩ := ih up.length (by simp at hk; omega) hn hu rfl
          exact ⟨t', by simpa [rbInsertColor, Frame.isRed, hred] using h, ht'⟩
        | false =>
          have hq' := hq.black_of_not_red hred
          cases ht with
          | red hx hy =>
            exact ⟨_, by simp [rbInsertColor, Frame.isRed, hred]; rfl,
              (hu.zip (.black (.red hs hx) (.red hy hq'))).setBlack⟩

/-- What one round at a black sibling leaves: a subtree of the parent's colour
and height, or one that is a black node short. -/
structure Fixed (c : Color) (n : ℕ) (s : RbNode α) (short : Bool) : Prop where
  isRed : short = true → s.isRed = (c == .red)
  lower : short = true → Balanced .black (n + 1) s.setBlack
  red : short = false → c = .red → Balanced .red (n + 1) s
  black : short = false → c = .black → Balanced .black (n + 2) s

theorem fixed_of_short {c : Color} {n : ℕ} {l r : RbNode α} {a : α}
    (h : Balanced .black (n + 1) (.node .black l a r)) : Fixed c n (.node c l a r) true :=
  ⟨fun _ ↦ by cases c <;> rfl, fun _ ↦ h, nofun, nofun⟩

theorem fixed_of_full {c : Color} {n : ℕ} {l r : RbNode α} {a : α}
    (hl : Balanced .black (n + 1) l) (hr : Balanced .black (n + 1) r) :
    Fixed c n (.node c l a r) false :=
  ⟨nofun, nofun, fun _ hc ↦ hc ▸ .red hl hr, fun _ hc ↦ hc ▸ .black hl hr⟩

theorem Balanced.black_of_short {n : ℕ} {s : RbNode α} (h : Fixed .black n s true) :
    Balanced .black (n + 1) s := by
  have hs := h.lower rfl
  have hr := h.isRed rfl
  cases s with
  | nil => exact hs
  | node c l a r =>
    cases c with
    | red => simp [RbNode.isRed] at hr
    | black => exact hs

theorem fixLeft_fixed (c : Color) {n : ℕ} {t other : RbNode α} (p : α)
    (ht : Balanced .black n t) (ho : Balanced .black (n + 1) other) :
    ∃ s short, fixLeft c t p other = some (s, short) ∧ Fixed c n s short := by
  cases ho with
  | @black d e _ x y o hx hy =>
    cases hyr : y.isRed with
    | true =>
      cases hy with
      | red ha hb =>
        refine ⟨_, _, by simp [fixLeft, hyr]; exact ⟨rfl, rfl⟩, ?_⟩
        exact fixed_of_full (.black ht hx) (.black ha hb)
      | nil | black => simp [RbNode.isRed] at hyr
    | false =>
      have hy' := hy.black_of_not_red hyr
      cases hxr : x.isRed with
      | true =>
        cases hx with
        | @red _ a b m ha hb =>
          refine ⟨.node c (.node .black t p a) m (.node .black b o y), false, ?_,
            fixed_of_full (.black ht ha) (.black hb hy')⟩
          cases hy' <;> simp [fixLeft, RbNode.isRed]
        | nil | black => simp [RbNode.isRed] at hxr
      | false =>
        have hx' := hx.black_of_not_red hxr
        exact ⟨_, _, by simp [fixLeft, hxr, hyr]; exact ⟨rfl, rfl⟩,
          fixed_of_short (.black ht (.red hx' hy'))⟩

theorem fixRight_fixed (c : Color) {n : ℕ} {t other : RbNode α} (p : α)
    (ht : Balanced .black n t) (ho : Balanced .black (n + 1) other) :
    ∃ s short, fixRight c t p other = some (s, short) ∧ Fixed c n s short := by
  cases ho with
  | @black d e _ x y o hx hy =>
    cases hxr : x.isRed with
    | true =>
      cases hx with
      | red ha hb =>
        refine ⟨_, _, by simp [fixRight, hxr]; exact ⟨rfl, rfl⟩, ?_⟩
        exact fixed_of_full (.black ha hb) (.black hy ht)
      | nil | black => simp [RbNode.isRed] at hxr
    | false =>
      have hx' := hx.black_of_not_red hxr
      cases hyr : y.isRed with
      | true =>
        cases hy with
        | @red _ a b m ha hb =>
          refine ⟨.node c (.node .black x o a) m (.node .black b p t), false, ?_,
            fixed_of_full (.black hx' ha) (.black hb ht)⟩
          cases hx' <;> simp [fixRight, RbNode.isRed]
        | nil | black => simp [RbNode.isRed] at hyr
      | false =>
        have hy' := hy.black_of_not_red hyr
        exact ⟨_, _, by simp [fixRight, hxr, hyr]; exact ⟨rfl, rfl⟩,
          fixed_of_short (.black (.red hx' hy') ht)⟩

theorem Hole.any_of_red {n : ℕ} {up : List (Frame α)} (hu : Hole .red n up) (d : Color) :
    Hole d n up := by
  cases hu with
  | blackLeft hr hu => exact .blackLeft hr hu
  | blackRight hl hu => exact .blackRight hl hu

theorem rbEraseColor_of_red {t : RbNode α} (ht : t.isRed = true) {n : ℕ} {up : List (Frame α)}
    (hu : Hole .red n up) : rbEraseColor t up = some (zip t.setBlack up) := by
  cases hu <;> simp [rbEraseColor, ht]

theorem rbEraseColor_isRb {c : Color} {n : ℕ} {t : RbNode α} {up : List (Frame α)}
    (ht : Balanced c n t) (hu : Hole .black (n + 1) up) :
    ∃ t', rbEraseColor t up = some t' ∧ IsRb t' := by
  induction up generalizing c n t with
  | nil => exact ⟨_, rfl, ht.setBlack⟩
  | cons f up ih =>
    cases hred : t.isRed with
    | true => exact ⟨_, by simp [rbEraseColor, hred], hu.zip (ht.setBlack_of_red hred)⟩
    | false =>
      have ht' := ht.black_of_not_red hred
      cases hu with
      | @redLeft _ p other _ ho hu =>
        obtain ⟨s, short, hs, hf⟩ := fixLeft_fixed .red p ht' ho
        have he : rbEraseColor t (.left .red p other :: up) =
            if short then rbEraseColor s up else some (zip s up).setBlack := by
          cases ho
          cases short <;> simp [rbEraseColor, hred, hs]
        cases short with
        | true =>
          refine ⟨_, he.trans (rbEraseColor_of_red (hf.isRed rfl) hu), ?_⟩
          exact (hu.any_of_red .black).zip (hf.lower rfl)
        | false => exact ⟨_, he, (hu.zip (hf.red rfl rfl)).setBlack⟩
      | @redRight _ p other _ ho hu =>
        obtain ⟨s, short, hs, hf⟩ := fixRight_fixed .red p ht' ho
        have he : rbEraseColor t (.right .red other p :: up) =
            if short then rbEraseColor s up else some (zip s up).setBlack := by
          cases ho
          cases short <;> simp [rbEraseColor, hred, hs]
        cases short with
        | true =>
          refine ⟨_, he.trans (rbEraseColor_of_red (hf.isRed rfl) hu), ?_⟩
          exact (hu.any_of_red .black).zip (hf.lower rfl)
        | false => exact ⟨_, he, (hu.zip (hf.red rfl rfl)).setBlack⟩
      | @blackLeft _ d _ p other _ ho hu =>
        cases ho with
        | @red _ x y o hx hy =>
          obtain ⟨s, short, hs, hf⟩ := fixLeft_fixed .red p ht' hx
          have hu' : Hole .red (n + 1) (.left .black o y :: up) := .blackLeft hy hu
          cases short with
          | true =>
            refine ⟨_, by simp [rbEraseColor, hred, hs]; rfl, ?_⟩
            exact (hu'.any_of_red .black).zip (hf.lower rfl)
          | false =>
            exact ⟨_, by simp [rbEraseColor, hred, hs], (hu'.zip (hf.red rfl rfl)).setBlack⟩
        | @black _ _ _ x y o hx hy =>
          obtain ⟨s, short, hs, hf⟩ := fixLeft_fixed .black p ht' (.black (a := o) hx hy)
          cases short with
          | true =>
            obtain ⟨t', h, ht'⟩ := ih (Balanced.black_of_short hf) hu
            exact ⟨t', by simpa [rbEraseColor, hred, hs] using h, ht'⟩
          | false =>
            exact ⟨_, by simp [rbEraseColor, hred, hs], (hu.zip (hf.black rfl rfl)).setBlack⟩
      | @blackRight _ d _ p other _ ho hu =>
        cases ho with
        | @red _ x y o hx hy =>
          obtain ⟨s, short, hs, hf⟩ := fixRight_fixed .red p ht' hy
          have hu' : Hole .red (n + 1) (.right .black x o :: up) := .blackRight hx hu
          cases short with
          | true =>
            refine ⟨_, by simp [rbEraseColor, hred, hs]; rfl, ?_⟩
            exact (hu'.any_of_red .black).zip (hf.lower rfl)
          | false =>
            exact ⟨_, by simp [rbEraseColor, hred, hs], (hu'.zip (hf.red rfl rfl)).setBlack⟩
        | @black _ _ _ x y o hx hy =>
          obtain ⟨s, short, hs, hf⟩ := fixRight_fixed .black p ht' (.black (a := o) hx hy)
          cases short with
          | true =>
            obtain ⟨t', h, ht'⟩ := ih (Balanced.black_of_short hf) hu
            exact ⟨t', by simpa [rbEraseColor, hred, hs] using h, ht'⟩
          | false =>
            exact ⟨_, by simp [rbEraseColor, hred, hs], (hu.zip (hf.black rfl rfl)).setBlack⟩

end Layer3Switch.Lib.Rbtree
