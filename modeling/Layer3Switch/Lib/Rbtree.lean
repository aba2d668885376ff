import Mathlib.Data.List.Basic
import Mathlib.Order.Defs.LinearOrder
import Mathlib.Tactic

namespace Layer3Switch.Lib.Rbtree

variable {α κ : Type}

inductive Color
  | red
  | black
  deriving DecidableEq, Repr

inductive RbNode (α : Type)
  | nil : RbNode α
  | node (c : Color) (l : RbNode α) (a : α) (r : RbNode α) : RbNode α
  deriving DecidableEq, Repr

/-- The way from a node up to its parent: which child the node is, and what
the parent holds besides it. -/
inductive Frame (α : Type)
  | left (c : Color) (a : α) (r : RbNode α)
  | right (c : Color) (l : RbNode α) (a : α)

def RbNode.toList : RbNode α → List α
  | .nil => []
  | .node _ l a r => l.toList ++ a :: r.toList

def RbNode.size : RbNode α → ℕ
  | .nil => 0
  | .node _ l _ r => l.size + 1 + r.size

def RbNode.isRed : RbNode α → Bool
  | .node .red _ _ _ => true
  | _ => false

def RbNode.setBlack : RbNode α → RbNode α
  | .nil => .nil
  | .node _ l a r => .node .black l a r

def Frame.isRed : Frame α → Bool
  | .left .red _ _ | .right .red _ _ => true
  | _ => false

def Frame.plug : Frame α → RbNode α → RbNode α
  | .left c a r, t => .node c t a r
  | .right c l a, t => .node c l a t

def zip (t : RbNode α) (up : List (Frame α)) : RbNode α := up.foldl (fun t f ↦ f.plug t) t

def before : List (Frame α) → List α
  | [] => []
  | .left _ _ _ :: up => before up
  | .right _ l a :: up => before up ++ l.toList ++ [a]

def after : List (Frame α) → List α
  | [] => []
  | .left _ a r :: up => a :: r.toList ++ after up
  | .right _ _ _ :: up => after up

attribute [simp] RbNode.toList Frame.plug before after

theorem toList_zip (t : RbNode α) (up : List (Frame α)) :
    (zip t up).toList = before up ++ t.toList ++ after up := by
  induction up generalizing t with
  | nil => simp [zip]
  | cons f up ih =>
    have h := ih (f.plug t)
    cases f <;> simpa [zip] using h

@[simp] theorem toList_setBlack (t : RbNode α) : t.setBlack.toList = t.toList := by
  cases t <;> rfl

def rbInsertColor : RbNode α → List (Frame α) → Option (RbNode α)
  | t, [] => some t.setBlack
  | t, [f] => if f.isRed then none else some (f.plug t).setBlack
  | t, f :: g :: up =>
    if !f.isRed then some (zip t (f :: g :: up)).setBlack
    else
      match f, g with
      | .left _ p s, .left _ q u =>
        if u.isRed then rbInsertColor (.node .red (.node .black t p s) q u.setBlack) up
        else some (zip (.node .black t p (.node .red s q u)) up).setBlack
      | .right _ s p, .left _ q u =>
        if u.isRed then rbInsertColor (.node .red (.node .black s p t) q u.setBlack) up
        else
          match t with
          | .nil => none
          | .node _ x n y =>
            some (zip (.node .black (.node .red s p x) n (.node .red y q u)) up).setBlack
      | .right _ s p, .right _ u q =>
        if u.isRed then rbInsertColor (.node .red u.setBlack q (.node .black s p t)) up
        else some (zip (.node .black (.node .red u q s) p t) up).setBlack
      | .left _ p s, .right _ u q =>
        if u.isRed then rbInsertColor (.node .red u.setBlack q (.node .black t p s)) up
        else
          match t with
          | .nil => none
          | .node _ x n y =>
            some (zip (.node .black (.node .red u q x) n (.node .red y p s)) up).setBlack

def fixLeft (c : Color) (t : RbNode α) (p : α) : RbNode α → Option (RbNode α × Bool)
  | .nil => none
  | .node _ x o y =>
    if !x.isRed && !y.isRed then some (.node c t p (.node .red x o y), true)
    else
      match x, y with
      | x, .node .red a b d =>
        some (.node c (.node .black t p x) o (.node .black a b d), false)
      | .node _ a m b, y => some (.node c (.node .black t p a) m (.node .black b o y), false)
      | .nil, _ => none

def fixRight (c : Color) (t : RbNode α) (p : α) : RbNode α → Option (RbNode α × Bool)
  | .nil => none
  | .node _ x o y =>
    if !x.isRed && !y.isRed then some (.node c (.node .red x o y) p t, true)
    else
      match x, y with
      | .node .red a b d, y =>
        some (.node c (.node .black a b d) o (.node .black y p t), false)
      | x, .node _ a m b => some (.node c (.node .black x o a) m (.node .black b p t), false)
      | _, .nil => none

def rbEraseColor : RbNode α → List (Frame α) → Option (RbNode α)
  | t, [] => some t.setBlack
  | t, f :: up =>
    if t.isRed then some (zip t.setBlack (f :: up))
    else
      match f with
      | .left _ p (.node .red x o y) =>
        (fixLeft .red t p x).map fun (s, short) ↦
          if short then zip s.setBlack (.left .black o y :: up)
          else (zip s (.left .black o y :: up)).setBlack
      | .left c p other =>
        match fixLeft c t p other with
        | none => none
        | some (s, false) => some (zip s up).setBlack
        | some (s, true) => rbEraseColor s up
      | .right _ (.node .red x o y) p =>
        (fixRight .red t p y).map fun (s, short) ↦
          if short then zip s.setBlack (.right .black x o :: up)
          else (zip s (.right .black x o :: up)).setBlack
      | .right c other p =>
        match fixRight c t p other with
        | none => none
        | some (s, false) => some (zip s up).setBlack
        | some (s, true) => rbEraseColor s up

def locate (p : α → Bool) : RbNode α → List (Frame α) → Option (RbNode α × List (Frame α))
  | .nil, _ => none
  | .node c l a r, up =>
    if p a then some (.node c l a r, up)
    else (locate p l (.left c a r :: up)).or (locate p r (.right c l a :: up))

def leftmost (c : Color) (a : α) (r : RbNode α) (up : List (Frame α)) :
    RbNode α → Color × α × RbNode α × List (Frame α)
  | .nil => (c, a, r, up)
  | .node d x b y => leftmost d b y (.left c a r :: up) x

def unlink (c : Color) (child : RbNode α) (up : List (Frame α)) : Option (RbNode α) :=
  if c = .black then rbEraseColor child up else some (zip child up)

def eraseAt : RbNode α → List (Frame α) → Option (RbNode α)
  | .nil, _ => none
  | .node c .nil _ r, up => unlink c r up
  | .node c l _ .nil, up => unlink c l up
  | .node c l _ (.node d x b y), up =>
    let (e, s, child, path) := leftmost d b y [] x
    unlink e child (path ++ .right c l s :: up)

def rbErase (p : α → Bool) (t : RbNode α) : Option (RbNode α) :=
  match locate p t [] with
  | none => none
  | some (s, up) => eraseAt s up

def descend [LT κ] [DecidableLT κ] (key : α → κ) (k : κ) :
    RbNode α → List (Frame α) → List (Frame α)
  | .nil, up => up
  | .node c l a r, up =>
    if k < key a then descend key k l (.left c a r :: up)
    else descend key k r (.right c l a :: up)

def rbInsert [LT κ] [DecidableLT κ] (key : α → κ) (a : α) (t : RbNode α) : Option (RbNode α) :=
  rbInsertColor (.node .red .nil a .nil) (descend key (key a) t [])

def rbFirst : RbNode α → Option α
  | .nil => none
  | .node _ .nil a _ => some a
  | .node _ l _ _ => rbFirst l

def rbSearch [LT κ] [DecidableLT κ] (key : α → κ) (k : κ) : RbNode α → Option α
  | .nil => none
  | .node _ l a r =>
    if k < key a then rbSearch key k l
    else if key a < k then rbSearch key k r
    else some a

theorem zip_cons (t : RbNode α) (f : Frame α) (up : List (Frame α)) :
    zip t (f :: up) = zip (f.plug t) up := rfl

theorem rbInsertColor_toList {t t' : RbNode α} {up : List (Frame α)}
    (h : rbInsertColor t up = some t') : t'.toList = (zip t up).toList := by
  fun_induction rbInsertColor t up
  -- every round either ends with a tree of the same nodes or hands one to the next round
  all_goals first
    | contradiction
    | (cases h; simp [toList_zip, zip_cons])
    | (rename_i ih; rw [ih h]; simp [toList_zip, zip_cons])

theorem fixLeft_toList {c : Color} {t s other : RbNode α} {p : α} {short : Bool}
    (h : fixLeft c t p other = some (s, short)) :
    s.toList = t.toList ++ p :: other.toList := by
  fun_cases fixLeft c t p other <;> simp_all [fixLeft]
  all_goals grind [RbNode.toList]

theorem fixRight_toList {c : Color} {t s other : RbNode α} {p : α} {short : Bool}
    (h : fixRight c t p other = some (s, short)) :
    s.toList = other.toList ++ p :: t.toList := by
  fun_cases fixRight c t p other <;> simp_all [fixRight]
  all_goals grind [RbNode.toList]

theorem rbEraseColor_toList {t t' : RbNode α} {up : List (Frame α)}
    (h : rbEraseColor t up = some t') : t'.toList = (zip t up).toList := by
  fun_induction rbEraseColor t up with
  | case1 t => cases h; simp [zip]
  | case2 t f up ht => cases h; simp [toList_zip]
  | case3 t up ht c p x o y =>
    obtain ⟨⟨s, short⟩, hs, rfl⟩ := Option.map_eq_some_iff.mp h
    have hl := fixLeft_toList hs
    cases short <;> simp [toList_zip, zip_cons, hl]
  | case4 => cases h
  | case5 t up ht c p other hne s hs =>
    cases h
    simp [toList_zip, zip_cons, fixLeft_toList hs]
  | case6 t up ht c p other hne s hs ih =>
    rw [ih h]
    simp [toList_zip, zip_cons, fixLeft_toList hs]
  | case7 t up ht c x o y p =>
    obtain ⟨⟨s, short⟩, hs, rfl⟩ := Option.map_eq_some_iff.mp h
    have hl := fixRight_toList hs
    cases short <;> simp [toList_zip, zip_cons, hl]
  | case8 => cases h
  | case9 t up ht c other p hne s hs =>
    cases h
    simp [toList_zip, zip_cons, fixRight_toList hs]
  | case10 t up ht c other p hne s hs ih =>
    rw [ih h]
    simp [toList_zip, zip_cons, fixRight_toList hs]

theorem before_append (up up' : List (Frame α)) :
    before (up ++ up') = before up' ++ before up := by
  induction up with
  | nil => simp
  | cons f up ih => cases f <;> simp [ih]

theorem after_append (up up' : List (Frame α)) :
    after (up ++ up') = after up ++ after up' := by
  induction up with
  | nil => simp
  | cons f up ih => cases f <;> simp [ih]

theorem leftmost_spec (c : Color) (a : α) (r : RbNode α) (up : List (Frame α)) (t : RbNode α) :
    let (_, s, child, path) := leftmost c a r up t
    before path = before up ∧
      s :: child.toList ++ after path = t.toList ++ a :: r.toList ++ after up := by
  induction t generalizing c a r up with
  | nil => simp [leftmost]
  | node d x b y ihx ihy =>
    have h := ihx d b y (.left c a r :: up)
    simpa [leftmost] using h

theorem unlink_toList {c : Color} {child t' : RbNode α} {up : List (Frame α)}
    (h : unlink c child up = some t') : t'.toList = (zip child up).toList := by
  unfold unlink at h
  split_ifs at h with hc
  · exact rbEraseColor_toList h
  · cases h; rfl

theorem eraseAt_toList {c : Color} {l r t' : RbNode α} {a : α} {up : List (Frame α)}
    (h : eraseAt (.node c l a r) up = some t') :
    t'.toList = before up ++ (l.toList ++ r.toList) ++ after up := by
  cases l with
  | nil => simpa [toList_zip] using unlink_toList h
  | node cl ll al rl =>
    cases r with
    | nil => simpa [toList_zip] using unlink_toList h
    | node d x b y =>
      obtain ⟨hb, hs⟩ := leftmost_spec d b y [] x
      have hl := unlink_toList h
      simp only [toList_zip, before_append, after_append, hb, before, after, List.append_nil] at hl
      simp only [List.append_assoc, List.cons_append, List.nil_append, List.append_nil, after]
        at hl hs
      rw [hl]
      simp [← hs]

theorem locate_spec {p : α → Bool} {t s : RbNode α} {up path : List (Frame α)}
    (h : locate p t up = some (s, path)) :
    zip s path = zip t up ∧ ∃ c l a r, s = .node c l a r ∧ p a = true := by
  induction t generalizing up with
  | nil => cases h
  | node c l a r ihl ihr =>
    unfold locate at h
    split_ifs at h with hp
    · cases h
      exact ⟨rfl, c, l, a, r, rfl, hp⟩
    · rcases Option.or_eq_some_iff.mp h with hl | ⟨-, hr⟩
      · exact ihl hl
      · exact ihr hr

theorem locate_isSome {p : α → Bool} {t : RbNode α} {a : α} (up : List (Frame α))
    (ha : a ∈ t.toList) (hp : p a = true) : ∃ z, locate p t up = some z := by
  induction t generalizing up with
  | nil => simp at ha
  | node c l b r ihl ihr =>
    unfold locate
    split_ifs with hb
    · exact ⟨_, rfl⟩
    · have hab : a ≠ b := by rintro rfl; exact hb hp
      simp only [RbNode.toList, List.mem_append, List.mem_cons, hab, false_or] at ha
      rcases ha with ha | ha
      · obtain ⟨z, hz⟩ := ihl (.left c b r :: up) ha
        exact ⟨z, by simp [hz]⟩
      · obtain ⟨z, hz⟩ := ihr (.right c l b :: up) ha
        cases hl : locate p l (.left c b r :: up) with
        | none => exact ⟨z, by simp [hz]⟩
        | some y => exact ⟨y, by simp⟩

theorem rbErase_toList {p : α → Bool} {t t' : RbNode α} (h : rbErase p t = some t') :
    ∃ xs a ys, t.toList = xs ++ a :: ys ∧ p a = true ∧ t'.toList = xs ++ ys := by
  unfold rbErase at h
  split at h
  · cases h
  · rename_i s up hs
    obtain ⟨hz, c, l, a, r, rfl, hp⟩ := locate_spec hs
    have ht : t.toList = before up ++ (l.toList ++ a :: r.toList) ++ after up := by
      rw [← RbNode.toList, ← toList_zip, hz]
      rfl
    refine ⟨before up ++ l.toList, a, r.toList ++ after up, ?_, hp, ?_⟩
    · simp [ht]
    · simp [eraseAt_toList h]

end Layer3Switch.Lib.Rbtree
