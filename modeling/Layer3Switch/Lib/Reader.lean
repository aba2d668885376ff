import Layer3Switch.Lib.Bytes

namespace Layer3Switch.Lib

open Bytes

variable {α β : Type}

abbrev Reader := StateT (List U8) Option

def readBytes (n : ℕ) : Reader (List U8) := fun bs ↦
  if n ≤ bs.length then some (bs.take n, bs.drop n) else none

def Reads (m : Reader α) (bs : List U8) (a : α) : Prop := ∀ rest, m (bs ++ rest) = some (a, rest)

theorem reads_readBytes {bs : List U8} {n : ℕ} (h : bs.length = n) :
    Reads (readBytes n) bs bs := by
  intro rest
  subst h
  rw [readBytes, if_pos (by simp), List.take_left, List.drop_left]

theorem Reads.pure (a : α) : Reads (pure a) [] a := fun _ ↦ rfl

theorem Reads.bind {m : Reader α} {f : α → Reader β} {bs cs : List U8} {a : α} {b : β}
    (hm : Reads m bs a) (hf : Reads (f a) cs b) : Reads (m >>= f) (bs ++ cs) b := by
  intro rest
  have h : (m >>= f) (bs ++ cs ++ rest) = (m (bs ++ (cs ++ rest))).bind fun x ↦ f x.1 x.2 := by
    rw [List.append_assoc]
    rfl
  rw [h, hm, Option.bind_some, hf]

theorem Reads.map {m : Reader α} {bs : List U8} {a : α} (hm : Reads m bs a) (f : α → β) :
    Reads (f <$> m) bs (f a) := by
  intro rest
  have h : (f <$> m) (bs ++ rest) = (m (bs ++ rest)).bind fun x ↦ some (f x.1, x.2) := rfl
  rw [h, hm, Option.bind_some]

theorem Reads.run {m : Reader α} {bs : List U8} {a : α} (hm : Reads m bs a) :
    m.run' bs = some a := by
  have h := hm []
  rw [List.append_nil] at h
  rw [StateT.run', h]
  rfl

def Takes (m : Reader α) (n : ℕ) : Prop :=
  ∀ bs : List U8, (m bs).map Prod.snd = if n ≤ bs.length then some (bs.drop n) else none

theorem takes_readBytes (n : ℕ) : Takes (readBytes n) n := by
  intro bs
  rw [readBytes]
  split <;> rfl

theorem Takes.pure (a : α) : Takes (pure a) 0 := fun _ ↦ rfl

theorem Takes.bind {m : Reader α} {f : α → Reader β} {n k : ℕ} (hm : Takes m n)
    (hf : ∀ a, Takes (f a) k) : Takes (m >>= f) (n + k) := by
  intro bs
  have hbind : (m >>= f) bs = (m bs).bind fun x ↦ f x.1 x.2 := rfl
  have hbs := hm bs
  by_cases hn : n ≤ bs.length
  · rw [if_pos hn, Option.map_eq_some_iff] at hbs
    obtain ⟨⟨a, rest⟩, hx, hrest⟩ := hbs
    obtain rfl : rest = bs.drop n := hrest
    rw [hbind, hx, Option.bind_some, hf a, List.length_drop, List.drop_drop]
    exact if_congr (by omega) rfl rfl
  · rw [if_neg hn, Option.map_eq_none_iff] at hbs
    rw [hbind, hbs, Option.bind_none, if_neg (by omega)]
    rfl

theorem Takes.map {m : Reader α} {n : ℕ} (hm : Takes m n) (f : α → β) : Takes (f <$> m) n := by
  intro bs
  have hmap : (f <$> m) bs = (m bs).bind fun x ↦ some (f x.1, x.2) := rfl
  rw [← hm bs, hmap]
  cases m bs <;> rfl

theorem Takes.run_isSome {m : Reader α} {n : ℕ} (hm : Takes m n) (bs : List U8) :
    (m.run' bs).isSome = true ↔ n ≤ bs.length := by
  have hbs := congrArg Option.isSome (hm bs)
  rw [Option.isSome_map] at hbs
  have hrun : (m.run' bs).isSome = (m bs).isSome := by
    rw [StateT.run']
    exact Option.isSome_map
  rw [hrun, hbs]
  by_cases hn : n ≤ bs.length <;> simp [hn]

end Layer3Switch.Lib
