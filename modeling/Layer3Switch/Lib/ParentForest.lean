import Mathlib.Combinatorics.SimpleGraph.Acyclic

namespace Layer3Switch.Lib

variable {V : Type}

/-- Parent pointers along which a rank decreases, and a graph whose edges are
exactly the pairs of a vertex and its parent. -/
structure ParentForest (T : SimpleGraph V) (parent : V → Option V) (rank : V → ℕ) : Prop where
  rank_lt : ∀ v u, parent v = some u → rank u < rank v
  adj_iff : ∀ v u, T.Adj v u ↔ parent v = some u ∨ parent u = some v

namespace ParentForest

variable {T : SimpleGraph V} {parent : V → Option V} {rank : V → ℕ}

theorem parent_eq_of_adj (h : ParentForest T parent rank) {v u : V} (ha : T.Adj v u)
    (hle : rank u ≤ rank v) : parent v = some u := by
  apply ((h.adj_iff v u).mp ha).resolve_right
  intro hp
  have hlt := h.rank_lt u v hp
  omega

theorem isAcyclic (h : ParentForest T parent rank) : T.IsAcyclic := by
  classical
  intro v c hc
  obtain ⟨m, hm, hmax⟩ := c.support.toFinset.exists_max_image rank
    ⟨v, List.mem_toFinset.mpr c.start_mem_support⟩
  have hm' : m ∈ c.support := List.mem_toFinset.mp hm
  have hcyc : (c.rotate m hm').IsCycle := (SimpleGraph.Walk.isCycle_rotate hm').mpr hc
  have hle : ∀ u ∈ (c.rotate m hm').support, rank u ≤ rank m := by
    intro u hu
    apply hmax u
    rw [List.mem_toFinset]
    exact (c.mem_support_rotate_iff m hm').mp hu
  have hnil : ¬(c.rotate m hm').Nil := hcyc.not_nil
  have hs := h.parent_eq_of_adj ((c.rotate m hm').adj_snd hnil)
    (hle _ ((c.rotate m hm').getVert_mem_support 1))
  have hp := h.parent_eq_of_adj ((c.rotate m hm').adj_penultimate hnil).symm
    (hle _ ((c.rotate m hm').getVert_mem_support _))
  apply hcyc.snd_ne_penultimate
  exact Option.some.inj (hs.symm.trans hp)

section Spans

variable {S : Set V} (hS : ∀ v ∈ S, ∀ u, parent v = some u → u ∈ S)
include hS

theorem exists_root (h : ParentForest T parent rank) (v : V) (hv : v ∈ S) :
    ∃ r, ∃ hr : r ∈ S, parent r = none ∧ (T.induce S).Reachable ⟨v, hv⟩ ⟨r, hr⟩ := by
  induction hn : rank v using Nat.strong_induction_on generalizing v with
  | _ n ih =>
    cases hp : parent v with
    | none => exact ⟨v, hv, hp, .rfl⟩
    | some u =>
      have hlt := h.rank_lt v u hp
      have hu := hS v hv u hp
      have hadj : (T.induce S).Adj ⟨v, hv⟩ ⟨u, hu⟩ := (h.adj_iff v u).mpr (.inl hp)
      obtain ⟨r, hr, hnone, hreach⟩ := ih (rank u) (hn ▸ hlt) u hu rfl
      exact ⟨r, hr, hnone, hadj.reachable.trans hreach⟩

theorem isTree_induce (h : ParentForest T parent rank) {r : V} (hr : r ∈ S)
    (hroot : ∀ v ∈ S, parent v = none → v = r) : (T.induce S).IsTree := by
  refine ⟨?_, h.isAcyclic.induce S⟩
  rw [SimpleGraph.connected_iff_exists_forall_reachable]
  refine ⟨⟨r, hr⟩, fun v ↦ ?_⟩
  obtain ⟨r', hr', hnone, hreach⟩ := h.exists_root hS v v.2
  obtain rfl := hroot r' hr' hnone
  exact hreach.symm

end Spans

end ParentForest

end Layer3Switch.Lib
