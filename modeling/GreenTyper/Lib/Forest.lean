/-
  GreenTyper.Lib.Forest — finite forests given by parent links, and weights that every
  node hands down to its children out of its own.

  What a node keeps for itself is its weight less its children's. The nodes below a node
  keep together exactly its weight (`sum_keep`), so whatever nodes below it are picked,
  none of them above another, their weights together are at most its own
  (`sum_antichain_le`).
-/

import Mathlib.Algebra.BigOperators.Group.Finset.Basic
import Mathlib.Algebra.Order.BigOperators.Group.Finset
import Mathlib.Logic.Relation

namespace GreenTyper.Lib

open Finset

/-- A finite set of nodes with parent links that stay inside and climb in rank. -/
structure Forest (α : Type) where
  nodes : Finset α
  parent : α → Option α
  rank : α → Nat
  parent_mem : ∀ {p c}, c ∈ nodes → parent c = some p → p ∈ nodes
  rank_lt : ∀ {p c}, c ∈ nodes → parent c = some p → rank p < rank c

namespace Forest

variable {α : Type} (F : Forest α)

def IsChild (p c : α) : Prop := c ∈ F.nodes ∧ F.parent c = some p

/-- `d` is `k` or below it. -/
def Below (k d : α) : Prop := Relation.ReflTransGen F.IsChild k d

noncomputable def children [DecidableEq α] (p : α) : Finset α := F.nodes.filter (fun c => F.parent c = some p)

open Classical in
noncomputable def subtree (k : α) : Finset α := F.nodes.filter (F.Below k)

variable {F} {k p c d : α}

theorem Below.rank_le (h : F.Below k d) : F.rank k ≤ F.rank d := by
  induction h with
  | refl => exact Nat.le_refl _
  | tail _ hc ih => exact Nat.le_of_lt (Nat.lt_of_le_of_lt ih (F.rank_lt hc.1 hc.2))

theorem not_below_parent (hc : F.IsChild p c) : ¬ F.Below c p := fun h =>
  Nat.not_le.mpr (F.rank_lt hc.1 hc.2) h.rank_le

/-- Of two nodes above one node, one is above the other. -/
theorem Below.comparable {a b : α} (ha : F.Below a d) (hb : F.Below b d) : F.Below a b ∨ F.Below b a := by
  induction ha with
  | refl => exact Or.inr hb
  | @tail x y hax hxy ih =>
    rcases Relation.ReflTransGen.cases_tail hb with heq | ⟨z, hbz, hzy⟩
    · exact Or.inl (heq ▸ hax.tail hxy)
    · have hxz : x = z := Option.some.inj (hxy.2.symm.trans hzy.2)
      exact ih (hxz ▸ hbz)

/-- A node below a child of `k` is below one child only. -/
theorem Below.child_unique {c' : α} (hc : F.IsChild k c) (hc' : F.IsChild k c') (h : F.Below c d) (h' : F.Below c' d) :
    c = c' := by
  have hcase : ∀ {x y : α}, F.IsChild k x → F.IsChild k y → F.Below x y → x = y := by
    intro x y hx hy hxy
    rcases Relation.ReflTransGen.cases_tail hxy with heq | ⟨z, hxz, hzy⟩
    · exact heq.symm
    · have hkz : k = z := Option.some.inj (hy.2.symm.trans hzy.2)
      exact absurd (hkz ▸ hxz) (not_below_parent hx)
  rcases h.comparable h' with hb | hb
  · exact hcase hc hc' hb
  · exact (hcase hc' hc hb).symm

theorem mem_subtree : d ∈ F.subtree k ↔ d ∈ F.nodes ∧ F.Below k d := by
  classical
  simp only [subtree, mem_filter]

/-- A child's subtree is a smaller one. -/
theorem subtree_ssubset (hc : F.IsChild k c) : F.subtree c ⊂ F.subtree k := by
  refine (ssubset_iff_of_subset fun d hd => ?_).mpr ⟨k, ?_, ?_⟩
  · obtain ⟨hd, hb⟩ := mem_subtree.mp hd
    exact mem_subtree.mpr ⟨hd, .head hc hb⟩
  · exact mem_subtree.mpr ⟨F.parent_mem hc.1 hc.2, .refl⟩
  · exact fun hk => not_below_parent hc (mem_subtree.mp hk).2

variable [DecidableEq α]

theorem mem_children : c ∈ F.children p ↔ F.IsChild p c := by rw [children, mem_filter]; rfl

theorem subtree_eq (hk : k ∈ F.nodes) : F.subtree k = insert k ((F.children k).biUnion F.subtree) := by
  ext d
  simp only [mem_insert, mem_biUnion, mem_subtree, mem_children]
  constructor
  · rintro ⟨hd, hb⟩
    rcases Relation.ReflTransGen.cases_head hb with heq | ⟨c, hc, hcd⟩
    · exact Or.inl heq.symm
    · exact Or.inr ⟨c, hc, hd, hcd⟩
  · rintro (rfl | ⟨c, hc, hd, hcd⟩)
    · exact ⟨hk, .refl⟩
    · exact ⟨hd, .head hc hcd⟩

theorem not_mem_children_subtrees : k ∉ (F.children k).biUnion F.subtree := by
  intro hk
  obtain ⟨c, hc, hk⟩ := mem_biUnion.mp hk
  exact not_below_parent (mem_children.mp hc) (mem_subtree.mp hk).2

theorem children_disjoint : Set.PairwiseDisjoint (F.children k : Set α) F.subtree := by
  intro c hc c' hc' hne
  refine disjoint_left.mpr fun d hd hd' => hne ?_
  exact Below.child_unique (mem_children.mp hc) (mem_children.mp hc') (mem_subtree.mp hd).2 (mem_subtree.mp hd').2

section Weight

variable (w : α → Nat)

/-- What a node keeps for itself. -/
noncomputable def keep (F : Forest α) (w : α → Nat) (p : α) : Nat := w p - ∑ c ∈ F.children p, w c

variable {w} (hw : ∀ p ∈ F.nodes, ∑ c ∈ F.children p, w c ≤ w p)
include hw

/-- The nodes from `k` down keep together what `k` was given. -/
theorem sum_keep (hk : k ∈ F.nodes) : ∑ d ∈ F.subtree k, F.keep w d = w k := by
  induction hsize : F.subtree k using Finset.strongInduction generalizing k with
  | H sub ih =>
    subst hsize
    rw [subtree_eq hk, sum_insert not_mem_children_subtrees, sum_biUnion children_disjoint]
    have hchildren : ∑ c ∈ F.children k, ∑ d ∈ F.subtree c, F.keep w d = ∑ c ∈ F.children k, w c := by
      refine sum_congr rfl fun c hc => ?_
      have hc := mem_children.mp hc
      exact ih _ (subtree_ssubset hc) hc.1 rfl
    rw [hchildren, keep]
    exact Nat.sub_add_cancel (hw k hk)

/-- Nodes below `k`, none above another, were given together at most what `k` was. -/
theorem sum_antichain_le (hk : k ∈ F.nodes) {S : Finset α} (hS : ∀ x ∈ S, x ∈ F.nodes ∧ F.Below k x)
    (hanti : ∀ x ∈ S, ∀ y ∈ S, F.Below x y → x = y) : ∑ x ∈ S, w x ≤ w k := by
  have hdisj : Set.PairwiseDisjoint (S : Set α) F.subtree := by
    intro x hx y hy hne
    refine disjoint_left.mpr fun d hd hd' => hne ?_
    rcases (mem_subtree.mp hd).2.comparable (mem_subtree.mp hd').2 with h | h
    · exact hanti x hx y hy h
    · exact (hanti y hy x hx h).symm
  have hsub : S.biUnion F.subtree ⊆ F.subtree k := by
    intro d hd
    obtain ⟨x, hx, hd⟩ := mem_biUnion.mp hd
    obtain ⟨hd, hxd⟩ := mem_subtree.mp hd
    exact mem_subtree.mpr ⟨hd, (hS x hx).2.trans hxd⟩
  calc ∑ x ∈ S, w x = ∑ x ∈ S, ∑ d ∈ F.subtree x, F.keep w d :=
        sum_congr rfl fun x hx => (sum_keep hw (hS x hx).1).symm
    _ = ∑ d ∈ S.biUnion F.subtree, F.keep w d := (sum_biUnion hdisj).symm
    _ ≤ ∑ d ∈ F.subtree k, F.keep w d := sum_le_sum_of_subset hsub
    _ = w k := sum_keep hw hk

end Weight

end Forest

end GreenTyper.Lib
