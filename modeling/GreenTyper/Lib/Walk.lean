/-
  GreenTyper.Lib.Walk — graphs that are walked depth first.

  A graph is the list of successors of each node, and `nodes` are those that have any.
  What roots unfold to shows a shared node at each of its places (`Unfolds`); a walk that
  remembers what it has met keeps the first of them (`explore_unfolds`). A list in which
  each node stands before its successors only has no cycle (`Settled`), and its nodes
  unfold.
-/

import GreenTyper.Lib.Acyclic
import Mathlib.Data.List.Nodup

namespace GreenTyper.Lib

open Relation

variable {α : Type} {next : α → List α}

/-- `b` is a successor of `a`. -/
def Edge (next : α → List α) (a b : α) : Prop := b ∈ next a

/-- The trees that the roots unfold to, each node before the trees of its successors. -/
inductive Unfolds (next : α → List α) : List α → List α → Prop where
  | nil : Unfolds next [] []
  | cons {root : α} {roots below rest : List α} (hbelow : Unfolds next (next root) below) (hrest : Unfolds next roots rest) :
      Unfolds next (root :: roots) (root :: (below ++ rest))

namespace Unfolds

variable {roots tree : List α}

theorem roots_subset (h : Unfolds next roots tree) : roots ⊆ tree := by
  induction h with
  | nil => exact List.Subset.refl _
  | cons _ _ _ ihrest =>
    intro a ha
    rcases List.mem_cons.mp ha with rfl | ha
    · exact List.mem_cons_self
    · exact List.mem_cons_of_mem _ (List.mem_append_right _ (ihrest ha))

/-- What stands in a tree has its successors there. -/
theorem closed (h : Unfolds next roots tree) {a b : α} (ha : a ∈ tree) (hab : Edge next a b) : b ∈ tree := by
  induction h with
  | nil => cases ha
  | cons hbelow _ ihbelow ihrest =>
    rcases List.mem_cons.mp ha with rfl | ha
    · exact List.mem_cons_of_mem _ (List.mem_append_left _ (hbelow.roots_subset hab))
    · rcases List.mem_append.mp ha with ha | ha
      · exact List.mem_cons_of_mem _ (List.mem_append_left _ (ihbelow ha))
      · exact List.mem_cons_of_mem _ (List.mem_append_right _ (ihrest ha))

theorem closed_path (h : Unfolds next roots tree) {a b : α} (ha : a ∈ tree) (hab : ReflTransGen (Edge next) a b) : b ∈ tree := by
  induction hab with
  | refl => exact ha
  | tail _ hbc ih => exact h.closed ih hbc

/-- The trees hold what the roots lead to. -/
theorem mem_iff (h : Unfolds next roots tree) {b : α} : b ∈ tree ↔ ∃ a ∈ roots, ReflTransGen (Edge next) a b := by
  constructor
  · intro hb
    induction h with
    | nil => cases hb
    | @cons root roots below rest _ _ ihbelow ihrest =>
      rcases List.mem_cons.mp hb with rfl | hb
      · exact ⟨b, List.mem_cons_self, .refl⟩
      · rcases List.mem_append.mp hb with hb | hb
        · obtain ⟨a, ha, hab⟩ := ihbelow hb
          exact ⟨root, List.mem_cons_self, .head ha hab⟩
        · obtain ⟨a, ha, hab⟩ := ihrest hb
          exact ⟨a, List.mem_cons_of_mem _ ha, hab⟩
  · intro hb
    obtain ⟨a, ha, hab⟩ := hb
    exact h.closed_path (h.roots_subset ha) hab

end Unfolds

/-! ## Settled nodes -/

/-- No node is repeated, and each stands before its successors. -/
def Settled (next : α → List α) : List α → Prop
  | [] => True
  | a :: rest => a ∉ rest ∧ next a ⊆ rest ∧ Settled next rest

namespace Settled

variable {nodes : List α}

theorem closed (h : Settled next nodes) {a b : α} (ha : a ∈ nodes) (hab : Edge next a b) : b ∈ nodes := by
  induction nodes with
  | nil => cases ha
  | cons c rest ih =>
    obtain ⟨_, hnext, hrest⟩ := h
    rcases List.mem_cons.mp ha with rfl | ha
    · exact List.mem_cons_of_mem _ (hnext hab)
    · exact List.mem_cons_of_mem _ (ih hrest ha)

theorem closed_path (h : Settled next nodes) {a b : α} (ha : a ∈ nodes) (hab : TransGen (Edge next) a b) : b ∈ nodes := by
  induction hab with
  | single hab => exact h.closed ha hab
  | tail _ hbc ih => exact h.closed ih hbc

theorem no_cycle (h : Settled next nodes) {a : α} (ha : a ∈ nodes) : ¬ TransGen (Edge next) a a := by
  induction nodes with
  | nil => cases ha
  | cons c rest ih =>
    obtain ⟨hnew, hnext, hrest⟩ := h
    rcases List.mem_cons.mp ha with rfl | ha
    · intro hcycle
      -- The first step leaves for the rest, from which no path comes back.
      obtain ⟨b, hab, hba⟩ := TransGen.head'_iff.mp hcycle
      rcases reflTransGen_iff_eq_or_transGen.mp hba with heq | hba
      · exact hnew (heq ▸ hnext hab)
      · exact hnew (hrest.closed_path (hnext hab) hba)
    · exact ih hrest ha

theorem unfolds_each {p : α → Prop} (h : ∀ a, p a → ∃ below, Unfolds next (next a) below) (roots : List α) :
    (∀ a ∈ roots, p a) → ∃ tree, Unfolds next roots tree := by
  induction roots with
  | nil => exact fun _ => ⟨[], .nil⟩
  | cons a roots ih =>
    intro hall
    obtain ⟨below, hbelow⟩ := h a (hall a List.mem_cons_self)
    obtain ⟨rest, hrest⟩ := ih fun b hb => hall b (List.mem_cons_of_mem a hb)
    exact ⟨_, .cons hbelow hrest⟩

/-- Settled nodes unfold. -/
theorem unfolds (h : Settled next nodes) {roots : List α} (hroots : roots ⊆ nodes) : ∃ tree, Unfolds next roots tree := by
  induction nodes generalizing roots with
  | nil =>
    rw [List.subset_nil.mp hroots]
    exact ⟨[], .nil⟩
  | cons c rest ih =>
    obtain ⟨_, hnext, hrest⟩ := h
    have hbelow : ∀ a, a ∈ c :: rest → ∃ below, Unfolds next (next a) below := by
      intro a ha
      refine ih hrest ?_
      rcases List.mem_cons.mp ha with rfl | ha
      · exact hnext
      · exact fun b hb => hrest.closed ha hb
    exact unfolds_each hbelow roots fun a ha => hroots ha

end Settled

/-! ## Walks -/

section Walks

variable [DecidableEq α]

/-- Each member of `tree` that is not there yet, before what was there. -/
def meet (seen tree : List α) : List α := tree.foldl (fun seen a => if a ∈ seen then seen else a :: seen) seen

/-- The walk from a node, which goes down only to nodes it has not met. -/
def explore (next : α → List α) : Nat → List α → α → List α
  | 0, seen, _ => seen
  | fuel + 1, seen, a => if a ∈ seen then seen else (next a).foldl (explore next fuel) (a :: seen)

theorem meet_append (seen tree tree' : List α) : meet seen (tree ++ tree') = meet (meet seen tree) tree' := List.foldl_append

theorem meet_cons_old {seen : List α} {a : α} (h : a ∈ seen) (tree : List α) : meet seen (a :: tree) = meet seen tree := by
  unfold meet
  rw [List.foldl_cons, if_pos h]

theorem meet_cons_new {seen : List α} {a : α} (h : a ∉ seen) (tree : List α) :
    meet seen (a :: tree) = meet (a :: seen) tree := by
  unfold meet
  rw [List.foldl_cons, if_neg h]

theorem mem_meet {tree : List α} {a : α} : ∀ {seen : List α}, a ∈ meet seen tree ↔ a ∈ seen ∨ a ∈ tree := by
  induction tree with
  | nil => simp [meet]
  | cons b tree ih =>
    intro seen
    by_cases hb : b ∈ seen
    · rw [meet_cons_old hb, ih, List.mem_cons]
      constructor
      · exact fun h => h.imp id Or.inr
      · intro h
        rcases h with h | rfl | h
        · exact Or.inl h
        · exact Or.inl hb
        · exact Or.inr h
    · rw [meet_cons_new hb, ih, List.mem_cons, List.mem_cons]
      tauto

theorem meet_subset {seen tree : List α} (h : tree ⊆ seen) : meet seen tree = seen := by
  induction tree with
  | nil => rfl
  | cons a tree ih =>
    rw [meet_cons_old (h List.mem_cons_self)]
    exact ih fun b hb => h (List.mem_cons_of_mem a hb)

theorem nodup_meet {tree : List α} : ∀ {seen : List α}, seen.Nodup → (meet seen tree).Nodup := by
  induction tree with
  | nil => exact fun h => h
  | cons a tree ih =>
    intro seen h
    by_cases ha : a ∈ seen
    · rw [meet_cons_old ha]
      exact ih h
    · rw [meet_cons_new ha]
      exact ih (List.nodup_cons.mpr ⟨ha, h⟩)

/-- What is met stands in the order of the first occurrences. -/
theorem reverse_meet {tree : List α} :
    ∀ seen : List α, (meet seen tree).reverse = seen.reverse ++ (tree.filter (· ∉ seen)).eraseDups := by
  induction tree with
  | nil => simp [meet]
  | cons a tree ih =>
    intro seen
    by_cases ha : a ∈ seen
    · rw [meet_cons_old ha, ih, List.filter_cons_of_neg (by simpa using ha)]
    · have hfilter : (tree.filter (· ∉ seen)).filter (fun b => !b == a) = tree.filter (· ∉ a :: seen) := by
        rw [List.filter_filter]
        refine List.filter_congr fun b _ => ?_
        by_cases hb : b = a <;> simp [hb]
      rw [meet_cons_new ha, ih, List.filter_cons_of_pos (by simpa using ha), List.eraseDups_cons, hfilter, List.reverse_cons,
        List.append_assoc, List.singleton_append]

/-- How many of the nodes are not met. -/
def unseen (nodes seen : List α) : Nat := (nodes.filter (· ∉ seen)).length

theorem unseen_antitone {nodes seen seen' : List α} (h : seen ⊆ seen') : unseen nodes seen' ≤ unseen nodes seen := by
  refine (List.monotone_filter_right _ fun a ha => ?_).length_le
  simp only [decide_eq_true_eq] at ha ⊢
  exact fun hmem => ha (h hmem)

theorem unseen_cons {nodes seen : List α} {a : α} (ha : a ∈ nodes) (hnew : a ∉ seen) :
    unseen nodes (a :: seen) < unseen nodes seen := by
  have hsub : nodes.filter (· ∉ a :: seen) = (nodes.filter (· ∉ seen)).filter (· ≠ a) := by
    rw [List.filter_filter]
    refine List.filter_congr fun b _ => ?_
    simp
  rw [unseen, hsub, unseen]
  exact List.length_filter_lt_length_iff_exists.mpr ⟨a, by simp [ha, hnew], by simp⟩

theorem unseen_lt (nodes seen : List α) : unseen nodes seen < nodes.length + 1 :=
  Nat.lt_succ_of_le (List.length_filter_le _ _)

/-- Without a cycle, the walk from the roots meets what they unfold to, in its order: what
    was met before has brought all that it leads to, or does not stand below the roots. -/
theorem explore_unfolds (hacyclic : Acyclic (Edge next)) {nodes : List α} (hnodes : ∀ a, next a ≠ [] → a ∈ nodes)
    {roots tree : List α} (h : Unfolds next roots tree) : ∀ (fuel : Nat) (seen : List α), unseen nodes seen < fuel →
      (∀ a ∈ seen, a ∈ tree → ∀ b, ReflTransGen (Edge next) a b → b ∈ seen) →
      roots.foldl (explore next fuel) seen = meet seen tree := by
  induction h with
  | nil => exact fun _ _ _ _ => rfl
  | @cons root roots below rest hbelow hrest ihbelow ihrest =>
    intro fuel seen hfuel hseen
    -- What the root leads to is the root and what stands below it.
    have hreach : ∀ b, ReflTransGen (Edge next) root b → b = root ∨ b ∈ below := by
      intro b hb
      rcases ReflTransGen.cases_head hb with rfl | ⟨c, hrc, hcb⟩
      · exact Or.inl rfl
      · exact Or.inr (hbelow.mem_iff.mpr ⟨c, hrc, hcb⟩)
    obtain ⟨fuel, rfl⟩ : ∃ n, fuel = n + 1 := ⟨fuel - 1, by omega⟩
    have hroot : ∃ seen', explore next (fuel + 1) seen root = seen' ∧ seen' = meet seen (root :: below) := by
      refine ⟨_, rfl, ?_⟩
      by_cases hold : root ∈ seen
      · have hall := hseen root hold List.mem_cons_self
        rw [explore, if_pos hold, meet_cons_old hold, meet_subset]
        intro b hb
        obtain ⟨c, hrc, hcb⟩ := hbelow.mem_iff.mp hb
        exact hall b (.head hrc hcb)
      · rw [explore, if_neg hold, meet_cons_new hold]
        by_cases hempty : next root = []
        · rw [hempty] at hbelow ⊢
          cases hbelow
          rfl
        · refine ihbelow fuel (root :: seen) ?_ ?_
          · have := unseen_cons (hnodes root hempty) hold
            omega
          · intro a ha hbelow' b hab
            rcases List.mem_cons.mp ha with rfl | ha
            · obtain ⟨c, hrc, hca⟩ := hbelow.mem_iff.mp hbelow'
              exact absurd (TransGen.head' hrc hca) (hacyclic a)
            · exact List.mem_cons_of_mem _
                (hseen a ha (List.mem_cons_of_mem _ (List.mem_append_left _ hbelow')) b hab)
    obtain ⟨seen', hexplore, hmeet⟩ := hroot
    have hmem : ∀ b, b ∈ seen' ↔ b ∈ seen ∨ b ∈ root :: below := by
      intro b
      rw [hmeet, mem_meet]
    rw [List.foldl_cons, hexplore, ← List.cons_append, meet_append, ← hmeet]
    refine ihrest (fuel + 1) seen' ?_ ?_
    · have : unseen nodes seen' ≤ unseen nodes seen := unseen_antitone fun b hb => (hmem b).mpr (Or.inl hb)
      omega
    · intro a ha hrest' b hab
      rw [hmem] at ha ⊢
      rcases ha with ha | ha
      · exact Or.inl (hseen a ha (List.mem_cons_of_mem _ (List.mem_append_right _ hrest')) b hab)
      · rcases List.mem_cons.mp ha with rfl | ha
        · rcases hreach b hab with rfl | hb
          · exact Or.inr List.mem_cons_self
          · exact Or.inr (List.mem_cons_of_mem _ hb)
        · exact Or.inr (List.mem_cons_of_mem _ (hbelow.closed_path ha hab))

/-- The walk from one root, at the start. -/
theorem explore_root (hacyclic : Acyclic (Edge next)) {nodes : List α} (hnodes : ∀ a, next a ≠ [] → a ∈ nodes) {root : α}
    {tree : List α} (h : Unfolds next [root] tree) {fuel : Nat} (hfuel : nodes.length < fuel) :
    (explore next fuel [] root).reverse = tree.eraseDups ∧ (explore next fuel [] root).Nodup ∧
      ∀ b, b ∈ explore next fuel [] root ↔ ReflTransGen (Edge next) root b := by
  have hmeet : explore next fuel [] root = meet [] tree := by
    have hlt := unseen_lt nodes []
    exact explore_unfolds hacyclic hnodes h fuel [] (by omega) (by simp)
  rw [hmeet]
  refine ⟨by simp [reverse_meet], nodup_meet List.nodup_nil, fun b => ?_⟩
  rw [mem_meet, h.mem_iff]
  simp

end Walks

end GreenTyper.Lib
