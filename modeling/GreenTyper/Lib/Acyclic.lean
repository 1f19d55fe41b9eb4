/-
  GreenTyper.Lib.Acyclic — relations without cycles, and how one node more or fewer
  edges keep them so.

  A node whose edges are new closes a cycle only when one of its successors already led
  to one of its predecessors (`Acyclic.attach`).
-/

import Mathlib.Logic.Relation

namespace GreenTyper.Lib

open Relation

variable {α : Type} {R R' : α → α → Prop}

/-- No node leads back to itself. -/
def Acyclic (R : α → α → Prop) : Prop := ∀ a, ¬ TransGen R a a

theorem Acyclic.mono (h : Acyclic R) (hsub : ∀ a b, R' a b → R a b) : Acyclic R' :=
  fun a hc => h a (TransGen.mono hsub a a hc)

theorem acyclic_of_no_edge (h : ∀ a b, ¬ R a b) : Acyclic R := by
  intro a hc
  cases hc with
  | single hab => exact h _ _ hab
  | tail _ hbc => exact h _ _ hbc

section Attach

variable {u : α} (hold : ∀ a b, R' a b → a ≠ u → b ≠ u → R a b) (hnew : ∀ d y, R' u d → R' y u → ¬ ReflTransGen R d y)
include hold hnew

/-- Where a path of `R'` from another node than `u` has got to: to `u`, over a
    predecessor that `R` reaches; past `u`, from a successor on; or it is a path of `R`. -/
theorem path_cases {a b : α} (ha : a ≠ u) (h : TransGen R' a b) :
    (b = u ∧ ∃ y, ReflTransGen R a y ∧ R' y u) ∨
      (b ≠ u ∧ (TransGen R a b ∨ ∃ y d, ReflTransGen R a y ∧ R' y u ∧ R' u d ∧ ReflTransGen R d b)) := by
  have hself : ¬ R' u u := fun hu => hnew u u hu hu .refl
  induction h with
  | @single b hab =>
    by_cases hb : b = u
    · exact Or.inl ⟨hb, a, .refl, hb ▸ hab⟩
    · exact Or.inr ⟨hb, Or.inl (.single (hold a b hab ha hb))⟩
  | @tail b c _ hbc ih =>
    rcases ih with ⟨rfl, y, hay, hyu⟩ | ⟨hb, hpath⟩
    · have hc : c ≠ b := fun hc => hself (hc ▸ hbc)
      exact Or.inr ⟨hc, Or.inr ⟨y, c, hay, hyu, hbc, .refl⟩⟩
    · by_cases hc : c = u
      · subst hc
        rcases hpath with hab | ⟨y, d, hay, hyu, _, _⟩
        · exact Or.inl ⟨rfl, b, hab.to_reflTransGen, hbc⟩
        · exact Or.inl ⟨rfl, y, hay, hyu⟩
      · have hR := hold b c hbc hb hc
        refine Or.inr ⟨hc, ?_⟩
        rcases hpath with hab | ⟨y, d, hay, hyu, hud, hdb⟩
        · exact Or.inl (hab.tail hR)
        · exact Or.inr ⟨y, d, hay, hyu, hud, hdb.tail hR⟩

/-- Apart from the edges of `u`, which close no cycle, `R'` has those of `R` only. -/
theorem Acyclic.attach (h : Acyclic R) : Acyclic R' := by
  have hself : ¬ R' u u := fun hu => hnew u u hu hu .refl
  intro a hcycle
  by_cases ha : a = u
  · subst ha
    -- The first edge leaves for a successor, from which the path comes back.
    obtain ⟨d, hud, hda⟩ := TransGen.head'_iff.mp hcycle
    have hd : d ≠ a := fun hd => hself (hd ▸ hud)
    rcases reflTransGen_iff_eq_or_transGen.mp hda with heq | hda
    · exact hd heq.symm
    · rcases path_cases hold hnew hd hda with ⟨_, y, hdy, hyu⟩ | ⟨hne, _⟩
      · exact hnew d y hud hyu hdy
      · exact hne rfl
  · rcases path_cases hold hnew ha hcycle with ⟨heq, _⟩ | ⟨_, haa | ⟨y, d, hay, hyu, hud, hda⟩⟩
    · exact ha heq
    · exact h a haa
    · exact hnew d y hud hyu (hda.trans hay)

end Attach

end GreenTyper.Lib
