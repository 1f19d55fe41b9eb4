/-
  GreenTyper.Lib.Program — programs over a state that may fail, and what they keep.

  A program ends with a value or an error and leaves a state in both cases: what it did
  before it failed stays done. A `Contract` names the steps that a program may take and an
  invariant that they keep. A program meets it where all that it does are such steps
  (`Meets`), and the rules for that follow the program: reading, one step, a sequence, and
  going on after a failure.
-/

import GreenTyper.Lib.Result
import Mathlib.Logic.Relation

namespace GreenTyper.Lib

variable {σ ε α β : Type}

/-! ## Results -/

/-- How a computation ends: in `Q` with a value, in `E` with an error. -/
def Ends (E : ε → Prop) (Q : α → Prop) : Except ε α → Prop
  | .ok a => Q a
  | .error e => E e

namespace Ends

variable {E E' : ε → Prop} {Q Q' : α → Prop} {R : β → Prop} {x : Except ε α}

@[simp] theorem ok {a : α} : Ends E Q (.ok a) ↔ Q a := Iff.rfl

@[simp] theorem error {e : ε} : Ends E Q (.error e) ↔ E e := Iff.rfl

theorem of_ok (h : Ends E Q x) {a : α} (hx : x = .ok a) : Q a := by
  rw [hx] at h
  exact h

theorem of_error (h : Ends E Q x) {e : ε} (hx : x = .error e) : E e := by
  rw [hx] at h
  exact h

theorem intro (hok : ∀ a, x = .ok a → Q a) (herror : ∀ e, x = .error e → E e) : Ends E Q x := by
  cases x with
  | ok a => exact hok a rfl
  | error e => exact herror e rfl

theorem of {a : α} (hx : x = .ok a) (h : Q a) : Ends E Q x := by
  rw [hx]
  exact h

theorem mono (h : Ends E Q x) (hE : ∀ e, E e → E' e) (hQ : ∀ a, x = .ok a → Q a → Q' a) : Ends E' Q' x :=
  .intro (fun a hx => hQ a hx (h.of_ok hx)) fun e hx => hE e (h.of_error hx)

theorem bind {f : α → Except ε β} (h : Ends E Q x) (hf : ∀ a, x = .ok a → Q a → Ends E R (f a)) : Ends E R (x >>= f) := by
  cases x with
  | ok a => exact hf a rfl h
  | error e => exact h

theorem require {c : Prop} [Decidable c] {e : ε} (h : c) : Ends E (fun _ => c) (Lib.require c e) := by
  unfold Lib.require
  rw [if_pos h]
  exact h

/-- A check whose error is one that may come. -/
theorem check {c : Prop} [Decidable c] {e : ε} (h : E e) : Ends E (fun _ => c) (Lib.require c e) := by
  unfold Lib.require
  by_cases hc : c
  · rw [if_pos hc]
    exact hc
  · rw [if_neg hc]
    exact h

theorem okOr {o : Option α} {a : α} {e : ε} (h : o = some a) : Ends E (· = a) (Lib.okOr o e) := by
  rw [h]
  exact rfl

theorem checkOr {o : Option α} {e : ε} (h : E e) : Ends E (fun a => o = some a) (Lib.okOr o e) := by
  cases o with
  | none => exact h
  | some a => exact rfl

theorem mapError {ε' : Type} {f : ε' → ε} {y : Except ε' α} (h : ∀ e, E (f e)) : Ends E (fun a => y = .ok a) (y.mapError f) := by
  cases y with
  | ok a => exact rfl
  | error e => exact h e

theorem foldlM {f : β → α → Except ε β} {l : List α} (h : ∀ a ∈ l, ∀ b, R b → Ends E R (f b a)) : ∀ {b : β}, R b →
    Ends E R (l.foldlM f b) := by
  induction l with
  | nil => exact fun hb => hb
  | cons a l ih =>
    intro b hb
    rw [List.foldlM_cons]
    refine (h a List.mem_cons_self b hb).bind fun b' _ hb' => ?_
    exact ih (fun a' ha' => h a' (List.mem_cons_of_mem _ ha')) hb'

theorem forM {f : α → Except ε Unit} {l : List α} (h : ∀ a ∈ l, Ends E (fun _ => True) (f a)) : Ends E (fun _ => True) (l.forM f) := by
  induction l with
  | nil => exact trivial
  | cons a l ih =>
    show Ends E (fun _ => True) (f a >>= fun _ => l.forM f)
    exact (h a List.mem_cons_self).bind fun _ _ _ => ih fun a' ha' => h a' (List.mem_cons_of_mem _ ha')

end Ends

/-! ## Programs -/

/-- A state transformer with a result. -/
def Program (σ ε α : Type) := σ → Except ε α × σ

namespace Program

instance : Monad (Program σ ε) where
  pure a := fun s => (.ok a, s)
  bind p f := fun s =>
    match p s with
    | (.ok a, s) => f a s
    | (.error e, s) => (.error e, s)

def fail (e : ε) : Program σ ε α := fun s => (.error e, s)

/-- What the state tells. -/
def read (f : σ → Except ε α) : Program σ ε α := fun s => (f s, s)

/-- A part of the state at work. -/
def step (f : σ → Except ε α × σ) : Program σ ε α := f

/-- The result is the value, so that what follows can be about a failure. -/
def attempt (p : Program σ ε α) : Program σ ε (Except ε α) := fun s => (.ok (p s).1, (p s).2)

theorem bind_apply (p : Program σ ε α) (f : α → Program σ ε β) (s : σ) : (p >>= f) s =
    match p s with
    | (.ok a, s) => f a s
    | (.error e, s) => (.error e, s) := rfl

end Program

/-! ## Contracts -/

/-- The steps that a program may take and an invariant that they keep. -/
structure Contract (σ : Type) where
  Step : σ → σ → Prop
  inv : σ → Prop
  kept : ∀ {s s'}, inv s → Step s s' → inv s'

namespace Contract

variable (C : Contract σ)

abbrev Moves : σ → σ → Prop := Relation.ReflTransGen C.Step

theorem Moves.inv {C : Contract σ} {s s' : σ} (h : C.Moves s s') (hs : C.inv s) : C.inv s' := by
  induction h with
  | refl => exact hs
  | tail _ hstep ih => exact C.kept ih hstep

/-- From an invariant state in `P` the program only takes the contract's steps, and ends in `Q` with a value and in `E` with an
    error. -/
def Meets (P : σ → Prop) (p : Program σ ε α) (Q : α → σ → Prop) (E : ε → σ → Prop) : Prop :=
  ∀ s, C.inv s → P s → C.Moves s (p s).2 ∧ Ends (E · (p s).2) (Q · (p s).2) (p s).1

namespace Meets

variable {C : Contract σ} {P P' : σ → Prop} {p : Program σ ε α} {Q Q' : α → σ → Prop} {E E' : ε → σ → Prop}

theorem mono (h : C.Meets P p Q E) (hP : ∀ s, C.inv s → P' s → P s) (hQ : ∀ a s, C.inv s → Q a s → Q' a s)
    (hE : ∀ e s, C.inv s → E e s → E' e s) : C.Meets P' p Q' E' := by
  intro s hs hpre
  obtain ⟨hmoves, hends⟩ := h s hs (hP s hs hpre)
  have hinv := hmoves.inv hs
  exact ⟨hmoves, hends.mono (fun e => hE e _ hinv) fun a _ => hQ a _ hinv⟩

/-- A fact that the first state tells. -/
theorem given {fact : Prop} (hfact : ∀ s, C.inv s → P s → fact) (h : fact → C.Meets P p Q E) : C.Meets P p Q E :=
  fun s hs hP => h (hfact s hs hP) s hs hP

theorem pure {a : α} (h : ∀ s, C.inv s → P s → Q a s) : C.Meets P (Pure.pure a : Program σ ε α) Q E :=
  fun s hs hP => ⟨.refl, h s hs hP⟩

theorem fail {e : ε} (h : ∀ s, C.inv s → P s → E e s) : C.Meets P (Program.fail e : Program σ ε α) Q E :=
  fun s hs hP => ⟨.refl, h s hs hP⟩

theorem read {f : σ → Except ε α} (h : ∀ s, C.inv s → P s → Ends (E · s) (Q · s) (f s)) : C.Meets P (Program.read f) Q E :=
  fun s hs hP => ⟨.refl, h s hs hP⟩

/-- One step of the contract, or none. -/
theorem step (h : ∀ s, C.inv s → P s → ((p s).2 = s ∨ C.Step s (p s).2) ∧ Ends (E · (p s).2) (Q · (p s).2) (p s).1) :
    C.Meets P p Q E := by
  intro s hs hP
  obtain ⟨hstep, hends⟩ := h s hs hP
  refine ⟨?_, hends⟩
  rcases hstep with hsame | hstep
  · rw [hsame]
  · exact .single hstep

theorem bind {f : α → Program σ ε β} {R : β → σ → Prop} (h : C.Meets P p Q E) (hf : ∀ a, C.Meets (Q a) (f a) R E) :
    C.Meets P (p >>= f) R E := by
  intro s hs hP
  obtain ⟨hmoves, hends⟩ := h s hs hP
  rw [Program.bind_apply]
  cases hp : p s with
  | mk x s' =>
    rw [hp] at hmoves hends
    cases x with
    | ok a =>
      obtain ⟨hrest, hlast⟩ := hf a s' (Moves.inv hmoves hs) hends
      exact ⟨Relation.ReflTransGen.trans hmoves hrest, hlast⟩
    | error e => exact ⟨hmoves, hends⟩

theorem attempt (h : C.Meets P p Q E) : C.Meets P p.attempt (fun x s => Ends (E · s) (Q · s) x) E' := by
  intro s hs hP
  obtain ⟨hmoves, hends⟩ := h s hs hP
  exact ⟨hmoves, hends⟩

theorem map {f : α → β} {R : β → σ → Prop} (h : C.Meets P p Q E) (hf : ∀ a s, C.inv s → Q a s → R (f a) s) :
    C.Meets P (p >>= fun a => Pure.pure (f a)) R E := h.bind fun a => .pure fun s hs hQ => hf a s hs hQ

end Meets

end Contract

end GreenTyper.Lib
