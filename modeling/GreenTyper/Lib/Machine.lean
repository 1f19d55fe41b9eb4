/-
  GreenTyper.Lib.Machine — machines that read letters, and the runs of fallible steps that
  a machine watches.

  A machine is a start and the steps that it can take, each with the letter it reads. What it
  says of the words that it reads is proved from its steps: `Run.history` for an invariant of
  the letters read and of the state, `Run.split` for what one letter follows and precedes,
  `Path.stuck` for a state that reads nothing more. A system of fallible steps
  `Tracks` a machine when what each of its steps shows is a step of the machine in the view
  of the state (`Tracks.path`). Beside it stand the rules for an invariant of such a system
  (`foldlM_inv`), for the names that it hands out (`issues_run`), for its logs (`logged`) and
  for what it overwrites (`latest_run`).
-/

import GreenTyper.Lib.Result
import Mathlib.Data.List.Basic
import Mathlib.Data.List.Induction
import Mathlib.Data.List.Nodup

namespace GreenTyper.Lib

structure Machine (σ α : Type) where
  start : σ
  Step : σ → α → σ → Prop

namespace Machine

variable {σ α : Type} {M : Machine σ α}

inductive Path (M : Machine σ α) : σ → List α → σ → Prop
  | nil (s : σ) : Path M s [] s
  | cons {s s' last : σ} {a : α} {word : List α} : M.Step s a s' → Path M s' word last → Path M s (a :: word) last

/-- The words that are read from the start. -/
def Run (M : Machine σ α) (word : List α) (s : σ) : Prop := M.Path M.start word s

theorem Path.append {pre post : List α} {last : σ} : ∀ {s : σ},
    M.Path s (pre ++ post) last ↔ ∃ middle, M.Path s pre middle ∧ M.Path middle post last := by
  induction pre with
  | nil =>
    intro s
    refine ⟨fun h => ⟨s, .nil s, h⟩, ?_⟩
    intro h
    obtain ⟨middle, hpre, hpost⟩ := h
    cases hpre
    exact hpost
  | cons a pre ih =>
    intro s
    constructor
    · intro h
      cases h with
      | cons hstep hrest =>
        obtain ⟨middle, hpre, hpost⟩ := ih.mp hrest
        exact ⟨middle, .cons hstep hpre, hpost⟩
    · intro h
      obtain ⟨middle, hpre, hpost⟩ := h
      cases hpre with
      | cons hstep hrest => exact .cons hstep (ih.mpr ⟨middle, hrest, hpost⟩)

theorem Path.single {s s' : σ} {a : α} : M.Path s [a] s' ↔ M.Step s a s' := by
  constructor
  · intro h
    cases h with
    | cons hstep hnil =>
      cases hnil
      exact hstep
  · exact fun h => .cons h (.nil s')

/-- A state that reads no letter is the last. -/
theorem Path.stuck {s last : σ} {word : List α} (hstuck : ∀ a s', ¬ M.Step s a s') (h : M.Path s word last) : word = [] := by
  cases h with
  | nil => rfl
  | cons hstep _ => exact absurd hstep (hstuck _ _)

/-- The states before and after a letter. -/
theorem Run.split {pre post : List α} {a : α} {last : σ} (h : M.Run (pre ++ a :: post) last) :
    ∃ before after, M.Run pre before ∧ M.Step before a after ∧ M.Path after post last := by
  obtain ⟨before, hpre, hrest⟩ := Path.append.mp h
  cases hrest with
  | cons hstep hpost => exact ⟨before, _, hpre, hstep, hpost⟩

/-- An invariant of the letters read and of the state. -/
theorem Run.history (inv : List α → σ → Prop) (hstart : inv [] M.start)
    (hstep : ∀ word s a s', M.Run word s → inv word s → M.Step s a s' → inv (word ++ [a]) s') {word : List α} :
    ∀ {s : σ}, M.Run word s → inv word s := by
  induction word using List.reverseRecOn with
  | nil =>
    intro s h
    cases h
    exact hstart
  | append_singleton word a ih =>
    intro s h
    obtain ⟨before, hword, hlast⟩ := Path.append.mp h
    exact hstep word before a s hword (ih hword) (Path.single.mp hlast)

end Machine

/-! ## Systems of fallible steps -/

section Systems

variable {σ α β ι S E ε : Type} {step : S → E → Except ε S} {inv : S → Prop}

theorem foldlM_inv (hkept : ∀ {s e s'}, inv s → step s e = .ok s' → inv s') {events : List E} : ∀ {s s' : S},
    inv s → events.foldlM step s = .ok s' → inv s' := by
  induction events with
  | nil =>
    intro s s' hinv hrun
    obtain rfl : s = s' := Except.ok.inj hrun
    exact hinv
  | cons e events ih =>
    intro s s' hinv hrun
    obtain ⟨next, hs, hrest⟩ := bind_ok.mp (List.foldlM_cons.symm.trans hrun)
    exact ih (hkept hinv hs) hrest

/-- Each step from a state with the invariant keeps it, and shows the machine one step or none. -/
structure Tracks (M : Machine σ α) (step : S → E → Except ε S) (inv : S → Prop) (letter : E → Option α) (view : S → σ) : Prop where
  kept : ∀ {s e s'}, inv s → step s e = .ok s' → inv s'
  shown : ∀ {s e s' a}, inv s → step s e = .ok s' → letter e = some a → M.Step (view s) a (view s')
  hidden : ∀ {s e s'}, inv s → step s e = .ok s' → letter e = none → view s' = view s

theorem Tracks.path {M : Machine σ α} {letter : E → Option α} {view : S → σ} (h : Tracks M step inv letter view) {events : List E} :
    ∀ {s s' : S}, inv s → events.foldlM step s = .ok s' → M.Path (view s) (events.filterMap letter) (view s') := by
  induction events with
  | nil =>
    intro s s' _ hrun
    obtain rfl : s = s' := Except.ok.inj hrun
    exact .nil _
  | cons e events ih =>
    intro s s' hinv hrun
    obtain ⟨next, hs, hrest⟩ := bind_ok.mp (List.foldlM_cons.symm.trans hrun)
    have hword := ih (h.kept hinv hs) hrest
    cases hletter : letter e with
    | none => rwa [List.filterMap_cons_none hletter, ← h.hidden hinv hs hletter]
    | some a =>
      rw [List.filterMap_cons_some hletter]
      exact .cons (h.shown hinv hs hletter) hword

/-- A step hands out names that the state does not know, and these are what the next state knows beside its own. -/
structure Issues (known : S → ι → Prop) (s s' : S) (names : List ι) : Prop where
  distinct : names.Nodup
  fresh : ∀ i ∈ names, ¬ known s i
  known : ∀ i, known s' i ↔ known s i ∨ i ∈ names

/-- What is handed out is never handed out again, and is what is known. -/
theorem issues_run {known : S → ι → Prop} {issued : E → List ι} (hkept : ∀ {s e s'}, inv s → step s e = .ok s' → inv s')
    (hissues : ∀ {s e s'}, inv s → step s e = .ok s' → Issues known s s' (issued e)) {events : List E} : ∀ {s s' : S},
    inv s → events.foldlM step s = .ok s' → Issues known s s' (events.flatMap issued) := by
  induction events with
  | nil =>
    intro s s' _ hrun
    obtain rfl : s = s' := Except.ok.inj hrun
    exact ⟨.nil, by simp, by simp⟩
  | cons e events ih =>
    intro s s' hinv hrun
    obtain ⟨next, hs, hrest⟩ := bind_ok.mp (List.foldlM_cons.symm.trans hrun)
    have hone := hissues hinv hs
    have hmany := ih (hkept hinv hs) hrest
    rw [List.flatMap_cons]
    constructor
    · refine List.nodup_append'.mpr ⟨hone.distinct, hmany.distinct, ?_⟩
      intro i hi hi'
      exact hmany.fresh i hi' ((hone.known i).mpr (.inr hi))
    · intro i hi hknown
      rcases List.mem_append.mp hi with hi | hi
      · exact hone.fresh i hi hknown
      · exact hmany.fresh i hi ((hone.known i).mpr (.inl hknown))
    · intro i
      rw [hmany.known i, hone.known i, List.mem_append, or_assoc]

/-- A log that each step adds its entries to is the entries of the events in their order. -/
theorem logged {log : S → List β} {entries : E → List β}
    (hstep : ∀ {s e s'}, step s e = .ok s' → log s' = log s ++ entries e) {events : List E} : ∀ {s s' : S},
    events.foldlM step s = .ok s' → log s' = log s ++ events.flatMap entries := by
  induction events with
  | nil =>
    intro s s' hrun
    obtain rfl : s = s' := Except.ok.inj hrun
    rw [List.flatMap_nil, List.append_nil]
  | cons e events ih =>
    intro s s' hrun
    obtain ⟨next, hs, hrest⟩ := bind_ok.mp (List.foldlM_cons.symm.trans hrun)
    rw [ih hrest, hstep hs, List.flatMap_cons, List.append_assoc]

/-- What the last of the events says. -/
def latest (reader : E → Option β) (events : List E) : Option β := events.reverse.findSome? reader

theorem latest_snoc (reader : E → Option β) (events : List E) (e : E) :
    latest reader (events ++ [e]) = (reader e).or (latest reader events) := by
  unfold latest
  rw [List.reverse_append, List.reverse_singleton, List.singleton_append, List.findSome?_cons]
  cases reader e <;> rfl

/-- A part of the state that each step writes over, where its event says so. -/
theorem latest_run (part : S → Option β) {reader : E → Option β}
    (hstep : ∀ {s e s'}, step s e = .ok s' → part s' = (reader e).or (part s)) {events : List E} : ∀ {s s' : S},
    events.foldlM step s = .ok s' → part s' = (latest reader events).or (part s) := by
  induction events using List.reverseRecOn with
  | nil =>
    intro s s' hrun
    obtain rfl : s = s' := Except.ok.inj hrun
    rfl
  | append_singleton events e ih =>
    intro s s' hrun
    rw [List.foldlM_append] at hrun
    obtain ⟨middle, hevents, hlast⟩ := bind_ok.mp hrun
    have hone : step middle e = .ok s' := by simpa using hlast
    rw [hstep hone, ih hevents, latest_snoc, Option.or_assoc]

end Systems

end GreenTyper.Lib
