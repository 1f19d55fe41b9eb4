/-
  GreenTyper.Runtime.Life — what a Turn is for: the life that every Turn leads, as a machine
  over what happens to it, and what follows of the order of these happenings.

  A Turn waits for its Provider, attempt after attempt. A refusal blocks it; a block that the
  Provider caused ends by a cancellation, or, where the Provider had not begun to answer, by
  a retry or by the next of the fallbacks it was admitted with. Its one output is written
  down piece by piece, prepared under a delivery, acknowledged and completed.

  Nothing here is translated from the source. `GreenTyper.Runtime.LifeCycle` shows that the
  state of the kernel follows this machine for each Turn.
-/

import GreenTyper.Lib.Machine
import GreenTyper.Runtime.Model

namespace GreenTyper.Runtime

open Lib

/-- How far a Turn is with its Provider. -/
structure Tries where
  fallbacks : Nat
  /-- The fallback in use; zero is the primary. -/
  used : Nat
  started : Nat
  opened : Bool
  /-- The last attempt ended and its cost is not evaluated yet. -/
  due : Bool

inductive Life where
  | unborn
  | waiting (tries : Tries)
  | writing (tries : Tries) (item : ItemId) (text : String)
  | blocked (tries : Tries) (recoverable retryable : Bool)
  | prepared (delivery : DeliveryId)
  | acknowledged (delivery : DeliveryId)
  | completed
  | cancelled

inductive TurnAct where
  | admitted (fallbacks : Nat)
  | attemptStarted (attempt : Nat)
  | attemptFinished (attempt : Nat) (charged : Bool)
  | attemptEvaluated (attempt : Nat)
  | itemStarted (item : ItemId)
  | textDelta (item : ItemId) (delta : String)
  | outputPrepared (item : ItemId) (delivery : DeliveryId) (text : String)
  | outputAcknowledged (delivery : DeliveryId)
  | completed
  | blocked (recoverable retryable : Bool)
  | cancelled
  | retryRequested
  | fallbackRequested (index : Nat)

inductive Life.Step : Life → TurnAct → Life → Prop
  | admission (fallbacks : Nat) : Step .unborn (.admitted fallbacks) (.waiting ⟨fallbacks, 0, 0, false, false⟩)
  | start {tries : Tries} : tries.opened = false → tries.due = false →
      Step (.waiting tries) (.attemptStarted (tries.started + 1)) (.waiting { tries with started := tries.started + 1, opened := true })
  | finish {tries : Tries} {charged : Bool} : tries.opened = true → tries.due = false →
      Step (.waiting tries) (.attemptFinished tries.started charged) (.waiting { tries with opened := false, due := charged })
  | evaluate {tries : Tries} : tries.due = true →
      Step (.waiting tries) (.attemptEvaluated tries.started) (.waiting { tries with due := false })
  | write {tries : Tries} {item : ItemId} : tries.due = false → Step (.waiting tries) (.itemStarted item) (.writing tries item "")
  | delta {tries : Tries} {item : ItemId} {text delta : String} : delta ≠ "" →
      Step (.writing tries item text) (.textDelta item delta) (.writing tries item (text ++ delta))
  | prepare {tries : Tries} {item : ItemId} {text : String} (delivery : DeliveryId) :
      Step (.writing tries item text) (.outputPrepared item delivery text) (.prepared delivery)
  | acknowledge {delivery : DeliveryId} : Step (.prepared delivery) (.outputAcknowledged delivery) (.acknowledged delivery)
  | complete {delivery : DeliveryId} : Step (.acknowledged delivery) .completed .completed
  | block {tries : Tries} {recoverable retryable : Bool} : tries.opened = false → tries.due = false →
      Step (.waiting tries) (.blocked recoverable retryable) (.blocked tries recoverable retryable)
  | cancel {tries : Tries} {retryable : Bool} : Step (.blocked tries true retryable) .cancelled .cancelled
  | retry {tries : Tries} : Step (.blocked tries true true) .retryRequested (.waiting tries)
  | fallback {tries : Tries} : tries.used + 1 ≤ tries.fallbacks →
      Step (.blocked tries true true) (.fallbackRequested (tries.used + 1)) (.waiting { tries with used := tries.used + 1 })

/-- The life of a Turn. -/
def life : Machine Life TurnAct := ⟨.unborn, Life.Step⟩

namespace TurnAct

def isAdmission : TurnAct → Bool
  | .admitted _ => true
  | _ => false

def started? : TurnAct → Option Nat
  | .attemptStarted attempt => some attempt
  | _ => none

def finished? : TurnAct → Option Nat
  | .attemptFinished attempt _ => some attempt
  | _ => none

def fallback? : TurnAct → Option Nat
  | .fallbackRequested index => some index
  | _ => none

def delta? : TurnAct → Option String
  | .textDelta _ delta => some delta
  | _ => none

/-- The text that the deltas give. -/
def written (word : List TurnAct) : String := (word.filterMap delta?).foldl (· ++ ·) ""

theorem told_none {β : Type} {f : TurnAct → Option β} {word : List TurnAct} {a : TurnAct} (h : f a = none) :
    (word ++ [a]).filterMap f = word.filterMap f := by
  rw [List.filterMap_append, List.filterMap_cons_none h, List.filterMap_nil, List.append_nil]

theorem told_some {β : Type} {f : TurnAct → Option β} {word : List TurnAct} {a : TurnAct} {b : β} (h : f a = some b) :
    (word ++ [a]).filterMap f = word.filterMap f ++ [b] := by
  rw [List.filterMap_append, List.filterMap_cons_some h, List.filterMap_nil]

theorem written_snoc {word : List TurnAct} {a : TurnAct} (h : a.delta? = none) : written (word ++ [a]) = written word := by
  unfold written
  rw [told_none h]

end TurnAct

open TurnAct

/-- The order of what happens to a Turn. -/
structure TurnHistory (word : List TurnAct) : Prop where
  admission : ∀ {pre a post}, word = pre ++ a :: post → (a.isAdmission = true ↔ pre = [])
  attempts : ∃ n, word.filterMap started? = List.range' 1 n
  finishes : (word.filterMap finished?).Pairwise (· < ·)
  finish : ∀ {pre attempt charged post}, word = pre ++ .attemptFinished attempt charged :: post →
    (pre.filterMap started?).getLast? = some attempt ∧ (charged = true → ∀ a ∈ post.head?, a = .attemptEvaluated attempt)
  evaluation : ∀ {pre attempt post}, word = pre ++ .attemptEvaluated attempt :: post →
    pre.getLast? = some (.attemptFinished attempt true)
  fallbacks : ∃ n, word.filterMap fallback? = List.range' 1 n ∧ ∀ admitted, .admitted admitted ∈ word → n ≤ admitted
  recovery : ∀ {pre a post}, word = pre ++ a :: post → (a = .retryRequested ∨ a.fallback?.isSome = true) →
    pre.getLast? = some (.blocked true true)
  output : ∀ {pre item delivery text post}, word = pre ++ .outputPrepared item delivery text :: post →
    text = written pre ∧ post <+: [.outputAcknowledged delivery, .completed]
  acknowledgement : ∀ {pre delivery post}, word = pre ++ .outputAcknowledged delivery :: post →
    ∃ item text, pre.getLast? = some (.outputPrepared item delivery text)
  completion : ∀ {pre post}, word = pre ++ .completed :: post →
    post = [] ∧ ∃ delivery, pre.getLast? = some (.outputAcknowledged delivery)
  cancellation : ∀ {pre post}, word = pre ++ .cancelled :: post →
    post = [] ∧ ∃ retryable, pre.getLast? = some (.blocked true retryable)

namespace Life

/-! ## What the state of a Turn tells -/

def tries? : Life → Option Tries
  | .waiting tries | .writing tries _ _ | .blocked tries _ _ => some tries
  | _ => none

/-- The last happening, where the state tells it. -/
def Last (word : List TurnAct) : Life → Prop
  | .unborn => word = []
  | .waiting tries => tries.due = true → word.getLast? = some (.attemptFinished tries.started true)
  | .blocked tries recoverable retryable => tries.due = false ∧ word.getLast? = some (.blocked recoverable retryable)
  | .prepared delivery => ∃ item text, word.getLast? = some (.outputPrepared item delivery text)
  | .acknowledged delivery => word.getLast? = some (.outputAcknowledged delivery)
  | .writing .. | .completed | .cancelled => True

theorem last {word : List TurnAct} {s : Life} (h : life.Run word s) : s.Last word := by
  refine Machine.Run.history (fun word s => s.Last word) rfl ?_ h
  intro word s a s' _ hlast hstep
  cases hstep with
  | admission fallbacks | evaluate hdue =>
    intro h
    cases h
  | start hopened hdue =>
    intro h
    rw [hdue] at h
    cases h
  | finish hopened hdue =>
    intro h
    obtain rfl : _ = true := h
    exact List.getLast?_concat
  | write hdue | delta hne | complete | cancel => trivial
  | prepare delivery => exact ⟨_, _, List.getLast?_concat⟩
  | acknowledge => exact List.getLast?_concat
  | block hopened hdue => exact ⟨hdue, List.getLast?_concat⟩
  | retry =>
    intro h
    rw [hlast.1] at h
    cases h
  | fallback hle =>
    intro h
    rw [show _ = false from hlast.1] at h
    cases h

/-- How the attempts are numbered up to a state. -/
structure Attempts (word : List TurnAct) (s : Life) : Prop where
  started : ∃ n, word.filterMap started? = List.range' 1 n ∧ (∀ m ∈ word.filterMap finished?, m ≤ n) ∧
    ∀ tries, s.tries? = some tries → tries.started = n ∧ (tries.opened = true → 0 < n ∧ ∀ m ∈ word.filterMap finished?, m < n)
  finished : (word.filterMap finished?).Pairwise (· < ·)

/-- A step that is no attempt's. -/
theorem Attempts.quiet {word : List TurnAct} {s s' : Life} {a : TurnAct} (h : Attempts word s) (hstarted : a.started? = none)
    (hfinished : a.finished? = none)
    (htries : ∀ tries', s'.tries? = some tries' → ∃ tries, s.tries? = some tries ∧ tries'.started = tries.started ∧
      tries'.opened = tries.opened) : Attempts (word ++ [a]) s' := by
  obtain ⟨n, hn, hle, hs⟩ := h.started
  refine ⟨⟨n, ?_, ?_, ?_⟩, ?_⟩
  · rw [told_none hstarted, hn]
  · rwa [told_none hfinished]
  · intro tries' htries'
    obtain ⟨tries, hget, hst, hop⟩ := htries tries' htries'
    rw [hst, hop, told_none hfinished]
    exact hs tries hget
  · rw [told_none hfinished]
    exact h.finished

theorem attempts {word : List TurnAct} {s : Life} (h : life.Run word s) : Attempts word s := by
  refine Machine.Run.history Attempts ⟨⟨0, rfl, by simp, ?_⟩, .nil⟩ ?_ h
  · intro tries htries
    cases htries
  intro word s a s' hrun hs hstep
  cases hstep with
  | admission fallbacks =>
    obtain rfl : word = [] := last hrun
    refine ⟨⟨0, rfl, by simp [finished?], ?_⟩, .nil⟩
    intro tries htries
    obtain rfl := Option.some.inj htries
    exact ⟨rfl, fun hopened => by cases hopened⟩
  | @start tries hopened hdue =>
    obtain ⟨n, hn, hle, htries⟩ := hs.started
    obtain ⟨rfl, _⟩ := htries tries rfl
    refine ⟨⟨tries.started + 1, ?_, ?_, ?_⟩, ?_⟩
    · rw [told_some (b := tries.started + 1) rfl, hn, List.range'_concat, Nat.one_mul, Nat.add_comm 1]
    · rw [told_none rfl]
      intro m hm
      have := hle m hm
      omega
    · intro tries' htries'
      obtain rfl := Option.some.inj htries'
      rw [told_none rfl]
      refine ⟨rfl, fun _ => ⟨by omega, fun m hm => ?_⟩⟩
      have := hle m hm
      omega
    · rw [told_none rfl]
      exact hs.finished
  | @finish tries charged hopened hdue =>
    obtain ⟨n, hn, hle, htries⟩ := hs.started
    obtain ⟨rfl, hopen⟩ := htries tries rfl
    obtain ⟨hpos, hlt⟩ := hopen hopened
    have hfin : (word ++ [TurnAct.attemptFinished tries.started charged]).filterMap finished? =
        word.filterMap finished? ++ [tries.started] := told_some rfl
    refine ⟨⟨tries.started, ?_, ?_, ?_⟩, ?_⟩
    · rw [told_none rfl, hn]
    · rw [hfin]
      intro m hm
      rcases List.mem_append.mp hm with hm | hm
      · exact hle m hm
      · exact Nat.le_of_eq (List.mem_singleton.mp hm)
    · intro tries' htries'
      obtain rfl := Option.some.inj htries'
      exact ⟨rfl, fun hopened => by cases hopened⟩
    · rw [hfin, List.pairwise_append]
      refine ⟨hs.finished, List.pairwise_singleton _ _, fun m hm m' hm' => ?_⟩
      obtain rfl := List.mem_singleton.mp hm'
      exact hlt m hm
  | evaluate | write | delta | block | retry | fallback =>
    refine hs.quiet rfl rfl fun tries' htries' => ?_
    obtain rfl := Option.some.inj htries'
    exact ⟨_, rfl, rfl, rfl⟩
  | prepare | acknowledge | complete | cancel =>
    refine hs.quiet rfl rfl fun tries' htries' => ?_
    cases htries'

/-- The fallbacks that were taken up to a state. -/
def Fallbacks (word : List TurnAct) (s : Life) : Prop :=
  ∃ n, word.filterMap fallback? = List.range' 1 n ∧ (∀ admitted, .admitted admitted ∈ word → n ≤ admitted) ∧
    ∀ tries, s.tries? = some tries → tries.used = n ∧ ∀ admitted, .admitted admitted ∈ word → tries.fallbacks = admitted

theorem Fallbacks.quiet {word : List TurnAct} {s s' : Life} {a : TurnAct} (h : Fallbacks word s) (hfallback : a.fallback? = none)
    (hadmission : a.isAdmission = false)
    (htries : ∀ tries', s'.tries? = some tries' → ∃ tries, s.tries? = some tries ∧ tries'.used = tries.used ∧
      tries'.fallbacks = tries.fallbacks) : Fallbacks (word ++ [a]) s' := by
  obtain ⟨n, hn, hle, hs⟩ := h
  have hold : ∀ {admitted}, .admitted admitted ∈ word ++ [a] → .admitted admitted ∈ word := by
    intro admitted hmem
    rcases List.mem_append.mp hmem with hmem | hmem
    · exact hmem
    · rw [← List.mem_singleton.mp hmem] at hadmission
      cases hadmission
  refine ⟨n, ?_, fun admitted hmem => hle admitted (hold hmem), fun tries' htries' => ?_⟩
  · rw [told_none hfallback, hn]
  · obtain ⟨tries, hget, hused, hall⟩ := htries tries' htries'
    rw [hused, hall]
    exact ⟨(hs tries hget).1, fun admitted hmem => (hs tries hget).2 admitted (hold hmem)⟩

theorem fallbacks {word : List TurnAct} {s : Life} (h : life.Run word s) : Fallbacks word s := by
  refine Machine.Run.history Fallbacks ⟨0, rfl, by simp, ?_⟩ ?_ h
  · intro tries htries
    cases htries
  intro word s a s' hrun hs hstep
  cases hstep with
  | admission fallbacks =>
    obtain rfl : word = [] := last hrun
    refine ⟨0, rfl, by simp, ?_⟩
    intro tries htries
    obtain rfl := Option.some.inj htries
    exact ⟨rfl, by simp⟩
  | @fallback tries hused =>
    obtain ⟨n, hn, hle, htries⟩ := hs
    obtain ⟨rfl, hall⟩ := htries tries rfl
    refine ⟨tries.used + 1, ?_, ?_, ?_⟩
    · rw [told_some (b := tries.used + 1) rfl, hn, List.range'_concat, Nat.one_mul, Nat.add_comm 1]
    · intro admitted hmem
      have := hall admitted (by simpa using hmem)
      omega
    · intro tries' htries'
      obtain rfl := Option.some.inj htries'
      exact ⟨rfl, fun admitted hmem => hall admitted (by simpa using hmem)⟩
  | start | finish | evaluate | write | delta | block | retry =>
    refine hs.quiet rfl rfl fun tries' htries' => ?_
    obtain rfl := Option.some.inj htries'
    exact ⟨_, rfl, rfl, rfl⟩
  | prepare | acknowledge | complete | cancel =>
    refine hs.quiet rfl rfl fun tries' htries' => ?_
    cases htries'

/-- What a Turn has written up to a state. -/
def Text (word : List TurnAct) : Life → Prop
  | .unborn | .waiting _ | .blocked .. => written word = ""
  | .writing _ _ text => written word = text
  | _ => True

theorem text {word : List TurnAct} {s : Life} (h : life.Run word s) : s.Text word := by
  refine Machine.Run.history (fun word s => s.Text word) rfl ?_ h
  intro word s a s' _ hs hstep
  cases hstep with
  | admission | start | finish | evaluate | write | block | retry | fallback => exact (written_snoc rfl).trans hs
  | @delta _ _ text delta _ =>
    have htext : written word = text := hs
    show written (word ++ [.textDelta _ delta]) = text ++ delta
    unfold written at htext ⊢
    rw [told_some (b := delta) rfl, List.foldl_append, htext]
    rfl
  | prepare | acknowledge | complete | cancel => trivial

/-! ## The order of a life -/

theorem after_prepared {delivery : DeliveryId} {post : List TurnAct} {s : Life} (h : life.Path (.prepared delivery) post s) :
    post <+: [.outputAcknowledged delivery, .completed] := by
  cases h with
  | nil => exact List.nil_prefix
  | cons hstep hrest =>
    cases hstep
    cases hrest with
    | nil => exact ⟨[.completed], rfl⟩
    | cons hstep hrest =>
      cases hstep
      obtain rfl := hrest.stuck fun a s' hstep => by cases hstep
      exact List.prefix_rfl

/-- A cost evaluation that is due is what is read next. -/
theorem after_due {tries : Tries} {post : List TurnAct} {s : Life} (hdue : tries.due = true) (h : life.Path (.waiting tries) post s) :
    ∀ a ∈ post.head?, a = .attemptEvaluated tries.started := by
  cases h with
  | nil => simp
  | cons hstep hrest =>
    intro a ha
    obtain rfl := Option.some.inj ha
    cases hstep with
    | start _ hnot | finish _ hnot | write hnot | block _ hnot =>
      rw [hdue] at hnot
      cases hnot
    | evaluate => rfl

theorem getLast?_range' {n : Nat} (h : 0 < n) : (List.range' 1 n).getLast? = some n := by
  obtain ⟨m, rfl⟩ := Nat.exists_eq_succ_of_ne_zero (by omega : n ≠ 0)
  rw [List.range'_concat, List.getLast?_concat]
  congr 1
  omega

theorem turnHistory {word : List TurnAct} {s : Life} (h : life.Run word s) : TurnHistory word := by
  constructor
  case admission =>
    intro pre a post hword
    subst hword
    obtain ⟨before, after, hpre, hstep, _⟩ := h.split
    constructor
    · intro hadmission
      cases hstep <;> first | exact last hpre | cases hadmission
    · intro hnil
      subst hnil
      cases hpre
      cases hstep
      rfl
  case attempts =>
    obtain ⟨n, hn, _⟩ := (attempts h).started
    exact ⟨n, hn⟩
  case finishes => exact (attempts h).finished
  case finish =>
    intro pre attempt charged post hword
    subst hword
    obtain ⟨before, after, hpre, hstep, hpost⟩ := h.split
    cases hstep with
    | @finish tries charged hopened hdue =>
      obtain ⟨n, hn, _, htries⟩ := (attempts hpre).started
      obtain ⟨rfl, hopen⟩ := htries tries rfl
      refine ⟨by rw [hn, getLast?_range' (hopen hopened).1], fun hcharged => ?_⟩
      exact @after_due { tries with opened := false, due := charged } post _ hcharged hpost
  case evaluation =>
    intro pre attempt post hword
    subst hword
    obtain ⟨before, after, hpre, hstep, _⟩ := h.split
    cases hstep with
    | evaluate hdue => exact last hpre hdue
  case fallbacks =>
    obtain ⟨n, hn, hle, _⟩ := fallbacks h
    exact ⟨n, hn, hle⟩
  case recovery =>
    intro pre a post hword ha
    subst hword
    obtain ⟨before, after, hpre, hstep, _⟩ := h.split
    cases hstep with
    | retry | fallback => exact (last hpre).2
    | _ => simp [fallback?] at ha
  case output =>
    intro pre item delivery text post hword
    subst hword
    obtain ⟨before, after, hpre, hstep, hpost⟩ := h.split
    cases hstep with
    | prepare => exact ⟨(Life.text hpre).symm, after_prepared hpost⟩
  case acknowledgement =>
    intro pre delivery post hword
    subst hword
    obtain ⟨before, after, hpre, hstep, _⟩ := h.split
    cases hstep with
    | acknowledge => exact last hpre
  case completion =>
    intro pre post hword
    subst hword
    obtain ⟨before, after, hpre, hstep, hpost⟩ := h.split
    cases hstep with
    | complete => exact ⟨hpost.stuck (fun a s' hstep => by cases hstep), _, last hpre⟩
  case cancellation =>
    intro pre post hword
    subst hword
    obtain ⟨before, after, hpre, hstep, hpost⟩ := h.split
    cases hstep with
    | cancel => exact ⟨hpost.stuck (fun a s' hstep => by cases hstep), _, (last hpre).2⟩

end Life

end GreenTyper.Runtime
