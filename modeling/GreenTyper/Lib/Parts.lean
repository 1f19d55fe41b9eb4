/-
  GreenTyper.Lib.Parts — texts that are built up under keys and reported when they are
  complete.

  A part is added once, with a text it may already have, grows by deltas, and is reported;
  a report must name the whole text, and after one the part grows no more. In a trace that
  is accepted so, each report is the added text with all the deltas behind it
  (`run_reported`).
-/

import GreenTyper.Lib.Result

namespace GreenTyper.Lib

inductive PartEvent (κ : Type) where
  | added (key : κ) (text : String)
  | delta (key : κ) (text : String)
  | reported (key : κ) (text : String)
deriving DecidableEq

def PartEvent.key {κ : Type} : PartEvent κ → κ
  | .added key _ => key
  | .delta key _ => key
  | .reported key _ => key

def PartEvent.isDelta {κ : Type} : PartEvent κ → Bool
  | .delta .. => true
  | _ => false

/-- The text of each part, and whether it has been reported. -/
abbrev Parts (κ : Type) := κ → Option (String × Bool)

namespace Parts

variable {κ : Type} [DecidableEq κ]

def set (parts : Parts κ) (key : κ) (part : String × Bool) : Parts κ :=
  fun key' => if key = key' then some part else parts key'

theorem set_self (parts : Parts κ) (key : κ) (part : String × Bool) : parts.set key part key = some part := if_pos rfl

theorem set_ne (parts : Parts κ) {key key' : κ} (part : String × Bool) (h : key ≠ key') :
    parts.set key part key' = parts key' := if_neg h

/-- Setting a part to what it is changes nothing. -/
theorem set_same {parts : Parts κ} {key : κ} {part : String × Bool} (h : parts key = some part) : parts.set key part = parts := by
  funext key'
  rw [set]
  split
  · rename_i heq
    rw [← heq, h]
  · rfl

def step (parts : Parts κ) : PartEvent κ → Option (Parts κ)
  | .added key text => if parts key = none then some (parts.set key (text, false)) else none
  | .delta key text =>
    match parts key with
    | some (before, false) => some (parts.set key (before ++ text, false))
    | _ => none
  | .reported key text =>
    match parts key with
    | some (before, _) => if before = text then some (parts.set key (before, true)) else none
    | none => none

def run (parts : Parts κ) (trace : List (PartEvent κ)) : Option (Parts κ) := trace.foldlM step parts

def empty : Parts κ := fun _ => none

/-- The deltas of one part, joined. -/
def deltas (key : κ) : List (PartEvent κ) → String
  | [] => ""
  | .delta key' text :: trace => if key' = key then text ++ deltas key trace else deltas key trace
  | _ :: trace => deltas key trace

theorem deltas_append (key : κ) (trace trace' : List (PartEvent κ)) :
    deltas key (trace ++ trace') = deltas key trace ++ deltas key trace' := by
  induction trace with
  | nil => rw [List.nil_append, deltas, String.empty_append]
  | cons event trace ih =>
    cases event with
    | delta key' text =>
      rw [List.cons_append, deltas, deltas, ih]
      split
      · rw [String.append_assoc]
      · rfl
    | added | reported =>
      rw [List.cons_append, deltas, deltas, ih]
      all_goals simp

theorem deltas_filter (key : κ) (trace : List (PartEvent κ)) : deltas key (trace.filter (·.isDelta)) = deltas key trace := by
  induction trace with
  | nil => rfl
  | cons event trace ih =>
    cases event with
    | delta key' text =>
      rw [List.filter_cons_of_pos rfl, deltas, deltas, ih]
    | added | reported =>
      rw [List.filter_cons_of_neg (by simp [PartEvent.isDelta]), deltas, ih]
      simp

/-- A part as the trace left it. -/
structure Built (trace : List (PartEvent κ)) (key : κ) (initial text : String) (reported : Bool) : Prop where
  added : .added key initial ∈ trace
  once : ∀ other : String, .added key other ∈ trace → other = initial
  whole : text = initial ++ deltas key trace
  report : ∀ other : String, .reported key other ∈ trace → other = text ∧ reported = true

/-- A part the trace does not name. -/
structure Unnamed (trace : List (PartEvent κ)) (key : κ) : Prop where
  added : ∀ text : String, .added key text ∉ trace
  silent : deltas key trace = ""
  report : ∀ text : String, .reported key text ∉ trace

/-- Every part is as the trace says. -/
def Follows (trace : List (PartEvent κ)) (parts : Parts κ) : Prop :=
  ∀ key, (parts key = none ∧ Unnamed trace key) ∨
    ∃ initial text reported, parts key = some (text, reported) ∧ Built trace key initial text reported

section Step

variable {trace : List (PartEvent κ)} {parts parts' : Parts κ} {event : PartEvent κ} {key : κ}

theorem deltas_snoc_ne (h : event.key ≠ key) : deltas key (trace ++ [event]) = deltas key trace := by
  rw [deltas_append]
  cases event with
  | delta key' text =>
    have hne : ¬ key' = key := h
    rw [deltas, if_neg hne, deltas, String.append_empty]
  | added | reported => rw [deltas, deltas, String.append_empty]; all_goals simp

/-- An event about another part. -/
theorem Unnamed.snoc (h : Unnamed trace key) (hne : event.key ≠ key) : Unnamed (trace ++ [event]) key where
  added text hmem := by
    rcases List.mem_append.mp hmem with hmem | hmem
    · exact h.added text hmem
    · exact hne (congrArg PartEvent.key (List.mem_singleton.mp hmem)).symm
  silent := (deltas_snoc_ne hne).trans h.silent
  report text hmem := by
    rcases List.mem_append.mp hmem with hmem | hmem
    · exact h.report text hmem
    · exact hne (congrArg PartEvent.key (List.mem_singleton.mp hmem)).symm

theorem Built.snoc {initial text : String} {reported : Bool} (h : Built trace key initial text reported) (hne : event.key ≠ key) :
    Built (trace ++ [event]) key initial text reported where
  added := List.mem_append_left _ h.added
  once text' hmem := by
    rcases List.mem_append.mp hmem with hmem | hmem
    · exact h.once text' hmem
    · exact absurd (congrArg PartEvent.key (List.mem_singleton.mp hmem)).symm hne
  whole := by rw [deltas_snoc_ne hne]; exact h.whole
  report text' hmem := by
    rcases List.mem_append.mp hmem with hmem | hmem
    · exact h.report text' hmem
    · exact absurd (congrArg PartEvent.key (List.mem_singleton.mp hmem)).symm hne

/-- The parts an event is not about stay as they were. -/
theorem Follows.others (h : Follows trace parts) {part : String × Bool}
    (hkey : ∃ initial, Built (trace ++ [event]) event.key initial part.1 part.2) :
    Follows (trace ++ [event]) (parts.set event.key part) := by
  intro key
  by_cases hne : event.key = key
  · obtain ⟨initial, hbuilt⟩ := hkey
    rw [← hne]
    exact .inr ⟨initial, part.1, part.2, set_self _ _ _, hbuilt⟩
  · rw [set_ne _ _ hne]
    rcases h key with ⟨hnone, hunnamed⟩ | ⟨initial, text, reported, hsome, hbuilt⟩
    · exact .inl ⟨hnone, hunnamed.snoc hne⟩
    · exact .inr ⟨initial, text, reported, hsome, hbuilt.snoc hne⟩

theorem Follows.step (h : Follows trace parts) (hstep : step parts event = some parts') :
    Follows (trace ++ [event]) parts' := by
  cases event with
  | added key text =>
    rw [Parts.step] at hstep
    split at hstep
    · rename_i hnone
      cases hstep
      rcases h key with ⟨_, hunnamed⟩ | ⟨initial, text', reported, hsome, _⟩
      · refine h.others ⟨text, List.mem_append_right _ (List.mem_singleton.mpr rfl), fun text' hmem => ?_, ?_, fun text' hmem => ?_⟩
        · rcases List.mem_append.mp hmem with hmem | hmem
          · exact absurd hmem (hunnamed.added text')
          · cases List.mem_singleton.mp hmem
            rfl
        · rw [deltas_append]
          show text = text ++ (deltas key trace ++ "")
          rw [hunnamed.silent, String.append_empty, String.append_empty]
        · rcases List.mem_append.mp hmem with hmem | hmem
          · exact absurd hmem (hunnamed.report text')
          · cases List.mem_singleton.mp hmem
      · rw [hnone] at hsome
        cases hsome
    · cases hstep
  | delta key text =>
    rw [Parts.step] at hstep
    split at hstep
    · rename_i before hbefore
      cases hstep
      rcases h key with ⟨hnone, _⟩ | ⟨initial, text', reported, hsome, hbuilt⟩
      · rw [hbefore] at hnone
        cases hnone
      · rw [hbefore] at hsome
        cases hsome
        refine h.others ⟨initial, List.mem_append_left _ hbuilt.added, fun text' hmem => ?_, ?_, fun text' hmem => ?_⟩
        · rcases List.mem_append.mp hmem with hmem | hmem
          · exact hbuilt.once text' hmem
          · cases List.mem_singleton.mp hmem
        · show before ++ text = initial ++ deltas key (trace ++ [.delta key text])
          rw [deltas_append, deltas, if_pos rfl, deltas, String.append_empty, ← String.append_assoc, ← hbuilt.whole]
        · rcases List.mem_append.mp hmem with hmem | hmem
          · exact absurd (hbuilt.report text' hmem).2 (by simp)
          · cases List.mem_singleton.mp hmem
    · cases hstep
  | reported key text =>
    rw [Parts.step] at hstep
    split at hstep
    · rename_i before was hbefore
      split at hstep
      · rename_i hsame
        cases hstep
        subst hsame
        rcases h key with ⟨hnone, _⟩ | ⟨initial, text', reported, hsome, hbuilt⟩
        · rw [hbefore] at hnone
          cases hnone
        · rw [hbefore] at hsome
          cases hsome
          refine h.others ⟨initial, List.mem_append_left _ hbuilt.added, fun text' hmem => ?_, ?_, fun text' hmem => ?_⟩
          · rcases List.mem_append.mp hmem with hmem | hmem
            · exact hbuilt.once text' hmem
            · cases List.mem_singleton.mp hmem
          · show before = initial ++ deltas key (trace ++ [.reported key before])
            rw [deltas_append, deltas, deltas, String.append_empty]
            · exact hbuilt.whole
            · simp
          · rcases List.mem_append.mp hmem with hmem | hmem
            · exact ⟨(hbuilt.report text' hmem).1, rfl⟩
            · cases List.mem_singleton.mp hmem
              exact ⟨rfl, rfl⟩
      · cases hstep
    · cases hstep

theorem Follows.run (rest : List (PartEvent κ)) : ∀ {trace : List (PartEvent κ)} {parts parts' : Parts κ}, Follows trace parts →
    parts.run rest = some parts' → Follows (trace ++ rest) parts' := by
  induction rest with
  | nil =>
    intro trace parts parts' h hrun
    cases hrun
    rw [List.append_nil]
    exact h
  | cons event rest ih =>
    intro trace parts parts' h hrun
    rw [Parts.run, List.foldlM_cons] at hrun
    obtain ⟨parts1, hstep, hrest⟩ := Option.bind_eq_some_iff.mp hrun
    have := ih (h.step hstep) hrest
    rwa [List.append_assoc, List.singleton_append] at this

end Step

/-- A report names the text the part was added with and all its deltas. -/
theorem run_reported {trace : List (PartEvent κ)} {parts : Parts κ} (h : empty.run trace = some parts) {key : κ} {text : String}
    (hreport : .reported key text ∈ trace) : ∃ initial, .added key initial ∈ trace ∧
      (∀ text', .added key text' ∈ trace → text' = initial) ∧ text = initial ++ deltas key trace := by
  have hempty : Follows ([] : List (PartEvent κ)) empty := fun key =>
    .inl ⟨rfl, ⟨fun _ hmem => List.not_mem_nil hmem, rfl, fun _ hmem => List.not_mem_nil hmem⟩⟩
  have hfollows := hempty.run trace h
  rw [List.nil_append] at hfollows
  rcases hfollows key with ⟨_, hunnamed⟩ | ⟨initial, text', reported, _, hbuilt⟩
  · exact absurd hreport (hunnamed.report text)
  · refine ⟨initial, hbuilt.added, hbuilt.once, ?_⟩
    rw [(hbuilt.report text hreport).1]
    exact hbuilt.whole

end Parts

end GreenTyper.Lib
