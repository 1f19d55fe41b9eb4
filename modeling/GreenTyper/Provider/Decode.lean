/-
  GreenTyper.Provider.Decode — a decoder's facts from the bytes alone.

  What a decoder would finish with after more bytes (`Decodes`) is unchanged by a push of
  their first part, so any chunks of a stream give `decode` of its bytes (`pushes_finish`):
  the grammar's events, processed in order within the event limit.
-/

import GreenTyper.Provider.Decoder

namespace GreenTyper.Provider

open Lib

variable {σ φ ε : Type} {D : Dialect σ φ ε}

/-- The facts after more SSE events from a state that has processed `count` of them. -/
def Dialect.continue (D : Dialect σ φ ε) (count : Nat) (state : σ) (framed : List SseEvent) : Option (List φ) :=
  if count + framed.length > maxEvents then none
  else
    match framed.foldlM D.processEvent state with
    | .error _ => none
    | .ok state => if D.terminal state then some (D.events state) else none

def Dialect.decode (D : Dialect σ φ ε) (state : σ) (bytes : List Byte) : Option (List φ) :=
  (framed streamLimits bytes).bind (D.continue 0 state)

/-- The decoder after the chunks, whatever the pushes returned. -/
def Decoder.pushes (D : Dialect σ φ ε) (d : Decoder σ) (chunks : List (List Byte)) : Decoder σ :=
  chunks.foldl (fun d chunk => (d.push D chunk).1) d

/-- A decoder between pushes, and what it would finish with after more bytes. -/
structure Live (D : Dialect σ φ ε) (d : Decoder σ) (after : List Byte → Option (List φ)) : Prop where
  clean : d.poisoned = false
  sse : d.sse.poisoned = false
  taken : d.sse.events = []
  drained : Drained d.sse
  count : d.processedSseEvents ≤ maxEvents
  ahead : ∃ st, Shows d.sse st ∧
    ∀ more, (aheadWithin d.sse st more).bind (D.continue d.processedSseEvents d.state) = after more

def Decodes (D : Dialect σ φ ε) (d : Decoder σ) (after : List Byte → Option (List φ)) : Prop :=
  (d.poisoned = true ∧ ∀ more, after more = none) ∨ Live D d after

theorem continue_over {count : Nat} (state : σ) {framed : List SseEvent} (h : count + framed.length > maxEvents) :
    D.continue count state framed = none := if_pos h

/-- The loop over framed events: through all of them, or to an error that nothing after it mends. -/
theorem processFramed_spec (framed : List SseEvent) : ∀ d : Decoder σ, d.processedSseEvents ≤ maxEvents →
    (∃ d', d.processFramedEvents D framed = (d', .ok ()) ∧ d'.sse = d.sse ∧ d'.poisoned = d.poisoned ∧
        d'.processedSseEvents = d.processedSseEvents + framed.length ∧ d'.processedSseEvents ≤ maxEvents ∧
        framed.foldlM D.processEvent d.state = .ok d'.state) ∨
      (∃ d' e, d.processFramedEvents D framed = (d', .error e) ∧
        ∀ rest, D.continue d.processedSseEvents d.state (framed ++ rest) = none) := by
  induction framed with
  | nil =>
    intro d hd
    exact .inl ⟨d, rfl, rfl, rfl, rfl, hd, rfl⟩
  | cons event framed ih =>
    intro d hd
    rw [Decoder.processFramedEvents]
    cases hevent : D.processEvent d.state event with
    | error e =>
      refine .inr ⟨_, _, rfl, fun rest => ?_⟩
      rw [Dialect.continue, List.cons_append, List.foldlM_cons, hevent]
      split <;> rfl
    | ok state =>
      have hlimit : maxEvents < 2 ^ 64 - 1 := by decide
      have hcount : d.processedSseEvents + 1 < 2 ^ 64 := by omega
      rw [checkedAdd_some.mpr ⟨hcount, rfl⟩]
      dsimp only
      split
      · rename_i hover
        refine .inr ⟨_, _, rfl, fun rest => continue_over _ ?_⟩
        rw [List.length_append, List.length_cons]
        omega
      · rename_i hle
        have hstep : ∀ rest, D.continue d.processedSseEvents d.state (event :: framed ++ rest) =
            D.continue (d.processedSseEvents + 1) state (framed ++ rest) := by
          intro rest
          have hlen : d.processedSseEvents + (event :: framed ++ rest).length =
              d.processedSseEvents + 1 + (framed ++ rest).length := by
            rw [List.cons_append, List.length_cons]
            omega
          rw [Dialect.continue, Dialect.continue, hlen, List.cons_append, List.foldlM_cons, hevent]
          rfl
        rcases ih { d with state := state, processedSseEvents := d.processedSseEvents + 1 } (Nat.not_lt.mp hle) with
          ⟨d', heq, hsse, hpoisoned, hcount', hmax, hfold⟩ | ⟨d', e, heq, hnone⟩
        · refine .inl ⟨d', heq, hsse, hpoisoned, ?_, hmax, ?_⟩
          · dsimp only at hcount'
            rw [hcount', List.length_cons]
            omega
          · rw [List.foldlM_cons, hevent]
            exact hfold
        · exact .inr ⟨d', e, heq, fun rest => (hstep rest).trans (hnone rest)⟩

theorem continue_append {count : Nat} {state state' : σ} {first : List SseEvent}
    (h : first.foldlM D.processEvent state = .ok state') (rest : List SseEvent) :
    D.continue count state (first ++ rest) = D.continue (count + first.length) state' rest := by
  rw [Dialect.continue, Dialect.continue, List.length_append, Nat.add_assoc, List.foldlM_append, h]
  rfl

/-- Events that were dispatched before come first. -/
theorem through_events {limits : SseLimits} {st : Fold} (lines : Lines) :
    st.through limits lines = (Fold.through limits { st with events := [] } lines).map (st.events ++ ·) := by
  have hline : ∀ (st : Fold) (line : List Byte), st.line limits line =
      (Fold.line limits { st with events := [] } line).map fun st' => { st' with events := st.events ++ st'.events } := by
    intro st line
    rw [Fold.line, Fold.line]
    split
    · rfl
    split
    · rw [Option.map_some, Fold.dispatch, Fold.dispatch]
      dsimp only
      split
      · rw [List.append_nil]
      · rfl
    split
    · rw [Option.map_some, List.append_nil]
    · cases fromUtf8 line with
      | none => rfl
      | some text =>
        dsimp only [Option.bind_some]
        rw [Fold.field, Fold.field]
        split
        · rw [Option.map_some, List.append_nil]
        split
        · split
          · rw [Option.map_some, List.append_nil]
          · rfl
        · rw [Option.map_some, List.append_nil]
  obtain ⟨ls, rest⟩ := lines
  induction ls generalizing st with
  | nil =>
    rw [Fold.through, Fold.through]
    show (if rest = [] ∧ st.eventType = none ∧ st.data = [] then some st.events else none) =
      Option.map (st.events ++ ·) (if rest = [] ∧ st.eventType = none ∧ st.data = [] then some [] else none)
    split
    · rw [Option.map_some, List.append_nil]
    · rfl
  | cons line ls ih =>
    have hcons : ∀ st : Fold, st.through limits (line :: ls, rest) =
        (st.line limits line).bind fun st' => st'.through limits (ls, rest) := by
      intro st
      rw [Fold.through, List.foldlM_cons]
      cases st.line limits line <;> rfl
    rw [hcons, hcons, hline]
    cases Fold.line limits { st with events := [] } line with
    | none => rfl
    | some st' =>
      rw [Option.map_some, Option.bind_some, Option.bind_some, ih]
      conv => rhs; rw [ih]
      rw [Option.map_map]
      congr 1
      funext events
      rw [Function.comp_apply, List.append_assoc]

/-- Taking the events out of the parser takes them out of what lies ahead. -/
theorem aheadWithin_take {p : SseParser} {st : Fold} (more : List Byte) : aheadWithin p st more =
    (aheadWithin p.takeEvents.1 { st with events := [] } more).map (st.events ++ ·) := by
  rw [aheadWithin, aheadWithin, SseParser.takeEvents, ahead, ahead]
  dsimp only
  split
  · rfl
  · exact through_events _

section Push

variable {d : Decoder σ} {after : List Byte → Option (List φ)}

theorem sse_push (h : d.sse.poisoned = false) {st : Fold} (hshows : Shows d.sse st) (chunk : List Byte) :
    (∃ p st', d.sse.push chunk = (p, .ok ()) ∧ Shows p st' ∧ p.poisoned = false ∧ Drained p ∧
        ∀ more, aheadWithin d.sse st (chunk ++ more) = aheadWithin p st' more) ∨
      (∃ p e, d.sse.push chunk = (p, .error e) ∧ ∀ more, aheadWithin d.sse st (chunk ++ more) = none) := by
  rw [SseParser.push, if_neg (by simp [h])]
  rcases pushInner_spec hshows chunk false with ⟨p, st', b, heq, hshows', hclean, hmore, _, hd⟩ | ⟨p, e, heq, hnone⟩
  · rw [heq]
    exact .inl ⟨p, st', rfl, hshows', hclean.trans h, hd rfl, fun more => (hmore more).symm⟩
  · rw [heq]
    exact .inr ⟨_, e, rfl, hnone⟩

theorem push_poisoned (h : d.poisoned = true) (chunk : List Byte) : d.push D chunk = (d, .error D.poisoned) := if_pos h

/-- A push leaves the decoder live, or fails for good. -/
theorem push_live (h : Live D d after) (chunk : List Byte) :
    (∃ d', d.push D chunk = (d', .ok ()) ∧ Live D d' fun more => after (chunk ++ more)) ∨
      (∃ d' e, d.push D chunk = (d', .error e) ∧ d'.poisoned = true ∧ ∀ more, after (chunk ++ more) = none) := by
  obtain ⟨st, hshows, hahead⟩ := h.ahead
  rw [Decoder.push, if_neg (by simp [h.clean]), Decoder.pushInner]
  rcases sse_push h.sse hshows chunk with ⟨p, st', heq, hshows', hclean, hdrained, hmore⟩ | ⟨p, e, heq, hnone⟩
  · have hafter : ∀ more, after (chunk ++ more) = (aheadWithin p.takeEvents.1 { st' with events := [] } more).bind
        fun rest => D.continue d.processedSseEvents d.state (p.events ++ rest) := by
      intro more
      rw [← hahead, hmore, aheadWithin_take, hshows'.events, Option.bind_map]
      rfl
    rw [heq]
    dsimp only
    rcases processFramed_spec (D := D) p.takeEvents.2 { d with sse := p.takeEvents.1 } h.count with
      ⟨d', hprocess, hsse, hpoisoned, hcount, hmax, hfold⟩ | ⟨d', e, hprocess, hnone⟩
    · rw [hprocess]
      refine .inl ⟨d', rfl, hpoisoned.trans h.clean, by rw [hsse]; exact hclean, by rw [hsse]; rfl, by rw [hsse]; exact hdrained,
        hmax, { st' with events := [] }, ?_, fun more => ?_⟩
      · rw [hsse]
        exact ⟨hshows'.eventType, hshows'.count, hshows'.data, rfl, hshows'.bounded⟩
      · rw [hafter, hsse]
        congr 1
        funext rest
        rw [hcount]
        exact (continue_append hfold rest).symm
    · rw [hprocess]
      refine .inr ⟨_, e, rfl, rfl, fun more => ?_⟩
      rw [hafter]
      cases aheadWithin p.takeEvents.1 { st' with events := [] } more with
      | none => rfl
      | some rest => exact hnone rest
  · rw [heq]
    refine .inr ⟨_, _, rfl, rfl, fun more => ?_⟩
    rw [← hahead, hnone]
    rfl

theorem push_decodes (h : Decodes D d after) (chunk : List Byte) :
    Decodes D (d.push D chunk).1 fun more => after (chunk ++ more) := by
  rcases h with ⟨hpoisoned, hnone⟩ | hlive
  · rw [push_poisoned hpoisoned]
    exact .inl ⟨hpoisoned, fun more => hnone _⟩
  · rcases push_live hlive chunk with ⟨d', heq, hlive'⟩ | ⟨d', e, heq, hpoisoned, hnone⟩
    · rw [heq]
      exact .inr hlive'
    · rw [heq]
      exact .inl ⟨hpoisoned, hnone⟩

theorem pushes_decode (chunks : List (List Byte)) : ∀ {d : Decoder σ} {after : List Byte → Option (List φ)}, Decodes D d after →
    Decodes D (d.pushes D chunks) fun more => after (chunks.flatten ++ more) := by
  induction chunks with
  | nil => intro d after h; exact h
  | cons chunk chunks ih =>
    intro d after h
    have hrest := ih (push_decodes h chunk)
    simp only [List.flatten_cons, List.append_assoc]
    exact hrest

theorem sse_finish (h : d.sse.poisoned = false) {st : Fold} (hshows : Shows d.sse st) :
    d.sse.finish.toOption = aheadWithin d.sse st [] :=
  finish_awaits (.inr ⟨h, st, hshows, fun _ => rfl⟩)

/-- Between pushes no event is framed that is not processed: the end of the stream frames none. -/
theorem finish_frames (h : Live D d after) {framed : List SseEvent} (hfinish : d.sse.finish = .ok framed) : framed = [] := by
  obtain ⟨st, hshows, _⟩ := h.ahead
  have hsome := sse_finish h.sse hshows
  rw [hfinish, aheadWithin, drained_through hshows h.drained] at hsome
  split at hsome
  · cases hsome
  split at hsome
  · cases hsome
  · exact (Option.some.inj hsome).trans h.taken

theorem finish_decodes (h : Decodes D d after) : (d.finish D).toOption = after [] := by
  rcases h with ⟨hpoisoned, hnone⟩ | h
  · rw [Decoder.finish, if_pos hpoisoned, hnone]
    rfl
  · obtain ⟨st, hshows, hahead⟩ := h.ahead
    have hsse := sse_finish h.sse hshows
    rw [Decoder.finish, if_neg (by simp [h.clean]), ← hahead, ← hsse]
    cases hfinish : d.sse.finish with
    | error e => rfl
    | ok framed =>
      dsimp only [Except.toOption, Option.bind_some]
      rcases processFramed_spec (D := D) framed d h.count with ⟨d', hprocess, _, _, hcount, hmax, hfold⟩ | ⟨d', e, hprocess, hnone⟩
      · have hend := @continue_append σ φ ε D d.processedSseEvents _ _ _ hfold []
        rw [List.append_nil, ← hcount] at hend
        rw [hprocess, hend, Dialect.continue, if_neg (by rw [List.length_nil]; omega)]
        show (if D.terminal d'.state then _ else _ : Except ε (List φ)).toOption = _
        dsimp only [List.foldlM_nil, pure, Except.pure]
        split <;> rfl
      · have hend := hnone []
        rw [List.append_nil] at hend
        rw [hprocess, hend]

theorem new_live (state : σ) : Live D (.new state) (D.decode state) where
  clean := rfl
  sse := rfl
  taken := rfl
  drained := ⟨rfl, fun _ => rfl⟩
  count := Nat.zero_le _
  ahead := by
    refine ⟨⟨none, [], []⟩, ⟨rfl, rfl, String.intercalate_nil.symm, rfl, Nat.zero_le _⟩, fun more => ?_⟩
    rw [Dialect.decode, framed, aheadWithin, Decoder.new, SseParser.new, Nat.zero_add]
    rfl

/-- However the stream is cut into chunks, the decoder gives what the dialect makes of its bytes. -/
theorem pushes_finish (state : σ) (chunks : List (List Byte)) :
    (((Decoder.new state).pushes D chunks).finish D).toOption = D.decode state chunks.flatten := by
  have h := finish_decodes (pushes_decode chunks (.inr (new_live (D := D) state)))
  rwa [List.append_nil] at h

/-- The events and the last state of an accepted stream. -/
theorem decode_some {state : σ} {bytes : List Byte} {facts : List φ} (h : D.decode state bytes = some facts) :
    ∃ framed' last, framed streamLimits bytes = some framed' ∧ framed'.foldlM D.processEvent state = .ok last ∧
      D.terminal last = true ∧ facts = D.events last := by
  rw [Dialect.decode] at h
  obtain ⟨framed', hframed, h⟩ := Option.bind_eq_some_iff.mp h
  rw [Dialect.continue] at h
  split at h
  · cases h
  cases hfold : framed'.foldlM D.processEvent state with
  | error e =>
    rw [hfold] at h
    cases h
  | ok last =>
    rw [hfold] at h
    dsimp only at h
    split at h
    · rename_i hterminal
      exact ⟨framed', last, hframed, hfold, hterminal, (Option.some.inj h).symm⟩
    · cases h

end Push

/-- Where `decode` is evaluated, the decoder need not be. -/
theorem pushes_ok {state : σ} {chunks : List (List Byte)} {facts : List φ} (h : D.decode state chunks.flatten = some facts) :
    ((Decoder.new state).pushes D chunks).finish D = .ok facts := by
  have hfinish := (pushes_finish (D := D) state chunks).trans h
  cases hresult : ((Decoder.new state).pushes D chunks).finish D with
  | error e =>
    rw [hresult] at hfinish
    cases hfinish
  | ok out =>
    rw [hresult] at hfinish
    cases hfinish
    rfl

theorem exists_concat {α : Type} {l : List α} {a : α} {p : α → Prop} : (∃ x ∈ l ++ [a], p x) ↔ (∃ x ∈ l, p x) ∨ p a := by
  simp only [List.mem_append, List.mem_singleton, or_and_right, exists_or, exists_eq_left]

theorem filterMap_concat {α β : Type} (f : α → Option β) (l : List α) (a : α) :
    (l ++ [a]).filterMap f = l.filterMap f ++ (f a).toList := by
  rw [List.filterMap_append]
  cases h : f a <;> simp [h]

/-- A reader of some texts only, as a table. -/
def lookup {α : Type} (table : List (String × α)) (text : String) : Option α :=
  (table.find? fun entry => entry.1 = text).map (·.2)

end GreenTyper.Provider
