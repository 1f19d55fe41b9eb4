/-
  GreenTyper.Provider.ResponsesText — the text that a Responses stream reports as final, and
  the deltas its decoder emits.

  What the stream says of its message parts is a trace of added, delta and reported texts
  (`partEvents`), read off the wire events alone. An accepted event moves the parts of the
  state by exactly that trace (`processEvent_parts`), so a reported text is the text the
  part was added with and all its deltas; only the deltas are emitted.
-/

import GreenTyper.Lib.Parts
import GreenTyper.Provider.ResponsesSteps

namespace GreenTyper.Provider

open Lib Responses

/-! ## What the stream says -/

/-- Output index and content index. -/
abbrev PartKey := Nat × Nat

/-- The texts of a finished message item, from the content part at `index` on. -/
def reportedContent (outputIndex : Nat) : Nat → List WireContentPart → List (PartEvent PartKey)
  | _, [] => []
  | index, part :: content =>
    (part.text.map (PartEvent.reported (outputIndex, index))).toList ++ reportedContent outputIndex (index + 1) content

/-- The text of a message's content part, where the part has one. -/
def partText (event : WireContentPartEvent) : Option String := if event.part.kind = "output_text" then event.part.text else none

def partEvents (json : ResponsesJson) (event : SseEvent) : List (PartEvent PartKey) :=
  match json.envelope event.data with
  | none => []
  | some envelope =>
    if envelope.kind = "response.content_part.added" then
      ((json.contentPart event.data).bind fun wire =>
        (partText wire).map (.added (wire.outputIndex, wire.contentIndex))).toList
    else if envelope.kind = "response.output_text.delta" then
      ((json.textDelta event.data).map fun wire => .delta (wire.outputIndex, wire.contentIndex) wire.delta).toList
    else if envelope.kind = "response.output_text.done" then
      ((json.textDone event.data).map fun wire => .reported (wire.outputIndex, wire.contentIndex) wire.text).toList
    else if envelope.kind = "response.content_part.done" then
      ((json.contentPart event.data).bind fun wire =>
        (partText wire).map (.reported (wire.outputIndex, wire.contentIndex))).toList
    else if envelope.kind = "response.output_item.done" then
      match json.outputItem event.data with
      | some wire => if wire.item.kind = "message" then reportedContent wire.outputIndex 0 wire.item.content else []
      | none => []
    else []

/-- What a whole stream says of its message parts. -/
def partTrace (json : ResponsesJson) (bytes : List Byte) : List (PartEvent PartKey) :=
  match framed streamLimits bytes with
  | some events => events.flatMap (partEvents json)
  | none => []

def factDelta (event : ResponsesEvent) : Option (PartEvent PartKey) :=
  match event.kind with
  | .textDelta _ outputIndex contentIndex delta => some (.delta (outputIndex, contentIndex) delta)
  | _ => none

/-- The deltas emitted for one part, joined. -/
def factText (key : PartKey) (facts : List ResponsesEvent) : String := Parts.deltas key (facts.filterMap factDelta)

/-! ## The parts of the state -/

def shownPart (part : TextPartState) : String × Bool := (part.text, part.outputDone || part.contentDone)

def shownItem : Option OutputItemState → Nat → Option (String × Bool)
  | some (.text .message item), content => (item.parts.get content).map shownPart
  | _, _ => none

def messageParts (s : ResponsesState) : Parts PartKey := fun key => shownItem (s.items.get key.1) key.2

section Parts

variable {json : ResponsesJson} {s s' : ResponsesState} {index : Nat} {item : OutputItemState}

/-- An item that shows what it showed before. -/
theorem messageParts_same (h : ResponsesState.Changed s index item s')
    (hsame : shownItem (some item) = shownItem (s.items.get index)) : messageParts s' = messageParts s := by
  funext key
  rw [messageParts, messageParts, h.items, OrdMap.get_insert]
  split
  · rename_i hkey
    rw [← hkey, hsame]
  · rfl

/-- One part of a message item replaced. -/
theorem messageParts_set {content : Nat} {message : TextItemState} {part : TextPartState}
    (hget : s.items.get index = some (.text .message message))
    (h : ResponsesState.Changed s index (.text .message { message with parts := message.parts.insert content part }) s') :
    messageParts s' = (messageParts s).set (index, content) (shownPart part) := by
  funext key
  obtain ⟨index', content'⟩ := key
  rw [messageParts, h.items, OrdMap.get_insert, Parts.set]
  by_cases hindex : index = index'
  · subst hindex
    rw [if_pos rfl, shownItem, OrdMap.get_insert]
    by_cases hcontent : content = content'
    · rw [if_pos hcontent, if_pos (by rw [hcontent])]
      rfl
    · rw [if_neg hcontent, if_neg (fun heq => hcontent (Prod.mk.inj heq).2), messageParts, hget]
      rfl
  · rw [if_neg hindex, if_neg (fun heq => hindex (Prod.mk.inj heq).1)]
    rfl

theorem messageParts_get {content : Nat} {message : TextItemState} {part : TextPartState}
    (hget : s.items.get index = some (.text .message message)) (hpart : message.parts.get content = some part) :
    messageParts s (index, content) = some (shownPart part) := by
  rw [messageParts, hget, shownItem, hpart]
  rfl

/-- A change of a reasoning item shows nothing. -/
theorem shown_reasoning {before : TextItemState} (after : TextItemState)
    (hget : s.items.get index = some (.text .reasoning before)) :
    shownItem (some (.text .reasoning after)) = shownItem (s.items.get index) := by
  funext content
  rw [hget]
  rfl

theorem shown_function {before : FunctionCallState} (after : FunctionCallState)
    (hget : s.items.get index = some (.functionCall before)) :
    shownItem (some (.functionCall after)) = shownItem (s.items.get index) := by
  funext content
  rw [hget]
  rfl

theorem messageParts_of_items (h : s'.items = s.items) : messageParts s' = messageParts s := by
  funext key
  rw [messageParts, messageParts, h]

/-- The checked content of a finished item reports each part as it is. -/
theorem run_reportedContent {message : TextItemState} (hget : s.items.get index = some (.text .message message))
    (hdone : ∀ part ∈ message.parts.values, part.outputDone = true ∧ part.contentDone = true) {kind : String}
    (actual : List WireContentPart) : ∀ n, ResponsesState.validateParts message.parts kind n actual = .ok () →
      (messageParts s).run (reportedContent index n actual) = some (messageParts s) := by
  induction actual with
  | nil => intro n _; rfl
  | cons part actual ih =>
    intro n h
    simp only [ResponsesState.validateParts, bind_ok, okOr_ok, require_ok, exists_const] at h
    obtain ⟨_, state, hstate, ⟨_, htext⟩, hrest⟩ := h
    have hshown := messageParts_get hget hstate
    have hout := (hdone state (OrdMap.mem_values.mpr ⟨n, hstate⟩)).1
    rw [shownPart, hout, Bool.true_or] at hshown
    rw [reportedContent, htext]
    show (messageParts s).run (.reported (index, n) state.text :: reportedContent index (n + 1) actual) = _
    rw [Parts.run, List.foldlM_cons, Parts.step, hshown]
    dsimp only
    rw [if_pos rfl, Parts.set_same hshown]
    exact ih (n + 1) hrest

end Parts

/-! ## One event -/

section Event

variable {json : ResponsesJson} {s s' : ResponsesState} {event : SseEvent} {data : String} {emitted : Option ResponsesEventKind}

/-- What a handler does to the message parts, and the delta it emits. -/
structure Moves (s : ResponsesState) (trace : List (PartEvent PartKey)) (s' : ResponsesState)
    (emitted : Option ResponsesEventKind) : Prop where
  parts : (messageParts s).run trace = some (messageParts s')
  deltas : emitted.toList.filterMap (fun kind => factDelta ⟨0, kind⟩) = trace.filter (·.isDelta)
  events : s'.events = s.events

theorem Moves.quiet (hparts : messageParts s' = messageParts s) (hevents : s'.events = s.events)
    (hemitted : ∀ kind ∈ emitted, factDelta ⟨0, kind⟩ = none) : Moves s [] s' emitted where
  parts := by rw [hparts]; rfl
  deltas := by
    cases emitted with
    | none => rfl
    | some kind =>
      show [kind].filterMap _ = []
      rw [List.filterMap_cons, hemitted kind rfl]
      rfl
  events := hevents

theorem Moves.one {move : PartEvent PartKey} (hstep : Parts.step (messageParts s) move = some (messageParts s'))
    (hdelta : move.isDelta = false) (hevents : s'.events = s.events) : Moves s [move] s' none where
  parts := by
    rw [Parts.run, List.foldlM_cons, hstep]
    rfl
  deltas := by
    rw [List.filter_cons_of_neg (by simp [hdelta])]
    rfl
  events := hevents

theorem kindOfContentPart_ok {kind : String} {k : TextItemKind} (h : ResponsesState.kindOfContentPart kind = .ok k) :
    (k = .message ∧ kind = "output_text") ∨ (k = .reasoning ∧ kind ≠ "output_text") := by
  rw [ResponsesState.kindOfContentPart] at h
  split at h
  · rename_i hkind
    cases h
    exact .inl ⟨rfl, hkind⟩
  split at h
  · rename_i hkind _
    cases h
    exact .inr ⟨rfl, hkind⟩
  · cases h

theorem contentPartAdded_moves (h : s.contentPartAdded json data = .ok (s', emitted)) :
    Moves s ((json.contentPart data).bind fun wire =>
      (partText wire).map (PartEvent.added (wire.outputIndex, wire.contentIndex))).toList s' emitted := by
  obtain ⟨wire, kind, item, text, hwire, hkind, htext, hget, _, hnew, hchanged, rfl⟩ := ResponsesState.contentPartAdded_ok h
  rw [hwire, Option.bind_some, partText]
  rcases kindOfContentPart_ok hkind with ⟨rfl, hout⟩ | ⟨rfl, hout⟩
  · rw [if_pos hout, htext]
    refine .one ?_ rfl hchanged.events
    have hnone : messageParts s (wire.outputIndex, wire.contentIndex) = none := by
      rw [messageParts, hget, shownItem, hnew]
      rfl
    rw [Parts.step, if_pos hnone, messageParts_set hget hchanged]
    rfl
  · rw [if_neg hout]
    exact .quiet (messageParts_same hchanged (shown_reasoning _ hget)) hchanged.events (by simp)

theorem textDelta_moves {kind : TextItemKind} (h : ResponsesState.textDelta json kind s data = .ok (s', emitted)) :
    Moves s (match kind with
      | .message => ((json.textDelta data).map fun wire =>
          PartEvent.delta (wire.outputIndex, wire.contentIndex) wire.delta).toList
      | .reasoning => []) s' emitted := by
  obtain ⟨wire, item, part, hwire, hget, _, hpart, hout, hcontent, hchanged, rfl⟩ := ResponsesState.textDelta_ok h
  cases kind with
  | message =>
    rw [hwire]
    refine ⟨?_, rfl, hchanged.events⟩
    have hshown := messageParts_get hget hpart
    rw [shownPart, hout, hcontent] at hshown
    show (messageParts s).run [.delta (wire.outputIndex, wire.contentIndex) wire.delta] = _
    rw [Parts.run, List.foldlM_cons, Parts.step, hshown, messageParts_set hget hchanged, shownPart, hout, hcontent]
    rfl
  | reasoning => exact .quiet (messageParts_same hchanged (shown_reasoning _ hget)) hchanged.events (by simp [ResponsesState.emittedDelta])

theorem textDone_moves {kind : TextItemKind} (h : ResponsesState.textDone json kind s data = .ok (s', emitted)) :
    Moves s (match kind with
      | .message => ((json.textDone data).map fun wire =>
          PartEvent.reported (wire.outputIndex, wire.contentIndex) wire.text).toList
      | .reasoning => []) s' emitted := by
  obtain ⟨wire, item, part, hwire, hget, _, hpart, hout, hcontent, htext, hchanged, rfl⟩ := ResponsesState.textDone_ok h
  cases kind with
  | message =>
    rw [hwire]
    refine .one ?_ rfl hchanged.events
    have hshown := messageParts_get hget hpart
    rw [Parts.step, hshown, shownPart, messageParts_set hget hchanged]
    dsimp only
    rw [if_pos htext]
    rfl
  | reasoning => exact .quiet (messageParts_same hchanged (shown_reasoning _ hget)) hchanged.events (by simp)

theorem contentPartDone_moves (h : s.contentPartDone json data = .ok (s', emitted)) :
    Moves s ((json.contentPart data).bind fun wire =>
      (partText wire).map (PartEvent.reported (wire.outputIndex, wire.contentIndex))).toList s' emitted := by
  obtain ⟨wire, kind, item, part, hwire, hkind, htext, hget, _, hpart, hout, hcontent, hchanged, rfl⟩ :=
    ResponsesState.contentPartDone_ok h
  rw [hwire, Option.bind_some, partText]
  rcases kindOfContentPart_ok hkind with ⟨rfl, htype⟩ | ⟨rfl, htype⟩
  · rw [if_pos htype, htext]
    refine .one ?_ rfl hchanged.events
    have hshown := messageParts_get hget hpart
    rw [Parts.step, hshown, shownPart, messageParts_set hget hchanged, shownPart, hout]
    dsimp only
    rw [if_pos rfl]
    rfl
  · rw [if_neg htype]
    exact .quiet (messageParts_same hchanged (shown_reasoning _ hget)) hchanged.events (by simp)

theorem outputItemDone_moves (h : s.outputItemDone json data = .ok (s', emitted)) :
    Moves s (match json.outputItem data with
      | some wire => if wire.item.kind = "message" then reportedContent wire.outputIndex 0 wire.item.content else []
      | none => []) s' emitted := by
  obtain ⟨wire, hwire, ⟨kind, item, hget, _, hkind, hparts, hcontent, hchanged, rfl⟩ |
    ⟨f, argumentsJson, hget, _, _, hkind, _, hchanged, rfl⟩⟩ := ResponsesState.outputItemDone_ok h
  · rw [hwire]
    dsimp only
    cases kind with
    | message =>
      have hsame : messageParts s' = messageParts s :=
        messageParts_same hchanged (by rw [hget]; rfl)
      simp only [ResponsesState.validateTextContent, bind_ok, require_ok] at hcontent
      obtain ⟨_, _, hvalid⟩ := hcontent
      rw [if_pos (show wire.item.kind = "message" from hkind)]
      refine ⟨by rw [hsame]; exact run_reportedContent hget hparts _ 0 hvalid, ?_, hchanged.events⟩
      have hnone : ∀ n content, (reportedContent wire.outputIndex n content).filter (·.isDelta) = [] := by
        intro n content
        induction content generalizing n with
        | nil => rfl
        | cons part content ih =>
          rw [reportedContent, List.filter_append, ih]
          cases part.text <;> rfl
      exact (hnone _ _).symm
    | reasoning =>
      rw [if_neg (by rw [hkind]; decide)]
      exact .quiet (messageParts_same hchanged (shown_reasoning _ hget)) hchanged.events (by simp)
  · rw [hwire]
    dsimp only
    rw [if_neg (by rw [hkind]; decide)]
    exact .quiet (messageParts_same hchanged (shown_function _ hget)) hchanged.events (by
      intro kind hmem
      cases hmem
      rfl)

theorem ended_moves (hstate : s' = { s with terminal := true }) (hemitted : ∀ kind ∈ emitted, factDelta ⟨0, kind⟩ = none) :
    Moves s [] s' emitted := by
  subst hstate
  exact .quiet (messageParts_of_items rfl) rfl hemitted

theorem broken_quiet (h : ∃ kind, emitted = some kind ∧ ResponsesState.Broken kind) :
    ∀ kind ∈ emitted, factDelta ⟨0, kind⟩ = none := by
  obtain ⟨kind, rfl, hbroken⟩ := h
  intro kind' hmem
  cases hmem
  cases kind with
  | failed | incomplete | error => rfl
  | created | textDelta | functionCall | completed => cases hbroken

/-- An accepted event moves the message parts by what it says of them. -/
theorem processEvent_parts (h : s.processEvent json event = .ok s') :
    (messageParts s).run (partEvents json event) = some (messageParts s') ∧
      s'.events.filterMap factDelta = s.events.filterMap factDelta ++ (partEvents json event).filter (·.isDelta) := by
  obtain ⟨envelope, s1, emitted, henvelope, _, hhandle, rfl⟩ := ResponsesState.processEvent_ok h
  suffices hmoves : Moves s (partEvents json event) s1 emitted by
    refine ⟨hmoves.parts, ?_⟩
    rw [← hmoves.deltas, ← hmoves.events, List.filterMap_append]
    cases emitted <;> rfl
  rw [partEvents, henvelope]
  dsimp only
  unfold ResponsesState.handle at hhandle
  split at hhandle
  case h_17 => cases hhandle
  all_goals
    rename_i hkind
    simp only [hkind, String.reduceEq, if_true, if_false]
  · obtain ⟨id, _, _, rfl, rfl⟩ := ResponsesState.created_ok hhandle
    exact .quiet (messageParts_of_items rfl) rfl (by simp [factDelta])
  · obtain ⟨rfl, rfl⟩ := ResponsesState.inProgress_ok hhandle
    exact .quiet rfl rfl (by simp)
  · obtain ⟨index, wire, item, _, hnew, hitem, hchanged, rfl⟩ := ResponsesState.outputItemAdded_ok hhandle
    refine .quiet (messageParts_same hchanged ?_) hchanged.events (by simp)
    rw [hnew]
    rcases ResponsesState.addedItem_ok hitem with ⟨kind, rfl⟩ | ⟨callId, name, _, _, rfl⟩
    · cases kind <;> rfl
    · rfl
  · exact contentPartAdded_moves hhandle
  · exact textDelta_moves hhandle
  · exact textDone_moves hhandle
  · exact textDelta_moves hhandle
  · exact textDone_moves hhandle
  · exact contentPartDone_moves hhandle
  · obtain ⟨index, f, f', hget, _, _, hchanged, rfl⟩ := ResponsesState.functionArgumentsDelta_ok hhandle
    exact .quiet (messageParts_same hchanged (shown_function _ hget)) hchanged.events (by simp)
  · obtain ⟨wire, f, canonical, _, hget, _, _, _, hchanged, rfl⟩ := ResponsesState.functionArgumentsDone_ok hhandle
    exact .quiet (messageParts_same hchanged (shown_function _ hget)) hchanged.events (by simp)
  · exact outputItemDone_moves hhandle
  · obtain ⟨wire, tier, _, _, _, _, hstate, rfl⟩ := ResponsesState.completed_ok hhandle
    exact ended_moves hstate (by simp [factDelta])
  · obtain ⟨hstate, hemitted⟩ := ResponsesState.failed_ok hhandle
    exact ended_moves hstate (broken_quiet hemitted)
  · obtain ⟨hstate, hemitted⟩ := ResponsesState.incomplete_ok hhandle
    exact ended_moves hstate (broken_quiet hemitted)
  · obtain ⟨hstate, hemitted⟩ := ResponsesState.error_ok hhandle
    exact ended_moves hstate (broken_quiet hemitted)

/-- The events of a stream in order move the parts by the stream's trace. -/
theorem processEvents_parts (events : List SseEvent) : ∀ {s s' : ResponsesState}, events.foldlM (ResponsesState.processEvent json) s = .ok s' →
    (messageParts s).run (events.flatMap (partEvents json)) = some (messageParts s') ∧
      s'.events.filterMap factDelta =
        s.events.filterMap factDelta ++ (events.flatMap (partEvents json)).filter (·.isDelta) := by
  induction events with
  | nil =>
    intro s s' h
    cases h
    exact ⟨rfl, (List.append_nil _).symm⟩
  | cons event events ih =>
    intro s s' h
    rw [List.foldlM_cons, bind_ok] at h
    obtain ⟨s1, hevent, hrest⟩ := h
    obtain ⟨hrun, hdeltas⟩ := processEvent_parts hevent
    obtain ⟨hrun', hdeltas'⟩ := ih hrest
    rw [List.flatMap_cons]
    refine ⟨?_, ?_⟩
    · rw [Parts.run, List.foldlM_append]
      show ((messageParts s).run (partEvents json event)).bind (Parts.run · _) = _
      rw [hrun, Option.bind_some, hrun']
    · rw [hdeltas', hdeltas, List.filter_append, List.append_assoc]

end Event

/-! ## The whole stream -/

/-- Each text that the stream reports as final is what was emitted for its part. -/
def TextExact (trace : List (PartEvent PartKey)) (facts : List ResponsesEvent) : Prop :=
  ∀ key text, .reported key text ∈ trace → factText key facts = text

/-- No part whose text is reported was added with text. -/
def AddedEmpty (trace : List (PartEvent PartKey)) : Prop :=
  ∀ key text initial, .reported key text ∈ trace → .added key initial ∈ trace → initial = ""

def textOf : ProviderEvent → Option String
  | .textDelta text => some text
  | _ => none

def deltaText : ResponsesEvent → Option String
  | ⟨_, .textDelta _ _ _ delta⟩ => some delta
  | _ => none

/-- Normalizing keeps the deltas and adds no text. -/
theorem normalizeResponses_text (facts : List ResponsesEvent) : ∀ {id : Option String} {first done : Bool} {out : List ProviderEvent},
    normalizeResponsesFrom id first done facts = .ok out → out.filterMap textOf = facts.filterMap deltaText := by
  induction facts with
  | nil =>
    intro id first done out h
    simp only [normalizeResponsesFrom, bind_ok, pure, Except.pure, Except.ok.injEq] at h
    obtain ⟨_, _, rfl⟩ := h
    rfl
  | cons event facts ih =>
    intro id first done out h
    obtain ⟨sequence, kind⟩ := event
    cases kind with
    | created created =>
      simp only [normalizeResponsesFrom, bind_ok] at h
      obtain ⟨_, _, _, _, h⟩ := h
      exact ih h
    | textDelta item index content delta =>
      simp only [normalizeResponsesFrom, bind_ok, pure, Except.pure, Except.ok.injEq] at h
      obtain ⟨_, _, _, _, rest, hrest, rfl⟩ := h
      exact congrArg (delta :: ·) (ih hrest)
    | functionCall item index callId name argumentsJson =>
      simp only [normalizeResponsesFrom, bind_ok, pure, Except.pure, Except.ok.injEq] at h
      obtain ⟨_, _, _, _, call, _, rest, hrest, rfl⟩ := h
      have hsame := ih hrest
      exact hsame
    | completed terminal usage tier =>
      simp only [normalizeResponsesFrom, bind_ok, pure, Except.pure, Except.ok.injEq] at h
      obtain ⟨_, _, _, _, record, _, rest, hrest, rfl⟩ := h
      have hsame := ih hrest
      exact hsame
    | failed | incomplete | error =>
      simp only [normalizeResponsesFrom, bind_ok, reduceCtorEq, and_false, exists_false] at h

theorem responses_text_exact (json : ResponsesJson) {maxOutput : Nat} {d : ResponsesSseDecoder}
    (hnew : ResponsesSseDecoder.new maxOutput = .ok d) {chunks : List (List Byte)} {facts : List ResponsesEvent}
    (haccept : (d.pushes (responsesDialect json) chunks).finish (responsesDialect json) = .ok facts) :
    (TextExact (partTrace json chunks.flatten) facts ↔ AddedEmpty (partTrace json chunks.flatten)) ∧
      facts.filterMap factDelta = (partTrace json chunks.flatten).filter (·.isDelta) ∧
      ∀ out, normalizeResponsesEvents facts = .ok out → out.filterMap textOf = facts.filterMap deltaText := by
  simp only [ResponsesSseDecoder.new, bind_ok, pure, Except.pure, Except.ok.injEq] at hnew
  obtain ⟨_, _, rfl⟩ := hnew
  have hdecode := pushes_finish (D := responsesDialect json) ⟨maxOutput, 0, none, .empty, none, false, []⟩ chunks
  rw [haccept] at hdecode
  obtain ⟨events, last, hframed, hfold, _, rfl⟩ := decode_some hdecode.symm
  obtain ⟨hrun, hdeltas⟩ := processEvents_parts events hfold
  have htrace : partTrace json chunks.flatten = events.flatMap (partEvents json) := by rw [partTrace, hframed]
  rw [htrace]
  have hempty : messageParts ⟨maxOutput, 0, none, .empty, none, false, []⟩ = Parts.empty := rfl
  rw [hempty] at hrun
  have hemitted : (last.events).filterMap factDelta = (events.flatMap (partEvents json)).filter (·.isDelta) := hdeltas
  have htext : ∀ key, factText key last.events = Parts.deltas key (events.flatMap (partEvents json)) := fun key => by
    rw [factText, hemitted, Parts.deltas_filter]
  refine ⟨⟨fun hexact key text initial hreport hadded => ?_, fun hadded key text hreport => ?_⟩, hemitted,
    fun out hout => normalizeResponses_text _ hout⟩
  · obtain ⟨initial', _, honce, hwhole⟩ := Parts.run_reported hrun hreport
    have hsame : factText key last.events = text := hexact key text hreport
    rw [htext] at hsame
    rw [honce initial hadded]
    rw [← hsame] at hwhole
    have hlength := congrArg String.length hwhole
    rw [String.length_append] at hlength
    exact String.length_eq_zero_iff.mp (by omega)
  · obtain ⟨initial, hadd, _, hwhole⟩ := Parts.run_reported hrun hreport
    show factText key last.events = text
    rw [htext, hwhole, hadded key text initial hreport hadd, String.empty_append]

/-! ## A part added with text -/

namespace InitialText

set_option maxRecDepth 8000

def created := "\x7b\"type\":\"response.created\",\"sequence_number\":1," ++
  "\"response\":\x7b\"id\":\"r1\",\"status\":\"in_progress\"\x7d\x7d"

def added := "\x7b\"type\":\"response.output_item.added\",\"sequence_number\":2,\"output_index\":0," ++
  "\"item\":\x7b\"id\":\"m1\",\"type\":\"message\",\"status\":\"in_progress\"\x7d\x7d"

def partAdded := "\x7b\"type\":\"response.content_part.added\",\"sequence_number\":3,\"item_id\":\"m1\",\"output_index\":0," ++
  "\"content_index\":0,\"part\":\x7b\"type\":\"output_text\",\"text\":\"Hi\"\x7d\x7d"

def delta := "\x7b\"type\":\"response.output_text.delta\",\"sequence_number\":4,\"item_id\":\"m1\",\"output_index\":0," ++
  "\"content_index\":0,\"delta\":\" you\"\x7d"

def textDone := "\x7b\"type\":\"response.output_text.done\",\"sequence_number\":5,\"item_id\":\"m1\",\"output_index\":0," ++
  "\"content_index\":0,\"text\":\"Hi you\"\x7d"

def partDone := "\x7b\"type\":\"response.content_part.done\",\"sequence_number\":6,\"item_id\":\"m1\",\"output_index\":0," ++
  "\"content_index\":0,\"part\":\x7b\"type\":\"output_text\",\"text\":\"Hi you\"\x7d\x7d"

def itemDone := "\x7b\"type\":\"response.output_item.done\",\"sequence_number\":7,\"output_index\":0,\"item\":\x7b\"id\":\"m1\"," ++
  "\"type\":\"message\",\"status\":\"completed\",\"content\":[\x7b\"type\":\"output_text\",\"text\":\"Hi you\"\x7d]\x7d\x7d"

def completed := "\x7b\"type\":\"response.completed\",\"sequence_number\":8," ++
  "\"response\":\x7b\"id\":\"r1\",\"status\":\"completed\"\x7d\x7d"

def datas : List String := [created, added, partAdded, delta, textDone, partDone, itemDone, completed]

def stream : List Byte := datas.flatMap fun data => utf8 ("data: " ++ data) ++ [lf, lf]

/-- What `serde_json` reads from these texts. -/
def json : ResponsesJson where
  envelope := lookup [(created, ⟨"response.created", 1⟩), (added, ⟨"response.output_item.added", 2⟩),
    (partAdded, ⟨"response.content_part.added", 3⟩), (delta, ⟨"response.output_text.delta", 4⟩),
    (textDone, ⟨"response.output_text.done", 5⟩), (partDone, ⟨"response.content_part.done", 6⟩),
    (itemDone, ⟨"response.output_item.done", 7⟩), (completed, ⟨"response.completed", 8⟩)]
  response := lookup [(created, ⟨"r1", some "in_progress", none, none, none, none⟩),
    (completed, ⟨"r1", some "completed", none, none, none, none⟩)]
  outputItem := lookup [(added, ⟨0, ⟨"m1", "message", some "in_progress", none, none, none, []⟩⟩),
    (itemDone, ⟨0, ⟨"m1", "message", some "completed", none, none, none, [⟨"output_text", some "Hi you"⟩]⟩⟩)]
  contentPart := lookup [(partAdded, ⟨"m1", 0, 0, ⟨"output_text", some "Hi"⟩⟩),
    (partDone, ⟨"m1", 0, 0, ⟨"output_text", some "Hi you"⟩⟩)]
  textDelta := lookup [(delta, ⟨"m1", 0, 0, " you"⟩)]
  textDone := lookup [(textDone, ⟨"m1", 0, 0, "Hi you"⟩)]
  argumentsDelta _ := none
  argumentsDone _ := none
  error _ := none
  value _ := none

def start : ResponsesState := ⟨maxOutputBytes, 0, none, .empty, none, false, []⟩

def facts : List ResponsesEvent := [⟨1, .created "r1"⟩, ⟨4, .textDelta "m1" 0 0 " you"⟩, ⟨8, .completed "r1" none none⟩]

theorem framed_stream : framed streamLimits stream = some (datas.map (⟨"message", ·⟩)) :=
  framed_data (by decide) (by decide) (by decide)

theorem accepted : ((Decoder.new start).pushes (responsesDialect json) [stream]).finish (responsesDialect json) = .ok facts := by
  refine pushes_ok ?_
  rw [List.flatten_singleton, Dialect.decode, framed_stream]
  decide

theorem trace_stream : partTrace json stream = [.added (0, 0) "Hi", .delta (0, 0) " you", .reported (0, 0) "Hi you",
    .reported (0, 0) "Hi you", .reported (0, 0) "Hi you"] := by
  rw [partTrace, framed_stream]
  decide

end InitialText

/-- The text a part was added with is reported as final, and never emitted: `Hi you` arrives as ` you`. -/
theorem initial_text_lost : ResponsesSseDecoder.new maxOutputBytes = .ok (Decoder.new InitialText.start) ∧
    ((Decoder.new InitialText.start).pushes (responsesDialect InitialText.json) [InitialText.stream]).finish
      (responsesDialect InitialText.json) = .ok InitialText.facts ∧
    ¬ TextExact (partTrace InitialText.json [InitialText.stream].flatten) InitialText.facts := by
  refine ⟨rfl, InitialText.accepted, fun hexact => ?_⟩
  rw [List.flatten_singleton, InitialText.trace_stream] at hexact
  exact absurd (hexact (0, 0) "Hi you" (by decide)) (by decide)

theorem responses_text_exact_initial :
    (TextExact (partTrace InitialText.json [InitialText.stream].flatten) InitialText.facts ↔
      AddedEmpty (partTrace InitialText.json [InitialText.stream].flatten)) ∧
      InitialText.facts.filterMap factDelta = (partTrace InitialText.json [InitialText.stream].flatten).filter (·.isDelta) ∧
      ∀ out, normalizeResponsesEvents InitialText.facts = .ok out →
        out.filterMap textOf = InitialText.facts.filterMap deltaText :=
  responses_text_exact InitialText.json (show ResponsesSseDecoder.new maxOutputBytes = .ok (Decoder.new InitialText.start) by rfl)
    InitialText.accepted

end GreenTyper.Provider
