/-
  GreenTyper.Provider.ResponsesSteps — what each Responses event does when it is accepted.

  One lemma for each handler names the wire event, the checks a later proof uses, and the
  whole change of the state; `processEvent_ok` adds what every event does.
-/

import GreenTyper.Provider.Decode
import GreenTyper.Provider.Responses

namespace GreenTyper.Provider.ResponsesState

open Lib Responses

variable {json : ResponsesJson} {s s' : ResponsesState} {data : String} {emitted : Option ResponsesEventKind}

/-! ## Looking up -/

theorem reserveText_ok {bytes : Nat} (h : s.reserveText bytes = .ok s') : s' = { s with totalTextBytes := s'.totalTextBytes } := by
  simp only [reserveText, bind_ok, okOr_ok, require_ok, exists_const, pure, Except.pure, Except.ok.injEq] at h
  obtain ⟨total, _, _, rfl⟩ := h
  rfl

theorem textItemKind_ok {index : Nat} {id : String} {kind : TextItemKind} (h : s.textItemKind index id = .ok kind) :
    ∃ item, s.items.get index = some (.text kind item) := by
  simp only [textItemKind, bind_ok] at h
  obtain ⟨_, _, h⟩ := h
  split at h
  · rename_i kind' item hget
    simp only [bind_ok, require_ok, exists_const, pure, Except.pure, Except.ok.injEq] at h
    exact ⟨item, h.2 ▸ hget⟩
  · cases h

theorem textItem_ok {index : Nat} {id : String} {kind : TextItemKind} {item : TextItemState}
    (h : s.textItem index id kind = .ok item) : s.items.get index = some (.text kind item) := by
  simp only [textItem, bind_ok] at h
  obtain ⟨_, _, h⟩ := h
  split at h
  · rename_i kind' item' hget
    simp only [bind_ok, require_ok, exists_const, pure, Except.pure, Except.ok.injEq] at h
    obtain ⟨⟨rfl, _⟩, rfl⟩ := h
    exact hget
  · cases h

theorem textPart_ok {index content : Nat} {id : String} {kind : TextItemKind} {item : TextItemState} {part : TextPartState}
    (h : s.textPart index content id kind = .ok (item, part)) :
    s.items.get index = some (.text kind item) ∧ item.done = false ∧ item.parts.get content = some part := by
  simp only [textPart, bind_ok, okOr_ok, require_ok, exists_const, pure, Except.pure, Except.ok.injEq, Prod.mk.injEq] at h
  obtain ⟨_, _, item', hitem, hdone, part', hpart, rfl, rfl⟩ := h
  exact ⟨textItem_ok hitem, hdone, hpart⟩

theorem function_ok {index : Nat} {id : String} {f : FunctionCallState} (h : s.function index id = .ok f) :
    s.items.get index = some (.functionCall f) := by
  simp only [function, bind_ok] at h
  obtain ⟨_, _, h⟩ := h
  split at h
  · rename_i f' hget
    simp only [bind_ok, require_ok, exists_const, pure, Except.pure, Except.ok.injEq] at h
    exact h.2 ▸ hget
  · cases h

/-- The index under which a state looked an item up is not new. -/
theorem reserved_items {bytes : Nat} (h : s.reserveText bytes = .ok s') : s'.items = s.items ∧ s'.responseId = s.responseId ∧
    s'.terminal = s.terminal ∧ s'.events = s.events := by
  rw [reserveText_ok h]
  exact ⟨rfl, rfl, rfl, rfl⟩

/-! ## Handlers -/

/-- A change of the items under `index`, and of nothing else but the count of text. -/
structure Changed (s : ResponsesState) (index : Nat) (item : OutputItemState) (s' : ResponsesState) : Prop where
  items : s'.items = s.items.insert index item
  responseId : s'.responseId = s.responseId
  terminal : s'.terminal = s.terminal
  events : s'.events = s.events

theorem Changed.of_setItem (s : ResponsesState) (index : Nat) (item : OutputItemState) : Changed s index item (s.setItem index item) :=
  ⟨rfl, rfl, rfl, rfl⟩

theorem Changed.of_reserved {bytes index : Nat} {item : OutputItemState} (h : s.reserveText bytes = .ok s') :
    Changed s index item (s'.setItem index item) := by
  obtain ⟨hitems, hid, hterminal, hevents⟩ := reserved_items h
  exact ⟨congrArg (·.insert index item) hitems, hid, hterminal, hevents⟩

theorem created_ok (h : s.created json data = .ok (s', emitted)) : ∃ id, s.responseId = none ∧ s.items.size = 0 ∧
    s' = { s with responseId := some id } ∧ emitted = some (.created id) := by
  simp only [created, bind_ok, okOr_ok, require_ok, exists_const, pure, Except.pure, Except.ok.injEq, Prod.mk.injEq] at h
  obtain ⟨event, _, ⟨hid, hitems⟩, _, _, _, _, rfl, rfl⟩ := h
  exact ⟨event.id, hid, hitems, rfl, rfl⟩

theorem inProgress_ok (h : s.inProgress json data = .ok (s', emitted)) : s' = s ∧ emitted = none := by
  simp only [inProgress, bind_ok, pure, Except.pure, Except.ok.injEq, Prod.mk.injEq] at h
  obtain ⟨_, _, _, _, _, _, rfl, rfl⟩ := h
  exact ⟨rfl, rfl⟩

theorem addedItem_ok {wire : WireOutputItem} {item : OutputItemState} (h : addedItem wire = .ok item) :
    (∃ kind, item = .text kind ⟨wire.id, .empty, false⟩) ∨ ∃ callId name, validateIdentifier checkErrors callId = .ok () ∧
      validateToolName checkErrors name = .ok () ∧
      item = .functionCall ⟨wire.id, callId, name, wire.arguments.getD "", none, false, false⟩ := by
  rw [addedItem] at h
  split at h
  · simp only [bind_ok, pure, Except.pure, Except.ok.injEq] at h
    obtain ⟨_, _, hitem⟩ := h
    exact .inl ⟨.message, hitem.symm⟩
  split at h
  · simp only [bind_ok, pure, Except.pure, Except.ok.injEq] at h
    obtain ⟨_, _, hitem⟩ := h
    exact .inl ⟨.reasoning, hitem.symm⟩
  split at h
  · simp only [bind_ok, okOr_ok, pure, Except.pure, Except.ok.injEq] at h
    obtain ⟨_, _, callId, _, name, _, _, hid, _, hname, _, _, hitem⟩ := h
    exact .inr ⟨callId, name, hid, hname, hitem.symm⟩
  · cases h

theorem outputItemAdded_ok (h : s.outputItemAdded json data = .ok (s', emitted)) : ∃ index wire item,
    s.responseId.isSome ∧ s.items.get index = none ∧ addedItem wire = .ok item ∧ Changed s index item s' ∧ emitted = none := by
  simp only [outputItemAdded, requireResponse, bind_ok, okOr_ok, require_ok, exists_const, pure, Except.pure, Except.ok.injEq,
    Prod.mk.injEq] at h
  obtain ⟨hid, event, _, _, _, _, _, hnew, item, hitem, rfl, rfl⟩ := h
  refine ⟨event.outputIndex, event.item, item, hid, ?_, hitem, .of_setItem .., rfl⟩
  exact Option.not_isSome_iff_eq_none.mp (by rw [OrdMap.contains] at hnew; simp [hnew])

theorem contentPartAdded_ok (h : s.contentPartAdded json data = .ok (s', emitted)) : ∃ event kind item text,
    json.contentPart data = some event ∧ kindOfContentPart event.part.kind = .ok kind ∧ event.part.text = some text ∧
      s.items.get event.outputIndex = some (.text kind item) ∧ item.done = false ∧ item.parts.get event.contentIndex = none ∧
      Changed s event.outputIndex (.text kind { item with parts := item.parts.insert event.contentIndex ⟨text, false, false⟩ }) s' ∧
      emitted = none := by
  simp only [contentPartAdded, bind_ok, okOr_ok, require_ok, exists_const, pure, Except.pure, Except.ok.injEq, Prod.mk.injEq] at h
  obtain ⟨event, hevent, _, _, kind, hkind, kind', _, rfl, text, htext, s1, hs1, item, hitem, ⟨hdone, hnew⟩, rfl, rfl⟩ := h
  have hget := textItem_ok hitem
  rw [(reserved_items hs1).1] at hget
  refine ⟨event, kind', item, text, hevent, hkind, htext, hget, hdone, ?_, .of_reserved hs1, rfl⟩
  exact Option.not_isSome_iff_eq_none.mp (by rw [OrdMap.contains] at hnew; simp [hnew])

theorem textDelta_ok {kind : TextItemKind} (h : textDelta json kind s data = .ok (s', emitted)) : ∃ event item part,
    json.textDelta data = some event ∧ s.items.get event.outputIndex = some (.text kind item) ∧ item.done = false ∧
      item.parts.get event.contentIndex = some part ∧ part.outputDone = false ∧ part.contentDone = false ∧
      Changed s event.outputIndex (.text kind { item with
        parts := item.parts.insert event.contentIndex { part with text := part.text ++ event.delta } }) s' ∧
      emitted = emittedDelta event kind := by
  simp only [textDelta, bind_ok, okOr_ok, require_ok, exists_const, Prod.exists, pure, Except.pure, Except.ok.injEq,
    Prod.mk.injEq] at h
  obtain ⟨event, hevent, _, s1, hs1, item, part, hpart, ⟨houtput, hcontent⟩, rfl, rfl⟩ := h
  obtain ⟨hget, hdone, hparts⟩ := textPart_ok hpart
  rw [(reserved_items hs1).1] at hget
  exact ⟨event, item, part, hevent, hget, hdone, hparts, houtput, hcontent, .of_reserved hs1, rfl⟩

theorem textDone_ok {kind : TextItemKind} (h : textDone json kind s data = .ok (s', emitted)) : ∃ event item part,
    json.textDone data = some event ∧ s.items.get event.outputIndex = some (.text kind item) ∧ item.done = false ∧
      item.parts.get event.contentIndex = some part ∧ part.outputDone = false ∧ part.contentDone = false ∧
      part.text = event.text ∧
      Changed s event.outputIndex (.text kind { item with
        parts := item.parts.insert event.contentIndex { part with outputDone := true } }) s' ∧ emitted = none := by
  simp only [textDone, bind_ok, okOr_ok, require_ok, exists_const, Prod.exists, pure, Except.pure, Except.ok.injEq,
    Prod.mk.injEq] at h
  obtain ⟨event, hevent, item, part, hpart, ⟨houtput, hcontent, htext⟩, rfl, rfl⟩ := h
  obtain ⟨hget, hdone, hparts⟩ := textPart_ok hpart
  exact ⟨event, item, part, hevent, hget, hdone, hparts, houtput, hcontent, htext, .of_setItem .., rfl⟩

theorem contentPartDone_ok (h : s.contentPartDone json data = .ok (s', emitted)) : ∃ event kind item part,
    json.contentPart data = some event ∧ kindOfContentPart event.part.kind = .ok kind ∧ event.part.text = some part.text ∧
      s.items.get event.outputIndex = some (.text kind item) ∧ item.done = false ∧
      item.parts.get event.contentIndex = some part ∧ part.outputDone = true ∧ part.contentDone = false ∧
      Changed s event.outputIndex (.text kind { item with
        parts := item.parts.insert event.contentIndex { part with contentDone := true } }) s' ∧ emitted = none := by
  simp only [contentPartDone, bind_ok, okOr_ok, require_ok, exists_const, Prod.exists, pure, Except.pure, Except.ok.injEq,
    Prod.mk.injEq] at h
  obtain ⟨event, hevent, kind, hkind, kind', _, rfl, text, htext, item, part, hpart, ⟨houtput, hcontent, rfl⟩, rfl, rfl⟩ := h
  obtain ⟨hget, hdone, hparts⟩ := textPart_ok hpart
  exact ⟨event, kind', item, part, hevent, hkind, htext, hget, hdone, hparts, houtput, hcontent, .of_setItem .., rfl⟩

theorem functionArgumentsDelta_ok (h : s.functionArgumentsDelta json data = .ok (s', emitted)) : ∃ index f f',
    s.items.get index = some (.functionCall f) ∧ f.argumentsDone = false ∧ f' = { f with arguments := f'.arguments } ∧
      Changed s index (.functionCall f') s' ∧ emitted = none := by
  simp only [functionArgumentsDelta, bind_ok, okOr_ok, require_ok, exists_const, pure, Except.pure, Except.ok.injEq,
    Prod.mk.injEq] at h
  obtain ⟨event, _, _, f, hf, ⟨hdone, _⟩, next, _, _, rfl, rfl⟩ := h
  exact ⟨event.outputIndex, f, _, function_ok hf, hdone, rfl, .of_setItem .., rfl⟩

theorem functionArgumentsDone_ok (h : s.functionArgumentsDone json data = .ok (s', emitted)) : ∃ event f canonical,
    json.argumentsDone data = some event ∧ s.items.get event.outputIndex = some (.functionCall f) ∧ f.argumentsDone = false ∧
      f.done = false ∧ canonicalArguments checkErrors json.value event.arguments = .ok canonical ∧
      Changed s event.outputIndex (.functionCall { f with canonicalArguments := some canonical, argumentsDone := true }) s' ∧
      emitted = none := by
  simp only [functionArgumentsDone, bind_ok, okOr_ok, require_ok, exists_const, pure, Except.pure, Except.ok.injEq,
    Prod.mk.injEq] at h
  obtain ⟨event, hevent, f, hf, ⟨hargs, hdone, _, _⟩, canonical, hcanonical, rfl, rfl⟩ := h
  exact ⟨event, f, canonical, hevent, function_ok hf, hargs, hdone, hcanonical, .of_setItem .., rfl⟩

theorem outputItemDone_ok (h : s.outputItemDone json data = .ok (s', emitted)) : ∃ event, json.outputItem data = some event ∧
    ((∃ kind item, s.items.get event.outputIndex = some (.text kind item) ∧ item.done = false ∧
        event.item.kind = itemKindText kind ∧
        (∀ part ∈ item.parts.values, part.outputDone = true ∧ part.contentDone = true) ∧
        validateTextContent item.parts event.item.content (contentKindText kind) = .ok () ∧
        Changed s event.outputIndex (.text kind { item with done := true }) s' ∧ emitted = none) ∨
      ∃ f argumentsJson, s.items.get event.outputIndex = some (.functionCall f) ∧ f.done = false ∧ f.argumentsDone = true ∧
        event.item.kind = "function_call" ∧ f.canonicalArguments = some argumentsJson ∧
        Changed s event.outputIndex (.functionCall { f with done := true }) s' ∧
        emitted = some (.functionCall f.id event.outputIndex f.callId f.name argumentsJson)) := by
  simp only [outputItemDone, bind_ok, okOr_ok] at h
  obtain ⟨event, hevent, h⟩ := h
  refine ⟨event, hevent, ?_⟩
  split at h
  · cases h
  · rename_i kind item hget
    simp only [validateStatus, bind_ok, require_ok, exists_const, pure, Except.pure, Except.ok.injEq, Prod.mk.injEq] at h
    obtain ⟨⟨hdone, hkind, _⟩, _, ⟨_, hparts⟩, _, hcontent, rfl, rfl⟩ := h
    exact .inl ⟨kind, item, hget, hdone, hkind, hparts, hcontent, .of_setItem .., rfl⟩
  · rename_i f hget
    simp only [validateStatus, bind_ok, okOr_ok, require_ok, exists_const, pure, Except.pure, Except.ok.injEq,
      Prod.mk.injEq] at h
    obtain ⟨⟨hdone, hargs, hkind, _⟩, _, argumentsJson, hcanonical, rfl, rfl⟩ := h
    exact .inr ⟨f, argumentsJson, hget, hdone, hargs, hkind, hcanonical, .of_setItem .., rfl⟩

theorem validateResponse_ok {actual : String} (h : s.validateResponse actual = .ok ()) : s.responseId = some actual := by
  simp only [validateResponse, bind_ok, require_ok] at h
  obtain ⟨_, _, hid⟩ := h
  exact hid

theorem completed_ok (h : s.completed json data = .ok (s', emitted)) : ∃ event tier, json.response data = some event ∧
    s.responseId = some event.id ∧ (∀ item ∈ s.items.values, item.isDone = true) ∧
      validateOptionalText event.serviceTier maxServiceTierBytes = .ok tier ∧ s' = { s with terminal := true } ∧
      emitted = some (.completed event.id (event.usage.map .ofWire) tier) := by
  simp only [completed, bind_ok, okOr_ok, require_ok, exists_const, pure, Except.pure, Except.ok.injEq, Prod.mk.injEq] at h
  obtain ⟨event, hevent, _, hid, _, _, hitems, tier, htier, rfl, rfl⟩ := h
  exact ⟨event, tier, hevent, validateResponse_ok hid, hitems, htier, rfl, rfl⟩

/-- The three events that end a stream without completing it. -/
def Broken : ResponsesEventKind → Prop
  | .failed .. => True
  | .incomplete .. => True
  | .error .. => True
  | _ => False

theorem failed_ok (h : s.failed json data = .ok (s', emitted)) :
    s' = { s with terminal := true } ∧ ∃ kind, emitted = some kind ∧ Broken kind := by
  simp only [failed, bind_ok, Prod.exists, pure, Except.pure, Except.ok.injEq, Prod.mk.injEq] at h
  obtain ⟨event, _, _, _, _, _, code, message, _, rfl, rfl⟩ := h
  exact ⟨rfl, _, rfl, trivial⟩

theorem incomplete_ok (h : s.incomplete json data = .ok (s', emitted)) :
    s' = { s with terminal := true } ∧ ∃ kind, emitted = some kind ∧ Broken kind := by
  simp only [incomplete, bind_ok, pure, Except.pure, Except.ok.injEq, Prod.mk.injEq] at h
  obtain ⟨event, _, _, _, _, _, reason, _, rfl, rfl⟩ := h
  exact ⟨rfl, _, rfl, trivial⟩

theorem error_ok (h : s.error json data = .ok (s', emitted)) :
    s' = { s with terminal := true } ∧ ∃ kind, emitted = some kind ∧ Broken kind := by
  simp only [error, bind_ok, pure, Except.pure, Except.ok.injEq, Prod.mk.injEq] at h
  obtain ⟨event, _, code, _, message, _, param, _, rfl, rfl⟩ := h
  exact ⟨rfl, _, rfl, trivial⟩

/-- The handler of an event, and what is noted of it. -/
theorem processEvent_ok {event : SseEvent} (h : s.processEvent json event = .ok s') : ∃ envelope s1 emitted,
    json.envelope event.data = some envelope ∧ s.terminal = false ∧ s.handle json envelope.kind event.data = .ok (s1, emitted) ∧
      s' = { s1 with
        lastSequence := some envelope.sequenceNumber
        events := s1.events ++ (emitted.map fun kind => ⟨envelope.sequenceNumber, kind⟩).toList } := by
  simp only [processEvent, bind_ok, okOr_ok, require_ok, exists_const, Prod.exists, pure, Except.pure, Except.ok.injEq] at h
  obtain ⟨hterminal, envelope, henvelope, _, _, s1, emitted, hhandle, rfl⟩ := h
  exact ⟨envelope, s1, emitted, henvelope, hterminal, hhandle, rfl⟩

end GreenTyper.Provider.ResponsesState
