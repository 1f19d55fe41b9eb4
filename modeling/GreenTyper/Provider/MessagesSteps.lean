/-
  GreenTyper.Provider.MessagesSteps — what each Messages event does when it is accepted, and
  the facts a stream leaves.

  A stream's facts are text and at most one Tool call under one identity, then what its end
  leaves. The arguments of the Tool call are the concatenation of the pieces of input that
  the stream gave (`inputText`), or an empty object.
-/

import GreenTyper.Provider.Decode
import GreenTyper.Provider.Messages

namespace GreenTyper.Provider

open Lib Messages

/-! ## What an event says -/

/-- The piece of Tool input in a `content_block_delta`. -/
def inputPiece (json : MessagesJson) (event : SseEvent) : String :=
  if json.envelope event.data = some "content_block_delta" then
    match json.blockDelta event.data with
    | some ⟨_, _, .inputJsonDelta partialJson⟩ => partialJson
    | _ => ""
  else ""

def inputText (json : MessagesJson) (events : List SseEvent) : String :=
  events.foldl (fun text event => text ++ inputPiece json event) ""

/-- A `content_block_start` of a Tool call. -/
def StartsTool (json : MessagesJson) (event : SseEvent) : Prop :=
  json.envelope event.data = some "content_block_start" ∧
    ∃ start ∈ json.blockStart event.data, ∃ id name input, start.contentBlock = .toolUse id name input

/-- The arguments that Tool input stands for. -/
def toolInput (text : String) : String := if text = "" then "\x7b\x7d" else text

def MessagesEvent.isCall : MessagesEvent → Bool
  | .functionCall .. => true
  | _ => false

namespace MessagesState

variable {json : MessagesJson} {s s' : MessagesState}

/-! ## Handlers -/

/-- An accepted event that gave a piece of input and, if `starts`, started a Tool call. -/
inductive Accepts (json : MessagesJson) (s : MessagesState) (piece : String) (starts : Bool) : MessagesState → Prop
  | started (id model : String) (usage : MessagesUsage) : piece = "" → starts = false → s.messageId = none →
      Accepts json s piece starts { s with messageId := some id, model := some model, usage := usage }
  | textBlock (index : Nat) : piece = "" → starts = false → s.messageId.isSome → s.messageDeltaSeen = false → s.activeBlock = none →
      Accepts json s piece starts { s with activeBlock := some (.text index) }
  | toolBlock (index : Nat) (id name : String) : piece = "" → starts = true → s.messageId.isSome → s.messageDeltaSeen = false →
      s.activeBlock = none → s.toolCallSeen = false → validateIdentifier checkErrors id = .ok () →
      validateToolName checkErrors name = .ok () →
      Accepts json s piece starts { s with toolCallSeen := true, activeBlock := some (.toolUse index id name "") }
  | text (id text : String) (index index' total : Nat) : piece = "" → starts = false → s.messageId = some id →
      s.messageDeltaSeen = false → s.activeBlock = some (.text index') →
      Accepts json s piece starts { s with totalTextBytes := total, events := s.events ++ [.textDelta id index text] }
  | input (index : Nat) (callId name arguments : String) : starts = false → s.messageDeltaSeen = false →
      s.activeBlock = some (.toolUse index callId name arguments) →
      Accepts json s piece starts { s with activeBlock := some (.toolUse index callId name (arguments ++ piece)) }
  | textStop (index next : Nat) : piece = "" → starts = false → s.messageDeltaSeen = false →
      s.activeBlock = some (.text index) → Accepts json s piece starts { s with activeBlock := none, nextBlockIndex := next }
  | toolStop (index index' next : Nat) (id callId name arguments argumentsJson : String) : piece = "" → starts = false →
      s.messageId = some id → s.messageDeltaSeen = false → s.activeBlock = some (.toolUse index callId name arguments) →
      canonicalArguments checkErrors json.value (toolInput arguments) = .ok argumentsJson →
      Accepts json s piece starts { s with activeBlock := none, nextBlockIndex := next, events := s.events ++ [.functionCall id index' callId name argumentsJson] }
  | ends (usage : MessagesUsage) : piece = "" → starts = false → s.messageId.isSome → s.activeBlock = none → s.messageDeltaSeen = false →
      Accepts json s piece starts { s with usage := usage, messageDeltaSeen := true }
  | stopsShort (id reason : String) (usage : MessagesUsage) : piece = "" → starts = false → s.messageId = some id →
      s.activeBlock = none → s.messageDeltaSeen = false →
      Accepts json s piece starts { s with usage := usage, incomplete := true, messageDeltaSeen := true, events := s.events ++ [.incomplete id reason] }
  | stopped : piece = "" → starts = false → s.messageDeltaSeen = true → s.incomplete = true →
      Accepts json s piece starts { s with terminal := true }
  | completed (id : String) (total : Option UInt64) : piece = "" → starts = false → s.messageDeltaSeen = true →
      s.incomplete = false → s.messageId = some id → totalTokens s.usage = .ok total →
      Accepts json s piece starts { s with usage := { s.usage with totalTokens := total }, terminal := true, events := s.events ++ [.completed id { s.usage with totalTokens := total }] }
  | ping : piece = "" → starts = false → Accepts json s piece starts s
  | error (bytes : Nat) : piece = "" → starts = false →
      Accepts json s piece starts { s with terminal := true, events := s.events ++ [.error bytes] }

theorem startMessage_ok {wire : WireMessageStart} (h : s.startMessage wire = .ok s') : Accepts json s "" false s' := by
  simp only [startMessage, bind_ok, require_ok, exists_const, pure, Except.pure, Except.ok.injEq] at h
  obtain ⟨⟨_, hid, _⟩, _, _, _, _, usage, _, rfl⟩ := h
  exact .started _ _ usage rfl rfl hid

theorem startBlock_ok {wire : WireContentBlockStart} (h : s.startBlock wire = .ok s') :
    ∃ starts, (starts = true ↔ ∃ id name input, wire.contentBlock = .toolUse id name input) ∧ Accepts json s "" starts s' := by
  simp only [startBlock, requireMessageId, bind_ok, okOr_ok, require_ok, exists_const] at h
  obtain ⟨id, hid, ⟨_, hdelta, hactive, _⟩, h⟩ := h
  have hsome : s.messageId.isSome := by rw [hid]; rfl
  have hnone : s.activeBlock = none := Option.isNone_iff_eq_none.mp hactive
  split at h
  · rename_i text hblock
    simp only [bind_ok, require_ok, exists_const, pure, Except.pure, Except.ok.injEq] at h
    obtain ⟨_, rfl⟩ := h
    exact ⟨false, by simp [hblock], .textBlock _ rfl rfl hsome hdelta hnone⟩
  · rename_i callId name input hblock
    simp only [bind_ok, require_ok, exists_const, pure, Except.pure, Except.ok.injEq] at h
    obtain ⟨⟨hseen, _⟩, _, hid, _, hname, rfl⟩ := h
    exact ⟨true, by simp [hblock], .toolBlock _ callId name rfl rfl hsome hdelta hnone hseen hid hname⟩
  · cases h

theorem applyBlockDelta_ok {wire : WireContentBlockDelta} (h : s.applyBlockDelta wire = .ok s') :
    ∃ piece, (piece = match wire.delta with | .inputJsonDelta partialJson => partialJson | _ => "") ∧
      Accepts json s piece false s' := by
  simp only [applyBlockDelta, requireMessageId, bind_ok, okOr_ok, require_ok, exists_const] at h
  obtain ⟨⟨_, hdelta⟩, active, hactive, _, h⟩ := h
  split at h
  · rename_i index text hwire _
    simp only [emit, bind_ok, okOr_ok, require_ok, exists_const, pure, Except.pure, Except.ok.injEq] at h
    obtain ⟨_, total, _, _, id, hid, rfl⟩ := h
    exact ⟨"", by rw [hwire], .text id text _ index total rfl rfl hid hdelta hactive⟩
  · rename_i index callId name arguments partialJson hwire _
    simp only [bind_ok, okOr_ok, require_ok, exists_const, pure, Except.pure, Except.ok.injEq] at h
    obtain ⟨_, _, _, rfl⟩ := h
    exact ⟨partialJson, by rw [hwire], .input index callId name arguments rfl hdelta hactive⟩
  · cases h

theorem stopBlock_ok {wire : WireContentBlockStop} (h : s.stopBlock json wire = .ok s') : Accepts json s "" false s' := by
  simp only [stopBlock, bind_ok, okOr_ok, require_ok, exists_const, pure, Except.pure, Except.ok.injEq] at h
  obtain ⟨⟨_, hdelta⟩, active, hactive, _, s1, hstop, next, _, rfl⟩ := h
  cases active with
  | text index =>
    cases hstop
    exact .textStop index next rfl rfl hdelta hactive
  | toolUse index callId name arguments =>
    simp only [stoppedBlock, requireMessageId, emit, bind_ok, okOr_ok, pure, Except.pure, Except.ok.injEq] at hstop
    obtain ⟨id, hid, argumentsJson, harguments, rfl⟩ := hstop
    exact .toolStop index _ next id callId name arguments argumentsJson rfl rfl hid hdelta hactive harguments

theorem applyMessageDelta_ok {wire : WireMessageDelta} (h : s.applyMessageDelta wire = .ok s') : Accepts json s "" false s' := by
  simp only [applyMessageDelta, requireMessageId, observeOutputUsage, bind_ok, okOr_ok, require_ok, exists_const, pure, Except.pure,
    Except.ok.injEq] at h
  obtain ⟨id, hid, ⟨_, hactive, hdelta, _⟩, _, ⟨_, usage, _, rfl⟩, reason, _, s1, hstop, rfl⟩ := h
  have hsome : s.messageId.isSome := by rw [hid]; rfl
  have hnone : s.activeBlock = none := Option.isNone_iff_eq_none.mp hactive
  unfold stopWith at hstop
  split at hstop
  · split at hstop
    · cases hstop
    · cases hstop
      exact .ends usage rfl rfl hsome hnone hdelta
  · split at hstop
    · cases hstop
    · cases hstop
      exact .ends usage rfl rfl hsome hnone hdelta
  · split at hstop
    · cases hstop
      exact .ends usage rfl rfl hsome hnone hdelta
    · cases hstop
  · cases hstop
    exact .stopsShort id _ usage rfl rfl hid hnone hdelta
  · cases hstop
    exact .stopsShort id _ usage rfl rfl hid hnone hdelta
  · cases hstop

theorem stopMessage_ok {kind : String} (h : s.stopMessage kind = .ok s') : Accepts json s "" false s' := by
  simp only [stopMessage, bind_ok, require_ok, exists_const] at h
  obtain ⟨⟨_, hdelta, _⟩, h⟩ := h
  split at h
  · rename_i hshort
    cases h
    exact .stopped rfl rfl hdelta hshort
  · rename_i hshort
    simp only [requireMessageId, refreshUsageTotals, emit, bind_ok, okOr_ok, pure, Except.pure, Except.ok.injEq] at h
    obtain ⟨id, hid, _, ⟨total, htotal, rfl⟩, rfl⟩ := h
    exact .completed id total rfl rfl hdelta (Bool.eq_false_iff.mpr hshort) hid htotal

theorem observeError_ok {wire : WireErrorEvent} (h : s.observeError wire = .ok s') : Accepts json s "" false s' := by
  simp only [observeError, emit, bind_ok, require_ok, exists_const, pure, Except.pure, Except.ok.injEq] at h
  obtain ⟨_, rfl⟩ := h
  exact .error _ rfl rfl

theorem processEvent_ok {event : SseEvent} (h : s.processEvent json event = .ok s') : s.terminal = false ∧
    ∃ starts, (starts = true ↔ StartsTool json event) ∧ Accepts json s (inputPiece json event) starts s' := by
  simp only [processEvent, bind_ok, okOr_ok, require_ok, exists_const] at h
  obtain ⟨hterminal, kind, hkind, _, h⟩ := h
  refine ⟨hterminal, ?_⟩
  rw [inputPiece, StartsTool, hkind]
  unfold handle at h
  split at h
  all_goals simp only [Option.some.injEq, String.reduceEq, if_true, if_false, false_and, iff_false, Bool.not_eq_true, true_and]
  all_goals try simp only [bind_ok, okOr_ok] at h
  · obtain ⟨wire, _, h⟩ := h
    exact ⟨false, rfl, startMessage_ok h⟩
  · obtain ⟨wire, hwire, h⟩ := h
    obtain ⟨starts, hstarts, haccepts⟩ := startBlock_ok h
    exact ⟨starts, by simp [hwire, hstarts], haccepts⟩
  · obtain ⟨wire, hwire, h⟩ := h
    obtain ⟨piece, hpiece, haccepts⟩ := applyBlockDelta_ok h
    refine ⟨false, rfl, ?_⟩
    obtain ⟨kind, index, delta⟩ := wire
    rw [hwire]
    subst hpiece
    cases delta <;> exact haccepts
  · obtain ⟨wire, _, h⟩ := h
    exact ⟨false, rfl, stopBlock_ok h⟩
  · obtain ⟨wire, _, h⟩ := h
    exact ⟨false, rfl, applyMessageDelta_ok h⟩
  · obtain ⟨wire, _, h⟩ := h
    exact ⟨false, rfl, stopMessage_ok h⟩
  · cases h
    exact ⟨false, rfl, .ping rfl rfl⟩
  · obtain ⟨wire, _, h⟩ := h
    exact ⟨false, rfl, observeError_ok h⟩
  · cases h

/-! ## The facts of a stream -/

/-- A fact of the body of a stream whose Tool input is `text`. -/
def InBody (json : MessagesJson) (text : String) (messageId : Option String) (fact : MessagesEvent) : Prop :=
  ∃ id ∈ messageId, (∃ index delta, fact = .textDelta id index delta) ∨
    ∃ index callId name arguments, fact = .functionCall id index callId name arguments ∧
      validateIdentifier checkErrors callId = .ok () ∧ validateToolName checkErrors name = .ok () ∧
      canonicalArguments checkErrors json.value (toolInput text) = .ok arguments

def isToolBlock : Option ActiveBlock → Bool
  | some (.toolUse ..) => true
  | _ => false

/-- Where a stream with Tool input `text` is with its Tool call, if it has started one. -/
inductive ToolPhase (text : String) (started : Prop) (s : MessagesState) : Prop
  | unseen : s.toolCallSeen = false → ¬ started → text = "" → isToolBlock s.activeBlock = false →
      (∀ fact ∈ s.events, fact.isCall = false) → ToolPhase text started s
  | running (index : Nat) (callId name : String) : s.toolCallSeen = true → started →
      s.activeBlock = some (.toolUse index callId name text) → validateIdentifier checkErrors callId = .ok () →
      validateToolName checkErrors name = .ok () → (∀ fact ∈ s.events, fact.isCall = false) → ToolPhase text started s
  | called : s.toolCallSeen = true → started → isToolBlock s.activeBlock = false →
      (∃ fact ∈ s.events, fact.isCall = true) → ToolPhase text started s

/-- What follows the body of a stream. -/
inductive Tail (s : MessagesState) : List MessagesEvent → Prop
  | running : s.terminal = false → s.incomplete = false → Tail s []
  | short (id reason : String) : s.messageId = some id → s.incomplete = true → s.messageDeltaSeen = true →
      Tail s [.incomplete id reason]
  | completed (id : String) (usage : MessagesUsage) : s.terminal = true → s.messageId = some id → s.messageDeltaSeen = true →
      totalTokens usage = .ok usage.totalTokens → Tail s [.completed id usage]
  | error (short : List MessagesEvent) (bytes : Nat) : s.terminal = true → (∀ fact ∈ short, ∃ id reason, fact = .incomplete id reason) →
      Tail s (short ++ [.error bytes])

/-- A state after the events of a stream that gave the Tool input `text`. -/
structure Kept (json : MessagesJson) (text : String) (started : Prop) (s : MessagesState) (body tail : List MessagesEvent) : Prop where
  events : s.events = body ++ tail
  body : ∀ fact ∈ body, InBody json text s.messageId fact
  tail : Tail s tail
  tool : ToolPhase text started s
  ended : s.messageDeltaSeen = true → s.activeBlock = none

section Step

variable {text piece : String} {started : Prop} {starts : Bool} {body tail : List MessagesEvent}

theorem InBody.of_text {messageId : Option String} {fact : MessagesEvent} (h : InBody json text messageId fact)
    (hcall : fact.isCall = false) (text' : String) : InBody json text' messageId fact := by
  obtain ⟨id, hid, ⟨index, delta, rfl⟩ | ⟨index, callId, name, arguments, rfl, _⟩⟩ := h
  · exact ⟨id, hid, .inl ⟨index, delta, rfl⟩⟩
  · cases hcall

/-- Before the end of the stream at most an early stop follows the body. -/
theorem Tail.going (h : Tail s tail) (hterminal : s.terminal = false) : (tail = [] ∧ s.incomplete = false) ∨
    ∃ id reason, tail = [.incomplete id reason] ∧ s.messageId = some id ∧ s.incomplete = true ∧ s.messageDeltaSeen = true := by
  cases h with
  | running _ hincomplete => exact .inl ⟨rfl, hincomplete⟩
  | short id reason hid hincomplete hdelta => exact .inr ⟨id, reason, rfl, hid, hincomplete, hdelta⟩
  | completed _ _ hend =>
    rw [hterminal] at hend
    cases hend
  | error _ _ hend =>
    rw [hterminal] at hend
    cases hend

/-- Before the end of the message nothing does. -/
theorem Tail.before (h : Tail s tail) (hterminal : s.terminal = false) (hdelta : s.messageDeltaSeen = false) :
    tail = [] ∧ s.incomplete = false := by
  rcases h.going hterminal with h | ⟨_, _, _, _, _, hseen⟩
  · exact h
  · rw [hdelta] at hseen
    cases hseen

/-- A step that leaves the Tool call alone; `extra` are its facts. -/
structure Aside (s s' : MessagesState) (extra : List MessagesEvent) : Prop where
  toolCallSeen : s'.toolCallSeen = s.toolCallSeen
  activeBlock : isToolBlock s.activeBlock = false ∧ isToolBlock s'.activeBlock = false ∨ s'.activeBlock = s.activeBlock
  events : s'.events = s.events ++ extra
  quiet : ∀ fact ∈ extra, fact.isCall = false

theorem ToolPhase.aside {extra : List MessagesEvent} (h : ToolPhase text started s) (hstep : Aside s s' extra) :
    ToolPhase text started s' := by
  have hfacts : (∀ fact ∈ s.events, fact.isCall = false) → ∀ fact ∈ s'.events, fact.isCall = false := by
    intro hall fact hfact
    rw [hstep.events] at hfact
    rcases List.mem_append.mp hfact with hfact | hfact
    · exact hall fact hfact
    · exact hstep.quiet fact hfact
  have hblock : isToolBlock s.activeBlock = false → isToolBlock s'.activeBlock = false := by
    intro hnone
    rcases hstep.activeBlock with ⟨_, h⟩ | h
    · exact h
    · rwa [h]
  cases h with
  | unseen h1 h2 h3 h4 h5 => exact .unseen (hstep.toolCallSeen.trans h1) h2 h3 (hblock h4) (hfacts h5)
  | running index callId name h1 h2 h3 h4 h5 h6 =>
    refine .running index callId name (hstep.toolCallSeen.trans h1) h2 ?_ h4 h5 (hfacts h6)
    rcases hstep.activeBlock with ⟨h, _⟩ | h
    · rw [h3] at h
      cases h
    · exact h.trans h3
  | called h1 h2 h3 h4 =>
    obtain ⟨fact, hfact, hcall⟩ := h4
    exact .called (hstep.toolCallSeen.trans h1) h2 (hblock h3) ⟨fact, by rw [hstep.events]; exact List.mem_append_left _ hfact, hcall⟩

theorem Kept.aside {extra : List MessagesEvent} (h : Kept json text started s body tail) (hstep : Aside s s' extra)
    (hmessage : s'.messageId = s.messageId) (htail : Tail s' (tail ++ extra)) (hended : s'.messageDeltaSeen = true → s'.activeBlock = none) :
    Kept json text started s' body (tail ++ extra) where
  events := by rw [hstep.events, h.events, List.append_assoc]
  body := by rw [hmessage]; exact h.body
  tail := htail
  tool := h.tool.aside hstep
  ended := hended

/-- Text, before the end of the message. -/
theorem Kept.say (h : Kept json text started s body tail) (hterminal : s.terminal = false) (hdelta : s.messageDeltaSeen = false)
    {id : String} (hid : s.messageId = some id) (index total : Nat) (delta : String) :
    Kept json text started { s with totalTextBytes := total, events := s.events ++ [.textDelta id index delta] }
      (body ++ [.textDelta id index delta]) [] := by
  obtain ⟨rfl, hincomplete⟩ := h.tail.before hterminal hdelta
  refine ⟨?_, fun fact hfact => ?_, .running hterminal hincomplete, ?_, h.ended⟩
  · show s.events ++ _ = _
    rw [h.events, List.append_nil, List.append_nil]
  · rcases List.mem_append.mp hfact with hfact | hfact
    · exact h.body fact hfact
    · exact ⟨id, hid, .inl ⟨index, delta, List.mem_singleton.mp hfact⟩⟩
  · exact h.tool.aside ⟨rfl, .inr rfl, rfl, by rintro _ ⟨⟩; rfl; contradiction⟩

/-- A running Tool call is the active block, and no call is among the facts. -/
theorem ToolPhase.of_active (h : ToolPhase text started s) {index : Nat} {callId name arguments : String}
    (hactive : s.activeBlock = some (.toolUse index callId name arguments)) : s.toolCallSeen = true ∧ started ∧ arguments = text ∧
      validateIdentifier checkErrors callId = .ok () ∧ validateToolName checkErrors name = .ok () ∧
      ∀ fact ∈ s.events, fact.isCall = false := by
  cases h with
  | unseen _ _ _ hnone =>
    rw [hactive] at hnone
    cases hnone
  | running index' callId' name' hseen hstarted hblock hid hname hfacts =>
    rw [hactive] at hblock
    cases hblock
    exact ⟨hseen, hstarted, rfl, hid, hname, hfacts⟩
  | called _ _ hnone =>
    rw [hactive] at hnone
    cases hnone

theorem Kept.startTool (h : Kept json text started s body tail) (hterminal : s.terminal = false) (hdelta : s.messageDeltaSeen = false)
    (hnone : s.toolCallSeen = false) {index : Nat} {callId name : String} (hid : validateIdentifier checkErrors callId = .ok ())
    (hname : validateToolName checkErrors name = .ok ()) :
    Kept json text True { s with toolCallSeen := true, activeBlock := some (.toolUse index callId name "") } body tail := by
  obtain ⟨rfl, hincomplete⟩ := h.tail.before hterminal hdelta
  have htext : text = "" ∧ ∀ fact ∈ s.events, fact.isCall = false := by
    cases h.tool with
    | unseen _ _ htext _ hfacts => exact ⟨htext, hfacts⟩
    | running _ _ _ hseen =>
      rw [hnone] at hseen
      cases hseen
    | called hseen =>
      rw [hnone] at hseen
      cases hseen
  refine ⟨h.events, h.body, .running hterminal hincomplete, ?_, fun hend => ?_⟩
  · rw [htext.1]
    exact .running index callId name rfl trivial rfl hid hname htext.2
  · rw [show s.messageDeltaSeen = true from hend] at hdelta
    cases hdelta

theorem Kept.input (h : Kept json text started s body tail) (hterminal : s.terminal = false) (hdelta : s.messageDeltaSeen = false)
    {index : Nat} {callId name arguments : String} (hactive : s.activeBlock = some (.toolUse index callId name arguments))
    (piece : String) : Kept json (text ++ piece) started
      { s with activeBlock := some (.toolUse index callId name (arguments ++ piece)) } body tail := by
  obtain ⟨rfl, hincomplete⟩ := h.tail.before hterminal hdelta
  obtain ⟨hseen, hstarted, rfl, hid, hname, hfacts⟩ := h.tool.of_active hactive
  refine ⟨h.events, fun fact hfact => ?_, .running hterminal hincomplete, ?_, fun hend => ?_⟩
  · exact (h.body fact hfact).of_text (hfacts fact (by rw [h.events]; exact List.mem_append_left _ hfact)) _
  · exact .running index callId name hseen hstarted rfl hid hname hfacts
  · rw [show s.messageDeltaSeen = true from hend] at hdelta
    cases hdelta

theorem Kept.stopTool (h : Kept json text started s body tail) (hterminal : s.terminal = false) (hdelta : s.messageDeltaSeen = false)
    {index : Nat} {id callId name arguments argumentsJson : String} (hmessage : s.messageId = some id)
    (hactive : s.activeBlock = some (.toolUse index callId name arguments))
    (harguments : canonicalArguments checkErrors json.value (toolInput arguments) = .ok argumentsJson) (index' next : Nat) :
    Kept json text started
      { s with activeBlock := none, nextBlockIndex := next, events := s.events ++ [.functionCall id index' callId name argumentsJson] }
      (body ++ [.functionCall id index' callId name argumentsJson]) [] := by
  obtain ⟨rfl, hincomplete⟩ := h.tail.before hterminal hdelta
  obtain ⟨hseen, hstarted, rfl, hid, hname, hfacts⟩ := h.tool.of_active hactive
  refine ⟨?_, fun fact hfact => ?_, .running hterminal hincomplete, ?_, fun _ => rfl⟩
  · show s.events ++ _ = _
    rw [h.events, List.append_nil, List.append_nil]
  · rcases List.mem_append.mp hfact with hfact | hfact
    · exact h.body fact hfact
    · rw [List.mem_singleton.mp hfact]
      exact ⟨id, hmessage, .inr ⟨index', callId, name, argumentsJson, rfl, hid, hname, harguments⟩⟩
  · exact .called hseen hstarted rfl ⟨_, List.mem_append_right _ (List.mem_singleton_self _), rfl⟩

theorem Kept.step (h : Kept json text started s body tail) (hterminal : s.terminal = false)
    (hstep : Accepts json s piece starts s') :
    ∃ body' tail', Kept json (text ++ piece) (started ∨ starts = true) s' body' tail' := by
  have hsame : piece = "" → starts = false → ∀ {body' tail'}, Kept json text started s' body' tail' →
      ∃ body' tail', Kept json (text ++ piece) (started ∨ starts = true) s' body' tail' := by
    rintro rfl rfl body' tail' h'
    rw [String.append_empty, or_iff_left Bool.false_ne_true]
    exact ⟨body', tail', h'⟩
  have hopen : s.messageDeltaSeen = false → ∀ {active : Option ActiveBlock}, s.messageDeltaSeen = true → active = none := by
    intro hdelta active hend
    rw [hdelta] at hend
    cases hend
  cases hstep with
  | started id model usage hpiece hstarts hid =>
    have hbody : body = [] := by
      rw [List.eq_nil_iff_forall_not_mem]
      intro fact hfact
      obtain ⟨id', hid', _⟩ := h.body fact hfact
      rw [hid] at hid'
      cases hid'
    subst hbody
    rcases h.tail.going hterminal with ⟨rfl, hincomplete⟩ | ⟨_, _, _, hid', _⟩
    · exact hsame hpiece hstarts ⟨h.events, by simp, .running hterminal hincomplete,
        h.tool.aside ⟨rfl, .inr rfl, (List.append_nil _).symm, by simp⟩, h.ended⟩
    · rw [hid] at hid'
      cases hid'
  | textBlock index hpiece hstarts hid hdelta hactive =>
    obtain ⟨rfl, hincomplete⟩ := h.tail.before hterminal hdelta
    refine hsame hpiece hstarts (h.aside ⟨rfl, .inl ⟨?_, rfl⟩, (List.append_nil _).symm, by simp⟩ rfl
      (.running hterminal hincomplete) (hopen hdelta))
    rw [hactive]
    rfl
  | toolBlock index id name hpiece hstarts hid hdelta hactive hseen hvalid hname =>
    subst hpiece hstarts
    rw [String.append_empty, or_iff_right_of_imp fun _ => rfl, eq_self]
    exact ⟨body, tail, h.startTool hterminal hdelta hseen hvalid hname⟩
  | text id delta index index' total hpiece hstarts hid hdelta hactive =>
    exact hsame hpiece hstarts (h.say hterminal hdelta hid index total delta)
  | input index callId name arguments hstarts hdelta hactive =>
    subst hstarts
    rw [or_iff_left Bool.false_ne_true]
    exact ⟨body, tail, h.input hterminal hdelta hactive piece⟩
  | textStop index next hpiece hstarts hdelta hactive =>
    obtain ⟨rfl, hincomplete⟩ := h.tail.before hterminal hdelta
    refine hsame hpiece hstarts (h.aside ⟨rfl, .inl ⟨?_, rfl⟩, (List.append_nil _).symm, by simp⟩ rfl
      (.running hterminal hincomplete) (fun _ => rfl))
    rw [hactive]
    rfl
  | toolStop index index' next id callId name arguments argumentsJson hpiece hstarts hid hdelta hactive harguments =>
    exact hsame hpiece hstarts (h.stopTool hterminal hdelta hid hactive harguments index' next)
  | ends usage hpiece hstarts hid hactive hdelta =>
    obtain ⟨rfl, hincomplete⟩ := h.tail.before hterminal hdelta
    exact hsame hpiece hstarts (h.aside ⟨rfl, .inr rfl, (List.append_nil _).symm, by simp⟩ rfl
      (.running hterminal hincomplete) (fun _ => hactive))
  | stopsShort id reason usage hpiece hstarts hid hactive hdelta =>
    obtain ⟨rfl, hincomplete⟩ := h.tail.before hterminal hdelta
    refine hsame hpiece hstarts (h.aside ⟨rfl, .inr rfl, rfl, ?_⟩ rfl (.short id reason hid rfl rfl) (fun _ => hactive))
    rintro _ ⟨⟩
    · rfl
    · contradiction
  | stopped hpiece hstarts hdelta hshort =>
    rcases h.tail.going hterminal with ⟨_, hincomplete⟩ | ⟨id, reason, rfl, hid, _, _⟩
    · rw [hshort] at hincomplete
      cases hincomplete
    · exact hsame hpiece hstarts (h.aside ⟨rfl, .inr rfl, (List.append_nil _).symm, by simp⟩ rfl
        (.short id reason hid hshort hdelta) h.ended)
  | completed id total hpiece hstarts hdelta hshort hid htotal =>
    rcases h.tail.going hterminal with ⟨rfl, _⟩ | ⟨_, _, _, _, hincomplete, _⟩
    · refine hsame hpiece hstarts (h.aside ⟨rfl, .inr rfl, rfl, ?_⟩ rfl (.completed id _ rfl hid hdelta htotal) h.ended)
      rintro _ ⟨⟩
      · rfl
      · contradiction
    · rw [hshort] at hincomplete
      cases hincomplete
  | ping hpiece hstarts => exact hsame hpiece hstarts h
  | error bytes hpiece hstarts =>
    refine hsame hpiece hstarts (h.aside ⟨rfl, .inr rfl, rfl, ?_⟩ rfl (.error tail bytes rfl ?_) h.ended)
    · rintro _ ⟨⟩
      · rfl
      · contradiction
    · rcases h.tail.going hterminal with ⟨rfl, _⟩ | ⟨id, reason, rfl, _⟩
      · simp
      · exact fun fact hfact => ⟨id, reason, List.mem_singleton.mp hfact⟩

theorem inputText_append (events : List SseEvent) (event : SseEvent) :
    inputText json (events ++ [event]) = inputText json events ++ inputPiece json event := by
  rw [inputText, List.foldl_append]
  rfl

theorem Kept.run (framed : List SseEvent) : ∀ {events : List SseEvent} {s s' : MessagesState} {body tail : List MessagesEvent},
    Kept json (inputText json events) (∃ event ∈ events, StartsTool json event) s body tail →
    framed.foldlM (processEvent json) s = .ok s' → ∃ body' tail', Kept json (inputText json (events ++ framed))
      (∃ event ∈ events ++ framed, StartsTool json event) s' body' tail' := by
  induction framed with
  | nil =>
    intro events s s' body tail h hrun
    cases hrun
    rw [List.append_nil]
    exact ⟨body, tail, h⟩
  | cons event framed ih =>
    intro events s s' body tail h hrun
    rw [List.foldlM_cons, bind_ok] at hrun
    obtain ⟨s1, hstep, hrun⟩ := hrun
    obtain ⟨hterminal, starts, hstarts, hnext⟩ := processEvent_ok hstep
    obtain ⟨body', tail', hkept⟩ := h.step hterminal hnext
    rw [hstarts, ← inputText_append, ← exists_concat] at hkept
    have hrest := ih hkept hrun
    rwa [List.append_assoc, List.singleton_append] at hrest

/-- The facts of an accepted stream. -/
theorem decode_facts {maxOutput : Nat} {d : MessagesSseDecoder} (hd : MessagesSseDecoder.new maxOutput = .ok d)
    {bytes : List Byte} {facts : List MessagesEvent} (h : (messagesDialect json).decode d.state bytes = some facts) :
    ∃ events s body tail, framed streamLimits bytes = some events ∧ s.terminal = true ∧ facts = body ++ tail ∧
      Kept json (inputText json events) (∃ event ∈ events, StartsTool json event) s body tail := by
  simp only [MessagesSseDecoder.new, bind_ok, require_ok, exists_const, pure, Except.pure, Except.ok.injEq] at hd
  obtain ⟨_, rfl⟩ := hd
  obtain ⟨events, last, hframed, hrun, hterminal, rfl⟩ := decode_some h
  have hstart : Kept json "" (∃ event ∈ [], StartsTool json event)
      ⟨maxOutput, 0, none, none, .default, 0, none, false, false, false, false, []⟩ [] [] :=
    ⟨rfl, by rintro _ ⟨⟩, .running rfl rfl, .unseen rfl (by simp) rfl rfl (by rintro _ ⟨⟩), by rintro ⟨⟩⟩
  obtain ⟨body, tail, hkept⟩ := @Kept.run json events [] _ last [] [] hstart hrun
  exact ⟨events, last, body, tail, hframed, hterminal, hkept.events, hkept⟩

end Step

end MessagesState

end GreenTyper.Provider
