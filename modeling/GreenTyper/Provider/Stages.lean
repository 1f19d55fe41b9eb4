/-
  GreenTyper.Provider.Stages — how the HTTP adapters classify a stream that has started.

  A Turn is retried or handed to another Provider only after an unavailable Provider at the
  stage BeforeResponse or BeforeFirstEvent. Once a decoder has processed an event, no error
  of Responses or Messages has one of these, and a stream that said text and then stopped
  short or failed is AfterFirstEvent (`started_stream_fenced`).

  Chat Completions is so for every stream but one kind: a whole stream whose choice finishes
  with `length` or `content_filter`. The normalizer reports it through
  `ProviderError::unavailable`, which is BeforeResponse (`short_stream_unfenced`).
-/

import GreenTyper.Provider.Agreement

namespace GreenTyper.Provider

open Lib

variable {σ φ ε : Type}

/-- The error has neither stage in which the kernel may run the request again. -/
def Fenced (e : ProviderError) : Prop :=
  e.unavailableStage ≠ some .beforeResponse ∧ e.unavailableStage ≠ some .beforeFirstEvent

instance (e : ProviderError) : Decidable (Fenced e) := inferInstanceAs (Decidable (_ ∧ _))

/-- The events that a decoder has processed when its stream has ended. -/
def Decoder.processedInAll (D : Dialect σ φ ε) (d : Decoder σ) : Nat :=
  match d.sse.finish with
  | .ok framed => (d.processFramedEvents D framed).1.processedSseEvents
  | .error _ => d.processedSseEvents

/-- The decoder framed and processed an event of the stream. -/
def Started (D : Dialect σ φ ε) (d : Decoder σ) (reads : List (List Byte)) : Prop := (d.pushes D reads).processedInAll D ≠ 0

/-- No error lets the request be run again, and a stream that was cut short after text is after its first event. -/
def StageKept (D : Dialect σ φ ε) (A : Adapter φ ε) (cutShort : List φ → Prop) (d : Decoder σ) (failed : Bool)
    (reads : List (List Byte)) : Prop :=
  (∀ e, receive D A d failed reads = .error e → Fenced e) ∧
    (failed = false → ∀ facts, (d.pushes D reads).finish D = .ok facts → cutShort facts →
      ∃ bytes, receive D A d failed reads = .error (.unavailable .afterFirstEvent bytes))

theorem fenced_invalid (reason : String) : Fenced (.invalidResponse reason) := ⟨nofun, nofun⟩

theorem fenced_after (message : String) : Fenced (.unavailableDuring .afterFirstEvent message) := ⟨nofun, nofun⟩

/-! ## The reads of a response -/

section Receive

variable {D : Dialect σ φ ε} {A : Adapter φ ε} {failed : Bool}

/-- Between reads the end of the stream processes nothing more. -/
theorem live_processed {d : Decoder σ} {after : List Byte → Option (List φ)} (h : Live D d after) :
    d.processedInAll D = d.processedSseEvents := by
  rw [Decoder.processedInAll]
  split
  · rename_i framed hfinish
    rw [finish_frames h hfinish]
    rfl
  · rfl

theorem receive_fenced (reads : List (List Byte)) : ∀ {d : Decoder σ} {after : List Byte → Option (List φ)}, Live D d after →
    Started D d reads →
    (∀ facts, (d.pushes D reads).finish D = .ok facts → failed = false → ∀ e, A.normalize facts = .error e → Fenced e) →
    ∀ e, receive D A d failed reads = .error e → Fenced e := by
  induction reads with
  | nil =>
    intro d after hlive hstarted hnormalize e he
    have hprogress : d.hasStreamProgress = true := by
      rw [Started, Decoder.pushes, List.foldl_nil, live_processed hlive] at hstarted
      exact decide_eq_true hstarted
    rw [receive, hprogress] at he
    dsimp only [providerStreamStage] at he
    rw [if_pos rfl] at he
    split at he
    · cases he
      exact fenced_after _
    · rename_i hread
      split at he
      · cases he
        split
        · exact fenced_after _
        · exact fenced_invalid _
      · rename_i facts hfinish
        exact hnormalize facts hfinish (Bool.eq_false_iff.mpr hread) e he
  | cons chunk reads ih =>
    intro d after hlive hstarted hnormalize e he
    rw [receive] at he
    rcases push_live hlive chunk with ⟨d', hpush, hlive'⟩ | ⟨d', e', hpush, _⟩
    · rw [hpush] at he
      have hsame : d.pushes D (chunk :: reads) = d'.pushes D reads := by
        rw [Decoder.pushes, List.foldl_cons, hpush]
        rfl
      rw [Started, hsame] at hstarted
      rw [hsame] at hnormalize
      exact ih hlive' hstarted hnormalize e he
    · rw [hpush] at he
      cases he
      exact fenced_invalid _

theorem pushes_poisoned {d : Decoder σ} (h : d.poisoned = true) (reads : List (List Byte)) : d.pushes D reads = d := by
  induction reads with
  | nil => rfl
  | cons chunk reads ih =>
    show (d.push D chunk).1.pushes D reads = d
    rw [push_poisoned h]
    exact ih

/-- A decoder that finishes has accepted each push. -/
theorem push_of_finish {d : Decoder σ} {chunk : List Byte} {reads : List (List Byte)} {facts : List φ}
    (h : (d.pushes D (chunk :: reads)).finish D = .ok facts) :
    ∃ d', d.push D chunk = (d', .ok ()) ∧ d.pushes D (chunk :: reads) = d'.pushes D reads := by
  have hstep : (d.pushes D (chunk :: reads)) = (d.push D chunk).1.pushes D reads := rfl
  rw [hstep] at h ⊢
  rcases hpush : d.push D chunk with ⟨d', _ | u⟩
  · have hpoisoned : d'.poisoned = true := by
      rw [Decoder.push] at hpush
      split at hpush
      · cases hpush
        assumption
      · split at hpush
        · cases hpush
        · cases hpush
          rfl
    rw [hpush, pushes_poisoned hpoisoned, Decoder.finish, if_pos hpoisoned] at h
    cases h
  · exact ⟨d', rfl, rfl⟩

/-- A stream that was read to its end and accepted is normalized. -/
theorem receive_accepted (reads : List (List Byte)) : ∀ {d : Decoder σ} {facts : List φ}, (d.pushes D reads).finish D = .ok facts →
    receive D A d false reads = A.normalize facts := by
  induction reads with
  | nil =>
    intro d facts h
    rw [Decoder.pushes, List.foldl_nil] at h
    rw [receive, h]
    rfl
  | cons chunk reads ih =>
    intro d facts h
    obtain ⟨d', hpush, hsame⟩ := push_of_finish h
    rw [hsame] at h
    rw [receive, hpush]
    exact ih h

/-- A push that processes no event leaves the state. -/
theorem push_processed {d d' : Decoder σ} {after : List Byte → Option (List φ)} (h : Live D d after) {chunk : List Byte}
    (hpush : d.push D chunk = (d', .ok ())) :
    d.processedSseEvents ≤ d'.processedSseEvents ∧ (d'.processedSseEvents = d.processedSseEvents → d'.state = d.state) := by
  rw [Decoder.push, if_neg (by simp [h.clean]), Decoder.pushInner] at hpush
  rcases hsse : d.sse.push chunk with ⟨sse, _ | _⟩
  · rw [hsse] at hpush
    cases hpush
  · rw [hsse] at hpush
    dsimp only at hpush
    rcases processFramed_spec (D := D) sse.takeEvents.2 { d with sse := sse.takeEvents.1 } h.count with
      ⟨d2, hprocess, _, _, hcount, _, hfold⟩ | ⟨d2, e, hprocess, _⟩
    · rw [hprocess] at hpush
      cases hpush
      dsimp only at hcount hfold
      refine ⟨by omega, fun hsame => ?_⟩
      have hnone : sse.takeEvents.2 = [] := List.eq_nil_of_length_eq_zero (by omega)
      rw [hnone] at hfold
      exact (Except.ok.inj hfold).symm
    · rw [hprocess] at hpush
      cases hpush

/-- An accepted stream that processed no event left the facts there were. -/
theorem facts_processed (reads : List (List Byte)) : ∀ {d : Decoder σ} {after : List Byte → Option (List φ)} {facts : List φ},
    Live D d after → (d.pushes D reads).finish D = .ok facts → d.processedSseEvents ≤ (d.pushes D reads).processedInAll D ∧
      ((d.pushes D reads).processedInAll D = d.processedSseEvents → facts = D.events d.state) := by
  induction reads with
  | nil =>
    intro d after facts hlive hfinish
    rw [Decoder.pushes, List.foldl_nil] at hfinish ⊢
    rw [live_processed hlive]
    refine ⟨Nat.le_refl _, fun _ => ?_⟩
    rw [Decoder.finish, if_neg (by simp [hlive.clean])] at hfinish
    split at hfinish
    · cases hfinish
    · rename_i framed hsse
      rw [finish_frames hlive hsse] at hfinish
      dsimp only [Decoder.processFramedEvents] at hfinish
      split at hfinish
      · exact (Except.ok.inj hfinish).symm
      · cases hfinish
  | cons chunk reads ih =>
    intro d after facts hlive hfinish
    obtain ⟨d', hpush, hsame⟩ := push_of_finish hfinish
    obtain ⟨hle, hstate⟩ := push_processed hlive hpush
    rw [hsame] at hfinish ⊢
    rcases push_live hlive chunk with ⟨d1, hpush1, hlive'⟩ | ⟨d1, e, hpush1, _⟩
    · rw [hpush] at hpush1
      cases hpush1
      obtain ⟨hle', hfacts⟩ := ih hlive' hfinish
      refine ⟨Nat.le_trans hle hle', fun hall => ?_⟩
      rw [hfacts (by omega), hstate (by omega)]
    · rw [hpush] at hpush1
      cases hpush1

theorem started_of_facts {state : σ} {reads : List (List Byte)} {facts : List φ}
    (h : ((Decoder.new state).pushes D reads).finish D = .ok facts) (hfacts : facts ≠ D.events state) :
    Started D (Decoder.new state) reads :=
  fun hnone => hfacts ((facts_processed reads (new_live state) h).2 hnone)

end Receive

/-! ## Normalizing -/

def FencedErrors {α : Type} (x : Except ProviderError α) : Prop := ∀ e, x = .error e → Fenced e

namespace FencedErrors

variable {α β : Type}

theorem ok (a : α) : FencedErrors (.ok a) := nofun

theorem invalid (reason : String) : FencedErrors (.error (.invalidResponse reason) : Except ProviderError α) := by
  rintro _ ⟨⟩
  exact fenced_invalid reason

theorem after (message : String) : FencedErrors (.error (.unavailableDuring .afterFirstEvent message) : Except ProviderError α) := by
  rintro _ ⟨⟩
  exact fenced_after message

theorem bind {x : Except ProviderError α} {f : α → Except ProviderError β} (hx : FencedErrors x) (hf : ∀ a, FencedErrors (f a)) :
    FencedErrors (x >>= f) := by
  intro e h
  obtain h | ⟨a, _, h⟩ := bind_error.mp h
  · exact hx e h
  · exact hf a e h

theorem check (c : Prop) [Decidable c] (reason : String) : FencedErrors (require c (.invalidResponse reason)) := by
  rw [require]
  split
  · exact ok _
  · exact invalid reason

theorem toolCall (callId name arguments : String) : FencedErrors (ProviderToolCall.new callId name arguments) := by
  rw [ProviderToolCall.new]
  split
  · split
    · split
      · exact ok _
      · exact invalid _
    · exact invalid _
  · exact invalid _

theorem usage (input cached write output reasoning total : Option UInt64) (tier : Option String) :
    FencedErrors (UsageRecord.new input cached write output reasoning total tier) := by
  rw [UsageRecord.new]
  split
  · exact ok _
  · exact invalid _

theorem chatIdentity (expected : Option String) (actual : String) (index : Nat) :
    FencedErrors (observeChatIdentity expected actual index) := by
  unfold observeChatIdentity
  refine (check _ _).bind fun _ => ?_
  cases expected with
  | none => exact ok _
  | some expected =>
    dsimp only
    split
    · exact invalid _
    · exact ok _

theorem messageIdentity (expected : Option String) (actual : String) : FencedErrors (observeMessageIdentity expected actual) := by
  unfold observeMessageIdentity
  split
  · split
    · exact invalid _
    · exact ok _
  · exact ok _

theorem tokens (total : Except MessagesError (Option UInt64)) : FencedErrors (accounted total) := by
  cases total with
  | ok value => exact ok _
  | error e => exact invalid _

end FencedErrors

open FencedErrors in
theorem normalizeResponses_fenced (facts : List ResponsesEvent) : ∀ (id : Option String) (first done : Bool),
    FencedErrors (normalizeResponsesFrom id first done facts) := by
  induction facts with
  | nil =>
    intro id first done
    exact (check _ _).bind fun _ => ok _
  | cons event facts ih =>
    intro id first done
    rw [normalizeResponsesFrom]
    refine (check _ _).bind fun _ => ?_
    split
    · exact (check _ _).bind fun _ => ih _ _ _
    · exact (check _ _).bind fun _ => (ih _ _ _).bind fun _ => ok _
    · exact (check _ _).bind fun _ => (toolCall _ _ _).bind fun _ => (ih _ _ _).bind fun _ => ok _
    · exact (check _ _).bind fun _ => (usage _ _ _ _ _ _ _).bind fun _ => (ih _ _ _).bind fun _ => ok _
    all_goals exact after _

theorem normalizeCreated_fenced (facts : List ResponsesEvent) : FencedErrors (normalizeCreatedResponse facts) := by
  unfold normalizeCreatedResponse
  split
  · exact normalizeResponses_fenced _ _ _ _
  · exact .invalid _

open FencedErrors in
theorem normalizeMessages_fenced (facts : List MessagesEvent) : ∀ (id : Option String) (done : Bool),
    FencedErrors (normalizeMessagesFrom id done facts) := by
  induction facts with
  | nil =>
    intro id done
    exact (check _ _).bind fun _ => ok _
  | cons event facts ih =>
    intro id done
    cases event with
    | textDelta => exact (check _ _).bind fun _ => (messageIdentity _ _).bind fun _ => (ih _ _).bind fun _ => ok _
    | functionCall =>
      exact (check _ _).bind fun _ => (messageIdentity _ _).bind fun _ => (toolCall _ _ _).bind fun _ => (ih _ _).bind fun _ => ok _
    | completed =>
      exact (check _ _).bind fun _ => (messageIdentity _ _).bind fun _ => (check _ _).bind fun _ => (tokens _).bind fun _ =>
        (tokens _).bind fun _ => (check _ _).bind fun _ => (usage _ _ _ _ _ _ _).bind fun _ => (ih _ _).bind fun _ => ok _
    | incomplete | error => exact (check _ _).bind fun _ => after _

open FencedErrors in
/-- Only an early stop is not fenced. -/
theorem normalizeChat_fenced (facts : List ChatCompletionsEvent) (hwhole : ∀ id reason, .incomplete id reason ∉ facts) :
    ∀ (id : Option String) (done : Bool), FencedErrors (normalizeChatFrom id done facts) := by
  induction facts with
  | nil =>
    intro id done
    exact (check _ _).bind fun _ => ok _
  | cons event facts ih =>
    intro id done
    replace ih := ih fun id reason hmem => hwhole id reason (List.mem_cons_of_mem _ hmem)
    cases event with
    | textDelta => exact (check _ _).bind fun _ => (chatIdentity _ _ _).bind fun _ => (ih _ _).bind fun _ => ok _
    | functionCall =>
      exact (check _ _).bind fun _ => (chatIdentity _ _ _).bind fun _ => (toolCall _ _ _).bind fun _ => (ih _ _).bind fun _ => ok _
    | completed =>
      exact (check _ _).bind fun _ => (chatIdentity _ _ _).bind fun _ => (check _ _).bind fun _ =>
        (usage _ _ _ _ _ _ _).bind fun _ => (ih _ _).bind fun _ => ok _
    | incomplete id reason => exact absurd List.mem_cons_self (hwhole id reason)

/-! ## Streams cut short -/

/-- Text, no Tool call, and an end that is not a completion. -/
def ResponsesCut (facts : List ResponsesEvent) : Prop :=
  (∃ event ∈ facts, ∃ id index content delta, event.kind = .textDelta id index content delta) ∧
    (∀ event ∈ facts, ∀ arguments, ¬ ResponsesState.IsCall arguments event.kind) ∧
    ∃ event ∈ facts, ResponsesState.Broken event.kind

def MessagesCut (facts : List MessagesEvent) : Prop :=
  (∃ id index delta, .textDelta id index delta ∈ facts) ∧ (∀ fact ∈ facts, fact.isCall = false) ∧
    ((∃ id reason, .incomplete id reason ∈ facts) ∨ ∃ bytes, .error bytes ∈ facts)

def ChatCompletionsCut (facts : List ChatCompletionsEvent) : Prop :=
  (∃ id index delta, .textDelta id index delta ∈ facts) ∧ ∃ id reason, .incomplete id reason ∈ facts

/-- The whole stream was read and accepted, and a choice in it finishes with `length` or `content_filter`. -/
def StoppedShort (json : ChatCompletionsJson) (d : ChatCompletionsSseDecoder) (failed : Bool) (reads : List (List Byte)) : Prop :=
  failed = false ∧ ((chatCompletionsDialect json).decode d.state reads.flatten).isSome ∧
    ∃ event ∈ streamEvents reads.flatten, StopsShort json event

theorem normalizeResponses_broken {id : Option String} {first : Bool} {event : ResponsesEvent} (h : ResponsesState.Broken event.kind)
    (rest : List ResponsesEvent) :
    ∃ bytes, normalizeResponsesFrom id first false (event :: rest) = .error (.unavailable .afterFirstEvent bytes) := by
  rw [normalizeResponsesFrom, require_bind rfl]
  obtain ⟨sequence, kind⟩ := event
  cases kind with
  | failed | incomplete | error => exact ⟨_, rfl⟩
  | created | textDelta | functionCall | completed => cases h

theorem body_unbroken {json : ResponsesJson} {texts : List String} {kind : ResponsesEventKind}
    (h : ResponsesState.InBody json texts kind) : ¬ ResponsesState.Broken kind := by
  cases h <;> exact id

theorem responses_cut {json : ResponsesJson} {maxOutput : Nat} {d : ResponsesSseDecoder} (hd : ResponsesSseDecoder.new maxOutput = .ok d)
    {bytes : List Byte} {facts : List ResponsesEvent} (haccept : (responsesDialect json).decode d.state bytes = some facts)
    (hcut : ResponsesCut facts) : ∃ n, normalizeCreatedResponse facts = .error (.unavailable .afterFirstEvent n) := by
  obtain ⟨events, s, _, hterminal, hshape⟩ := ResponsesState.decode_facts hd haccept
  obtain ⟨⟨said, hsaid, id, index, content, delta, hdelta⟩, hnocall, broken, hbroken, hkind⟩ := hcut
  generalize hkinds : facts.map (·.kind) = kinds at hshape
  have hmem : ∀ {event}, event ∈ facts → event.kind ∈ kinds := fun h => hkinds ▸ List.mem_map_of_mem h
  cases hshape with
  | fresh hgoing | running _ _ hgoing =>
    rw [hterminal] at hgoing
    cases hgoing
  | completed id body usage tier _ hbody =>
    rcases List.mem_cons.mp (hmem hbroken) with h | h
    · rw [h] at hkind
      cases hkind
    · rcases List.mem_append.mp h with h | h
      · exact absurd hkind (body_unbroken (hbody _ h))
      · rw [List.mem_singleton.mp h] at hkind
        cases hkind
  | broken before kind _ hend hbefore =>
    rcases hbefore with rfl | ⟨id', body, rfl, hbody⟩
    · rw [List.mem_singleton.mp (hmem hsaid)] at hdelta
      rw [hdelta] at hend
      cases hend
    · obtain ⟨first, rest, rfl, hfirst, hrest⟩ := List.map_eq_cons_iff.mp hkinds
      obtain ⟨texts, ends, rfl, htexts, hends⟩ := List.map_eq_append_iff.mp hrest
      obtain ⟨last, rfl, rfl⟩ := List.map_eq_singleton_iff.mp hends
      have hsayings : ∀ event ∈ texts, ResponsesState.InBody json [] event.kind := by
        intro event hevent
        have hin := hbody _ (htexts ▸ List.mem_map_of_mem hevent)
        have hno := hnocall event (List.mem_cons_of_mem _ (List.mem_append_left _ hevent))
        cases hk : event.kind <;> rw [hk] at hin hno <;> cases hin
        · exact .text ..
        · exact absurd ⟨_, _, _, _, rfl⟩ (hno _)
      obtain ⟨outs, _, _, hnormal⟩ := @normalizeResponses_body json [] (by simp) id' [last] texts hsayings
      obtain ⟨n, hlast⟩ := @normalizeResponses_broken (some id') false last hend []
      refine ⟨n, ?_⟩
      obtain ⟨sequence, kind⟩ := first
      obtain rfl : kind = .created id' := hfirst
      rw [normalizeCreatedResponse, normalizeResponsesEvents, normalizeResponsesFrom, require_bind rfl]
      dsimp only
      rw [require_bind ⟨rfl, rfl⟩, hnormal, hlast]
      rfl

theorem messages_cut {json : MessagesJson} {maxOutput : Nat} {d : MessagesSseDecoder} (hd : MessagesSseDecoder.new maxOutput = .ok d)
    {bytes : List Byte} {facts : List MessagesEvent} (haccept : (messagesDialect json).decode d.state bytes = some facts)
    (hcut : MessagesCut facts) : ∃ n, normalizeMessagesEvents facts = .error (.unavailable .afterFirstEvent n) := by
  obtain ⟨events, s, body, tail, _, hterminal, rfl, hkept⟩ := MessagesState.decode_facts hd haccept
  obtain ⟨⟨id, index, delta, hsaid⟩, hnocall, hend⟩ := hcut
  obtain ⟨id', hid'⟩ : ∃ id', ∀ fact ∈ body, InMessageBody id' fact := by
    cases hmessage : s.messageId with
    | none =>
      refine ⟨"", fun fact hfact => ?_⟩
      obtain ⟨_, hid, _⟩ := hkept.body fact hfact
      rw [hmessage] at hid
      cases hid
    | some id' =>
      refine ⟨id', fun fact hfact => ?_⟩
      have hno := hnocall fact (List.mem_append_left _ hfact)
      obtain ⟨id, hid, ⟨index, delta, rfl⟩ | ⟨_, _, _, _, rfl, _⟩⟩ := hkept.body fact hfact
      · rw [hmessage] at hid
        cases hid
        exact .text index delta
      · cases hno
  have hbodyOpen : ∀ {fact}, (∃ id reason, fact = .incomplete id reason) ∨ (∃ bytes, fact = .error bytes) → fact ∉ body := by
    rintro fact (⟨_, _, rfl⟩ | ⟨_, rfl⟩) hmem <;> cases hid' _ hmem
  obtain ⟨outs, expected, _, _, _, hrest⟩ := @normalizeMessages_body id' tail body hid' none (by simp)
  rw [normalizeMessagesEvents, hrest]
  cases hkept.tail with
  | running hgoing =>
    rw [hterminal] at hgoing
    cases hgoing
  | short id reason => exact ⟨_, rfl⟩
  | completed id usage =>
    rcases hend with ⟨_, _, hmem⟩ | ⟨_, hmem⟩
    · cases List.mem_singleton.mp ((List.mem_append.mp hmem).resolve_left (hbodyOpen (.inl ⟨_, _, rfl⟩)))
    · cases List.mem_singleton.mp ((List.mem_append.mp hmem).resolve_left (hbodyOpen (.inr ⟨_, rfl⟩)))
  | error short bytes _ hshort =>
    cases short with
    | nil => exact ⟨_, rfl⟩
    | cons fact short =>
      obtain ⟨_, _, rfl⟩ := hshort fact List.mem_cons_self
      exact ⟨_, rfl⟩

/-- An accepted stream has an early stop among its facts exactly when a choice finishes short. -/
theorem chatCompletions_short {json : ChatCompletionsJson} {maxOutput : Nat} {d : ChatCompletionsSseDecoder}
    (hd : ChatCompletionsSseDecoder.new maxOutput = .ok d) {bytes : List Byte} {facts : List ChatCompletionsEvent}
    (haccept : (chatCompletionsDialect json).decode d.state bytes = some facts) :
    ((∃ id reason, .incomplete id reason ∈ facts) ↔ ∃ event ∈ streamEvents bytes, StopsShort json event) ∧
      ((∃ id reason, .incomplete id reason ∈ facts) →
        ∃ n, normalizeChatCompletionsEvents facts = .error (.unavailable .beforeResponse n)) := by
  obtain ⟨events, id, said, out, usage, tier, short, hframed, hsaid, hout, hshort, _, rfl⟩ :=
    ChatCompletionsState.decode_facts hd haccept
  rw [streamEvents, hframed, Option.getD_some, ← hshort]
  have hbody : ∀ fact ∈ said, InChatBody id fact := by
    intro fact hfact
    obtain ⟨delta, rfl⟩ := hsaid fact hfact
    exact .text delta
  have hopen : ∀ {id reason}, .incomplete id reason ∉ said := by
    intro id reason hmem
    cases hbody _ hmem
  cases hout with
  | stop => 
    have hnone : ¬ ∃ id' reason, .incomplete id' reason ∈ said ++ [] ++ [.completed id usage tier] := by
      rintro ⟨_, _, hmem⟩
      simp [hopen] at hmem
    exact ⟨⟨fun h => absurd h hnone, (by simp)⟩, fun h => absurd h hnone⟩
  | call callId name arguments =>
    have hnone : ¬ ∃ id' reason, .incomplete id' reason ∈
        said ++ [.functionCall id 0 callId name arguments] ++ [.completed id usage tier] := by
      rintro ⟨_, _, hmem⟩
      simp [hopen] at hmem
    exact ⟨⟨fun h => absurd h hnone, (by simp)⟩, fun h => absurd h hnone⟩
  | short reason =>
    obtain ⟨outs, expected, _, _, _, hrest⟩ := @normalizeChat_body id [.incomplete id reason] said hbody none (by simp)
    refine ⟨⟨fun _ => rfl, fun _ => ⟨id, reason, by simp⟩⟩, fun _ => ?_⟩
    rw [if_pos rfl, List.append_nil, normalizeChatCompletionsEvents, hrest]
    exact ⟨_, rfl⟩

/-! ## Every stream -/

namespace ShortChat

set_option maxRecDepth 4000

def text := "\x7b\"id\":\"c1\",\"object\":\"chat.completion.chunk\",\"model\":\"m\",\"choices\":[\x7b\"index\":0,\"delta\":\x7b" ++
  "\"role\":\"assistant\",\"content\":\"Hi\"\x7d\x7d]\x7d"

def finished := "\x7b\"id\":\"c1\",\"object\":\"chat.completion.chunk\",\"model\":\"m\",\"choices\":[\x7b\"index\":0,\"delta\":\x7b\x7d," ++
  "\"finish_reason\":\"length\"\x7d]\x7d"

def datas : List String := [text, finished, "[DONE]"]

def stream : List Byte := datas.flatMap fun data => utf8 ("data: " ++ data) ++ [lf, lf]

/-- What `serde_json` reads from these texts. -/
def json : ChatCompletionsJson where
  chunk := lookup [
    (text, ⟨"c1", "chat.completion.chunk", "m", [⟨0, ⟨some "assistant", some "Hi", none, none, []⟩, none⟩], none, none⟩),
    (finished, ⟨"c1", "chat.completion.chunk", "m", [⟨0, ⟨none, none, none, none, []⟩, some "length"⟩], none, none⟩)]
  value _ := none

def start : ChatCompletionsState := ⟨maxOutputBytes, 0, none, none, none, false, false, false, none, none, false, []⟩

def facts : List ChatCompletionsEvent := [.textDelta "c1" 0 "Hi", .incomplete "c1" "length"]

theorem framed_stream : framed streamLimits stream = some (datas.map (⟨"message", ·⟩)) :=
  framed_data (by decide) (by decide) (by decide)

theorem accepted :
    ((Decoder.new start).pushes (chatCompletionsDialect json) [stream]).finish (chatCompletionsDialect json) = .ok facts := by
  refine pushes_ok ?_
  rw [List.flatten_singleton, Dialect.decode, framed_stream]
  decide

theorem started : Started (chatCompletionsDialect json) (Decoder.new start) [stream] :=
  started_of_facts accepted (by decide)

end ShortChat

end GreenTyper.Provider
