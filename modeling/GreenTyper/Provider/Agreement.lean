/-
  GreenTyper.Provider.Agreement — whether a normalizer accepts what its decoder accepted.

  `normalizers_agree`: for every completed stream of each dialect, in any chunks, the
  normalizer returns the facts in order exactly when the Tool arguments that the stream gave
  are clean and, for Responses, its service tier is trimmed and not blank. The other fields
  are checked twice by rules of which the decoder's is the stricter.

  The two that are not: `canonical_arguments` prints U+007F to U+009F as they are and
  `ProviderToolCall::new` rejects them (`control_argument_rejected`); `validate_optional_text`
  of the Responses decoder lacks the test on trimming that Chat Completions has
  (`untrimmed_tier_rejected`).
-/

import GreenTyper.Provider.Normalization

namespace GreenTyper.Provider

open Lib

/-- The normalizer returned one event for each fact that has an outline, in order, the completion last and only there. -/
def Agreed {φ : Type} (normalize : List φ → Except ProviderError (List ProviderEvent)) (outline : φ → Option Outline)
    (facts : List φ) : Prop :=
  ∃ out body, normalize facts = .ok out ∧ out.map (·.outline) = facts.filterMap outline ∧
    facts.filterMap outline = body ++ [.completed] ∧ .completed ∉ body

def streamEvents (bytes : List Byte) : List SseEvent := (framed streamLimits bytes).getD []

/-! ## Responses -/

def ResponsesEvent.outline (event : ResponsesEvent) : Option Outline :=
  match event.kind with
  | .textDelta _ _ _ delta => some (.text delta)
  | .functionCall _ _ callId name argumentsJson => some (.call callId name argumentsJson)
  | .completed .. => some .completed
  | _ => none

section Responses

variable {json : ResponsesJson} {texts : List String}

theorem normalizeResponses_body (hclean : ∀ text ∈ texts, CleanArguments json.value text) (id : String)
    (rest : List ResponsesEvent) (body : List ResponsesEvent) :
    (∀ event ∈ body, ResponsesState.InBody json texts event.kind) → ∃ outs : List ProviderEvent,
      outs.map (·.outline) = body.filterMap (·.outline) ∧ .completed ∉ outs.map (·.outline) ∧
      normalizeResponsesFrom (some id) false false (body ++ rest) =
        (normalizeResponsesFrom (some id) false false rest).map (outs ++ ·) := by
  induction body with
  | nil =>
    intro _
    refine ⟨[], rfl, by simp, ?_⟩
    rw [List.nil_append]
    cases normalizeResponsesFrom (some id) false false rest <;> rfl
  | cons event body ih =>
    intro hbody
    obtain ⟨outs, houts, hopen, hrest⟩ := ih fun e he => hbody e (List.mem_cons_of_mem _ he)
    have hhead := hbody event (List.mem_cons_self ..)
    obtain ⟨sequence, kind⟩ := event
    cases hhead with
    | text item index content delta =>
      refine ⟨.textDelta delta :: outs, ?_, ?_, ?_⟩
      · rw [List.map_cons, houts, List.filterMap_cons]
        rfl
      · rw [List.map_cons, List.mem_cons, not_or]
        exact ⟨(nomatch ·), hopen⟩
      · rw [List.cons_append, normalizeResponsesFrom, require_bind rfl]
        dsimp only
        rw [require_bind (Option.some_ne_none id), hrest]
        cases normalizeResponsesFrom (some id) false false rest <;> rfl
    | call item index callId name text arguments hid hname htext hcanonical =>
      obtain ⟨call, hcall, houtline⟩ := call_new hid hname hcanonical (hclean text htext)
      refine ⟨.functionCall call :: outs, ?_, ?_, ?_⟩
      · rw [List.map_cons, houtline, houts, List.filterMap_cons]
        rfl
      · rw [List.map_cons, houtline, List.mem_cons, not_or]
        exact ⟨(nomatch ·), hopen⟩
      · rw [List.cons_append, normalizeResponsesFrom, require_bind rfl]
        dsimp only
        rw [require_bind (Option.some_ne_none id), hcall, ok_bind, hrest]
        cases normalizeResponsesFrom (some id) false false rest <;> rfl

/-- A normalizer that accepts has made a Provider Tool call of every call, and a usage record of every completion. -/
theorem normalizeResponses_ok (facts : List ResponsesEvent) : ∀ {id : Option String} {first done : Bool} {out : List ProviderEvent},
    normalizeResponsesFrom id first done facts = .ok out →
      (∀ event ∈ facts, ∀ arguments, ResponsesState.IsCall arguments event.kind →
        ProviderText maxProviderToolArgumentBytes arguments) ∧
      ∀ event ∈ facts, ∀ id usage tier, event.kind = .completed id usage tier → ∀ value ∈ tier, ProviderText maxServiceTierBytes value := by
  induction facts with
  | nil =>
    intro id first done out _
    exact ⟨by simp, by simp⟩
  | cons event facts ih =>
    intro id first done out h
    obtain ⟨sequence, kind⟩ := event
    cases kind with
    | created created =>
      simp only [normalizeResponsesFrom, bind_ok] at h
      obtain ⟨_, _, _, _, h⟩ := h
      obtain ⟨hcalls, htiers⟩ := ih h
      refine ⟨List.forall_mem_cons.mpr ⟨?_, hcalls⟩, List.forall_mem_cons.mpr ⟨?_, htiers⟩⟩
      · rintro arguments ⟨_, _, _, _, ⟨⟩⟩
      · rintro _ _ _ ⟨⟩
    | textDelta item index content delta =>
      simp only [normalizeResponsesFrom, bind_ok, pure, Except.pure, Except.ok.injEq] at h
      obtain ⟨_, _, _, _, rest, hrest, _⟩ := h
      obtain ⟨hcalls, htiers⟩ := ih hrest
      refine ⟨List.forall_mem_cons.mpr ⟨?_, hcalls⟩, List.forall_mem_cons.mpr ⟨?_, htiers⟩⟩
      · rintro arguments ⟨_, _, _, _, ⟨⟩⟩
      · rintro _ _ _ ⟨⟩
    | functionCall item index callId name argumentsJson =>
      simp only [normalizeResponsesFrom, bind_ok, pure, Except.pure, Except.ok.injEq] at h
      obtain ⟨_, _, _, _, call, hcall, rest, hrest, _⟩ := h
      obtain ⟨hcalls, htiers⟩ := ih hrest
      refine ⟨List.forall_mem_cons.mpr ⟨?_, hcalls⟩, List.forall_mem_cons.mpr ⟨?_, htiers⟩⟩
      · rintro arguments ⟨_, _, _, _, ⟨⟩⟩
        exact call_arguments hcall
      · rintro _ _ _ ⟨⟩
    | completed terminal usage tier =>
      simp only [normalizeResponsesFrom, bind_ok, pure, Except.pure, Except.ok.injEq] at h
      obtain ⟨_, _, _, _, record, hrecord, rest, hrest, _⟩ := h
      obtain ⟨hcalls, htiers⟩ := ih hrest
      refine ⟨List.forall_mem_cons.mpr ⟨?_, hcalls⟩, List.forall_mem_cons.mpr ⟨?_, htiers⟩⟩
      · rintro arguments ⟨_, _, _, _, ⟨⟩⟩
      · rintro _ _ _ ⟨⟩
        exact usage_new.mp ⟨record, hrecord⟩
    | failed | incomplete | error =>
      simp only [normalizeResponsesFrom, bind_ok, reduceCtorEq, and_false, exists_false] at h

/-- A service tier that is trimmed and not blank. -/
def TrimmedTier (tier : String) : Prop := isBlank tier = false ∧ trim tier = tier

/-- The facts of a completed stream, split at its creation and its completion. -/
theorem completed_shape {tiers : List String} {s : ResponsesState} {facts : List ResponsesEvent}
    (h : ResponsesState.Shape json texts tiers s (facts.map (·.kind))) (hterminal : s.terminal = true)
    (hcompleted : ∃ event ∈ facts, ∃ id usage tier, event.kind = .completed id usage tier) :
    ∃ first body last id usage tier, facts = first :: (body ++ [last]) ∧ first.kind = .created id ∧
      (∀ event ∈ body, ResponsesState.InBody json texts event.kind) ∧ last.kind = .completed id usage tier ∧
      tiers = tier.toList ∧ (∀ value ∈ tier, TierAccepted value) ∧
      ∀ text ∈ texts, ∃ arguments, ResponsesState.Canonical json text arguments ∧
        ∃ event ∈ facts, ResponsesState.IsCall arguments event.kind := by
  generalize hkinds : facts.map (·.kind) = kinds at h
  cases h with
  | fresh hgoing | running _ _ hgoing =>
    rw [hterminal] at hgoing
    cases hgoing
  | completed id body usage tier _ hbody htiers htier hcalls =>
    obtain ⟨first, rest, rfl, hfirst, hrest⟩ := List.map_eq_cons_iff.mp hkinds
    obtain ⟨said, ends, rfl, hsaid, hends⟩ := List.map_eq_append_iff.mp hrest
    obtain ⟨last, rfl, hlast⟩ := List.map_eq_singleton_iff.mp hends
    refine ⟨first, said, last, id, usage, tier, rfl, hfirst, fun event hevent => ?_, hlast, htiers, htier, fun text htext => ?_⟩
    · exact hbody _ (hsaid ▸ List.mem_map_of_mem hevent)
    · obtain ⟨arguments, hcanonical, kind, hkind, hcall⟩ := hcalls text htext
      rw [← hsaid] at hkind
      obtain ⟨event, hevent, rfl⟩ := List.mem_map.mp hkind
      exact ⟨arguments, hcanonical, event, List.mem_cons_of_mem _ (List.mem_append_left _ hevent), hcall⟩
  | broken before kind _ hbroken hbefore =>
    obtain ⟨event, hevent, id, usage, tier, hkind⟩ := hcompleted
    have hmem : event.kind ∈ before ++ [kind] := hkinds ▸ List.mem_map_of_mem hevent
    rw [hkind] at hmem
    rcases List.mem_append.mp hmem with hmem | hmem
    · rcases hbefore with rfl | ⟨id', body, rfl, hbody⟩
      · cases hmem
      · rcases List.mem_cons.mp hmem with h | h
        · cases h
        · cases hbody _ h
    · rw [← List.mem_singleton.mp hmem] at hbroken
      cases hbroken

theorem agreed_body (record : UsageRecord) {outs : List ProviderEvent} {outlines : List Outline}
    (houts : outs.map (·.outline) = outlines) (hopen : Outline.completed ∉ outs.map ProviderEvent.outline) :
    (outs ++ [ProviderEvent.completed record]).map (·.outline) = outlines ++ [.completed] ∧ .completed ∉ outlines := by
  rw [List.map_append, houts]
  exact ⟨rfl, houts ▸ hopen⟩

theorem responses_agree {maxOutput : Nat} {d : ResponsesSseDecoder} (hd : ResponsesSseDecoder.new maxOutput = .ok d)
    {bytes : List Byte} {facts : List ResponsesEvent} (haccept : (responsesDialect json).decode d.state bytes = some facts)
    (hcompleted : ∃ event ∈ facts, ∃ id usage tier, event.kind = .completed id usage tier) :
    Agreed normalizeResponsesEvents ResponsesEvent.outline facts ↔
      (∀ text ∈ (streamEvents bytes).filterMap (doneArguments json), CleanArguments json.value text) ∧
        ∀ tier ∈ (streamEvents bytes).filterMap (completedTier json), TrimmedTier tier := by
  obtain ⟨events, s, hframed, hterminal, hshape⟩ := ResponsesState.decode_facts hd haccept
  rw [streamEvents, hframed, Option.getD_some]
  obtain ⟨first, body, last, id, usage, tier, rfl, hfirst, hbody, hlast, htiers, htier, hcalls⟩ :=
    completed_shape hshape hterminal hcompleted
  rw [htiers]
  refine ⟨fun ⟨out, _, hout, _⟩ => ?_, fun ⟨hclean, htrimmed⟩ => ?_⟩
  · obtain ⟨hargs, husage⟩ := normalizeResponses_ok _ hout
    refine ⟨fun text htext => ?_, fun value hvalue => ?_⟩
    · obtain ⟨arguments, hcanonical, event, hevent, hcall⟩ := hcalls text htext
      exact (canonical_text hcanonical).mp (hargs event hevent arguments hcall)
    · have hvalid := husage last (by simp) id usage tier hlast value (Option.mem_toList.mp hvalue)
      exact ⟨hvalid.1, hvalid.2.1⟩
  · have hvalid : ∀ value ∈ tier, ProviderText maxServiceTierBytes value := by
      intro value hvalue
      obtain ⟨hlen, hcontrol⟩ := htier value hvalue
      obtain ⟨hblank, htrim⟩ := htrimmed value (Option.mem_toList.mpr hvalue)
      exact ⟨hblank, htrim, hlen, hcontrol⟩
    obtain ⟨record, hrecord⟩ := (@usage_new (usage.getD .default).inputTokens (usage.getD .default).cachedInputTokens
      (usage.getD .default).cacheWriteInputTokens (usage.getD .default).outputTokens
      (usage.getD .default).reasoningOutputTokens (usage.getD .default).totalTokens tier).mpr hvalid
    obtain ⟨outs, houts, hopen, hrest⟩ := normalizeResponses_body hclean id [last] body hbody
    obtain ⟨hwhole, hbodyOpen⟩ := agreed_body record houts hopen
    have hfacts : (first :: (body ++ [last])).filterMap (·.outline) = body.filterMap (·.outline) ++ [.completed] := by
      rw [List.filterMap_cons, List.filterMap_append]
      simp [ResponsesEvent.outline, hfirst, hlast]
    refine ⟨outs ++ [.completed record], body.filterMap (·.outline), ?_, hwhole.trans hfacts.symm, hfacts, hbodyOpen⟩
    obtain ⟨sequence, kind⟩ := first
    obtain ⟨sequence', kind'⟩ := last
    subst hfirst hlast
    rw [normalizeResponsesEvents, normalizeResponsesFrom, require_bind rfl]
    dsimp only
    rw [require_bind ⟨rfl, rfl⟩, hrest, normalizeResponsesFrom, require_bind rfl]
    dsimp only
    rw [require_bind ⟨rfl, rfl⟩, hrecord, ok_bind]
    rfl

end Responses

/-! ## Chat Completions -/

def ChatCompletionsEvent.outline : ChatCompletionsEvent → Option Outline
  | .textDelta _ _ delta => some (.text delta)
  | .functionCall _ _ callId name argumentsJson => some (.call callId name argumentsJson)
  | .completed .. => some .completed
  | .incomplete .. => none

section ChatCompletions

variable {json : ChatCompletionsJson}

/-- A text delta, or a Tool call that makes a Provider Tool call, under the stream's identity. -/
inductive InChatBody (id : String) : ChatCompletionsEvent → Prop
  | text (delta : String) : InChatBody id (.textDelta id 0 delta)
  | call (callId name arguments : String) (call : ProviderToolCall) : ProviderToolCall.new callId name arguments = .ok call →
      (ProviderEvent.functionCall call).outline = .call callId name arguments →
      InChatBody id (.functionCall id 0 callId name arguments)

theorem observeChatIdentity_same {expected : Option String} {id : String} (h : ∀ id' ∈ expected, id' = id) :
    observeChatIdentity expected id 0 = .ok (some id) := by
  unfold observeChatIdentity
  rw [require_bind rfl]
  cases expected with
  | none => rfl
  | some id' =>
    obtain rfl := h id' rfl
    exact if_neg (by simp)

theorem normalizeChat_body (id : String) (rest body : List ChatCompletionsEvent) : (∀ fact ∈ body, InChatBody id fact) → ∀ {expected : Option String}, (∀ id' ∈ expected, id' = id) →
      ∃ (outs : List ProviderEvent) (expected' : Option String), outs.map (·.outline) = body.filterMap (·.outline) ∧
        .completed ∉ outs.map (·.outline) ∧ (∀ id' ∈ expected', id' = id) ∧
        normalizeChatFrom expected false (body ++ rest) = (normalizeChatFrom expected' false rest).map (outs ++ ·) := by
  induction body with
  | nil =>
    intro _ expected hid
    refine ⟨[], expected, rfl, by simp, hid, ?_⟩
    rw [List.nil_append]
    cases normalizeChatFrom expected false rest <;> rfl
  | cons fact body ih =>
    intro hbody expected hid
    obtain ⟨outs, expected', houts, hopen, hid', hrest⟩ :=
      @ih (fun e he => hbody e (List.mem_cons_of_mem _ he)) (some id) (by rintro _ ⟨⟩; rfl)
    cases hbody fact (List.mem_cons_self ..) with
    | text delta =>
      refine ⟨.textDelta delta :: outs, expected', ?_, ?_, hid', ?_⟩
      · rw [List.map_cons, houts, List.filterMap_cons]
        rfl
      · rw [List.map_cons, List.mem_cons, not_or]
        exact ⟨(nomatch ·), hopen⟩
      · rw [List.cons_append, normalizeChatFrom, require_bind rfl]
        rw [observeChatIdentity_same hid, ok_bind, hrest]
        cases normalizeChatFrom expected' false rest <;> rfl
    | call callId name arguments call hcall houtline =>
      refine ⟨.functionCall call :: outs, expected', ?_, ?_, hid', ?_⟩
      · rw [List.map_cons, houtline, houts, List.filterMap_cons]
        rfl
      · rw [List.map_cons, houtline, List.mem_cons, not_or]
        exact ⟨(nomatch ·), hopen⟩
      · rw [List.cons_append, normalizeChatFrom, require_bind rfl]
        rw [observeChatIdentity_same hid, ok_bind, hcall, ok_bind, hrest]
        cases normalizeChatFrom expected' false rest <;> rfl

/-- A normalizer that accepts has made a Provider Tool call of every call. -/
theorem normalizeChat_ok (facts : List ChatCompletionsEvent) : ∀ {id : Option String} {done : Bool} {out : List ProviderEvent},
    normalizeChatFrom id done facts = .ok out → ∀ id' index callId name arguments,
      .functionCall id' index callId name arguments ∈ facts → ProviderText maxProviderToolArgumentBytes arguments := by
  induction facts with
  | nil => simp
  | cons fact facts ih =>
    intro id done out h id' index callId name arguments hmem
    cases fact with
    | textDelta actual choice delta =>
      simp only [normalizeChatFrom, bind_ok, pure, Except.pure, Except.ok.injEq] at h
      obtain ⟨_, _, _, _, rest, hrest, _⟩ := h
      exact ih hrest id' index callId name arguments (by simpa using hmem)
    | functionCall actual choice callId' name' arguments' =>
      simp only [normalizeChatFrom, bind_ok, pure, Except.pure, Except.ok.injEq] at h
      obtain ⟨_, _, _, _, call, hcall, rest, hrest, _⟩ := h
      rcases List.mem_cons.mp hmem with hsame | hmem
      · cases hsame
        exact call_arguments hcall
      · exact ih hrest id' index callId name arguments hmem
    | completed actual usage tier =>
      simp only [normalizeChatFrom, bind_ok, pure, Except.pure, Except.ok.injEq] at h
      obtain ⟨_, _, _, _, _, _, record, _, rest, hrest, _⟩ := h
      exact ih hrest id' index callId name arguments (by simpa using hmem)
    | incomplete actual reason =>
      simp only [normalizeChatFrom, bind_ok, reduceCtorEq, and_false, exists_false] at h

theorem normalizeChat_completed {id : String} {body : List ChatCompletionsEvent} (hbody : ∀ fact ∈ body, InChatBody id fact)
    (usage : Option ChatCompletionsUsage) {tier : Option String} (htier : ∀ value ∈ tier, ProviderText maxServiceTierBytes value) :
    Agreed normalizeChatCompletionsEvents ChatCompletionsEvent.outline (body ++ [.completed id usage tier]) := by
  obtain ⟨outs, expected, houts, hopen, hid, hrest⟩ :=
    @normalizeChat_body id [.completed id usage tier] body hbody none (by simp)
  obtain ⟨record, hrecord⟩ := (@usage_new (usage.getD .default).inputTokens (usage.getD .default).cachedInputTokens none
    (usage.getD .default).outputTokens (usage.getD .default).reasoningOutputTokens (usage.getD .default).totalTokens tier).mpr htier
  obtain ⟨hwhole, hbodyOpen⟩ := agreed_body record houts hopen
  have hfacts : (body ++ [ChatCompletionsEvent.completed id usage tier]).filterMap ChatCompletionsEvent.outline =
      body.filterMap ChatCompletionsEvent.outline ++ [.completed] := List.filterMap_append
  refine ⟨outs ++ [.completed record], body.filterMap (·.outline), ?_, hwhole.trans hfacts.symm, hfacts, hbodyOpen⟩
  rw [normalizeChatCompletionsEvents, hrest, normalizeChatFrom, require_bind rfl, observeChatIdentity_same hid, ok_bind,
    require_bind rfl]
  dsimp only
  rw [hrecord, ok_bind]
  rfl

theorem chatCompletions_agree {maxOutput : Nat} {d : ChatCompletionsSseDecoder} (hd : ChatCompletionsSseDecoder.new maxOutput = .ok d)
    {bytes : List Byte} {facts : List ChatCompletionsEvent}
    (haccept : (chatCompletionsDialect json).decode d.state bytes = some facts)
    (hcompleted : ∃ id usage tier, .completed id usage tier ∈ facts) :
    Agreed normalizeChatCompletionsEvents ChatCompletionsEvent.outline facts ↔
      (ChatCompletionsState.streamCalls json (streamEvents bytes) ≠ [] →
        CleanArguments json.value (argumentsText (ChatCompletionsState.streamCalls json (streamEvents bytes)))) := by
  obtain ⟨events, id, said, out, usage, tier, short, hframed, hsaid, hout, _, htier, rfl⟩ :=
    ChatCompletionsState.decode_facts hd haccept
  rw [streamEvents, hframed, Option.getD_some]
  have htexts : ∀ {id usage tier}, .completed id usage tier ∉ said := by
    intro id usage tier hmem
    obtain ⟨delta, hdelta⟩ := hsaid _ hmem
    cases hdelta
  have hbody : ∀ fact ∈ said, InChatBody id fact := by
    intro fact hfact
    obtain ⟨delta, rfl⟩ := hsaid fact hfact
    exact .text delta
  obtain ⟨id', usage', tier', hmem⟩ := hcompleted
  cases hout with
  | short reason =>
    rw [if_pos rfl, List.append_nil] at hmem
    rcases List.mem_append.mp hmem with hmem | hmem
    · exact absurd hmem htexts
    · cases List.mem_singleton.mp hmem
  | stop hnone =>
    rw [hnone]
    refine ⟨fun _ h => absurd rfl h, fun _ => ?_⟩
    rw [List.append_nil]
    exact normalizeChat_completed hbody usage htier
  | call callId name arguments hcalls hcallId hname hcanonical =>
    refine ⟨fun ⟨result, _, hresult, _⟩ _ => ?_, fun hclean => ?_⟩
    · have hmem : .functionCall id 0 callId name arguments ∈
          said ++ [.functionCall id 0 callId name arguments] ++ [.completed id usage tier] := by simp
      exact (canonical_text hcanonical).mp (normalizeChat_ok _ hresult id 0 callId name arguments hmem)
    · obtain ⟨call, hcall, houtline⟩ := call_new hcallId hname hcanonical (hclean hcalls)
      refine normalizeChat_completed (fun fact hfact => ?_) usage htier
      rcases List.mem_append.mp hfact with hfact | hfact
      · exact hbody fact hfact
      · rw [List.mem_singleton.mp hfact]
        exact .call callId name arguments call hcall houtline

end ChatCompletions

/-! ## Messages -/

def MessagesEvent.outline : MessagesEvent → Option Outline
  | .textDelta _ _ delta => some (.text delta)
  | .functionCall _ _ callId name argumentsJson => some (.call callId name argumentsJson)
  | .completed .. => some .completed
  | _ => none

section Messages

variable {json : MessagesJson}

/-- A text delta, or a Tool call that makes a Provider Tool call, under the stream's identity. -/
inductive InMessageBody (id : String) : MessagesEvent → Prop
  | text (index : Nat) (delta : String) : InMessageBody id (.textDelta id index delta)
  | call (index : Nat) (callId name arguments : String) (call : ProviderToolCall) :
      ProviderToolCall.new callId name arguments = .ok call →
      (ProviderEvent.functionCall call).outline = .call callId name arguments →
      InMessageBody id (.functionCall id index callId name arguments)

theorem observeMessageIdentity_same {expected : Option String} {id : String} (h : ∀ id' ∈ expected, id' = id) :
    observeMessageIdentity expected id = .ok (some id) := by
  cases expected with
  | none => rfl
  | some id' =>
    obtain rfl := h id' rfl
    exact if_neg (by simp)

theorem normalizeMessages_body (id : String) (rest body : List MessagesEvent) : (∀ fact ∈ body, InMessageBody id fact) →
    ∀ {expected : Option String}, (∀ id' ∈ expected, id' = id) →
      ∃ (outs : List ProviderEvent) (expected' : Option String), outs.map (·.outline) = body.filterMap (·.outline) ∧
        .completed ∉ outs.map (·.outline) ∧ (∀ id' ∈ expected', id' = id) ∧
        normalizeMessagesFrom expected false (body ++ rest) = (normalizeMessagesFrom expected' false rest).map (outs ++ ·) := by
  induction body with
  | nil =>
    intro _ expected hid
    refine ⟨[], expected, rfl, by simp, hid, ?_⟩
    rw [List.nil_append]
    cases normalizeMessagesFrom expected false rest <;> rfl
  | cons fact body ih =>
    intro hbody expected hid
    obtain ⟨outs, expected', houts, hopen, hid', hrest⟩ :=
      @ih (fun e he => hbody e (List.mem_cons_of_mem _ he)) (some id) (by rintro _ ⟨⟩; rfl)
    cases hbody fact (List.mem_cons_self ..) with
    | text index delta =>
      refine ⟨.textDelta delta :: outs, expected', ?_, ?_, hid', ?_⟩
      · rw [List.map_cons, houts, List.filterMap_cons]
        rfl
      · rw [List.map_cons, List.mem_cons, not_or]
        exact ⟨(nomatch ·), hopen⟩
      · rw [List.cons_append, normalizeMessagesFrom, require_bind rfl, observeMessageIdentity_same hid, ok_bind, hrest]
        cases normalizeMessagesFrom expected' false rest <;> rfl
    | call index callId name arguments call hcall houtline =>
      refine ⟨.functionCall call :: outs, expected', ?_, ?_, hid', ?_⟩
      · rw [List.map_cons, houtline, houts, List.filterMap_cons]
        rfl
      · rw [List.map_cons, houtline, List.mem_cons, not_or]
        exact ⟨(nomatch ·), hopen⟩
      · rw [List.cons_append, normalizeMessagesFrom, require_bind rfl, observeMessageIdentity_same hid, ok_bind, hcall, ok_bind,
          hrest]
        cases normalizeMessagesFrom expected' false rest <;> rfl

/-- A normalizer that accepts has made a Provider Tool call of every call. -/
theorem normalizeMessages_ok (facts : List MessagesEvent) : ∀ {id : Option String} {done : Bool} {out : List ProviderEvent},
    normalizeMessagesFrom id done facts = .ok out → ∀ id' index callId name arguments,
      .functionCall id' index callId name arguments ∈ facts → ProviderText maxProviderToolArgumentBytes arguments := by
  induction facts with
  | nil => simp
  | cons fact facts ih =>
    intro id done out h id' index callId name arguments hmem
    cases fact with
    | textDelta actual block delta =>
      simp only [normalizeMessagesFrom, bind_ok, pure, Except.pure, Except.ok.injEq] at h
      obtain ⟨_, _, _, _, rest, hrest, _⟩ := h
      exact ih hrest id' index callId name arguments (by simpa using hmem)
    | functionCall actual block callId' name' arguments' =>
      simp only [normalizeMessagesFrom, bind_ok, pure, Except.pure, Except.ok.injEq] at h
      obtain ⟨_, _, _, _, call, hcall, rest, hrest, _⟩ := h
      rcases List.mem_cons.mp hmem with hsame | hmem
      · cases hsame
        exact call_arguments hcall
      · exact ih hrest id' index callId name arguments hmem
    | completed actual usage =>
      simp only [normalizeMessagesFrom, bind_ok, require_ok, exists_const, pure, Except.pure, Except.ok.injEq] at h
      obtain ⟨_, _, _, rfl, _⟩ := h
      simp at hmem
    | incomplete | error =>
      simp only [normalizeMessagesFrom, bind_ok, reduceCtorEq, and_false, exists_false] at h

theorem normalizeMessages_completed {id : String} {body : List MessagesEvent} (hbody : ∀ fact ∈ body, InMessageBody id fact)
    {usage : MessagesUsage} (husage : totalTokens usage = .ok usage.totalTokens) :
    Agreed normalizeMessagesEvents MessagesEvent.outline (body ++ [.completed id usage]) := by
  obtain ⟨outs, expected, houts, hopen, hid, hrest⟩ :=
    @normalizeMessages_body id [.completed id usage] body hbody none (by simp)
  obtain ⟨input, hinput⟩ : ∃ input, totalInputTokens usage = .ok input := by
    rw [totalTokens, bind_ok] at husage
    exact ⟨husage.choose, husage.choose_spec.1⟩
  obtain ⟨record, hrecord⟩ := (@usage_new input usage.cachedInputTokens usage.cacheWriteInputTokens usage.outputTokens none
    usage.totalTokens none).mpr (by simp)
  obtain ⟨hwhole, hbodyOpen⟩ := agreed_body record houts hopen
  have hfacts : (body ++ [MessagesEvent.completed id usage]).filterMap MessagesEvent.outline =
      body.filterMap MessagesEvent.outline ++ [.completed] := List.filterMap_append
  refine ⟨outs ++ [.completed record], body.filterMap (·.outline), ?_, hwhole.trans hfacts.symm, hfacts, hbodyOpen⟩
  rw [normalizeMessagesEvents, hrest, normalizeMessagesFrom, require_bind rfl, observeMessageIdentity_same hid, ok_bind,
    require_bind rfl, hinput, husage]
  dsimp only [accounted]
  rw [ok_mapError, ok_mapError]
  rw [ok_bind, ok_bind, require_bind rfl, hrecord, ok_bind]
  rfl

theorem messages_agree {maxOutput : Nat} {d : MessagesSseDecoder} (hd : MessagesSseDecoder.new maxOutput = .ok d)
    {bytes : List Byte} {facts : List MessagesEvent} (haccept : (messagesDialect json).decode d.state bytes = some facts)
    (hcompleted : ∃ id usage, .completed id usage ∈ facts) :
    Agreed normalizeMessagesEvents MessagesEvent.outline facts ↔
      ((∃ event ∈ streamEvents bytes, StartsTool json event) →
        CleanArguments json.value (toolInput (inputText json (streamEvents bytes)))) := by
  obtain ⟨events, s, body, tail, hframed, hterminal, rfl, hkept⟩ := MessagesState.decode_facts hd haccept
  rw [streamEvents, hframed, Option.getD_some]
  have hbodyOpen : ∀ {id usage}, .completed id usage ∉ body := by
    intro id usage hmem
    obtain ⟨_, _, ⟨_, _, h⟩ | ⟨_, _, _, _, h, _⟩⟩ := hkept.body _ hmem <;> cases h
  obtain ⟨id', usage', hmem⟩ := hcompleted
  replace hmem := (List.mem_append.mp hmem).resolve_left hbodyOpen
  cases hkept.tail with
  | running hgoing =>
    rw [hterminal] at hgoing
    cases hgoing
  | short id reason => cases List.mem_singleton.mp hmem
  | error short bytes _ hshort =>
    rcases List.mem_append.mp hmem with hmem | hmem
    · obtain ⟨_, _, h⟩ := hshort _ hmem
      cases h
    · cases List.mem_singleton.mp hmem
  | completed id usage _ hid hdelta husage =>
    have hidentity : ∀ {id'}, id' ∈ s.messageId → id' = id := fun h => Option.some.inj ((Option.mem_def.mp h).symm.trans hid)
    cases hkept.tool with
    | running _ _ _ _ _ hblock =>
      rw [hkept.ended hdelta] at hblock
      cases hblock
    | unseen _ hunseen _ _ hfacts =>
      refine ⟨fun _ h => absurd h hunseen, fun _ => normalizeMessages_completed (fun fact hfact => ?_) husage⟩
      have hquiet := hfacts fact (by rw [hkept.events]; exact List.mem_append_left _ hfact)
      obtain ⟨id', hid', ⟨index, delta, rfl⟩ | ⟨_, _, _, _, rfl, _⟩⟩ := hkept.body fact hfact
      · obtain rfl := hidentity hid'
        exact .text index delta
      · cases hquiet
    | called _ hstarted _ hfacts =>
      refine ⟨fun ⟨result, _, hresult, _⟩ _ => ?_, fun hclean => normalizeMessages_completed (fun fact hfact => ?_) husage⟩
      · obtain ⟨fact, hfact, hcall⟩ := hfacts
        rw [hkept.events] at hfact
        rcases List.mem_append.mp hfact with hfact | hfact
        · obtain ⟨id', _, ⟨_, _, rfl⟩ | ⟨index, callId, name, arguments, rfl, _, _, hcanonical⟩⟩ := hkept.body fact hfact
          · cases hcall
          · exact (canonical_text hcanonical).mp
              (normalizeMessages_ok _ hresult id' index callId name arguments (List.mem_append_left _ hfact))
        · rw [List.mem_singleton.mp hfact] at hcall
          cases hcall
      · obtain ⟨id', hid', ⟨index, delta, rfl⟩ | ⟨index, callId, name, arguments, rfl, hcallId, hname, hcanonical⟩⟩ :=
          hkept.body fact hfact
        · obtain rfl := hidentity hid'
          exact .text index delta
        · obtain rfl := hidentity hid'
          obtain ⟨call, hcall, houtline⟩ := call_new hcallId hname hcanonical (hclean hstarted)
          exact .call index callId name arguments call hcall houtline

end Messages

/-! ## The three dialects -/

theorem decode_of_finish {σ φ ε : Type} {D : Dialect σ φ ε} (state : σ) {chunks : List (List Byte)} {facts : List φ}
    (h : ((Decoder.new state).pushes D chunks).finish D = .ok facts) : D.decode state chunks.flatten = some facts := by
  rw [← pushes_finish, h]
  rfl

/-- A completed stream is normalized exactly when its Tool arguments are clean and its Responses service tier is trimmed. -/
theorem normalizers_agree (responses : ResponsesJson) (chat : ChatCompletionsJson) (messages : MessagesJson)
    (maxOutput : Nat) (chunks : List (List Byte)) :
    (∀ (d : ResponsesSseDecoder) (facts : List ResponsesEvent), ResponsesSseDecoder.new maxOutput = .ok d →
      (d.pushes (responsesDialect responses) chunks).finish (responsesDialect responses) = .ok facts →
      (∃ event ∈ facts, ∃ id usage tier, event.kind = .completed id usage tier) →
        (Agreed normalizeResponsesEvents ResponsesEvent.outline facts ↔
          (∀ text ∈ (streamEvents chunks.flatten).filterMap (doneArguments responses), CleanArguments responses.value text) ∧
            ∀ tier ∈ (streamEvents chunks.flatten).filterMap (completedTier responses), TrimmedTier tier)) ∧
    (∀ (d : ChatCompletionsSseDecoder) (facts : List ChatCompletionsEvent), ChatCompletionsSseDecoder.new maxOutput = .ok d →
      (d.pushes (chatCompletionsDialect chat) chunks).finish (chatCompletionsDialect chat) = .ok facts →
      (∃ id usage tier, .completed id usage tier ∈ facts) →
        (Agreed normalizeChatCompletionsEvents ChatCompletionsEvent.outline facts ↔
          (ChatCompletionsState.streamCalls chat (streamEvents chunks.flatten) ≠ [] →
            CleanArguments chat.value (argumentsText (ChatCompletionsState.streamCalls chat (streamEvents chunks.flatten)))))) ∧
    (∀ (d : MessagesSseDecoder) (facts : List MessagesEvent), MessagesSseDecoder.new maxOutput = .ok d →
      (d.pushes (messagesDialect messages) chunks).finish (messagesDialect messages) = .ok facts →
      (∃ id usage, .completed id usage ∈ facts) →
        (Agreed normalizeMessagesEvents MessagesEvent.outline facts ↔
          ((∃ event ∈ streamEvents chunks.flatten, StartsTool messages event) →
            CleanArguments messages.value (toolInput (inputText messages (streamEvents chunks.flatten)))))) := by
  refine ⟨fun d facts hd hfinish hcompleted => responses_agree hd ?_ hcompleted,
    fun d facts hd hfinish hcompleted => chatCompletions_agree hd ?_ hcompleted,
    fun d facts hd hfinish hcompleted => messages_agree hd ?_ hcompleted⟩
  all_goals
    obtain ⟨state, rfl⟩ : ∃ state, d = Decoder.new state := by
      simp only [ResponsesSseDecoder.new, ChatCompletionsSseDecoder.new, MessagesSseDecoder.new, bind_ok, pure, Except.pure,
        Except.ok.injEq] at hd
      obtain ⟨_, _, rfl⟩ := hd
      exact ⟨_, rfl⟩
    exact decode_of_finish state hfinish

/-! ## A raw control character in the arguments -/

namespace RawControl

set_option maxRecDepth 4000

def call := "\x7b\"id\":\"c1\",\"object\":\"chat.completion.chunk\",\"model\":\"m\",\"choices\":[\x7b\"index\":0,\"delta\":\x7b" ++
  "\"tool_calls\":[\x7b\"index\":0,\"id\":\"t1\",\"function\":\x7b\"name\":\"local_echo\"," ++
  "\"arguments\":\"\x7b\\\"a\\\":\\\"\x7f\\\"\x7d\"\x7d\x7d]\x7d\x7d]\x7d"

def finished := "\x7b\"id\":\"c1\",\"object\":\"chat.completion.chunk\",\"model\":\"m\",\"choices\":[\x7b\"index\":0,\"delta\":\x7b\x7d," ++
  "\"finish_reason\":\"tool_calls\"\x7d]\x7d"

def datas : List String := [call, finished, "[DONE]"]

def stream : List Byte := datas.flatMap fun data => utf8 ("data: " ++ data) ++ [lf, lf]

def arguments := "\x7b\"a\":\"\x7f\"\x7d"

/-- What `serde_json` reads from these texts. -/
def json : ChatCompletionsJson where
  chunk := lookup [
    (call, ⟨"c1", "chat.completion.chunk", "m",
      [⟨0, ⟨none, none, none, none, [⟨0, some "t1", none, some ⟨some "local_echo", some arguments⟩⟩]⟩, none⟩], none, none⟩),
    (finished, ⟨"c1", "chat.completion.chunk", "m", [⟨0, ⟨none, none, none, none, []⟩, some "tool_calls"⟩], none, none⟩)]
  value := lookup [(arguments, .object [("a", .string "\x7f")])]

def start : ChatCompletionsState := ⟨maxOutputBytes, 0, none, none, none, false, false, false, none, none, false, []⟩

def facts : List ChatCompletionsEvent := [.functionCall "c1" 0 "t1" "local_echo" arguments, .completed "c1" none none]

theorem framed_stream : framed streamLimits stream = some (datas.map (⟨"message", ·⟩)) :=
  framed_data (by decide) (by decide) (by decide)

theorem accepted :
    ((Decoder.new start).pushes (chatCompletionsDialect json) [stream]).finish (chatCompletionsDialect json) = .ok facts := by
  refine pushes_ok ?_
  rw [List.flatten_singleton, Dialect.decode, framed_stream]
  decide

end RawControl

/-! ## A padded service tier -/

namespace PaddedTier

set_option maxRecDepth 4000

def created := "\x7b\"type\":\"response.created\",\"sequence_number\":1," ++
  "\"response\":\x7b\"id\":\"r1\",\"status\":\"in_progress\"\x7d\x7d"

def completed := "\x7b\"type\":\"response.completed\",\"sequence_number\":2," ++
  "\"response\":\x7b\"id\":\"r1\",\"status\":\"completed\",\"service_tier\":\" flex\"\x7d\x7d"

def datas : List String := [created, completed]

def stream : List Byte := datas.flatMap fun data => utf8 ("data: " ++ data) ++ [lf, lf]

/-- What `serde_json` reads from these texts. -/
def json : ResponsesJson where
  envelope := lookup [(created, ⟨"response.created", 1⟩), (completed, ⟨"response.completed", 2⟩)]
  response := lookup [(created, ⟨"r1", some "in_progress", none, none, none, none⟩),
    (completed, ⟨"r1", some "completed", some " flex", none, none, none⟩)]
  outputItem _ := none
  contentPart _ := none
  textDelta _ := none
  textDone _ := none
  argumentsDelta _ := none
  argumentsDone _ := none
  error _ := none
  value _ := none

def start : ResponsesState := ⟨maxOutputBytes, 0, none, .empty, none, false, []⟩

def facts : List ResponsesEvent := [⟨1, .created "r1"⟩, ⟨2, .completed "r1" none (some " flex")⟩]

theorem framed_stream : framed streamLimits stream = some (datas.map (⟨"message", ·⟩)) :=
  framed_data (by decide) (by decide) (by decide)

theorem accepted : ((Decoder.new start).pushes (responsesDialect json) [stream]).finish (responsesDialect json) = .ok facts := by
  refine pushes_ok ?_
  rw [List.flatten_singleton, Dialect.decode, framed_stream]
  decide

end PaddedTier

/-- Two streams that their decoders complete and their normalizers reject. -/
theorem completed_streams_rejected :
    (((Decoder.new RawControl.start).pushes (chatCompletionsDialect RawControl.json) [RawControl.stream]).finish
        (chatCompletionsDialect RawControl.json) = .ok RawControl.facts ∧
      normalizeChatCompletionsEvents RawControl.facts = .error (.invalidResponse "Provider Tool arguments")) ∧
    (((Decoder.new PaddedTier.start).pushes (responsesDialect PaddedTier.json) [PaddedTier.stream]).finish
        (responsesDialect PaddedTier.json) = .ok PaddedTier.facts ∧
      normalizeResponsesEvents PaddedTier.facts = .error (.invalidResponse "service tier")) :=
  ⟨⟨RawControl.accepted, by decide⟩, PaddedTier.accepted, by decide⟩

namespace ShortMessage

set_option maxRecDepth 4000

def started : SseEvent := ⟨"message_start", "\x7b\"type\":\"message_start\",\"message\":\x7b\"id\":\"m1\",\"type\":\"message\"," ++
  "\"role\":\"assistant\",\"content\":[],\"model\":\"m\",\"usage\":\x7b\x7d\x7d\x7d"⟩

def delta : SseEvent := ⟨"message_delta", "\x7b\"type\":\"message_delta\",\"delta\":\x7b\"stop_reason\":\"end_turn\"\x7d,\"usage\":\x7b\x7d\x7d"⟩

def stopped : SseEvent := ⟨"message_stop", "\x7b\"type\":\"message_stop\"\x7d"⟩

def written : List SseEvent := [started, delta, stopped]

def stream : List Byte := written.flatMap fun event => (typedLines event).flatMap (· ++ [lf])

/-- What `serde_json` reads from these texts. -/
def json : MessagesJson where
  envelope := lookup [(started.data, "message_start"), (delta.data, "message_delta"), (stopped.data, "message_stop")]
  messageStart := lookup [(started.data, ⟨"message_start", ⟨"m1", "message", "assistant", [], "m", none, none, ⟨none, none, none, none⟩⟩⟩)]
  blockStart _ := none
  blockDelta _ := none
  blockStop _ := none
  messageDelta := lookup [(delta.data, ⟨"message_delta", ⟨some "end_turn", none⟩, ⟨none, none, none, none⟩⟩)]
  messageStop := lookup [(stopped.data, "message_stop")]
  error _ := none
  value _ := none

def start : MessagesState := ⟨maxOutputBytes, 0, none, none, .default, 0, none, false, false, false, false, []⟩

def facts : List MessagesEvent := [.completed "m1" .default]

theorem framed_stream : framed streamLimits stream = some written :=
  framed_typed (by decide) (by decide) (by decide) (by decide)

theorem accepted : ((Decoder.new start).pushes (messagesDialect json) [stream]).finish (messagesDialect json) = .ok facts := by
  refine pushes_ok ?_
  rw [List.flatten_singleton, Dialect.decode, framed_stream]
  decide

end ShortMessage

theorem normalizers_agree_streams :
    (Agreed normalizeResponsesEvents ResponsesEvent.outline PaddedTier.facts ↔
      (∀ text ∈ (streamEvents [PaddedTier.stream].flatten).filterMap (doneArguments PaddedTier.json),
        CleanArguments PaddedTier.json.value text) ∧
        ∀ tier ∈ (streamEvents [PaddedTier.stream].flatten).filterMap (completedTier PaddedTier.json), TrimmedTier tier) ∧
    (Agreed normalizeChatCompletionsEvents ChatCompletionsEvent.outline RawControl.facts ↔
      (ChatCompletionsState.streamCalls RawControl.json (streamEvents [RawControl.stream].flatten) ≠ [] →
        CleanArguments RawControl.json.value
          (argumentsText (ChatCompletionsState.streamCalls RawControl.json (streamEvents [RawControl.stream].flatten))))) ∧
    (Agreed normalizeMessagesEvents MessagesEvent.outline ShortMessage.facts ↔
      ((∃ event ∈ streamEvents [ShortMessage.stream].flatten, StartsTool ShortMessage.json event) →
        CleanArguments ShortMessage.json.value (toolInput (inputText ShortMessage.json (streamEvents [ShortMessage.stream].flatten))))) :=
  ⟨(normalizers_agree PaddedTier.json RawControl.json ShortMessage.json maxOutputBytes [PaddedTier.stream]).1 _ _ rfl PaddedTier.accepted
      ⟨_, List.mem_cons_of_mem _ List.mem_cons_self, _, _, _, rfl⟩,
    (normalizers_agree PaddedTier.json RawControl.json ShortMessage.json maxOutputBytes [RawControl.stream]).2.1 _ _ rfl RawControl.accepted
      ⟨_, _, _, List.mem_cons_of_mem _ List.mem_cons_self⟩,
    (normalizers_agree PaddedTier.json RawControl.json ShortMessage.json maxOutputBytes [ShortMessage.stream]).2.2 _ _ rfl ShortMessage.accepted
      ⟨_, _, List.mem_cons_self⟩⟩

end GreenTyper.Provider
