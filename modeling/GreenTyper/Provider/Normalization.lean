/-
  GreenTyper.Provider.Normalization — what the normalizers make of checked facts.

  What a decoder checked passes the checks on Provider text, but for the arguments of a Tool
  call: their canonical form keeps the control characters from U+007F on that a string or a
  member name had (`canonical_text`).
-/

import GreenTyper.Provider.ChatCompletionsSteps
import GreenTyper.Provider.MessagesSteps
import GreenTyper.Provider.ResponsesFacts
import Mathlib

namespace GreenTyper.Provider

open Lib

/-! ## Checked fields -/

theorem identifier_text {ε : Type} {E : CheckErrors ε} {value : String} (h : validateIdentifier E value = .ok ()) :
    ProviderText maxProviderIdBytes value := by
  rw [validateIdentifier, require_ok] at h
  simp only [not_or, Nat.not_lt, Bool.not_eq_true] at h
  obtain ⟨hempty, hlen, hspace, hcontrol⟩ := h
  have htrim := trim_none hspace
  refine ⟨?_, htrim, hlen, hcontrol⟩
  rw [isBlank, htrim]
  exact beq_eq_false_iff_ne.mpr hempty

theorem toolNameChar_plain {c : Char} (h : isToolNameChar c = true) : isWhitespace c = false ∧ isControl c = false := by
  have hrange : 45 ≤ c.toNat ∧ c.toNat ≤ 122 := by
    simp only [isToolNameChar, Char.isAlphanum, Char.isAlpha, Char.isUpper, Char.isLower, Char.isDigit, Bool.or_eq_true,
      Bool.and_eq_true, decide_eq_true_eq, beq_iff_eq, UInt32.le_iff_toNat_le] at h
    rcases h with (((⟨h1, h2⟩ | ⟨h1, h2⟩) | ⟨h1, h2⟩) | rfl) | rfl
    · exact ⟨Nat.le_trans (by decide) h1, Nat.le_trans h2 (by decide)⟩
    · exact ⟨Nat.le_trans (by decide) h1, Nat.le_trans h2 (by decide)⟩
    · exact ⟨Nat.le_trans (by decide) h1, Nat.le_trans h2 (by decide)⟩
    · decide
    · decide
  simp only [isWhitespace, isControl, Bool.or_eq_false_iff, Bool.and_eq_false_iff, decide_eq_false_iff_not, beq_eq_false_iff_ne]
  omega

theorem toolName_text {ε : Type} {E : CheckErrors ε} {value : String} (h : validateToolName E value = .ok ()) :
    ProviderText maxProviderIdBytes value := by
  rw [validateToolName, require_ok] at h
  simp only [not_or, Nat.not_lt, Bool.not_eq_true, List.any_eq_false, Bool.not_eq_false'] at h
  obtain ⟨hempty, hlen, hchars⟩ := h
  have hspace : value.toList.any isWhitespace = false := by
    rw [List.any_eq_false]
    exact fun c hc => by rw [(toolNameChar_plain (hchars c hc)).1]; exact Bool.false_ne_true
  have hcontrol : value.toList.any isControl = false := by
    rw [List.any_eq_false]
    exact fun c hc => by rw [(toolNameChar_plain (hchars c hc)).2]; exact Bool.false_ne_true
  have htrim := trim_none hspace
  refine ⟨?_, htrim, Nat.le_trans hlen (by decide), hcontrol⟩
  rw [isBlank, htrim]
  exact beq_eq_false_iff_ne.mpr hempty

/-- No string or member name in the arguments has a control character from U+007F on. -/
def CleanArguments (readValue : String → Option JsonValue) (arguments : String) : Prop :=
  ∀ value ∈ readValue arguments, value.anyChar isHighControl = false

/-- Canonical arguments are Provider text exactly when the arguments are clean. -/
theorem canonical_text {ε : Type} {E : CheckErrors ε} {readValue : String → Option JsonValue} {text arguments : String}
    (h : canonicalArguments E readValue text = .ok arguments) :
    ProviderText maxProviderToolArgumentBytes arguments ↔ CleanArguments readValue text := by
  simp only [canonicalArguments, bind_ok, okOr_ok, require_ok, exists_const, pure, Except.pure, Except.ok.injEq] at h
  obtain ⟨_, value, hvalue, hobject, _, _, hlen, rfl⟩ := h
  cases value with
  | object members =>
    have hstart : isWhitespace '\x7b' = false := by decide
    have hend : isWhitespace '\x7d' = false := by decide
    have htrim := trim_enclosed (membersText members) hstart hend
    have hcontrol := JsonValue.text_control (.object members)
    rw [CleanArguments, hvalue]
    simp only [Option.mem_some_iff, forall_eq']
    rw [← hcontrol]
    have hblank : isBlank (String.ofList (JsonValue.object members).text) = false := by
      rw [isBlank, JsonValue.text, htrim]
      refine beq_eq_false_iff_ne.mpr fun hempty => ?_
      have := congrArg String.toList hempty
      rw [String.toList_ofList] at this
      cases this
    refine ⟨fun h => ?_, fun h => ⟨hblank, ?_, hlen, ?_⟩⟩
    · have := h.2.2.2
      rwa [String.toList_ofList] at this
    · rw [JsonValue.text]
      exact htrim
    · rwa [String.toList_ofList]
  | null | bool | number | string | array => cases hobject

/-! ## Outlines -/

/-- A fact or a Provider event without what normalization drops. -/
inductive Outline where
  | text (delta : String)
  | call (callId name argumentsJson : String)
  | completed
deriving DecidableEq

def ProviderEvent.outline : ProviderEvent → Outline
  | .textDelta text => .text text
  | .functionCall call => .call call.callId call.tool call.argumentsJson
  | .completed _ => .completed

/-- A call whose fields the decoder checked is a Provider Tool call exactly when its arguments are clean. -/
theorem call_new {ε : Type} {E : CheckErrors ε} {readValue : String → Option JsonValue} {callId name text arguments : String}
    (hid : validateIdentifier E callId = .ok ()) (hname : validateToolName E name = .ok ())
    (hcanonical : canonicalArguments E readValue text = .ok arguments) (hclean : CleanArguments readValue text) :
    ∃ call, ProviderToolCall.new callId name arguments = .ok call ∧
      (ProviderEvent.functionCall call).outline = .call callId name arguments := by
  have harguments := (canonical_text hcanonical).mpr hclean
  rw [ProviderToolCall.new, dif_pos (identifier_text hid), dif_pos (toolName_text hname), dif_pos harguments]
  exact ⟨_, rfl, rfl⟩

theorem call_arguments {callId name arguments : String} {call : ProviderToolCall}
    (h : ProviderToolCall.new callId name arguments = .ok call) : ProviderText maxProviderToolArgumentBytes arguments := by
  rw [ProviderToolCall.new] at h
  split at h
  · split at h
    · split at h
      · assumption
      · cases h
    · cases h
  · cases h

/-- A service tier makes a usage record exactly when it is Provider text. -/
theorem usage_new {input cached write output reasoning total : Option UInt64} {tier : Option String} :
    (∃ record, UsageRecord.new input cached write output reasoning total tier = .ok record) ↔
      ∀ value ∈ tier, ProviderText maxServiceTierBytes value := by
  rw [UsageRecord.new]
  split
  · rename_i h
    exact ⟨fun _ => h, fun _ => ⟨_, rfl⟩⟩
  · rename_i h
    simp only [reduceCtorEq, exists_false, false_iff]
    exact h

end GreenTyper.Provider
