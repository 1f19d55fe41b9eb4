/-
  GreenTyper.Provider.Framing — the parser against the line grammar.

  The grammar splits all bytes into lines and folds these into events (`framed`). What a
  parser would give if it were finished after some more bytes (`ahead`) is the grammar's
  answer for its buffer and those bytes, from the fold it has come to; no turn of the
  loop changes it (`drain_spec`), wherever a call stops, and so neither does a call
  (`Call.step_ahead`). Hence any cut of the bytes into calls gives the grammar's events.
-/

import GreenTyper.Provider.Sse
import Mathlib.Data.List.TakeWhile

namespace GreenTyper.Provider

open Lib

/-! ## The grammar -/

/-- The fields of the event that is not dispatched yet, and the dispatched events. -/
structure Fold where
  eventType : Option String
  data : List String
  events : List SseEvent

def withoutBlank : List Char → List Char
  | [] => []
  | c :: cs => if c = ' ' then cs else c :: cs

/-- A field line: the name before the first colon, the value after it without one leading blank. -/
def fieldLine (line : List Char) : List Char × List Char :=
  (line.takeWhile (· ≠ ':'), withoutBlank ((line.dropWhile (· ≠ ':')).drop 1))

def Fold.dispatch (st : Fold) : Fold :=
  ⟨none, [], if st.data = [] then st.events
    else st.events ++ [⟨(st.eventType.filter (· ≠ "")).getD "message", "\n".intercalate st.data⟩]⟩

def Fold.field (st : Fold) (name value : String) : Option Fold :=
  if name = "event" then some { st with eventType := some value }
  else if name = "data" then
    if st.data.length < maxDataLinesPerEvent then some { st with data := st.data ++ [value] } else none
  else some st

def Fold.line (limits : SseLimits) (st : Fold) (line : List Byte) : Option Fold :=
  if line.length > limits.maxLineBytes then none
  else if line = [] then some st.dispatch
  else if line.head? = some 0x3a then some st
  else
    (fromUtf8 line).bind fun text =>
      st.field (String.ofList (fieldLine text.toList).1) (String.ofList (fieldLine text.toList).2)

/-- The events of the lines, where nothing is left over. -/
def Fold.through (limits : SseLimits) (st : Fold) (lines : Lines) : Option (List SseEvent) := do
  let st ← lines.1.foldlM (Fold.line limits) st
  if lines.2 = [] ∧ st.eventType = none ∧ st.data = [] then some st.events else none

/-- The events of a whole byte sequence. -/
def framed (limits : SseLimits) (bytes : List Byte) : Option (List SseEvent) :=
  if bytes.length > limits.maxTotalBytes then none else Fold.through limits ⟨none, [], []⟩ (splitLines bytes)

/-! ## Streams of data lines -/

theorem line_data {limits : SseLimits} {st : Fold} {data : String} (hlen : (utf8 ("data: " ++ data)).length ≤ limits.maxLineBytes)
    (hdata : st.data.length < maxDataLinesPerEvent) :
    st.line limits (utf8 ("data: " ++ data)) = some { st with data := st.data ++ [data] } := by
  have hchars : ("data: " ++ data).toList = 'd' :: 'a' :: 't' :: 'a' :: ':' :: ' ' :: data.toList := by
    rw [String.toList_append]
    rfl
  have hbytes : utf8 ("data: " ++ data) = utf8 "data: " ++ utf8 data := by
    rw [utf8, String.toByteArray_append, ByteArray.data_append, Array.toList_append]
    rfl
  have hhead : utf8 "data: " = [0x64, 0x61, 0x74, 0x61, 0x3a, 0x20] := by decide
  rw [Fold.line, if_neg (Nat.not_lt.mpr hlen), if_neg (by rw [hbytes, hhead]; simp), if_neg (by rw [hbytes, hhead]; simp),
    fromUtf8_utf8, Option.bind_some, hchars]
  show Fold.field st "data" (String.ofList data.toList) = _
  rw [String.ofList_toList, Fold.field, if_neg (by decide), if_pos rfl, if_pos hdata]

/-- Events of one data line each are framed as they were written. -/
theorem framed_data {limits : SseLimits} {bytes : List Byte} {datas : List String} (htotal : bytes.length ≤ limits.maxTotalBytes)
    (hlines : splitLines bytes = (datas.flatMap fun data => [utf8 ("data: " ++ data), []], []))
    (hlen : ∀ data ∈ datas, (utf8 ("data: " ++ data)).length ≤ limits.maxLineBytes) :
    framed limits bytes = some (datas.map (⟨"message", ·⟩)) := by
  have hfold : ∀ (datas : List String) (events : List SseEvent),
      (∀ data ∈ datas, (utf8 ("data: " ++ data)).length ≤ limits.maxLineBytes) →
      (datas.flatMap fun data => [utf8 ("data: " ++ data), []]).foldlM (Fold.line limits) ⟨none, [], events⟩ =
        some ⟨none, [], events ++ datas.map (⟨"message", ·⟩)⟩ := by
    intro datas
    induction datas with
    | nil =>
      intro events _
      rw [List.map_nil, List.append_nil]
      rfl
    | cons data datas ih =>
      intro events hlen
      rw [List.flatMap_cons, List.foldlM_append, List.foldlM_cons,
        @line_data _ ⟨none, [], events⟩ _ (hlen data List.mem_cons_self) (show 0 < maxDataLinesPerEvent by decide)]
      have hempty : ([] : List Byte).length ≤ limits.maxLineBytes := Nat.zero_le _
      show (Fold.line limits ⟨none, [data], events⟩ []).bind (fun st => _) = _
      rw [Fold.line, if_neg (Nat.not_lt.mpr hempty), if_pos rfl, Fold.dispatch, if_neg (by simp), String.intercalate_singleton,
        Option.bind_some]
      show (List.foldlM (Fold.line limits) ⟨none, [], events ++ [⟨"message", data⟩]⟩ _) = _
      rw [ih _ fun data hmem => hlen data (List.mem_cons_of_mem _ hmem), List.append_assoc]
      rfl
  rw [framed, if_neg (Nat.not_lt.mpr htotal), hlines, Fold.through, hfold datas [] hlen]
  rfl

theorem line_event {limits : SseLimits} {st : Fold} {kind : String} (hlen : (utf8 ("event: " ++ kind)).length ≤ limits.maxLineBytes) :
    st.line limits (utf8 ("event: " ++ kind)) = some { st with eventType := some kind } := by
  have hchars : ("event: " ++ kind).toList = 'e' :: 'v' :: 'e' :: 'n' :: 't' :: ':' :: ' ' :: kind.toList := by
    rw [String.toList_append]
    rfl
  have hbytes : utf8 ("event: " ++ kind) = utf8 "event: " ++ utf8 kind := by
    rw [utf8, String.toByteArray_append, ByteArray.data_append, Array.toList_append]
    rfl
  have hhead : utf8 "event: " = [0x65, 0x76, 0x65, 0x6e, 0x74, 0x3a, 0x20] := by decide
  rw [Fold.line, if_neg (Nat.not_lt.mpr hlen), if_neg (by rw [hbytes, hhead]; simp), if_neg (by rw [hbytes, hhead]; simp),
    fromUtf8_utf8, Option.bind_some, hchars]
  show Fold.field st "event" (String.ofList kind.toList) = _
  rw [String.ofList_toList, Fold.field, if_pos rfl]

def typedLines (event : SseEvent) : List (List Byte) := [utf8 ("event: " ++ event.event), utf8 ("data: " ++ event.data), []]

theorem lines_typed {limits : SseLimits} {event : SseEvent} (hevent : event.event ≠ "")
    (hkind : (utf8 ("event: " ++ event.event)).length ≤ limits.maxLineBytes)
    (hdata : (utf8 ("data: " ++ event.data)).length ≤ limits.maxLineBytes) (events : List SseEvent) :
    (typedLines event).foldlM (Fold.line limits) ⟨none, [], events⟩ = some ⟨none, [], events ++ [event]⟩ := by
  have hempty : ([] : List Byte).length ≤ limits.maxLineBytes := Nat.zero_le _
  have hblank : Fold.line limits ⟨some event.event, [event.data], events⟩ [] = some ⟨none, [], events ++ [event]⟩ := by
    rw [Fold.line, if_neg (Nat.not_lt.mpr hempty), if_pos rfl, Fold.dispatch, if_neg (by simp), String.intercalate_singleton,
      Option.filter_some, if_pos (by simpa using hevent), Option.getD_some]
  have hline := @line_data limits ⟨some event.event, [], events⟩ event.data hdata (show 0 < maxDataLinesPerEvent by decide)
  simp only [typedLines, List.foldlM_cons, List.foldlM_nil, line_event hkind, Option.bind_eq_bind, Option.bind_some, hline,
    List.nil_append, hblank]
  rfl

/-- Events of a type line and a data line each are framed as they were written. -/
theorem framed_typed {limits : SseLimits} {bytes : List Byte} {written : List SseEvent} (htotal : bytes.length ≤ limits.maxTotalBytes)
    (hlines : splitLines bytes = (written.flatMap typedLines, [])) (htyped : ∀ event ∈ written, event.event ≠ "")
    (hlen : ∀ event ∈ written, (utf8 ("event: " ++ event.event)).length ≤ limits.maxLineBytes ∧
      (utf8 ("data: " ++ event.data)).length ≤ limits.maxLineBytes) : framed limits bytes = some written := by
  have hfold : ∀ (written events : List SseEvent), (∀ event ∈ written, event.event ≠ "") →
      (∀ event ∈ written, (utf8 ("event: " ++ event.event)).length ≤ limits.maxLineBytes ∧
        (utf8 ("data: " ++ event.data)).length ≤ limits.maxLineBytes) →
      (written.flatMap typedLines).foldlM (Fold.line limits) ⟨none, [], events⟩ = some ⟨none, [], events ++ written⟩ := by
    intro written
    induction written with
    | nil =>
      intro events _ _
      rw [List.append_nil]
      rfl
    | cons event written ih =>
      intro events htyped hlen
      obtain ⟨hkind, hdata⟩ := hlen event List.mem_cons_self
      rw [List.flatMap_cons, List.foldlM_append, lines_typed (htyped event List.mem_cons_self) hkind hdata, Option.bind_eq_bind,
        Option.bind_some, ih _ (fun e he => htyped e (List.mem_cons_of_mem _ he)) (fun e he => hlen e (List.mem_cons_of_mem _ he)),
        List.append_assoc, List.singleton_append]
  rw [framed, if_neg (Nat.not_lt.mpr htotal), hlines, Fold.through, hfold written [] htyped hlen]
  rfl

/-! ## One line -/

theorem stripPrefix_withoutBlank (s : String) : (stripPrefix ' ' s).getD s = String.ofList (withoutBlank s.toList) := by
  rw [stripPrefix]
  cases hs : s.toList with
  | nil => rw [Option.getD_none, ← String.ofList_toList (s := s), hs]; rfl
  | cons c cs =>
    dsimp only
    rw [withoutBlank]
    split
    · rfl
    · rw [Option.getD_none, ← hs, String.ofList_toList]

theorem fieldOf_eq (s : String) :
    SseParser.fieldOf s = (String.ofList (fieldLine s.toList).1, String.ofList (fieldLine s.toList).2) := by
  rw [SseParser.fieldOf, splitOnce, fieldLine]
  by_cases h : ':' ∈ s.toList
  · rw [if_pos h]
    simp only [Option.getD_some, stripPrefix_withoutBlank, String.toList_ofList]
  · have hall : ∀ c ∈ s.toList, decide (c ≠ ':') = true := fun c hc => by
      simpa using fun hc' : c = ':' => h (hc' ▸ hc)
    rw [if_neg h, List.takeWhile_eq_self_iff.mpr hall, List.dropWhile_eq_nil_iff.mpr hall]
    simp only [Option.getD_none, stripPrefix_withoutBlank, String.ofList_toList]
    rfl

/-- The parser stands where the fold does. -/
structure Shows (p : SseParser) (st : Fold) : Prop where
  eventType : p.eventType = st.eventType
  count : p.dataLineCount = st.data.length
  data : p.eventData = "\n".intercalate st.data
  events : p.events = st.events
  bounded : st.data.length ≤ maxDataLinesPerEvent

/-- Nothing but the event under way and the dispatched ones differs. -/
structure SameFraming (p p' : SseParser) : Prop where
  limits : p'.limits = p.limits
  buffer : p'.buffer = p.buffer
  totalBytes : p'.totalBytes = p.totalBytes
  poisoned : p'.poisoned = p.poisoned
  skipLfAfterCr : p'.skipLfAfterCr = p.skipLfAfterCr

section Line

variable {p : SseParser} {st : Fold}

theorem dispatch_spec (h : Shows p st) : Shows p.dispatch st.dispatch ∧ SameFraming p p.dispatch := by
  rw [SseParser.dispatch, Fold.dispatch]
  by_cases hdata : st.data = []
  · have hcount : p.dataLineCount = 0 := by rw [h.count, hdata]; rfl
    rw [if_pos hcount, if_pos hdata]
    exact ⟨⟨rfl, rfl, by rw [h.data, hdata], h.events, Nat.zero_le _⟩, ⟨rfl, rfl, rfl, rfl, rfl⟩⟩
  · have hcount : p.dataLineCount ≠ 0 := by rw [h.count]; exact fun hnil => hdata (List.length_eq_zero_iff.mp hnil)
    rw [if_neg hcount, if_neg hdata]
    refine ⟨⟨rfl, rfl, String.intercalate_nil.symm, ?_, Nat.zero_le _⟩, ⟨rfl, rfl, rfl, rfl, rfl⟩⟩
    rw [h.eventType, h.events, h.data]

/-- One more data line, behind a line feed if it is not the first. -/
theorem joined_append (data : List String) (value : String) :
    "\n".intercalate (data ++ [value]) = (if data = [] then "" else ("\n".intercalate data).push '\n') ++ value := by
  by_cases h : data = []
  · rw [if_pos h, h, List.nil_append, String.intercalate_singleton, String.empty_append]
  · rw [if_neg h, String.intercalate_append_of_ne_nil h (by simp), String.intercalate_singleton, String.push_eq_append]
    rfl

theorem addData_spec (h : Shows p st) (value : String) :
    (st.data.length < maxDataLinesPerEvent → ∃ p', p.addData value = (p', .ok ()) ∧
        Shows p' { st with data := st.data ++ [value] } ∧ SameFraming p p') ∧
      (¬ st.data.length < maxDataLinesPerEvent → ∃ p', p.addData value = (p', .error .dataLineLimitExceeded)) := by
  have hfits : p.dataLineCount + 1 < 2 ^ 64 := by
    have := h.bounded
    rw [maxDataLinesPerEvent, ← h.count] at this
    omega
  rw [SseParser.addData, checkedAdd_some.mpr ⟨hfits, rfl⟩]
  dsimp only
  rw [h.count]
  constructor
  · intro hlt
    rw [if_neg (Nat.not_lt.mpr hlt)]
    refine ⟨_, rfl, ⟨h.eventType, by rw [List.length_append]; rfl, ?_, h.events, ?_⟩, ⟨rfl, rfl, rfl, rfl, rfl⟩⟩
    · rw [joined_append]
      by_cases hdata : st.data = []
      · rw [if_pos hdata, hdata, if_neg (by simp), h.data, hdata, String.intercalate_nil]
      · rw [if_neg hdata, h.data, if_pos (Nat.succ_lt_succ (List.length_pos_iff.mpr hdata))]
    · rw [List.length_append]
      exact hlt
  · intro hge
    rw [if_pos (Nat.lt_succ_of_le (Nat.not_lt.mp hge))]
    exact ⟨_, rfl⟩

/-- A line does to the parser what it does to the fold. -/
theorem processLine_spec (h : Shows p st) (line : List Byte) (hline : line.length ≤ p.limits.maxLineBytes) :
    (∀ st', st.line p.limits line = some st' → ∃ p', p.processLine line = (p', .ok ()) ∧ Shows p' st' ∧ SameFraming p p') ∧
      (st.line p.limits line = none → ∃ p' e, p.processLine line = (p', .error e)) := by
  have hsame : SameFraming p p := ⟨rfl, rfl, rfl, rfl, rfl⟩
  rw [Fold.line, SseParser.processLine, if_neg (Nat.not_lt.mpr hline)]
  by_cases hempty : line = []
  · rw [if_pos hempty, if_pos hempty]
    obtain ⟨hshows, hframing⟩ := dispatch_spec h
    exact ⟨fun st' hst => by cases hst; exact ⟨_, rfl, hshows, hframing⟩, fun hno => by cases hno⟩
  rw [if_neg hempty, if_neg hempty]
  by_cases hcomment : line.head? = some 0x3a
  · rw [if_pos hcomment, if_pos hcomment]
    exact ⟨fun st' hst => by cases hst; exact ⟨_, rfl, h, hsame⟩, fun hno => by cases hno⟩
  rw [if_neg hcomment, if_neg hcomment]
  cases fromUtf8 line with
  | none => exact ⟨fun st' hst => (by cases hst), fun _ => ⟨_, _, rfl⟩⟩
  | some text =>
    dsimp only [Option.bind_some]
    rw [fieldOf_eq, Fold.field]
    dsimp only
    by_cases hevent : String.ofList (fieldLine text.toList).1 = "event"
    · rw [if_pos hevent, if_pos hevent]
      exact ⟨fun st' hst => by
        cases hst
        exact ⟨_, rfl, ⟨rfl, h.count, h.data, h.events, h.bounded⟩, ⟨rfl, rfl, rfl, rfl, rfl⟩⟩, fun hno => by cases hno⟩
    rw [if_neg hevent, if_neg hevent]
    by_cases hdata : String.ofList (fieldLine text.toList).1 = "data"
    · rw [if_pos hdata, if_pos hdata]
      obtain ⟨hadd, hfull⟩ := addData_spec h (String.ofList (fieldLine text.toList).2)
      by_cases hlt : st.data.length < maxDataLinesPerEvent
      · rw [if_pos hlt]
        exact ⟨fun st' hst => by cases hst; exact hadd hlt, fun hno => by cases hno⟩
      · rw [if_neg hlt]
        exact ⟨fun st' hst => (by cases hst), fun _ => (hfull hlt).imp fun _ he => ⟨_, he⟩⟩
    · rw [if_neg hdata, if_neg hdata]
      exact ⟨fun st' hst => by cases hst; exact ⟨_, rfl, h, hsame⟩, fun hno => by cases hno⟩

end Line

/-! ## The loop -/

/-- The events if the stream ended after the buffer and `more`. -/
def ahead (p : SseParser) (st : Fold) (more : List Byte) : Option (List SseEvent) :=
  st.through p.limits (splitLines (afterEnd p.skipLfAfterCr (p.buffer ++ more)))

/-- From `p` the loop came to `p'`, and what lies ahead is the same. -/
structure Follows (p : SseParser) (st : Fold) (p' : SseParser) (st' : Fold) : Prop where
  shows : Shows p' st'
  limits : p'.limits = p.limits
  totalBytes : p'.totalBytes = p.totalBytes
  poisoned : p'.poisoned = p.poisoned
  ahead : ∀ more, ahead p' st' more = ahead p st more

/-- No line end is left in the buffer. -/
def Drained (p : SseParser) : Prop := nextLineEnding p.buffer = none ∧ (p.skipLfAfterCr → p.buffer = [])

section Loop

variable {p p' : SseParser} {st st' : Fold}

theorem Follows.trans {p'' : SseParser} {st'' : Fold} (h : Follows p st p' st') (h' : Follows p' st' p'' st'') :
    Follows p st p'' st'' :=
  ⟨h'.shows, h'.limits.trans h.limits, h'.totalBytes.trans h.totalBytes, h'.poisoned.trans h.poisoned,
    fun more => (h'.ahead more).trans (h.ahead more)⟩

theorem Follows.refl (h : Shows p st) : Follows p st p st := ⟨h, rfl, rfl, rfl, fun _ => rfl⟩

theorem Shows.of_same (h : Shows p st) {buffer : List Byte} {skip : Bool} :
    Shows { p with buffer := buffer, skipLfAfterCr := skip } st := ⟨h.eventType, h.count, h.data, h.events, h.bounded⟩

/-- A first line past the limit leads nowhere. -/
theorem through_long {limits : SseLimits} {line : List Byte} (h : line.length > limits.maxLineBytes)
    (lines : List (List Byte)) (rest : List Byte) : st.through limits (line :: lines, rest) = none := by
  rw [Fold.through, List.foldlM_cons, Fold.line, if_pos h]
  rfl

theorem through_rest {limits : SseLimits} {rest : List Byte} (h : rest ≠ []) (lines : List (List Byte)) :
    st.through limits (lines, rest) = none := by
  rw [Fold.through]
  cases lines.foldlM (Fold.line limits) st with
  | none => rfl
  | some st' => exact if_neg fun hrest => h hrest.1

theorem leave_spec (hdrained : Drained p) (initial : Nat) :
    (∃ b, p.leave initial = (p, .ok b)) ∨ (p.leave initial = (p, .error .lineBytesExceeded) ∧ ∀ more, ahead p st more = none) := by
  rw [SseParser.leave]
  split
  · rename_i hlong
    refine .inr ⟨rfl, fun more => ?_⟩
    have hne : p.buffer ≠ [] := fun hnil => by rw [hnil] at hlong; exact Nat.not_lt_zero _ hlong
    have hskip : p.skipLfAfterCr = false := by
      cases hs : p.skipLfAfterCr with
      | false => rfl
      | true => exact absurd (hdrained.2 hs) hne
    rw [ahead, hskip, afterEnd, if_neg (by simp)]
    rcases splitLines_open hdrained.1 more with ⟨line, lines, rest, hsplit⟩ | ⟨rest, hsplit⟩
    · rw [hsplit]
      refine through_long ?_ _ _
      rw [List.length_append]
      omega
    · rw [hsplit]
      exact through_rest (List.append_ne_nil_of_left_ne_nil hne rest) _
  · exact .inl ⟨_, rfl⟩

/-- A skipped LF, or the decision that none follows. -/
theorem unskip_follows (h : Shows p st) (hne : p.buffer ≠ []) (hlf : p.skipLfAfterCr → p.buffer.head? ≠ some lf) :
    Follows p st { p with skipLfAfterCr := false } st := by
  refine ⟨h.of_same, rfl, rfl, rfl, fun more => ?_⟩
  obtain ⟨b, rest, hbuffer⟩ := List.exists_cons_of_ne_nil hne
  rw [ahead, ahead]
  cases hskip : p.skipLfAfterCr with
  | false => rfl
  | true =>
    have hb : b ≠ lf := fun hb => hlf hskip (by rw [hbuffer, hb]; rfl)
    rw [hbuffer, afterEnd, afterEnd, if_pos rfl, List.cons_append, dropLf, if_neg hb]
    rfl

theorem skip_follows (h : Shows p st) (hskip : p.skipLfAfterCr) (hlf : p.buffer.head? = some lf) :
    Follows p st { p with buffer := p.buffer.drop 1, skipLfAfterCr := false } st := by
  refine ⟨h.of_same, rfl, rfl, rfl, fun more => ?_⟩
  obtain ⟨rest, hbuffer⟩ := List.head?_eq_some_iff.mp hlf
  rw [ahead, ahead, hskip, hbuffer, afterEnd, afterEnd, if_pos rfl, List.cons_append, dropLf, if_pos rfl]
  rfl

/-- One line taken off the buffer. -/
theorem line_ahead {index : Nat} {byCr : Bool} (hskip : p.skipLfAfterCr = false)
    (hnext : nextLineEnding p.buffer = some (index, byCr)) (more : List Byte) :
    ahead p st more = (st.line p.limits (p.buffer.take index)).bind fun st' =>
      ahead { p with buffer := p.buffer.drop (index + 1), skipLfAfterCr := byCr } st' more := by
  rw [ahead, hskip, afterEnd, if_neg (by simp), splitLines_end hnext more, Fold.through, List.foldlM_cons]
  cases st.line p.limits (p.buffer.take index) <;> rfl

theorem drain_spec (stop : Bool) (initial turns : Nat) : ∀ {p : SseParser} {st : Fold}, Shows p st → p.buffer.length ≤ turns →
    (∃ p' st' b, p.drain stop initial turns = (p', .ok b) ∧ Follows p st p' st' ∧ (stop = false → Drained p')) ∨
      ∃ p' e, p.drain stop initial turns = (p', .error e) ∧ ∀ more, ahead p st more = none := by
  have hleave : ∀ {p : SseParser} {st : Fold}, Shows p st → Drained p →
      (∃ p' st' b, p.leave initial = (p', .ok b) ∧ Follows p st p' st' ∧ (stop = false → Drained p')) ∨
        ∃ p' e, p.leave initial = (p', .error e) ∧ ∀ more, ahead p st more = none := by
    intro p st h hdrained
    rcases @leave_spec p st hdrained initial with ⟨b, hb⟩ | ⟨he, hnone⟩
    · exact .inl ⟨p, st, b, hb, .refl h, fun _ => hdrained⟩
    · exact .inr ⟨p, _, he, hnone⟩
  induction turns with
  | zero =>
    intro p st h hlen
    have hnil : p.buffer = [] := List.length_eq_zero_iff.mp (Nat.le_zero.mp hlen)
    exact hleave h ⟨by rw [hnil]; rfl, fun _ => hnil⟩
  | succ turns ih =>
    intro p st h hlen
    rw [SseParser.drain]
    split
    · rename_i hskip
      have hfollows := skip_follows h hskip.1 hskip.2
      have hlen' : (p.buffer.drop 1).length ≤ turns := by
        rw [List.length_drop]
        omega
      rcases ih hfollows.shows hlen' with ⟨p', st', b, heq, hrest, hd⟩ | ⟨p', e, heq, hnone⟩
      · exact .inl ⟨p', st', b, heq, hfollows.trans hrest, hd⟩
      · exact .inr ⟨p', e, heq, fun more => (hfollows.ahead more).symm.trans (hnone more)⟩
    rename_i hnolf
    split
    · rename_i hempty
      exact hleave h ⟨by rw [hempty.2]; rfl, fun _ => hempty.2⟩
    rename_i hnoskip
    -- From here on no LF is skipped: none is awaited, or another byte came.
    have hfollows : Follows p st { p with skipLfAfterCr := false } st := by
      by_cases hskip : p.skipLfAfterCr
      · exact unskip_follows h (fun hnil => hnoskip ⟨hskip, hnil⟩) fun _ hlf => hnolf ⟨hskip, hlf⟩
      · have hp : { p with skipLfAfterCr := false } = p := by
          rw [Bool.not_eq_true] at hskip
          rw [← hskip]
        rw [hp]
        exact .refl h
    split
    · rename_i hnext
      have hdrained : Drained { p with skipLfAfterCr := false } := ⟨hnext, fun hskip => by cases hskip⟩
      rcases hleave hfollows.shows hdrained with ⟨p', st', b, heq, hrest, hd⟩ | ⟨p', e, heq, hnone⟩
      · exact .inl ⟨p', st', b, heq, hfollows.trans hrest, hd⟩
      · exact .inr ⟨p', e, heq, fun more => (hfollows.ahead more).symm.trans (hnone more)⟩
    · rename_i lineEnd endedByCr hnext
      have hline := fun more => (hfollows.ahead more).symm.trans
        (@line_ahead { p with skipLfAfterCr := false } st _ _ rfl hnext more)
      have hlt := nextLineEnding_lt hnext
      have htake : (p.buffer.take lineEnd).length = lineEnd := by
        rw [List.length_take, Nat.min_eq_left (Nat.le_of_lt hlt)]
      split
      · rename_i hlong
        refine .inr ⟨_, _, rfl, fun more => (hline more).trans ?_⟩
        rw [Fold.line, htake, if_pos hlong]
        rfl
      rename_i hshort
      have hspec := @processLine_spec { p with buffer := p.buffer.drop (lineEnd + 1), skipLfAfterCr := endedByCr } st h.of_same
        (p.buffer.take lineEnd) (by rw [htake]; exact Nat.not_lt.mp hshort)
      cases hst : st.line p.limits (p.buffer.take lineEnd) with
      | none =>
        obtain ⟨p1, e, heq⟩ := hspec.2 hst
        dsimp only
        rw [heq]
        refine .inr ⟨p1, e, rfl, fun more => (hline more).trans ?_⟩
        dsimp only
        rw [hst]
        rfl
      | some st1 =>
        obtain ⟨p1, heq, hshows, hframing⟩ := hspec.1 st1 hst
        have hstep : Follows p st p1 st1 := by
          refine ⟨hshows, hframing.limits, hframing.totalBytes, hframing.poisoned, fun more => ((hline more).trans ?_).symm⟩
          dsimp only
          rw [hst, Option.bind_some, ahead, ahead, hframing.limits, hframing.buffer, hframing.skipLfAfterCr]
        dsimp only
        rw [heq]
        dsimp only
        split
        · rename_i hstop
          exact .inl ⟨p1, st1, true, rfl, hstep, fun hno => absurd hstop.1 (by simp [hno])⟩
        · have hlen' : p1.buffer.length ≤ turns := by
            rw [hframing.buffer, List.length_drop]
            omega
          rcases ih hshows hlen' with ⟨p', st', b, heq', hrest, hd⟩ | ⟨p', e, heq', hnone⟩
          · exact .inl ⟨p', st', b, heq', hstep.trans hrest, hd⟩
          · exact .inr ⟨p', e, heq', fun more => (hstep.ahead more).symm.trans (hnone more)⟩

end Loop

/-! ## Calls -/

inductive Call where
  | push (chunk : List Byte)
  | pushUntilFirstEvent (chunk : List Byte)

def Call.chunk : Call → List Byte
  | .push chunk => chunk
  | .pushUntilFirstEvent chunk => chunk

/-- The parser after a call, whatever the call returned. -/
def Call.step (p : SseParser) : Call → SseParser
  | .push chunk => (p.push chunk).1
  | .pushUntilFirstEvent chunk => (p.pushUntilFirstEvent chunk).1

/-- The events if the stream ended after `more`, within the limit on all bytes. -/
def aheadWithin (p : SseParser) (st : Fold) (more : List Byte) : Option (List SseEvent) :=
  if p.totalBytes + more.length > p.limits.maxTotalBytes then none else ahead p st more

/-- The parser is poisoned and nothing lies ahead, or what lies ahead is `after`. -/
def Awaits (p : SseParser) (after : List Byte → Option (List SseEvent)) : Prop :=
  (p.poisoned = true ∧ ∀ more, after more = none) ∨
    (p.poisoned = false ∧ ∃ st, Shows p st ∧ ∀ more, aheadWithin p st more = after more)

section Calls

variable {p : SseParser} {st : Fold}

/-- A chunk goes from what lies ahead into the buffer. -/
theorem pushInner_spec (h : Shows p st) (chunk : List Byte) (stop : Bool) :
    (∃ p' st' b, p.pushInner chunk stop = (p', .ok b) ∧ Shows p' st' ∧ p'.poisoned = p.poisoned ∧
        (∀ more, aheadWithin p' st' more = aheadWithin p st (chunk ++ more)) ∧
        p'.totalBytes ≤ p'.limits.maxTotalBytes ∧ (stop = false → Drained p')) ∨
      ∃ p' e, p.pushInner chunk stop = (p', .error e) ∧ ∀ more, aheadWithin p st (chunk ++ more) = none := by
  have hover : ∀ more, p.totalBytes + chunk.length > p.limits.maxTotalBytes → aheadWithin p st (chunk ++ more) = none := by
    intro more hgt
    rw [aheadWithin, if_pos]
    rw [List.length_append]
    omega
  rw [SseParser.pushInner]
  by_cases hfits : p.totalBytes + chunk.length < 2 ^ 64
  · rw [checkedAdd_some.mpr ⟨hfits, rfl⟩]
    dsimp only
    split
    · rename_i hgt
      exact .inr ⟨_, _, rfl, fun more => hover more hgt⟩
    · rename_i hle
      have hshows : Shows { p with totalBytes := p.totalBytes + chunk.length, buffer := p.buffer ++ chunk } st :=
        ⟨h.eventType, h.count, h.data, h.events, h.bounded⟩
      have hahead : ∀ more, aheadWithin p st (chunk ++ more) =
          aheadWithin { p with totalBytes := p.totalBytes + chunk.length, buffer := p.buffer ++ chunk } st more := by
        intro more
        rw [aheadWithin, aheadWithin, ahead, ahead, List.length_append, Nat.add_assoc, List.append_assoc]
      rcases drain_spec stop _ _ hshows (Nat.le_refl _) with ⟨p', st', b, heq, hfollows, hd⟩ | ⟨p', e, heq, hnone⟩
      · refine .inl ⟨p', st', b, heq, hfollows.shows, hfollows.poisoned, fun more => ?_, ?_, hd⟩
        · rw [hahead more, aheadWithin, aheadWithin, hfollows.totalBytes, hfollows.limits, hfollows.ahead]
        · rw [hfollows.totalBytes, hfollows.limits]
          exact Nat.not_lt.mp hle
      · refine .inr ⟨p', e, heq, fun more => ?_⟩
        rw [hahead more, aheadWithin, hnone]
        split <;> rfl
  · have hnone : checkedAdd 64 p.totalBytes chunk.length = none := if_neg hfits
    have hlimit := p.limits.fits
    rw [hnone]
    exact .inr ⟨_, _, rfl, fun more => hover more (by omega)⟩

theorem poisonOn_awaits {α : Type} {after : List Byte → Option (List SseEvent)} {x : SseParser × Except SseError α}
    (h : (∃ p' st' a, x = (p', .ok a) ∧ Shows p' st' ∧ p'.poisoned = false ∧ ∀ more, aheadWithin p' st' more = after more) ∨
      ∃ p' e, x = (p', .error e) ∧ ∀ more, after more = none) : Awaits (SseParser.poisonOn x).1 after := by
  rcases h with ⟨p', st', a, rfl, hshows, hclean, hahead⟩ | ⟨p', e, rfl, hnone⟩
  · exact .inr ⟨hclean, st', hshows, hahead⟩
  · exact .inl ⟨rfl, hnone⟩

/-- A call moves its chunk from what lies ahead into the parser. -/
theorem Call.step_awaits {after : List Byte → Option (List SseEvent)} (h : Awaits p after) (call : Call) :
    Awaits (call.step p) fun more => after (call.chunk ++ more) := by
  rcases h with ⟨hpoisoned, hnone⟩ | ⟨hclean, st, hshows, hahead⟩
  · cases call with
    | push chunk =>
      rw [Call.step, SseParser.push, if_pos hpoisoned]
      exact .inl ⟨hpoisoned, fun more => hnone _⟩
    | pushUntilFirstEvent chunk =>
      rw [Call.step, SseParser.pushUntilFirstEvent, if_pos hpoisoned]
      exact .inl ⟨hpoisoned, fun more => hnone _⟩
  · cases call with
    | push chunk =>
      rw [Call.step, SseParser.push, if_neg (by simp [hclean])]
      rcases pushInner_spec hshows chunk false with ⟨p', st', b, heq, hshows', hclean', hmore, _, _⟩ | ⟨p', e, heq, hnone⟩
      · rw [heq]
        exact poisonOn_awaits
          (.inl ⟨p', st', (), rfl, hshows', hclean'.trans hclean, fun more => (hmore more).trans (hahead _)⟩)
      · rw [heq]
        exact poisonOn_awaits (.inr ⟨p', e, rfl, fun more => (hahead _).symm.trans (hnone more)⟩)
    | pushUntilFirstEvent chunk =>
      rw [Call.step, SseParser.pushUntilFirstEvent, if_neg (by simp [hclean])]
      rcases pushInner_spec hshows chunk true with ⟨p', st', b, heq, hshows', hclean', hmore, _, _⟩ | ⟨p', e, heq, hnone⟩
      · exact poisonOn_awaits
          (.inl ⟨p', st', b, heq, hshows', hclean'.trans hclean, fun more => (hmore more).trans (hahead _)⟩)
      · exact poisonOn_awaits (.inr ⟨p', e, heq, fun more => (hahead _).symm.trans (hnone more)⟩)

theorem calls_await (calls : List Call) : ∀ {p : SseParser} {after : List Byte → Option (List SseEvent)}, Awaits p after →
    Awaits (calls.foldl Call.step p) fun more => after (calls.flatMap Call.chunk ++ more) := by
  induction calls with
  | nil => intro p after h; exact h
  | cons call calls ih =>
    intro p after h
    have hrest := ih (call.step_awaits h)
    simp only [List.flatMap_cons, List.append_assoc]
    exact hrest

/-- A drained parser gives its events where nothing is under way. -/
theorem drained_through (h : Shows p st) (hdrained : Drained p) : ahead p st [] =
    if p.buffer ≠ [] ∨ p.eventType.isSome ∨ p.dataLineCount ≠ 0 then none else some p.events := by
  have hlines : splitLines (afterEnd p.skipLfAfterCr (p.buffer ++ [])) = ([], p.buffer) := by
    rw [List.append_nil, afterEnd]
    split
    · rename_i hskip
      rw [hdrained.2 hskip]
      rfl
    · exact splitLines_of_open hdrained.1
  rw [ahead, hlines, Fold.through, h.eventType, h.count, h.events]
  show (if p.buffer = [] ∧ st.eventType = none ∧ st.data = [] then some st.events else none) = _
  by_cases hend : p.buffer = [] ∧ st.eventType = none ∧ st.data = []
  · rw [if_pos hend, if_neg (by simp [hend])]
  · rw [if_neg hend, if_pos]
    refine Decidable.byContradiction fun hno => hend ?_
    simp only [not_or, Decidable.not_not, Option.not_isSome_iff_eq_none, List.length_eq_zero_iff, ne_eq] at hno
    exact hno

theorem finish_awaits {after : List Byte → Option (List SseEvent)} (h : Awaits p after) : p.finish.toOption = after [] := by
  rcases h with ⟨hpoisoned, hnone⟩ | ⟨hclean, st, hshows, hahead⟩
  · rw [SseParser.finish, if_pos hpoisoned, hnone]
    rfl
  · rw [SseParser.finish, if_neg (by simp [hclean]), ← hahead []]
    rcases pushInner_spec hshows [] false with ⟨p', st', b, heq, hshows', _, hmore, hle, hd⟩ | ⟨p', e, heq, hnone⟩
    · have hwithin := hmore []
      rw [List.nil_append] at hwithin
      rw [heq, ← hwithin, aheadWithin, if_neg (by rw [List.length_nil]; exact Nat.not_lt.mpr hle),
        drained_through hshows' (hd rfl)]
      dsimp only
      split <;> rfl
    · have hwithin := hnone []
      rw [List.nil_append] at hwithin
      rw [heq, hwithin]
      rfl

end Calls

/-- Before the first byte, the whole grammar lies ahead. -/
theorem new_awaits (limits : SseLimits) : Awaits (.new limits) (framed limits) := by
  refine .inr ⟨rfl, ⟨none, [], []⟩, ⟨rfl, rfl, String.intercalate_nil.symm, rfl, Nat.zero_le _⟩, fun more => ?_⟩
  rw [aheadWithin, framed, SseParser.new, Nat.zero_add]
  rfl

theorem calls_finish (limits : SseLimits) (calls : List Call) :
    (calls.foldl Call.step (.new limits)).finish.toOption = framed limits (calls.flatMap Call.chunk) := by
  have h := finish_awaits (calls_await calls (new_awaits limits))
  rwa [List.append_nil] at h

/-- Any calls that feed `bytes` give what one push of them gives, and this is what the grammar says. -/
theorem framing_chunk_independent (limits : SseLimits) (calls : List Call) :
    (calls.foldl Call.step (.new limits)).finish.toOption =
        ((SseParser.new limits).push (calls.flatMap Call.chunk)).1.finish.toOption ∧
      (calls.foldl Call.step (.new limits)).finish.toOption = framed limits (calls.flatMap Call.chunk) := by
  have hone := calls_finish limits [.push (calls.flatMap Call.chunk)]
  simp only [List.flatMap_cons, List.flatMap_nil, List.append_nil, Call.chunk, List.foldl_cons, List.foldl_nil] at hone
  exact ⟨(calls_finish limits calls).trans hone.symm, calls_finish limits calls⟩

example : framed ⟨64, 11, by decide, by decide, by decide⟩ (utf8 ": ping\r\rdata: 12345\r\ndata: 6\n\n") =
    some [⟨"message", "12345\n6"⟩] := by decide +kernel

end GreenTyper.Provider
