/-
  GreenTyper.Provider.Sse — the Server-Sent Events parser (`provider/sse.rs`).

  Every operation gives the parser back beside its result: an operation that fails leaves
  the parser poisoned, and what it did before it failed stays done.
-/

import GreenTyper.Lib.Lines
import GreenTyper.Lib.Result
import GreenTyper.Lib.Text

namespace GreenTyper.Provider

open Lib

def maxDataLinesPerEvent : Nat := 1024

inductive SseError where
  | invalidLimits
  | poisoned
  | totalBytesExceeded
  | lineBytesExceeded
  | dataLineLimitExceeded
  | invalidUtf8
  | incompleteEvent
deriving DecidableEq, Repr

structure SseLimits where
  maxTotalBytes : Nat
  maxLineBytes : Nat
  total : maxTotalBytes ≠ 0
  line : maxLineBytes ≠ 0 ∧ maxLineBytes ≤ maxTotalBytes
  fits : maxTotalBytes < 2 ^ 64

/-- `max_total_bytes` and `max_line_bytes` are `usize`. -/
def SseLimits.new (maxTotalBytes maxLineBytes : Nat) (fits : maxTotalBytes < 2 ^ 64) : Except SseError SseLimits :=
  if h : maxTotalBytes = 0 ∨ maxLineBytes = 0 ∨ maxLineBytes > maxTotalBytes then .error .invalidLimits
  else .ok ⟨maxTotalBytes, maxLineBytes, by omega, by omega, fits⟩

structure SseEvent where
  event : String
  data : String
deriving DecidableEq, Repr

structure SseParser where
  limits : SseLimits
  buffer : List Byte
  eventType : Option String
  eventData : String
  dataLineCount : Nat
  events : List SseEvent
  totalBytes : Nat
  poisoned : Bool
  skipLfAfterCr : Bool

namespace SseParser

def new (limits : SseLimits) : SseParser := ⟨limits, [], none, "", 0, [], 0, false, false⟩

def dispatch (p : SseParser) : SseParser :=
  if p.dataLineCount = 0 then { p with eventType := none, dataLineCount := 0 }
  else
    { p with
      events := p.events ++ [⟨(p.eventType.filter (· ≠ "")).getD "message", p.eventData⟩]
      eventType := none
      eventData := ""
      dataLineCount := 0 }

/-- A line that is neither empty nor a comment, as its field and value. -/
def fieldOf (line : String) : String × String :=
  let (field, value) := (splitOnce ':' line).getD (line, "")
  (field, (stripPrefix ' ' value).getD value)

def addData (p : SseParser) (value : String) : SseParser × Except SseError Unit :=
  match checkedAdd 64 p.dataLineCount 1 with
  | none => (p, .error .dataLineLimitExceeded)
  | some count =>
    if count > maxDataLinesPerEvent then ({ p with dataLineCount := count }, .error .dataLineLimitExceeded)
    else
      ({ p with
        dataLineCount := count
        eventData := (if count > 1 then p.eventData.push '\n' else p.eventData) ++ value }, .ok ())

def processLine (p : SseParser) (line : List Byte) : SseParser × Except SseError Unit :=
  if line = [] then (p.dispatch, .ok ())
  else if line.head? = some 0x3a then (p, .ok ())
  else
    match fromUtf8 line with
    | none => (p, .error .invalidUtf8)
    | some line =>
      let (field, value) := fieldOf line
      if field = "event" then ({ p with eventType := some value }, .ok ())
      else if field = "data" then p.addData value
      else (p, .ok ())

/-- What is left without a line end, once the loop of `push_inner` is through. -/
def leave (p : SseParser) (initialEventCount : Nat) : SseParser × Except SseError Bool :=
  if p.buffer.length > p.limits.maxLineBytes then (p, .error .lineBytesExceeded)
  else (p, .ok (decide (p.events.length > initialEventCount)))

/-- The loop of `push_inner`. Each turn takes a byte or more, so the number of turns is at most the buffer's length. -/
def drain (stop : Bool) (initialEventCount : Nat) : Nat → SseParser → SseParser × Except SseError Bool
  | 0, p => p.leave initialEventCount
  | turns + 1, p =>
    if p.skipLfAfterCr ∧ p.buffer.head? = some lf then
      drain stop initialEventCount turns { p with buffer := p.buffer.drop 1, skipLfAfterCr := false }
    else if p.skipLfAfterCr ∧ p.buffer = [] then p.leave initialEventCount
    else
      match nextLineEnding p.buffer with
      | none => leave { p with skipLfAfterCr := false } initialEventCount
      | some (lineEnd, endedByCr) =>
        if lineEnd > p.limits.maxLineBytes then ({ p with skipLfAfterCr := false }, .error .lineBytesExceeded)
        else
          let line := p.buffer.take lineEnd
          let p := { p with buffer := p.buffer.drop (lineEnd + 1), skipLfAfterCr := endedByCr }
          match p.processLine line with
          | (p, .error e) => (p, .error e)
          | (p, .ok ()) =>
            if stop ∧ p.events.length > initialEventCount then (p, .ok true)
            else drain stop initialEventCount turns p

def pushInner (p : SseParser) (chunk : List Byte) (stopAfterFirstEvent : Bool) : SseParser × Except SseError Bool :=
  match checkedAdd 64 p.totalBytes chunk.length with
  | none => (p, .error .totalBytesExceeded)
  | some totalBytes =>
    let p := { p with totalBytes := totalBytes }
    if p.totalBytes > p.limits.maxTotalBytes then (p, .error .totalBytesExceeded)
    else
      let p := { p with buffer := p.buffer ++ chunk }
      p.drain stopAfterFirstEvent p.events.length p.buffer.length

/-- A failed operation poisons the parser. -/
def poisonOn {α : Type} : SseParser × Except SseError α → SseParser × Except SseError α
  | (p, .ok a) => (p, .ok a)
  | (p, .error e) => ({ p with poisoned := true }, .error e)

def pushUntilFirstEvent (p : SseParser) (chunk : List Byte) : SseParser × Except SseError Bool :=
  if p.poisoned then (p, .error .poisoned) else poisonOn (p.pushInner chunk true)

def push (p : SseParser) (chunk : List Byte) : SseParser × Except SseError Unit :=
  if p.poisoned then (p, .error .poisoned)
  else
    let pushed := p.pushInner chunk false
    poisonOn (pushed.1, pushed.2.map fun _ => ())

def takeEvents (p : SseParser) : SseParser × List SseEvent := ({ p with events := [] }, p.events)

def finish (p : SseParser) : Except SseError (List SseEvent) :=
  if p.poisoned then .error .poisoned
  else
    match p.pushInner [] false with
    | (_, .error e) => .error e
    | (p, .ok _) =>
      if p.buffer ≠ [] ∨ p.eventType.isSome ∨ p.dataLineCount ≠ 0 then .error .incompleteEvent else .ok p.events

end SseParser

end GreenTyper.Provider
