/-
  GreenTyper.AppServer.Requests — the request lines of the app server (`app_server.rs`,
  `read_request_line` and the loop of `run_stdio`).

  A reader hands out its stream in pieces of its own choice (`BufRead`): `fill_buf` shows
  some of what is left, `consume` takes from the front of it. Of a reader nothing is
  assumed but that what it shows is the front of what is left, and not empty unless
  nothing is left (`Delivers`).

  - `readLoop_delivers`: from the bytes of an unfinished line that were read before, one
    call ends where that line ends, and gives what the line is (`requestOf`). The state
    of the loop is computed from those bytes alone (`heldOf`).
  - `request_framing_exact`: the loop answers the lines of the stream (`linesOf`) one by
    one and ends with nothing left, however the stream was cut.
-/

import GreenTyper.Lib.Lines
import GreenTyper.Lib.Summary

namespace GreenTyper.AppServer

open Lib

def maxRequestBytes : Nat := 64 * 1024

inductive RequestLine where
  | ended
  | value (line : List Byte)
  | tooLong
  deriving DecidableEq

/-- A `BufRead` with states `σ`. -/
structure BufRead (σ ε : Type) where
  fillBuf : σ → Except ε (List Byte) × σ
  consume : σ → Nat → σ

/-! ## The code -/

/-- `position` of the newline. -/
def newlineAt (available : List Byte) : Option Nat := available.findIdx? (· == lf)

/-- After the loop of `read_request_line`. -/
def finish (line : List Byte) (tooLong : Bool) : RequestLine :=
  if tooLong then .tooLong
  else if line.getLast? = some cr then .value line.dropLast
  else .value line

/-- `line` and `too_long` after `payload_len` bytes of what is available. -/
def addPayload (line : List Byte) (tooLong : Bool) (payload : List Byte) : List Byte × Bool :=
  if tooLong then (line, true)
  else if satAdd line.length payload.length > maxRequestBytes then ([], true)
  else (line ++ payload, false)

variable {σ ε : Type}

/-- The loop of `read_request_line`, for a number of turns. -/
def readLoop (reader : BufRead σ ε) : Nat → σ → List Byte → Bool → Option (Except ε RequestLine × σ)
  | 0, _, _, _ => none
  | turns + 1, s, line, tooLong =>
    match reader.fillBuf s with
    | (.error e, s) => some (.error e, s)
    | (.ok available, s) =>
      if available = [] then
        if line = [] ∧ tooLong = false then some (.ok .ended, s) else some (.ok (finish line tooLong), s)
      else
        let newline := newlineAt available
        let payloadLen := newline.getD available.length
        let held := addPayload line tooLong (available.take payloadLen)
        let s := reader.consume s (payloadLen + if newline.isSome then 1 else 0)
        if newline.isSome then some (.ok (finish held.1 held.2), s)
        else readLoop reader turns s held.1 held.2

def readRequestLine (reader : BufRead σ ε) (turns : Nat) (s : σ) : Option (Except ε RequestLine × σ) :=
  readLoop reader turns s [] false

/-- What the loop of `run_stdio` answers a line with: a server's states are `S`, its responses `R`. -/
structure Server (S R : Type) where
  handle : S → List Byte → S × R
  tooLarge : R

/-- `none` at the end of the input. -/
def Server.respond {S R : Type} (server : Server S R) (state : S) : RequestLine → Option (S × R)
  | .ended => none
  | .tooLong => some (state, server.tooLarge)
  | .value line => some (server.handle state line)

/-- The loop of `run_stdio` for a number of turns, with the responses it wrote. -/
def runStdio {S R : Type} (reader : BufRead σ ε) (server : Server S R) :
    Nat → S → σ → List R → Option (Except ε (S × List R) × σ)
  | 0, _, _, _ => none
  | turns + 1, state, s, written =>
    match readRequestLine reader turns s with
    | none => none
    | some (.error e, s) => some (.error e, s)
    | some (.ok request, s) =>
      match server.respond state request with
      | none => some (.ok (state, written), s)
      | some (state, response) => runStdio reader server turns state s (written ++ [response])

/-- What calls of `read_request_line` give one after the other, up to the end of the input. -/
def readRequests (reader : BufRead σ ε) : Nat → σ → Option (Except ε (List RequestLine) × σ)
  | 0, _ => none
  | turns + 1, s =>
    match readRequestLine reader turns s with
    | none => none
    | some (.error e, s) => some (.error e, s)
    | some (.ok .ended, s) => some (.ok [.ended], s)
    | some (.ok request, s) =>
      match readRequests reader turns s with
      | some (.ok requests, s) => some (.ok (request :: requests), s)
      | stopped => stopped

/-! ## What the lines of a stream are -/

/-- A stream cut at each newline. What follows the last newline is a line if it is not empty. -/
def linesOf (stream : List Byte) : List (List Byte) :=
  let pieces := stream.splitOn lf
  if pieces.getLast? = some [] then pieces.dropLast else pieces

/-- What a line is to the server: too long, or its bytes without one carriage return at their end. -/
def requestOf (line : List Byte) : RequestLine :=
  if line.length > maxRequestBytes then .tooLong
  else if line.getLast? = some cr then .value line.dropLast
  else .value line

/-- What a server answers the lines with, and the state it is left in. -/
def Server.answers {S R : Type} (server : Server S R) : S → List (List Byte) → S × List R
  | state, [] => (state, [])
  | state, line :: lines =>
    match requestOf line with
    | .value line =>
      let (state, response) := server.handle state line
      let (state, responses) := server.answers state lines
      (state, response :: responses)
    | _ =>
      let (state, responses) := server.answers state lines
      (state, server.tooLarge :: responses)

theorem linesOf_nil : linesOf [] = [] := rfl

theorem linesOf_line {line : List Byte} (h : lf ∉ line) (left : List Byte) :
    linesOf (line ++ lf :: left) = line :: linesOf left := by
  have hne : left.splitOn lf ≠ [] := List.splitOn_ne_nil lf left
  unfold linesOf
  rw [List.splitOn_append_cons_self_of_not_mem h]
  dsimp only
  rw [List.getLast?_cons_of_ne_nil hne, List.dropLast_cons_of_ne_nil hne]
  split <;> rfl

theorem linesOf_last {line : List Byte} (h : lf ∉ line) (hne : line ≠ []) : linesOf line = [line] := by
  unfold linesOf
  rw [List.splitOn_eq_singleton h]
  exact if_neg fun heq => hne (by injection heq)

/-! ## One call -/

/-- What the loop holds of a line after the bytes `seen` of it. -/
def heldOf (seen : List Byte) : List Byte × Bool :=
  if seen.length > maxRequestBytes then ([], true) else (seen, false)

theorem addPayload_held (seen payload : List Byte) :
    addPayload (heldOf seen).1 (heldOf seen).2 payload = heldOf (seen ++ payload) := by
  unfold addPayload heldOf satAdd maxRequestBytes maxU64
  rw [List.length_append]
  by_cases hseen : seen.length > 64 * 1024
  · rw [if_pos hseen, if_pos (show seen.length + payload.length > 64 * 1024 by omega)]
    rfl
  · rw [if_neg hseen]
    show (if min (seen.length + payload.length) (2 ^ 64 - 1) > 64 * 1024 then _ else _) = _
    by_cases hboth : seen.length + payload.length > 64 * 1024
    · rw [if_pos hboth, if_pos (by omega)]
    · rw [if_neg hboth, if_neg (by omega)]

theorem finish_held (seen : List Byte) : finish (heldOf seen).1 (heldOf seen).2 = requestOf seen := by
  unfold finish heldOf requestOf
  by_cases hseen : seen.length > maxRequestBytes
  · rw [if_pos hseen, if_pos hseen]
    rfl
  · rw [if_neg hseen, if_neg hseen]
    rfl

theorem held_nothing (seen : List Byte) : ((heldOf seen).1 = [] ∧ (heldOf seen).2 = false) ↔ seen = [] := by
  unfold heldOf
  by_cases hseen : seen.length > maxRequestBytes
  · rw [if_pos hseen]
    constructor
    · intro ⟨_, hlong⟩
      cases hlong
    · intro hnil
      subst hnil
      cases hseen
  · rw [if_neg hseen]
    exact and_iff_left rfl

/-- The first request of a stream, and what is left after it. -/
inductive First : List Byte → RequestLine → List Byte → Prop
  | line {line : List Byte} (left : List Byte) : lf ∉ line → First (line ++ lf :: left) (requestOf line) left
  | last {line : List Byte} : lf ∉ line → line ≠ [] → First line (requestOf line) []
  | ended : First [] .ended []

/-- A reader that hands out `rest` in pieces and does not fail. -/
structure Delivers (reader : BufRead σ ε) (rest : σ → List Byte) : Prop where
  fills : ∀ s, ∃ available t, reader.fillBuf s = (.ok available, t) ∧ available <+: rest s ∧
    (available = [] → rest s = []) ∧ rest t = rest s ∧
    ∀ taken ≤ available.length, rest (reader.consume t taken) = (rest s).drop taken

theorem newlineAt_none {available : List Byte} (h : newlineAt available = none) : lf ∉ available := by
  intro hmem
  have hne := List.findIdx?_eq_none_iff.mp h lf hmem
  exact absurd hne (by decide)

theorem newlineAt_some {available : List Byte} {index : Nat} (h : newlineAt available = some index) :
    index < available.length ∧ lf ∉ available.take index ∧
      available = available.take index ++ lf :: available.drop (index + 1) := by
  obtain ⟨hlt, hat, hbefore⟩ := List.findIdx?_eq_some_iff_getElem.mp h
  refine ⟨hlt, ?_, ?_⟩
  · intro hmem
    obtain ⟨i, hi, heq⟩ := List.mem_take_iff_getElem.mp hmem
    have hno := hbefore i (by omega)
    rw [heq] at hno
    exact hno rfl
  · have hlf : available[index] = lf := eq_of_beq hat
    calc available = available.take index ++ available.drop index := (List.take_append_drop index available).symm
      _ = _ := by rw [List.drop_eq_getElem_cons hlt, hlf]

variable {reader : BufRead σ ε} {rest : σ → List Byte}

/-- From the bytes `seen` of an unfinished line, a call ends where the line ends. Each turn without a newline takes a
    byte or more. -/
theorem readLoop_delivers (delivers : Delivers reader rest) (turns : Nat) (s : σ) (seen : List Byte)
    (hturns : (rest s).length < turns) (hseen : lf ∉ seen) :
    ∃ request t, readLoop reader turns s (heldOf seen).1 (heldOf seen).2 = some (.ok request, t) ∧
      First (seen ++ rest s) request (rest t) := by
  induction turns generalizing s seen with
  | zero => omega
  | succ turns ih =>
    obtain ⟨available, t, hfill, hprefix, hend, hrest, hconsume⟩ := delivers.fills s
    unfold readLoop
    rw [hfill]
    dsimp only
    by_cases havailable : available = []
    · rw [if_pos havailable, hend havailable, List.append_nil]
      have hleft : rest t = [] := by rw [hrest, hend havailable]
      by_cases hnil : seen = []
      · rw [if_pos ((held_nothing seen).mpr hnil), hnil]
        refine ⟨_, t, rfl, ?_⟩
        rw [hleft]
        exact First.ended
      · rw [if_neg fun h => hnil ((held_nothing seen).mp h), finish_held]
        refine ⟨_, t, rfl, ?_⟩
        rw [hleft]
        exact First.last hseen hnil
    · rw [if_neg havailable, addPayload_held, finish_held]
      obtain ⟨later, hlater⟩ := hprefix
      cases hnewline : newlineAt available with
      | none =>
        have hpos : 0 < available.length := List.length_pos_iff.mpr havailable
        have hopen := newlineAt_none hnewline
        have hnext : rest (reader.consume t available.length) = later := by
          rw [hconsume _ (Nat.le_refl _), ← hlater, List.drop_left]
        have hlength : (rest s).length = available.length + later.length := by rw [← hlater, List.length_append]
        obtain ⟨request, u, hread, hfirst⟩ := ih (reader.consume t available.length) (seen ++ available)
          (by rw [hnext]; omega) (by simp [hseen, hopen])
        refine ⟨request, u, ?_, ?_⟩
        · simpa using hread
        · rw [hnext, List.append_assoc, hlater] at hfirst
          exact hfirst
      | some index =>
        obtain ⟨hlt, hline, hcut⟩ := newlineAt_some hnewline
        refine ⟨requestOf (seen ++ available.take index), reader.consume t (index + 1), rfl, ?_⟩
        have hnext : rest (reader.consume t (index + 1)) = available.drop (index + 1) ++ later := by
          rw [hconsume _ hlt, ← hlater, List.drop_append_of_le_length hlt]
        have hall : seen ++ rest s = (seen ++ available.take index) ++ lf :: (available.drop (index + 1) ++ later) := by
          rw [← hlater]
          nth_rewrite 1 [hcut]
          simp only [List.append_assoc, List.cons_append]
        rw [hnext, hall]
        exact First.line _ (by simp [hseen, hline])

theorem readRequestLine_delivers (delivers : Delivers reader rest) {turns : Nat} {s : σ}
    (hturns : (rest s).length < turns) :
    ∃ request t, readRequestLine reader turns s = some (.ok request, t) ∧ First (rest s) request (rest t) :=
  readLoop_delivers delivers turns s [] hturns List.not_mem_nil

/-! ## All calls -/

theorem First.lines {stream left : List Byte} {request : RequestLine} (h : First stream request left) :
    (stream = [] ∧ request = .ended ∧ left = []) ∨
      ∃ line, request = requestOf line ∧ linesOf stream = line :: linesOf left ∧ left.length < stream.length := by
  cases h with
  | line left hline =>
    refine .inr ⟨_, rfl, linesOf_line hline left, ?_⟩
    rw [List.length_append, List.length_cons]
    omega
  | last hline hne => exact .inr ⟨_, rfl, linesOf_last hline hne, List.length_pos_iff.mpr hne⟩
  | ended => exact .inl ⟨rfl, rfl, rfl⟩

theorem requestOf_ne_ended (line : List Byte) : requestOf line ≠ .ended := by
  unfold requestOf
  split
  · exact nofun
  · split <;> exact nofun

theorem readRequests_delivers (delivers : Delivers reader rest) (turns : Nat) (s : σ)
    (hturns : (rest s).length + 1 < turns) :
    ∃ t, readRequests reader turns s = some (.ok ((linesOf (rest s)).map requestOf ++ [.ended]), t) ∧ rest t = [] := by
  induction turns generalizing s with
  | zero => omega
  | succ turns ih =>
    obtain ⟨request, t, hread, hfirst⟩ := readRequestLine_delivers delivers (show (rest s).length < turns by omega)
    unfold readRequests
    rw [hread]
    rcases hfirst.lines with ⟨hnil, hended, hleft⟩ | ⟨line, hline, hlines, hlt⟩
    · rw [hended, hnil]
      exact ⟨t, rfl, hleft⟩
    · obtain ⟨u, hrequests, hdone⟩ := ih t (by omega)
      refine ⟨u, ?_, hdone⟩
      rw [hlines, hline]
      cases hrequest : requestOf line with
      | ended => exact absurd hrequest (requestOf_ne_ended line)
      | value bytes =>
        rw [List.map_cons, hrequest]
        show (match readRequests reader turns t with | some (.ok requests, s) => _ | stopped => stopped) = _
        rw [hrequests]
        rfl
      | tooLong =>
        rw [List.map_cons, hrequest]
        show (match readRequests reader turns t with | some (.ok requests, s) => _ | stopped => stopped) = _
        rw [hrequests]
        rfl

theorem runStdio_delivers {S R : Type} (delivers : Delivers reader rest) (server : Server S R) (turns : Nat) (state : S)
    (s : σ) (written : List R) (hturns : (rest s).length + 1 < turns) :
    ∃ t, runStdio reader server turns state s written =
        some (.ok ((server.answers state (linesOf (rest s))).1,
          written ++ (server.answers state (linesOf (rest s))).2), t) ∧ rest t = [] := by
  induction turns generalizing state s written with
  | zero => omega
  | succ turns ih =>
    obtain ⟨request, t, hread, hfirst⟩ := readRequestLine_delivers delivers (show (rest s).length < turns by omega)
    unfold runStdio
    rw [hread]
    rcases hfirst.lines with ⟨hnil, hended, hleft⟩ | ⟨line, hline, hlines, hlt⟩
    · rw [hended, hnil]
      refine ⟨t, ?_, hleft⟩
      show some (Except.ok (state, written), t) = some (.ok (state, written ++ []), t)
      rw [List.append_nil]
    · rw [hlines, hline, Server.answers]
      cases hrequest : requestOf line with
      | ended => exact absurd hrequest (requestOf_ne_ended line)
      | value bytes =>
        obtain ⟨u, hrun, hdone⟩ := ih (server.handle state bytes).1 t (written ++ [(server.handle state bytes).2])
          (by omega)
        refine ⟨u, ?_, hdone⟩
        rw [List.append_assoc] at hrun
        exact hrun
      | tooLong =>
        obtain ⟨u, hrun, hdone⟩ := ih state t (written ++ [server.tooLarge]) (by omega)
        refine ⟨u, ?_, hdone⟩
        rw [List.append_assoc] at hrun
        exact hrun

/-! ## A reader over pieces -/

/-- What is left of a stream that comes in pieces, none of them empty. -/
structure Pieces where
  pieces : List (List Byte)
  nonempty : [] ∉ pieces

def Pieces.bytes (pieces : Pieces) : List Byte := pieces.pieces.flatten

/-- Bytes are taken from the piece that comes next. -/
def Pieces.consume : Pieces → Nat → Pieces
  | ⟨[], nonempty⟩, _ => ⟨[], nonempty⟩
  | ⟨piece :: later, nonempty⟩, taken =>
    if h : piece.drop taken = [] then ⟨later, fun hmem => nonempty (List.mem_cons_of_mem _ hmem)⟩
    else ⟨piece.drop taken :: later, by
      intro hmem
      rcases List.mem_cons.mp hmem with hnil | hmem
      · exact h hnil.symm
      · exact nonempty (List.mem_cons_of_mem _ hmem)⟩

/-- `fill_buf` shows the piece that comes next. -/
def Pieces.bufRead : BufRead Pieces Unit where
  fillBuf pieces := (.ok (pieces.pieces.headD []), pieces)
  consume := Pieces.consume

theorem Pieces.delivers : Delivers Pieces.bufRead Pieces.bytes where
  fills pieces := by
    refine ⟨_, _, rfl, ?_⟩
    obtain ⟨pieces, nonempty⟩ := pieces
    cases pieces with
    | nil =>
      refine ⟨List.prefix_refl _, fun _ => rfl, rfl, ?_⟩
      intro taken _
      exact List.drop_nil.symm
    | cons piece later =>
      refine ⟨List.prefix_append piece later.flatten, ?_, rfl, ?_⟩
      · intro hnil
        exact absurd (List.mem_cons.mpr (.inl hnil.symm)) nonempty
      · intro taken htaken
        show (Pieces.consume ⟨piece :: later, nonempty⟩ taken).bytes = (piece ++ later.flatten).drop taken
        rw [List.drop_append_of_le_length (show taken ≤ piece.length from htaken)]
        rw [Pieces.consume]
        by_cases h : piece.drop taken = []
        · rw [dif_pos h, h]
          rfl
        · rw [dif_neg h]
          rfl

/-! ## The result -/

/-- The calls of `read_request_line` give the lines of the stream, and the loop answers each of them and ends with
    nothing left. -/
theorem request_framing_exact {S R : Type} (delivers : Delivers reader rest) (server : Server S R) (state : S) (s : σ)
    (turns : Nat) (hturns : (rest s).length + 1 < turns) :
    (∃ t, readRequests reader turns s = some (.ok ((linesOf (rest s)).map requestOf ++ [.ended]), t) ∧ rest t = []) ∧
      ∃ t, runStdio reader server turns state s [] = some (.ok (server.answers state (linesOf (rest s))), t) ∧
        rest t = [] :=
  ⟨readRequests_delivers delivers turns s hturns, runStdio_delivers delivers server turns state s [] hturns⟩

theorem request_framing_exact_pieces :
    ∃ t, readRequests Pieces.bufRead 8 ⟨[[0x61, cr], [lf, lf, 0x62], [0x63]], by decide⟩ =
      some (.ok [.value [0x61], .value [], .value [0x62, 0x63], .ended], t) ∧ t.bytes = [] :=
  (request_framing_exact Pieces.delivers ⟨fun _ line => ((), line), []⟩ ()
    ⟨[[0x61, cr], [lf, lf, 0x62], [0x63]], by decide⟩ 8 (by decide)).1

end GreenTyper.AppServer
