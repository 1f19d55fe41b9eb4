/-
  GreenTyper.Lib.JsonValue — JSON values and the compact text `serde_json::to_string`
  prints for one.

  A value's members stand in the order the map holds them. The printer escapes quotes,
  backslashes and the control characters below a blank, and nothing else: the text of a
  value has a control character exactly where one of its strings or member names has one
  from U+007F on (`text_control`).
-/

import GreenTyper.Lib.Text

namespace GreenTyper.Lib

/-- A number, as it is printed. -/
structure JsonNumber where
  text : List Char
  plain : ∀ c ∈ text, c ∈ "0123456789+-.eE".toList

inductive JsonValue where
  | null
  | bool (b : Bool)
  | number (n : JsonNumber)
  | string (s : String)
  | array (values : List JsonValue)
  | object (members : List (String × JsonValue))

def JsonValue.isObject : JsonValue → Bool
  | .object _ => true
  | _ => false

/-! ## Printing -/

def hexChar (n : Nat) : Char := if n < 10 then Char.ofNat (48 + n) else Char.ofNat (87 + n)

/-- One character of a printed string. -/
def escapeChar (c : Char) : List Char :=
  if c = '"' then ['\\', '"']
  else if c = '\\' then ['\\', '\\']
  else if c = '\x08' then ['\\', 'b']
  else if c = '\x0c' then ['\\', 'f']
  else if c = '\n' then ['\\', 'n']
  else if c = '\x0d' then ['\\', 'r']
  else if c = '\t' then ['\\', 't']
  else if c.toNat < 0x20 then ['\\', 'u', '0', '0', hexChar (c.toNat / 16), hexChar (c.toNat % 16)]
  else [c]

def quote (s : String) : List Char := '"' :: (s.toList.flatMap escapeChar ++ ['"'])

mutual

def JsonValue.text : JsonValue → List Char
  | .null => "null".toList
  | .bool b => (if b then "true" else "false").toList
  | .number n => n.text
  | .string s => quote s
  | .array values => '[' :: (valuesText values ++ [']'])
  | .object members => '\x7b' :: (membersText members ++ ['\x7d'])

def valuesText : List JsonValue → List Char
  | [] => []
  | value :: values => value.text ++ (if values.isEmpty then [] else ',' :: valuesText values)

def membersText : List (String × JsonValue) → List Char
  | [] => []
  | (name, value) :: members =>
    quote name ++ ':' :: (value.text ++ (if members.isEmpty then [] else ',' :: membersText members))

end

/-! ## Nesting -/

mutual

/-- The depth of the innermost value, the value itself at depth 1. -/
def JsonValue.depth : JsonValue → Nat
  | .array values => valuesDepth values + 1
  | .object members => membersDepth members + 1
  | _ => 1

def valuesDepth : List JsonValue → Nat
  | [] => 0
  | value :: values => max value.depth (valuesDepth values)

def membersDepth : List (String × JsonValue) → Nat
  | [] => 0
  | (_, value) :: members => max value.depth (membersDepth members)

end

/-! ## Control characters -/

mutual

/-- Some string or member name in the value has a character with `p`. -/
def JsonValue.anyChar (p : Char → Bool) : JsonValue → Bool
  | .string s => s.toList.any p
  | .array values => valuesAnyChar p values
  | .object members => membersAnyChar p members
  | _ => false

def valuesAnyChar (p : Char → Bool) : List JsonValue → Bool
  | [] => false
  | value :: values => value.anyChar p || valuesAnyChar p values

def membersAnyChar (p : Char → Bool) : List (String × JsonValue) → Bool
  | [] => false
  | (name, value) :: members => name.toList.any p || value.anyChar p || membersAnyChar p members

end

/-- U+007F and the control characters after it, which JSON text may hold unescaped. -/
def isHighControl (c : Char) : Bool := 0x7f ≤ c.toNat && c.toNat ≤ 0x9f

theorem hexChar_plain : ∀ n, n < 16 → isControl (hexChar n) = false := by decide

theorem escapeChar_control (c : Char) : (escapeChar c).any isControl = isHighControl c := by
  unfold escapeChar
  iterate 7
    split
    · rename_i h
      subst h
      decide
  split
  · rename_i h
    have hhigh : isHighControl c = false := by simp only [isHighControl, Bool.and_eq_false_iff, decide_eq_false_iff_not]; omega
    have hdigit := hexChar_plain (c.toNat / 16) (by omega)
    have hdigit' := hexChar_plain (c.toNat % 16) (by omega)
    simp only [List.any_cons, List.any_nil, hdigit, hdigit', hhigh, Bool.or_false]
    decide
  · rename_i h
    simp only [List.any_cons, List.any_nil, Bool.or_false, isControl, isHighControl]
    have hlow : decide (c.toNat ≤ 0x1f) = false := by simp only [decide_eq_false_iff_not]; omega
    rw [hlow, Bool.false_or]

theorem quote_control (s : String) : (quote s).any isControl = s.toList.any isHighControl := by
  have hquote : isControl '"' = false := by decide
  rw [quote, List.any_cons, List.any_append, List.any_flatMap, List.any_cons, hquote]
  simp only [escapeChar_control, List.any_nil, Bool.or_false, Bool.false_or]

theorem number_plain (n : JsonNumber) : n.text.any isControl = false := by
  rw [List.any_eq_false]
  intro c hc
  have hall : "0123456789+-.eE".toList.any isControl = false := by decide
  exact List.any_eq_false.mp hall c (n.plain c hc)

mutual

theorem JsonValue.text_control : (v : JsonValue) → v.text.any isControl = v.anyChar isHighControl
  | .null => by simp only [JsonValue.text, JsonValue.anyChar]; decide
  | .bool b => by simp only [JsonValue.text, JsonValue.anyChar]; cases b <;> decide
  | .number n => by simp only [JsonValue.text, JsonValue.anyChar, number_plain]
  | .string s => by simp only [JsonValue.text, JsonValue.anyChar, quote_control]
  | .array values => by
    have hopen : isControl '[' = false := by decide
    have hclose : isControl ']' = false := by decide
    rw [JsonValue.text, JsonValue.anyChar, List.any_cons, List.any_append, valuesText_control values, List.any_cons, hopen,
      hclose, List.any_nil, Bool.or_false, Bool.or_false, Bool.false_or]
  | .object members => by
    have hopen : isControl '\x7b' = false := by decide
    have hclose : isControl '\x7d' = false := by decide
    rw [JsonValue.text, JsonValue.anyChar, List.any_cons, List.any_append, membersText_control members, List.any_cons, hopen,
      hclose, List.any_nil, Bool.or_false, Bool.or_false, Bool.false_or]

theorem valuesText_control : (vs : List JsonValue) → (valuesText vs).any isControl = valuesAnyChar isHighControl vs
  | [] => rfl
  | value :: values => by
    have hcomma : isControl ',' = false := by decide
    rw [valuesText, valuesAnyChar, List.any_append, value.text_control]
    cases values with
    | nil => rfl
    | cons value' values' =>
      rw [if_neg (by simp), List.any_cons, hcomma, Bool.false_or, valuesText_control (value' :: values')]

theorem membersText_control :
    (ms : List (String × JsonValue)) → (membersText ms).any isControl = membersAnyChar isHighControl ms
  | [] => rfl
  | (name, value) :: members => by
    have hcomma : isControl ',' = false := by decide
    have hcolon : isControl ':' = false := by decide
    rw [membersText, membersAnyChar, List.any_append, List.any_cons, List.any_append, quote_control, value.text_control,
      hcolon, Bool.false_or, Bool.or_assoc]
    cases members with
    | nil => rfl
    | cons member members' =>
      rw [if_neg (by simp), List.any_cons, hcomma, Bool.false_or, membersText_control (member :: members')]

end

/-- Between two characters that are no whitespace nothing is trimmed. -/
theorem trim_enclosed {first last : Char} (cs : List Char) (hfirst : isWhitespace first = false)
    (hlast : isWhitespace last = false) :
    trim (String.ofList (first :: (cs ++ [last]))) = String.ofList (first :: (cs ++ [last])) := by
  have hstart : (first :: (cs ++ [last])).dropWhile isWhitespace = first :: (cs ++ [last]) := by
    rw [List.dropWhile_cons, hfirst]
    rfl
  have hend : (first :: (cs ++ [last])).reverse.dropWhile isWhitespace = (first :: (cs ++ [last])).reverse := by
    rw [List.reverse_cons, List.reverse_append, List.reverse_singleton, List.singleton_append, List.cons_append,
      List.dropWhile_cons, hlast]
    rfl
  rw [trim, trimList, trimEnd, String.toList_ofList, hstart, hend, List.reverse_reverse]

end GreenTyper.Lib
