/-
  GreenTyper.Lib.Json — the compact JSON that `serde_json::to_vec` writes for structs of
  numbers, booleans and texts, and a reader of exactly that form.

  A value is read where no digit follows it (`ReadsValue`), which is what a comma or a
  brace gives; a member takes its separator with it, so members and whole objects are
  read wherever they stand (`Reads`). `serde_json::from_slice` accepts more than this
  reader, but nothing that reads differently.
-/

import GreenTyper.Lib.Text
import Mathlib.Data.Nat.Digits.Defs

namespace GreenTyper.Lib.Json

/-! ## Writing -/

def hexDigit (n : Nat) : Byte := if n < 10 then UInt8.ofNat (48 + n) else UInt8.ofNat (87 + n)

/-- `format_escaped_str`, one byte of it. -/
def escape (b : Byte) : List Byte :=
  match b with
  | 0x22 => [0x5c, 0x22]
  | 0x5c => [0x5c, 0x5c]
  | 0x08 => [0x5c, 0x62]
  | 0x0c => [0x5c, 0x66]
  | 0x0a => [0x5c, 0x6e]
  | 0x0d => [0x5c, 0x72]
  | 0x09 => [0x5c, 0x74]
  | b => if b < 0x20 then [0x5c, 0x75, 0x30, 0x30, hexDigit (b.toNat / 16), hexDigit (b.toNat % 16)] else [b]

def string (s : String) : List Byte := 0x22 :: ((utf8 s).flatMap escape ++ [0x22])

def digits (n : Nat) : List Byte := (Nat.digits 10 n).reverse.map fun d => UInt8.ofNat (48 + d)

def number (n : Nat) : List Byte := if n = 0 then [0x30] else digits n

def bool (b : Bool) : List Byte := utf8 (if b then "true" else "false")

/-- The text before a member's value. -/
def label (key : String) : List Byte := string key ++ [0x3a]

def members : List (String × List Byte) → List Byte
  | [] => [0x7d]
  | [(key, value)] => label key ++ (value ++ [0x7d])
  | (key, value) :: rest => label key ++ (value ++ [0x2c]) ++ members rest

def object (fields : List (String × List Byte)) : List Byte := 0x7b :: members fields

/-! ## Reading -/

abbrev Reader (α : Type) := StateT (List Byte) Option α

variable {α β : Type}

/-- Wherever the bytes `x` come first, `p` takes exactly them and gives `a`. -/
def Reads (p : Reader α) (x : List Byte) (a : α) : Prop := ∀ r, p (x ++ r) = some (a, r)

def isDigit (b : Byte) : Bool := 48 ≤ b && b ≤ 57

/-- The same where no digit follows. -/
def ReadsValue (p : Reader α) (x : List Byte) (a : α) : Prop :=
  ∀ r, (r.head?.any isDigit) = false → p (x ++ r) = some (a, r)

theorem Reads.value {p : Reader α} {x : List Byte} {a : α} (h : Reads p x a) : ReadsValue p x a := fun r _ => h r

theorem Reads.pure (a : α) : Reads (pure a) [] a := fun _ => rfl

theorem Reads.bind {p : Reader α} {f : α → Reader β} {x y : List Byte} {a : α} {b : β} (h : Reads p x a)
    (h' : Reads (f a) y b) : Reads (p >>= f) (x ++ y) b := by
  intro r
  show (p (x ++ y ++ r) >>= fun q => f q.1 q.2) = _
  rw [List.append_assoc, h]
  exact h' r

/-- A last step that reads nothing more. -/
theorem Reads.map {p : Reader α} {f : α → β} {x : List Byte} {a : α} (h : Reads p x a) :
    Reads (do let a ← p; return f a) x (f a) := by
  have := h.bind (f := fun a => Pure.pure (f a)) (Reads.pure (f a))
  rwa [List.append_nil] at this

def literal (x : List Byte) : Reader Unit := fun bytes => if x <+: bytes then some ((), bytes.drop x.length) else none

theorem reads_literal (x : List Byte) : Reads (literal x) x () := by
  intro r
  rw [literal, if_pos (List.prefix_append x r), List.drop_left]

/-! ## Numbers and booleans -/

def readNumber : Reader Nat := fun bytes =>
  let ds := bytes.takeWhile isDigit
  if ds = [] then none else some (Nat.ofDigits 10 (ds.reverse.map fun d => d.toNat - 48), bytes.drop ds.length)

theorem digit_lt : ∀ d, d < 10 → isDigit (UInt8.ofNat (48 + d)) = true ∧ (UInt8.ofNat (48 + d)).toNat - 48 = d := by
  decide

theorem readNumber_of {ds : List Nat} (hne : ds ≠ []) (h : ∀ d ∈ ds, d < 10) :
    ReadsValue readNumber (ds.reverse.map fun d => UInt8.ofNat (48 + d)) (Nat.ofDigits 10 ds) := by
  intro r hr
  have hall : ∀ b ∈ ds.reverse.map (fun d => UInt8.ofNat (48 + d)), isDigit b = true := by
    intro b hb
    obtain ⟨d, hd, rfl⟩ := List.mem_map.mp hb
    exact (digit_lt d (h d (List.mem_reverse.mp hd))).1
  have hrest : r.takeWhile isDigit = [] := by
    cases r with
    | nil => rfl
    | cons b r => rw [List.takeWhile_cons, if_neg (by simpa using hr)]
  have htake : ((ds.reverse.map fun d => UInt8.ofNat (48 + d)) ++ r).takeWhile isDigit =
      ds.reverse.map fun d => UInt8.ofNat (48 + d) := by
    rw [List.takeWhile_append_of_pos hall, hrest, List.append_nil]
  have hback : (ds.map fun d => UInt8.ofNat (48 + d)).map (fun b => b.toNat - 48) = ds := by
    rw [List.map_map]
    exact (List.map_congr_left fun d hd => (digit_lt d (h d hd)).2).trans (List.map_id ds)
  have hne' : (ds.reverse.map fun d => UInt8.ofNat (48 + d)) ≠ [] := by simpa using hne
  simp only [readNumber, htake, if_neg hne', List.drop_left, ← List.map_reverse, List.reverse_reverse, hback]

theorem reads_number (n : Nat) : ReadsValue readNumber (number n) n := by
  rw [number]
  split
  · subst n
    exact @readNumber_of [0] (by decide) (by decide)
  · rename_i hn
    have h := @readNumber_of (Nat.digits 10 n) (Nat.digits_ne_nil_iff_ne_zero.mpr hn) fun d => Nat.digits_lt_base (by decide)
    rwa [Nat.ofDigits_digits] at h

/-- A number below `bound`. -/
def readBounded (bound : Nat) (f : Nat → α) : Reader α := do
  let n ← readNumber
  if n < bound then return f n else failure

theorem reads_bounded {bound n : Nat} {f : Nat → α} (h : n < bound) : ReadsValue (readBounded bound f) (number n) (f n) := by
  intro r hr
  show (readNumber (number n ++ r) >>= fun q => (if q.1 < bound then Pure.pure (f q.1) else failure : Reader α) q.2) = _
  rw [reads_number n r hr]
  simp only [Option.bind_eq_bind, Option.bind_some, if_pos h]
  rfl

def readBool : Reader Bool := fun bytes =>
  match literal (bool true) bytes with
  | some (_, rest) => some (true, rest)
  | none => (literal (bool false) bytes).map fun (_, rest) => (false, rest)

theorem reads_bool (b : Bool) : Reads readBool (bool b) b := by
  intro r
  cases b with
  | true => rw [readBool, reads_literal]
  | false =>
    have hno : literal (bool true) (bool false ++ r) = none := by
      have htrue : bool true = [0x74, 0x72, 0x75, 0x65] := by decide
      have hfalse : bool false = [0x66, 0x61, 0x6c, 0x73, 0x65] := by decide
      rw [literal, if_neg]
      simp [htrue, hfalse]
    rw [readBool, hno, reads_literal]
    rfl

/-! ## Texts -/

def hexValue (b : Byte) : Option Nat :=
  if 48 ≤ b ∧ b ≤ 57 then some (b.toNat - 48) else if 97 ≤ b ∧ b ≤ 102 then some (b.toNat - 87) else none

/-- What the letter after a backslash stands for. -/
def unescapeLetter : Byte → Option Byte
  | 0x22 => some 0x22
  | 0x5c => some 0x5c
  | 0x62 => some 0x08
  | 0x66 => some 0x0c
  | 0x6e => some 0x0a
  | 0x72 => some 0x0d
  | 0x74 => some 0x09
  | _ => none

def unescapeHex (high low : Byte) : Option Byte := do
  let high ← hexValue high
  let low ← hexValue low
  return UInt8.ofNat (16 * high + low)

/-- The bytes of a text up to its closing quote, and what follows. -/
def unescape : List Byte → Option (List Byte × List Byte)
  | [] => none
  | b :: rest =>
    if b = 0x22 then some ([], rest)
    else if b = 0x5c then
      match rest with
      | 0x75 :: 0x30 :: 0x30 :: high :: low :: rest => do
        let b ← unescapeHex high low
        let (bytes, rest) ← unescape rest
        return (b :: bytes, rest)
      | letter :: rest => do
        let b ← unescapeLetter letter
        let (bytes, rest) ← unescape rest
        return (b :: bytes, rest)
      | [] => none
    else do
      let (bytes, rest) ← unescape rest
      return (b :: bytes, rest)

theorem hex_of_control : ∀ n, n < 0x20 → unescapeHex (hexDigit (n / 16)) (hexDigit (n % 16)) = some (UInt8.ofNat n) := by
  decide

/-- One byte: escaped, it is read back. -/
theorem unescape_escape (b : Byte) (rest : List Byte) :
    unescape (escape b ++ rest) = (unescape rest).map fun (bytes, rest) => (b :: bytes, rest) := by
  unfold escape
  split
  iterate 7 cases h : unescape rest <;> simp [unescape, unescapeLetter, h]
  rename_i hquote hslash _ _ _ _ _
  split
  · rename_i hlt
    have hhex := hex_of_control b.toNat hlt
    rw [UInt8.ofNat_toNat] at hhex
    cases h : unescape rest <;> simp [unescape, hhex, h]
  · rw [List.singleton_append, unescape.eq_def]
    simp only [if_neg hquote, if_neg hslash]
    cases unescape rest <;> rfl

def readText : Reader String := fun bytes => do
  let (bytes, rest) ← unescape bytes
  let s ← fromUtf8 bytes
  return (s, rest)

def readString : Reader String := do
  literal [0x22]
  readText

theorem unescape_flatMap (bs r : List Byte) : unescape (bs.flatMap escape ++ 0x22 :: r) = some (bs, r) := by
  induction bs with
  | nil =>
    rw [unescape.eq_def]
    rfl
  | cons b bs ih => rw [List.flatMap_cons, List.append_assoc, unescape_escape, ih]; rfl

theorem reads_string (s : String) : Reads readString (string s) s := by
  refine (reads_literal [0x22]).bind (x := [0x22]) (y := (utf8 s).flatMap escape ++ [0x22]) ?_
  intro r
  rw [List.append_assoc, List.singleton_append, readText, unescape_flatMap]
  show (fromUtf8 (utf8 s) >>= fun s => some (s, r)) = _
  rw [fromUtf8_utf8]
  rfl

/-! ## Members -/

/-- One member with the byte after it. -/
def member (key : String) (value : Reader α) (separator : Byte) : Reader α := do
  literal (label key)
  let a ← value
  literal [separator]
  return a

theorem reads_member {p : Reader α} {x : List Byte} {a : α} {key : String} {separator : Byte} (h : ReadsValue p x a)
    (hsep : isDigit separator = false) : Reads (member key p separator) (label key ++ (x ++ [separator])) a := by
  refine (reads_literal (label key)).bind ?_
  intro r
  have hvalue := h (separator :: r) (by simpa using hsep)
  show ((p (x ++ [separator] ++ r)) >>= fun q => (literal [separator] q.2 >>= fun q' => some (q.1, q'.2))) = _
  rw [List.append_assoc, List.singleton_append, hvalue, Option.bind_eq_bind, Option.bind_some]
  exact congrArg (fun o => o >>= fun q' => some (a, q'.2)) (reads_literal [separator] r)

/-- All of a text. -/
def readAll (p : Reader α) (bytes : List Byte) : Option α :=
  match p bytes with
  | some (a, []) => some a
  | _ => none

theorem Reads.all {p : Reader α} {x : List Byte} {a : α} (h : Reads p x a) : readAll p x = some a := by
  have := h []
  rw [List.append_nil] at this
  rw [readAll, this]

end GreenTyper.Lib.Json
