/-
  GreenTyper.Lib.JsonText — the texts of a JSON value, as RFC 8259 has them.

  A text is a row of tokens with blanks between them, and a value has one row of tokens.
  Here a value's members stand as they are written, in their order and with repeated
  names. A text spells one value at most (`spells_unique`): a number runs as far as it
  can, the pieces of a string are prefix-free, and a row of tokens is of one value. The
  compact text spells its value (`text_spells`).
-/

import GreenTyper.Lib.JsonValue

namespace GreenTyper.Lib

/-! ## Values within a value -/

/-- Induction over a value, with what holds of all elements or members. -/
@[elab_as_elim]
theorem JsonValue.induct {motive : JsonValue → Prop} (null : motive .null) (bool : ∀ b, motive (.bool b))
    (number : ∀ n, motive (.number n)) (string : ∀ s, motive (.string s))
    (array : ∀ values, (∀ value ∈ values, motive value) → motive (.array values))
    (object : ∀ members : List (String × JsonValue), (∀ member ∈ members, motive member.2) → motive (.object members)) :
    ∀ value, motive value := by
  intro value
  refine JsonValue.rec (motive_1 := motive) (motive_2 := fun values => ∀ value ∈ values, motive value)
    (motive_3 := fun members => ∀ member ∈ members, motive member.2) (motive_4 := fun member => motive member.2)
    null bool number string array object ?_ ?_ ?_ ?_ ?_ value
  · intro value hvalue
    cases hvalue
  · intro head tail hhead htail value hvalue
    rcases List.mem_cons.mp hvalue with rfl | hvalue
    · exact hhead
    · exact htail value hvalue
  · intro member hmember
    cases hmember
  · intro head tail hhead htail member hmember
    rcases List.mem_cons.mp hmember with rfl | hmember
    · exact hhead
    · exact htail member hmember
  · intro name value hvalue
    exact hvalue

/-! ## Tokens -/

inductive JsonMark where
  | beginArray
  | endArray
  | beginObject
  | endObject
  | comma
  | colon
  | null
  | true
  | false
  deriving DecidableEq

def JsonMark.text : JsonMark → List Char
  | .beginArray => ['[']
  | .endArray => [']']
  | .beginObject => ['\x7b']
  | .endObject => ['\x7d']
  | .comma => [',']
  | .colon => [':']
  | .null => "null".toList
  | .true => "true".toList
  | .false => "false".toList

inductive JsonToken where
  | mark (m : JsonMark)
  | number (n : JsonNumber)
  | string (s : String)

def isJsonBlank (c : Char) : Bool := c == ' ' || c == '\n' || c == '\x0d' || c == '\t'

def isNumberChar (c : Char) : Bool := "0123456789+-.eE".toList.contains c

def IsDigits (ds : List Char) : Prop := ds ≠ [] ∧ ∀ c ∈ ds, c ∈ "0123456789".toList

/-- `number`: a sign, the digits before the point without leading zeros, a fraction and an exponent. -/
def NumberText (x : List Char) : Prop :=
  ∃ sign int frac exp, x = sign ++ (int ++ (frac ++ exp)) ∧ (sign = [] ∨ sign = ['-']) ∧
    IsDigits int ∧ (int.head? = some '0' → int = ['0']) ∧
    (frac = [] ∨ ∃ ds, frac = '.' :: ds ∧ IsDigits ds) ∧
    (exp = [] ∨ ∃ e s ds, exp = e :: (s ++ ds) ∧ (e = 'e' ∨ e = 'E') ∧ (s = [] ∨ s = ['+'] ∨ s = ['-']) ∧ IsDigits ds)

def hexCharValue (c : Char) : Option Nat :=
  if '0' ≤ c ∧ c ≤ '9' then some (c.toNat - 48)
  else if 'a' ≤ c ∧ c ≤ 'f' then some (c.toNat - 87)
  else if 'A' ≤ c ∧ c ≤ 'F' then some (c.toNat - 55)
  else none

/-- The UTF-16 code unit after `\u`. -/
def hexUnit (a b c d : Char) : Option Nat := do
  let a ← hexCharValue a
  let b ← hexCharValue b
  let c ← hexCharValue c
  let d ← hexCharValue d
  return ((a * 16 + b) * 16 + c) * 16 + d

def escapedChar : Char → Option Char
  | '"' => some '"'
  | '\\' => some '\\'
  | '/' => some '/'
  | 'b' => some '\x08'
  | 'f' => some '\x0c'
  | 'n' => some '\n'
  | 'r' => some '\x0d'
  | 't' => some '\t'
  | _ => none

/-- One character of a string: itself, a letter after a backslash, a code unit, or two surrogates. -/
inductive CharSpelled : Char → List Char → Prop
  | plain {c : Char} (hlow : 0x20 ≤ c.toNat) (hquote : c ≠ '"') (hback : c ≠ '\\') : CharSpelled c [c]
  | letter {c l : Char} (h : escapedChar l = some c) : CharSpelled c ['\\', l]
  | unit {c a b d e : Char} (h : hexUnit a b d e = some c.toNat) : CharSpelled c ['\\', 'u', a, b, d, e]
  | pair {c a b d e a' b' d' e' : Char} {high low : Nat} (hhigh : hexUnit a b d e = some high) (hlow : hexUnit a' b' d' e' = some low)
      (hlead : 0xd800 ≤ high ∧ high < 0xdc00) (htrail : 0xdc00 ≤ low ∧ low < 0xe000)
      (hc : c.toNat = 0x10000 + (high - 0xd800) * 0x400 + (low - 0xdc00)) :
      CharSpelled c ['\\', 'u', a, b, d, e, '\\', 'u', a', b', d', e']

def CharsSpelled : List Char → List Char → Prop
  | [], x => x = []
  | c :: cs, x => ∃ p rest, CharSpelled c p ∧ CharsSpelled cs rest ∧ x = p ++ rest

def JsonToken.Spelled : JsonToken → List Char → Prop
  | .mark m, x => x = m.text
  | .number n, x => x = n.text ∧ NumberText x
  | .string s, x => ∃ body, CharsSpelled s.toList body ∧ x = '"' :: (body ++ ['"'])

/-- A number ends where no character of a number follows. -/
def JsonToken.EndsBefore : JsonToken → List Char → Prop
  | .number _, rest => ∀ c ∈ rest.head?, isNumberChar c = false
  | _, _ => True

/-- The text has these tokens, with blanks before, between and after them. -/
def Lexed : List JsonToken → List Char → Prop
  | [], x => ∀ c ∈ x, isJsonBlank c = true
  | token :: tokens, x => ∃ blank p rest, (∀ c ∈ blank, isJsonBlank c = true) ∧ token.Spelled p ∧ token.EndsBefore rest ∧
      Lexed tokens rest ∧ x = blank ++ (p ++ rest)

/-! ## A text has one row of tokens -/

theorem char_not_surrogate (c : Char) : ¬ (0xd800 ≤ c.toNat ∧ c.toNat < 0xdc00) := by
  intro h
  have hvalid := c.valid
  simp only [UInt32.isValidChar, Nat.isValidChar] at hvalid
  have hnat : c.toNat = c.val.toNat := rfl
  omega

theorem charSpelled_unique {c c' : Char} {p p' r r' : List Char} (h : CharSpelled c p) (h' : CharSpelled c' p')
    (happ : p ++ r = p' ++ r') : c = c' ∧ r = r' := by
  have hchar : ∀ {c c' : Char}, c.toNat = c'.toNat → c = c' := fun h => Char.toNat_inj.mp h
  have hu : escapedChar 'u' = none := rfl
  cases h with
  | plain _ _ hback =>
    cases h' with
    | plain _ _ _ => simpa using happ
    | _ => exact absurd (by simpa using congrArg List.head? happ) hback
  | letter hl =>
    cases h' with
    | plain _ _ hback => exact absurd (by simpa using (congrArg List.head? happ).symm) hback
    | letter hl' =>
      obtain ⟨rfl, rfl⟩ : _ ∧ _ := by simpa using happ
      exact ⟨Option.some.inj (hl.symm.trans hl'), rfl⟩
    | _ =>
      have hletter := congrArg (·[1]?) happ
      simp only [List.cons_append, List.getElem?_cons_succ, List.getElem?_cons_zero, Option.some.injEq] at hletter
      rw [hletter, hu] at hl
      cases hl
  | unit hunit =>
    cases h' with
    | plain _ _ hback => exact absurd (by simpa using (congrArg List.head? happ).symm) hback
    | letter hl' =>
      have hletter := congrArg (·[1]?) happ
      simp only [List.cons_append, List.getElem?_cons_succ, List.getElem?_cons_zero, Option.some.injEq] at hletter
      rw [← hletter, hu] at hl'
      cases hl'
    | unit hunit' =>
      simp only [List.cons_append, List.nil_append, List.cons.injEq, true_and] at happ
      obtain ⟨rfl, rfl, rfl, rfl, rfl⟩ := happ
      exact ⟨hchar (Option.some.inj (hunit.symm.trans hunit')), rfl⟩
    | pair hhigh _ hlead _ _ =>
      simp only [List.cons_append, List.nil_append, List.cons.injEq, true_and] at happ
      obtain ⟨rfl, rfl, rfl, rfl, _⟩ := happ
      rw [← Option.some.inj (hunit.symm.trans hhigh)] at hlead
      exact absurd hlead (char_not_surrogate _)
  | pair hhigh hlow hlead htrail hc =>
    cases h' with
    | plain _ _ hback => exact absurd (by simpa using (congrArg List.head? happ).symm) hback
    | letter hl' =>
      have hletter := congrArg (·[1]?) happ
      simp only [List.cons_append, List.getElem?_cons_succ, List.getElem?_cons_zero, Option.some.injEq] at hletter
      rw [← hletter, hu] at hl'
      cases hl'
    | unit hunit' =>
      simp only [List.cons_append, List.nil_append, List.cons.injEq, true_and] at happ
      obtain ⟨rfl, rfl, rfl, rfl, _⟩ := happ
      rw [Option.some.inj (hhigh.symm.trans hunit')] at hlead
      exact absurd hlead (char_not_surrogate _)
    | pair hhigh' hlow' _ _ hc' =>
      simp only [List.cons_append, List.nil_append, List.cons.injEq, true_and] at happ
      obtain ⟨rfl, rfl, rfl, rfl, rfl, rfl, rfl, rfl, rfl⟩ := happ
      have hh := Option.some.inj (hhigh.symm.trans hhigh')
      have hl := Option.some.inj (hlow.symm.trans hlow')
      subst hh hl
      exact ⟨hchar (hc.trans hc'.symm), rfl⟩

theorem charSpelled_head {c : Char} {p : List Char} (h : CharSpelled c p) : ∃ d rest, p = d :: rest ∧ d ≠ '"' := by
  cases h with
  | plain _ hquote _ => exact ⟨_, _, rfl, hquote⟩
  | letter _ => exact ⟨_, _, rfl, by decide⟩
  | unit _ => exact ⟨_, _, rfl, by decide⟩
  | pair _ _ _ _ _ => exact ⟨_, _, rfl, by decide⟩

/-- A string is read up to the first quote that no backslash escapes. -/
theorem charsSpelled_unique {cs : List Char} : ∀ {cs' x x' r r' : List Char}, CharsSpelled cs x → CharsSpelled cs' x' →
    x ++ '"' :: r = x' ++ '"' :: r' → cs = cs' ∧ r = r' := by
  induction cs with
  | nil =>
    intro cs' x x' r r' h h' happ
    cases h
    cases cs' with
    | nil =>
      cases h'
      exact ⟨rfl, by simpa using happ⟩
    | cons c' cs' =>
      obtain ⟨p', rest', hc', _, rfl⟩ := h'
      obtain ⟨d, tail, rfl, hd⟩ := charSpelled_head hc'
      exact absurd (by simpa using (congrArg List.head? happ).symm) hd
  | cons c cs ih =>
    intro cs' x x' r r' h h' happ
    obtain ⟨p, rest, hc, hrest, rfl⟩ := h
    cases cs' with
    | nil =>
      cases h'
      obtain ⟨d, tail, rfl, hd⟩ := charSpelled_head hc
      exact absurd (by simpa using congrArg List.head? happ) hd
    | cons c' cs' =>
      obtain ⟨p', rest', hc', hrest', rfl⟩ := h'
      rw [List.append_assoc, List.append_assoc] at happ
      obtain ⟨rfl, htail⟩ := charSpelled_unique hc hc' happ
      obtain ⟨rfl, hr⟩ := ih hrest hrest' htail
      exact ⟨rfl, hr⟩

theorem mark_head (m : JsonMark) : ∃ c rest, m.text = c :: rest ∧ c ≠ '"' ∧ isNumberChar c = false ∧ isJsonBlank c = false := by
  cases m <;> exact ⟨_, _, rfl, by decide, by decide, by decide⟩

theorem mark_unique {m m' : JsonMark} {r r' : List Char} (h : m.text ++ r = m'.text ++ r') : m = m' ∧ r = r' := by
  have hhead : ∀ m m' : JsonMark, m.text.head? = m'.text.head? → m = m' := by
    intro m m'
    cases m <;> cases m' <;> decide
  obtain ⟨c, rest, hc, _⟩ := mark_head m
  obtain ⟨c', rest', hc', _⟩ := mark_head m'
  have hm : m = m' := by
    refine hhead m m' ?_
    have := congrArg List.head? h
    rw [hc, hc'] at this ⊢
    exact this
  subst hm
  exact ⟨rfl, List.append_cancel_left h⟩

theorem numberText_ne_nil {x : List Char} (h : NumberText x) : x ≠ [] := by
  obtain ⟨sign, int, frac, exp, rfl, _, hint, _⟩ := h
  intro hnil
  simp only [List.append_eq_nil_iff] at hnil
  exact hint.1 hnil.2.1

theorem numberChars (n : JsonNumber) : ∀ c ∈ n.text, isNumberChar c = true := by
  intro c hc
  exact List.contains_iff_mem.mpr (n.plain c hc)

theorem numberChar_not_blank {c : Char} (h : isNumberChar c = true) : c ≠ '"' ∧ isJsonBlank c = false := by
  have hall : ("0123456789+-.eE".toList.all fun c => decide (c ≠ '"' ∧ isJsonBlank c = false)) = true := by decide
  exact of_decide_eq_true (List.all_eq_true.mp hall c (List.contains_iff_mem.mp h))

/-- What a token's text starts with tells the three sorts apart. -/
theorem spelled_head {token : JsonToken} {p : List Char} (h : token.Spelled p) :
    ∃ c rest, p = c :: rest ∧ isJsonBlank c = false ∧
      (isNumberChar c = true ↔ ∃ n, token = .number n) ∧ (c = '"' ↔ ∃ s, token = .string s) := by
  cases token with
  | mark m =>
    obtain ⟨c, rest, hc, hquote, hnumber, hblank⟩ := mark_head m
    refine ⟨c, rest, h.trans hc, hblank, ?_, ?_⟩
    · simp [hnumber]
    · simp [hquote]
  | number n =>
    obtain ⟨rfl, hnumber⟩ := h
    cases htext : n.text with
    | nil => exact absurd htext (numberText_ne_nil hnumber)
    | cons c rest =>
      have hc : isNumberChar c = true := numberChars n c (by rw [htext]; exact List.mem_cons_self)
      obtain ⟨hquote, hblank⟩ := numberChar_not_blank hc
      refine ⟨c, rest, rfl, hblank, ?_, ?_⟩
      · simp [hc]
      · simp [hquote]
  | string s =>
    obtain ⟨body, _, rfl⟩ := h
    refine ⟨'"', body ++ ['"'], rfl, by decide, ?_, ?_⟩
    · simp [isNumberChar]
    · simp

theorem takeWhile_ends {α : Type} {p : α → Bool} {xs r : List α} (h : ∀ x ∈ xs, p x = true) (hr : ∀ x ∈ r.head?, p x = false) :
    (xs ++ r).takeWhile p = xs := by
  rw [List.takeWhile_append_of_pos h]
  cases r with
  | nil => simp
  | cons x r => simp [hr x rfl]

theorem token_unique {token token' : JsonToken} {p p' r r' : List Char} (h : token.Spelled p) (h' : token'.Spelled p')
    (hend : token.EndsBefore r) (hend' : token'.EndsBefore r') (happ : p ++ r = p' ++ r') : token = token' ∧ r = r' := by
  obtain ⟨c, rest, hp, _, hnumber, hstring⟩ := spelled_head h
  obtain ⟨c', rest', hp', _, hnumber', hstring'⟩ := spelled_head h'
  have hc : c = c' := by
    rw [hp, hp'] at happ
    exact (List.cons.inj happ).1
  subst hc
  cases token with
  | mark m =>
    cases token' with
    | mark m' =>
      rw [h, h'] at happ
      obtain ⟨rfl, hr⟩ := mark_unique happ
      exact ⟨rfl, hr⟩
    | number n => simpa using hnumber.mp (hnumber'.mpr ⟨n, rfl⟩)
    | string s => simpa using hstring.mp (hstring'.mpr ⟨s, rfl⟩)
  | number n =>
    obtain ⟨n', hn'⟩ := hnumber'.mp (hnumber.mpr ⟨n, rfl⟩)
    subst hn'
    obtain ⟨rfl, _⟩ := h
    obtain ⟨rfl, _⟩ := h'
    have htext : n.text = n'.text := by
      rw [← takeWhile_ends (numberChars n) hend, happ, takeWhile_ends (numberChars n') hend']
    rw [htext] at happ
    refine ⟨?_, List.append_cancel_left happ⟩
    cases n
    cases n'
    cases htext
    rfl
  | string s =>
    obtain ⟨s', hs'⟩ := hstring'.mp (hstring.mpr ⟨s, rfl⟩)
    subst hs'
    obtain ⟨body, hbody, rfl⟩ := h
    obtain ⟨body', hbody', rfl⟩ := h'
    simp only [List.cons_append, List.append_assoc, List.nil_append, List.cons.injEq, true_and] at happ
    obtain ⟨hs, hr⟩ := charsSpelled_unique hbody hbody' happ
    rw [String.toList_inj.mp hs]
    exact ⟨rfl, hr⟩

theorem lexed_unique {tokens : List JsonToken} : ∀ {tokens' : List JsonToken} {x : List Char}, Lexed tokens x → Lexed tokens' x →
    tokens = tokens' := by
  -- Only blanks stand before a token, and its text starts with none.
  have hempty : ∀ {token : JsonToken} {tokens : List JsonToken} {x : List Char}, Lexed (token :: tokens) x →
      ¬ ∀ c ∈ x, isJsonBlank c = true := by
    intro token tokens x h hblank
    obtain ⟨blank, p, rest, _, hp, _, _, rfl⟩ := h
    obtain ⟨c, tail, rfl, hc, _⟩ := spelled_head hp
    rw [hblank c (by simp)] at hc
    cases hc
  induction tokens with
  | nil =>
    intro tokens' x h h'
    cases tokens' with
    | nil => rfl
    | cons token' tokens' => exact absurd h (hempty h')
  | cons token tokens ih =>
    intro tokens' x h h'
    cases tokens' with
    | nil => exact absurd h' (hempty h)
    | cons token' tokens' =>
      obtain ⟨blank, p, rest, hblank, hp, hend, hrest, rfl⟩ := h
      obtain ⟨blank', p', rest', hblank', hp', hend', hrest', happ⟩ := h'
      have hstart : ∀ {token : JsonToken} {p rest : List Char}, token.Spelled p → ∀ c ∈ (p ++ rest).head?, isJsonBlank c = false := by
        intro token p rest hp c hc
        obtain ⟨d, tail, rfl, hd, _⟩ := spelled_head hp
        simp only [List.cons_append, List.head?_cons, Option.mem_some_iff] at hc
        rw [← hc]
        exact hd
      have hblanks : blank = blank' := by
        rw [← takeWhile_ends hblank (hstart hp), happ, takeWhile_ends hblank' (hstart hp')]
      subst hblanks
      obtain ⟨rfl, rfl⟩ := token_unique hp hp' hend hend' (List.append_cancel_left happ)
      rw [ih hrest hrest']

/-! ## The tokens of a value -/

mutual

def JsonValue.tokens : JsonValue → List JsonToken
  | .null => [.mark .null]
  | .bool b => [.mark (if b then .true else .false)]
  | .number n => [.number n]
  | .string s => [.string s]
  | .array values => .mark .beginArray :: (valuesTokens values ++ [.mark .endArray])
  | .object members => .mark .beginObject :: (membersTokens members ++ [.mark .endObject])

def valuesTokens : List JsonValue → List JsonToken
  | [] => []
  | value :: values => value.tokens ++ (if values.isEmpty then [] else .mark .comma :: valuesTokens values)

def membersTokens : List (String × JsonValue) → List JsonToken
  | [] => []
  | (name, value) :: members =>
    .string name :: .mark .colon :: (value.tokens ++ (if members.isEmpty then [] else .mark .comma :: membersTokens members))

end

/-- The text is one of the value's, its members as they stand. -/
def JsonValue.Spells (value : JsonValue) (text : String) : Prop := Lexed value.tokens text.toList

theorem tokens_head (value : JsonValue) :
    ∃ token rest, value.tokens = token :: rest ∧ token ≠ .mark .endArray ∧ token ≠ .mark .comma := by
  cases value with
  | bool b => cases b <;> exact ⟨_, _, rfl, by simp, by simp⟩
  | _ => exact ⟨_, _, rfl, by simp, by simp⟩

theorem valuesTokens_inj {values : List JsonValue}
    (hvalues : ∀ value ∈ values, ∀ {value' : JsonValue} {r r' : List JsonToken}, value.tokens ++ r = value'.tokens ++ r' →
      value = value' ∧ r = r') :
    ∀ {values' : List JsonValue} {r r' : List JsonToken},
      valuesTokens values ++ .mark .endArray :: r = valuesTokens values' ++ .mark .endArray :: r' → values = values' ∧ r = r' := by
  have hnil : ∀ {value : JsonValue} {rest r r' : List JsonToken}, ¬ .mark .endArray :: r = value.tokens ++ rest ++ r' := by
    intro value rest r r' happ
    obtain ⟨token, tail, htoken, hend, _⟩ := tokens_head value
    rw [htoken] at happ
    exact hend (List.cons.inj happ).1.symm
  induction values with
  | nil =>
    intro values' r r' happ
    cases values' with
    | nil => simpa [valuesTokens] using happ
    | cons value' values' => exact absurd happ hnil
  | cons value values ih =>
    intro values' r r' happ
    cases values' with
    | nil => exact absurd happ.symm hnil
    | cons value' values' =>
      rw [valuesTokens, valuesTokens, List.append_assoc, List.append_assoc] at happ
      obtain ⟨rfl, hrest⟩ := hvalues value List.mem_cons_self happ
      have ih := @ih fun value hvalue => hvalues value (List.mem_cons_of_mem _ hvalue)
      cases values with
      | nil =>
        cases values' with
        | nil => simpa using hrest
        | cons _ _ => simp at hrest
      | cons _ _ =>
        cases values' with
        | nil => simp at hrest
        | cons _ _ =>
          simp only [List.isEmpty_cons, Bool.false_eq_true, if_false, List.cons_append, List.cons.injEq, true_and] at hrest
          obtain ⟨hvalues, hr⟩ := ih hrest
          rw [hvalues]
          exact ⟨rfl, hr⟩

theorem membersTokens_inj {members : List (String × JsonValue)}
    (hmembers : ∀ member ∈ members, ∀ {value' : JsonValue} {r r' : List JsonToken}, member.2.tokens ++ r = value'.tokens ++ r' →
      member.2 = value' ∧ r = r') :
    ∀ {members' : List (String × JsonValue)} {r r' : List JsonToken},
      membersTokens members ++ .mark .endObject :: r = membersTokens members' ++ .mark .endObject :: r' →
      members = members' ∧ r = r' := by
  induction members with
  | nil =>
    intro members' r r' happ
    cases members' with
    | nil => simpa [membersTokens] using happ
    | cons member' members' => simp [membersTokens] at happ
  | cons member members ih =>
    intro members' r r' happ
    cases members' with
    | nil => simp [membersTokens] at happ
    | cons member' members' =>
      obtain ⟨name, value⟩ := member
      obtain ⟨name', value'⟩ := member'
      simp only [membersTokens, List.cons_append, List.append_assoc, List.cons.injEq, true_and, JsonToken.string.injEq] at happ
      obtain ⟨rfl, happ⟩ := happ
      obtain ⟨rfl, hrest⟩ := hmembers (name, value) List.mem_cons_self happ
      have ih := @ih fun member hmember => hmembers member (List.mem_cons_of_mem _ hmember)
      cases members with
      | nil =>
        cases members' with
        | nil => simpa using hrest
        | cons _ _ => simp at hrest
      | cons _ _ =>
        cases members' with
        | nil => simp at hrest
        | cons _ _ =>
          simp only [List.isEmpty_cons, Bool.false_eq_true, if_false, List.cons_append, List.cons.injEq, true_and] at hrest
          obtain ⟨hmembers, hr⟩ := ih hrest
          rw [hmembers]
          exact ⟨rfl, hr⟩

/-- A row of tokens starts with one value at most. -/
theorem tokens_inj (value : JsonValue) : ∀ {value' : JsonValue} {r r' : List JsonToken},
    value.tokens ++ r = value'.tokens ++ r' → value = value' ∧ r = r' := by
  induction value using JsonValue.induct with
  | null =>
    intro value' r r' happ
    cases value' with
    | null => simpa [JsonValue.tokens] using happ
    | bool b' => cases b' <;> simp [JsonValue.tokens] at happ
    | _ => simp [JsonValue.tokens] at happ
  | bool b =>
    intro value' r r' happ
    cases value' with
    | bool b' =>
      cases b <;> cases b' <;> simp [JsonValue.tokens] at happ
      all_goals exact ⟨rfl, happ⟩
    | _ => cases b <;> simp [JsonValue.tokens] at happ
  | number n =>
    intro value' r r' happ
    cases value' with
    | number n' => simpa [JsonValue.tokens] using happ
    | bool b' => cases b' <;> simp [JsonValue.tokens] at happ
    | _ => simp [JsonValue.tokens] at happ
  | string s =>
    intro value' r r' happ
    cases value' with
    | string s' => simpa [JsonValue.tokens] using happ
    | bool b' => cases b' <;> simp [JsonValue.tokens] at happ
    | _ => simp [JsonValue.tokens] at happ
  | array values ih =>
    intro value' r r' happ
    cases value' with
    | array values' =>
      simp only [JsonValue.tokens, List.cons_append, List.append_assoc, List.nil_append, List.cons.injEq, true_and] at happ
      obtain ⟨rfl, hr⟩ := valuesTokens_inj ih happ
      exact ⟨rfl, hr⟩
    | bool b => cases b <;> simp [JsonValue.tokens] at happ
    | _ => simp [JsonValue.tokens] at happ
  | object members ih =>
    intro value' r r' happ
    cases value' with
    | object members' =>
      simp only [JsonValue.tokens, List.cons_append, List.append_assoc, List.nil_append, List.cons.injEq, true_and] at happ
      obtain ⟨rfl, hr⟩ := membersTokens_inj ih happ
      exact ⟨rfl, hr⟩
    | bool b => cases b <;> simp [JsonValue.tokens] at happ
    | _ => simp [JsonValue.tokens] at happ

theorem spells_unique {value value' : JsonValue} {text : String} (h : value.Spells text) (h' : value'.Spells text) :
    value = value' := by
  have htokens : value.tokens ++ [] = value'.tokens ++ [] := by rw [lexed_unique h h']
  exact (tokens_inj value htokens).1

/-! ## The compact text -/

/-- `p` of the value and of every value within it. -/
inductive JsonValue.All (p : JsonValue → Prop) : JsonValue → Prop
  | null (h : p .null) : All p .null
  | bool {b : Bool} (h : p (.bool b)) : All p (.bool b)
  | number {n : JsonNumber} (h : p (.number n)) : All p (.number n)
  | string {s : String} (h : p (.string s)) : All p (.string s)
  | array {values : List JsonValue} (h : p (.array values)) (hall : ∀ value ∈ values, All p value) : All p (.array values)
  | object {members : List (String × JsonValue)} (h : p (.object members)) (hall : ∀ member ∈ members, All p member.2) :
      All p (.object members)

theorem JsonValue.All.self {p : JsonValue → Prop} {value : JsonValue} (h : value.All p) : p value := by
  cases h <;> assumption

theorem JsonValue.All.imp {p q : JsonValue → Prop} {value : JsonValue} (h : value.All p) (himp : ∀ value, p value → q value) :
    value.All q := by
  induction h with
  | null h => exact .null (himp _ h)
  | bool h => exact .bool (himp _ h)
  | number h => exact .number (himp _ h)
  | string h => exact .string (himp _ h)
  | array h _ ih => exact .array (himp _ h) ih
  | object h _ ih => exact .object (himp _ h) ih

/-- Every number in the value has `p`. -/
def JsonValue.Numbers (p : JsonNumber → Prop) (value : JsonValue) : Prop := value.All fun part => ∀ n, part = .number n → p n

theorem lexed_numbers {tokens : List JsonToken} : ∀ {x : List Char}, Lexed tokens x → ∀ n, .number n ∈ tokens → NumberText n.text := by
  induction tokens with
  | nil =>
    intro x _ n hn
    cases hn
  | cons token tokens ih =>
    intro x h n hn
    obtain ⟨_, p, rest, _, hp, _, hrest, _⟩ := h
    rcases List.mem_cons.mp hn with rfl | hn
    · obtain ⟨rfl, hnumber⟩ := hp
      exact hnumber
    · exact ih hrest n hn

theorem valuesTokens_mem {values : List JsonValue} {value : JsonValue} (h : value ∈ values) {token : JsonToken} (ht : token ∈ value.tokens) :
    token ∈ valuesTokens values := by
  induction values with
  | nil => cases h
  | cons head values ih =>
    rw [valuesTokens]
    rcases List.mem_cons.mp h with rfl | h
    · exact List.mem_append_left _ ht
    · refine List.mem_append_right _ ?_
      rw [if_neg (by simp [List.ne_nil_of_mem h])]
      exact List.mem_cons_of_mem _ (ih h)

theorem membersTokens_mem {members : List (String × JsonValue)} {member : String × JsonValue} (h : member ∈ members) {token : JsonToken}
    (ht : token ∈ member.2.tokens) : token ∈ membersTokens members := by
  induction members with
  | nil => cases h
  | cons head members ih =>
    obtain ⟨name, value⟩ := head
    rw [membersTokens]
    refine List.mem_cons_of_mem _ (List.mem_cons_of_mem _ ?_)
    rcases List.mem_cons.mp h with rfl | h
    · exact List.mem_append_left _ ht
    · refine List.mem_append_right _ ?_
      rw [if_neg (by simp [List.ne_nil_of_mem h])]
      exact List.mem_cons_of_mem _ (ih h)

theorem numbers_of_tokens {p : JsonNumber → Prop} (value : JsonValue) : (∀ n, .number n ∈ value.tokens → p n) → value.Numbers p := by
  induction value using JsonValue.induct with
  | null => exact fun _ => .null (by simp)
  | bool b => exact fun _ => .bool (by simp)
  | number n =>
    intro h
    refine .number fun n' heq => ?_
    cases heq
    exact h n (by simp [JsonValue.tokens])
  | string s => exact fun _ => .string (by simp)
  | array values ih =>
    intro h
    refine .array (by simp) fun value hvalue => ih value hvalue fun n hn => h n ?_
    exact List.mem_cons_of_mem _ (List.mem_append_left _ (valuesTokens_mem hvalue hn))
  | object members ih =>
    intro h
    refine .object (by simp) fun member hmember => ih member hmember fun n hn => h n ?_
    exact List.mem_cons_of_mem _ (List.mem_append_left _ (membersTokens_mem hmember hn))

theorem spells_numbers {value : JsonValue} {text : String} (h : value.Spells text) : value.Numbers fun n => NumberText n.text :=
  numbers_of_tokens value (lexed_numbers h)

theorem hexUnit_control : ∀ n, n < 0x20 → hexUnit '0' '0' (hexChar (n / 16)) (hexChar (n % 16)) = some n := by decide

theorem escapeChar_spelled (c : Char) : CharSpelled c (escapeChar c) := by
  unfold escapeChar
  iterate 7
    split
    · rename_i h
      subst h
      exact .letter rfl
  split
  · rename_i h
    exact .unit (hexUnit_control _ h)
  · rename_i hquote hback _ _ _ _ _ hlow
    exact .plain (by omega) hquote hback

theorem quote_spelled (s : String) : (JsonToken.string s).Spelled (quote s) := by
  have hchars : ∀ cs : List Char, CharsSpelled cs (cs.flatMap escapeChar) := by
    intro cs
    induction cs with
    | nil => rfl
    | cons c cs ih => exact ⟨escapeChar c, cs.flatMap escapeChar, escapeChar_spelled c, ih, rfl⟩
  exact ⟨s.toList.flatMap escapeChar, hchars s.toList, rfl⟩

/-- A token's text before a text, with no blank between them. -/
theorem lexed_cons {token : JsonToken} {tokens : List JsonToken} {p rest : List Char} (hp : token.Spelled p)
    (hend : token.EndsBefore rest) (hrest : Lexed tokens rest) : Lexed (token :: tokens) (p ++ rest) :=
  ⟨[], p, rest, by simp, hp, hend, hrest, rfl⟩

theorem lexed_mark {m : JsonMark} {tokens : List JsonToken} {rest : List Char} (hrest : Lexed tokens rest) :
    Lexed (.mark m :: tokens) (m.text ++ rest) := @lexed_cons (.mark m) tokens m.text rest rfl trivial hrest

theorem valuesText_lexed {values : List JsonValue}
    (hvalues : ∀ value ∈ values, ∀ {tokens : List JsonToken} {rest : List Char}, Lexed tokens rest →
      (∀ c ∈ rest.head?, isNumberChar c = false) → Lexed (value.tokens ++ tokens) (value.text ++ rest))
    {tokens : List JsonToken} {rest : List Char} (hrest : Lexed tokens rest) (hend : ∀ c ∈ rest.head?, isNumberChar c = false) :
    Lexed (valuesTokens values ++ tokens) (valuesText values ++ rest) := by
  induction values with
  | nil => exact hrest
  | cons value values ih =>
    have ih := ih fun value hvalue => hvalues value (List.mem_cons_of_mem _ hvalue)
    rw [valuesTokens, valuesText, List.append_assoc, List.append_assoc]
    cases values with
    | nil => exact hvalues value List.mem_cons_self hrest hend
    | cons _ _ =>
      rw [if_neg (by simp), if_neg (by simp)]
      refine hvalues value List.mem_cons_self ?_ (by simp [isNumberChar])
      exact @lexed_mark .comma _ _ ih

theorem membersText_lexed {members : List (String × JsonValue)}
    (hmembers : ∀ member ∈ members, ∀ {tokens : List JsonToken} {rest : List Char}, Lexed tokens rest →
      (∀ c ∈ rest.head?, isNumberChar c = false) → Lexed (member.2.tokens ++ tokens) (member.2.text ++ rest))
    {tokens : List JsonToken} {rest : List Char} (hrest : Lexed tokens rest) (hend : ∀ c ∈ rest.head?, isNumberChar c = false) :
    Lexed (membersTokens members ++ tokens) (membersText members ++ rest) := by
  induction members with
  | nil => exact hrest
  | cons member members ih =>
    obtain ⟨name, value⟩ := member
    have ih := ih fun member hmember => hmembers member (List.mem_cons_of_mem _ hmember)
    rw [membersTokens, membersText]
    simp only [List.cons_append, List.append_assoc]
    refine lexed_cons (quote_spelled name) trivial (@lexed_mark .colon _ _ ?_)
    cases members with
    | nil => exact hmembers (name, value) List.mem_cons_self hrest hend
    | cons _ _ =>
      rw [if_neg (by simp), if_neg (by simp)]
      refine hmembers (name, value) List.mem_cons_self ?_ (by simp [isNumberChar])
      exact @lexed_mark .comma _ _ ih

theorem text_lexed (value : JsonValue) : value.Numbers (fun n => NumberText n.text) → ∀ {tokens : List JsonToken} {rest : List Char},
    Lexed tokens rest → (∀ c ∈ rest.head?, isNumberChar c = false) → Lexed (value.tokens ++ tokens) (value.text ++ rest) := by
  induction value using JsonValue.induct with
  | null =>
    intro _ tokens rest hrest _
    exact @lexed_mark .null _ _ hrest
  | bool b =>
    intro _ tokens rest hrest _
    cases b with
    | true => exact @lexed_mark .true _ _ hrest
    | false => exact @lexed_mark .false _ _ hrest
  | number n =>
    intro hnumbers tokens rest hrest hend
    exact lexed_cons ⟨rfl, hnumbers.self n rfl⟩ hend hrest
  | string s =>
    intro _ tokens rest hrest _
    exact lexed_cons (quote_spelled s) trivial hrest
  | array values ih =>
    intro hnumbers tokens rest hrest _
    rw [JsonValue.tokens, JsonValue.text]
    simp only [List.cons_append, List.append_assoc, List.nil_append]
    refine @lexed_mark .beginArray _ _ (valuesText_lexed (fun value hvalue => ?_) (@lexed_mark .endArray _ _ hrest) (by simp [isNumberChar]))
    cases hnumbers with
    | array _ hall => exact ih value hvalue (hall value hvalue)
  | object members ih =>
    intro hnumbers tokens rest hrest _
    rw [JsonValue.tokens, JsonValue.text]
    simp only [List.cons_append, List.append_assoc, List.nil_append]
    refine @lexed_mark .beginObject _ _ (membersText_lexed (fun member hmember => ?_) (@lexed_mark .endObject _ _ hrest) (by simp [isNumberChar]))
    cases hnumbers with
    | object _ hall => exact ih member hmember (hall member hmember)

/-- The compact text is one of the value's. -/
theorem text_spells {value : JsonValue} (h : value.Numbers fun n => NumberText n.text) : value.Spells (String.ofList value.text) := by
  have hlexed := @text_lexed value h [] [] (by simp [Lexed]) (by simp)
  rw [List.append_nil, List.append_nil] at hlexed
  rw [JsonValue.Spells, String.toList_ofList]
  exact hlexed

end GreenTyper.Lib
