/-
  GreenTyper.Tool.Arguments — the canonical form of Tool arguments (`ToolArguments::parse`,
  `write_canonical_json`).

  The JSON library is a parameter: it reads the texts of RFC 8259 with at most 127 nested
  arrays and objects, keeps an object as a map and an integer of 64 bits as it is written.
  Of other numbers nothing is assumed, and the results are about texts without them.

  Proved: the canonical forms of two texts are one exactly when the texts spell the same
  value up to the order of members (1), a canonical form is accepted as itself (2), and
  what is accepted is exact (3): no deeper nesting, no longer text, and of a repeated
  member the last. A repeated member is not refused (`a_repeated_member_is_accepted`).
-/

import GreenTyper.Lib.JsonMap
import GreenTyper.Tool.Model

namespace GreenTyper.Tool

open GreenTyper.Lib

def maxArgumentBytes : Nat := 64 * 1024

/-! ## The JSON library -/

/-- `serde_json`: `from_str` to a `Value`, the numbers that it can read, and what it prints for one. -/
structure JsonLibrary where
  fromStr : String → Option JsonValue
  readable : JsonNumber → Prop
  number : JsonNumber → JsonNumber

/-- An integer that is kept as a `u64` or an `i64`. -/
def IntegerText (x : List Char) : Prop := ∃ n : Int, -2 ^ 63 ≤ n ∧ n < 2 ^ 64 ∧ x = (toString n).toList

/-- What is assumed of the library. -/
structure JsonLibrary.Lawful (json : JsonLibrary) : Prop where
  reads : ∀ {text : String} {value : JsonValue}, json.fromStr text = some value ↔
    ∃ tree : JsonValue, tree.Spells text ∧ tree.Nested 127 ∧ tree.Numbers json.readable ∧ value = tree.asMap json.number
  integers : ∀ {n : JsonNumber}, IntegerText n.text → json.readable n ∧ json.number n = n

/-! ## The canonical form -/

/-- The texts with a comma before each but the first. -/
def separated : List (List Char) → List Char
  | [] => []
  | text :: texts => text ++ (if texts.isEmpty then [] else ',' :: separated texts)

mutual

/-- `write_canonical_json`. Printing a text does not fail. -/
def writeCanonicalJson : JsonValue → List Char
  | .null => "null".toList
  | .bool b => (if b then "true" else "false").toList
  | .number n => n.text
  | .string s => quote s
  | .array values => '[' :: (separated (writeValues values) ++ [']'])
  | .object values =>
    let entries := (writeEntries values).insertionSort fun left right => left.1 ≤ right.1
    '\x7b' :: (separated (entries.map fun entry => quote entry.1 ++ ':' :: entry.2) ++ ['\x7d'])

def writeValues : List JsonValue → List (List Char)
  | [] => []
  | value :: values => writeCanonicalJson value :: writeValues values

def writeEntries : List (String × JsonValue) → List (String × List Char)
  | [] => []
  | (key, value) :: values => (key, writeCanonicalJson value) :: writeEntries values

end

def ToolArguments.parse (json : JsonLibrary) (input : String) : Except ToolRuntimeError ToolArguments := do
  require (byteLen input ≤ maxArgumentBytes) (.invalidArguments "Tool arguments exceed the byte limit")
  let value ← okOr (json.fromStr input) (.invalidArguments "Tool arguments are not JSON")
  require (value.isObject = true) (.invalidArguments "Tool arguments must be a JSON object")
  let canonicalJson := String.ofList (writeCanonicalJson value)
  require (byteLen canonicalJson ≤ maxArgumentBytes) (.invalidArguments "canonical Tool arguments exceed the byte limit")
  return ⟨canonicalJson⟩

/-! ## The form of a value of maps -/

theorem separated_values {values : List JsonValue} (h : ∀ value ∈ values, writeCanonicalJson value = value.text) :
    separated (writeValues values) = valuesText values := by
  induction values with
  | nil => rfl
  | cons value values ih =>
    rw [writeValues, separated, valuesText, h value List.mem_cons_self, ih fun value hvalue => h value (List.mem_cons_of_mem _ hvalue)]
    cases values <;> rfl

theorem separated_members {members : List (String × JsonValue)} (h : ∀ member ∈ members, writeCanonicalJson member.2 = member.2.text) :
    separated ((writeEntries members).map fun entry => quote entry.1 ++ ':' :: entry.2) = membersText members := by
  induction members with
  | nil => rfl
  | cons member members ih =>
    obtain ⟨key, value⟩ := member
    have hvalue : writeCanonicalJson value = value.text := h (key, value) List.mem_cons_self
    rw [writeEntries, List.map_cons, separated, membersText, hvalue, ih fun member hmember => h member (List.mem_cons_of_mem _ hmember),
      List.append_assoc, List.cons_append]
    cases members <;> rfl

theorem writeEntries_sorted {members : List (String × JsonValue)} (h : members.Pairwise (fun a b => a.1 < b.1)) :
    ((writeEntries members).insertionSort fun left right => left.1 ≤ right.1) = writeEntries members := by
  have hkeys : ∀ {key : String} {members : List (String × JsonValue)}, (∀ member ∈ members, key < member.1) →
      ∀ entry ∈ writeEntries members, key ≤ entry.1 := by
    intro key members
    induction members with
    | nil => exact fun _ entry hentry => by cases hentry
    | cons member members ih =>
      obtain ⟨key', value⟩ := member
      intro hlt entry hentry
      rcases List.mem_cons.mp hentry with rfl | hentry
      · exact le_of_lt (hlt (key', value) List.mem_cons_self)
      · exact ih (fun member hmember => hlt member (List.mem_cons_of_mem _ hmember)) entry hentry
  refine List.Pairwise.insertionSort_eq ?_
  induction members with
  | nil => exact List.Pairwise.nil
  | cons member members ih =>
    obtain ⟨key, value⟩ := member
    obtain ⟨hfirst, hrest⟩ := List.pairwise_cons.mp h
    exact List.pairwise_cons.mpr ⟨hkeys hfirst, ih hrest⟩

/-- Of a value of maps the canonical form is the compact text. -/
theorem writeCanonicalJson_eq {value : JsonValue} (h : value.Ordered) : writeCanonicalJson value = value.text := by
  induction value using JsonValue.induct with
  | null => rfl
  | bool b => rfl
  | number n => rfl
  | string s => rfl
  | array values ih =>
    cases h with | array _ hall =>
    rw [writeCanonicalJson, JsonValue.text, separated_values fun value hvalue => ih value hvalue (hall value hvalue)]
  | object members ih =>
    cases h with | object hsorted hall =>
    rw [writeCanonicalJson, JsonValue.text]
    simp only [writeEntries_sorted (hsorted members rfl)]
    rw [separated_members fun member hmember => ih member hmember (hall member hmember)]

/-! ## What is accepted -/

variable {json : JsonLibrary} {input : String} {a : ToolArguments}

theorem parse_ok : ToolArguments.parse json input = .ok a ↔
    byteLen input ≤ maxArgumentBytes ∧ ∃ value, json.fromStr input = some value ∧ value.isObject = true ∧
      a.canonicalJson = String.ofList (writeCanonicalJson value) ∧ byteLen a.canonicalJson ≤ maxArgumentBytes := by
  simp only [ToolArguments.parse, bind_ok, exists_unit, require_ok, okOr_ok, pure, Except.pure, Except.ok.injEq]
  constructor
  · intro h
    obtain ⟨hlen, value, hvalue, hobject, hcanonical, rfl⟩ := h
    exact ⟨hlen, value, hvalue, hobject, rfl, hcanonical⟩
  · intro h
    obtain ⟨hlen, value, hvalue, hobject, hform, hcanonical⟩ := h
    rw [hform] at hcanonical
    refine ⟨hlen, value, hvalue, hobject, hcanonical, ?_⟩
    cases a
    cases hform
    rfl

/-- No number of the text is a floating point number. -/
def IntegerNumbers (input : String) : Prop := ∀ tree : JsonValue, tree.Spells input → tree.Numbers fun n => IntegerText n.text

/-- Both texts spell one value up to the order of members, and of a repeated member the last. -/
def SameValue (x y : String) : Prop := ∃ v w : JsonValue, v.Spells x ∧ w.Spells y ∧ v.Same w

/-- What the arguments of a text are: the map of the value that the text spells, printed. -/
structure Accepted (input : String) (tree : JsonValue) (canonicalJson : String) : Prop where
  spells : tree.Spells input
  object : tree.isObject = true
  nested : tree.Nested 127
  length : byteLen input ≤ maxArgumentBytes
  form : canonicalJson = String.ofList (tree.asMap id).text
  form_length : byteLen canonicalJson ≤ maxArgumentBytes

theorem asMap_isObject {f : JsonNumber → JsonNumber} (value : JsonValue) : (value.asMap f).isObject = value.isObject := by
  cases value <;> rfl

theorem fromStr_integers (hjson : json.Lawful) {tree : JsonValue} (htree : tree.Spells input)
    (hnumbers : tree.Numbers fun n => IntegerText n.text) {value : JsonValue} :
    json.fromStr input = some value ↔ tree.Nested 127 ∧ value = tree.asMap id := by
  have hread : tree.asMap json.number = tree.asMap id :=
    asMap_congr (JsonValue.All.imp hnumbers fun _ h n hn => (hjson.integers (h n hn)).2)
  rw [hjson.reads]
  constructor
  · intro h
    obtain ⟨tree', htree', hnested, _, rfl⟩ := h
    rw [spells_unique htree htree'] at hread ⊢
    exact ⟨hnested, hread⟩
  · intro h
    refine ⟨tree, htree, h.1, ?_, h.2.trans hread.symm⟩
    exact JsonValue.All.imp hnumbers fun _ h n hn => (hjson.integers (h n hn)).1

/-- (3) Exactly which texts are accepted, and as what. -/
theorem parse_iff (hjson : json.Lawful) (hnumbers : IntegerNumbers input) :
    ToolArguments.parse json input = .ok a ↔ ∃ tree, Accepted input tree a.canonicalJson := by
  rw [parse_ok]
  constructor
  · intro h
    obtain ⟨hlen, value, hvalue, hobject, hform, hcanonical⟩ := h
    obtain ⟨tree, htree, _⟩ := hjson.reads.mp hvalue
    obtain ⟨hnested, rfl⟩ := (fromStr_integers hjson htree (hnumbers tree htree)).mp hvalue
    rw [asMap_isObject] at hobject
    rw [writeCanonicalJson_eq (asMap_ordered tree)] at hform
    exact ⟨tree, htree, hobject, hnested, hlen, hform, hcanonical⟩
  · intro h
    obtain ⟨tree, h⟩ := h
    refine ⟨h.length, tree.asMap id, ?_, (asMap_isObject tree).trans h.object, ?_, h.form_length⟩
    · exact (fromStr_integers hjson h.spells (hnumbers tree h.spells)).mpr ⟨h.nested, rfl⟩
    · rw [writeCanonicalJson_eq (asMap_ordered tree)]
      exact h.form

/-- A map of integers is spelled by its text. -/
theorem form_spells {tree : JsonValue} (h : tree.Spells input) : (tree.asMap id).Spells (String.ofList (tree.asMap id).text) :=
  text_spells (asMap_numbers (fun _ hn => hn) (spells_numbers h))

/-- (1) -/
theorem canonical_eq_iff {x y : String} {tree tree' : JsonValue} {b : ToolArguments} (hx : Accepted x tree a.canonicalJson)
    (hy : Accepted y tree' b.canonicalJson) : a = b ↔ SameValue x y := by
  have hmaps : a = b ↔ tree.asMap id = tree'.asMap id := by
    constructor
    · intro h
      have hspells := form_spells hy.spells
      rw [← hy.form, ← h, hx.form] at hspells
      exact spells_unique (form_spells hx.spells) hspells
    · intro h
      have hform : a.canonicalJson = b.canonicalJson := by rw [hx.form, hy.form, h]
      cases a
      cases b
      cases hform
      rfl
  rw [hmaps, asMap_eq_iff]
  constructor
  · exact fun h => ⟨tree, tree', hx.spells, hy.spells, h⟩
  · intro h
    obtain ⟨v, w, hv, hw, hsame⟩ := h
    rw [spells_unique hx.spells hv, spells_unique hy.spells hw]
    exact hsame

/-- (2) A canonical form is a text of the map, and the map of it again is the same. -/
theorem accepted_canonical {tree : JsonValue} (h : Accepted input tree a.canonicalJson) :
    Accepted a.canonicalJson (tree.asMap id) a.canonicalJson := by
  refine ⟨?_, (asMap_isObject tree).trans h.object, asMap_nested h.nested, h.form_length, ?_, h.form_length⟩
  · rw [h.form]
    exact form_spells h.spells
  · have hself : (tree.asMap id).asMap id = tree.asMap id :=
      asMap_self (asMap_ordered tree) (JsonValue.All.imp (all_true _) fun _ _ _ _ => rfl)
    rw [hself]
    exact h.form

theorem canonical_integers {tree : JsonValue} (h : Accepted input tree a.canonicalJson) (hnumbers : IntegerNumbers input) :
    IntegerNumbers a.canonicalJson := by
  intro tree' htree'
  rw [← spells_unique (accepted_canonical h).spells htree']
  exact asMap_numbers (fun _ hn => hn) (hnumbers tree h.spells)

/-! ## A reader of the grammar -/

/-- A library that reads every text of a value nested no deeper, and prints a number as it is written. -/
noncomputable def grammarReader : JsonLibrary := by
  classical
  exact ⟨fun text => if h : ∃ tree : JsonValue, tree.Spells text ∧ tree.Nested 127 then some (h.choose.asMap id) else none,
    fun _ => True, id⟩

theorem grammarReader_lawful : grammarReader.Lawful := by
  refine ⟨fun {text value} => ?_, fun _ => ⟨trivial, rfl⟩⟩
  have hall : ∀ tree : JsonValue, tree.Numbers grammarReader.readable :=
    fun tree => JsonValue.All.imp (all_true tree) fun _ _ _ _ => trivial
  unfold grammarReader at hall ⊢
  by_cases h : ∃ tree : JsonValue, tree.Spells text ∧ tree.Nested 127
  · simp only [dif_pos h, Option.some.injEq]
    constructor
    · intro heq
      exact ⟨h.choose, h.choose_spec.1, h.choose_spec.2, hall _, heq.symm⟩
    · intro hread
      obtain ⟨tree, htree, _, _, rfl⟩ := hread
      rw [spells_unique h.choose_spec.1 htree]
  · simp only [dif_neg h, reduceCtorEq, false_iff]
    intro hread
    obtain ⟨tree, htree, hnested, _⟩ := hread
    exact h ⟨tree, htree, hnested⟩

/-! ## Results -/

/-- A compact text of integers, as arguments. -/
theorem accepted_compact {tree : JsonValue} {canonicalJson : String} (hnumbers : tree.Numbers fun n => NumberText n.text)
    (hobject : tree.isObject = true) (hnested : tree.Nested 127) (hinput : input = String.ofList tree.text)
    (hform : canonicalJson = String.ofList (tree.asMap id).text) (hlen : byteLen input ≤ maxArgumentBytes)
    (hlen' : byteLen canonicalJson ≤ maxArgumentBytes) : Accepted input tree canonicalJson :=
  ⟨hinput ▸ text_spells hnumbers, hobject, hnested, hlen, hform, hlen'⟩

/-- Two members with the numbers 1 and 2. -/
def twoMembers (name name' : String) : JsonValue :=
  .object [(name, .number ⟨['1'], List.forall_mem_singleton.mpr (by decide)⟩), (name', .number ⟨['2'], List.forall_mem_singleton.mpr (by decide)⟩)]

theorem twoMembers_numbers {p : List Char → Prop} (h1 : p ['1']) (h2 : p ['2']) (name name' : String) :
    (twoMembers name name').Numbers fun n => p n.text := by
  refine .object (by simp) fun member hmember => ?_
  simp only [List.mem_cons, List.not_mem_nil, or_false] at hmember
  rcases hmember with rfl | rfl
  · refine .number fun n hn => ?_
    cases hn
    exact h1
  · refine .number fun n hn => ?_
    cases hn
    exact h2

theorem twoMembers_nested (name name' : String) : (twoMembers name name').Nested 127 := by
  refine .object fun member hmember => ?_
  simp only [List.mem_cons, List.not_mem_nil, or_false] at hmember
  rcases hmember with rfl | rfl
  · exact .number
  · exact .number

theorem digit_texts : (NumberText ['1'] ∧ NumberText ['2']) ∧ IntegerText ['1'] ∧ IntegerText ['2'] := by
  have hdigit : ∀ c, c ∈ "0123456789".toList → c ≠ '0' → NumberText [c] := by
    intro c hc hne
    refine ⟨[], [c], [], [], rfl, Or.inl rfl, ⟨by simp, by simpa using hc⟩, fun hzero => ?_, Or.inl rfl, Or.inl rfl⟩
    exact absurd (by simpa using hzero) hne
  exact ⟨⟨hdigit '1' (by decide) (by decide), hdigit '2' (by decide) (by decide)⟩, ⟨1, by decide, by decide, by decide⟩,
    2, by decide, by decide, by decide⟩

theorem twoMembers_integers {name name' : String} (h : (twoMembers name name').Spells input) : IntegerNumbers input := by
  intro tree htree
  rw [← spells_unique h htree]
  exact twoMembers_numbers digit_texts.2.1 digit_texts.2.2 name name'

/-- Canonical arguments stand for one value up to the order of members, and are accepted as they are. -/
theorem canonical_arguments (json : JsonLibrary) (hjson : json.Lawful) :
    (∀ x y a b, ToolArguments.parse json x = .ok a → ToolArguments.parse json y = .ok b → IntegerNumbers x → IntegerNumbers y →
      (a = b ↔ SameValue x y)) ∧
    (∀ x a, ToolArguments.parse json x = .ok a → IntegerNumbers x → ToolArguments.parse json a.canonicalJson = .ok a) ∧
    (∀ x a, IntegerNumbers x → (ToolArguments.parse json x = .ok a ↔ ∃ tree, Accepted x tree a.canonicalJson)) ∧
    (∀ x (tree : JsonValue) a, tree.Spells x → ¬ tree.Nested 127 → ToolArguments.parse json x ≠ .ok a) ∧
    (∀ x a, ToolArguments.parse json x = .ok a → byteLen x ≤ maxArgumentBytes ∧ byteLen a.canonicalJson ≤ maxArgumentBytes) := by
  refine ⟨fun x y a b hx hy hnx hny => ?_, fun x a hx hnx => ?_, fun x a => parse_iff hjson, fun x tree a htree hdeep hx => ?_,
    fun x a hx => ?_⟩
  · obtain ⟨tree, htree⟩ := (parse_iff hjson hnx).mp hx
    obtain ⟨tree', htree'⟩ := (parse_iff hjson hny).mp hy
    exact canonical_eq_iff htree htree'
  · obtain ⟨tree, htree⟩ := (parse_iff hjson hnx).mp hx
    exact (parse_iff hjson (canonical_integers htree hnx)).mpr ⟨_, accepted_canonical htree⟩
  · obtain ⟨_, value, hvalue, _⟩ := parse_ok.mp hx
    obtain ⟨tree', htree', hnested, _⟩ := hjson.reads.mp hvalue
    rw [spells_unique htree htree'] at hdeep
    exact hdeep hnested
  · obtain ⟨hlen, _, _, _, _, hcanonical⟩ := parse_ok.mp hx
    exact ⟨hlen, hcanonical⟩

theorem canonical_arguments_reordered :
    ToolArguments.parse grammarReader "\x7b\"b\":1,\"a\":2\x7d" = .ok ⟨"\x7b\"a\":2,\"b\":1\x7d"⟩ ∧
      ToolArguments.parse grammarReader "\x7b\"a\":2,\"b\":1\x7d" = .ok ⟨"\x7b\"a\":2,\"b\":1\x7d"⟩ := by
  have haccepted : Accepted "\x7b\"b\":1,\"a\":2\x7d" (twoMembers "b" "a") "\x7b\"a\":2,\"b\":1\x7d" :=
    accepted_compact (twoMembers_numbers digit_texts.1.1 digit_texts.1.2 _ _) rfl (twoMembers_nested _ _) (by decide) (by decide) (by decide)
      (by decide)
  have hnumbers := twoMembers_integers haccepted.spells
  obtain ⟨_, hcanonical, hexact, _⟩ := canonical_arguments grammarReader grammarReader_lawful
  have hparse := (hexact _ ⟨"\x7b\"a\":2,\"b\":1\x7d"⟩ hnumbers).mpr ⟨_, haccepted⟩
  exact ⟨hparse, hcanonical _ _ hparse hnumbers⟩

/-- The text with two members `a` is accepted, as that of the last. -/
theorem a_repeated_member_is_accepted :
    ToolArguments.parse grammarReader "\x7b\"a\":1,\"a\":2\x7d" = .ok ⟨"\x7b\"a\":2\x7d"⟩ := by
  have haccepted : Accepted "\x7b\"a\":1,\"a\":2\x7d" (twoMembers "a" "a") "\x7b\"a\":2\x7d" :=
    accepted_compact (twoMembers_numbers digit_texts.1.1 digit_texts.1.2 _ _) rfl (twoMembers_nested _ _) (by decide) (by decide) (by decide)
      (by decide)
  exact (parse_iff grammarReader_lawful (twoMembers_integers haccepted.spells)).mpr ⟨_, haccepted⟩

end GreenTyper.Tool
