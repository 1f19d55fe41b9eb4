/-
  GreenTyper.Lib.JsonMap — JSON values whose objects are maps.

  A reader that keeps an object as a map makes of a value what `asMap` says: the members in
  the order of their names, the last of each name, at every level. Two values become one
  exactly when they are the same up to the order of members (`asMap_eq_iff`), and a value
  of maps becomes itself (`asMap_self`).
-/

import GreenTyper.Lib.JsonText
import GreenTyper.Lib.OrdMap
import Mathlib.Data.String.Basic

namespace GreenTyper.Lib

/-! ## Objects as maps -/

section Entries

variable {κ α : Type} [LinearOrder κ]

/-- The entries put into a map one after the other. -/
def fromEntries (es : List (κ × α)) : List (κ × α) := es.foldl (fun map e => insertEntry e.1 e.2 map) []

theorem fromEntries_sorted (es : List (κ × α)) : (fromEntries es).Pairwise (fun a b => a.1 < b.1) := by
  have hfold : ∀ (es map : List (κ × α)), map.Pairwise (fun a b => a.1 < b.1) →
      (es.foldl (fun map e => insertEntry e.1 e.2 map) map).Pairwise (fun a b => a.1 < b.1) := by
    intro es
    induction es with
    | nil => exact fun _ hmap => hmap
    | cons e es ih => exact fun map hmap => ih _ (insertEntry_sorted hmap)
  exact hfold es [] List.Pairwise.nil

theorem mem_fromEntries {es : List (κ × α)} {x : κ × α} (h : x ∈ fromEntries es) : x ∈ es := by
  have hfold : ∀ (es map : List (κ × α)), x ∈ es.foldl (fun map e => insertEntry e.1 e.2 map) map → x ∈ es ∨ x ∈ map := by
    intro es
    induction es with
    | nil => exact fun _ hx => Or.inr hx
    | cons e es ih =>
      intro map hx
      rcases ih _ hx with hx | hx
      · exact Or.inl (List.mem_cons_of_mem e hx)
      · rcases mem_insertEntry hx with rfl | hx
        · exact Or.inl List.mem_cons_self
        · exact Or.inr hx
  exact (hfold es [] h).resolve_right (by simp)

theorem insertEntry_last {k : κ} {v : α} {map : List (κ × α)} (h : ∀ e ∈ map, e.1 < k) : insertEntry k v map = map ++ [(k, v)] := by
  induction map with
  | nil => rfl
  | cons e map ih =>
    have he := h e List.mem_cons_self
    rw [insertEntry, if_neg (lt_asymm he), if_neg (ne_of_lt he), ih fun e' he' => h e' (List.mem_cons_of_mem e he')]
    rfl

theorem fromEntries_of_sorted {es : List (κ × α)} (h : es.Pairwise (fun a b => a.1 < b.1)) : fromEntries es = es := by
  have hfold : ∀ (es map : List (κ × α)), (map ++ es).Pairwise (fun a b => a.1 < b.1) →
      es.foldl (fun map e => insertEntry e.1 e.2 map) map = map ++ es := by
    intro es
    induction es with
    | nil => exact fun map _ => (List.append_nil map).symm
    | cons e es ih =>
      intro map hsorted
      have hlast : ∀ e' ∈ map, e'.1 < e.1 := fun e' he' => (List.pairwise_append.mp hsorted).2.2 e' he' e List.mem_cons_self
      rw [List.foldl_cons, insertEntry_last hlast, ih]
      · rw [List.append_assoc, List.singleton_append]
      · rwa [List.append_assoc, List.singleton_append]
  exact hfold es [] h

/-- The last entry under a key is the one that stays. -/
theorem lookupEntry_fromEntries (k : κ) (es : List (κ × α)) : lookupEntry k (fromEntries es) = lookupEntry k es.reverse := by
  induction es using List.reverseRecOn with
  | nil => rfl
  | append_singleton es e ih =>
    rw [fromEntries, List.foldl_append] at *
    rw [List.foldl_cons, List.foldl_nil, lookupEntry_insertEntry, ih, List.reverse_append]
    rfl

theorem fromEntries_eq_iff {es es' : List (κ × α)} :
    fromEntries es = fromEntries es' ↔ ∀ k, lookupEntry k es.reverse = lookupEntry k es'.reverse := by
  refine ⟨fun h k => ?_, fun h => ?_⟩
  · rw [← lookupEntry_fromEntries, ← lookupEntry_fromEntries, h]
  · have hmap : (⟨fromEntries es, fromEntries_sorted es⟩ : OrdMap κ α) = ⟨fromEntries es', fromEntries_sorted es'⟩ := by
      refine OrdMap.ext_get fun k => ?_
      exact (lookupEntry_fromEntries k es).trans ((h k).trans (lookupEntry_fromEntries k es').symm)
    exact congrArg OrdMap.entries hmap

theorem lookupEntry_map {β : Type} (g : α → β) (k : κ) (es : List (κ × α)) :
    lookupEntry k (es.map fun e => (e.1, g e.2)) = (lookupEntry k es).map g := by
  induction es with
  | nil => rfl
  | cons e es ih =>
    rw [List.map_cons, lookupEntry, lookupEntry, ih]
    split <;> rfl

end Entries

/-- Arrays and objects are nested at most so deep. -/
inductive JsonValue.Nested : JsonValue → Nat → Prop
  | null {n : Nat} : Nested .null n
  | bool {b : Bool} {n : Nat} : Nested (.bool b) n
  | number {m : JsonNumber} {n : Nat} : Nested (.number m) n
  | string {s : String} {n : Nat} : Nested (.string s) n
  | array {values : List JsonValue} {n : Nat} (h : ∀ value ∈ values, Nested value n) : Nested (.array values) (n + 1)
  | object {members : List (String × JsonValue)} {n : Nat} (h : ∀ member ∈ members, Nested member.2 n) : Nested (.object members) (n + 1)

/-- Every object in the value has its names in strict order, so none twice. -/
def JsonValue.Ordered (value : JsonValue) : Prop :=
  value.All fun part => ∀ members, part = .object members → members.Pairwise (fun a b => a.1 < b.1)

section Reading

variable {f : JsonNumber → JsonNumber} {value : JsonValue}

mutual

/-- The value with its numbers read by `f` and its objects kept as maps. -/
def JsonValue.asMap (f : JsonNumber → JsonNumber) : JsonValue → JsonValue
  | .null => .null
  | .bool b => .bool b
  | .number n => .number (f n)
  | .string s => .string s
  | .array values => .array (valuesAsMap f values)
  | .object members => .object (fromEntries (membersAsMap f members))

def valuesAsMap (f : JsonNumber → JsonNumber) : List JsonValue → List JsonValue
  | [] => []
  | value :: values => value.asMap f :: valuesAsMap f values

def membersAsMap (f : JsonNumber → JsonNumber) : List (String × JsonValue) → List (String × JsonValue)
  | [] => []
  | (name, value) :: members => (name, value.asMap f) :: membersAsMap f members

end

theorem valuesAsMap_eq (values : List JsonValue) : valuesAsMap f values = values.map (·.asMap f) := by
  induction values with
  | nil => rfl
  | cons value values ih => rw [valuesAsMap, ih, List.map_cons]

theorem membersAsMap_eq (members : List (String × JsonValue)) :
    membersAsMap f members = members.map fun member => (member.1, member.2.asMap f) := by
  induction members with
  | nil => rfl
  | cons member members ih =>
    obtain ⟨name, value⟩ := member
    rw [membersAsMap, ih, List.map_cons]

/-- What holds of the parts of a value that is read, one sort of part at a time. -/
theorem asMap_all {p q : JsonValue → Prop} (hnull : q .null) (hbool : ∀ b, q (.bool b)) (hnumber : ∀ n, p (.number n) → q (.number (f n)))
    (hstring : ∀ s, q (.string s)) (harray : ∀ values, q (.array values))
    (hobject : ∀ members, members.Pairwise (fun a b => a.1 < b.1) → q (.object members)) (h : value.All p) :
    (value.asMap f).All q := by
  induction h with
  | null _ => exact .null hnull
  | bool _ => exact .bool (hbool _)
  | number h => exact .number (hnumber _ h)
  | string _ => exact .string (hstring _)
  | array _ _ ih =>
    rw [JsonValue.asMap, valuesAsMap_eq]
    refine .array (harray _) fun value hvalue => ?_
    obtain ⟨value', hvalue', rfl⟩ := List.mem_map.mp hvalue
    exact ih value' hvalue'
  | object _ _ ih =>
    rw [JsonValue.asMap, membersAsMap_eq]
    refine .object (hobject _ (fromEntries_sorted _)) fun member hmember => ?_
    obtain ⟨member', hmember', rfl⟩ := List.mem_map.mp (mem_fromEntries hmember)
    exact ih member' hmember'

theorem all_true (value : JsonValue) : value.All fun _ => True := by
  induction value using JsonValue.induct with
  | null => exact .null trivial
  | bool _ => exact .bool trivial
  | number _ => exact .number trivial
  | string _ => exact .string trivial
  | array _ ih => exact .array trivial ih
  | object _ ih => exact .object trivial ih

theorem asMap_ordered (value : JsonValue) : (value.asMap f).Ordered := by
  refine asMap_all ?_ ?_ ?_ ?_ ?_ ?_ (all_true value)
  · simp
  · simp
  · simp
  · simp
  · simp
  · intro members hsorted members' heq
    cases heq
    exact hsorted

theorem asMap_numbers {p : JsonNumber → Prop} (hp : ∀ n, p n → p (f n)) (h : value.Numbers p) : (value.asMap f).Numbers p := by
  refine asMap_all ?_ ?_ ?_ ?_ ?_ ?_ h
  · simp
  · simp
  · intro n hn n' heq
    cases heq
    exact hp n (hn n rfl)
  · simp
  · simp
  · simp

theorem asMap_nested {n : Nat} (h : value.Nested n) : (value.asMap f).Nested n := by
  induction h with
  | null => exact .null
  | bool => exact .bool
  | number => exact .number
  | string => exact .string
  | array _ ih =>
    rw [JsonValue.asMap, valuesAsMap_eq]
    refine .array fun value hvalue => ?_
    obtain ⟨value', hvalue', rfl⟩ := List.mem_map.mp hvalue
    exact ih value' hvalue'
  | object _ ih =>
    rw [JsonValue.asMap, membersAsMap_eq]
    refine .object fun member hmember => ?_
    obtain ⟨member', hmember', rfl⟩ := List.mem_map.mp (mem_fromEntries hmember)
    exact ih member' hmember'

theorem asMap_congr {g : JsonNumber → JsonNumber} (h : value.Numbers fun n => f n = g n) : value.asMap f = value.asMap g := by
  induction value using JsonValue.induct with
  | null => rfl
  | bool b => rfl
  | number n => rw [JsonValue.asMap, JsonValue.asMap, h.self n rfl]
  | string s => rfl
  | array values ih =>
    cases h with | array _ hall =>
    rw [JsonValue.asMap, JsonValue.asMap, valuesAsMap_eq, valuesAsMap_eq]
    congr 1
    exact List.map_congr_left fun value hvalue => ih value hvalue (hall value hvalue)
  | object members ih =>
    cases h with | object _ hall =>
    rw [JsonValue.asMap, JsonValue.asMap, membersAsMap_eq, membersAsMap_eq]
    congr 2
    exact List.map_congr_left fun member hmember => by rw [ih member hmember (hall member hmember)]

/-- A value of maps whose numbers `f` keeps is read as itself. -/
theorem asMap_self (hordered : value.Ordered) (hnumbers : value.Numbers fun n => f n = n) : value.asMap f = value := by
  induction value using JsonValue.induct with
  | null => rfl
  | bool b => rfl
  | number n => rw [JsonValue.asMap, hnumbers.self n rfl]
  | string s => rfl
  | array values ih =>
    cases hordered with | array _ hordered =>
    cases hnumbers with | array _ hnumbers =>
    rw [JsonValue.asMap, valuesAsMap_eq]
    have hsame : values.map (·.asMap f) = values.map id :=
      List.map_congr_left fun value hvalue => ih value hvalue (hordered value hvalue) (hnumbers value hvalue)
    rw [hsame, List.map_id]
  | object members ih =>
    cases hordered with | object hsorted hordered =>
    cases hnumbers with | object _ hnumbers =>
    rw [JsonValue.asMap, membersAsMap_eq]
    have hsame : members.map (fun member => (member.1, member.2.asMap f)) = members.map id :=
      List.map_congr_left fun member hmember => by
        rw [ih member hmember (hordered member hmember) (hnumbers member hmember)]
        rfl
    rw [hsame, List.map_id, fromEntries_of_sorted (hsorted members rfl)]

end Reading

/-! ## Values up to the order of members -/

/-- The member that an object has under a name: the last of that name. -/
def memberOf (name : String) (members : List (String × JsonValue)) : Option JsonValue := lookupEntry name members.reverse

/-- The same value, whatever the order of members. -/
inductive JsonValue.Same : JsonValue → JsonValue → Prop
  | null : Same .null .null
  | bool {b : Bool} : Same (.bool b) (.bool b)
  | number {n : JsonNumber} : Same (.number n) (.number n)
  | string {s : String} : Same (.string s) (.string s)
  | array {values values' : List JsonValue} (hlength : values.length = values'.length)
      (h : ∀ (i : Nat) value value', values[i]? = some value → values'[i]? = some value' → Same value value') : Same (.array values) (.array values')
  | object {members members' : List (String × JsonValue)}
      (hnames : ∀ name, (memberOf name members).isSome = (memberOf name members').isSome)
      (h : ∀ name value value', memberOf name members = some value → memberOf name members' = some value' → Same value value') :
      Same (.object members) (.object members')

theorem memberOf_asMap {f : JsonNumber → JsonNumber} (name : String) (members : List (String × JsonValue)) :
    lookupEntry name (membersAsMap f members).reverse = (memberOf name members).map (·.asMap f) := by
  rw [membersAsMap_eq, ← List.map_reverse, lookupEntry_map]
  rfl

theorem memberOf_mem {name : String} {members : List (String × JsonValue)} {value : JsonValue} (h : memberOf name members = some value) :
    (name, value) ∈ members := List.mem_reverse.mp (lookupEntry_mem h)

theorem same_of_asMap (value : JsonValue) : ∀ {value' : JsonValue}, value.asMap id = value'.asMap id → value.Same value' := by
  induction value using JsonValue.induct with
  | null =>
    intro value' h
    cases value' with
    | null => exact .null
    | _ => simp [JsonValue.asMap] at h
  | bool b =>
    intro value' h
    cases value' with
    | bool b' =>
      cases h
      exact .bool
    | _ => simp [JsonValue.asMap] at h
  | number n =>
    intro value' h
    cases value' with
    | number n' =>
      cases h
      exact .number
    | _ => simp [JsonValue.asMap] at h
  | string s =>
    intro value' h
    cases value' with
    | string s' =>
      cases h
      exact .string
    | _ => simp [JsonValue.asMap] at h
  | array values ih =>
    intro value' h
    cases value' with
    | array values' =>
      simp only [JsonValue.asMap, valuesAsMap_eq, JsonValue.array.injEq] at h
      refine .array (by simpa using congrArg List.length h) fun i value value' hvalue hvalue' => ?_
      have hi := congrArg (·[i]?) h
      simp only [List.getElem?_map, hvalue, hvalue', Option.map_some, Option.some.injEq] at hi
      exact ih value (List.mem_of_getElem? hvalue) hi
    | _ => simp [JsonValue.asMap] at h
  | object members ih =>
    intro value' h
    cases value' with
    | object members' =>
      simp only [JsonValue.asMap, JsonValue.object.injEq, fromEntries_eq_iff, memberOf_asMap] at h
      refine .object (fun name => by simpa using congrArg Option.isSome (h name)) fun name value value' hvalue hvalue' => ?_
      have hname := h name
      rw [hvalue, hvalue', Option.map_some, Option.map_some, Option.some.injEq] at hname
      exact ih (name, value) (memberOf_mem hvalue) hname
    | _ => simp [JsonValue.asMap] at h

theorem asMap_of_same {value value' : JsonValue} (h : value.Same value') : value.asMap id = value'.asMap id := by
  induction h with
  | null => rfl
  | bool => rfl
  | number => rfl
  | string => rfl
  | @array values values' hlength _ ih =>
    rw [JsonValue.asMap, JsonValue.asMap, valuesAsMap_eq, valuesAsMap_eq]
    congr 1
    refine List.ext_getElem? fun i => ?_
    rw [List.getElem?_map, List.getElem?_map]
    by_cases hi : i < values.length
    · have hi' : i < values'.length := hlength ▸ hi
      rw [List.getElem?_eq_getElem hi, List.getElem?_eq_getElem hi', Option.map_some, Option.map_some,
        ih i _ _ (List.getElem?_eq_getElem hi) (List.getElem?_eq_getElem hi')]
    · rw [List.getElem?_eq_none (by omega), List.getElem?_eq_none (by omega)]
  | @object members members' hnames _ ih =>
    simp only [JsonValue.asMap, JsonValue.object.injEq, fromEntries_eq_iff, memberOf_asMap]
    intro name
    have hname := hnames name
    cases hm : memberOf name members with
    | none =>
      rw [hm] at hname
      have hm' : memberOf name members' = none := by simpa using hname.symm
      rw [hm']
    | some value =>
      rw [hm] at hname
      obtain ⟨value', hm'⟩ := Option.isSome_iff_exists.mp hname.symm
      rw [hm', Option.map_some, Option.map_some, ih name value value' hm hm']

/-- Kept as maps, two values are one exactly when they are the same up to the order of members. -/
theorem asMap_eq_iff {value value' : JsonValue} : value.asMap id = value'.asMap id ↔ value.Same value' :=
  ⟨same_of_asMap value, asMap_of_same⟩

end GreenTyper.Lib
