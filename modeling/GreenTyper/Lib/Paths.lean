/-
  GreenTyper.Lib.Paths — values under dotted paths: tables of named fields, nested by name.

  A nest puts the name of a group before the names inside it. Where group names hold no
  dot, what is nested under distinct names stays apart: a nest of functional groups is
  functional (`Functional.nest`), and a map made from a functional list holds exactly the
  entries of the list (`get_ofList`).
-/

import GreenTyper.Lib.OrdMap
import GreenTyper.Lib.Text

namespace GreenTyper.Lib

variable {α β : Type}

/-! ## Dotted names -/

/-- `format!("{head}.{tail}")`. -/
def dotted (head tail : String) : String := head ++ "." ++ tail

/-- `path.split('.')`. -/
def segments (path : String) : List String := (path.toList.splitOn '.').map String.ofList

def NoDot (name : String) : Prop := '.' ∉ name.toList

instance (name : String) : Decidable (NoDot name) := inferInstanceAs (Decidable (_ ∉ _))

theorem dotted_toList (head tail : String) : (dotted head tail).toList = head.toList ++ '.' :: tail.toList := by
  simp [dotted, String.toList_append]

theorem dotted_inj {head head' tail tail' : String} (h : NoDot head) (h' : NoDot head')
    (heq : dotted head tail = dotted head' tail') : head = head' ∧ tail = tail' := by
  have hlist := congrArg String.toList heq
  rw [dotted_toList, dotted_toList] at hlist
  obtain ⟨hhead, htail⟩ := append_sep_inj h h' hlist
  exact ⟨String.toList_inj.mp hhead, String.toList_inj.mp htail⟩

theorem segments_noDot {name : String} (h : NoDot name) : segments name = [name] := by
  have hsplit : name.toList.splitOn '.' = [name.toList] := by
    refine List.splitOnP_eq_singleton fun c hc => ?_
    simp only [beq_eq_false_iff_ne]
    exact fun heq => h (heq ▸ hc)
  rw [segments, hsplit, List.map_singleton, String.ofList_toList]

theorem segments_dotted {head : String} (h : NoDot head) (tail : String) :
    segments (dotted head tail) = head :: segments tail := by
  have hhead : segments head = [head] := segments_noDot h
  have hsplit : (head.toList ++ '.' :: tail.toList).splitOn '.' = head.toList.splitOn '.' ++ tail.toList.splitOn '.' :=
    List.splitOnP_append_cons _ _ (by simp)
  rw [segments, dotted_toList, hsplit, List.map_append]
  show segments head ++ segments tail = _
  rw [hhead]
  rfl

/-- `segments.join(".")`. -/
def joined : List String → String
  | [] => ""
  | [segment] => segment
  | segment :: rest => dotted segment (joined rest)

theorem dotted_assoc (a b c : String) : dotted (dotted a b) c = dotted a (dotted b c) := by
  simp only [dotted, String.append_assoc]

theorem joined_cons (segment : String) {rest : List String} (h : rest ≠ []) : joined (segment :: rest) = dotted segment (joined rest) := by
  cases rest with
  | nil => exact absurd rfl h
  | cons _ _ => rfl

theorem segments_joined {names : List String} (hne : names ≠ []) (h : ∀ name ∈ names, NoDot name) : segments (joined names) = names := by
  induction names with
  | nil => exact absurd rfl hne
  | cons name names ih =>
    have hname := h name List.mem_cons_self
    cases names with
    | nil => exact segments_noDot hname
    | cons name' names =>
      rw [joined_cons name (by simp), segments_dotted hname, ih (by simp) fun n hn => h n (List.mem_cons_of_mem _ hn)]

/-- A path is its segments between dots, and no segment has a dot. -/
theorem segments_spec (path : String) : segments path ≠ [] ∧ (∀ name ∈ segments path, NoDot name) ∧ joined (segments path) = path := by
  have hlist : ∀ (n : Nat) (cs : List Char), cs.length ≤ n → segments (String.ofList cs) ≠ [] ∧
      (∀ name ∈ segments (String.ofList cs), NoDot name) ∧ joined (segments (String.ofList cs)) = String.ofList cs := by
    intro n
    induction n with
    | zero =>
      intro cs hlen
      rw [List.length_eq_zero_iff.mp (Nat.le_zero.mp hlen)]
      decide
    | succ n ih =>
      intro cs hlen
      by_cases hdot : '.' ∈ cs
      · -- The path up to its first dot, and the path after it.
        obtain ⟨head, rest, rfl, hhead⟩ := List.eq_append_cons_of_mem hdot
        have hnodot : NoDot (String.ofList head) := by
          rw [NoDot, String.toList_ofList]
          exact hhead
        have hpath : String.ofList (head ++ '.' :: rest) = dotted (String.ofList head) (String.ofList rest) := by
          apply String.toList_inj.mp
          rw [dotted_toList, String.toList_ofList, String.toList_ofList, String.toList_ofList]
        have hshort : rest.length ≤ n := by
          simp only [List.length_append, List.length_cons] at hlen
          omega
        obtain ⟨hne, hall, hjoin⟩ := ih rest hshort
        rw [hpath, segments_dotted hnodot, joined_cons _ hne, hjoin]
        refine ⟨by simp, fun name hname => ?_, rfl⟩
        rcases List.mem_cons.mp hname with rfl | hname
        · exact hnodot
        · exact hall name hname
      · have hnodot : NoDot (String.ofList cs) := by
          rw [NoDot, String.toList_ofList]
          exact hdot
        rw [segments_noDot hnodot]
        exact ⟨by simp, by simpa using hnodot, rfl⟩
  have := hlist path.toList.length path.toList (Nat.le_refl _)
  rwa [String.ofList_toList] at this

theorem joined_append {names names' : List String} (h : names ≠ []) (h' : names' ≠ []) :
    joined (names ++ names') = dotted (joined names) (joined names') := by
  induction names with
  | nil => exact absurd rfl h
  | cons name names ih =>
    cases names with
    | nil => exact joined_cons name h'
    | cons name' names =>
      rw [List.cons_append, joined_cons name (by simp), ih (by simp), joined_cons name (by simp), dotted_assoc]

/-! ## Functional lists -/

/-- No name has two values. -/
def Functional (es : List (String × α)) : Prop := ∀ k v v', (k, v) ∈ es → (k, v') ∈ es → v = v'

theorem Functional.of_nodup {es : List (String × α)} (h : (es.map (·.1)).Nodup) : Functional es := by
  intro k v v' hv hv'
  have := List.inj_on_of_nodup_map h hv hv' rfl
  exact congrArg Prod.snd this

theorem OrdMap.functional (m : OrdMap String α) : Functional m.entries := by
  intro k v v' hv hv'
  have hget := OrdMap.mem_entries.mp hv
  rw [OrdMap.mem_entries.mp hv'] at hget
  exact (Option.some.inj hget).symm

/-- `collect::<BTreeMap<_, _>>`: of two values under one name the later stays. -/
def OrdMap.ofList (es : List (String × α)) : OrdMap String α := es.foldl (fun m e => m.insert e.1 e.2) .empty

theorem get_foldl_insert {es : List (String × α)} {k : String} {v : α} : ∀ {m : OrdMap String α},
    (es.foldl (fun m e => m.insert e.1 e.2) m).get k = some v → (k, v) ∈ es ∨ m.get k = some v := by
  induction es with
  | nil => exact Or.inr
  | cons e es ih =>
    intro m h
    rcases ih h with hmem | hget
    · exact Or.inl (List.mem_cons_of_mem e hmem)
    · rw [OrdMap.get_insert] at hget
      split at hget
      · rename_i hk
        cases hget
        exact Or.inl (hk ▸ List.mem_cons_self)
      · exact Or.inr hget

theorem mem_of_get_ofList {es : List (String × α)} {k : String} {v : α} (h : (OrdMap.ofList es).get k = some v) :
    (k, v) ∈ es :=
  (get_foldl_insert h).resolve_right (by simp)

theorem keys_foldl_insert {es : List (String × α)} {k : String} : ∀ {m : OrdMap String α},
    (∃ v, (k, v) ∈ es) ∨ (∃ v, m.get k = some v) → ∃ v, (es.foldl (fun m e => m.insert e.1 e.2) m).get k = some v := by
  induction es with
  | nil =>
    intro m h
    exact h.resolve_left (by simp)
  | cons e es ih =>
    intro m h
    refine ih ?_
    by_cases hk : e.1 = k
    · exact Or.inr ⟨e.2, by rw [OrdMap.get_insert, if_pos hk]⟩
    · rcases h with ⟨v, hv⟩ | ⟨v, hv⟩
      · rcases List.mem_cons.mp hv with rfl | hv
        · exact absurd rfl hk
        · exact Or.inl ⟨v, hv⟩
      · exact Or.inr ⟨v, by rw [OrdMap.get_insert, if_neg hk, hv]⟩

theorem get_ofList {es : List (String × α)} (h : Functional es) {k : String} {v : α} :
    (OrdMap.ofList es).get k = some v ↔ (k, v) ∈ es := by
  refine ⟨mem_of_get_ofList, fun hmem => ?_⟩
  obtain ⟨w, hw⟩ : ∃ w, (OrdMap.ofList es).get k = some w := keys_foldl_insert (Or.inl ⟨v, hmem⟩)
  rw [hw, h k v w hmem (mem_of_get_ofList hw)]

theorem rel_ofList {β : Type} {r : String → α → β → Prop} {es : List (String × α)} {es' : List (String × β)}
    (h : List.Forall₂ (fun e e' => e.1 = e'.1 ∧ r e.1 e.2 e'.2) es es') (k : String) :
    Option.Rel (r k) ((OrdMap.ofList es).get k) ((OrdMap.ofList es').get k) :=
  OrdMap.rel_foldl_insert h (fun _ => .none) k

/-! ## Tables of fields -/

/-- The fields of a record, each with its name. -/
abbrev Table (α β : Type) := List (String × (α → Option β))

/-- The fields of a record that have a value. -/
def present (table : Table α β) (a : α) : List (String × β) := table.filterMap fun field => (field.2 a).map (field.1, ·)

theorem mem_present {table : Table α β} {a : α} {k : String} {v : β} :
    (k, v) ∈ present table a ↔ ∃ read, (k, read) ∈ table ∧ read a = some v := by
  simp only [present, List.mem_filterMap, Option.map_eq_some_iff, Prod.mk.injEq, Prod.exists]
  constructor
  · rintro ⟨name, read, hmem, w, hread, rfl, rfl⟩
    exact ⟨read, hmem, hread⟩
  · rintro ⟨read, hmem, hread⟩
    exact ⟨k, read, hmem, v, hread, rfl, rfl⟩

theorem present_functional {table : Table α β} (h : (table.map (·.1)).Nodup) (a : α) : Functional (present table a) := by
  intro k v v' hv hv'
  obtain ⟨read, hmem, hread⟩ := mem_present.mp hv
  obtain ⟨read', hmem', hread'⟩ := mem_present.mp hv'
  have hsame : read = read' := Functional.of_nodup h k read read' hmem hmem'
  rw [hsame, hread'] at hread
  exact (Option.some.inj hread).symm

/-- Records whose fields are related have related fields present. -/
theorem rel_present {r : String → β → β → Prop} {a a' : α} : ∀ {table : Table α β},
    (∀ field ∈ table, Option.Rel (r field.1) (field.2 a) (field.2 a')) →
    List.Forall₂ (fun f f' => f.1 = f'.1 ∧ r f.1 f.2 f'.2) (present table a) (present table a') := by
  intro table
  induction table with
  | nil => exact fun _ => .nil
  | cons field table ih =>
    intro h
    have hfield := h field List.mem_cons_self
    have hrest := ih fun f hf => h f (List.mem_cons_of_mem field hf)
    unfold present at hrest ⊢
    generalize hread : field.2 a = value at hfield
    generalize hread' : field.2 a' = value' at hfield
    cases hfield with
    | none =>
      rw [List.filterMap_cons_none (by rw [hread]; rfl), List.filterMap_cons_none (by rw [hread']; rfl)]
      exact hrest
    | some hvalue =>
      rw [List.filterMap_cons_some (by rw [hread]; rfl), List.filterMap_cons_some (by rw [hread']; rfl)]
      exact .cons ⟨rfl, hvalue⟩ hrest

theorem mem_of_lookup {es : List (String × α)} {k : String} {a : α} (h : es.lookup k = some a) : (k, a) ∈ es := by
  obtain ⟨before, after, rfl, _⟩ := List.lookup_eq_some_iff.mp h
  exact List.mem_append_right _ List.mem_cons_self

/-- What is present under a name is what its field reads. -/
theorem mem_present_lookup {table : Table α β} (hnames : (table.map (·.1)).Nodup) {k : String} {read : α → Option β}
    (h : table.lookup k = some read) {a : α} {v : β} : (k, v) ∈ present table a ↔ read a = some v := by
  rw [mem_present]
  constructor
  · intro hpresent
    obtain ⟨read', hmem, hread⟩ := hpresent
    rwa [Functional.of_nodup hnames k read read' (mem_of_lookup h) hmem]
  · exact fun hread => ⟨read, mem_of_lookup h, hread⟩

/-! ## Nests -/

def nest (groups : List (String × List (String × β))) : List (String × β) :=
  groups.flatMap fun group => group.2.map fun field => (dotted group.1 field.1, field.2)

theorem mem_nest {groups : List (String × List (String × β))} {k : String} {v : β} :
    (k, v) ∈ nest groups ↔ ∃ name fields rest, (name, fields) ∈ groups ∧ (rest, v) ∈ fields ∧ k = dotted name rest := by
  simp only [nest, List.mem_flatMap, List.mem_map, Prod.mk.injEq, Prod.exists]
  constructor
  · rintro ⟨name, fields, hgroup, rest, w, hfield, rfl, rfl⟩
    exact ⟨name, fields, rest, hgroup, hfield, rfl⟩
  · rintro ⟨name, fields, rest, hgroup, hfield, rfl⟩
    exact ⟨name, fields, hgroup, rest, v, hfield, rfl, rfl⟩

/-- Groups with related fields make related nests. -/
theorem rel_nest {r : String → β → β → Prop} {groups groups' : List (String × List (String × β))}
    (h : List.Forall₂ (fun g g' => g.1 = g'.1 ∧
      List.Forall₂ (fun f f' => f.1 = f'.1 ∧ r (dotted g.1 f.1) f.2 f'.2) g.2 g'.2) groups groups') :
    List.Forall₂ (fun f f' => f.1 = f'.1 ∧ r f.1 f.2 f'.2) (nest groups) (nest groups') := by
  induction h with
  | nil => exact .nil
  | @cons g g' _ _ hgroup _ ih =>
    obtain ⟨hname, hfields⟩ := hgroup
    unfold nest at ih ⊢
    rw [List.flatMap_cons, List.flatMap_cons]
    refine List.rel_append ?_ ih
    rw [List.forall₂_map_left_iff, List.forall₂_map_right_iff]
    refine hfields.imp fun f f' hfield => ?_
    obtain ⟨hkey, hvalue⟩ := hfield
    exact ⟨by rw [hname, hkey], hvalue⟩

theorem Functional.nest {groups : List (String × List (String × β))} (hgroups : Functional groups)
    (hnames : ∀ group ∈ groups, NoDot group.1) (hfields : ∀ group ∈ groups, Functional group.2) :
    Functional (nest groups) := by
  intro k v v' hv hv'
  obtain ⟨name, fields, rest, hgroup, hfield, rfl⟩ := mem_nest.mp hv
  obtain ⟨name', fields', rest', hgroup', hfield', heq⟩ := mem_nest.mp hv'
  obtain ⟨rfl, rfl⟩ := dotted_inj (hnames _ hgroup) (hnames _ hgroup') heq
  cases hgroups _ _ _ hgroup hgroup'
  exact hfields _ hgroup _ _ _ hfield hfield'

end GreenTyper.Lib
