/-
  GreenTyper.Lib.OrdMap — a map on ordered keys kept in key order (a `BTreeMap`).

  The entries are a list sorted by key, and the order is a field of the map, so that
  walks over `values` are in key order by construction. Everything a client proves of a
  map goes through `get`: what `insert` does to it, that two maps with the same lookups
  are the same (`ext_get`), and that a walk meets the looked-up values and no others
  (`mem_values`). Counts and sums over the values move by the one value that an
  insertion replaces (`sumBy_insert`, `countP_insert`).
-/

import GreenTyper.Lib.Result
import Mathlib.Algebra.BigOperators.Group.Finset.Basic
import Mathlib.Algebra.GroupWithZero.Nat
import Mathlib.Order.Defs.LinearOrder

namespace GreenTyper.Lib

variable {κ α : Type} [LinearOrder κ]

/-! ## Entry lists -/

def lookupEntry (k : κ) : List (κ × α) → Option α
  | [] => none
  | e :: es => if e.1 = k then some e.2 else lookupEntry k es

def insertEntry (k : κ) (v : α) : List (κ × α) → List (κ × α)
  | [] => [(k, v)]
  | e :: es => if k < e.1 then (k, v) :: e :: es else if e.1 = k then (k, v) :: es else e :: insertEntry k v es

theorem mem_insertEntry {k : κ} {v : α} {x : κ × α} {es : List (κ × α)} (h : x ∈ insertEntry k v es) :
    x = (k, v) ∨ x ∈ es := by
  induction es with
  | nil => simpa [insertEntry] using h
  | cons e es ih =>
    unfold insertEntry at h
    split at h
    · simpa using h
    · split at h
      · rcases List.mem_cons.mp h with h | h
        · exact Or.inl h
        · exact Or.inr (List.mem_cons_of_mem e h)
      · rcases List.mem_cons.mp h with h | h
        · exact Or.inr (h ▸ List.mem_cons_self)
        · exact (ih h).imp_right (List.mem_cons_of_mem e)

theorem insertEntry_sorted {k : κ} {v : α} {es : List (κ × α)} (h : es.Pairwise (fun a b => a.1 < b.1)) :
    (insertEntry k v es).Pairwise (fun a b => a.1 < b.1) := by
  induction es with
  | nil => simp [insertEntry]
  | cons e es ih =>
    obtain ⟨he, hes⟩ := List.pairwise_cons.mp h
    unfold insertEntry
    split
    · rename_i hlt
      refine List.pairwise_cons.mpr ⟨fun x hx => ?_, h⟩
      rcases List.mem_cons.mp hx with rfl | hx
      · exact hlt
      · exact lt_trans hlt (he x hx)
    · split
      · rename_i heq
        exact List.pairwise_cons.mpr ⟨fun x hx => heq ▸ he x hx, hes⟩
      · rename_i hge hne
        refine List.pairwise_cons.mpr ⟨fun x hx => ?_, ih hes⟩
        rcases mem_insertEntry hx with rfl | hx
        · exact lt_of_le_of_ne (not_lt.mp hge) hne
        · exact he x hx

theorem lookupEntry_mem {k : κ} {v : α} {es : List (κ × α)} (h : lookupEntry k es = some v) : (k, v) ∈ es := by
  induction es with
  | nil => cases h
  | cons e es ih =>
    unfold lookupEntry at h
    split at h
    · rename_i hk
      cases h
      exact List.mem_cons.mpr (Or.inl (Prod.ext hk.symm rfl))
    · exact List.mem_cons_of_mem e (ih h)

theorem lookupEntry_of_mem {k : κ} {v : α} {es : List (κ × α)} (hs : es.Pairwise (fun a b => a.1 < b.1))
    (h : (k, v) ∈ es) : lookupEntry k es = some v := by
  induction es with
  | nil => cases h
  | cons e es ih =>
    obtain ⟨he, hes⟩ := List.pairwise_cons.mp hs
    unfold lookupEntry
    rcases List.mem_cons.mp h with rfl | h
    · simp
    · rw [if_neg (ne_of_lt (he _ h)), ih hes h]

theorem lookupEntry_insertEntry (k k' : κ) (v : α) (es : List (κ × α)) :
    lookupEntry k' (insertEntry k v es) = if k = k' then some v else lookupEntry k' es := by
  induction es with
  | nil => simp [insertEntry, lookupEntry]
  | cons e es ih =>
    unfold insertEntry
    split
    · rfl
    · split
      · rename_i heq
        simp only [lookupEntry, heq]
        split <;> rfl
      · rename_i hne
        simp only [lookupEntry, ih]
        split
        · rename_i he
          rw [if_neg (fun h => hne (he.trans h.symm))]
        · rfl

/-! ## Maps -/

structure OrdMap (κ α : Type) [LinearOrder κ] where
  entries : List (κ × α)
  sorted : entries.Pairwise (fun a b => a.1 < b.1)
  deriving DecidableEq

namespace OrdMap

def empty : OrdMap κ α := ⟨[], .nil⟩

def get (m : OrdMap κ α) (k : κ) : Option α := lookupEntry k m.entries

def contains (m : OrdMap κ α) (k : κ) : Bool := (m.get k).isSome

def insert (m : OrdMap κ α) (k : κ) (v : α) : OrdMap κ α := ⟨insertEntry k v m.entries, insertEntry_sorted m.sorted⟩

def keys (m : OrdMap κ α) : List κ := m.entries.map (·.1)

def values (m : OrdMap κ α) : List α := m.entries.map (·.2)

def size (m : OrdMap κ α) : Nat := m.entries.length

@[simp] theorem get_empty (k : κ) : (empty : OrdMap κ α).get k = none := rfl
@[simp] theorem values_empty : (empty : OrdMap κ α).values = [] := rfl
@[simp] theorem keys_empty : (empty : OrdMap κ α).keys = [] := rfl

theorem get_insert (m : OrdMap κ α) (k k' : κ) (v : α) : (m.insert k v).get k' = if k = k' then some v else m.get k' :=
  lookupEntry_insertEntry k k' v m.entries

@[simp] theorem get_insert_self (m : OrdMap κ α) (k : κ) (v : α) : (m.insert k v).get k = some v := by
  simp [get_insert]

theorem get_insert_ne (m : OrdMap κ α) {k k' : κ} (v : α) (h : k ≠ k') : (m.insert k v).get k' = m.get k' := by
  simp [get_insert, h]

theorem contains_iff {m : OrdMap κ α} {k : κ} : m.contains k = true ↔ ∃ v, m.get k = some v := Option.isSome_iff_exists

theorem mem_entries {m : OrdMap κ α} {k : κ} {v : α} : (k, v) ∈ m.entries ↔ m.get k = some v :=
  ⟨lookupEntry_of_mem m.sorted, lookupEntry_mem⟩

/-- A walk over the values meets what can be looked up. -/
theorem mem_values {m : OrdMap κ α} {v : α} : v ∈ m.values ↔ ∃ k, m.get k = some v := by
  simp only [values, List.mem_map, Prod.exists, exists_eq_right, mem_entries]

theorem mem_keys {m : OrdMap κ α} {k : κ} : k ∈ m.keys ↔ ∃ v, m.get k = some v := by
  simp only [keys, List.mem_map, Prod.exists, mem_entries]
  exact ⟨fun ⟨_, v, h, rfl⟩ => ⟨v, h⟩, fun ⟨v, h⟩ => ⟨k, v, h, rfl⟩⟩

theorem keys_sorted (m : OrdMap κ α) : m.keys.Pairwise (· < ·) := List.pairwise_map.mpr m.sorted

/-- Two lists in one strict order with the same members are the same. -/
theorem pairwise_ext {β : Type} {r : β → β → Prop} (irrefl : ∀ a, ¬ r a a) (asymm : ∀ a b, r a b → ¬ r b a)
    {as bs : List β} (ha : as.Pairwise r) (hb : bs.Pairwise r) (h : ∀ e, e ∈ as ↔ e ∈ bs) : as = bs := by
  induction as generalizing bs with
  | nil =>
    cases bs with
    | nil => rfl
    | cons b bs => exact absurd ((h b).mpr List.mem_cons_self) (by simp)
  | cons a as ih =>
    cases bs with
    | nil => exact absurd ((h a).mp List.mem_cons_self) (by simp)
    | cons b bs =>
      obtain ⟨ha1, ha2⟩ := List.pairwise_cons.mp ha
      obtain ⟨hb1, hb2⟩ := List.pairwise_cons.mp hb
      -- The least members are the same: each is in the other list.
      have hab : a = b := by
        rcases List.mem_cons.mp ((h a).mp List.mem_cons_self) with hab | hab
        · exact hab
        rcases List.mem_cons.mp ((h b).mpr List.mem_cons_self) with hba | hba
        · exact hba.symm
        · exact absurd (hb1 a hab) (asymm a b (ha1 b hba))
      subst hab
      congr 1
      refine ih ha2 hb2 fun e => ⟨fun he => ?_, fun he => ?_⟩
      · rcases List.mem_cons.mp ((h e).mp (List.mem_cons_of_mem a he)) with rfl | hm
        · exact absurd (ha1 e he) (irrefl e)
        · exact hm
      · rcases List.mem_cons.mp ((h e).mpr (List.mem_cons_of_mem a he)) with rfl | hm
        · exact absurd (hb1 e he) (irrefl e)
        · exact hm

theorem ext_get {m m' : OrdMap κ α} (h : ∀ k, m.get k = m'.get k) : m = m' := by
  cases m with | mk es hs =>
  cases m' with | mk es' hs' =>
  congr 1
  refine pairwise_ext (fun a => lt_irrefl a.1) (fun a b => lt_asymm) hs hs' fun ⟨k, v⟩ => ?_
  have this : lookupEntry k es = lookupEntry k es' := h k
  exact ⟨fun he => lookupEntry_mem (this ▸ lookupEntry_of_mem hs he),
    fun he => lookupEntry_mem (this ▸ lookupEntry_of_mem hs' he)⟩

theorem insert_insert (m : OrdMap κ α) (k : κ) (v w : α) : (m.insert k v).insert k w = m.insert k w := by
  apply ext_get
  intro k'
  simp only [get_insert]
  split <;> rfl

theorem insert_get {m : OrdMap κ α} {k : κ} {v : α} (h : m.get k = some v) : m.insert k v = m := by
  refine ext_get fun k' => ?_
  rw [get_insert]
  split
  · rename_i hk
    rw [← hk, h]
  · rfl

theorem mem_keys_insert {m : OrdMap κ α} {k k' : κ} {v : α} : k' ∈ (m.insert k v).keys ↔ k' = k ∨ k' ∈ m.keys := by
  simp only [mem_keys, get_insert]
  split
  · rename_i h
    exact ⟨fun _ => Or.inl h.symm, fun _ => ⟨v, rfl⟩⟩
  · rename_i h
    exact ⟨Or.inr, fun hk => hk.resolve_left fun he => h he.symm⟩

theorem keys_insert_some {m : OrdMap κ α} {k : κ} {w : α} (h : m.get k = some w) (v : α) : (m.insert k v).keys = m.keys := by
  refine pairwise_ext lt_irrefl (fun _ _ => lt_asymm) (keys_sorted _) (keys_sorted _) fun k' => ?_
  rw [mem_keys_insert]
  exact ⟨fun hk => hk.elim (fun he => he ▸ mem_keys.mpr ⟨w, h⟩) id, Or.inr⟩

theorem keys_insert_last {m : OrdMap κ α} {k : κ} (h : ∀ k' ∈ m.keys, k' < k) (v : α) :
    (m.insert k v).keys = m.keys ++ [k] := by
  refine pairwise_ext lt_irrefl (fun _ _ => lt_asymm) (keys_sorted _) ?_ fun k' => ?_
  · exact List.pairwise_append.mpr ⟨keys_sorted m, List.pairwise_singleton _ k, fun a ha b hb =>
      (List.mem_singleton.mp hb) ▸ h a ha⟩
  · rw [mem_keys_insert, List.mem_append, List.mem_singleton, or_comm]

/-- `retain`, by the values. -/
def retain (m : OrdMap κ α) (p : α → Bool) : OrdMap κ α := ⟨m.entries.filter fun e => p e.2, m.sorted.filter _⟩

/-- `remove(k)`: the map without the key. -/
def erase (m : OrdMap κ α) (k : κ) : OrdMap κ α := ⟨m.entries.filter fun e => e.1 ≠ k, m.sorted.filter _⟩

theorem get_retain (m : OrdMap κ α) (p : α → Bool) (k : κ) : (m.retain p).get k = (m.get k).filter p := by
  refine Option.ext fun v => ?_
  rw [Option.filter_eq_some_iff, ← mem_entries, ← mem_entries, retain, List.mem_filter]

theorem retain_insert_neg {m : OrdMap κ α} {p : α → Bool} {k : κ} {v : α} (h : p v = false) (hget : m.get k = none) :
    (m.insert k v).retain p = m.retain p := by
  refine ext_get fun k' => ?_
  rw [get_retain, get_retain, get_insert]
  split
  · rename_i hk
    rw [← hk, hget, Option.filter_some, if_neg (by simp [h])]
    rfl
  · rfl

/-! ## Entries with a default, and walks over another map -/

/-- `entry(k).or_insert(d)`, changed by `f`. -/
def upsert (m : OrdMap κ α) (k : κ) (d : α) (f : α → α) : OrdMap κ α := m.insert k (f ((m.get k).getD d))

theorem get_upsert (m : OrdMap κ α) (k k' : κ) (d : α) (f : α → α) :
    (m.upsert k d f).get k' = if k = k' then some (f ((m.get k).getD d)) else m.get k' := by
  rw [upsert, get_insert]

/-- `for (k, v) in other { g(m.entry(k).or_insert(d), v) }`. -/
def mergeWith (m : OrdMap κ α) (d : α) (g : α → α → α) (other : OrdMap κ α) : OrdMap κ α :=
  other.entries.foldl (fun m e => m.upsert e.1 d (g · e.2)) m

theorem get_foldl_upsert (d : α) (g : α → α → α) (es : List (κ × α)) (hs : es.Pairwise (fun a b => a.1 < b.1)) :
    ∀ (m : OrdMap κ α) (k : κ), (es.foldl (fun m e => m.upsert e.1 d (g · e.2)) m).get k =
      (lookupEntry k es).elim (m.get k) (fun v => some (g ((m.get k).getD d) v)) := by
  induction es with
  | nil =>
    intro m k
    rfl
  | cons e es ih =>
    intro m k
    obtain ⟨he, hes⟩ := List.pairwise_cons.mp hs
    rw [List.foldl_cons, ih hes, get_upsert, lookupEntry]
    by_cases hk : e.1 = k
    · -- The key of the first entry is met in no later one.
      have hnone : lookupEntry k es = none := by
        cases h : lookupEntry k es with
        | none => rfl
        | some v => exact absurd (he _ (lookupEntry_mem h)) (by rw [hk]; exact lt_irrefl _)
      rw [hnone, if_pos hk, if_pos hk, hk]
      rfl
    · rw [if_neg hk, if_neg hk]

theorem get_mergeWith (m : OrdMap κ α) (d : α) (g : α → α → α) (other : OrdMap κ α) (k : κ) :
    (m.mergeWith d g other).get k = (other.get k).elim (m.get k) (fun v => some (g ((m.get k).getD d) v)) :=
  get_foldl_upsert d g other.entries other.sorted m k

/-- Merging by key is associative where merging two values is, and the default adds nothing. -/
theorem mergeWith_assoc {d : α} {g : α → α → α} (hd : ∀ a, g d a = a) (hg : ∀ a b c, g (g a b) c = g a (g b c))
    (m other third : OrdMap κ α) : (m.mergeWith d g other).mergeWith d g third = m.mergeWith d g (other.mergeWith d g third) := by
  refine ext_get fun k => ?_
  simp only [get_mergeWith]
  cases third.get k with
  | none => rfl
  | some c =>
    cases other.get k with
    | none => exact congrArg (fun v => some (g _ v)) (hd c).symm
    | some b => exact congrArg some (hg _ b c)

theorem mergeWith_self {d : α} {g : α → α → α} (hg : ∀ a, g a a = a) (m : OrdMap κ α) : m.mergeWith d g m = m := by
  refine ext_get fun k => ?_
  rw [get_mergeWith]
  cases m.get k with
  | none => rfl
  | some a => exact congrArg some (hg a)

/-! ## Overlays -/

theorem get_foldl_inserts {β : Type} (f : κ → α → β) {es : List (κ × α)} (hs : es.Pairwise (fun a b => a.1 < b.1)) :
    ∀ (m : OrdMap κ β) (k : κ),
      (es.foldl (fun m e => m.insert e.1 (f e.1 e.2)) m).get k = ((lookupEntry k es).map (f k)).or (m.get k) := by
  induction es with
  | nil =>
    intro m k
    rfl
  | cons e es ih =>
    intro m k
    obtain ⟨he, hes⟩ := List.pairwise_cons.mp hs
    rw [List.foldl_cons, ih hes, get_insert, lookupEntry]
    by_cases hk : e.1 = k
    · have hnone : lookupEntry k es = none := by
        cases h : lookupEntry k es with
        | none => rfl
        | some v => exact absurd (he _ (lookupEntry_mem h)) (by rw [hk]; exact lt_irrefl _)
      rw [hnone, if_pos hk, if_pos hk, hk]
      rfl
    · rw [if_neg hk, if_neg hk]

/-- The entries of another map, put over those of this one. -/
def overlay (m other : OrdMap κ α) : OrdMap κ α := other.entries.foldl (fun m e => m.insert e.1 e.2) m

theorem get_overlay (m other : OrdMap κ α) (k : κ) : (m.overlay other).get k = (other.get k).or (m.get k) := by
  rw [overlay, get_foldl_inserts (fun _ v => v) other.sorted m k, Option.map_id']
  rfl

/-- `range(lower..upper)`: the values under the keys of a half-open interval, in key order. -/
def range (m : OrdMap κ α) (lower upper : κ) : List α :=
  (m.entries.filter (fun e => lower ≤ e.1 ∧ e.1 < upper)).map (·.2)

/-! ## Sums and counts over the values -/

def sumBy (m : OrdMap κ α) (g : α → Nat) : Nat := (m.values.map g).sum

theorem sum_insertEntry (g : α → Nat) (k : κ) (v : α) (es : List (κ × α))
    (hs : es.Pairwise (fun a b => a.1 < b.1)) :
    ((insertEntry k v es).map (fun e => g e.2)).sum + (match lookupEntry k es with | some w => g w | none => 0) =
      (es.map (fun e => g e.2)).sum + g v := by
  induction es with
  | nil => simp [insertEntry, lookupEntry]
  | cons e es ih =>
    obtain ⟨he, hes⟩ := List.pairwise_cons.mp hs
    have ih := ih hes
    unfold insertEntry
    split
    · rename_i hlt
      have hnone : lookupEntry k (e :: es) = none := by
        cases h : lookupEntry k (e :: es) with
        | none => rfl
        | some w =>
          have hmem := lookupEntry_mem h
          rcases List.mem_cons.mp hmem with rfl | hmem
          · exact absurd hlt (lt_irrefl _)
          · exact absurd (lt_trans hlt (he _ hmem)) (lt_irrefl _)
      rw [hnone]
      simp only [List.map_cons, List.sum_cons]
      omega
    · split
      · rename_i heq
        simp only [lookupEntry, heq, if_true, List.map_cons, List.sum_cons]
        omega
      · rename_i hne
        simp only [lookupEntry, if_neg hne, List.map_cons, List.sum_cons]
        omega

/-- A sum over the values moves by the replaced value. -/
theorem sumBy_insert (m : OrdMap κ α) (g : α → Nat) (k : κ) (v : α) :
    (m.insert k v).sumBy g + (match m.get k with | some w => g w | none => 0) = m.sumBy g + g v := by
  simp only [sumBy, values, List.map_map]
  exact sum_insertEntry g k v m.entries m.sorted

theorem sumBy_insert_some {m : OrdMap κ α} {k : κ} {w : α} (h : m.get k = some w) (g : α → Nat) (v : α) :
    (m.insert k v).sumBy g + g w = m.sumBy g + g v := by
  have := m.sumBy_insert g k v
  rwa [h] at this

theorem sumBy_insert_none {m : OrdMap κ α} {k : κ} (h : m.get k = none) (g : α → Nat) (v : α) :
    (m.insert k v).sumBy g = m.sumBy g + g v := by
  have := m.sumBy_insert g k v
  rwa [h] at this

theorem sumBy_eq_zero {m : OrdMap κ α} {g : α → Nat} (h : ∀ k v, m.get k = some v → g v = 0) : m.sumBy g = 0 := by
  have hall : ∀ x ∈ m.values.map g, x = 0 := by
    intro x hx
    obtain ⟨v, hv, rfl⟩ := List.mem_map.mp hx
    obtain ⟨k, hk⟩ := mem_values.mp hv
    exact h k v hk
  unfold sumBy
  generalize m.values.map g = xs at hall
  induction xs with
  | nil => rfl
  | cons x xs ih =>
    rw [List.sum_cons, hall x List.mem_cons_self, ih fun y hy => hall y (List.mem_cons_of_mem x hy)]

/-- A sum over the values, as a sum over the keys. -/
theorem sumBy_eq_sum (m : OrdMap κ α) (g : α → Nat) : m.sumBy g = ∑ k ∈ m.keys.toFinset, (m.get k).elim 0 g := by
  rw [List.sum_toFinset _ (List.Pairwise.imp ne_of_lt m.keys_sorted)]
  simp only [sumBy, values, keys, List.map_map]
  refine congrArg List.sum (List.map_congr_left fun e he => ?_)
  have hget : m.get e.1 = some e.2 := mem_entries.mp he
  simp only [Function.comp_apply, hget, Option.elim_some]

theorem countP_eq_sumBy (m : OrdMap κ α) (p : α → Bool) : m.values.countP p = m.sumBy (fun v => if p v then 1 else 0) := by
  unfold sumBy
  induction m.values with
  | nil => rfl
  | cons v vs ih =>
    simp only [List.countP_cons, ih, List.map_cons, List.sum_cons]
    omega

theorem countP_insert {m : OrdMap κ α} {k : κ} {w : α} (h : m.get k = some w) (p : α → Bool) (v : α) :
    (m.insert k v).values.countP p + (if p w then 1 else 0) = m.values.countP p + (if p v then 1 else 0) := by
  simp only [countP_eq_sumBy]
  exact sumBy_insert_some h _ v

theorem countP_insert_none {m : OrdMap κ α} {k : κ} (h : m.get k = none) (p : α → Bool) (v : α) :
    (m.insert k v).values.countP p = m.values.countP p + (if p v then 1 else 0) := by
  simp only [countP_eq_sumBy]
  exact sumBy_insert_none h _ v

/-! ## Related maps -/

/-- Maps with related values under the same keys have related entries, one by one. -/
theorem entries_relAt {β : Type} {r : κ → α → β → Prop} {m : OrdMap κ α} {m' : OrdMap κ β}
    (h : ∀ k, Option.Rel (r k) (m.get k) (m'.get k)) :
    List.Forall₂ (fun e e' => e.1 = e'.1 ∧ r e.1 e.2 e'.2) m.entries m'.entries := by
  have hkeys : m.keys = m'.keys := by
    refine pairwise_ext (fun a => lt_irrefl a) (fun a b => lt_asymm) m.keys_sorted m'.keys_sorted fun k => ?_
    rw [mem_keys, mem_keys]
    have hk := h k
    cases hget : m.get k with
    | none =>
      rw [hget] at hk
      cases hk' : m'.get k with
      | none => simp
      | some w =>
        rw [hk'] at hk
        cases hk
    | some v =>
      rw [hget] at hk
      cases hk' : m'.get k with
      | none =>
        rw [hk'] at hk
        cases hk
      | some w => simp
  have hsame : List.Forall₂ (fun e e' => e.1 = e'.1) m.entries m'.entries := by
    rw [keys, keys, ← List.forall₂_eq_eq_eq, List.forall₂_map_left_iff, List.forall₂_map_right_iff] at hkeys
    exact hkeys
  have hvalues : ∀ {es : List (κ × α)} {es' : List (κ × β)}, List.Forall₂ (fun e e' => e.1 = e'.1) es es' →
      (∀ e ∈ es, m.get e.1 = some e.2) → (∀ e ∈ es', m'.get e.1 = some e.2) →
      List.Forall₂ (fun e e' => e.1 = e'.1 ∧ r e.1 e.2 e'.2) es es' := by
    intro es es' hes
    induction hes with
    | nil => exact fun _ _ => .nil
    | @cons e e' _ _ hkey _ ih =>
      intro hall hall'
      have hk := h e.1
      rw [hall _ List.mem_cons_self, hkey, hall' _ List.mem_cons_self] at hk
      cases hk with
      | some hrel =>
        exact .cons ⟨hkey, hkey ▸ hrel⟩ (ih (fun e he => hall e (List.mem_cons_of_mem _ he)) fun e he => hall' e (List.mem_cons_of_mem _ he))
  exact hvalues hsame (fun _ he => mem_entries.mp he) fun _ he => mem_entries.mp he

theorem entries_rel {β : Type} {r : α → β → Prop} {m : OrdMap κ α} {m' : OrdMap κ β} (h : ∀ k, Option.Rel r (m.get k) (m'.get k)) :
    List.Forall₂ (fun e e' => e.1 = e'.1 ∧ r e.2 e'.2) m.entries m'.entries :=
  entries_relAt h

/-- Related entries make related maps. -/
theorem rel_foldl_insert {β : Type} {r : κ → α → β → Prop} {es : List (κ × α)} {es' : List (κ × β)}
    (hes : List.Forall₂ (fun e e' => e.1 = e'.1 ∧ r e.1 e.2 e'.2) es es') : ∀ {m : OrdMap κ α} {m' : OrdMap κ β},
    (∀ k, Option.Rel (r k) (m.get k) (m'.get k)) →
    ∀ k, Option.Rel (r k) ((es.foldl (fun m e => m.insert e.1 e.2) m).get k) ((es'.foldl (fun m e => m.insert e.1 e.2) m').get k) := by
  induction hes with
  | nil => exact fun h => h
  | @cons e e' es es' hhead _ ih =>
    intro m m' h
    refine ih fun k => ?_
    obtain ⟨hkey, hvalue⟩ := hhead
    rw [get_insert, get_insert, ← hkey]
    by_cases hk : e.1 = k
    · rw [if_pos hk, if_pos hk]
      exact .some (hk ▸ hvalue)
    · rw [if_neg hk, if_neg hk]
      exact h k

theorem rel_mergeWith {r : α → α → Prop} {d : α} {g : α → α → α} {m m' other other' : OrdMap κ α} (hd : r d d)
    (hg : ∀ {a a' b b'}, r a a' → r b b' → r (g a b) (g a' b')) (h : ∀ k, Option.Rel r (m.get k) (m'.get k))
    (hother : ∀ k, Option.Rel r (other.get k) (other'.get k)) (k : κ) :
    Option.Rel r ((m.mergeWith d g other).get k) ((m'.mergeWith d g other').get k) := by
  rw [get_mergeWith, get_mergeWith]
  have hk := h k
  have hover := hother k
  generalize m.get k = base at hk ⊢
  generalize m'.get k = base' at hk ⊢
  generalize other.get k = above at hover ⊢
  generalize other'.get k = above' at hover ⊢
  have hbase : r (base.getD d) (base'.getD d) := by
    cases hk with
    | some hbase => exact hbase
    | none => exact hd
  cases hover with
  | some hover => exact .some (hg hbase hover)
  | none => exact hk

/-! ## Fallible walks -/

/-- `for (k, v) in &mut m { *v = f(k, v)? }`. -/
def mapM {ε β : Type} (m : OrdMap κ α) (f : κ → α → Except ε β) : Except ε (OrdMap κ β) :=
  m.entries.foldlM (fun done e => do return done.insert e.1 (← f e.1 e.2)) .empty

theorem get_foldlM {ε β : Type} {f : κ → α → Except ε β} {es : List (κ × α)} (hs : es.Pairwise (fun a b => a.1 < b.1)) :
    ∀ {done done' : OrdMap κ β}, es.foldlM (fun done e => do return done.insert e.1 (← f e.1 e.2)) done = .ok done' →
      ∀ k, (lookupEntry k es = none ∧ done'.get k = done.get k) ∨
        ∃ v w, lookupEntry k es = some v ∧ f k v = .ok w ∧ done'.get k = some w := by
  induction es with
  | nil =>
    intro done done' h k
    cases h
    exact Or.inl ⟨rfl, rfl⟩
  | cons e es ih =>
    intro done done' h k
    obtain ⟨he, hes⟩ := List.pairwise_cons.mp hs
    simp only [List.foldlM_cons, bind_ok, pure, Except.pure, Except.ok.injEq] at h
    obtain ⟨_, ⟨w, hw, rfl⟩, hrest⟩ := h
    by_cases hk : e.1 = k
    · have hnone : lookupEntry k es = none := by
        cases hl : lookupEntry k es with
        | none => rfl
        | some v => exact absurd (he _ (lookupEntry_mem hl)) (by rw [hk]; exact lt_irrefl _)
      rcases ih hes hrest k with ⟨_, hget⟩ | ⟨v, _, hl, _⟩
      · refine Or.inr ⟨e.2, w, ?_, hk ▸ hw, ?_⟩
        · rw [lookupEntry, if_pos hk]
        · rw [hget, get_insert, if_pos hk]
      · rw [hnone] at hl
        cases hl
    · have hl : lookupEntry k (e :: es) = lookupEntry k es := by rw [lookupEntry, if_neg hk]
      rw [hl]
      rcases ih hes hrest k with ⟨hno, hget⟩ | hsome
      · exact Or.inl ⟨hno, by rw [hget, get_insert, if_neg hk]⟩
      · exact Or.inr hsome

theorem get_mapM {ε β : Type} {f : κ → α → Except ε β} {m : OrdMap κ α} {m' : OrdMap κ β} (h : m.mapM f = .ok m') (k : κ) :
    (m.get k = none ∧ m'.get k = none) ∨ ∃ v w, m.get k = some v ∧ f k v = .ok w ∧ m'.get k = some w :=
  get_foldlM m.sorted h k

theorem foldlM_isOk {ε β : Type} {f : κ → α → Except ε β} {es : List (κ × α)} (h : ∀ e ∈ es, ∃ w, f e.1 e.2 = .ok w) :
    ∀ done : OrdMap κ β, ∃ m', es.foldlM (fun done e => do return done.insert e.1 (← f e.1 e.2)) done = .ok m' := by
  induction es with
  | nil => exact fun done => ⟨done, rfl⟩
  | cons e es ih =>
    intro done
    obtain ⟨w, hw⟩ := h e List.mem_cons_self
    obtain ⟨m', hm'⟩ := ih (fun x hx => h x (List.mem_cons_of_mem e hx)) (done.insert e.1 w)
    refine ⟨m', ?_⟩
    rw [List.foldlM_cons, hw]
    exact hm'

theorem mapM_isOk {ε β : Type} {f : κ → α → Except ε β} {m : OrdMap κ α} (h : ∀ k v, m.get k = some v → ∃ w, f k v = .ok w) :
    ∃ m', m.mapM f = .ok m' :=
  foldlM_isOk (fun e he => h e.1 e.2 (mem_entries.mp he)) .empty

end OrdMap

end GreenTyper.Lib
