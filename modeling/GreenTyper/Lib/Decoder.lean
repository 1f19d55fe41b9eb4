/-
  GreenTyper.Lib.Decoder — decoders over a byte cursor, and what it means that one reads
  an encoding back.

  `Reads d x a` says that wherever the bytes `x` are next, `d` takes exactly them and
  gives `a`. It composes along `>>=` (`Reads.bind`), so a decoder written with `do` reads
  what the encoder of the same shape wrote, field by field. `Takes d P` is the other
  direction: whatever bytes `x` a successful `d` takes, and the value `a` it gives for
  them, satisfy `P x a`.
-/

import GreenTyper.Lib.Bytes
import GreenTyper.Lib.Result
import Mathlib.Data.Finset.Dedup
import Mathlib.Data.Finset.Lattice.Lemmas

namespace GreenTyper.Lib

abbrev Decoder (ε α : Type) := StateT Cursor (Except ε) α

namespace Decoder

variable {ε α β : Type}

/-- `if !c { return Err(e) }` inside a decoder. -/
def check (c : Prop) [Decidable c] (e : ε) : Decoder ε Unit := fun cursor => do
  require c e
  return ((), cursor)

def fail (e : ε) : Decoder ε α := fun _ => .error e

/-- A step that reads nothing. -/
def lift (x : Except ε α) : Decoder ε α := fun cursor => do
  let a ← x
  return (a, cursor)

/-- `n` items, one after the other. -/
def many (item : Decoder ε α) : Nat → Decoder ε (List α)
  | 0 => return []
  | n + 1 => do
    let a ← item
    let as ← many item n
    return a :: as

/-- `n` items into a set; a repeated one fails with `e`. -/
def manyInto [DecidableEq α] (item : Decoder ε α) (e : ε) : Nat → Finset α → Decoder ε (Finset α)
  | 0, set => return set
  | n + 1, set => do
    let a ← item
    check (a ∉ set) e
    manyInto item e n (insert a set)

/-- Where the bytes `x` are next, `d` takes them and gives `a`. -/
def Reads (d : Decoder ε α) (x : List Byte) (a : α) : Prop :=
  ∀ (c : Cursor) (pre r : List Byte), c.body.length < 2 ^ 64 → c.At pre (x ++ r) →
    ∃ c', d c = .ok (a, c') ∧ c'.body = c.body ∧ c'.At (pre ++ x) r

variable {d : Decoder ε α} {x y : List Byte} {a : α}

theorem Reads.pure (a : α) : Reads (pure a : Decoder ε α) [] a := by
  intro c pre r _ hat
  exact ⟨c, rfl, rfl, by simpa using hat⟩

theorem Reads.lift {e : Except ε α} (h : e = .ok a) : Reads (lift e) [] a := by
  subst h
  exact .pure a

theorem Reads.bind {f : α → Decoder ε β} {b : β} (h : Reads d x a) (h' : Reads (f a) y b) : Reads (d >>= f) (x ++ y) b := by
  intro c pre r hlen hat
  rw [List.append_assoc] at hat
  obtain ⟨c1, h1, hb1, hat1⟩ := h _ _ _ hlen hat
  obtain ⟨c2, h2, hb2, hat2⟩ := h' _ _ _ (hb1 ▸ hlen) hat1
  refine ⟨c2, ?_, hb2.trans hb1, by rw [← List.append_assoc]; exact hat2⟩
  show (d c >>= fun p => f p.1 p.2) = _
  rw [h1]
  exact h2

/-- A last step that reads nothing more. -/
theorem Reads.map {f : α → β} (h : Reads d x a) : Reads (do let a ← d; return f a) x (f a) := by
  have := h.bind (f := fun a => Pure.pure (f a)) (Reads.pure (f a))
  rwa [List.append_nil] at this

theorem Reads.check {c : Prop} [Decidable c] (h : c) (e : ε) : Reads (Decoder.check c e) [] () := by
  intro cur pre r _ hat
  refine ⟨cur, ?_, rfl, by simpa using hat⟩
  rw [Decoder.check, require_bind h]
  rfl

/-- A check reads nothing. -/
theorem Reads.check_bind {c : Prop} [Decidable c] (h : c) {e : ε} {f : Unit → Decoder ε α} (h' : Reads (f ()) x a) :
    Reads (Decoder.check c e >>= f) x a := (Reads.check h e).bind h'

theorem Reads.many {item : Decoder ε α} {enc : α → List Byte} {as : List α} (h : ∀ a ∈ as, Reads item (enc a) a) :
    Reads (Decoder.many item as.length) (as.flatMap enc) as := by
  induction as with
  | nil => exact Reads.pure []
  | cons a as ih =>
    obtain ⟨ha, has⟩ := List.forall_mem_cons.mp h
    exact ha.bind ((ih has).map (f := fun as => a :: as))

theorem Reads.manyInto [DecidableEq α] {enc : α → List Byte} (e : ε) {l : List α} (h : ∀ a ∈ l, Reads d (enc a) a)
    (hnodup : l.Nodup) {s : Finset α} (hfresh : ∀ a ∈ l, a ∉ s) :
    Reads (Decoder.manyInto d e l.length s) (l.flatMap enc) (l.toFinset ∪ s) := by
  induction l generalizing s with
  | nil =>
    rw [List.toFinset_nil, Finset.empty_union]
    exact Reads.pure s
  | cons a l ih =>
    obtain ⟨ha, hl⟩ := List.forall_mem_cons.mp h
    obtain ⟨hnot, hnodup⟩ := List.nodup_cons.mp hnodup
    have hrest := ih hl hnodup (s := insert a s) fun b hb => by
      rw [Finset.mem_insert, not_or]
      exact ⟨fun hba => hnot (hba ▸ hb), hfresh b (List.mem_cons_of_mem a hb)⟩
    rw [List.toFinset_cons, Finset.insert_union, ← Finset.union_insert]
    exact ha.bind (Reads.check_bind (hfresh a List.mem_cons_self) hrest)

/-- All of a payload, from its start to its end. -/
theorem Reads.run (h : Reads d x a) (hlen : x.length < 2 ^ 64) : ∃ c, d (Cursor.new x) = .ok (a, c) ∧ c.isEmpty = true := by
  have hat : (Cursor.new x).At [] (x ++ []) := by
    rw [List.append_nil]
    exact Cursor.at_new x
  obtain ⟨c, hc, _, hat'⟩ := h _ _ _ hlen hat
  exact ⟨c, hc, (Cursor.at_isEmpty hat').mpr rfl⟩

/-! ## What a decoder takes -/

def Takes (d : Decoder ε α) (P : List Byte → α → Prop) : Prop :=
  ∀ (c c' : Cursor) (pre r : List Byte) (a : α), c.At pre r → d c = .ok (a, c') →
    ∃ x r', r = x ++ r' ∧ c'.At (pre ++ x) r' ∧ P x a

variable {P Q : List Byte → α → Prop}

theorem Takes.mono (h : Takes d P) (hPQ : ∀ x a, P x a → Q x a) : Takes d Q := by
  intro c c' pre r a hat hd
  obtain ⟨x, r', hr, hat', hx⟩ := h c c' pre r a hat hd
  exact ⟨x, r', hr, hat', hPQ x a hx⟩

theorem Takes.pure (b : α) : Takes (pure b : Decoder ε α) fun x a => x = [] ∧ a = b := by
  intro c c' pre r a hat hd
  cases hd
  exact ⟨[], r, rfl, by simpa using hat, rfl, rfl⟩

theorem Takes.lift (e : Except ε α) : Takes (Decoder.lift e) fun x a => x = [] ∧ e = .ok a := by
  intro c c' pre r a hat hd
  obtain ⟨b, hb, hd⟩ := bind_ok.mp hd
  cases hd
  exact ⟨[], r, rfl, by simpa using hat, rfl, hb⟩

theorem Takes.fail (e : ε) : Takes (Decoder.fail e : Decoder ε α) P := by
  intro c c' pre r a _ hd
  cases hd

theorem Takes.bind {R : α → List Byte → β → Prop} {f : α → Decoder ε β} (h : Takes d P) (h' : ∀ a, Takes (f a) (R a)) :
    Takes (d >>= f) fun z b => ∃ x a y, z = x ++ y ∧ P x a ∧ R a y b := by
  intro c c' pre r b hat hd
  obtain ⟨⟨a, c1⟩, h1, h2⟩ := bind_ok.mp hd
  obtain ⟨x, r1, hr, hat1, hx⟩ := h c c1 pre r a hat h1
  obtain ⟨y, r2, hr1, hat2, hy⟩ := h' a c1 c' _ r1 b hat1 h2
  refine ⟨x ++ y, r2, ?_, ?_, x, a, y, rfl, hx, hy⟩
  · rw [hr, hr1, List.append_assoc]
  · rw [← List.append_assoc]
    exact hat2

theorem Takes.check_bind {c : Prop} [Decidable c] {e : ε} {f : Unit → Decoder ε α} (h : Takes (f ()) P) :
    Takes (Decoder.check c e >>= f) fun x a => c ∧ P x a := by
  intro cur cur' pre r a hat hd
  obtain ⟨⟨_, cur1⟩, h1, h2⟩ := bind_ok.mp hd
  obtain ⟨_, hc, h1⟩ := bind_ok.mp h1
  cases h1
  obtain ⟨x, r', hr, hat', hx⟩ := h cur cur' pre r a hat h2
  exact ⟨x, r', hr, hat', require_ok.mp hc, hx⟩

/-- A last step that reads nothing more. -/
theorem Takes.map {f : α → β} (h : Takes d P) : Takes (do let a ← d; return f a) fun x b => ∃ a, P x a ∧ b = f a := by
  refine (h.bind fun a => Takes.pure (f a)).mono ?_
  rintro z b ⟨x, a, y, rfl, hx, rfl, rfl⟩
  exact ⟨a, by rwa [List.append_nil], rfl⟩

/-- Items that are each the encoding of what they give. -/
theorem Takes.many {enc : α → List Byte} {C : α → Prop} (h : Takes d fun x a => x = enc a ∧ C a) (n : Nat) :
    Takes (Decoder.many d n) fun x as => as.length = n ∧ x = as.flatMap enc ∧ ∀ a ∈ as, C a := by
  induction n with
  | zero =>
    refine (Takes.pure []).mono ?_
    rintro x as ⟨rfl, rfl⟩
    simp
  | succ n ih =>
    refine (h.bind fun a => ih.map (f := fun as => a :: as)).mono ?_
    rintro z as ⟨x, a, y, rfl, ⟨rfl, ha⟩, as', ⟨rfl, rfl, has⟩, rfl⟩
    exact ⟨rfl, rfl, List.forall_mem_cons.mpr ⟨ha, has⟩⟩

theorem Takes.manyInto [DecidableEq α] {enc : α → List Byte} {C : α → Prop} (h : Takes d fun x a => x = enc a ∧ C a) (e : ε)
    (n : Nat) : ∀ s : Finset α, Takes (Decoder.manyInto d e n s) fun x set =>
      ∃ l : List α, l.length = n ∧ l.Nodup ∧ (∀ a ∈ l, a ∉ s) ∧ set = l.toFinset ∪ s ∧ x = l.flatMap enc ∧ ∀ a ∈ l, C a := by
  induction n with
  | zero =>
    intro s
    refine (Takes.pure s).mono ?_
    rintro x set ⟨rfl, rfl⟩
    exact ⟨[], by simp⟩
  | succ n ih =>
    intro s
    refine (h.bind fun a => Takes.check_bind (ih (insert a s))).mono ?_
    rintro z set ⟨x, a, y, rfl, ⟨rfl, ha⟩, hnot, l, rfl, hnodup, hfresh, rfl, rfl, hl⟩
    have hal : a ∉ l := fun hmem => hfresh a hmem (Finset.mem_insert_self a s)
    refine ⟨a :: l, rfl, List.nodup_cons.mpr ⟨hal, hnodup⟩, ?_, ?_, rfl, List.forall_mem_cons.mpr ⟨ha, hl⟩⟩
    · refine List.forall_mem_cons.mpr ⟨hnot, fun b hb hmem => hfresh b hb (Finset.mem_insert_of_mem hmem)⟩
    · rw [List.toFinset_cons, Finset.insert_union, ← Finset.union_insert]

/-- A decoder that took all of a payload. -/
theorem Takes.run (h : Takes d P) {x : List Byte} {c : Cursor} (hd : d (Cursor.new x) = .ok (a, c)) (hempty : c.isEmpty = true) :
    P x a := by
  obtain ⟨y, r, hx, hat, hy⟩ := h _ _ [] x a (Cursor.at_new x) hd
  obtain rfl := (Cursor.at_isEmpty hat).mp hempty
  rw [List.append_nil] at hx
  rwa [hx]

end Decoder

end GreenTyper.Lib
