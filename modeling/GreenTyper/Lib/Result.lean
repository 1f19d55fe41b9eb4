/-
  GreenTyper.Lib.Result — fallible code: `Except` with the early return of a failed
  check (`require`) and of an absent value (`okOr`), and checked additions.

  A function written with these is peeled apart from its result: `bind_ok` turns
  `x >>= f = ok b` into the value `x` gave and the rest, `require_ok` a passed check
  into the fact it checked.
-/

import Mathlib.Algebra.GroupWithZero.Nat
import Mathlib.Data.List.Forall2

namespace GreenTyper.Lib

variable {ε α β : Type}

/-- `if !c { return Err(e) }`. -/
def require (c : Prop) [Decidable c] (e : ε) : Except ε Unit := if c then .ok () else .error e

/-- `o.ok_or(e)?`. -/
def okOr (o : Option α) (e : ε) : Except ε α :=
  match o with
  | some a => .ok a
  | none => .error e

/-- `a.checked_add(b)` at `bits` bits. -/
def checkedAdd (bits a b : Nat) : Option Nat := if a + b < 2 ^ bits then some (a + b) else none

/-- `a.checked_mul(b)` at `bits` bits. -/
def checkedMul (bits a b : Nat) : Option Nat := if a * b < 2 ^ bits then some (a * b) else none

/-- `a.checked_sub(b)`. -/
def checkedSub (a b : Nat) : Option Nat := if b ≤ a then some (a - b) else none

@[simp] theorem require_ok {c : Prop} [Decidable c] {e : ε} {u : Unit} : require c e = .ok u ↔ c := by
  unfold require; split <;> simp_all

@[simp] theorem require_error {c : Prop} [Decidable c] {e e' : ε} : require c e = .error e' ↔ ¬ c ∧ e = e' := by
  unfold require; split <;> simp_all

@[simp] theorem okOr_ok {o : Option α} {e : ε} {a : α} : okOr o e = .ok a ↔ o = some a := by
  cases o <;> simp [okOr]

@[simp] theorem okOr_some (a : α) (e : ε) : okOr (some a) e = .ok a := rfl

@[simp] theorem checkedAdd_some {bits a b c : Nat} : checkedAdd bits a b = some c ↔ a + b < 2 ^ bits ∧ c = a + b := by
  unfold checkedAdd
  split
  · simp_all [eq_comm]
  · simp; omega

theorem checkedMul_eq (bits a b : Nat) : checkedMul bits a b = if a * b < 2 ^ bits then some (a * b) else none := rfl

@[simp] theorem checkedSub_some {a b c : Nat} : checkedSub a b = some c ↔ a = b + c := by
  unfold checkedSub
  split
  · rw [Option.some.injEq]
    omega
  · constructor
    · intro h
      cases h
    · omega

/-- Adding up with checks gives the exact sum or nothing. -/
theorem checkedSum_eq {bits : Nat} (l : List Nat) : ∀ {a : Nat}, a < 2 ^ bits →
    l.foldlM (checkedAdd bits) a = if a + l.sum < 2 ^ bits then some (a + l.sum) else none := by
  induction l with
  | nil =>
    intro a ha
    rw [List.sum_nil, Nat.add_zero, if_pos ha]
    rfl
  | cons n l ih =>
    intro a ha
    rw [List.foldlM_cons, List.sum_cons]
    by_cases hn : a + n < 2 ^ bits
    · rw [checkedAdd_some.mpr ⟨hn, rfl⟩]
      show l.foldlM (checkedAdd bits) (a + n) = _
      rw [ih hn, Nat.add_assoc]
    · rw [checkedAdd, if_neg hn, if_neg (by omega)]
      rfl

theorem bind_ok {x : Except ε α} {f : α → Except ε β} {b : β} :
    x >>= f = .ok b ↔ ∃ a, x = .ok a ∧ f a = .ok b := by
  cases x <;> simp [bind, Except.bind]

theorem exists_unit {p : Unit → Prop} : (∃ u, p u) ↔ p () := ⟨fun ⟨_, h⟩ => h, fun h => ⟨(), h⟩⟩

/-- A check before the rest. -/
theorem seq_ok {x : Except ε Unit} {f : Unit → Except ε β} {b : β} : x >>= f = .ok b ↔ x = .ok () ∧ f () = .ok b := by
  rw [bind_ok]
  exact ⟨fun ⟨_, h⟩ => h, fun h => ⟨(), h⟩⟩

@[simp] theorem ok_bind (a : α) (f : α → Except ε β) : (Except.ok a >>= f) = f a := rfl

@[simp] theorem error_bind (e : ε) (f : α → Except ε β) : (Except.error e >>= f) = .error e := rfl

theorem require_bind {c : Prop} [Decidable c] (h : c) (e : ε) (f : Unit → Except ε β) : (require c e >>= f) = f () := by
  simp [require, h]

theorem require_bind_neg {c : Prop} [Decidable c] (h : ¬ c) (e : ε) (f : Unit → Except ε β) :
    (require c e >>= f) = .error e := by
  simp [require, h]

theorem bind_error {x : Except ε α} {f : α → Except ε β} {e : ε} :
    x >>= f = .error e ↔ x = .error e ∨ ∃ a, x = .ok a ∧ f a = .error e := by
  cases x <;> simp [bind, Except.bind]

/-- A loop of checks passes when each of them does. -/
theorem forM_ok {f : α → Except ε Unit} {l : List α} : l.forM f = .ok () ↔ ∀ x ∈ l, f x = .ok () := by
  induction l with
  | nil => simp [pure, Except.pure]
  | cons x l ih =>
    rw [List.forall_mem_cons, ← ih]
    show (f x >>= fun _ => l.forM f) = .ok () ↔ _
    rw [bind_ok]
    exact ⟨fun ⟨_, h⟩ => h, fun h => ⟨(), h⟩⟩

theorem forM_congr {f : α → Except ε Unit} {g : β → Except ε Unit} {l : List α} {l' : List β}
    (h : List.Forall₂ (fun a b => f a = g b) l l') : l.forM f = l'.forM g := by
  induction h with
  | nil => rfl
  | @cons a b l l' hhead _ ih =>
    show (f a >>= fun _ => l.forM f) = (g b >>= fun _ => l'.forM g)
    rw [hhead, ih]

/-- Two computations that agree in what is used of their values. -/
theorem bind_of_map {γ : Type} {x x' : Except ε α} {use : α → γ} {f f' : α → Except ε β} (h : use <$> x = use <$> x')
    (hf : ∀ a a', use a = use a' → f a = f' a') : x >>= f = x' >>= f' := by
  cases x with
  | error e =>
    cases x' with
    | error e' =>
      have herror : e = e' := Except.error.inj h
      rw [herror, error_bind, error_bind]
    | ok a' => cases h
  | ok a =>
    cases x' with
    | error e' => cases h
    | ok a' => exact hf a a' (Except.ok.inj h)

/-- A loop that collects gives each member's value in its place. -/
theorem mapM_ok {f : α → Except ε β} (l : List α) : ∀ {bs : List β}, l.mapM f = .ok bs ↔
    List.Forall₂ (fun a b => f a = .ok b) l bs := by
  induction l with
  | nil => simp [pure, Except.pure, eq_comm]
  | cons a l ih =>
    intro bs
    simp only [List.mapM_cons, bind_ok, pure, Except.pure, Except.ok.injEq, ih, List.forall₂_cons_left_iff]
    exact ⟨fun ⟨b, hb, cs, hcs, h⟩ => ⟨b, cs, hb, hcs, h.symm⟩, fun ⟨b, cs, hb, hcs, h⟩ => ⟨b, hb, cs, hcs, h.symm⟩⟩

theorem mapM_congr {β' : Type} {f : α → Except ε β'} {g : β → Except ε β'} {l : List α} {l' : List β}
    (h : List.Forall₂ (fun a b => f a = g b) l l') : l.mapM f = l'.mapM g := by
  induction h with
  | nil => rfl
  | cons hhead _ ih => rw [List.mapM_cons, List.mapM_cons, hhead, ih]

theorem mapM_length {f : α → Except ε β} (l : List α) {bs : List β} (h : l.mapM f = .ok bs) : bs.length = l.length :=
  ((mapM_ok l).mp h).length_eq.symm

theorem mapM_isOk {f : α → Except ε β} {l : List α} (h : ∀ a ∈ l, ∃ b, f a = .ok b) : ∃ bs, l.mapM f = .ok bs := by
  induction l with
  | nil => exact ⟨[], rfl⟩
  | cons a l ih =>
    obtain ⟨b, hb⟩ := h a List.mem_cons_self
    obtain ⟨bs, hbs⟩ := ih fun x hx => h x (List.mem_cons_of_mem a hx)
    exact ⟨b :: bs, (mapM_ok _).mpr (.cons hb ((mapM_ok l).mp hbs))⟩

/-- Each member of a collecting loop has its value in the result. -/
theorem mapM_value {f : α → Except ε β} {l : List α} {bs : List β} (h : l.mapM f = .ok bs) {a : α} (ha : a ∈ l) :
    ∃ b ∈ bs, f a = .ok b := by
  have hall := (mapM_ok l).mp h
  induction hall with
  | nil => cases ha
  | cons hab hrest ih =>
    rcases List.mem_cons.mp ha with rfl | ha
    · exact ⟨_, List.mem_cons_self, hab⟩
    · obtain ⟨b, hb, hfb⟩ := ih ((mapM_ok _).mpr hrest) ha
      exact ⟨b, List.mem_cons_of_mem _ hb, hfb⟩

/-- Each value in the result is that of a member. -/
theorem mapM_member {f : α → Except ε β} {l : List α} {bs : List β} (h : l.mapM f = .ok bs) {b : β} (hb : b ∈ bs) :
    ∃ a ∈ l, f a = .ok b := by
  have hall := (mapM_ok l).mp h
  induction hall with
  | nil => cases hb
  | cons hab hrest ih =>
    rcases List.mem_cons.mp hb with rfl | hb
    · exact ⟨_, List.mem_cons_self, hab⟩
    · obtain ⟨a, ha, hfa⟩ := ih ((mapM_ok _).mpr hrest) hb
      exact ⟨a, List.mem_cons_of_mem _ ha, hfa⟩

/-- A loop that succeeds keeps up with one that cannot fail, when each step does. -/
theorem foldlM_keeps {σ τ : Type} {step : σ → α → Except ε σ} {f : τ → α → τ} {R : σ → τ → Prop}
    (hstep : ∀ s t a s', R s t → step s a = .ok s' → R s' (f t a)) :
    ∀ (l : List α) {s s' : σ} {t : τ}, R s t → l.foldlM step s = .ok s' → R s' (l.foldl f t) := by
  intro l
  induction l with
  | nil =>
    intro s s' t h hok
    cases hok
    exact h
  | cons a l ih =>
    intro s s' t h hok
    rw [List.foldlM_cons, bind_ok] at hok
    obtain ⟨s1, h1, hok⟩ := hok
    exact ih (hstep s t a s1 h h1) hok

/-- A loop over an optional value passes when its check does. -/
theorem option_forM_ok {f : α → Except ε Unit} {o : Option α} : o.forM f = .ok () ↔ ∀ a, o = some a → f a = .ok () := by
  cases o with
  | none => simp [Option.forM, pure, Except.pure]
  | some a => simp [Option.forM]

/-- `Option::transpose`. -/
def transpose : Option (Except ε α) → Except ε (Option α)
  | none => .ok none
  | some (.ok a) => .ok (some a)
  | some (.error e) => .error e

theorem transpose_ok {x : Option (Except ε α)} {r : Option α} :
    transpose x = .ok r ↔ (x = none ∧ r = none) ∨ ∃ a, x = some (.ok a) ∧ r = some a := by
  cases x with
  | none => simp [transpose, eq_comm]
  | some x => cases x <;> simp [transpose, eq_comm]

theorem ok_mapError {ε' : Type} (a : α) (f : ε → ε') : (Except.ok a).mapError f = .ok a := rfl

theorem mapError_ok {ε' : Type} {f : ε → ε'} {x : Except ε α} {a : α} : x.mapError f = .ok a ↔ x = .ok a := by
  cases x with
  | ok b =>
    show Except.ok b = Except.ok a ↔ Except.ok b = Except.ok a
    simp
  | error e =>
    show Except.error (f e) = Except.ok a ↔ Except.error e = Except.ok a
    simp

/-- The call returned a value with `p`. -/
def okAnd (x : Except ε α) (p : α → Bool) : Bool :=
  match x with
  | .ok a => p a
  | .error _ => false

theorem okAnd_iff {x : Except ε α} {p : α → Bool} : okAnd x p = true ↔ ∃ a, x = .ok a ∧ p a = true := by
  cases x <;> simp [okAnd]

/-! ## Two runs -/

/-- Both succeed, with values that are related, or both fail with one error. -/
inductive Both (r : α → β → Prop) : Except ε α → Except ε β → Prop where
  | ok {a : α} {b : β} (h : r a b) : Both r (.ok a) (.ok b)
  | error (e : ε) : Both r (.error e) (.error e)

namespace Both

variable {γ δ : Type} {r : α → β → Prop} {s : γ → δ → Prop} {x : Except ε α} {y : Except ε β}

theorem bind {f : α → Except ε γ} {g : β → Except ε δ} (h : Both r x y)
    (hf : ∀ a b, x = .ok a → y = .ok b → r a b → Both s (f a) (g b)) : Both s (x >>= f) (y >>= g) := by
  cases h with
  | ok hvalue => exact hf _ _ rfl rfl hvalue
  | error e => exact .error e

theorem imp {s : α → β → Prop} (h : Both r x y) (hrs : ∀ a b, r a b → s a b) : Both s x y := by
  cases h with
  | ok hvalue => exact .ok (hrs _ _ hvalue)
  | error e => exact .error e

theorem refl {r : α → α → Prop} (hr : ∀ a, r a a) (x : Except ε α) : Both r x x := by
  cases x with
  | ok a => exact .ok (hr a)
  | error e => exact .error e

theorem eq {x y : Except ε α} (h : Both Eq x y) : x = y := by
  cases h with
  | ok hvalue => rw [hvalue]
  | error e => rfl

/-- Both succeed or both fail, with one error. -/
theorem of_map {x y : Except ε α} (h : (fun _ => ()) <$> x = (fun _ => ()) <$> y) : Both (fun _ _ => True) x y := by
  cases x with
  | ok a =>
    cases y with
    | ok b => exact .ok trivial
    | error e => cases h
  | error e =>
    cases y with
    | ok b => cases h
    | error e' =>
      have herror : e = e' := Except.error.inj h
      exact herror ▸ .error e

theorem values {a : α} {b : β} (h : Both r x y) (hx : x = .ok a) (hy : y = .ok b) : r a b := by
  cases h with
  | ok hvalue =>
    cases hx
    cases hy
    exact hvalue
  | error e => cases hx

theorem okOr {o : Option α} {o' : Option β} (h : Option.Rel r o o') (e : ε) : Both r (okOr o e) (Lib.okOr o' e) := by
  cases h with
  | none => exact .error e
  | some hvalue => exact .ok hvalue

end Both

end GreenTyper.Lib
