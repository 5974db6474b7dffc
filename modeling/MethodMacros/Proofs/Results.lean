/-!
# Results that are values or errors

What is known of a computation that may fail, once its outcome is known.

* `bind_eq_ok`, `mapError_eq_ok`, `eq_error_of_map`: an outcome is taken apart.
* `eq_ok_of_toOption`, `exists_ok_of_toOption`, `ne_ok_of_toOption`: an outcome is found by
  evaluation.  Results of programs have no decidable equality in general, but their values do.
* `findM?_eq_some`, `findM?_eq_none`, `findM?_eq_error`: a search through a list whose test may
  fail; `findM?_eq_find?` is the case in which it does not.
* `exists_mapM_eq_error`, `exists_eq_error_of_mapM`: a list of computations fails if one of them
  does.
-/

namespace MethodMacros

variable {ε α β : Type}

@[simp] theorem ok_bind (a : α) (f : α → Except ε β) : (Except.ok a >>= f) = f a := rfl

@[simp] theorem error_bind (e : ε) (f : α → Except ε β) : (Except.error e >>= f) = .error e := rfl

@[simp] theorem mapError_ok {ε' : Type} (a : α) (f : ε → ε') :
    (Except.ok a).mapError f = .ok a := rfl

@[simp] theorem mapError_error {ε' : Type} (e : ε) (f : ε → ε') :
    (Except.error e : Except ε α).mapError f = .error (f e) := rfl

/-- What the value of two steps is like. -/
theorem exists_bind_eq_ok {x : Except ε α} {f : α → Except ε β} {P : β → Prop} :
    (∃ b, (x >>= f) = .ok b ∧ P b) ↔ ∃ a, x = .ok a ∧ ∃ b, f a = .ok b ∧ P b := by
  cases x with
  | error e => simp
  | ok a => simp

theorem exists_pure_eq_ok {a : α} {P : α → Prop} :
    (∃ b, (pure a : Except ε α) = .ok b ∧ P b) ↔ P a := by
  simp [pure, Except.pure]

/-- Giving errors another form does not turn them into values. -/
theorem mapError_eq_ok {ε' : Type} {x : Except ε α} {f : ε → ε'} {a : α} :
    x.mapError f = .ok a ↔ x = .ok a := by
  cases x with
  | error e => simp
  | ok b => simp

/-- A computation that succeeds does so in each of its steps. -/
theorem bind_eq_ok {x : Except ε α} {f : α → Except ε β} {b : β} (h : x.bind f = .ok b) :
    ∃ a, x = .ok a ∧ f a = .ok b := by
  cases x with
  | error e => cases h
  | ok a => exact ⟨a, rfl, h⟩

/-- What is made of a value is no error. -/
theorem eq_error_of_map {f : α → β} {x : Except ε α} {e : ε} (h : f <$> x = .error e) :
    x = .error e := by
  cases x with
  | error e' => exact congrArg Except.error (Except.error.inj h)
  | ok a => cases h

theorem eq_ok_of_toOption {x : Except ε α} {a : α} (h : x.toOption = some a) : x = .ok a := by
  cases x with
  | error e => cases h
  | ok b => exact congrArg Except.ok (Option.some.inj h)

theorem exists_ok_of_toOption {x : Except ε α} (h : x.toOption.isSome = true) : ∃ a, x = .ok a := by
  obtain ⟨a, ha⟩ := Option.isSome_iff_exists.mp h
  exact ⟨a, eq_ok_of_toOption ha⟩

theorem ne_ok_of_toOption {x : Except ε α} (h : x.toOption.isNone = true) (a : α) :
    x ≠ .ok a := by
  rintro rfl
  cases h

/-! ## Going through a list -/

/-- A search in two lists is one in the first and, if nothing is found there, one in the second. -/
theorem findM?_append {p : α → Except ε Bool} (xs ys : List α) :
    (xs ++ ys).findM? p = xs.findM? p >>= fun found =>
      match found with
      | some x => .ok (some x)
      | none => ys.findM? p := by
  induction xs with
  | nil => rfl
  | cons x xs ih =>
    rw [List.cons_append, List.findM?, List.findM?, ih]
    rcases p x with _ | _ | _ <;> rfl

/-- What is found is one of those that were searched, and has passed its test. -/
theorem findM?_eq_some {p : α → Except ε Bool} {xs : List α} {x : α}
    (h : xs.findM? p = .ok (some x)) : x ∈ xs ∧ p x = .ok true := by
  induction xs with
  | nil => cases h
  | cons y ys ih =>
    rw [List.findM?] at h
    rcases hy : p y with e | _ | _
    · rw [hy] at h
      cases h
    · rw [hy] at h
      obtain ⟨hmem, hx⟩ := ih h
      exact ⟨List.mem_cons_of_mem y hmem, hx⟩
    · rw [hy] at h
      cases h
      exact ⟨List.mem_cons_self, hy⟩

/-- Where no test fails that is made, the first that passes is found. -/
theorem findM?_eq_find? {p : α → Except ε Bool} {q : α → Bool} {xs : List α}
    (hq : ∀ x b, p x = .ok b → q x = b) (hfails : ∀ e, xs.findM? p ≠ .error e) :
    xs.findM? p = .ok (xs.find? q) := by
  induction xs with
  | nil => rfl
  | cons x xs ih =>
    rw [List.findM?] at hfails ⊢
    rw [List.find?_cons]
    cases hx : p x with
    | error e =>
      rw [hx] at hfails
      exact absurd rfl (hfails e)
    | ok found =>
      rw [hx] at hfails
      rw [hq x found hx]
      cases found with
      | true => rfl
      | false => exact ih hfails

/-- Nothing is found where each test says no. -/
theorem findM?_eq_none {p : α → Except ε Bool} {xs : List α} :
    xs.findM? p = .ok none ↔ ∀ x ∈ xs, p x = .ok false := by
  induction xs with
  | nil => simp [List.findM?, pure, Except.pure]
  | cons x xs ih =>
    rw [List.findM?, List.forall_mem_cons, ← ih]
    rcases p x with _ | _ | _ <;> simp [pure, Except.pure]

/-- A search fails at the first test that fails, if the tests before it say no. -/
theorem findM?_eq_error {p : α → Except ε Bool} {xs : List α} {e : ε} :
    xs.findM? p = .error e ↔ ∃ before x rest, xs = before ++ x :: rest ∧
      (∀ y ∈ before, p y = .ok false) ∧ p x = .error e := by
  induction xs with
  | nil => simp [List.findM?, pure, Except.pure]
  | cons x xs ih =>
    rw [List.findM?]
    constructor
    · intro hsearch
      cases hx : p x with
      | error e' =>
        rw [hx] at hsearch
        obtain rfl := Except.error.inj hsearch
        exact ⟨[], x, xs, rfl, by simp, hx⟩
      | ok b =>
        rw [hx] at hsearch
        cases b with
        | true => cases hsearch
        | false =>
          obtain ⟨before, y, rest, rfl, hbefore, hy⟩ := ih.mp hsearch
          exact ⟨x :: before, y, rest, rfl, List.forall_mem_cons.mpr ⟨hx, hbefore⟩, hy⟩
    · rintro ⟨before, y, rest, hxs, hbefore, hy⟩
      cases before with
      | nil =>
        obtain ⟨rfl, rfl⟩ := List.cons.inj hxs
        rw [hy]
        rfl
      | cons z before =>
        obtain ⟨rfl, rfl⟩ := List.cons.inj hxs
        obtain ⟨hz, hbefore⟩ := List.forall_mem_cons.mp hbefore
        rw [hz]
        exact ih.mpr ⟨before, y, rest, rfl, hbefore, hy⟩

/-- Going through a list fails only if it fails so for one of its members. -/
theorem exists_eq_error_of_mapM {f : α → Except ε β} {xs : List α} {e : ε}
    (h : xs.mapM f = .error e) : ∃ x ∈ xs, f x = .error e := by
  induction xs with
  | nil => cases h
  | cons x xs ih =>
    rw [List.mapM_cons] at h
    cases hx : f x with
    | error e' =>
      rw [hx] at h
      obtain rfl := Except.error.inj h
      exact ⟨x, List.mem_cons_self, hx⟩
    | ok y =>
      rw [hx, ok_bind] at h
      cases hxs : xs.mapM f with
      | error e' =>
        rw [hxs] at h
        obtain rfl := Except.error.inj h
        obtain ⟨z, hz, heq⟩ := ih hxs
        exact ⟨z, List.mem_cons_of_mem x hz, heq⟩
      | ok ys =>
        rw [hxs] at h
        cases h

/-- Going through a list fails if it fails for one of its members. -/
theorem exists_mapM_eq_error {f : α → Except ε β} {xs : List α} {x : α} {e : ε} (hx : x ∈ xs)
    (h : f x = .error e) : ∃ first, xs.mapM f = .error first := by
  induction xs with
  | nil => cases hx
  | cons y ys ih =>
    rw [List.mapM_cons]
    cases hy : f y with
    | error e' => exact ⟨e', rfl⟩
    | ok b =>
      rcases List.mem_cons.mp hx with rfl | hmem
      · cases h.symm.trans hy
      · obtain ⟨first, hfirst⟩ := ih hmem
        exact ⟨first, by rw [hfirst]; rfl⟩

end MethodMacros
