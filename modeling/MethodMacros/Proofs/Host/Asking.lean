import MethodMacros.HeaderFile
import MethodMacros.Proofs.Host.Requests

/-!
# Asking what a path leads to

Several commands ask for the kind of an entry before they do anything.  The answer is a truth value,
also where a path leads nowhere; only an error that is no sign of absence is passed on.  In any case
nothing is changed.

* `Host.IsKind`, `Host.Untold`: a path leads to an entry of a kind, and it cannot be told to what it
  leads.
* `ensures_hasKind`: how the question ends.  The answer is yes exactly if the path leads to an entry
  of that kind, and an error means that this cannot be told.
* `Host.tellsKind`, `finds_hasKind`: the same as a computation, for use in longer questions;
  `tellsKind_eq_true` and `tellsKind_eq_error` lead back.
* `looks_hasKind`: the question is looking around.
-/

namespace MethodMacros

/-- A path leads to an entry of a kind. -/
def Host.IsKind (h : Host) (kind : EntryKind) (path : String) : Prop :=
  acceptable path = true ∧ ∃ s, h.files.status h.folder path = .ok s ∧ s.kind = kind

/-- Why it cannot be told what a path leads to, where this is no sign of absence. -/
def Host.Untold (h : Host) (path : String) (e : FileError) : Prop :=
  acceptable path = true ∧ ∃ errno, h.files.status h.folder path = .error errno ∧
    errno.isAbsence = false ∧ e = .refused errno path

open MethodMacros.Action in
/-- Asking for the kind of an entry changes nothing. -/
theorem ensures_hasKind (kind : EntryKind) (p : Path) (h : Host) :
    (hasKind kind p).Ensures h
      (fun b after => after = h.later ∧ (b = true ↔ h.IsKind kind (toString p)))
      fun e after => after = h.later ∧ h.Untold (toString p) e := by
  rw [hasKind, ensures_bind, ensures_status, askedAt]
  cases hpath : acceptable (toString p) with
  | false =>
    refine ⟨rfl, ?_⟩
    simp [Host.IsKind, hpath]
  | true =>
    cases hstatus : h.files.status h.folder (toString p) with
    | ok s =>
      refine ⟨rfl, ?_⟩
      simp [Host.IsKind, hpath, hstatus]
    | error errno =>
      cases habsence : errno.isAbsence with
      | true =>
        simp only [mapError_error, habsence, ↓reduceIte, ensures_pure]
        simp [Host.IsKind, hpath, hstatus]
      | false =>
        simp only [mapError_error, habsence, ↓reduceIte, Bool.false_eq_true, ensures_throw]
        exact ⟨trivial, hpath, errno, hstatus, habsence, rfl⟩

/-- An attempt asks for what is attempted. -/
theorem asks_attempt {kind : Request → Bool} {α : Type}
    {a : Action FileError (Except FileError α)} (ha : a.Asks kind) : (attempt a).Asks kind := by
  refine ha.bind fun answer => ?_
  cases answer with
  | error e => exact .throw e
  | ok x => exact .pure x

open MethodMacros.Action in
/-- Asking for the kind of an entry is asking for one status. -/
theorem asks_hasKind {only : Request → Bool} (kind : EntryKind) {p : Path}
    (hp : only (.status (toString p)) = true) : (hasKind kind p).Asks only := by
  refine .bind (.request hp) fun answer => ?_
  split
  · exact .pure _
  · split
    · exact .pure false
    · exact .throw _
  · exact .pure false

theorem looks_hasKind (kind : EntryKind) (p : Path) : (hasKind kind p).Asks Request.isLooking :=
  asks_hasKind kind rfl

/-! ## As a question -/

/-- What asking for the kind of an entry finds out: a truth value, unless it cannot be told. -/
def Host.tellsKind (h : Host) (kind : EntryKind) (path : String) : Except FileError Bool :=
  match askedAt path (h.files.status h.folder path) with
  | .ok s => .ok (s.kind == kind)
  | .error (.refused e p t) => if e.isAbsence then .ok false else .error (.refused e p t)
  | .error .nullByte => .ok false

open MethodMacros.Action in
/-- The question for a kind finds out what the host tells of the path. -/
theorem finds_hasKind (kind : EntryKind) (p : Path) (h : Host) :
    (hasKind kind p).Finds h (h.tellsKind kind (toString p)) := by
  refine .bind_ok (.status _) ?_
  rw [Host.tellsKind]
  rcases askedAt (toString p) (h.files.status h.folder (toString p)) with e | s
  · rcases e with ⟨errno, path, target⟩ | _
    · cases habsence : errno.isAbsence with
      | true =>
        simp only [habsence, ↓reduceIte]
        exact .pure false
      | false =>
        simp only [habsence, Bool.false_eq_true, ↓reduceIte]
        exact .throw _
    · exact .pure false
  · exact .pure _

section Telling

variable {h : Host} {kind : EntryKind} {path : String}

/-- The answer is yes where the path leads to such an entry. -/
theorem tellsKind_eq_true : h.tellsKind kind path = .ok true ↔ h.IsKind kind path := by
  rw [Host.tellsKind, askedAt, Host.IsKind]
  cases hpath : acceptable path with
  | false => simp
  | true =>
    cases hstatus : h.files.status h.folder path with
    | ok s => simp
    | error errno => cases habsence : errno.isAbsence <;> simp [habsence]

instance (h : Host) (kind : EntryKind) (path : String) : Decidable (h.IsKind kind path) :=
  decidable_of_iff ((h.tellsKind kind path).toOption = some true) <| by
    rw [← tellsKind_eq_true]
    rcases h.tellsKind kind path with e | b <;> simp [Except.toOption]

/-- There is no answer where it cannot be told what the path leads to. -/
theorem tellsKind_eq_error {e : FileError} :
    h.tellsKind kind path = .error e ↔ h.Untold path e := by
  rw [Host.tellsKind, askedAt, Host.Untold]
  cases hpath : acceptable path with
  | false => simp
  | true =>
    cases hstatus : h.files.status h.folder path with
    | ok s => simp
    | error errno =>
      cases habsence : errno.isAbsence <;>
        simp [habsence, @eq_comm _ _ (FileError.refused errno _)]

end Telling

end MethodMacros
