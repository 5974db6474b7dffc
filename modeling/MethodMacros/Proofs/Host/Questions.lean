import MethodMacros.Proofs.Host.Ensures
import MethodMacros.Proofs.Results

/-!
# Questions

Much of what a command does is looking around.  It asks what paths lead to, reads variables and
files, and tells its user about it.  Such an action changes nothing but the clock and the messages,
and what it finds out does not depend on these.  So it can be read as a plain computation about the
host: `Action.Finds` says which one.

* `Host.Agrees`: two hosts differ in nothing but the clock and the messages.
* `Request.isQuestion`: the requests that keep hosts in agreement; `Host.Agrees.perform` is the
  proof, and says that their answers are the same as well.
* `Finds.bind_ok`, `Finds.bind_error`, `Finds.mapM`, `Finds.forM` and the others: what an action
  finds out is told from what its parts find out.
* `Finds.ensures`: how an action that finds something out ends.

## Why at any time

`Finds a h result` is not about `h` alone.  It says that `a` gives `result` on each host that agrees
with `h`.  When the second of two questions is asked, the clock has gone on since the first and
there may be an entry in the log, and a statement about `h` alone could not be applied to that host.
-/

namespace MethodMacros

/-- A host differs from another one at most in its clock and its messages. -/
def Host.Agrees (h after : Host) : Prop :=
  ∃ clock messages, after = { h with clock := clock, messages := messages }

namespace Host.Agrees

variable {h mid after : Host}

theorem refl (h : Host) : h.Agrees h := ⟨h.clock, h.messages, rfl⟩

theorem trans (hfirst : h.Agrees mid) (hsecond : mid.Agrees after) : h.Agrees after := by
  obtain ⟨_, _, rfl⟩ := hfirst
  obtain ⟨clock, messages, rfl⟩ := hsecond
  exact ⟨clock, messages, rfl⟩

theorem later (h : Host) : h.Agrees h.later := ⟨_, _, rfl⟩

end Host.Agrees

/-- A host with one more entry in its log. -/
def Host.logged (h : Host) (level : Level) (text : String) : Host :=
  { h.later with messages := .log ⟨level, text⟩ :: h.messages }

theorem Host.Agrees.logged (h : Host) (level : Level) (text : String) :
    h.Agrees (h.logged level text) := ⟨_, _, rfl⟩

/-- Something is logged before the rest is done. -/
theorem Action.on_log_bind {ε β : Type} (level : Level) (text : String) (f : Unit → Action ε β)
    (h : Host) : (Action.log level text >>= f).on h = (f ()).on (h.logged level text) :=
  on_bind _ _ _

/-- A request that changes nothing, and whose answer does not depend on the time. -/
def Request.isQuestion : Request → Bool
  | .status _ | .readFile _ | .isRunnable _ | .resolve _ | .variable _ | .standardInput
  | .tell _ => true
  | _ => false

/-- A question is answered alike on hosts that agree, and they still agree then. -/
theorem Host.Agrees.perform {h cur : Host} {r : Request} (hagrees : h.Agrees cur)
    (hr : r.isQuestion = true) :
    (cur.perform r).1 = (h.answer r).1 ∧ h.Agrees (cur.perform r).2 := by
  obtain ⟨clock, messages, rfl⟩ := hagrees
  cases r with
  | status path =>
    rw [Host.perform, Host.answer, Host.answer, Action.answerAt_asked, Action.answerAt_asked]
    exact ⟨rfl, _, _, rfl⟩
  | readFile path =>
    rw [Host.perform, Host.answer, Host.answer, Action.answerAt_asked, Action.answerAt_asked]
    exact ⟨rfl, _, _, rfl⟩
  | isRunnable path => exact ⟨rfl, _, _, rfl⟩
  | resolve path => exact ⟨rfl, _, _, rfl⟩
  | «variable» name => exact ⟨rfl, _, _, rfl⟩
  | standardInput => exact ⟨rfl, _, _, rfl⟩
  | tell message => exact ⟨rfl, _, _, rfl⟩
  | _ => cases hr

/-! ## Finding out -/

instance : LawfulMonad Program :=
  LawfulMonad.mk' _
    (fun p => by
      induction p with
      | done a => rfl
      | ask r next ih => exact congrArg (Program.ask r) (funext ih))
    (fun _ _ => rfl)
    (fun p f g => by
      induction p with
      | done a => rfl
      | ask r next ih => exact congrArg (Program.ask r) (funext ih))

namespace Action

variable {ε ε' α β : Type} {h cur : Host}

/-- An action finds out a result about a host, and changes nothing but the clock and the
messages. -/
def Finds (a : Action ε α) (h : Host) (result : Except ε α) : Prop :=
  ∀ cur, h.Agrees cur → (a.on cur).1 = result ∧ h.Agrees (a.on cur).2

namespace Finds

theorem pure (x : α) : Finds (Pure.pure x : Action ε α) h (.ok x) :=
  fun _ hagrees => ⟨rfl, hagrees⟩

theorem throw (e : ε) : Finds (MonadExcept.throw e : Action ε α) h (.error e) :=
  fun _ hagrees => ⟨rfl, hagrees⟩

/-- A question is answered as a host answers it, and keeps hosts in agreement. -/
theorem request {r : Request} (hr : r.isQuestion = true) :
    Finds (Action.request r : Action ε r.Answer) h (.ok (h.answer r).1) := by
  intro cur hagrees
  obtain ⟨hanswer, hafter⟩ := hagrees.perform hr
  rw [on_request, hanswer]
  exact ⟨rfl, hafter⟩

theorem status (path : String) : Finds (Action.request (.status path) : Action ε _) h
    (.ok (askedAt path (h.files.status h.folder path))) := by
  have hanswer : (h.answer (.status path)).1 = askedAt path (h.files.status h.folder path) :=
    congrArg Prod.fst (answerAt_asked h path _)
  rw [← hanswer]
  exact request rfl

theorem readFile (path : String) : Finds (Action.request (.readFile path) : Action ε _) h
    (.ok (askedAt path (h.files.readFile h.folder path))) := by
  have hanswer : (h.answer (.readFile path)).1 = askedAt path (h.files.readFile h.folder path) :=
    congrArg Prod.fst (answerAt_asked h path _)
  rw [← hanswer]
  exact request rfl

theorem log (level : Level) (text : String) :
    Finds (Action.log level text : Action ε Unit) h (.ok ()) :=
  request rfl

/-- What is found out after something else. -/
theorem bind_ok {a : Action ε α} {f : α → Action ε β} {x : α} {result : Except ε β}
    (ha : a.Finds h (.ok x)) (hf : (f x).Finds h result) : (a >>= f).Finds h result := by
  intro cur hagrees
  obtain ⟨hresult, hafter⟩ := ha cur hagrees
  rw [on_bind_ok hresult]
  exact hf _ hafter

/-- After an error nothing else is found out. -/
theorem bind_error {a : Action ε α} {e : ε} (ha : a.Finds h (.error e)) (f : α → Action ε β) :
    (a >>= f).Finds h (.error e) := by
  intro cur hagrees
  obtain ⟨hresult, hafter⟩ := ha cur hagrees
  rw [on_bind_error hresult]
  exact ⟨rfl, hafter⟩

/-- What two actions find out is what the second finds out with the value of the first. -/
theorem bind {a : Action ε α} {f : α → Action ε β} {result : Except ε α} {g : α → Except ε β}
    (ha : a.Finds h result) (hf : ∀ x, (f x).Finds h (g x)) :
    (a >>= f).Finds h (result >>= g) := by
  cases result with
  | error e => exact ha.bind_error f
  | ok x => exact ha.bind_ok (hf x)

theorem mapError {a : Action ε α} {result : Except ε α} (f : ε → ε') (ha : a.Finds h result) :
    (a.mapError f).Finds h (result.mapError f) := by
  intro cur hagrees
  obtain ⟨hresult, hafter⟩ := ha cur hagrees
  rw [on_mapError, hresult]
  exact ⟨rfl, hafter⟩

/-- Questions that are asked for each entry of a list. -/
theorem mapM {f : α → Action ε β} {g : α → Except ε β} (hf : ∀ x, (f x).Finds h (g x))
    (xs : List α) : (xs.mapM f).Finds h (xs.mapM g) := by
  induction xs with
  | nil => exact pure _
  | cons x xs ih =>
    rw [List.mapM_cons, List.mapM_cons]
    exact bind (hf x) fun _ => bind ih fun _ => pure _

theorem forM {f : α → Action ε PUnit} (hf : ∀ x, (f x).Finds h (.ok ⟨⟩)) (xs : List α) :
    (xs.forM f).Finds h (.ok ⟨⟩) := by
  induction xs with
  | nil => exact pure _
  | cons x xs ih => exact bind (hf x) fun _ => ih

/-- An action that only finds something out ends with it. -/
theorem ensures {a : Action ε α} {result : Except ε α} (ha : a.Finds h result)
    (hagrees : h.Agrees cur) : a.Ensures cur (fun x after => result = .ok x ∧ h.Agrees after)
      fun e after => result = .error e ∧ h.Agrees after := by
  obtain ⟨hresult, hafter⟩ := ha cur hagrees
  unfold Ensures
  rcases hon : a.on cur with ⟨e | x, after⟩
  · rw [hon] at hresult hafter
    exact ⟨hresult.symm, hafter⟩
  · rw [hon] at hresult hafter
    exact ⟨hresult.symm, hafter⟩

end Finds

end Action

end MethodMacros
