import MethodMacros.Host.Basic

/-!
# How actions end

An action that is carried out on a host ends with a value or with an error, and leaves a host
behind.  `Action.on` gives this end, and `Action.Ensures` says what holds in either case.  It is
taken apart along the action, so a statement about a long action is proved from one statement for
each of its requests.

* `on_bind`, `on_bind_ok`, `on_bind_error`: the second of two actions starts where the first ended
  with a value; it is not carried out after an error.
* `ensures_pure`, `ensures_throw`, `ensures_request`, `ensures_bind`, `ensures_mapError`,
  `ensures_outcome`: one equivalence for each way to build an action.  As rules for `simp` they turn
  a statement about an action into what has to be shown of its requests.
* `Ensures.imp`, `Ensures.and`, `Ensures.of_ok`, `Ensures.of_error`: how such statements are used.

## Requests about a path

A request that changes files has three kinds of answers, which `Effected` lists: the change was
made, the operating system refused it, or the path was not taken at all.  Only the first changes
more than the clock.  `effected_answerAt` says that there is no fourth kind, so a proof about such a
request has three cases and never looks at how a host answers.

## Other statements about actions

`Ensures` knows a single run, and of this only the end.  Whatever needs another point of view has a
predicate of its own, with rules for the same ways to build an action.

* `Action.Finds` (in `Questions`): an action that only looks around is a computation about the host.
* `Action.Asks` (in `Requests`): all requests are of some kind, whatever they are answered.
* `Action.Throughout` (in `Runs`): what holds whenever something is asked for, and at the end, if
  the answers are given by someone else.
* `Action.Yields` and `Action.StartsOnly` (in `Endings`): what holds of a value, and what is
  started, however long things take and whatever tools do.
* `Action.Timeless` (in `Timeless`): two runs side by side, which differ in times only.
-/

namespace MethodMacros

/-- A host one request later, if the request changes nothing. -/
def Host.later (h : Host) : Host := { h with clock := h.clock + Host.tick }

theorem Host.perform_eq (h : Host) (r : Request) :
    h.perform r = ((h.answer r).1, (h.answer r).2.later) := rfl

/-- The answer to a question about a path. -/
def askedAt {α : Type} (path : String) (result : Except Errno α) : Except FileError α :=
  if acceptable path then result.mapError (.refused · path) else .error .nullByte

/-- Changing the value at the end of a program changes nothing on the way. -/
theorem Program.run_map {α β : Type} (f : α → β) (p : Program α) (h : Host) :
    (f <$> p).run h = (f (p.run h).1, (p.run h).2) :=
  Program.run_bind p (fun a => .done (f a)) h

namespace Action

variable {ε ε' α β : Type} {h : Host}

/-- What an action gives on a host, and what it leaves. -/
def on (a : Action ε α) (h : Host) : Except ε α × Host := a.run.run h

/-- An action ends in one of two ways: with a value, or with an error. -/
def Ensures (a : Action ε α) (h : Host) (ok : α → Host → Prop) (failed : ε → Host → Prop) : Prop :=
  match a.on h with
  | (.ok x, after) => ok x after
  | (.error e, after) => failed e after

variable {ok : α → Host → Prop} {failed : ε → Host → Prop}

/-- What is ensured may be weakened. -/
theorem Ensures.imp {a : Action ε α} {ok' : α → Host → Prop} {failed' : ε → Host → Prop}
    (ha : a.Ensures h ok failed) (hok : ∀ x after, ok x after → ok' x after)
    (hfailed : ∀ e after, failed e after → failed' e after) : a.Ensures h ok' failed' := by
  unfold Ensures at *
  split at ha <;> rename_i heq
  · exact hok _ _ ha
  · exact hfailed _ _ ha

/-- What is ensured twice is ensured together. -/
theorem Ensures.and {a : Action ε α} {ok' : α → Host → Prop} {failed' : ε → Host → Prop}
    (ha : a.Ensures h ok failed) (ha' : a.Ensures h ok' failed') :
    a.Ensures h (fun x after => ok x after ∧ ok' x after)
      fun e after => failed e after ∧ failed' e after := by
  unfold Ensures at *
  rcases hon : a.on h with ⟨_ | _, after⟩
  · rw [hon] at ha ha'
    exact ⟨ha, ha'⟩
  · rw [hon] at ha ha'
    exact ⟨ha, ha'⟩

/-- What an action ensures holds of the value that it ends with. -/
theorem Ensures.of_ok {a : Action ε α} {x : α} {after : Host} (ha : a.Ensures h ok failed)
    (hon : a.on h = (.ok x, after)) : ok x after := by
  rw [Ensures, hon] at ha
  exact ha

/-- What an action ensures holds of the error that it ends with. -/
theorem Ensures.of_error {a : Action ε α} {e : ε} {after : Host} (ha : a.Ensures h ok failed)
    (hon : a.on h = (.error e, after)) : failed e after := by
  rw [Ensures, hon] at ha
  exact ha

/-! ## Putting actions together -/

@[simp] theorem ensures_pure (x : α) :
    (pure x : Action ε α).Ensures h ok failed ↔ ok x h := Iff.rfl

@[simp] theorem ensures_throw (e : ε) :
    (throw e : Action ε α).Ensures h ok failed ↔ failed e h := Iff.rfl

theorem on_request (r : Request) (h : Host) :
    (request r : Action ε r.Answer).on h = (.ok (h.perform r).1, (h.perform r).2) := rfl

/-- After an action that ends with an error nothing more is done. -/
theorem on_bind (a : Action ε α) (f : α → Action ε β) (h : Host) :
    (a >>= f).on h = match a.on h with
      | (.ok x, after) => (f x).on after
      | (.error e, after) => (.error e, after) := by
  have hrun := Program.run_bind a.run (ExceptT.bindCont f) h
  have hleft : (a >>= f).on h = (a.run.bind (ExceptT.bindCont f)).run h := rfl
  rw [hleft, hrun]
  unfold on
  rcases a.run.run h with ⟨_ | _, after⟩ <;> rfl

/-- What an action gives, and the host that it leaves. -/
theorem on_eq_of_fst {a : Action ε α} {x : Except ε α} (ha : (a.on h).1 = x) :
    a.on h = (x, (a.on h).2) := Prod.ext ha rfl

/-- After a value the second of two actions is carried out, on the host that the first has left. -/
theorem on_bind_ok {a : Action ε α} {x : α} (ha : (a.on h).1 = .ok x) (f : α → Action ε β) :
    (a >>= f).on h = (f x).on (a.on h).2 := by
  rw [on_bind, on_eq_of_fst ha]

/-- After an error the second of two actions is not carried out. -/
theorem on_bind_error {a : Action ε α} {e : ε} (ha : (a.on h).1 = .error e)
    (f : α → Action ε β) : (a >>= f).on h = (.error e, (a.on h).2) := by
  rw [on_bind, on_eq_of_fst ha]

@[simp] theorem ensures_bind {a : Action ε α} {f : α → Action ε β} {ok : β → Host → Prop} :
    (a >>= f).Ensures h ok failed ↔
      a.Ensures h (fun x after => (f x).Ensures after ok failed) failed := by
  simp only [Ensures, on_bind]
  rcases a.on h with ⟨_ | _, after⟩ <;> rfl

@[simp] theorem ensures_request (r : Request) {ok : r.Answer → Host → Prop} :
    (request r : Action ε r.Answer).Ensures h ok failed ↔ ok (h.perform r).1 (h.perform r).2 :=
  Iff.rfl

theorem on_mapError (f : ε → ε') (a : Action ε α) (h : Host) :
    (a.mapError f).on h = ((a.on h).1.mapError f, (a.on h).2) :=
  Program.run_map (Except.mapError f) a.run h

theorem on_outcome (a : Action ε α) (h : Host) :
    (a.outcome : Action ε' (Except ε α)).on h = (.ok (a.on h).1, (a.on h).2) :=
  Program.run_map Except.ok a.run h

@[simp] theorem ensures_mapError {f : ε → ε'} {a : Action ε α} {failed : ε' → Host → Prop} :
    (a.mapError f).Ensures h ok failed ↔ a.Ensures h ok fun e => failed (f e) := by
  simp only [Ensures, on_mapError]
  rcases a.on h with ⟨_ | _, after⟩ <;> rfl

@[simp] theorem ensures_outcome {a : Action ε α} {ok : Except ε α → Host → Prop}
    {failed : ε' → Host → Prop} :
    (a.outcome : Action ε' (Except ε α)).Ensures h ok failed ↔
      a.Ensures h (fun x => ok (.ok x)) fun e => ok (.error e) := by
  simp only [Ensures, on_outcome]
  rcases a.on h with ⟨_ | _, after⟩ <;> rfl

/-! ## Requests about a path -/

/-- The ways in which a request that changes files is answered, given what it would do. -/
inductive Effected (h : Host) (path : String) (result : Except Errno FileSystem) :
    Except FileError Unit → Host → Prop where
  | done (files : FileSystem) (hpath : acceptable path = true) (hresult : result = .ok files) :
      Effected h path result (.ok ()) { h.later with files := files }
  | refused (e : Errno) (hpath : acceptable path = true) (hresult : result = .error e) :
      Effected h path result (.error (.refused e path)) h.later
  | nullByte (hpath : acceptable path = false) : Effected h path result (.error .nullByte) h.later

/-- A change that can be made is made. -/
theorem Effected.eq_of_ok {path : String} {result : Except Errno FileSystem} {files : FileSystem}
    {x : Except FileError Unit} {after : Host} (heffected : Effected h path result x after)
    (hpath : acceptable path = true) (hresult : result = .ok files) :
    x = .ok () ∧ after = { h.later with files := files } := by
  cases heffected with
  | done files' _ hresult' =>
    obtain rfl := Except.ok.inj (hresult.symm.trans hresult')
    exact ⟨rfl, rfl⟩
  | refused e _ hresult' => cases hresult.symm.trans hresult'
  | nullByte hpath' => cases hpath.symm.trans hpath'

/-- A request that changes files is answered in one of these ways. -/
theorem effected_answerAt (h : Host) (path : String) (result : Except Errno FileSystem) :
    Effected h path result (h.answerAt path (Host.effect result)).1
      { (h.answerAt path (Host.effect result)).2 with
        clock := (h.answerAt path (Host.effect result)).2.clock + Host.tick } := by
  unfold Host.answerAt
  cases hpath : acceptable path with
  | false => exact .nullByte hpath
  | true =>
    cases hresult : result with
    | error e => exact .refused e hpath rfl
    | ok files => exact .done files hpath rfl

/-- A question about a path is answered, and changes nothing. -/
theorem answerAt_asked {α : Type} (h : Host) (path : String) (result : Except Errno α) :
    h.answerAt path (result.map (·, h.files)) = (askedAt path result, h) := by
  unfold Host.answerAt askedAt
  cases acceptable path with
  | false => rfl
  | true => cases result <;> rfl

/-- Asking for a status changes nothing, so a statement about it is one about its answer. -/
theorem ensures_status {path : String} {ok : Except FileError Status → Host → Prop} :
    (request (.status path) : Action ε _).Ensures h ok failed ↔
      ok (askedAt path (h.files.status h.folder path)) h.later := by
  rw [ensures_request, Host.perform, Host.answer, answerAt_asked]
  rfl

end Action

end MethodMacros
