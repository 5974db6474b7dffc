import MethodMacros.Proofs.Host.Questions

/-!
# What an action asks for

The requests of an action are all the requests in its tree, whatever the answers are.  `Action.Asks`
says that they are all of some kind.  What holds of each request of that kind then holds of each
run: if none of them changes a part of a host, the action leaves it as it is, and if they are
answered in the same way by someone else, the action runs there as it does on a host
(`Program.Asks.run_eq`).

## Kinds of requests

From the narrowest to the widest:

* `Request.isLooking`: asks about files or variables, or writes to the log.
* `Request.leavesFiles`: changes no file and no directory.
* `Request.isToolless`: starts no tool.

Each is among the next ones, and looking around is a question besides.  That a request of a kind
does what the kind says is proved once, from the answers of a host
(`Host.agrees_perform_of_isLooking`, `Host.files_perform_of_leavesFiles`).

## What a request can change

Whatever it is, a request changes nothing but the files, the mask for new files and the messages,
and the time goes on by one tick.  `answer_eq` says this of all requests, from one lemma for each of
the operations that are made of several steps.
-/

namespace MethodMacros

/-- A request looks at the host, or adds to the log. -/
def Request.isLooking : Request → Bool
  | .status _ | .readFile _ | .isRunnable _ | .resolve _ | .variable _ | .standardInput
  | .tell (.log _) => true
  | _ => false

/-- A request leaves the files as they are. -/
def Request.leavesFiles : Request → Bool
  | .makeDirectory _ | .createTemporary _ _ | .writeFile _ _ | .setMode _ _ | .rename _ _
  | .removeFile _ | .touch _ | .start _ _ => false
  | _ => true

/-- A request is answered without a tool. -/
def Request.isToolless : Request → Bool
  | .start _ _ => false
  | _ => true

theorem Request.leavesFiles_of_isLooking (r : Request) (hr : r.isLooking = true) :
    r.leavesFiles = true := by
  cases r with
  | makeDirectory | createTemporary | writeFile | setMode | rename | removeFile | touch | start =>
    cases hr
  | _ => rfl

theorem Request.isToolless_of_leavesFiles (r : Request) (hr : r.leavesFiles = true) :
    r.isToolless = true := by
  cases r with
  | start command folder => cases hr
  | _ => rfl

theorem Request.isToolless_of_isLooking (r : Request) (hr : r.isLooking = true) :
    r.isToolless = true :=
  r.isToolless_of_leavesFiles (r.leavesFiles_of_isLooking hr)

theorem Request.isQuestion_of_isLooking (r : Request) (hr : r.isLooking = true) :
    r.isQuestion = true := by
  cases r with
  | status | readFile | isRunnable | resolve | «variable» | standardInput | tell => rfl
  | _ => cases hr

/-- Looking around changes nothing but the clock and the log. -/
theorem Host.agrees_perform_of_isLooking (h : Host) (r : Request) (hr : r.isLooking = true) :
    h.Agrees (h.perform r).2 :=
  ((Host.Agrees.refl h).perform (r.isQuestion_of_isLooking hr)).2

/-- A request that is said to leave the files as they are does so, and no request leaves the working
directory. -/
theorem Host.files_perform_of_leavesFiles (h : Host) (r : Request) (hr : r.leavesFiles = true) :
    (h.perform r).2.files = h.files ∧ (h.perform r).2.folder = h.folder := by
  cases r with
  | status path =>
    rw [Host.perform, Host.answer, Action.answerAt_asked]
    exact ⟨rfl, rfl⟩
  | readFile path =>
    rw [Host.perform, Host.answer, Action.answerAt_asked]
    exact ⟨rfl, rfl⟩
  | makeDirectory | createTemporary | writeFile | setMode | rename | removeFile | touch | start =>
    cases hr
  | _ => exact ⟨rfl, rfl⟩

/-! ## What a request can change -/

namespace Host

theorem toolWrites_eq (h : Host) (folder : Location) (path : String) (content : List UInt8) :
    ∃ files, h.toolWrites folder path content = { h with files := files } := by
  unfold toolWrites
  split
  · exact ⟨_, rfl⟩
  · exact ⟨h.files, rfl⟩

theorem behave_eq (h : Host) (b : Behaviour) (args : List String) (folder : Location) :
    ∃ files, (h.behave b args folder).2 = { h with files := files } := by
  unfold behave
  dsimp only
  cases b.recordArguments with
  | none =>
    dsimp only
    split
    · exact toolWrites_eq h _ _ _
    · exact ⟨h.files, rfl⟩
  | some path =>
    obtain ⟨files, hfiles⟩ := toolWrites_eq h h.folder path (recordOf args folder)
    dsimp only
    rw [hfiles]
    split
    · exact toolWrites_eq { h with files := files } _ _ _
    · exact ⟨files, rfl⟩

/-- A tool changes nothing but files. -/
theorem start_eq (h : Host) (command : List String) (folder : Option String) :
    ∃ files, (h.start command folder).2 = { h with files := files } := by
  unfold start
  cases command with
  | nil => exact ⟨h.files, rfl⟩
  | cons name args =>
    dsimp only
    split
    · exact ⟨h.files, rfl⟩
    · split
      · exact ⟨h.files, rfl⟩
      · split
        · exact ⟨h.files, rfl⟩
        · exact behave_eq _ _ _ _

/-- However many names are tried, nothing is changed but files. -/
theorem createTemporary_eq (h : Host) (directory stem : String) (tries n : Nat) :
    ∃ files, (h.createTemporary directory stem tries n).2 = { h with files := files } := by
  induction tries generalizing n with
  | zero => exact ⟨h.files, rfl⟩
  | succ tries ih =>
    unfold createTemporary
    dsimp only
    split
    · split
      · exact ⟨_, rfl⟩
      · exact ⟨h.files, rfl⟩
    · exact ih (n + 1)
    · split <;> exact ⟨h.files, rfl⟩

theorem answerAt_eq {α : Type} (h : Host) (path : String)
    (result : Except Errno (α × FileSystem)) :
    ∃ files, (h.answerAt path result).2 = { h with files := files } := by
  unfold answerAt
  split
  · split
    · exact ⟨_, rfl⟩
    · exact ⟨h.files, rfl⟩
  · exact ⟨h.files, rfl⟩

/-- A request changes nothing but files, the mask for permissions and the messages. -/
theorem answer_eq (h : Host) (r : Request) :
    ∃ files umask messages,
      (h.answer r).2 = { h with files := files, umask := umask, messages := messages } := by
  have hfiles {after : Host} (hafter : ∃ files, after = { h with files := files }) :
      ∃ files umask messages,
        after = { h with files := files, umask := umask, messages := messages } := by
    obtain ⟨files, rfl⟩ := hafter
    exact ⟨files, h.umask, h.messages, rfl⟩
  unfold answer
  cases r with
  | createTemporary directory stem => exact hfiles (createTemporary_eq h directory stem 10000 0)
  | rename source target =>
    refine hfiles ?_
    dsimp only
    split
    · split
      · exact ⟨_, rfl⟩
      · exact ⟨h.files, rfl⟩
    · exact ⟨h.files, rfl⟩
  | start command folder => exact hfiles (start_eq h command folder)
  | tell | exchangeUmask | isRunnable | resolve | time | «variable» | standardInput =>
    exact ⟨_, _, _, rfl⟩
  | _ => exact hfiles (answerAt_eq h _ _)

end Host

/-! ## The requests of a program -/

/-- All requests of a program are of a kind. -/
def Program.Asks (kind : Request → Bool) {α : Type} : Program α → Prop
  | .done _ => True
  | .ask r next => kind r = true ∧ ∀ x, (next x).Asks kind

/-- The tree of two programs in a row has the requests of both, whatever the first gives. -/
theorem Program.Asks.bind {kind : Request → Bool} {α β : Type} {p : Program α}
    {f : α → Program β} (hp : p.Asks kind) (hf : ∀ x, (f x).Asks kind) : (p.bind f).Asks kind := by
  induction p with
  | done a => exact hf a
  | ask r next ih => exact ⟨hp.1, fun x => ih x (hp.2 x)⟩

/-- What holds of the requests may be weakened. -/
theorem Program.Asks.imp {kind kind' : Request → Bool} {α : Type} {p : Program α}
    (hp : p.Asks kind) (hkind : ∀ r, kind r = true → kind' r = true) : p.Asks kind' := by
  induction p with
  | done a => trivial
  | ask r next ih => exact ⟨hkind r hp.1, fun x => ih x (hp.2 x)⟩

/-- What no request changes is not changed by a run. -/
theorem Program.Asks.run_eq {kind : Request → Bool} {α β : Type} {p : Program α}
    (hp : p.Asks kind) (part : Host → β)
    (hkeep : ∀ h r, kind r = true → part (h.perform r).2 = part h) (h : Host) :
    part (p.run h).2 = part h := by
  induction p generalizing h with
  | done a => rfl
  | ask r next ih => rw [run_ask, ih _ (hp.2 _), hkeep h r hp.1]

namespace Action

variable {kind kind' : Request → Bool} {ε ε' α β : Type}

/-- All requests of an action are of a kind. -/
def Asks (kind : Request → Bool) (a : Action ε α) : Prop := a.run.Asks kind

namespace Asks

theorem pure (x : α) : Asks kind (Pure.pure x : Action ε α) := trivial

theorem throw (e : ε) : Asks kind (MonadExcept.throw e : Action ε α) := trivial

theorem request {r : Request} (hr : kind r = true) :
    Asks kind (Action.request r : Action ε r.Answer) := ⟨hr, fun _ => trivial⟩

theorem bind {a : Action ε α} {f : α → Action ε β} (ha : a.Asks kind)
    (hf : ∀ x, (f x).Asks kind) : (a >>= f).Asks kind := by
  refine Program.Asks.bind ha fun x => ?_
  cases x with
  | error e => trivial
  | ok x => exact hf x

theorem mapError {a : Action ε α} (f : ε → ε') (ha : a.Asks kind) : (a.mapError f).Asks kind :=
  Program.Asks.bind ha fun _ => trivial

theorem outcome {a : Action ε α} (ha : a.Asks kind) :
    (a.outcome : Action ε' (Except ε α)).Asks kind :=
  Program.Asks.bind ha fun _ => trivial

theorem imp {a : Action ε α} (ha : a.Asks kind)
    (hkind : ∀ r, kind r = true → kind' r = true) : a.Asks kind' :=
  Program.Asks.imp ha hkind

theorem mapM {f : α → Action ε β} (hf : ∀ x, (f x).Asks kind) (xs : List α) :
    (xs.mapM f).Asks kind := by
  induction xs with
  | nil => exact pure _
  | cons x xs ih =>
    rw [List.mapM_cons]
    exact bind (hf x) fun _ => bind ih fun _ => pure _

theorem forM {f : α → Action ε PUnit} (hf : ∀ x, (f x).Asks kind) (xs : List α) :
    (xs.forM f).Asks kind := by
  induction xs with
  | nil => exact pure _
  | cons x xs ih => exact bind (hf x) fun _ => ih

/-- What no request changes is not changed by an action. -/
theorem on_eq {part : Host → β} {a : Action ε α} (ha : a.Asks kind)
    (hkeep : ∀ h r, kind r = true → part (h.perform r).2 = part h) (h : Host) :
    part (a.on h).2 = part h :=
  Program.Asks.run_eq ha part hkeep h

end Asks

end Action

end MethodMacros
