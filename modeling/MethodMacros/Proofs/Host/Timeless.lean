import MethodMacros.Proofs.FileSystem.Timeless
import MethodMacros.Proofs.Host.Ensures

/-!
# Hosts without their times

Two hosts may differ only in their clocks, in the times of last changes, and in what has been logged
or said before.  An action that asks for none of these ends alike on both: with the same result,
with the same files apart from times, and after the same words to the user.  The log does not count
as such words.

* `Host.Alike`: such a pair of hosts.
* `Request.isTimeless`, `Alike.answer`: the requests that keep hosts alike, and the proof that they
  do.
* `Action.EndAlike`, `Action.Timeless`: two ends that are alike, and an action that has such ends on
  each pair of hosts that are alike.
* `Timeless.bind`, `Timeless.outcome`, `Timeless.forM`: the rules for longer actions.
* `Timeless.status_bind`: to ask for the status of an entry is no timeless request, since the answer
  has a time in it.  But an action may ask for it and look only at the rest.

## Words, and when they were said

What has been said before need not be the same on both hosts, so the messages of the two ends cannot
be compared.  `EndAlike` compares what was added, and `messages_perform` says that this is told by
the request alone.
-/

namespace MethodMacros

/-- A message is meant for the user, whatever is shown of the log. -/
def Message.isSaid : Message → Bool
  | .log _ => false
  | _ => true

/-- The messages that a request adds. -/
def Request.told : Request → List Message
  | .tell message => [message]
  | _ => []

/-- A request neither asks for a time nor starts a tool, which could do so. -/
def Request.isTimeless : Request → Bool
  | .makeDirectory _ | .createTemporary _ _ | .writeFile _ _ | .setMode _ _ | .rename _ _
  | .removeFile _ | .exchangeUmask _ | .tell _ => true
  | _ => false

namespace Host

/-- What has been said to the user, the last first. -/
def said (h : Host) : List Message := h.messages.filter Message.isSaid

/-- Two hosts differ at most in their times and their messages. -/
structure Alike (h cur : Host) : Prop where
  files : h.files.timeless = cur.files.timeless
  folder : h.folder = cur.folder
  umask : h.umask = cur.umask
  environment : h.environment = cur.environment
  standardInput : h.standardInput = cur.standardInput

/-! ## Messages -/

theorem messages_answerAt {α : Type} (h : Host) (path : String)
    (result : Except Errno (α × FileSystem)) : (h.answerAt path result).2.messages = h.messages := by
  unfold answerAt
  split
  · split <;> rfl
  · rfl

theorem messages_createTemporary (h : Host) (directory stem : String) (tries n : Nat) :
    (h.createTemporary directory stem tries n).2.messages = h.messages := by
  induction tries generalizing n with
  | zero => rfl
  | succ tries ih =>
    unfold createTemporary
    dsimp only
    split
    · split <;> rfl
    · exact ih (n + 1)
    · split <;> rfl

theorem messages_toolWrites (h : Host) (folder : Location) (path : String)
    (content : List UInt8) : (h.toolWrites folder path content).messages = h.messages := by
  unfold toolWrites
  split <;> rfl

theorem messages_behave (h : Host) (b : Behaviour) (args : List String) (folder : Location) :
    (h.behave b args folder).2.messages = h.messages := by
  unfold behave
  dsimp only
  cases b.recordArguments <;> cases b.outputText <;> cases outputArgument args <;>
    simp only [messages_toolWrites]

theorem messages_start (h : Host) (command : List String) (folder : Option String) :
    (h.start command folder).2.messages = h.messages := by
  unfold start
  cases command with
  | nil => rfl
  | cons name args =>
    dsimp only
    split
    · rfl
    · split
      · rfl
      · split
        · rfl
        · exact messages_behave _ _ _ _

/-- What a request adds to the messages is told by the request, whatever it is answered. -/
theorem messages_answer (h : Host) (r : Request) :
    (h.answer r).2.messages = r.told ++ h.messages := by
  unfold answer
  cases r with
  | createTemporary directory stem => exact messages_createTemporary h directory stem 10000 0
  | rename source target =>
    dsimp only
    split
    · split <;> rfl
    · rfl
  | start command folder => exact messages_start h command folder
  | tell message => rfl
  | exchangeUmask mask => rfl
  | isRunnable path => rfl
  | resolve path => rfl
  | time => rfl
  | «variable» name => rfl
  | standardInput => rfl
  | _ => exact messages_answerAt h _ _

/-- Only what is told is added to the messages. -/
theorem messages_perform (h : Host) (r : Request) :
    (h.perform r).2.messages = r.told ++ h.messages := messages_answer h r

theorem said_perform (h : Host) (r : Request) :
    (h.perform r).2.said = r.told.filter Message.isSaid ++ h.said := by
  rw [said, messages_perform, List.filter_append]
  rfl

/-! ## Answers -/

namespace Alike

variable {h cur : Host}

theorem symm (halike : h.Alike cur) : cur.Alike h :=
  ⟨halike.files.symm, halike.folder.symm, halike.umask.symm, halike.environment.symm,
    halike.standardInput.symm⟩

theorem trans {last : Host} (halike : h.Alike cur) (halike' : cur.Alike last) : h.Alike last :=
  ⟨halike.files.trans halike'.files, halike.folder.trans halike'.folder,
    halike.umask.trans halike'.umask, halike.environment.trans halike'.environment,
    halike.standardInput.trans halike'.standardInput⟩

theorem with_files {files files' : FileSystem} (halike : h.Alike cur)
    (hfiles : files.timeless = files'.timeless) :
    ({ h with files := files } : Host).Alike { cur with files := files' } :=
  { halike with files := hfiles }

/-- A path leads to the same entry, apart from times. -/
theorem entryAt (halike : h.Alike cur) (path : String) (followLast : Bool) :
    (h.files.entryAt h.folder path followLast).map (fun (l, e) => (l, e.timeless)) =
      (cur.files.entryAt cur.folder path followLast).map fun (l, e) => (l, e.timeless) := by
  rw [← FileSystem.entryAt_timeless, ← FileSystem.entryAt_timeless, halike.files, halike.folder]

/-- An operation that does the same apart from times has the same answer. -/
theorem answerAt (halike : h.Alike cur) (path : String) {result result' : Except Errno FileSystem}
    (hresult : result.map FileSystem.timeless = result'.map FileSystem.timeless) :
    (h.answerAt path (effect result)).1 = (cur.answerAt path (effect result')).1 ∧
      (h.answerAt path (effect result)).2.Alike (cur.answerAt path (effect result')).2 := by
  unfold Host.answerAt
  cases acceptable path with
  | false => exact ⟨rfl, halike⟩
  | true =>
    rcases result with e | files <;> rcases result' with e' | files'
    · obtain rfl := Except.error.inj hresult
      exact ⟨rfl, halike⟩
    · cases hresult
    · cases hresult
    · exact ⟨rfl, halike.with_files (Except.ok.inj hresult)⟩

theorem temporaryPath (halike : h.Alike cur) (directory stem : String) (n : Nat) :
    h.temporaryPath directory stem n = cur.temporaryPath directory stem n := by
  simp only [Host.temporaryPath, halike.folder]

theorem createFile (halike : h.Alike cur) (mode : Nat) (path : String) :
    (h.files.createFile h.folder h.umask mode h.clock path).map FileSystem.timeless =
      (cur.files.createFile cur.folder cur.umask mode cur.clock path).map FileSystem.timeless := by
  rw [← FileSystem.createFile_timeless, ← FileSystem.createFile_timeless, halike.files,
    halike.folder, halike.umask]

/-- The name of a temporary file does not depend on the time, so the same one is free on both
hosts. -/
theorem createTemporary (halike : h.Alike cur) (directory stem : String) (tries n : Nat) :
    (h.createTemporary directory stem tries n).1 = (cur.createTemporary directory stem tries n).1 ∧
      (h.createTemporary directory stem tries n).2.Alike
        (cur.createTemporary directory stem tries n).2 := by
  induction tries generalizing n with
  | zero =>
    refine ⟨?_, halike⟩
    simp only [Host.createTemporary, halike.temporaryPath]
  | succ tries ih =>
    have hresult := halike.createFile 0o600 (cur.temporaryPath directory stem n)
    unfold Host.createTemporary
    dsimp only
    rw [halike.temporaryPath]
    revert hresult
    generalize h.files.createFile h.folder h.umask 0o600 h.clock _ = created
    generalize cur.files.createFile cur.folder cur.umask 0o600 cur.clock _ = created'
    intro hresult
    rcases created with e | files <;> rcases created' with e' | files'
    · obtain rfl := Except.error.inj hresult
      cases e with
      | alreadyExists => exact ih (n + 1)
      | _ =>
        dsimp only
        cases acceptable (cur.temporaryPath directory stem n) <;> exact ⟨rfl, halike⟩
    · cases hresult
    · cases hresult
    · dsimp only
      cases acceptable (cur.temporaryPath directory stem n) with
      | false => exact ⟨rfl, halike⟩
      | true => exact ⟨rfl, halike.with_files (Except.ok.inj hresult)⟩

/-- A request is answered alike, and leaves alike hosts, where it neither asks for a time nor starts
a tool, which could do so. -/
theorem answer (halike : h.Alike cur) {r : Request} (hr : r.isTimeless = true) :
    (h.answer r).1 = (cur.answer r).1 ∧ (h.answer r).2.Alike (cur.answer r).2 := by
  cases r with
  | makeDirectory path =>
    refine halike.answerAt path ?_
    rw [← FileSystem.makeDirectory_timeless, ← FileSystem.makeDirectory_timeless, halike.files,
      halike.folder, halike.umask]
  | createTemporary directory stem => exact halike.createTemporary directory stem 10000 0
  | writeFile path content =>
    refine halike.answerAt path ?_
    rw [← FileSystem.writeFile_timeless, ← FileSystem.writeFile_timeless, halike.files,
      halike.folder, halike.umask]
  | setMode path mode =>
    refine halike.answerAt path ?_
    rw [← FileSystem.setMode_timeless, ← FileSystem.setMode_timeless, halike.files, halike.folder]
  | removeFile path =>
    refine halike.answerAt path ?_
    rw [← FileSystem.removeFile_timeless, ← FileSystem.removeFile_timeless, halike.files,
      halike.folder]
  | rename source target =>
    have hresult : (h.files.rename h.folder source target).map FileSystem.timeless =
        (cur.files.rename cur.folder source target).map FileSystem.timeless := by
      rw [← FileSystem.rename_timeless, ← FileSystem.rename_timeless, halike.files, halike.folder]
    unfold Host.answer
    dsimp only
    revert hresult
    generalize h.files.rename h.folder source target = renamed
    generalize cur.files.rename cur.folder source target = renamed'
    intro hresult
    cases acceptable source && acceptable target with
    | false => exact ⟨rfl, halike⟩
    | true =>
      rcases renamed with e | files <;> rcases renamed' with e' | files'
      · obtain rfl := Except.error.inj hresult
        exact ⟨rfl, halike⟩
      · cases hresult
      · cases hresult
      · exact ⟨rfl, halike.with_files (Except.ok.inj hresult)⟩
  | exchangeUmask mask => exact ⟨halike.umask, { halike with umask := rfl }⟩
  | tell message => exact ⟨rfl, { halike with }⟩
  | _ => cases hr

end Alike

end Host

theorem askedAt_map {α β : Type} (f : α → β) (path : String) (result : Except Errno α) :
    (askedAt path result).map f = askedAt path (result.map f) := by
  unfold askedAt
  cases acceptable path with
  | false => rfl
  | true => cases result <;> rfl

namespace Action

variable {ε ε' α β : Type} {h cur : Host}

/-- Actions that ended with the same result, on alike hosts, after the same words to the user. -/
structure EndAlike (h cur : Host) (x y : Except ε α × Host) : Prop where
  result : x.1 = y.1
  alike : x.2.Alike y.2
  said : ∃ told, x.2.said = told ++ h.said ∧ y.2.said = told ++ cur.said

/-- What an action gives, does and says depends neither on times nor on what was said before. -/
def Timeless (a : Action ε α) : Prop :=
  ∀ h cur, h.Alike cur → EndAlike h cur (a.on h) (a.on cur)

namespace Timeless

theorem pure (x : α) : Timeless (Pure.pure x : Action ε α) :=
  fun _ _ halike => ⟨rfl, halike, [], rfl, rfl⟩

theorem throw (e : ε) : Timeless (MonadExcept.throw e : Action ε α) :=
  fun _ _ halike => ⟨rfl, halike, [], rfl, rfl⟩

/-- Requests that are said to be timeless keep hosts alike, and have the same answers on both. -/
theorem request {r : Request} (hr : r.isTimeless = true) :
    Timeless (Action.request r : Action ε r.Answer) := by
  intro h cur halike
  obtain ⟨hanswer, hafter⟩ := halike.answer hr
  exact ⟨congrArg Except.ok hanswer, { hafter with }, _, Host.said_perform h r,
    Host.said_perform cur r⟩

theorem log (level : Level) (text : String) : Timeless (Action.log level text : Action ε Unit) :=
  request rfl

/-- The second of two actions starts on hosts that are alike, since the first has ended on such. -/
theorem bind {a : Action ε α} {f : α → Action ε β} (ha : a.Timeless)
    (hf : ∀ x, (f x).Timeless) : (a >>= f).Timeless := by
  intro h cur halike
  obtain ⟨hresult, hafter, told, htold, htold'⟩ := ha h cur halike
  cases hon : (a.on cur).1 with
  | error e =>
    rw [hon] at hresult
    rw [on_bind_error hresult, on_bind_error hon]
    exact ⟨rfl, hafter, told, htold, htold'⟩
  | ok x =>
    rw [hon] at hresult
    rw [on_bind_ok hresult, on_bind_ok hon]
    obtain ⟨hlast, hend, more, hmore, hmore'⟩ := hf x _ _ hafter
    refine ⟨hlast, hend, more ++ told, ?_, ?_⟩
    · rw [hmore, htold, List.append_assoc]
    · rw [hmore', htold', List.append_assoc]

theorem outcome {a : Action ε α} (ha : a.Timeless) :
    (a.outcome : Action ε' (Except ε α)).Timeless := by
  intro h cur halike
  obtain ⟨hresult, hafter, hsaid⟩ := ha h cur halike
  rw [on_outcome, on_outcome, hresult]
  exact ⟨rfl, hafter, hsaid⟩

theorem forM {f : α → Action ε PUnit} (hf : ∀ x, (f x).Timeless) (xs : List α) :
    (xs.forM f).Timeless := by
  induction xs with
  | nil => exact pure _
  | cons x xs ih => exact bind (hf x) fun _ => ih

/-- Asking for the status of an entry is no matter of times if only its kind and its permissions
are looked at. -/
theorem status_bind (path : String) {f : Except FileError Status → Action ε β}
    (hf : ∀ x, (f x).Timeless) (hstatus : ∀ x, f (x.map Status.timeless) = f x) :
    (Action.request (.status path) >>= f).Timeless := by
  intro h cur halike
  have hon (h : Host) : (Action.request (.status path) >>= f).on h =
      (f (askedAt path (h.files.timeless.status h.folder path))).on h.later := by
    rw [FileSystem.status_timeless, ← askedAt_map, hstatus, on_bind, on_request, Host.perform_eq,
      Host.answer, answerAt_asked]
  rw [hon, hon, halike.files, halike.folder]
  obtain ⟨hresult, hafter, hsaid⟩ := hf _ h.later cur.later { halike with }
  exact ⟨hresult, hafter, hsaid⟩

end Timeless

end Action

end MethodMacros
