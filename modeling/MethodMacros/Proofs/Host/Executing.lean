import MethodMacros.Host.Basic

/-!
# What a command executes

A tool is started by its name.  What is executed then depends on the directory that it is started
in: a relative path is followed from there, and so are the relative directories of a search path.

A host says only what a tool does that is executed.  To tell *which* file this is, `executableAt`,
`firstExecutableAt` and `startedAt` give its location together with what it does.  They are the
searches of a host once more, so each is shown to give what the host gives when the location is left
out (`executable_eq`, `firstExecutable_eq`, `start_of_startFolder`).

* `startedAt_of_slash`: a name with a slash in it is a path, and is not searched for.
* `startedAt_of_root`: an absolute path is executed in the same way in every directory.
-/

namespace MethodMacros.Host

variable {h : Host} {folder folder' : Location} {name path : String}

/-- What is run when a path is executed, and where it lies. -/
def executableAt (h : Host) (folder : Location) (path : String) :
    Except Errno (Location × Behaviour) := do
  match ← h.files.entryAt folder path true with
  | (l, .file node) =>
      if node.mode &&& 0o111 = 0 then throw .accessDenied
      match node.behaviour with
      | some b => return (l, b)
      | none => throw .badFormat
  | _ => throw .accessDenied

/-- Apart from its location, what is run is what a host runs. -/
theorem executable_eq (h : Host) (folder : Location) (path : String) :
    h.executable folder path = (h.executableAt folder path).map Prod.snd := by
  unfold executable executableAt
  cases h.files.entryAt folder path true with
  | error e => rfl
  | ok found =>
    obtain ⟨l, _ | node | _⟩ := found
    · rfl
    · dsimp only [bind, Except.bind]
      split
      · rfl
      · cases node.behaviour <;> rfl
    · rfl

/-- The first of several paths that can be executed, with its location. -/
def firstExecutableAt (h : Host) (folder : Location) : List String → Option Errno → Errno →
    Except Errno (Location × Behaviour)
  | [], noted, last => .error (noted.getD last)
  | path :: rest, noted, _ =>
      match h.executableAt folder path with
      | .ok found => .ok found
      | .error e =>
          let noted :=
            if e = .noEntry ∨ e = .notDirectory then noted else noted.or (some e)
          h.firstExecutableAt folder rest noted e

theorem firstExecutable_eq (h : Host) (folder : Location) (paths : List String)
    (noted : Option Errno) (last : Errno) :
    h.firstExecutable folder paths noted last =
      (h.firstExecutableAt folder paths noted last).map Prod.snd := by
  induction paths generalizing noted last with
  | nil => rfl
  | cons path rest ih =>
    rw [firstExecutable, firstExecutableAt, executable_eq]
    cases h.executableAt folder path with
    | ok found => rfl
    | error e => exact ih _ e

/-- What is executed when a tool of a certain name is started in a directory. -/
def startedAt (h : Host) (folder : Location) (name : String) : Except Errno (Location × Behaviour) :=
  h.firstExecutableAt folder (h.commandPaths name) none .noEntry

/-- This is what runs when a tool is started that can be. -/
theorem start_of_startFolder {args : List String} {place : Option String}
    (htaken : (name :: args ++ place.toList).all acceptable = true)
    (hfolder : h.startFolder place = .ok folder) :
    h.start (name :: args) place =
      match h.startedAt folder name with
      | .error e => (.error (.refused e), h)
      | .ok (_, b) => (.ok (h.behave b args folder).1, (h.behave b args folder).2) := by
  unfold start
  dsimp only
  rw [htaken, hfolder, Bool.not_true, if_neg Bool.false_ne_true]
  dsimp only
  rw [firstExecutable_eq, startedAt]
  cases h.firstExecutableAt folder (h.commandPaths name) none .noEntry <;> rfl

/-- A name with a slash is not searched for. -/
theorem startedAt_of_slash (hslash : '/' ∈ name.toList) :
    h.startedAt folder name = h.executableAt folder name := by
  have hpaths : h.commandPaths name = [name] := if_pos (by simpa using hslash)
  rw [startedAt, hpaths, firstExecutableAt]
  cases h.executableAt folder name with
  | ok found => rfl
  | error e =>
    dsimp only
    rw [firstExecutableAt]
    split <;> rfl

/-- A path with a root means the same in every directory. -/
theorem executableAt_of_root (hroot : Path.rootOf path.toList ≠ .relative) :
    h.executableAt folder path = h.executableAt folder' path := by
  have hstart : FileSystem.startOf folder path = FileSystem.startOf folder' path := by
    unfold FileSystem.startOf
    split
    · exact absurd ‹_› hroot
    · rfl
  rw [executableAt, executableAt, FileSystem.entryAt, FileSystem.entryAt, FileSystem.reach,
    FileSystem.reach, hstart]

/-- A path that is not relative has a slash in it, so it is never searched for. -/
theorem slash_mem_of_root (hroot : Path.rootOf path.toList ≠ .relative) : '/' ∈ path.toList := by
  cases hpath : path.toList with
  | nil => exact absurd (by rw [hpath]; rfl) hroot
  | cons c rest =>
    by_cases hc : c = '/'
    · exact hc ▸ List.mem_cons_self
    · rw [hpath] at hroot
      exact absurd (by unfold Path.rootOf; simp [hc]) hroot

/-- A tool with an absolute path is the same file from every directory. -/
theorem startedAt_of_root (hroot : Path.rootOf path.toList ≠ .relative) :
    h.startedAt folder path = h.executableAt folder' path :=
  (startedAt_of_slash (slash_mem_of_root hroot)).trans (executableAt_of_root hroot)

end MethodMacros.Host
