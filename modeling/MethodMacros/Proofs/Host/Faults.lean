import MethodMacros.Proofs.Host.Runs

/-!
# Runs in which operations fail

An operation on files can fail for reasons that have nothing to do with what is there: the disk is
full, or the device is gone.  Here any operation that changes files may fail at any time, with any
error, and a file that is being written may be left with any content.  What is proved about such
runs holds whatever fails.  A run in which nothing fails for such reasons is one of them
(`performDespite_none`).

* `Faults`, `Host.fail`, `Host.performDespite`: which operations fail, what a failure leaves, and
  the answers of a host on which they fail.
* `Faults.SpareRemovals`, `Faults.AreRefusals`: what a result may have to ask of the faults.  A file
  whose removal fails cannot be taken away by anyone, and an error is no refusal if it says that a
  path cannot be passed on.  If nothing fails, both hold.
* `throughout_makeDirectory`, `throughout_writeFile`, `throughout_setMode`, `throughout_removeFile`,
  `throughout_rename`: for each operation, what to show if the host answers it, and what if it
  fails.
* `Asks.throughout_looking`, `Asks.throughout_leavesFiles`: nothing fails where nothing is changed.
-/

namespace MethodMacros

/-- A failure that comes from outside: the error, and what is left in a file that was to be
written, if its content is changed. -/
structure Fault where
  error : FileError
  written : Option (List UInt8) := none
  deriving DecidableEq, Repr

/-- The operations that fail. -/
abbrev Faults := Host → Request → Option Fault

namespace Faults

/-- Nothing fails for reasons from outside. -/
protected def none : Faults := fun _ _ => Option.none

/-- No removal of a file fails. -/
def SpareRemovals (faults : Faults) : Prop := ∀ h path, faults h (.removeFile path) = Option.none

/-- Whatever fails is refused by the operating system. -/
def AreRefusals (faults : Faults) : Prop :=
  ∀ h r fault, faults h r = some fault → fault.error ≠ .nullByte

theorem spareRemovals_none : Faults.none.SpareRemovals := fun _ _ => rfl

theorem areRefusals_none : Faults.none.AreRefusals := by
  rintro _ _ _ ⟨⟩

end Faults

namespace Host

/-- A host after an attempt to write a file that has failed. -/
def spoiled (h : Host) (fault : Fault) (path : String) : Host :=
  match fault.written.map (h.files.writeFile h.folder h.umask h.clock path) with
  | some (.ok files) => { h.later with files := files }
  | _ => h.later

/-- Lets a request fail, if it is one that changes files. -/
def fail (h : Host) (fault : Fault) : (r : Request) → r.Answer × Host
  | .makeDirectory _ => (.error fault.error, h.later)
  | .createTemporary _ _ => (.error fault.error, h.later)
  | .writeFile path _ => (.error fault.error, h.spoiled fault path)
  | .setMode _ _ => (.error fault.error, h.later)
  | .rename _ _ => (.error fault.error, h.later)
  | .removeFile _ => (.error fault.error, h.later)
  | .touch _ => (.error fault.error, h.later)
  | r => h.perform r

/-- The answers of a host on which some operations fail. -/
def performDespite (faults : Faults) : Answering := fun h r =>
  match faults h r with
  | some fault => h.fail fault r
  | none => h.perform r

/-- Without faults a host answers as ever. -/
theorem performDespite_none : performDespite Faults.none = perform := rfl

variable {faults : Faults}

/-- Only what changes files can fail. -/
theorem performDespite_of_leavesFiles (h : Host) (r : Request) (hr : r.leavesFiles = true) :
    performDespite faults h r = h.perform r := by
  unfold performDespite
  cases faults h r with
  | none => rfl
  | some fault =>
    cases r with
    | makeDirectory | createTemporary | writeFile | setMode | rename | removeFile | touch =>
      cases hr
    | _ => rfl

theorem performDespite_of_isLooking (h : Host) (r : Request) (hr : r.isLooking = true) :
    performDespite faults h r = h.perform r :=
  performDespite_of_leavesFiles h r (r.leavesFiles_of_isLooking hr)

end Host

namespace Action

variable {faults : Faults} {ε α : Type} {h : Host} {during : Host → Prop}
variable {ok : α → Host → Prop} {failed : ε → Host → Prop}

/-- A request is answered, or it fails. -/
theorem throughout_despite {r : Request} {ok : r.Answer → Host → Prop} (hduring : during h)
    (hok : ok (h.perform r).1 (h.perform r).2)
    (hfault : ∀ fault, faults h r = some fault → ok (h.fail fault r).1 (h.fail fault r).2) :
    (request r : Action ε r.Answer).Throughout (Host.performDespite faults) during h ok failed := by
  refine throughout_request hduring ?_
  unfold Host.performDespite
  cases hfails : faults h r with
  | none => exact hok
  | some fault => exact hfault fault hfails

section Requests

variable {path : String} {ok : Except FileError Unit → Host → Prop}

/-- A directory is made, or its making is refused, or it fails for a reason from outside.  The other
operations have the same three cases. -/
theorem throughout_makeDirectory (hduring : during h)
    (hok : ∀ x after, Effected h path (h.files.makeDirectory h.folder h.umask path) x after →
      ok x after)
    (hfault : ∀ fault, faults h (.makeDirectory path) = some fault →
      ok (.error fault.error) h.later) :
    (request (.makeDirectory path) : Action ε _).Throughout (Host.performDespite faults) during h ok
      failed :=
  throughout_despite hduring (hok _ _ (effected_answerAt h path _)) hfault

/-- If writing a file fails, the file may be left with any content. -/
theorem throughout_writeFile {content : String} (hduring : during h)
    (hok : ∀ x after, Effected h path
      (h.files.writeFile h.folder h.umask h.clock path (Host.bytesOf content)) x after → ok x after)
    (hfault : ∀ fault, faults h (.writeFile path content) = some fault →
      ok (.error fault.error) (h.spoiled fault path)) :
    (request (.writeFile path content) : Action ε _).Throughout (Host.performDespite faults) during h
      ok failed :=
  throughout_despite hduring (hok _ _ (effected_answerAt h path _)) hfault

theorem throughout_setMode {mode : Nat} (hduring : during h)
    (hok : ∀ x after, Effected h path (h.files.setMode h.folder path mode) x after → ok x after)
    (hfault : ∀ fault, faults h (.setMode path mode) = some fault →
      ok (.error fault.error) h.later) :
    (request (.setMode path mode) : Action ε _).Throughout (Host.performDespite faults) during h ok
      failed :=
  throughout_despite hduring (hok _ _ (effected_answerAt h path _)) hfault

theorem throughout_removeFile (hduring : during h)
    (hok : ∀ x after, Effected h path (h.files.removeFile h.folder path) x after → ok x after)
    (hfault : ∀ fault, faults h (.removeFile path) = some fault →
      ok (.error fault.error) h.later) :
    (request (.removeFile path) : Action ε _).Throughout (Host.performDespite faults) during h ok
      failed :=
  throughout_despite hduring (hok _ _ (effected_answerAt h path _)) hfault

/-- A move that fails leaves the file where it was.  Two paths are handed over, and what is refused
is told with both of them. -/
theorem throughout_rename {source target : String} {ok : Except FileError Unit → Host → Prop}
    (hsource : acceptable source = true) (htarget : acceptable target = true) (hduring : during h)
    (hok : ∀ files, h.files.rename h.folder source target = .ok files →
      ok (.ok ()) { h.later with files := files })
    (herror : ∀ e, ok (.error (.refused e source (some target))) h.later)
    (hfault : ∀ fault, faults h (.rename source target) = some fault →
      ok (.error fault.error) h.later) :
    (request (.rename source target) : Action ε _).Throughout (Host.performDespite faults) during h
      ok failed := by
  refine throughout_despite hduring ?_ hfault
  rw [Host.perform, Host.answer, hsource, htarget]
  cases hrename : h.files.rename h.folder source target with
  | ok files => exact hok files hrename
  | error e => exact herror e

end Requests

/-- Looking around does not fail. -/
theorem Asks.throughout_looking {a : Action ε α} (ha : a.Asks Request.isLooking)
    (hduring : ∀ cur, h.Agrees cur → during cur) (hend : a.Ensures h ok failed) :
    a.Throughout (Host.performDespite faults) during h ok failed := by
  refine Throughout.during_imp (ha.throughout_of_keeps Host.performDespite_of_isLooking ?_
    (.refl h) hend) hduring
  intro cur r hr hagrees
  exact hagrees.trans (cur.agrees_perform_of_isLooking r hr)

/-- What leaves the files as they are does not fail. -/
theorem Asks.throughout_leavesFiles {a : Action ε α} (ha : a.Asks Request.leavesFiles)
    (hduring : ∀ cur : Host, cur.files = h.files ∧ cur.folder = h.folder → during cur)
    (hend : a.Ensures h ok failed) :
    a.Throughout (Host.performDespite faults) during h ok failed := by
  refine Throughout.during_imp (ha.throughout_of_keeps Host.performDespite_of_leavesFiles ?_
    ⟨rfl, rfl⟩ hend) hduring
  intro cur r hr hsame
  obtain ⟨hfiles, hfolder⟩ := cur.files_perform_of_leavesFiles r hr
  exact ⟨hfiles.trans hsame.1, hfolder.trans hsame.2⟩

end Action

end MethodMacros
