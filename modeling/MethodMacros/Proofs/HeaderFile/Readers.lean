import MethodMacros.Proofs.FileSystem.Trees
import MethodMacros.Proofs.HeaderFile.EndStates

/-!
# What readers of a header see

Others may look at the path of a header at any time while it is written, and any operation may fail.
What they see changes at most once, when the header is moved to its place (`exists_switch`).  Before
that they see what was there before, or nothing if nothing was.

## Why nothing else shows

What is seen at a path is one of the things that `KeptBeside` is about, so `throughout_replace` keeps
it up to the move.  There are two reasons to give (`keptBeside_view`).  A directory is made where
nothing is, and it is empty at first, so the path leads nowhere both before and after.  And the
temporary file lies in the directory of the header under another name.  After the move nothing is
done to files any more; there is one entry left for the log.

## Links

If the path leads to a link, the header takes the place of the link.  Should the path run through the
link that it names, then it leads nowhere afterwards: `states_linkedPath` is such a case.

## Paths that lead up

A path with two dots in it can lead through a directory that is missing to one that is there, and
making the first would show what is in the second.  So such paths are left out.
-/

namespace MethodMacros

open MethodMacros.Action

/-- What others see at a path: the entry that it leads to, which may be a link. -/
def Host.view (h : Host) (p : Path) : Option Entry := h.files.view h.folder (toString p)

namespace Host

variable {p : Path} {h cur mid after : Host} {m : Location} {node : FileNode}

theorem view_congr (hfiles : after.files = cur.files) (hfolder : after.folder = cur.folder) :
    after.view p = cur.view p := by
  rw [view, hfiles, hfolder, view]

theorem view_of_agrees (hagrees : cur.Agrees after) : after.view p = cur.view p :=
  view_congr hagrees.sameFiles.files_eq hagrees.sameFiles.folder_eq

/-- A file in the directory of a path under another name is not seen at the path. -/
theorem view_of_sameBut {t : Location} (hp : p.IsNormal) (hdots : p.name ≠ "..")
    (hbeside : ∀ d, t ≠ d ++ [p.name]) (hparent : cur.HasDirectory (toString p.parent))
    (hways : cur.files.KeepsWays after.files) (hsame : cur.SameBut t after) :
    after.view p = cur.view p := by
  obtain ⟨-, d, mode, hd⟩ := hparent
  rw [view, hsame.folder_eq, view]
  exact FileSystem.view_congr hp hdots hd (hways.reach_directory hd)
    (hsame.get?_eq _ (hbeside d).symm)

/-- A directory above a path that has just been made is not seen at the path. -/
theorem view_makeDirectory {n : Nat} {files : FileSystem} (hp : p.IsNormal) (hdots : ".." ∉ p.parts)
    (hn : n ≤ p.parent.parts.length)
    (hmade : h.files.makeDirectory h.folder h.umask (toString (p.parent.upTo n)) = .ok files) :
    ({ h.later with files := files } : Host).view p = h.view p := by
  obtain ⟨k, mode, hvacant, rfl⟩ := FileSystem.makeDirectory_eq_ok hmade
  -- The directory is made for a proper beginning of the path.
  have hlength : p.parent.parts.length = p.parts.length - 1 := List.length_dropLast
  have hparts : p.parts = (p.parent.upTo n).parts ++ p.parts.drop n := by
    have htake : p.parts.dropLast.take n = p.parts.take n := by
      rw [List.dropLast_eq_take, List.take_take, Nat.min_eq_left (by omega)]
    have happend := List.take_append_drop n p.parts
    rwa [← htake, eq_comm] at happend
  have hmore : p.parts.drop n ≠ [] := by
    have hne := List.length_pos_iff.mpr (FileSystem.parts_ne_nil_of_vacant hvacant)
    have hle : (p.parent.upTo n).parts.length ≤ n := List.length_take_le n _
    rw [Ne, List.drop_eq_nil_iff]
    omega
  have hq : (p.parent.upTo n).IsNormal :=
    hp.parent.of_subset fun _ hpart => List.mem_of_mem_take hpart
  exact FileSystem.view_insert hp hq hdots rfl hparts hmore hvacant

end Host

namespace HeaderFile

/-- What is seen at the path of a header does not change before the header is in its place. -/
theorem keptBeside_view {p : Path} (hp : p.IsNormal) (hdots : ".." ∉ p.parts) (h : Host) :
    KeptBeside p fun cur => cur.view p = h.view p where
  along := {
    agrees := by
      intro cur after hview hagrees
      exact (Host.view_of_agrees hagrees).trans hview
    made := by
      intro cur n files hn hview _ hmade
      exact (Host.view_makeDirectory hp hdots hn hmade).trans hview }
  beside := by
    intro cur after t hbeside hparent hways hsame hview
    exact (Host.view_of_sameBut hp (p.name_ne_dots hdots) hbeside hparent hways hsame).trans hview

end HeaderFile

/-- A header has been written, and its path shows it: unless the path runs through a link that stood
in the place of the header. -/
structure Host.Shown (answering : Answering) (p : Path) (text : String) (h mid placed : Host)
    (m : Location) (node : FileNode) : Prop
    extends h.Written answering p text mid placed m node where
  view_eq : (∀ target, h.view p ≠ some (.link target)) ∨
      (mid.files.erase m).reach mid.folder (toString p) false = .ok (.vacant m) →
    placed.view p = some (.file node)

/-- What was seen up to the move decides whether the header is seen after it. -/
theorem Host.Replaced.shown {answering : Answering} {p : Path} {text : String}
    {h mid placed : Host} {m : Location} {node : FileNode}
    (hreplaced : h.Replaced answering (fun cur => cur.view p = h.view p) p text mid placed m node) :
    h.Shown answering p text mid placed m node := by
  have hwritten := hreplaced.written
  refine { hwritten with view_eq := fun hplace => ?_ }
  have hview : h.view p = mid.files.get? m :=
    hreplaced.kept_mid.symm.trans (FileSystem.view_of_reachedAt hwritten.names)
  rw [hview] at hplace
  exact FileSystem.view_of_found (hwritten.reached hplace)

namespace HeaderFile

/-- **Readers.**  Whatever fails while a header is written, all hosts on the way show at its path
what was there before, up to the one in which the header is in its place, complete and with its
permissions.  If there is such a host, writing succeeds, and from then on nothing changes but the
clock and the messages.  The path shows the header unless it runs through the link that the header
has replaced. -/
theorem exists_switch (faults : Faults) {s : String} (hdots : ".." ∉ (Path.ofString s).parts)
    (text : String) (h : Host) :
    ∃ before later,
      (write (.ofString s) text).statesIn (Host.performDespite faults) h = before ++ later ∧
      (∀ cur ∈ before, cur.view (.ofString s) = h.view (.ofString s)) ∧
      (later ≠ [] ↔ ((write (.ofString s) text).onIn (Host.performDespite faults) h).1 = .ok ()) ∧
      (later ≠ [] → ∃ mid placed m node,
        h.Shown (Host.performDespite faults) (.ofString s) text mid placed m node ∧
          ∀ cur ∈ later, placed.Agrees cur) := by
  obtain ⟨hduring, hend⟩ :=
    throughout_replace faults (keptBeside_view (Path.isNormal_ofString s) hdots h) rfl text
  rw [statesIn, write_eq, passedIn_bind, onIn_bind]
  rcases hon : (replace (.ofString s) text).onIn (Host.performDespite faults) h with
    ⟨f | _, placed⟩
  · have hundone := hend.of_error hon
    dsimp only
    refine ⟨_, [], (List.append_nil _).symm, ?_, by simp, by simp⟩
    intro cur hcur
    rw [List.append_nil, List.mem_append, List.mem_singleton] at hcur
    rcases hcur with hcur | rfl
    · exact hduring cur hcur
    · exact hundone.kept_after
  · obtain ⟨mid, m, node, hreplaced⟩ := hend.of_ok hon
    dsimp only
    rw [List.append_assoc]
    refine ⟨_, _, rfl, hduring, iff_of_true (by simp) rfl,
      fun _ => ⟨mid, placed, m, node, hreplaced.shown, ?_⟩⟩
    -- What is left to do is one more entry in the log.
    obtain ⟨hasked, hlogged⟩ :=
      throughout_log faults ("Header written to " ++ toString (Path.ofString s)) placed
    intro cur hcur
    rcases List.mem_append.mp hcur with hcur | hcur
    · exact hasked cur hcur
    · obtain rfl := List.mem_singleton.mp hcur
      exact hlogged

/-- If the new header cannot be moved to its place, the old one is seen all the time. -/
theorem exists_switch_failingRename :
    let p := Path.ofString "current/x.h"
    ".." ∉ p.parts ∧ (oldHeaderHost.view p).isSome = true ∧
      ∀ cur ∈ (write p "new").statesIn (Host.performDespite failingRename) oldHeaderHost,
        cur.view p = oldHeaderHost.view p := by
  intro p
  have hdots : ".." ∉ p.parts := by decide
  have hview : (oldHeaderHost.view p).isSome = true := by decide +kernel
  have hfailed : ((write p "new").onIn (Host.performDespite failingRename)
      oldHeaderHost).1.toOption.isNone = true := by
    decide +kernel
  obtain ⟨before, later, hstates, hbefore, hlater, -⟩ :=
    exists_switch failingRename hdots "new" oldHeaderHost
  have hnone : later = [] := by
    refine Classical.byContradiction fun hne => ?_
    exact ne_ok_of_toOption hfailed () (hlater.mp hne)
  refine ⟨hdots, hview, ?_⟩
  rw [hstates, hnone, List.append_nil]
  exact hbefore

/-- While a header is written to a path that runs through the link that it names, the path shows the
link first, and nothing in the end: neither what was there before nor the header. -/
theorem states_linkedPath :
    linkedHost.view linkedPath = some (.link ".") ∧
      ∃ cur ∈ (write linkedPath "x").run.states linkedHost, cur.view linkedPath = none := by
  decide +kernel

end HeaderFile

end MethodMacros
