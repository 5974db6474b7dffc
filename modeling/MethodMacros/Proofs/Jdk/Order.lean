import MethodMacros.Proofs.Host.Arguments
import MethodMacros.Proofs.Host.Endings

/-!
# The order in which homes are tried

A JDK is looked for in places that become known one after the other.  A variable gives two homes,
and then the next variable is read; only when both have failed the search path is gone through, and
the links around what it gives are followed.  `Host.homes` writes all these homes down in one list.
What the search finds is the first home in this list that holds the tool, so that the parent of an
early place comes before any later place, and a place without the tool is as good as none
(`find_eq_first`).

* `homeAmong_eq_find?`: where each check can be answered, the search among homes is `List.find?`.
* `pathHomes_eq`, `homeFor_eq`: the homes around the tool on the search path, and all together.
* `isKind_of_locate`, `locate_of_missing`: what is located is a file, and a tool that is asked for
  by its path is not replaced by another one if it is missing.

## Looking ahead

The list is not what is looked at.  The tool on the search path is resolved only if the variables
have not led to a home, and to resolve it could fail.  It does not: what the search path gives is a
file that can be executed, so its path leads somewhere, and where a path leads it can be resolved.
-/

namespace MethodMacros

namespace Host

variable {h : Host} {environment : Jdk.Environment} {tool path : String}

/-! ## What there is to try -/

/-- A home has the tool as a regular file, possibly behind links. -/
def HasTool (h : Host) (tool : String) (home : Path) : Prop :=
  h.IsKind .file (toString (Jdk.toolIn home tool))

instance (h : Host) (tool : String) (home : Path) : Decidable (h.HasTool tool home) :=
  inferInstanceAs (Decidable (h.IsKind .file (toString (Jdk.toolIn home tool))))

/-- Where the tool that the search path gives really lies, when all links are followed. -/
def toolOnPath? (h : Host) (environment : Jdk.Environment) (tool : String) : Option Location := do
  let path ← h.onPath environment tool
  let (l, _) ← (h.files.entryAt h.folder path true).toOption
  return l

/-- The homes to try, in their order: those of the variables, each followed by its parent, and then
the directory two levels above the tool on the search path, followed by its parent. -/
def homes (h : Host) (environment : Jdk.Environment) (tool : String) : List Path :=
  h.variableHomes environment ++
    match h.toolOnPath? environment tool with
    | none => []
    | some l => Jdk.withParent ⟨.single, l.dropLast.dropLast⟩

/-! ## The tool on the search path -/

/-- What may be executed is a file. -/
theorem exists_reach_of_isRunnable (hrunnable : h.isRunnable path = true) :
    acceptable path = true ∧
      ∃ l node, h.files.reach h.folder path true = .ok (.found l (.file node)) := by
  unfold isRunnable at hrunnable
  obtain ⟨hpath, hentry⟩ := Bool.and_eq_true_iff.mp hrunnable
  refine ⟨hpath, ?_⟩
  split at hentry
  · rename_i l node hfile
    exact ⟨l, node, FileSystem.entryAt_eq_ok hfile⟩
  · cases hentry

/-- What the search path gives may be executed. -/
theorem isRunnable_of_onPath (hpath : h.onPath environment tool = some path) :
    h.isRunnable path = true := by
  unfold onPath at hpath
  split at hpath
  · exact List.find?_some hpath
  · split at hpath
    · cases hpath
    · exact List.find?_some hpath

/-- A path that leads somewhere is resolved to the location that it leads to. -/
theorem resolved_ofString {r : FileSystem.Reached} (hfolder : h.files.IsFolderIfAny h.folder)
    (hpath : acceptable path = true) (hreach : h.files.reach h.folder path true = .ok r) :
    h.resolved (.ofString path) = .ok ⟨.single, r.location⟩ := by
  have hplaced := hfolder.isPlaced hreach
  have hlocation : Path.ofString (absolutePath r.location) = ⟨.single, r.location⟩ := by
    rw [absolutePath_eq hplaced.1, Path.ofString_toString hplaced.1]
  -- The location was reached through directories, so its path has no link left to go round in.
  have hcircle : h.files.status h.folder (absolutePath r.location) ≠ .error .linkLoop := by
    have hback := hplaced.reach_absolutePath h.folder
    rw [FileSystem.status, FileSystem.entryAt, hback]
    split
    · rintro ⟨⟩
    · cases r with
      | found l e => rintro ⟨⟩
      | vacant l => rintro ⟨⟩
  have hresolve : h.resolve (toString (Path.ofString path)) = .ok (absolutePath r.location) := by
    rw [resolve, if_pos (acceptable_ofString hpath), resolve_ofString path r hreach]
    dsimp only
    split
    · exact absurd ‹_› hcircle
    · rfl
  rw [resolved, hresolve]
  exact congrArg Except.ok hlocation

theorem toolOnPath?_of_reach {l : Location} {e : Entry}
    (hpath : h.onPath environment tool = some path)
    (hreach : h.files.reach h.folder path true = .ok (.found l e)) :
    h.toolOnPath? environment tool = some l := by
  rw [toolOnPath?, hpath, Option.bind_eq_bind, Option.bind_some,
    FileSystem.entryAt_of_reach hreach]
  rfl

/-- The homes around the tool on the search path can always be told. -/
theorem pathHomes_eq (hfolder : h.files.IsFolderIfAny h.folder) :
    h.pathHomes environment tool = .ok (match h.toolOnPath? environment tool with
      | none => []
      | some l => Jdk.withParent ⟨.single, l.dropLast.dropLast⟩) := by
  cases hpath : h.onPath environment tool with
  | none => rw [pathHomes, toolOnPath?, hpath]; rfl
  | some path =>
    obtain ⟨haccepted, l, node, hreach⟩ := exists_reach_of_isRunnable (isRunnable_of_onPath hpath)
    have hne : path ≠ "" := by
      rintro rfl
      cases hreach
    have hresolved := resolved_ofString hfolder haccepted hreach
    rw [toolOnPath?_of_reach hpath hreach]
    simp only [pathHomes, hpath, hresolved]
    rfl

/-- Looking for a home is looking among all homes. -/
theorem homeFor_eq (hfolder : h.files.IsFolderIfAny h.folder) :
    h.homeFor environment tool = h.homeAmong tool (h.homes environment tool) >>= fun found =>
      match found with
      | some home => .ok home
      | none => .error (.noJdk tool) := by
  rw [homeFor, pathHomes_eq hfolder, homes, homeAmong, homeAmong, findM?_append, bind_assoc]
  refine bind_congr fun found => ?_
  cases found with
  | some home => rfl
  | none => rfl

/-- What is found out about a home is whether it has the tool. -/
theorem decide_hasTool {home : Path} {b : Bool} (hholds : h.holdsTool tool home = .ok b) :
    decide (h.HasTool tool home) = b := by
  have htells : h.tellsKind .file (toString (Jdk.toolIn home tool)) = .ok b :=
    mapError_eq_ok.mp hholds
  have hkind : h.HasTool tool home ↔ b = true := by
    rw [HasTool, ← tellsKind_eq_true, htells, Except.ok.injEq]
  rw [Bool.eq_iff_iff, decide_eq_true_iff, hkind]

/-- A search that does not get stuck finds the first home that has the tool. -/
theorem homeAmong_eq_find? {homes : List Path} (hchecks : ¬ h.StuckAmong tool homes) :
    h.homeAmong tool homes = .ok (homes.find? (h.HasTool tool ·)) := by
  refine findM?_eq_find? (fun home b => decide_hasTool) fun f hfails => hchecks ?_
  obtain ⟨before, home, rest, hhomes, hbefore, hhome⟩ := findM?_eq_error.mp hfails
  cases htells : h.tellsKind .file (toString (Jdk.toolIn home tool)) with
  | error e => exact ⟨before, home, rest, hhomes, hbefore, e, tellsKind_eq_error.mp htells⟩
  | ok b =>
    rw [holdsTool, htells] at hhome
    cases hhome

theorem not_stuckAmong_of_ok {homes : List Path} {found : Option Path}
    (hfound : h.homeAmong tool homes = .ok found) : ¬ h.StuckAmong tool homes := by
  rw [← escapes_homeAmong, hfound, escapes_ok]
  exact id

/-- What is found is a home that has the tool. -/
theorem hasTool_of_homeAmong {homes : List Path} {home : Path}
    (hfound : h.homeAmong tool homes = .ok (some home)) : h.HasTool tool home :=
  of_decide_eq_true (decide_hasTool (findM?_eq_some hfound).2)

end Host

namespace Jdk

open MethodMacros.Action

variable {h : Host} {environment : Environment} {tool : String}

/-- A tool that is located is a file. -/
theorem isKind_of_locate {explicit : Option Path} {path : Path}
    (hlocate : ((locate environment tool explicit).on h).1 = .ok path) :
    h.IsKind .file (toString path) := by
  rw [(finds_locate environment tool h explicit h (.refl h)).1] at hlocate
  cases explicit with
  | some asked =>
    obtain ⟨here, hhere, hdone⟩ := bind_eq_ok hlocate
    cases here with
    | false => cases hdone
    | true =>
      cases hdone
      exact tellsKind_eq_true.mp (mapError_eq_ok.mp hhere)
  | none =>
    obtain ⟨home, hhome, hdone⟩ := bind_eq_ok hlocate
    cases hdone
    obtain ⟨found, hfound, hrest⟩ := bind_eq_ok hhome
    cases found with
    | some first =>
      cases hrest
      exact Host.hasTool_of_homeAmong hfound
    | none =>
      obtain ⟨homes, -, hrest⟩ := bind_eq_ok hrest
      obtain ⟨found, hfound, hdone⟩ := bind_eq_ok hrest
      cases found with
      | none => cases hdone
      | some first =>
        cases hdone
        exact Host.hasTool_of_homeAmong hfound

/-- A tool that was asked for by its path has to be a file. -/
theorem locate_of_missing {path : Path} (hmissing : ¬ h.IsKind .file (toString path))
    (htold : ∀ e, ¬ h.Untold (toString path) e) :
    ((locate environment tool (some path)).on h).1 = .error (.noTool tool path) := by
  rw [(finds_locate environment tool h (some path) h (.refl h)).1, Host.toolFor]
  cases htells : h.tellsKind .file (toString path) with
  | error e => exact absurd (tellsKind_eq_error.mp htells) (htold e)
  | ok here =>
    cases here with
    | true => exact absurd (tellsKind_eq_true.mp htells) hmissing
    | false => rfl

/-- Where a tool was asked for by its path, nothing is asked but what that path leads to. -/
theorem requests_locate (path : Path) :
    (locate environment tool (some path)).run.requests h = [.status (toString path)] := by
  change Request.status (toString path) :: Program.requests _ _ = _
  refine congrArg (List.cons _) ?_
  generalize (h.perform (.status (toString path))).1 = answer
  generalize (h.perform (.status (toString path))).2 = after
  rcases answer with (⟨errno, refused, target⟩ | _) | s
  · cases errno <;> rfl
  · rfl
  · rcases s with ⟨_ | _ | _⟩ <;> rfl

/-- **The order of homes.**  Looking for a JDK finds the first home that holds the tool, and fails
exactly if none does.  So whatever tool is located is a file, and a tool that was asked for by its
path is not searched for if there is no file at this path. -/
theorem find_eq_first (hfolder : h.files.IsFolderIfAny h.folder)
    (hchecks : ¬ h.StuckAmong tool (h.homes environment tool)) :
    ((find environment tool).on h).1 =
        (match (h.homes environment tool).find? (h.HasTool tool ·) with
        | some home => .ok home
        | none => .error (.noJdk tool)) ∧
      (((find environment tool).on h).1 = .error (.noJdk tool) ↔
        ∀ home ∈ h.homes environment tool, ¬ h.HasTool tool home) ∧
      (∀ explicit path, ((locate environment tool explicit).on h).1 = .ok path →
        h.IsKind .file (toString path)) ∧
      (∀ explicit, h.Agrees ((locate environment tool explicit).on h).2) ∧
      ∀ path : Path, ¬ h.IsKind .file (toString path) → (∀ e, ¬ h.Untold (toString path) e) →
        ((locate environment tool (some path)).on h).1 = .error (.noTool tool path) ∧
          (locate environment tool (some path)).run.requests h = [.status (toString path)] := by
  have hfound : ((find environment tool).on h).1 =
      match (h.homes environment tool).find? (h.HasTool tool ·) with
      | some home => .ok home
      | none => .error (.noJdk tool) := by
    rw [(finds_find environment tool h h (.refl h)).1, Host.homeFor_eq hfolder,
      Host.homeAmong_eq_find? hchecks, ok_bind]
  refine ⟨hfound, ?_, fun explicit path => isKind_of_locate, fun explicit =>
    (finds_locate environment tool h explicit h (.refl h)).2, fun path hmissing htold =>
    ⟨locate_of_missing hmissing htold, requests_locate path⟩⟩
  rw [hfound]
  cases hfirst : (h.homes environment tool).find? (h.HasTool tool ·) with
  | none => simpa using hfirst
  | some home =>
    have hmem := List.mem_of_find?_eq_some hfirst
    have hhas := List.find?_some hfirst
    simp only [reduceCtorEq, false_iff]
    exact fun hnone => hnone home hmem (of_decide_eq_true hhas)

/-- A variable may name a JRE inside a JDK.  Then the JDK is found, although another variable names
another JDK. -/
def nestedHost : Host where
  files := .ofList [(["jdk"], .directory 0o755), (["jdk", "jre"], .directory 0o755),
    (["jdk", "bin"], .directory 0o755), (["jdk", "bin", "javap"], .file ⟨0o755, 0, [], none⟩),
    (["other"], .directory 0o755), (["other", "bin"], .directory 0o755),
    (["other", "bin", "javap"], .file ⟨0o755, 0, [], none⟩)]
  folder := []
  clock := 0
  environment := [("JAVA_HOME", "/jdk/jre"), ("JDK_HOME", "/other"), ("PATH", "/other/bin")]

theorem find_nestedHost :
    nestedHost.files.IsFolderIfAny nestedHost.folder ∧
      ¬ nestedHost.StuckAmong "javap" (nestedHost.homes .process "javap") ∧
      ((find .process "javap").on nestedHost).1 = .ok ⟨.single, ["jdk"]⟩ := by
  have hfolder : nestedHost.files.IsFolderIfAny nestedHost.folder :=
    (FileSystem.IsFolder.nil _).isFolderIfAny
  have hchecks : ¬ nestedHost.StuckAmong "javap" (nestedHost.homes .process "javap") :=
    Host.not_stuckAmong_of_ok (eq_ok_of_toOption (a := some ⟨.single, ["jdk"]⟩) (by decide +kernel))
  have hfirst : (nestedHost.homes .process "javap").find? (nestedHost.HasTool "javap" ·) =
      some ⟨.single, ["jdk"]⟩ := by
    decide +kernel
  refine ⟨hfolder, hchecks, ?_⟩
  rw [(find_eq_first hfolder hchecks).1, hfirst]

end Jdk

end MethodMacros
