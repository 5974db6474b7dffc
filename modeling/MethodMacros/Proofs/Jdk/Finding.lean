import MethodMacros.Jdk
import MethodMacros.Proofs.Escaping
import MethodMacros.Proofs.Host.Asking

/-!
# Where the tools of a JDK are found

Looking for a JDK is asking questions only, so it comes down to a search in a list of homes, in
their order.  Most homes are known beforehand from the variables.  Those around the tool on the
search path are looked up only when the others have failed, since this may fail itself.

## The order of homes

`Host.variableHomes` and `Host.pathHomes` are the homes to try, `Host.homeAmong` is the search among
them, and `Host.homeFor` puts the three together.  That the actions find out just this is shown
along their definitions, one action after the other, up to `finds_find` and `finds_locate`.

## What escapes

A search can fail for a reason that is not reported: links that cannot be followed, or a home of
which it cannot be told what it holds.  `Host.StuckAmong` and `Host.StuckLocating` say when this is,
for a list of homes and for a tool, and `escapes_toolFor` that there is no other reason.
-/

namespace MethodMacros

namespace Jdk

/-- A home and its parent, since the tools may lie in either. -/
def withParent (home : Path) : List Path := [home, home.parent]

/-- The homes that the value of a variable stands for.  An empty value stands for none. -/
def homesOf (value : Option String) : List Path :=
  match value with
  | none | some "" => []
  | some text => withParent (.ofString text)

end Jdk

namespace Host

variable (h : Host) (environment : Jdk.Environment) (tool : String)

/-! ## What there is to find -/

/-- The value of a variable. -/
def valueIn (name : String) : Option String :=
  match environment with
  | .process => h.setting? name
  | .given settings => settings.lookup name

/-- The search path. -/
def searchPath : String :=
  (h.valueIn environment "PATH").getD ((h.setting? "PATH").getD defaultSearchPath)

/-- The tool that the search path gives. -/
def onPath : Option String :=
  if tool.toList.contains '/' then [tool].find? h.isRunnable
  else if h.searchPath environment = "" then none
  else (candidates (h.searchPath environment) tool).find? h.isRunnable

/-- The path of what a path leads to. -/
def resolved (p : Path) : Except Failure Path :=
  match h.resolve (toString p) with
  | .ok text => .ok (.ofString text)
  | .error (.refused _ text _) => .error (.linkCircle text)
  | .error .nullByte => .error (.file .nullByte)

/-- A home holds the tool. -/
def holdsTool (home : Path) : Except Failure Bool :=
  (h.tellsKind .file (toString (Jdk.toolIn home tool))).mapError .file

/-- The first of several homes that holds the tool. -/
def homeAmong (homes : List Path) : Except Failure (Option Path) :=
  homes.findM? (h.holdsTool tool)

/-- The homes that the variables stand for. -/
def variableHomes : List Path :=
  Jdk.homesOf (h.valueIn environment "JAVA_HOME") ++ Jdk.homesOf (h.valueIn environment "JDK_HOME")

/-- The homes around the tool on the search path. -/
def pathHomes : Except Failure (List Path) :=
  match h.onPath environment tool with
  | none | some "" => .ok []
  | some path => do return Jdk.withParent (← h.resolved (.ofString path)).parent.parent

/-- The home of a JDK that holds the tool. -/
def homeFor : Except Failure Path := do
  match ← h.homeAmong tool (h.variableHomes environment) with
  | some home => return home
  | none =>
      match ← h.homeAmong tool (← h.pathHomes environment tool) with
      | some home => return home
      | none => throw (.noJdk tool)

/-- The tool to run. -/
def toolFor (explicit : Option Path) : Except Failure Path :=
  match explicit with
  | some path => do
      if ← (h.tellsKind .file (toString path)).mapError .file then return path
      else throw (.noTool tool path)
  | none => do return Jdk.toolIn (← h.homeFor environment tool) tool

end Host

/-! ## Finding it -/

namespace Jdk

open MethodMacros.Action

variable (environment : Environment) (tool : String) (h : Host)

theorem finds_valueOf (name : String) :
    (valueOf environment name).Finds h (.ok (h.valueIn environment name)) := by
  cases environment with
  | process => exact .request rfl
  | given settings => exact .pure _

theorem finds_hasTool (home : Path) : (hasTool home tool).Finds h (h.holdsTool tool home) :=
  (finds_hasKind _ _ h).mapError _

theorem finds_firstRunnable (paths : List String) :
    (firstRunnable paths).Finds h (.ok (paths.find? h.isRunnable)) := by
  induction paths with
  | nil => exact .pure _
  | cons path rest ih =>
    rw [List.find?_cons]
    refine .bind_ok (.request rfl) ?_
    change Finds (if h.isRunnable path = true then _ else _) h _
    cases h.isRunnable path with
    | true => exact .pure _
    | false => exact ih

theorem finds_searchPath :
    (searchPath environment).Finds h (.ok (h.searchPath environment)) := by
  rw [Host.searchPath]
  refine .bind_ok (finds_valueOf environment h "PATH") ?_
  cases h.valueIn environment "PATH" with
  | some path => exact .pure _
  | none => exact .bind_ok (.request rfl) (.pure _)

theorem finds_onPath : (onPath environment tool).Finds h (.ok (h.onPath environment tool)) := by
  rw [onPath, Host.onPath]
  split
  · exact finds_firstRunnable h _
  · refine .bind_ok (finds_searchPath environment h) ?_
    split
    · exact .pure _
    · exact finds_firstRunnable h _

theorem finds_resolve (p : Path) : (resolve p).Finds h (h.resolved p) := by
  have hanswer : (h.answer (.resolve (toString p))).1 = h.resolve (toString p) := rfl
  refine .bind_ok (.request rfl) ?_
  rw [hanswer, Host.resolved]
  rcases h.resolve (toString p) with (⟨errno, text, target⟩ | _) | text
  · exact .throw _
  · exact .throw _
  · exact .pure _

/-- A place is tried together with its parent. -/
theorem finds_atHome (home : Path) :
    (atHome tool home).Finds h (h.homeAmong tool (withParent home)) := by
  refine .bind (finds_hasTool tool h home) fun here => ?_
  cases here with
  | true => exact .bind_ok (.log _ _) (.pure _)
  | false =>
    refine .bind (finds_hasTool tool h home.parent) fun above => ?_
    cases above with
    | true => exact .bind_ok (.log _ _) (.pure _)
    | false => exact .bind_ok (.log _ _) (.pure _)

theorem finds_atVariable (name : String) : (atVariable environment tool name).Finds h
    (h.homeAmong tool (homesOf (h.valueIn environment name))) := by
  refine .bind_ok (finds_valueOf environment h name) ?_
  rcases h.valueIn environment name with _ | text
  · exact .pure none
  · by_cases hempty : text = ""
    · subst hempty
      exact .pure none
    · simp only [homesOf]
      exact finds_atHome tool h _

theorem finds_aroundPath : (aroundPath environment tool).Finds h
    (h.pathHomes environment tool >>= h.homeAmong tool) := by
  refine .bind_ok (finds_onPath environment tool h) ?_
  rw [Host.pathHomes]
  rcases h.onPath environment tool with _ | path
  · exact .pure none
  · by_cases hempty : path = ""
    · subst hempty
      exact .pure none
    · simp only [bind_pure_comp, bind_map_left]
      exact .bind (finds_resolve h _) fun p => finds_atHome tool h _

/-- **Finding a JDK.**  It is the first home that holds the tool. -/
theorem finds_find : (find environment tool).Finds h (h.homeFor environment tool) := by
  rw [Host.homeFor, Host.variableHomes, Host.homeAmong, findM?_append, bind_assoc]
  refine .bind (finds_atVariable environment tool h "JAVA_HOME") fun java => ?_
  cases java with
  | some home => exact .pure home
  | none =>
    refine .bind (finds_atVariable environment tool h "JDK_HOME") fun jdk => ?_
    cases jdk with
    | some home => exact .pure home
    | none =>
      dsimp only
      rw [← bind_assoc]
      refine .bind (finds_aroundPath environment tool h) fun around => ?_
      cases around with
      | some home => exact .pure home
      | none => exact .throw _

theorem finds_locate (explicit : Option Path) :
    (locate environment tool explicit).Finds h (h.toolFor environment tool explicit) := by
  cases explicit with
  | none => exact .bind (finds_find environment tool h) fun _ => .pure _
  | some path =>
    refine .bind ((finds_hasKind _ _ h).mapError _) fun here => ?_
    cases here with
    | true => exact .pure _
    | false => exact .throw _

end Jdk

/-! ## Getting stuck -/

namespace Host

variable {h : Host} {environment : Jdk.Environment} {tool : String}

/-- A search among homes gets stuck: at one of them it cannot be told whether it holds the tool, and
those before it do not. -/
def StuckAmong (h : Host) (tool : String) (homes : List Path) : Prop :=
  ∃ before home rest, homes = before ++ home :: rest ∧
    (∀ other ∈ before, h.holdsTool tool other = .ok false) ∧
    ∃ e, h.Untold (toString (Jdk.toolIn home tool)) e

/-- The search path gives a tool whose links cannot be followed. -/
def UnresolvedOnPath (h : Host) (environment : Jdk.Environment) (tool : String) : Prop :=
  ∃ path e, h.onPath environment tool = some path ∧ path ≠ "" ∧
    h.resolve (toString (Path.ofString path)) = .error e

/-- The search for a JDK gets stuck: at a home that a variable stands for, or if these do not hold
the tool, at the tool on the search path or at a home around it. -/
def StuckSearching (h : Host) (environment : Jdk.Environment) (tool : String) : Prop :=
  h.StuckAmong tool (h.variableHomes environment) ∨
    (∀ home ∈ h.variableHomes environment, h.holdsTool tool home = .ok false) ∧
      (h.UnresolvedOnPath environment tool ∨
        ∃ homes, h.pathHomes environment tool = .ok homes ∧ h.StuckAmong tool homes)

/-- The tool to run cannot be told. -/
def StuckLocating (h : Host) (environment : Jdk.Environment) (tool : String) :
    Option Path → Prop
  | some path => ∃ e, h.Untold (toString path) e
  | none => h.StuckSearching environment tool

theorem escapes_homeAmong {homes : List Path} :
    Escapes (h.homeAmong tool homes) ↔ h.StuckAmong tool homes := by
  constructor
  · rintro ⟨f, hsearch, hreported⟩
    obtain ⟨before, home, rest, hhomes, hbefore, hhome⟩ := findM?_eq_error.mp hsearch
    have hescapes : Escapes (h.holdsTool tool home) := ⟨f, hhome, hreported⟩
    obtain ⟨e, he⟩ := escapes_mapError_file.mp hescapes
    exact ⟨before, home, rest, hhomes, hbefore, e, tellsKind_eq_error.mp he⟩
  · rintro ⟨before, home, rest, hhomes, hbefore, e, he⟩
    have hhome : h.holdsTool tool home = .error (.file e) := by
      rw [holdsTool, tellsKind_eq_error.mpr he]
      rfl
    exact ⟨.file e, findM?_eq_error.mpr ⟨before, home, rest, hhomes, hbefore, hhome⟩, rfl⟩

/-- That links form a circle is not reported, nor that a path cannot be taken. -/
theorem isReported_of_resolved {p : Path} {f : Failure} (hresolved : h.resolved p = .error f) :
    f.isReported = false := by
  unfold resolved at hresolved
  split at hresolved
  · cases hresolved
  · obtain rfl := Except.error.inj hresolved
    rfl
  · obtain rfl := Except.error.inj hresolved
    rfl

theorem escapes_resolved {p : Path} :
    Escapes (h.resolved p) ↔ ∃ e, h.resolve (toString p) = .error e := by
  rw [resolved]
  rcases h.resolve (toString p) with (⟨errno, text, target⟩ | _) | text
  · simp [Failure.isReported]
  · simp [Failure.isReported]
  · simp

theorem escapes_pathHomes :
    Escapes (h.pathHomes environment tool) ↔ h.UnresolvedOnPath environment tool := by
  rw [pathHomes, UnresolvedOnPath]
  rcases h.onPath environment tool with _ | path
  · simp
  · by_cases hempty : path = ""
    · subst hempty
      simp
    · simp [escapes_resolved, hempty]

/-- The search escapes where it gets stuck. -/
theorem escapes_homeFor :
    Escapes (h.homeFor environment tool) ↔ h.StuckSearching environment tool := by
  rw [homeFor, StuckSearching, escapes_bind, escapes_homeAmong, ← escapes_pathHomes,
    ← findM?_eq_none]
  refine or_congr Iff.rfl ⟨?_, ?_⟩
  · rintro ⟨found, hfound, hescapes⟩
    cases found with
    | some home => exact absurd hescapes (escapes_ok home).mp
    | none =>
      refine ⟨hfound, (escapes_bind.mp hescapes).imp id ?_⟩
      rintro ⟨homes, hhomes, hescapes⟩
      refine ⟨homes, hhomes, escapes_homeAmong.mp ?_⟩
      rcases escapes_bind.mp hescapes with hamong | ⟨found, -, hescapes⟩
      · exact hamong
      · cases found with
        | some home => exact absurd hescapes (escapes_ok home).mp
        | none => cases (escapes_throw _).mp hescapes
  · rintro ⟨hfound, hescapes⟩
    refine ⟨none, hfound, escapes_bind.mpr (hescapes.imp id ?_)⟩
    rintro ⟨homes, hhomes, hamong⟩
    exact ⟨homes, hhomes, escapes_bind.mpr (.inl (escapes_homeAmong.mpr hamong))⟩

theorem escapes_toolFor {explicit : Option Path} :
    Escapes (h.toolFor environment tool explicit) ↔ h.StuckLocating environment tool explicit := by
  cases explicit with
  | none =>
    rw [toolFor, StuckLocating, escapes_bind, escapes_homeFor]
    simp
  | some path =>
    rw [toolFor, StuckLocating, escapes_bind, escapes_mapError_file]
    simp only [tellsKind_eq_error]
    refine or_iff_left ?_
    rintro ⟨here, -, hescapes⟩
    cases here with
    | true => exact absurd hescapes (escapes_ok path).mp
    | false => cases (escapes_throw _).mp hescapes

end Host

end MethodMacros
