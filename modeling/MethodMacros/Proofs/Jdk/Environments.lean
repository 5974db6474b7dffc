import MethodMacros.Proofs.Jdk.Finding

/-!
# Environments that are given

Variables can be looked up in given settings instead of the environment of the process.  Then the
environment of the process should not matter.  It does in one place: where no search path is given,
that of the process is gone through.

So without a search path, looking for a JDK finds what it finds with the search path of the process
and no other variable, once the variables have led to nothing (`homeFor_within`).  This cannot be
told from outside if the search does not get there, or if no search path at all leads to a JDK.
These are all the cases in which the environment of the process does not matter, which is shown in
both directions.

* `Host.within`: the same host with another environment of its process.
* `Host.SelfContained`: the four cases.  A search path is given, or the tool is not searched for, or
  the search ends with the variables, or no search path leads anywhere.
* `forall_find_within_iff`: the search finds the same in each environment exactly in these cases.

`find_within_barePathHost` is a search with no variables at all that finds a JDK by the search path
of the process.
-/

namespace MethodMacros

namespace Host

/-- The same host, as a process with another environment sees it. -/
def within (h : Host) (environment : List (String × String)) : Host :=
  { h with environment := environment }

/-- With these settings the search for a JDK does not depend on the environment of the process:
there is a search path, or none is needed for such a name, or the search has ended before, or no
search path leads to a JDK. -/
inductive SelfContained (h : Host) (settings : List (String × String)) (tool : String) : Prop where
  | searchPath {path : String} (hpath : settings.lookup "PATH" = some path)
  | slash (hslash : tool.toList.contains '/' = true)
  | ended (hended : h.homeAmong tool (h.variableHomes (.given settings)) ≠ .ok none)
  | nowhere (hnone : ∀ path, h.homeFor (.given [("PATH", path)]) tool = .error (.noJdk tool))

variable {h : Host} {settings : List (String × String)} {tool : String}

/-- Searches that find the same at the variables and on the search path find the same. -/
theorem homeFor_congr {first second : List (String × String)} {environment other : Jdk.Environment}
    (hvariables : h.homeAmong tool ((h.within first).variableHomes environment) =
      h.homeAmong tool ((h.within second).variableHomes other))
    (hpath : (h.within first).onPath environment tool = (h.within second).onPath other tool) :
    (h.within first).homeFor environment tool = (h.within second).homeFor other tool := by
  have hhomes : (h.within first).pathHomes environment tool =
      (h.within second).pathHomes other tool := by
    rw [pathHomes, pathHomes, hpath]
    rfl
  have hsame (environment : List (String × String)) (homes : List Path) :
      (h.within environment).homeAmong tool homes = h.homeAmong tool homes := rfl
  rw [homeFor, homeFor, hhomes, hsame, hsame, hvariables]
  rfl

/-- What is on the search path is told by the search path. -/
theorem onPath_congr {first second : List (String × String)} {environment other : Jdk.Environment}
    (hpath : (h.within first).searchPath environment = (h.within second).searchPath other) :
    (h.within first).onPath environment tool = (h.within second).onPath other tool := by
  rw [onPath, onPath, hpath]
  rfl

/-- A search path that is given is the one that is gone through. -/
theorem homeFor_within_of_path {path : String} (hpath : settings.lookup "PATH" = some path)
    (first second : List (String × String)) :
    (h.within first).homeFor (.given settings) tool =
      (h.within second).homeFor (.given settings) tool := by
  have hsearch (environment : List (String × String)) :
      (h.within environment).searchPath (.given settings) = path := by
    rw [searchPath, valueIn, hpath, Option.getD_some]
  exact homeFor_congr rfl (onPath_congr ((hsearch first).trans (hsearch second).symm))

/-- A search that ends at the variables does not read the search path. -/
theorem homeFor_within_of_ended
    (hended : h.homeAmong tool (h.variableHomes (.given settings)) ≠ .ok none)
    (first second : List (String × String)) :
    (h.within first).homeFor (.given settings) tool =
      (h.within second).homeFor (.given settings) tool := by
  have hsame (environment : List (String × String)) :
      (h.within environment).homeAmong tool ((h.within environment).variableHomes
        (.given settings)) = h.homeAmong tool (h.variableHomes (.given settings)) := rfl
  rw [homeFor, homeFor, hsame, hsame]
  rcases hfound : h.homeAmong tool (h.variableHomes (.given settings)) with e | _ | home
  · rfl
  · exact absurd hfound hended
  · rfl

/-- **The fallback.**  Without a search path, and where the variables lead to nothing, the search
goes on with the search path of the process. -/
theorem homeFor_within (hpath : settings.lookup "PATH" = none)
    (hvariables : h.homeAmong tool (h.variableHomes (.given settings)) = .ok none)
    (environment : List (String × String)) :
    (h.within environment).homeFor (.given settings) tool =
      h.homeFor (.given [("PATH", (environment.lookup "PATH").getD defaultSearchPath)]) tool := by
  have hsearch : (h.within environment).searchPath (.given settings) =
      (environment.lookup "PATH").getD defaultSearchPath := by
    rw [searchPath, valueIn, hpath]
    rfl
  exact homeFor_congr hvariables (onPath_congr hsearch)

/-- Nothing is found without variables and without the tool on the search path. -/
theorem homeFor_of_onPath {environment : Jdk.Environment}
    (hvariables : h.variableHomes environment = [])
    (honPath : h.onPath environment tool = none) :
    h.homeFor environment tool = .error (.noJdk tool) := by
  rw [homeFor, pathHomes, hvariables, honPath]
  rfl

/-- An empty search path leads nowhere. -/
theorem homeFor_of_empty (hslash : tool.toList.contains '/' = false) :
    h.homeFor (.given [("PATH", "")]) tool = .error (.noJdk tool) := by
  refine homeFor_of_onPath rfl ?_
  rw [onPath, hslash]
  rfl

/-- The settings are all that matters exactly in these cases, whatever is made of the home that is
found. -/
theorem forall_map_homeFor_within_iff {α : Type} (f : Path → α) :
    (∀ first second, f <$> (h.within first).homeFor (.given settings) tool =
      f <$> (h.within second).homeFor (.given settings) tool) ↔ h.SelfContained settings tool := by
  constructor
  · intro hsame
    cases hpath : settings.lookup "PATH" with
    | some path => exact .searchPath hpath
    | none =>
      cases hslash : tool.toList.contains '/' with
      | true => exact .slash hslash
      | false =>
        by_cases hvariables : h.homeAmong tool (h.variableHomes (.given settings)) = .ok none
        · -- A process can have any search path, also an empty one, and all of them lead to the same.
          refine .nowhere fun path => ?_
          have hboth := hsame [("PATH", path)] [("PATH", "")]
          rw [homeFor_within hpath hvariables, homeFor_within hpath hvariables] at hboth
          exact eq_error_of_map (hboth.trans (congrArg (f <$> ·) (homeFor_of_empty hslash)))
        · exact .ended hvariables
  · intro hcontained first second
    refine congrArg (f <$> ·) ?_
    cases hcontained with
    | searchPath hpath => exact homeFor_within_of_path hpath first second
    | slash hslash =>
      refine homeFor_congr rfl ?_
      rw [onPath, onPath, if_pos hslash, if_pos hslash]
      rfl
    | ended hended => exact homeFor_within_of_ended hended first second
    | nowhere hnone =>
      cases hpath : settings.lookup "PATH" with
      | some path => exact homeFor_within_of_path hpath first second
      | none =>
        by_cases hvariables : h.homeAmong tool (h.variableHomes (.given settings)) = .ok none
        · rw [homeFor_within hpath hvariables, homeFor_within hpath hvariables, hnone, hnone]
        · exact homeFor_within_of_ended hvariables first second

end Host

namespace Jdk

open MethodMacros.Action

variable (h : Host) (settings : List (String × String)) (tool : String)

/-- **Given environments.**  With given settings the environment of the process does not matter to
the search for a JDK exactly if the settings hold a search path or none is needed.  It never matters
to a tool that is asked for by its path. -/
theorem forall_find_within_iff :
    ((∀ first second, ((find (.given settings) tool).on (h.within first)).1 =
        ((find (.given settings) tool).on (h.within second)).1) ↔
      h.SelfContained settings tool) ∧
    ((∀ first second, ((locate (.given settings) tool none).on (h.within first)).1 =
        ((locate (.given settings) tool none).on (h.within second)).1) ↔
      h.SelfContained settings tool) ∧
    ∀ path first second, ((locate (.given settings) tool (some path)).on (h.within first)).1 =
      ((locate (.given settings) tool (some path)).on (h.within second)).1 := by
  have hfind (cur : Host) : ((find (.given settings) tool).on cur).1 =
      id <$> cur.homeFor (.given settings) tool := by
    rw [(finds_find (.given settings) tool cur cur (.refl cur)).1, id_map]
  have hlocate (cur : Host) : ((locate (.given settings) tool none).on cur).1 =
      (toolIn · tool) <$> cur.homeFor (.given settings) tool :=
    (finds_locate (.given settings) tool cur none cur (.refl cur)).1
  refine ⟨?_, ?_, fun path first second => ?_⟩
  · simp only [hfind]
    exact Host.forall_map_homeFor_within_iff id
  · simp only [hlocate]
    exact Host.forall_map_homeFor_within_iff (toolIn · tool)
  · rw [(finds_locate (.given settings) tool _ (some path) _ (.refl (h.within first))).1,
      (finds_locate (.given settings) tool _ (some path) _ (.refl (h.within second))).1]
    rfl

/-- No settings at all, and a JDK that is on the search path of some processes and not of others. -/
def barePathHost : Host where
  files := .ofList [(["jdk"], .directory 0o755), (["jdk", "bin"], .directory 0o755),
    (["jdk", "bin", "javap"], .file ⟨0o755, 0, [], none⟩)]
  folder := []
  clock := 0

theorem find_within_barePathHost :
    ((find (.given []) "javap").on (barePathHost.within [("PATH", "/jdk/bin")])).1 =
        .ok ⟨.single, ["jdk"]⟩ ∧
      ((find (.given []) "javap").on (barePathHost.within [])).1 = .error (.noJdk "javap") := by
  refine ⟨eq_ok_of_toOption (by decide +kernel), ?_⟩
  rw [(finds_find _ _ _ _ (.refl _)).1]
  exact Host.homeFor_of_onPath rfl (by decide +kernel)

end Jdk

end MethodMacros
