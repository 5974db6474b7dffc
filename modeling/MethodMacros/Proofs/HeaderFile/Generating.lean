import MethodMacros.Proofs.HeaderFile.Escaping
import MethodMacros.Proofs.Report.Refusals
import MethodMacros.Proofs.Report.StandardPatterns

/-!
# Making a header file from a report

A header file is made in three stages, of which each can fail: the patterns are read, the report is
read, and the header is written.  The first two look at nothing but their input, so a failure of
theirs leaves the files as they are, even if it comes with the last line of the report.  Writing
begins when the whole header is known, and whatever comes of it is what comes of the action.

* `Refused`: there is no header, and nothing has been done but logging.
* `Proceeds`: the action ends as writing the header of the report does.
* `refused_of_collect`, `proceeds_of_collect`: which of them it is, is told by the records alone.
* `generate_refines`: and what the records come to is told by the patterns and by the first line
  that fails.

## Where the header is

The header is at the location that its path led to when it was moved there.  The path leads to it
afterwards unless it runs through what stood there before, which can only be a link; then it may
lead nowhere, and `generate_linkedPath` is such a case.
-/

namespace MethodMacros

open MethodMacros.Action

namespace HeaderFile

section Stages

variable (config : Report.Config) (report : List String) (p : Path) (h : Host)

/-- A report gives no header, and an attempt to make a header file of it ends with the same error
and leaves all files as they are. -/
structure Refused (e : Header.GenerateError) : Prop where
  no_header : Header.generate config report = .error e
  no_file : ∃ after, (generate config report p).on h = (.error (.generate e), after) ∧
    h.Agrees after

/-- Making a header file ends as writing the header of the report does: with the number of its
methods when it has been written, or with the failure to write it.  Before it is written nothing
has been done but logging. -/
def Proceeds : Prop :=
  ∃ records header cur, Header.collect config report = .ok records ∧
    header = Header.render config.className records ∧
    Header.generate config report = .ok header ∧ h.Agrees cur ∧
    (write p header).Ensures cur
      (fun _ after => ∃ final mid m node,
        (generate config report p).on h = (.ok records.length, final) ∧ after.Agrees final ∧
        cur.Written Host.perform p header mid final m node)
      fun f after => (generate config report p).on h = (.error f, after)

end Stages

variable {config : Report.Config} {report : List String} {p : Path} {h : Host}

/-! ## The stages -/

/-- Without records nothing is done. -/
theorem refused_of_collect {e : Header.GenerateError}
    (hcollect : Header.collect config report = .error e) : Refused config report p h e := by
  have hfinds := finds_collect config report h
  rw [hcollect] at hfinds
  obtain ⟨hresult, hafter⟩ := hfinds h (.refl h)
  refine ⟨?_, _, on_bind_error hresult _, hafter⟩
  rw [Header.generate, hcollect]
  rfl

/-- With records the header is written, and the action ends as the writing does. -/
theorem ensures_write_of_records {records : List Report.MethodRecord}
    (hcollect : Header.collect config report = .ok records) :
    ∃ cur, h.Agrees cur ∧ (write p (Header.render config.className records)).Ensures cur
      (fun _ after => ∃ final, (generate config report p).on h = (.ok records.length, final) ∧
        after.Agrees final)
      fun f after => (generate config report p).on h = (.error f, after) := by
  have hfinds := finds_collect config report h
  rw [hcollect] at hfinds
  obtain ⟨hresult, hcollected⟩ := hfinds h (.refl h)
  -- Up to the writing there are only log entries, so `cur` has the files of `h`.
  have hstart : ∃ cur, h.Agrees cur ∧ (generate config report p).on h =
      (do write p (Header.render config.className records)
          Action.log .info
            ("Wrote " ++ toString records.length ++ " methods for " ++ config.className)
          return records.length).on cur := by
    rw [generate, on_bind_ok hresult, on_log_bind]
    exact ⟨_, hcollected.trans (.logged _ _ _), rfl⟩
  obtain ⟨cur, hagrees, hgenerate⟩ := hstart
  refine ⟨cur, hagrees, ?_⟩
  rw [hgenerate, on_bind, Ensures]
  rcases (write p (Header.render config.className records)).on cur with ⟨f | _, after⟩
  · rfl
  · exact ⟨_, on_log_bind _ _ _ after, .logged after _ _⟩

theorem proceeds_of_collect {records : List Report.MethodRecord}
    (hcollect : Header.collect config report = .ok records) : Proceeds config report p h := by
  obtain ⟨cur, hagrees, hwrite⟩ := ensures_write_of_records (p := p) (h := h) hcollect
  refine ⟨records, _, cur, hcollect, rfl, Report.generate_of_collect hcollect, hagrees, ?_⟩
  refine (hwrite.and (ensures_write p (Header.render config.className records) cur)).imp ?_
    fun _ _ hfailed => hfailed.1
  rintro _ after ⟨⟨final, hon, hfinal⟩, mid, m, node, hwritten⟩
  exact ⟨final, mid, m, node, hon, hfinal, hwritten.of_agrees hfinal⟩

/-! ## The order of the stages -/

/-- **Making a header file.**  The first pattern that is not valid decides, whatever the report
holds; else the first line of the report that fails; and neither changes any file.  If none of them
fails, there is a header, and all that happens is that it is written. -/
theorem generate_refines (config : Report.Config) (report : List String) (p : Path) (h : Host)
    (hform : config.FailsByForm) :
    ((∃ kind e, config.Invalid kind e) →
      ∃ kind e, config.FirstInvalid kind e ∧ Refused config report p h (.patterns e)) ∧
    ((¬ ∃ kind e, config.Invalid kind e) → ∃ patterns, config.patterns = .ok patterns ∧
      ((∃ i, Report.Fails patterns report i) →
        ∃ f fault, Report.FirstFailure patterns report f ∧ Report.FaultAt patterns report f fault ∧
          Refused config report p h (.report fault)) ∧
      ((∀ i, ¬ Report.Fails patterns report i) → Proceeds config report p h)) := by
  -- The patterns are read first, then the whole report, and only then is anything written.
  cases hpatterns : config.patterns with
  | error e =>
    obtain ⟨kind, hfirst⟩ := Report.firstInvalid_of_patterns hform hpatterns
    refine ⟨fun _ => ⟨kind, e, hfirst, refused_of_collect ?_⟩,
      fun hnone => absurd ⟨kind, e, hfirst.invalid⟩ hnone⟩
    rw [Header.collect, hpatterns]
    rfl
  | ok patterns =>
    have hcollect := Report.collect_eq hpatterns report
    refine ⟨?_, fun _ => ⟨patterns, rfl, ?_, fun hnone => ?_⟩⟩
    · rintro ⟨kind, e, hinvalid⟩
      exact absurd hinvalid (Report.not_invalid_of_patterns hform hpatterns)
    · rintro ⟨i, hfails⟩
      cases hfault : (Report.read patterns report).fault with
      | none => exact absurd hfails (Report.fault_eq_none_iff.mp hfault i)
      | some fault =>
        obtain ⟨f, hfirst, hat⟩ := Report.firstFailure_of_fault hfault
        refine ⟨f, fault, hfirst, hat, refused_of_collect ?_⟩
        rw [hcollect, Report.Transcript.result, hfault]
        rfl
    · rw [Report.result_eq_ok.mpr ⟨Report.fault_eq_none_iff.mpr hnone, rfl⟩] at hcollect
      exact proceeds_of_collect hcollect

/-- A configuration that names only a class has patterns that can be read. -/
theorem failsByForm_of_className (className : String) :
    ({ className := className } : Report.Config).FailsByForm := by
  intro kind e hread
  cases kind with
  | error => cases hread.symm.trans Report.read_errorPattern
  | name => cases hread.symm.trans Report.read_namePattern
  | signature => cases hread.symm.trans Report.read_signaturePattern

/-- The header file of a class with one method, made below a linked directory to where a link leads
to an old header: it takes the place of the link, with the permissions of the old header. -/
theorem generate_refines_oldHeaderHost :
    let config : Report.Config := { className := "Main" }
    let report := ["void main(int);", "  Signature: (I)V"]
    let p : Path := ⟨.relative, ["current", "x.h"]⟩
    config.FailsByForm ∧ (¬ ∃ kind e, config.Invalid kind e) ∧
      Proceeds config report p oldHeaderHost ∧
      ∃ cur header final mid node, oldHeaderHost.Agrees cur ∧
        (generate config report p).on oldHeaderHost = (.ok 1, final) ∧
        cur.Written Host.perform p header mid final ["include", "x.h"] node ∧ node.mode = 0o600 := by
  intro config report p
  have hform := failsByForm_of_className "Main"
  have hpatterns := Report.patterns_of_className "Main"
  have hvalid : ¬ ∃ kind e, config.Invalid kind e := by
    rintro ⟨kind, e, hinvalid⟩
    exact Report.not_invalid_of_patterns hform hpatterns hinvalid
  have hfault : (Report.read Report.standardPatterns report).fault = none := by
    decide +kernel
  have hon : ((generate config report p).on oldHeaderHost).1.toOption = some 1 := by
    decide +kernel
  have hlook : (((generate config report p).on oldHeaderHost).2.files.get? ["include", "x.h"]).map
      (fun e => (e.status.kind, e.status.mode)) = some (.file, 0o600) := by
    decide +kernel
  obtain ⟨-, hrest⟩ := generate_refines config report p oldHeaderHost hform
  obtain ⟨patterns, hread, -, hproceeds⟩ := hrest hvalid
  obtain rfl := Except.ok.inj (hread.symm.trans hpatterns)
  have hproceeds := hproceeds (Report.fault_eq_none_iff.mp hfault)
  refine ⟨hform, hvalid, hproceeds, ?_⟩
  obtain ⟨records, header, cur, -, -, -, hagrees, hwrite⟩ := hproceeds
  rcases hwritten : (write p header).on cur with ⟨f | _, after⟩
  · rw [hwrite.of_error hwritten] at hon
    cases hon
  · obtain ⟨final, mid, m, node, hfinal, -, hplaced⟩ := hwrite.of_ok hwritten
    rw [hfinal] at hon hlook
    have hbefore : cur.files.get? ["include", "x.h"] = some (.link "../old/x.h") := by
      rw [hagrees.sameFiles.files_eq]
      rfl
    have hm : m = ["include", "x.h"] := by
      refine hplaced.eq_of_changed hbefore fun hsame => ?_
      rw [hsame] at hlook
      cases hlook
    subst hm
    rw [hplaced.header] at hlook
    have hcount := Option.some.inj hon
    exact ⟨cur, header, final, mid, node, hagrees, by rw [hfinal, hcount], hplaced,
      (Prod.mk.inj (Option.some.inj hlook)).2⟩

/-- A path that runs through the link that it names leads nowhere when a header file has been made
there, since the header has taken the place of the link. -/
theorem generate_linkedPath :
    ∃ after, (generate { className := "Main" } [] linkedPath).on linkedHost = (.ok 0, after) ∧
      ∀ r, after.files.reach after.folder (toString linkedPath) false ≠ .ok r := by
  have hgenerate : ((generate { className := "Main" } [] linkedPath).on linkedHost).1.toOption =
      some 0 := by
    decide +kernel
  have hreach : (((generate { className := "Main" } [] linkedPath).on linkedHost).2.files.reach
      ((generate { className := "Main" } [] linkedPath).on linkedHost).2.folder
        (toString linkedPath) false).toOption.isNone = true := by
    decide +kernel
  exact ⟨_, on_eq_of_fst (eq_ok_of_toOption hgenerate), ne_ok_of_toOption hreach⟩

end HeaderFile

end MethodMacros
