import MethodMacros.Proofs.Report.Refusals
import MethodMacros.Proofs.Text.ReportLines

/-!
# Reports one after the other

Reports that can each be read can be read as one, and the records of the whole are those of the first
followed by those of the second.  A declaration of the first report may still wait for its signature
where the second begins; but it never gets one from there.

* `completes_readFrom_append`: two readings are put together.
* `enclose`, `render_eq_enclose`: a header is what stands around the sections of its methods, so the
  sections of a joined header are those of the two.
* `collect_append`: records, sections, and the text of the joined report.

## The seam

A report that can be read alone declares a method before its first signature, and this declaration
supersedes whatever waits.  So two readings of it, of which only one begins with a declaration that
waits, are in the same state from the first declaration on, and before it neither completes a record.
`read_of_alone` is the induction over both readings at once.
-/

namespace MethodMacros.Report

variable {p : LinePatterns} {line : String}

/-! ## Lines that do not fail -/

/-- A line that is no signature and does not fail leaves waiting what is in force. -/
theorem step_of_unsigned (pending : Option Declaration) (herror : p.isError line = false)
    (hname : p.lacksName line = false) (hsign : p.isSignature line = false) :
    step (p.sort line) line pending =
      (p.supersession line pending, .ok (p.inForce line pending)) := by
  have houtcome := outcome_step p line pending
  generalize step (p.sort line) line pending = result at houtcome ⊢
  cases houtcome with
  | errorLine herror' => cases herror.symm.trans herror'
  | nameNotCaptured _ hname' => cases hname.symm.trans hname'
  | orphan _ _ hsign' _ => cases hsign.symm.trans hsign'
  | unsigned _ _ _ => rfl
  | paired d s _ _ hs _ => simp [LinePatterns.isSignature, hs] at hsign

/-- A signature completes the declaration in force. -/
theorem step_of_paired {pending : Option Declaration} {d : Declaration} {s : Pattern.Match}
    (herror : p.isError line = false) (hname : p.lacksName line = false)
    (hs : p.signature.match? line = some s) (hforce : p.inForce line pending = some d) :
    step (p.sort line) line pending =
      (p.supersession line pending ++ [.completed (d.complete (s.group? 1) line)], .ok none) := by
  have hsign : p.isSignature line = true := by simp [LinePatterns.isSignature, hs]
  have houtcome := outcome_step p line pending
  generalize step (p.sort line) line pending = result at houtcome ⊢
  cases houtcome with
  | errorLine herror' => cases herror.symm.trans herror'
  | nameNotCaptured _ hname' => cases hname.symm.trans hname'
  | orphan _ _ _ hforce' => cases hforce.symm.trans hforce'
  | unsigned _ _ hsign' => cases hsign.symm.trans hsign'
  | paired d' s' _ _ hs' hforce' =>
    obtain rfl := Option.some.inj (hforce.symm.trans hforce')
    obtain rfl := Option.some.inj (hs.symm.trans hs')
    rfl

/-- A reading without fault: the records that it completes. -/
def Transcript.Completes (t : Transcript) (records : List MethodRecord) : Prop :=
  t.fault = none ∧ t.records = records

/-- What a line does when it does not end the reading. -/
theorem completes_readFrom_cons {n : Nat} {events : List Event}
    {pending waiting : Option Declaration}
    {rest : List String} {records : List MethodRecord}
    (hstep : step (p.sort line) line pending = (events, .ok waiting)) :
    (readFrom p.sort n pending (line :: rest)).Completes records ↔
      ∃ later, (readFrom p.sort (n + 1) waiting rest).Completes later ∧
        records = events.filterMap Event.record? ++ later := by
  simp only [Transcript.Completes, readFrom_cons_ok rest hstep, records_eq, List.filterMap_append,
    filterMap_record?_timed]
  constructor
  · rintro ⟨hfault, rfl⟩
    exact ⟨_, ⟨hfault, rfl⟩, rfl⟩
  · rintro ⟨later, ⟨hfault, rfl⟩, rfl⟩
    exact ⟨hfault, rfl⟩

/-- A line that ends the reading. -/
theorem not_completes_readFrom_cons {n : Nat} {events : List Event} {pending : Option Declaration}
    {fault : Fault} {rest : List String} {records : List MethodRecord}
    (hstep : step (p.sort line) line pending = (events, .error fault)) :
    ¬ (readFrom p.sort n pending (line :: rest)).Completes records := by
  rintro ⟨hfault, -⟩
  rw [readFrom_cons_error rest hstep] at hfault
  cases hfault

/-! ## A declaration that waits at the beginning -/

/-- What is in force in two readings, of which the first may have nothing that waits. -/
theorem inForce_of_alone {alone pending : Option Declaration}
    (hpending : alone = none ∨ alone = pending) (hname : p.lacksName line = false) :
    p.inForce line alone = none ∨ p.inForce line alone = p.inForce line pending := by
  cases hd : p.isDeclaration line with
  | true =>
    obtain ⟨m, name, hm, hn, hforce⟩ := inForce_of_isDeclaration alone hd hname
    obtain ⟨m', name', hm', hn', hforce'⟩ := inForce_of_isDeclaration pending hd hname
    obtain rfl := Option.some.inj (hm.symm.trans hm')
    obtain rfl := Option.some.inj (hn.symm.trans hn')
    exact .inr (hforce.trans hforce'.symm)
  | false =>
    rw [inForce_of_not_isDeclaration hd, inForce_of_not_isDeclaration hd]
    exact hpending

/-- Lines that can be read alone can be read after a declaration that waits, with the same
records. -/
theorem read_of_alone {lines : List String} {n m : Nat} {alone pending : Option Declaration}
    {records : List MethodRecord} (hpending : alone = none ∨ alone = pending)
    (hread : (readFrom p.sort n alone lines).Completes records) :
    (readFrom p.sort m pending lines).Completes records := by
  induction lines generalizing n m alone pending records with
  | nil =>
    obtain ⟨-, rfl⟩ := hread
    exact ⟨rfl, by rw [records_readFrom_nil, records_readFrom_nil]⟩
  | cons line rest ih =>
    have houtcome := outcome_step p line alone
    generalize hstep : step (p.sort line) line alone = result at houtcome
    cases houtcome with
    | errorLine => exact absurd hread (not_completes_readFrom_cons hstep)
    | nameNotCaptured => exact absurd hread (not_completes_readFrom_cons hstep)
    | orphan => exact absurd hread (not_completes_readFrom_cons hstep)
    | unsigned herror hname hsign =>
      obtain ⟨later, hlater, rfl⟩ := (completes_readFrom_cons hstep).mp hread
      refine (completes_readFrom_cons (step_of_unsigned pending herror hname hsign)).mpr
        ⟨later, ih (inForce_of_alone hpending hname) hlater, ?_⟩
      rw [filterMap_record?_supersession, filterMap_record?_supersession]
    | paired d s herror hname hs hforce =>
      obtain ⟨later, hlater, rfl⟩ := (completes_readFrom_cons hstep).mp hread
      -- Alone, the signature was awaited, so a declaration was in force, and it is so here too.
      have hforce' : p.inForce line pending = some d := by
        rcases inForce_of_alone hpending hname with hnone | hsame
        · cases hforce.symm.trans hnone
        · rw [← hsame, hforce]
      refine (completes_readFrom_cons (step_of_paired herror hname hs hforce')).mpr
        ⟨later, ih (.inl rfl) hlater, ?_⟩
      simp only [List.filterMap_append, filterMap_record?_supersession]

/-- Two lists of lines that can each be read alone can be read one after the other. -/
theorem completes_readFrom_append {xs ys : List String} {n m : Nat} {pending : Option Declaration}
    {rs ss : List MethodRecord} (hxs : (readFrom p.sort n pending xs).Completes rs)
    (hys : (readFrom p.sort m none ys).Completes ss) :
    (readFrom p.sort n pending (xs ++ ys)).Completes (rs ++ ss) := by
  induction xs generalizing n pending rs with
  | nil =>
    obtain ⟨-, rfl⟩ := hxs
    rw [records_readFrom_nil]
    exact read_of_alone (.inl rfl) hys
  | cons line rest ih =>
    rcases hstep : step (p.sort line) line pending with ⟨events, fault | waiting⟩
    · exact absurd hxs (not_completes_readFrom_cons hstep)
    · obtain ⟨later, hlater, rfl⟩ := (completes_readFrom_cons hstep).mp hxs
      refine (completes_readFrom_cons hstep).mpr ⟨later ++ ss, ih hlater, ?_⟩
      rw [List.append_assoc]

end MethodMacros.Report

namespace MethodMacros.Header

open Report (MethodRecord)

/-! ## The sections of a header -/

/-- The text of several lines, each ended by a line feed. -/
def textOf (lines : List String) : String := String.join (lines.map (· ++ "\n"))

/-- A header around the section of its methods. -/
def enclose (className methods : String) : String :=
  textOf (opening className) ++ methods ++ textOf [closing className]

/-- What stands around the methods does not depend on them, so a header has one such section. -/
theorem enclose_inj {className s t : String} :
    enclose className s = enclose className t ↔ s = t := by
  rw [enclose, enclose, String.append_left_inj, String.append_right_inj]

theorem textOf_append (xs ys : List String) : textOf (xs ++ ys) = textOf xs ++ textOf ys := by
  rw [textOf, List.map_append, String.join_append]
  rfl

/-- The section of a header is the text of the blocks of its methods. -/
theorem render_eq_enclose (className : String) (records : List MethodRecord) :
    render className records = enclose className (textOf (records.flatMap methodBlock)) := by
  rw [enclose, ← textOf_append, ← textOf_append]
  rfl

/-! ## Joining reports -/

/-- **Joining reports.**  Two reports that can each be read are read one after the other as well,
and the records of the whole are those of the parts.  So the methods of its header are those of the
first header followed by those of the second.  The lines of two texts are joined like the texts,
unless the first ends in the middle of a line or a single terminator comes about between them. -/
theorem collect_append {config : Report.Config} {xs ys : List String}
    {rs ss : List MethodRecord} (hxs : collect config xs = .ok rs)
    (hys : collect config ys = .ok ss) :
    collect config (xs ++ ys) = .ok (rs ++ ss) ∧
      (∃ s t, generate config xs = .ok (enclose config.className s) ∧
        generate config ys = .ok (enclose config.className t) ∧
        generate config (xs ++ ys) = .ok (enclose config.className (s ++ t))) ∧
      ∀ a b : String, Text.EndsLine a.toList → ¬ Text.CutsPair a.toList b.toList →
        Text.reportLines (a ++ b) = Text.reportLines a ++ Text.reportLines b := by
  have hjoined : collect config (xs ++ ys) = .ok (rs ++ ss) := by
    obtain ⟨patterns, hpatterns, -⟩ := bind_eq_ok hxs
    rw [mapError_eq_ok] at hpatterns
    rw [Report.collect_eq hpatterns, mapError_eq_ok, Report.result_eq_ok] at hxs hys ⊢
    exact Report.completes_readFrom_append hxs hys
  refine ⟨hjoined, ⟨textOf (rs.flatMap methodBlock), textOf (ss.flatMap methodBlock), ?_, ?_, ?_⟩,
    fun a b hends hcut => Text.reportLines_append hends hcut⟩
  · rw [Report.generate_of_collect hxs, render_eq_enclose]
  · rw [Report.generate_of_collect hys, render_eq_enclose]
  · rw [Report.generate_of_collect hjoined, render_eq_enclose, ← textOf_append,
      List.flatMap_append]

/-- The first report ends with a declaration that waits, and the second begins with another. -/
theorem collect_append_waiting :
    let config : Report.Config := { className := "Main" }
    let xs := ["void a(int);", "  Signature: (I)V", "void b();"]
    let ys := ["void c();", "  Signature: ()V"]
    ∃ r s, collect config xs = .ok [r] ∧ collect config ys = .ok [s] ∧
      collect config (xs ++ ys) = .ok [r, s] ∧ r.name = "a" ∧ s.name = "c" ∧
      Text.EndsLine "void b();\r".toList ∧ ¬ Text.CutsPair "void b();\r".toList "void c();".toList ∧
      Text.reportLines ("void b();\r" ++ "void c();") = ["void b();", "void c();"] := by
  intro config xs ys
  have hxs : collect config xs = .ok
      [⟨"void a(int);", "a", "A", some "(I)V", some "  Signature: (I)V"⟩] :=
    eq_ok_of_toOption (by decide +kernel)
  have hys : collect config ys = .ok
      [⟨"void c();", "c", "C", some "()V", some "  Signature: ()V"⟩] :=
    eq_ok_of_toOption (by decide +kernel)
  obtain ⟨hjoined, -, hlines⟩ := collect_append hxs hys
  have hends : Text.EndsLine "void b();\r".toList := by decide +kernel
  have hcut : ¬ Text.CutsPair "void b();\r".toList "void c();".toList := by decide +kernel
  exact ⟨_, _, hxs, hys, hjoined, rfl, rfl, hends, hcut, hlines _ _ hends hcut⟩

end MethodMacros.Header
