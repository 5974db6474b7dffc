import MethodMacros.Header
import MethodMacros.Proofs.Report.Pairing
import MethodMacros.Proofs.Results

/-!
# Why a report gives no records

Two things can stand between a report and its records.  A pattern of the configuration may not be
valid, and then the report is not looked at; of several such patterns the first in the order of the
kinds of lines is told.  Or the patterns are valid and some line of the report fails, and then the
first such line is told.

A pattern may also be refused for another reason than its form, like a repetition that is too long
for the matcher.  `Config.FailsByForm` leaves this out.

* `Config.Invalid`, `Config.FirstInvalid`, `firstInvalid_of_patterns`: patterns that are not valid,
  and the one that is told.
* `firstFailure_of_fault`, `fault_eq_none_iff`: lines that fail, and the one that is told.
* `result_eq_ok`, `generate_of_collect`: if neither stands in the way, there are records and a
  header.
-/

namespace MethodMacros.Report

/-! ## Patterns that are not valid -/

/-- The pattern of a configuration for a kind of line. -/
def Config.pattern (config : Config) : LineKind → String
  | .error => config.errorPattern
  | .name => config.namePattern
  | .signature => config.signaturePattern

/-- The pattern for a kind of line has to have a group. -/
def LineKind.captures : LineKind → Bool
  | .error => false
  | .name | .signature => true

/-- The place of a kind among the kinds of lines. -/
def LineKind.rank : LineKind → Nat
  | .error => 0
  | .name => 1
  | .signature => 2

/-- The pattern for a kind of line is not valid: it is malformed, or it lacks a group. -/
inductive Config.Invalid (config : Config) (kind : LineKind) : PatternError → Prop where
  | malformed (fault : Pattern.Fault) (place : Option Nat)
      (hread : Pattern.read (config.pattern kind) = .error (.malformed fault place)) :
      Invalid config kind (.unreadable kind (config.pattern kind) (.malformed fault place))
  | withoutGroup (p : Pattern) (hcaptures : kind.captures = true)
      (hread : Pattern.read (config.pattern kind) = .ok p) (hgroups : p.groups = 0) :
      Invalid config kind (.withoutGroup kind (config.pattern kind))

/-- The pattern for a kind of line is the first that is not valid. -/
structure Config.FirstInvalid (config : Config) (kind : LineKind) (e : PatternError) : Prop where
  invalid : config.Invalid kind e
  first : ∀ earlier, earlier.rank < kind.rank → ∀ e', ¬ config.Invalid earlier e'

/-- Patterns that cannot be read have a malformed text. -/
def Config.FailsByForm (config : Config) : Prop :=
  ∀ kind e, Pattern.read (config.pattern kind) = .error e → ∃ fault place, e = .malformed fault place

/-- Reads the pattern for a kind of line. -/
def Config.readKind (config : Config) (kind : LineKind) : Except PatternError Pattern :=
  if kind.captures then readCapturing kind (config.pattern kind)
  else readPattern kind (config.pattern kind)

/-- The three patterns are read one after the other. -/
theorem Config.patterns_eq (config : Config) : config.patterns = (do
    let error ← config.readKind .error
    let name ← config.readKind .name
    let signature ← config.readKind .signature
    return ⟨error, name, signature⟩) := rfl

section Patterns

variable {config : Config} {kind : LineKind} {e : PatternError}

/-- Where patterns fail by their form only, reading one fails exactly if it is not valid. -/
theorem readKind_eq_error_iff (hform : config.FailsByForm) :
    config.readKind kind = .error e ↔ config.Invalid kind e := by
  unfold Config.readKind readCapturing readPattern
  constructor
  · intro h
    cases hread : Pattern.read (config.pattern kind) with
    | error cause =>
      obtain ⟨fault, place, rfl⟩ := hform kind cause hread
      have he : e = .unreadable kind (config.pattern kind) (.malformed fault place) := by
        rw [hread] at h
        split at h <;> exact (Except.error.inj h).symm
      exact he ▸ .malformed fault place hread
    | ok p =>
      rw [hread] at h
      split at h
      · rename_i hcaptures
        rw [mapError_ok, ok_bind] at h
        split at h
        · rename_i hgroups
          obtain rfl := Except.error.inj h
          exact .withoutGroup p hcaptures hread hgroups
        · cases h
      · cases h
  · intro h
    cases h with
    | malformed fault place hread =>
      rw [hread]
      split <;> rfl
    | withoutGroup p hcaptures hread hgroups =>
      rw [if_pos hcaptures, hread, mapError_ok, ok_bind, if_pos hgroups]
      rfl

/-- A pattern that can be read is valid. -/
theorem not_invalid_of_readKind {p : Pattern} (hform : config.FailsByForm)
    (hread : config.readKind kind = .ok p) : ¬ config.Invalid kind e := by
  intro h
  cases hread.symm.trans ((readKind_eq_error_iff hform).mpr h)

theorem firstInvalid_of_readKind (hform : config.FailsByForm)
    (hread : config.readKind kind = .error e)
    (hearlier : ∀ earlier, earlier.rank < kind.rank → ∃ p, config.readKind earlier = .ok p) :
    config.FirstInvalid kind e where
  invalid := (readKind_eq_error_iff hform).mp hread
  first earlier hlt _ := by
    obtain ⟨p, hp⟩ := hearlier earlier hlt
    exact not_invalid_of_readKind hform hp

/-- What is told about patterns that cannot be used is about the first that is not valid. -/
theorem firstInvalid_of_patterns (hform : config.FailsByForm) (h : config.patterns = .error e) :
    ∃ kind, config.FirstInvalid kind e := by
  rw [Config.patterns_eq] at h
  -- The cases follow the order of reading; where one fails, those before it have been read.
  cases herror : config.readKind .error with
  | error e' =>
    rw [herror, error_bind] at h
    obtain rfl := Except.error.inj h
    exact ⟨.error, firstInvalid_of_readKind hform herror fun _ hlt => absurd hlt (Nat.not_lt_zero _)⟩
  | ok p =>
    rw [herror, ok_bind] at h
    cases hname : config.readKind .name with
    | error e' =>
      rw [hname, error_bind] at h
      obtain rfl := Except.error.inj h
      refine ⟨.name, firstInvalid_of_readKind hform hname fun earlier hlt => ?_⟩
      cases earlier with
      | error => exact ⟨p, herror⟩
      | name | signature => exact absurd hlt (by decide)
    | ok q =>
      rw [hname, ok_bind] at h
      cases hsignature : config.readKind .signature with
      | error e' =>
        rw [hsignature, error_bind] at h
        obtain rfl := Except.error.inj h
        refine ⟨.signature, firstInvalid_of_readKind hform hsignature fun earlier hlt => ?_⟩
        cases earlier with
        | error => exact ⟨p, herror⟩
        | name => exact ⟨q, hname⟩
        | signature => exact absurd hlt (by decide)
      | ok r =>
        rw [hsignature] at h
        cases h

/-- Patterns that can be used are all valid. -/
theorem not_invalid_of_patterns {p : LinePatterns} (hform : config.FailsByForm)
    (h : config.patterns = .ok p) : ¬ config.Invalid kind e := by
  rw [Config.patterns_eq] at h
  obtain ⟨error, herror, h⟩ := bind_eq_ok h
  obtain ⟨name, hname, h⟩ := bind_eq_ok h
  obtain ⟨signature, hsignature, -⟩ := bind_eq_ok h
  cases kind with
  | error => exact not_invalid_of_readKind hform herror
  | name => exact not_invalid_of_readKind hform hname
  | signature => exact not_invalid_of_readKind hform hsignature

end Patterns

/-! ## Lines that fail -/

section Lines

variable {p : LinePatterns} {L : List String}

/-- The reading of a whole report, described by the places of its lines. -/
theorem runsTo_read (p : LinePatterns) (L : List String) : ∃ f, RunsTo p L 0 f (read p L) :=
  runsTo_readFrom rfl (Nat.zero_le _) awaits_start

/-- A fault is that of the first line that fails. -/
theorem firstFailure_of_fault {fault : Fault} (h : (read p L).fault = some fault) :
    ∃ f, FirstFailure p L f ∧ FaultAt p L f fault := by
  obtain ⟨f, hruns⟩ := runsTo_read p L
  have hfault := hruns.fault
  rw [h] at hfault
  exact ⟨f, ⟨hruns.le_length, fun _ => hfault.fails, fun i hi => hruns.before i (Nat.zero_le i) hi⟩,
    hfault⟩

/-- Only lines fail. -/
theorem Fails.lt_length {i : Nat} (h : Fails p L i) : i < L.length := by
  have hline : ∃ test, LineAt test L i := by
    rcases h with h | h | ⟨h, -⟩ <;> exact ⟨_, h⟩
  obtain ⟨_, line, hget, -⟩ := hline
  exact (List.getElem?_eq_some_iff.mp hget).1

/-- A report is read to its end if none of its lines fails. -/
theorem fault_eq_none_iff : (read p L).fault = none ↔ ∀ i, ¬ Fails p L i := by
  constructor
  · intro h i hfails
    obtain ⟨f, hruns⟩ := runsTo_read p L
    have hend := hruns.fault
    rw [h] at hend
    exact hruns.before i (Nat.zero_le i) (hend ▸ hfails.lt_length) hfails
  · intro h
    cases hfault : (read p L).fault with
    | none => rfl
    | some fault =>
      obtain ⟨f, -, hat⟩ := firstFailure_of_fault hfault
      exact absurd hat.fails (h f)

end Lines

/-! ## Records -/

/-- With patterns that can be used, records are what the reading of the report results in. -/
theorem collect_eq {config : Config} {p : LinePatterns} (hpatterns : config.patterns = .ok p)
    (report : List String) :
    Header.collect config report = (read p report).result.mapError .report := by
  rw [Header.collect, hpatterns]
  rfl

/-- With its records a report has its header. -/
theorem generate_of_collect {config : Config} {report : List String} {records : List MethodRecord}
    (h : Header.collect config report = .ok records) :
    Header.generate config report = .ok (Header.render config.className records) := by
  rw [Header.generate, h]
  rfl

theorem result_eq_ok {t : Transcript} {records : List MethodRecord} :
    t.result = .ok records ↔ t.fault = none ∧ t.records = records := by
  rw [Transcript.result]
  cases t.fault with
  | none => simp
  | some fault => simp

end MethodMacros.Report
