import MethodMacros.Proofs.Report.Induction

/-!
# Where declarations go

Each declaration that is found ends in one of three ways: it is completed and becomes a record, it is
superseded by another one, or it is dropped at the end of the report.  All three are told in the log, so
the declarations of a report can be counted there.  Only a fault leaves one open: the one that waits
at an error line, or the one whose name was not captured, which never came to wait.

* `EventKind`, `Transcript.logged`: the events of a kind are counted by how their log entries begin.
* `found_accounted`: the account of a report, for each way in which its reading can end.
* `Supersedes`, `supersedes_of_mem_log`: what an entry about a superseded declaration says of the
  lines.

## The balance

What waits before a line, with the declaration on the line, is what ends on the line and what waits
after it (`Outcome.balance_ok`).  Summed up over a report this is `balance_readFrom`; there a declaration
counts if it stands on a line that was read and is no error line.
-/

namespace MethodMacros.Report

/-! ## Kinds of events -/

/-- What an event is about. -/
inductive EventKind where
  | errorFound
  | superseded
  | completed
  | dropped
  deriving DecidableEq, Repr

def Event.kind : Event → EventKind
  | .errorFound _ => .errorFound
  | .superseded _ _ => .superseded
  | .completed _ => .completed
  | .dropped _ => .dropped

/-- The words that the log entry of an event begins with. -/
def EventKind.opening : EventKind → String
  | .errorFound => "Error line in report: "
  | .superseded => "Discarding "
  | .completed => "Parsed method: "
  | .dropped => "Dropping "

/-- A text begins with another one. -/
def beginsWith (start text : String) : Bool :=
  start.toList.isPrefixOf text.toList

/-- How many entries of the log begin with a text. -/
def Transcript.logged (t : Transcript) (start : String) : Nat :=
  t.log.countP fun entry => beginsWith start entry.message

/-- How many events are of a kind. -/
def countKind (kind : EventKind) (events : List Event) : Nat :=
  events.countP fun event => event.kind = kind

@[simp] theorem countKind_append (kind : EventKind) (xs ys : List Event) :
    countKind kind (xs ++ ys) = countKind kind xs + countKind kind ys :=
  List.countP_append

/-- The opening of its log entry tells the kind of an event. -/
theorem beginsWith_opening (kind : EventKind) (event : Event) :
    beginsWith kind.opening event.logEntry.message = decide (event.kind = kind) := by
  cases event <;> cases kind <;>
    simp [beginsWith, Event.logEntry, EventKind.opening, Event.kind, List.isPrefixOf]

/-- So the log has one entry with this opening for each event of the kind. -/
theorem logged_opening (t : Transcript) (kind : EventKind) :
    t.logged kind.opening = countKind kind (t.events.map (·.2)) := by
  rw [Transcript.logged, log_eq, List.countP_map, countKind]
  exact List.countP_congr fun event _ => by simp [beginsWith_opening]

theorem length_records (t : Transcript) :
    t.records.length = countKind .completed (t.events.map (·.2)) := by
  rw [records_eq, List.length_filterMap_eq_countP, countKind, List.countP_map]
  refine List.countP_congr fun entry _ => ?_
  obtain ⟨n, event⟩ := entry
  cases event <;> simp [Event.record?, Event.kind]

/-! ## What ends and what is left open -/

/-- A line at which a declaration is found.  Error lines are not looked at for one. -/
def LinePatterns.declares (p : LinePatterns) (line : String) : Bool :=
  !p.isError line && p.isDeclaration line

/-- The number of declarations that were found in the lines that were read. -/
def Transcript.found (t : Transcript) (p : LinePatterns) (L : List String) : Nat :=
  (L.take t.consumed).countP p.declares

/-- How many declarations wait: one or none. -/
def waitingCount (pending : Option Declaration) : Nat :=
  pending.toList.length

/-- How many declarations end with some events. -/
def settledCount (events : List Event) : Nat :=
  countKind .completed events + countKind .superseded events + countKind .dropped events

/-- How many declarations a fault may leave open. -/
def Fault.LeavesOpen : Fault → Nat → Prop
  | .errorLine _, count => count = 0 ∨ count = 1
  | .nameNotCaptured, count => count = 1
  | .orphanSignature _, count => count = 0

/-- How many declarations may be left open where the reading ends. -/
def LeavesOpen : Option Fault → Nat → Prop
  | none, count => count = 0
  | some fault, count => fault.LeavesOpen count

@[simp] theorem settledCount_append (xs ys : List Event) :
    settledCount (xs ++ ys) = settledCount xs + settledCount ys := by
  simp only [settledCount, countKind_append]
  omega

variable {p : LinePatterns} {L : List String} {line : String} {pending : Option Declaration}
  {events : List Event}

theorem settledCount_supersession (h : p.isDeclaration line = true) :
    settledCount (p.supersession line pending) = waitingCount pending := by
  obtain ⟨m, hm⟩ := Option.isSome_iff_exists.mp h
  cases pending <;>
    simp [LinePatterns.supersession, hm, settledCount, countKind, waitingCount, Event.kind]

variable (pending) in
/-- Looking at a line for a name keeps the balance. -/
theorem balance_inForce (herror : p.isError line = false) (hname : p.lacksName line = false) :
    [line].countP p.declares + waitingCount pending =
      settledCount (p.supersession line pending) + waitingCount (p.inForce line pending) := by
  cases hd : p.isDeclaration line with
  | true =>
    obtain ⟨m, name, -, -, hforce⟩ := inForce_of_isDeclaration pending hd hname
    have hdeclares : [line].countP p.declares = 1 := by simp [LinePatterns.declares, herror, hd]
    have hwaiting : waitingCount (some ⟨line, name⟩) = 1 := rfl
    rw [settledCount_supersession hd, hforce, hdeclares, hwaiting, Nat.add_comm]
  | false =>
    have hdeclares : [line].countP p.declares = 0 := by simp [LinePatterns.declares, hd]
    have hnothing : settledCount [] = 0 := rfl
    rw [supersession_of_not_isDeclaration hd, inForce_of_not_isDeclaration hd, hdeclares, hnothing]

/-- A line after which the reading goes on keeps the balance. -/
theorem Outcome.balance_ok {waiting : Option Declaration}
    (h : Outcome p line pending (events, .ok waiting)) :
    [line].countP p.declares + waitingCount pending =
      settledCount events + waitingCount waiting := by
  cases h with
  | unsigned herror hname hsign => exact balance_inForce pending herror hname
  | paired d s herror hname hs hforce =>
    -- What is in force after the name is looked for is what the signature completes.
    have hforced := balance_inForce pending herror hname
    have hcompleted : settledCount [.completed (d.complete (s.group? 1) line)] = 1 := rfl
    have hwaiting : waitingCount (some d) = 1 := rfl
    have hnone : waitingCount none = 0 := rfl
    rw [hforce, hwaiting] at hforced
    rw [settledCount_append, hcompleted, hnone]
    exact hforced

/-- A line that stops the reading keeps the balance but for what its fault leaves open. -/
theorem Outcome.balance_error {fault : Fault}
    (h : Outcome p line pending (events, .error fault)) :
    ∃ left, fault.LeavesOpen left ∧
      [line].countP p.declares + waitingCount pending = settledCount events + left := by
  cases h with
  | errorLine herror =>
    have hdeclares : [line].countP p.declares = 0 := by simp [LinePatterns.declares, herror]
    have hsettled : settledCount [.errorFound line] = 0 := rfl
    -- An error line is not looked at for a name: what waited before it is all that is left open.
    have hleft : waitingCount pending = 0 ∨ waitingCount pending = 1 := by
      cases pending with
      | none => exact .inl rfl
      | some d => exact .inr rfl
    exact ⟨waitingCount pending, hleft, by rw [hdeclares, hsettled]⟩
  | nameNotCaptured herror hname =>
    have hd : p.isDeclaration line = true := by
      obtain ⟨m, hm, -⟩ := (Option.any_eq_true _ _).mp hname
      simp [LinePatterns.isDeclaration, hm]
    have hdeclares : [line].countP p.declares = 1 := by simp [LinePatterns.declares, herror, hd]
    exact ⟨1, rfl, by rw [settledCount_supersession hd, hdeclares, Nat.add_comm]⟩
  | orphan herror hname hsign hforce =>
    have hforced := balance_inForce pending herror hname
    rw [hforce] at hforced
    exact ⟨0, rfl, hforced⟩

/-- Lines drop nothing. -/
theorem Outcome.countKind_dropped {result : Except Fault (Option Declaration)}
    (h : Outcome p line pending (events, result)) : countKind .dropped events = 0 := by
  have hsuperseded : countKind .dropped (p.supersession line pending) = 0 := by
    unfold LinePatterns.supersession
    cases p.name.match? line with
    | none => rfl
    | some m => cases pending <;> rfl
  cases h with
  | errorLine => rfl
  | nameNotCaptured => exact hsuperseded
  | orphan => exact hsuperseded
  | unsigned => exact hsuperseded
  | paired d s =>
    rw [countKind_append, hsuperseded]
    rfl

/-! ## Whole readings -/

/-- When events happened says nothing about what they are. -/
@[simp] theorem map_snd_timed (n : Nat) (events : List Event) :
    (events.map ((n, ·))).map (·.2) = events := by
  rw [List.map_map]
  exact List.map_id events

theorem mem_timed {n m : Nat} {event : Event} :
    (n, event) ∈ events.map ((m, ·)) ↔ n = m ∧ event ∈ events := by
  simp [eq_comm, and_comm]

/-- The declarations that wait and those on the lines that are read end, or are left open. -/
theorem balance_readFrom (n : Nat) (pending : Option Declaration) (lines : List String) :
    ∃ k left, (readFrom p.sort n pending lines).consumed = n + k ∧
      LeavesOpen (readFrom p.sort n pending lines).fault left ∧
      (lines.take k).countP p.declares + waitingCount pending =
        settledCount ((readFrom p.sort n pending lines).events.map (·.2)) + left := by
  -- What one line leaves waiting, the balance of the next one begins with.
  induction lines generalizing n pending with
  | nil =>
    refine ⟨0, 0, rfl, rfl, ?_⟩
    cases pending <;> rfl
  | cons line rest ih =>
    have hout := outcome_step p line pending
    rcases hstep : step (p.sort line) line pending with ⟨events, fault | waiting⟩
    · rw [hstep] at hout
      obtain ⟨left, hleft, hbalance⟩ := hout.balance_error
      rw [readFrom_cons_error rest hstep]
      refine ⟨1, left, rfl, hleft, ?_⟩
      rw [map_snd_timed, List.take_succ_cons, List.take_zero, hbalance]
    · rw [hstep] at hout
      have hbalance := hout.balance_ok
      obtain ⟨k, left, hconsumed, hleft, hrest⟩ := ih (n + 1) waiting
      rw [readFrom_cons_ok rest hstep]
      refine ⟨k + 1, left, by rw [hconsumed]; omega, hleft, ?_⟩
      rw [List.map_append, map_snd_timed, settledCount_append, List.take_succ_cons,
        ← List.singleton_append, List.countP_append]
      omega

/-- Only the end of a report drops something, and at most one declaration. -/
theorem countKind_dropped_readFrom (n : Nat) (pending : Option Declaration) (lines : List String) :
    countKind .dropped ((readFrom p.sort n pending lines).events.map (·.2)) ≤
      if (readFrom p.sort n pending lines).fault.isNone then 1 else 0 := by
  induction lines generalizing n pending with
  | nil =>
    cases pending with
    | none => exact Nat.zero_le 1
    | some d => exact Nat.le_refl 1
  | cons line rest ih =>
    have hout := outcome_step p line pending
    rcases hstep : step (p.sort line) line pending with ⟨events, fault | waiting⟩
    · rw [hstep] at hout
      rw [readFrom_cons_error rest hstep, map_snd_timed, hout.countKind_dropped]
      exact Nat.zero_le _
    · rw [hstep] at hout
      rw [readFrom_cons_ok rest hstep, List.map_append, map_snd_timed, countKind_append,
        hout.countKind_dropped, Nat.zero_add]
      exact ih (n + 1) waiting

/-! ## What is superseded -/

variable (p L) in
/-- Two declarations that follow each other, without a signature from the first one on until the
second: the first has the name `old`, and what is captured for the second is `new`. -/
structure Supersedes (j i : Nat) (old : String) (new : Option String) : Prop where
  lt : j < i
  first : ∃ line m, L[j]? = some line ∧ p.name.match? line = some m ∧ m.group? 1 = some old
  second : ∃ line m, L[i]? = some line ∧ p.name.match? line = some m ∧ m.group? 1 = new
  consecutive : ∀ k, j < k → k < i → ¬ LineAt p.isDeclaration L k
  unsigned : ∀ k, j ≤ k → k < i → ¬ LineAt p.isSignature L k

/-- What a line supersedes is what waits, for the name on the line. -/
theorem Outcome.of_mem_superseded {result : Except Fault (Option Declaration)} {old : String}
    {new : Option String} (h : Outcome p line pending (events, result))
    (hmem : .superseded old new ∈ events) :
    ∃ d m, pending = some d ∧ d.name = old ∧ p.name.match? line = some m ∧ m.group? 1 = new := by
  have hsupersession : Event.superseded old new ∈ p.supersession line pending := by
    cases h with
    | errorLine => simp at hmem
    | nameNotCaptured => exact hmem
    | orphan => exact hmem
    | unsigned => exact hmem
    | paired d s => simpa using hmem
  unfold LinePatterns.supersession at hsupersession
  cases hm : p.name.match? line with
  | none => simp [hm] at hsupersession
  | some m =>
    cases pending with
    | none => simp [hm] at hsupersession
    | some d =>
      simp only [hm, Option.map_some, Option.toList_some, List.mem_singleton,
        Event.superseded.injEq] at hsupersession
      exact ⟨d, m, rfl, hsupersession.1.symm, rfl, hsupersession.2.symm⟩

/-- What waits before the line at which it is superseded tells where its own line is. -/
theorem Awaits.supersedes {i : Nat} {result : Except Fault (Option Declaration)} {old : String}
    {new : Option String} (h : Awaits p L i i pending) (hline : L[i]? = some line)
    (hout : Outcome p line pending (events, result)) (hmem : .superseded old new ∈ events) :
    ∃ j, Supersedes p L j i old new := by
  obtain ⟨d, m, rfl, rfl, hm, hnew⟩ := hout.of_mem_superseded hmem
  obtain ⟨j, hj, hdline, ⟨m', hm', hname⟩, hlast, hunmet⟩ := h
  exact ⟨j, hj, ⟨d.line, m', hdline, hm', hname⟩, ⟨line, m, hline, hm, hnew⟩, hlast, hunmet⟩

theorem exists_supersedes (n : Nat) (old : String) (new : Option String) :
    (n, .superseded old new) ∈ (read p L).events →
      ∃ j i, n = i + 1 ∧ Supersedes p L j i old new := by
  refine read_induction (p := p) (L := L) (motive := fun _ t =>
    (n, .superseded old new) ∈ t.events → ∃ j i, n = i + 1 ∧ Supersedes p L j i old new)
    ?ends ?stops ?goesOn
  case ends =>
    intro pending _ hmem
    cases pending <;> simp [readFrom] at hmem
  case stops =>
    intro i line pending events fault hline hawaits hout _ hmem
    obtain ⟨rfl, hevent⟩ := mem_timed.mp hmem
    obtain ⟨j, hj⟩ := hawaits.supersedes hline hout hevent
    exact ⟨j, i, rfl, hj⟩
  case goesOn =>
    intro i line pending events waiting t hline hawaits hout _ ht hmem
    rcases List.mem_append.mp hmem with hmem | hmem
    · obtain ⟨rfl, hevent⟩ := mem_timed.mp hmem
      obtain ⟨j, hj⟩ := hawaits.supersedes hline hout hevent
      exact ⟨j, i, rfl, hj⟩
    · exact ht hmem

/-! ## The account -/

/-- How the declarations that were found divide into records and entries of the log, depending on
how the reading of the report ends. -/
def Balances (found records discarded dropped : Nat) : Option Fault → Prop
  | none => found = records + discarded + dropped ∧ dropped ≤ 1
  | some (.orphanSignature _) => found = records + discarded ∧ dropped = 0
  | some .nameNotCaptured => found = records + discarded + 1 ∧ dropped = 0
  | some (.errorLine _) =>
      (found = records + discarded ∨ found = records + discarded + 1) ∧ dropped = 0

/-- What is left open at the end tells how the account balances. -/
theorem balances_of_leavesOpen {found records discarded dropped left : Nat} {fault : Option Fault}
    (hleft : LeavesOpen fault left) (hdropped : dropped ≤ if fault.isNone then 1 else 0)
    (htotal : found = records + discarded + dropped + left) :
    Balances found records discarded dropped fault := by
  cases fault with
  | none =>
    have hnone : left = 0 := hleft
    exact ⟨by omega, hdropped⟩
  | some fault =>
    have hzero : dropped = 0 := Nat.le_zero.mp hdropped
    cases fault with
    | errorLine line =>
      have hopen : left = 0 ∨ left = 1 := hleft
      exact ⟨by omega, hzero⟩
    | nameNotCaptured =>
      have hopen : left = 1 := hleft
      exact ⟨by omega, hzero⟩
    | orphanSignature line =>
      have hopen : left = 0 := hleft
      exact ⟨by omega, hzero⟩

/-- An entry of the log that says so is that of a supersession. -/
theorem supersedes_of_mem_log {entry : LogEntry} (hentry : entry ∈ (read p L).log)
    (hbegins : beginsWith "Discarding " entry.message) :
    ∃ j i old new, Supersedes p L j i old new ∧
      entry = ⟨.debug, "Discarding " ++ old ++ ": no signature before " ++ textOrNone new⟩ := by
  obtain ⟨⟨n, event⟩, hevent, rfl⟩ := List.mem_map.mp hentry
  have hkind : event.kind = .superseded := by
    have hopening := beginsWith_opening .superseded event
    rw [show EventKind.superseded.opening = "Discarding " from rfl, hbegins] at hopening
    exact of_decide_eq_true hopening.symm
  cases event with
  | superseded old new =>
    obtain ⟨j, i, -, hsupersedes⟩ := exists_supersedes n old new hevent
    exact ⟨j, i, old, new, hsupersedes, rfl⟩
  | errorFound | completed | dropped => cases hkind

/-- **Every declaration is accounted for.**  There are as many records as entries of the log that
say so, and the declarations that were found are the records, those that were discarded and the one
that was dropped, but for one that a fault leaves open.  What the log says was discarded for another
declaration is the one before it, with no signature from its line on. -/
theorem found_accounted (p : LinePatterns) (L : List String) :
    let t := read p L
    t.records.length = t.logged "Parsed method: " ∧
      Balances (t.found p L) t.records.length (t.logged "Discarding ") (t.logged "Dropping ") t.fault ∧
      ∀ entry ∈ t.log, beginsWith "Discarding " entry.message → ∃ j i old new,
        Supersedes p L j i old new ∧
        entry = ⟨.debug, "Discarding " ++ old ++ ": no signature before " ++ textOrNone new⟩ := by
  intro t
  have hparsed : t.logged "Parsed method: " = countKind .completed (t.events.map (·.2)) :=
    logged_opening t .completed
  have hdiscarded : t.logged "Discarding " = countKind .superseded (t.events.map (·.2)) :=
    logged_opening t .superseded
  have hdropped : t.logged "Dropping " = countKind .dropped (t.events.map (·.2)) :=
    logged_opening t .dropped
  have hrecords := length_records t
  obtain ⟨k, left, hconsumed, hleft, hbalance⟩ := balance_readFrom (p := p) 0 none L
  have hfound : t.found p L = (L.take k).countP p.declares := by
    rw [Transcript.found, show t.consumed = k from hconsumed.trans (Nat.zero_add k)]
  have hends : t.logged "Dropping " ≤ if t.fault.isNone then 1 else 0 := by
    rw [hdropped]
    exact countKind_dropped_readFrom 0 none L
  have htotal : t.found p L =
      t.records.length + t.logged "Discarding " + t.logged "Dropping " + left := by
    rw [hfound, hrecords, hdiscarded, hdropped]
    exact hbalance
  exact ⟨hrecords.trans hparsed.symm, balances_of_leavesOpen hleft hends htotal,
    fun entry hentry hbegins => supersedes_of_mem_log hentry hbegins⟩

end MethodMacros.Report
