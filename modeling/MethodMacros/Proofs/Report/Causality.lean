import MethodMacros.Proofs.Report.Accounting

/-!
# Reading is one pass

A report need not be there as a whole when its reading begins.  Each record is handed out with the line
that completes it, and a fault is known with the line at which it is; so what comes out while some lines
are read depends on these lines only.  The times in a transcript say how many lines these are.

Only the end of a report needs care.  A declaration that is dropped there is told after the last line,
when it is known that there is no further one, and a longer report does not tell it.  So what happened
while some lines were read leaves it out (`Transcript.upTo`).

* `upTo_readFrom`: reports that begin alike are read alike up to there.
* `readFrom_of_fault`: nothing is read after a fault.
* `TimedRecordAt`, `timedTo_read`: the time of a record is that of the line that completes it.
* `read_causal`: the three together.
-/

namespace MethodMacros.Report

/-- What happened while the first `m` lines were read, whether or not more lines follow. -/
def Transcript.upTo (t : Transcript) (m : Nat) : Transcript where
  consumed := min t.consumed m
  events := t.events.filter fun entry => entry.1 ≤ m && entry.2.kind != .dropped
  fault := if t.consumed ≤ m then t.fault else none

variable {p : LinePatterns} {L : List String} (sort : String → Sorted)

/-! ## Times -/

theorem timedRecords_append (t : Transcript) (n : Nat) (events : List Event) :
    ({ t with events := events.map ((n, ·)) ++ t.events } : Transcript).timedRecords =
      (events.filterMap Event.record?).map ((n, ·)) ++ t.timedRecords := by
  simp only [Transcript.timedRecords, List.filterMap_append, List.filterMap_map,
    List.map_filterMap]
  rfl

/-- A reading reads lines from where it begins on, as many as there are at most, and what happens in
it happens in between. -/
theorem bounds_readFrom (n : Nat) (pending : Option Declaration) (lines : List String) :
    n ≤ (readFrom sort n pending lines).consumed ∧
      (readFrom sort n pending lines).consumed ≤ n + lines.length ∧
      ∀ entry ∈ (readFrom sort n pending lines).events,
        n ≤ entry.1 ∧ entry.1 ≤ (readFrom sort n pending lines).consumed := by
  induction lines generalizing n pending with
  | nil =>
    refine ⟨Nat.le_refl n, Nat.le_refl n, fun entry hentry => ?_⟩
    cases pending with
    | none => cases hentry
    | some d =>
      obtain rfl := List.mem_singleton.mp hentry
      exact ⟨Nat.le_refl n, Nat.le_refl n⟩
  | cons line rest ih =>
    rcases hstep : step (sort line) line pending with ⟨events, fault | waiting⟩
    · rw [readFrom_cons_error rest hstep]
      refine ⟨by simp, by simp, fun entry hentry => ?_⟩
      obtain ⟨hn, -⟩ := mem_timed.mp hentry
      exact ⟨by omega, Nat.le_of_eq hn⟩
    · obtain ⟨hlow, hhigh, hevents⟩ := ih (n + 1) waiting
      rw [readFrom_cons_ok rest hstep]
      refine ⟨by simp only; omega, by simp only [List.length_cons]; omega, fun entry hentry => ?_⟩
      rcases List.mem_append.mp hentry with hentry | hentry
      · obtain ⟨hn, -⟩ := mem_timed.mp hentry
        exact ⟨by omega, by simp only; omega⟩
      · obtain ⟨hle, hge⟩ := hevents entry hentry
        exact ⟨by omega, hge⟩

/-! ## Reports that begin alike -/

theorem upTo_append (t : Transcript) (m : Nat) (events : List (Nat × Event)) :
    ({ t with events := events ++ t.events } : Transcript).upTo m =
      { t.upTo m with
        events := events.filter (fun entry => entry.1 ≤ m && entry.2.kind != .dropped) ++
          (t.upTo m).events } := by
  simp only [Transcript.upTo, List.filter_append]

/-- With a first line, everything happens after it is read. -/
theorem lt_readFrom_cons (n : Nat) (pending : Option Declaration) (line : String)
    (rest : List String) :
    n < (readFrom sort n pending (line :: rest)).consumed ∧
      ∀ entry ∈ (readFrom sort n pending (line :: rest)).events, n < entry.1 := by
  rcases hstep : step (sort line) line pending with ⟨events, fault | waiting⟩
  · rw [readFrom_cons_error rest hstep]
    refine ⟨Nat.lt_succ_self n, fun entry hentry => ?_⟩
    obtain ⟨hn, -⟩ := mem_timed.mp hentry
    omega
  · obtain ⟨hlow, -, hevents⟩ := bounds_readFrom sort (n + 1) waiting rest
    rw [readFrom_cons_ok rest hstep]
    refine ⟨hlow, fun entry hentry => ?_⟩
    rcases List.mem_append.mp hentry with hentry | hentry
    · obtain ⟨hn, -⟩ := mem_timed.mp hentry
      omega
    · exact (hevents entry hentry).1

/-- Before a further line is read nothing happens. -/
theorem upTo_readFrom_self (n : Nat) (pending : Option Declaration) (lines : List String) :
    (readFrom sort n pending lines).upTo n = ⟨n, [], none⟩ := by
  cases lines with
  | nil =>
    cases pending <;> simp [readFrom, Transcript.upTo, Event.kind]
  | cons line rest =>
    obtain ⟨hlt, hevents⟩ := lt_readFrom_cons sort n pending line rest
    have hmin : min (readFrom sort n pending (line :: rest)).consumed n = n := by omega
    have hnone : (readFrom sort n pending (line :: rest)).events.filter
        (fun entry => entry.1 ≤ n && entry.2.kind != .dropped) = [] := by
      refine List.filter_eq_nil_iff.mpr fun entry hentry => ?_
      have hlate := hevents entry hentry
      simp [Nat.not_le_of_lt hlate]
    rw [Transcript.upTo, hmin, hnone, if_neg (Nat.not_le_of_lt hlt)]

/-- Readings that begin alike go on alike as long as their lines are the same. -/
theorem upTo_readFrom {lines lines' : List String} (n : Nat) (pending : Option Declaration) {m : Nat}
    (h : lines.take m = lines'.take m) :
    (readFrom sort n pending lines).upTo (n + m) = (readFrom sort n pending lines').upTo (n + m) := by
  -- On the number of lines: both readings take the same step, and what waits after it is the same.
  induction m generalizing n pending lines lines' with
  | zero => rw [Nat.add_zero, upTo_readFrom_self, upTo_readFrom_self]
  | succ m ih =>
    rcases lines with - | ⟨line, rest⟩ <;> rcases lines' with - | ⟨line', rest'⟩
    · rfl
    · cases h
    · cases h
    · rw [List.take_succ_cons, List.take_succ_cons] at h
      obtain ⟨rfl, hrest⟩ := List.cons.inj h
      rcases hstep : step (sort line) line pending with ⟨events, fault | waiting⟩
      · rw [readFrom_cons_error rest hstep, readFrom_cons_error rest' hstep]
      · have hlater := ih (n + 1) waiting hrest
        rw [show n + 1 + m = n + (m + 1) by omega] at hlater
        rw [readFrom_cons_ok rest hstep, readFrom_cons_ok rest' hstep, upTo_append, upTo_append,
          hlater]

/-- A fault ends the reading: the lines up to it give the same, whatever follows them. -/
theorem readFrom_of_fault {fault : Fault} (n : Nat) (pending : Option Declaration)
    (lines rest : List String) (h : (readFrom sort n pending lines).fault = some fault) :
    ∃ k, (readFrom sort n pending lines).consumed = n + k ∧
      readFrom sort n pending (lines.take k ++ rest) = readFrom sort n pending lines := by
  induction lines generalizing n pending with
  | nil => cases h
  | cons line later ih =>
    rcases hstep : step (sort line) line pending with ⟨events, fault' | waiting⟩
    · refine ⟨1, by rw [readFrom_cons_error later hstep], ?_⟩
      rw [List.take_succ_cons, List.cons_append, readFrom_cons_error _ hstep,
        readFrom_cons_error later hstep]
    · rw [readFrom_cons_ok later hstep] at h
      obtain ⟨k, hconsumed, hsame⟩ := ih (n + 1) waiting h
      refine ⟨k + 1, by rw [readFrom_cons_ok later hstep]; simp only; omega, ?_⟩
      rw [List.take_succ_cons, List.cons_append, readFrom_cons_ok _ hstep,
        readFrom_cons_ok later hstep, hsame]

/-! ## Records of the first lines -/

/-- What is dropped at the end makes no record. -/
theorem timedRecords_upTo (t : Transcript) (m : Nat) :
    (t.upTo m).timedRecords = t.timedRecords.filter fun entry => entry.1 ≤ m := by
  rw [Transcript.timedRecords, Transcript.timedRecords, Transcript.upTo, List.filterMap_filter,
    List.filter_filterMap]
  refine List.filterMap_congr fun entry _ => ?_
  obtain ⟨n, event⟩ := entry
  by_cases hn : n ≤ m <;> cases event <;> simp [hn, Event.kind, Event.record?, Option.filter_some]

theorem exists_of_mem_timedRecords {t : Transcript} {entry : Nat × MethodRecord}
    (h : entry ∈ t.timedRecords) : ∃ event, (entry.1, event) ∈ t.events := by
  obtain ⟨⟨n, event⟩, hevent, hrecord⟩ := List.mem_filterMap.mp h
  obtain ⟨record, -, rfl⟩ := Option.map_eq_some_iff.mp hrecord
  exact ⟨event, hevent⟩

/-- The first lines of a report, read alone, have the records that they have in the report. -/
theorem timedRecords_take (p : LinePatterns) (L : List String) (m : Nat) :
    (read p (L.take m)).timedRecords =
      (read p L).timedRecords.filter fun entry => entry.1 ≤ m := by
  have hsame : (read p (L.take m)).upTo m = (read p L).upTo m := by
    have htake : (L.take m).take m = L.take m := by rw [List.take_take, Nat.min_self]
    have hupTo := upTo_readFrom p.sort 0 none htake
    rwa [Nat.zero_add] at hupTo
  -- Read alone, the first lines have no records but those that are complete in them.
  have hall : (read p (L.take m)).timedRecords.filter (fun entry => entry.1 ≤ m) =
      (read p (L.take m)).timedRecords := by
    obtain ⟨-, hhigh, hevents⟩ := bounds_readFrom p.sort 0 none (L.take m)
    refine List.filter_eq_self.mpr fun entry hentry => ?_
    obtain ⟨event, hevent⟩ := exists_of_mem_timedRecords hentry
    have htime : entry.1 ≤ (readFrom p.sort 0 none (L.take m)).consumed := (hevents _ hevent).2
    rw [List.length_take] at hhigh
    exact decide_eq_true (by omega)
  rw [← timedRecords_upTo, ← hsame, timedRecords_upTo, hall]

/-! ## The lines that were read -/

variable (p L) in
/-- A record that is handed out when its signature line `i` has been read, and no line after it. -/
def TimedRecordAt (i : Nat) (entry : Nat × MethodRecord) : Prop :=
  entry.1 = i + 1 ∧ RecordAt p L i entry.2

variable (p L) in
/-- How the reading goes on from the line `i`, with times: it gets to the line `f`, hands out the
record of each signature line in between when this line has been read, and stops at the end or with
the line that is at fault. -/
structure TimedTo (i f : Nat) (t : Transcript) : Prop where
  le : i ≤ f
  le_length : f ≤ L.length
  before : ∀ k, i ≤ k → k < f → ¬ Fails p L k
  records : List.Forall₂ (TimedRecordAt p L)
    ((List.range' i (f - i)).filter fun k => LineAt p.isSignature L k) t.timedRecords
  ends : match t.fault with
    | none => f = L.length ∧ t.consumed = L.length
    | some fault => FaultAt p L f fault ∧ t.consumed = f + 1

/-- A line that stops the reading hands out nothing. -/
theorem Outcome.record?_of_error {line : String} {pending : Option Declaration}
    {events : List Event} {fault : Fault} (h : Outcome p line pending (events, .error fault)) :
    events.filterMap Event.record? = [] := by
  cases h with
  | errorLine => rfl
  | nameNotCaptured => exact filterMap_record?_supersession
  | orphan => exact filterMap_record?_supersession

/-- A line that is read hands out its record if it is a signature. -/
theorem Outcome.timedRecordAt {i : Nat} {line : String} {pending waiting : Option Declaration}
    {events : List Event} (h : Outcome p line pending (events, .ok waiting))
    (hline : L[i]? = some line) (hawaits : Awaits p L i i pending) :
    List.Forall₂ (TimedRecordAt p L) (if LineAt p.isSignature L i then [i] else [])
      ((events.filterMap Event.record?).map ((i + 1, ·))) := by
  cases h with
  | unsigned herror hname hsign =>
    have hsignAt : ¬ LineAt p.isSignature L i := by simp [lineAt_iff hline, hsign]
    rw [if_neg hsignAt, filterMap_record?_supersession]
    exact .nil
  | paired d s herror hname hs hforce =>
    have hsign : p.isSignature line = true := by simp [LinePatterns.isSignature, hs]
    have hrecord := (hforce ▸ hawaits.inForce hline hname).recordAt hline hs
    rw [if_pos ((lineAt_iff hline).mpr hsign), List.filterMap_append,
      filterMap_record?_supersession]
    exact .cons ⟨rfl, hrecord⟩ .nil

/-- A line that is read, with the record that it hands out, goes before the rest. -/
theorem TimedTo.cons {i f : Nat} {t : Transcript} {events : List Event}
    (hfails : ¬ Fails p L i) (ht : TimedTo p L (i + 1) f t)
    (hrecords : List.Forall₂ (TimedRecordAt p L) (if LineAt p.isSignature L i then [i] else [])
      ((events.filterMap Event.record?).map ((i + 1, ·)))) :
    TimedTo p L i f { t with events := events.map ((i + 1, ·)) ++ t.events } where
  le := by have := ht.le; omega
  le_length := ht.le_length
  before k hik hk := by
    rcases Nat.lt_or_eq_of_le hik with hlt | rfl
    · exact ht.before k hlt hk
    · exact hfails
  records := by
    have hle := ht.le
    have hrange : List.range' i (f - i) = i :: List.range' (i + 1) (f - (i + 1)) := by
      rw [show f - i = f - (i + 1) + 1 by omega, List.range'_succ]
    have hfilter : (List.range' i (f - i)).filter (fun k => LineAt p.isSignature L k) =
        (if LineAt p.isSignature L i then [i] else []) ++
          (List.range' (i + 1) (f - (i + 1))).filter fun k => LineAt p.isSignature L k := by
      by_cases hsign : LineAt p.isSignature L i <;> simp [hrange, hsign]
    rw [hfilter, timedRecords_append]
    exact List.rel_append hrecords ht.records
  ends := ht.ends

theorem timedTo_read (p : LinePatterns) (L : List String) : ∃ f, TimedTo p L 0 f (read p L) := by
  refine read_induction (p := p) (L := L) (motive := fun i t => ∃ f, TimedTo p L i f t)
    ?ends ?stops ?goesOn
  case ends =>
    intro pending _
    have hnothing : (readFrom p.sort L.length pending []).timedRecords = [] := by
      cases pending <;> rfl
    refine ⟨L.length, Nat.le_refl _, Nat.le_refl _, fun k hik hk => by omega, ?_, rfl, rfl⟩
    rw [Nat.sub_self, hnothing]
    exact .nil
  case stops =>
    intro i line pending events fault hline _ hout hfault
    have hnothing : (Transcript.mk (i + 1) (events.map ((i + 1, ·))) (some fault)).timedRecords =
        [] := by
      have happend := timedRecords_append ⟨i + 1, [], some fault⟩ (i + 1) events
      rw [hout.record?_of_error, List.append_nil] at happend
      exact happend
    refine ⟨i, Nat.le_refl i, Nat.le_of_lt hfault.lt_length, fun k hik hk => by omega, ?_, hfault,
      rfl⟩
    rw [Nat.sub_self, hnothing]
    exact .nil
  case goesOn =>
    intro i line pending events waiting t hline hawaits hout hfails ⟨f, ht⟩
    exact ⟨f, ht.cons hfails (hout.timedRecordAt hline hawaits)⟩

/-- A whole reading gets to the first line that fails. -/
theorem TimedTo.firstFailure {f : Nat} {t : Transcript} (h : TimedTo p L 0 f t) :
    FirstFailure p L f := by
  refine ⟨h.le_length, fun hlt => ?_, fun i hi => h.before i (Nat.zero_le i) hi⟩
  have hends := h.ends
  cases hfault : t.fault with
  | none =>
    rw [hfault] at hends
    exact absurd hends.1 (Nat.ne_of_lt hlt)
  | some fault =>
    rw [hfault] at hends
    exact hends.1.fails

/-- **One pass.**  A record is handed out when its signature line has been read and no line after
it, and a fault stops the reading at its line; without a fault all lines are read.  So the first
lines of a report, read alone, have the records that they have in the report; reports that begin
with the same lines give the same while these are read; and after a fault nothing that follows is
read. -/
theorem read_causal (p : LinePatterns) (L : List String) :
    (∃ f, FirstFailure p L f ∧
      List.Forall₂ (TimedRecordAt p L)
        ((List.range f).filter fun i => LineAt p.isSignature L i) (read p L).timedRecords ∧
      match (read p L).fault with
      | none => f = L.length ∧ (read p L).consumed = L.length
      | some fault => FaultAt p L f fault ∧ (read p L).consumed = f + 1) ∧
    (∀ m, (read p (L.take m)).timedRecords =
      (read p L).timedRecords.filter fun entry => entry.1 ≤ m) ∧
    (∀ M m, L.take m = M.take m → (read p L).upTo m = (read p M).upTo m) ∧
    ((read p L).fault ≠ none → ∀ rest, read p (L.take (read p L).consumed ++ rest) = read p L) := by
  refine ⟨?_, timedRecords_take p L, fun M m htake => ?_, fun hfault rest => ?_⟩
  · obtain ⟨f, hf⟩ := timedTo_read p L
    have hrecords := hf.records
    rw [Nat.sub_zero, ← List.range_eq_range'] at hrecords
    exact ⟨f, hf.firstFailure, hrecords, hf.ends⟩
  · have hupTo := upTo_readFrom p.sort 0 none htake
    rwa [Nat.zero_add] at hupTo
  · obtain ⟨fault, hsome⟩ := Option.ne_none_iff_exists'.mp hfault
    obtain ⟨k, hconsumed, hsame⟩ := readFrom_of_fault p.sort 0 none L rest hsome
    have hk : (read p L).consumed = k := hconsumed.trans (Nat.zero_add k)
    rw [hk]
    exact hsame

end MethodMacros.Report
