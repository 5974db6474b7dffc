import MethodMacros.Naming
import MethodMacros.Report.Patterns

/-!
# Reading a report

A report is read line by line, in one pass.  What is carried along is at most one declaration that
still waits for its signature.  A later declaration supersedes it, a signature completes it, and at
the end of the report it is dropped.

Everything noteworthy is an event.  Events come with the number of lines read when they happened, so
they show what was known when; the records of a report and its log are views of its events.
-/

namespace MethodMacros.Report

/-- A method of the class: its declaration, its name, the stem of its macros, and its signature,
unless the pattern for signatures captured none. -/
structure MethodRecord where
  declarationLine : String
  name : String
  macroStem : String
  signature : Option String
  signatureLine : Option String
  deriving DecidableEq, Repr

/-- A record with a signature. -/
def MethodRecord.isComplete (r : MethodRecord) : Bool :=
  r.signature.isSome

/-- A declaration that waits for its signature. -/
structure Declaration where
  line : String
  name : String
  deriving DecidableEq, Repr

/-- The record that a signature line makes of a declaration. -/
def Declaration.complete (d : Declaration) (signature : Option String) (line : String) :
    MethodRecord where
  declarationLine := d.line
  name := d.name
  macroStem := Naming.macroStem d.name
  signature := signature
  signatureLine := some line

/-- Why a report cannot be read to its end. -/
inductive Fault where
  | errorLine (line : String)
  | nameNotCaptured
  | orphanSignature (line : String)
  deriving DecidableEq, Repr

/-- The wording of a fault. -/
def Fault.message : Fault → String
  | .errorLine line => "javap reported an error: " ++ line
  | .nameNotCaptured => "'NoneType' object is not iterable"
  | .orphanSignature line =>
      "Cannot parse signature - no name parsed, line: [" ++ line ++ "]"

/-- What happens while a report is read. -/
inductive Event where
  | errorFound (line : String)
  | superseded (old : String) (new : Option String)
  | completed (record : MethodRecord)
  | dropped (name : String)
  deriving DecidableEq, Repr

/-- The declaration that waits after a line was looked at for a name, and what happened.  A line
whose name was not captured supersedes a declaration all the same, and then stops the reading. -/
def declare (line : String) (pending : Option Declaration) :
    Option (Option String) → List Event × Except Fault (Option Declaration)
  | none => ([], .ok pending)
  | some name =>
      let events := (pending.map fun d => Event.superseded d.name name).toList
      match name with
      | some text => (events, .ok (some ⟨line, text⟩))
      | none => (events, .error .nameNotCaptured)

/-- What happens when a line has been looked at for a signature. -/
def sign (line : String) (pending : Option Declaration) :
    Option (Option String) → List Event × Except Fault (Option Declaration)
  | none => ([], .ok pending)
  | some signature =>
      match pending with
      | some d => ([.completed (d.complete signature line)], .ok none)
      | none => ([], .error (.orphanSignature line))

/-- Reads one line, of which the patterns say what is in `sorted`. -/
def step (sorted : Sorted) (line : String) (pending : Option Declaration) :
    List Event × Except Fault (Option Declaration) :=
  if sorted.isError then ([.errorFound line], .error (.errorLine line))
  else
    match declare line pending sorted.name with
    | (events, .error fault) => (events, .error fault)
    | (events, .ok waiting) =>
        let (more, result) := sign line waiting sorted.signature
        (events ++ more, result)

/-- How the reading of a report went: the number of lines read, the events with the number of lines
read by then, and the fault that stopped it. -/
structure Transcript where
  consumed : Nat
  events : List (Nat × Event)
  fault : Option Fault
  deriving Repr

/-- Reads lines, of which `consumed` have been read before. -/
def readFrom (sort : String → Sorted) (consumed : Nat) (pending : Option Declaration) :
    List String → Transcript
  | [] => ⟨consumed, (pending.map fun d => (consumed, Event.dropped d.name)).toList, none⟩
  | line :: rest =>
      match step (sort line) line pending with
      | (events, .error fault) => ⟨consumed + 1, events.map ((consumed + 1), ·), some fault⟩
      | (events, .ok waiting) =>
          let t := readFrom sort (consumed + 1) waiting rest
          { t with events := events.map ((consumed + 1), ·) ++ t.events }

/-- Reads a whole report. -/
def read (p : LinePatterns) (lines : List String) : Transcript :=
  readFrom p.sort 0 none lines

/-- The record that an event completes. -/
def Event.record? : Event → Option MethodRecord
  | .completed record => some record
  | _ => none

/-- The records of a report, each with the number of lines read when it was complete. -/
def Transcript.timedRecords (t : Transcript) : List (Nat × MethodRecord) :=
  t.events.filterMap fun (n, event) => event.record?.map (n, ·)

/-- The records of a report, in its order. -/
def Transcript.records (t : Transcript) : List MethodRecord :=
  t.timedRecords.map (·.2)

/-- The records of a report that can be read to its end. -/
def Transcript.result (t : Transcript) : Except Fault (List MethodRecord) :=
  match t.fault with
  | some fault => .error fault
  | none => .ok t.records

end MethodMacros.Report
