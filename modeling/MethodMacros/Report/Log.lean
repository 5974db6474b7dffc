import MethodMacros.Log
import MethodMacros.Report.Reading

/-!
# The log of a report

Each event of reading a report has one entry in the log.  Where nothing was captured, the entry says
so with the word that also stands in headers.
-/

namespace MethodMacros.Report

/-- A text that may be absent. -/
def textOrNone (s : Option String) : String :=
  s.getD "None"

/-- The log entry of an event. -/
def Event.logEntry : Event → LogEntry
  | .errorFound line => ⟨.error, "Error line in report: " ++ line⟩
  | .superseded old new =>
      ⟨.debug, "Discarding " ++ old ++ ": no signature before " ++ textOrNone new⟩
  | .completed record =>
      ⟨.debug, "Parsed method: " ++ record.name ++ " " ++ textOrNone record.signature⟩
  | .dropped name =>
      ⟨.debug, "Dropping " ++ name ++ ": report ended before its signature"⟩

/-- The log of reading a report. -/
def Transcript.log (t : Transcript) : List LogEntry :=
  t.events.map fun (_, event) => event.logEntry

end MethodMacros.Report
