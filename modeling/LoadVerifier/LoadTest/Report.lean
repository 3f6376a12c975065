/-
This file holds the report of a whole run. A pass that was not made has no result and does not
count against the run.
-/
import LoadVerifier.Reading.Result
import LoadVerifier.Writing.Result

namespace LoadVerifier

/-- The results of the passes that were made. -/
structure Report where
  write : Option WriteResult
  read : Option ReadResult
  deriving DecidableEq

namespace Report

/-- Whether every pass that was made went well. -/
def ok (report : Report) : Bool :=
  report.write.all WriteResult.ok && report.read.all ReadResult.ok

/-- The exit code of a run with this report. -/
def exitCode (report : Report) : Nat := if report.ok then 0 else 1

/-- The closing lines of a run. -/
def summary (report : Report) : List String :=
  (report.write.toList.map WriteResult.summary) ++ report.read.toList.flatMap ReadResult.summary

end Report

end LoadVerifier
