import JobLog.Json.Record

/-!
# Settings

The limits of a run and where bugs are searched.
-/

namespace JobLog

/-- The settings of a run. -/
structure Settings where
  /-- The greatest size of an inflated log, in bytes. -/
  maxLogSize : Nat
  /-- Lines are cut to this length, in bytes, unless they carry performance data. -/
  maxLineLength : Nat
  /-- The number of errors that are kept. -/
  maxErrorLines : Nat
  /-- The number of errors that bugs are suggested for. -/
  maxSummaryLines : Nat
  /-- The number of failure lines that are read. -/
  failureLinesCutoff : Nat
  /-- Where bugs are searched. -/
  bugsCacheUrl? : Option String
  deriving DecidableEq, Repr

namespace Settings

/-- The settings that hold where nothing else is said. -/
def default : Settings := ⟨209715200, 500, 100, 200, 35, none⟩

/-- The JSON of settings. -/
def toJson (s : Settings) : Json :=
  .obj [
    ("bugscache_url", .ofString? s.bugsCacheUrl?),
    ("failure_lines_cutoff", .ofNat s.failureLinesCutoff),
    ("max_error_lines", .ofNat s.maxErrorLines),
    ("max_line_length", .ofNat s.maxLineLength),
    ("max_log_size", .ofNat s.maxLogSize),
    ("max_summary_lines", .ofNat s.maxSummaryLines)]

end Settings
end JobLog
