import RecordFilter.Calendar.Reader

/-!
# Settings

What strings are read as dates, and whether patterns tell capitals from small
letters.
-/

namespace RecordFilter

/-- The forms in which dates are written if nothing else is set. -/
def defaultDateFormats : List String :=
  ["%Y-%m-%d", "%Y-%m-%d %H:%M", "%Y-%m-%d %H:%M:%S", "%Y-%m-%d %H:%M:%S,%3f"]

/-- The settings of a filter. -/
structure Config where
  /-- The patterns by which a string is read as a date; the first that fits is taken. -/
  dateFormats : List String := defaultDateFormats
  /-- Whether `LIKE` ignores case. -/
  caseInsensitiveLike : Bool := false
  deriving DecidableEq

/-- The date patterns of the settings. -/
def Config.datePatterns (config : Config) : List DatePattern :=
  config.dateFormats.map DatePattern.ofString

end RecordFilter
