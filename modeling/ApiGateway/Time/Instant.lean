import ApiGateway.Time.Duration

/-!
# Points in time

An instant counts nanoseconds from the start of 1970 in universal time. The
calendar ends with the year 262142; a deadline that would lie beyond that is
`Instant.latest` (`saturatingAdd_eq_min`).
-/

namespace ApiGateway

/-- Nanoseconds since the start of 1970, universal time. -/
abbrev Instant := Int

namespace Instant

def ofMillis (ms : Int) : Instant := ms * 1000000

/-- Whole milliseconds, rounded down. -/
def toMillis (t : Instant) : Int := Int.fdiv t 1000000

/-- The last instant of the year 262142. -/
def latest : Instant := 8210266876799999999999

/-- The first instant of the year -262143, with which the calendar starts. -/
def earliest : Instant := -8334601228800000000000

/-- The longest difference between two instants that the gateway works with:
`2 ^ 63 - 1` milliseconds. -/
def longestDelta : Int := 9223372036854775807000000

/-- A duration as a difference of instants, cut to the longest one. -/
def delta (d : Duration) : Int := min (d : Int) longestDelta

/-- The instant after a duration, or the last one of the calendar. -/
def saturatingAdd (t : Instant) (d : Duration) : Instant := min (t + delta d) latest

theorem saturatingAdd_mono {t u : Instant} (before : t ≤ u) (d : Duration) :
    saturatingAdd t d ≤ saturatingAdd u d :=
  Int.le_min.mpr
    ⟨Int.le_trans (Int.min_le_left _ _) (Int.add_le_add_right before _), Int.min_le_right _ _⟩

/-- In the calendar no duration is cut before it reaches the last instant. -/
theorem saturatingAdd_eq_min {t : Instant} (inCalendar : earliest ≤ t) (d : Duration) :
    saturatingAdd t d = min (t + d) latest := by
  have cut (start length : Int) (notBefore : -8334601228800000000000 ≤ start) :
      min (start + min length 9223372036854775807000000) 8210266876799999999999 =
        min (start + length) 8210266876799999999999 := by
    omega
  exact cut t d inCalendar

/-- The date of a day counted from the start of 1970: year, month and day. -/
def civilDate (day : Int) : Int × Nat × Nat :=
  let shifted := day + 719468
  let era := Int.fdiv shifted 146097
  let dayOfEra := (shifted - era * 146097).toNat
  let yearOfEra :=
    (dayOfEra - dayOfEra / 1460 + dayOfEra / 36524 - dayOfEra / 146096) / 365
  let dayOfYear := dayOfEra - (365 * yearOfEra + yearOfEra / 4 - yearOfEra / 100)
  let monthIndex := (5 * dayOfYear + 2) / 153
  let dayOfMonth := dayOfYear - (153 * monthIndex + 2) / 5 + 1
  let month := if monthIndex < 10 then monthIndex + 3 else monthIndex - 9
  let year := (yearOfEra : Int) + era * 400 + (if month ≤ 2 then 1 else 0)
  (year, month, dayOfMonth)

/-- A year has four digits, and a sign when it needs one or more than four digits. -/
def yearText (year : Int) : String :=
  let digits := String.ofList (Text.padZero 4 year.natAbs)
  if year < 0 then "-" ++ digits else if year > 9999 then "+" ++ digits else digits

private def two (n : Nat) : String := String.ofList (Text.padZero 2 n)

/-- The date and the time of day to the second, with a separator between them. -/
def dateTimeText (separator : String) (t : Instant) : String :=
  let seconds := Int.fdiv t 1000000000
  let day := Int.fdiv seconds 86400
  let secondOfDay := (seconds - day * 86400).toNat
  let (year, month, dayOfMonth) := civilDate day
  yearText year ++ "-" ++ two month ++ "-" ++ two dayOfMonth ++ separator ++
    two (secondOfDay / 3600) ++ ":" ++ two (secondOfDay / 60 % 60) ++ ":" ++
    two (secondOfDay % 60)

/-- The milliseconds of the second, as three digits. -/
def millisText (t : Instant) : String :=
  String.ofList (Text.padZero 3 (toMillis t - Int.fdiv t 1000000000 * 1000).toNat)

/-- Date and time to the second in universal time, as status documents give it. -/
def rfc3339 (t : Instant) : String :=
  dateTimeText "T" t ++ "Z"

end Instant

end ApiGateway
