import ShyftTime.Utctime

/-!
# Calendar coordinates, day numbers and years

Model of the parts of `calendar` (`src/core/utctime_utilities.h`, lines 221–374) that the time
zone code rests on: the coordinate records `YMDhms` and `YWdhms` with their range checks and
checking constructors, `calendar::hms_seconds`, `calendar::day_number(utctime)` and
`calendar::utc_year`. The records' fields are `int` in the header and `Int` here; every record
the checking constructors accept has them within `±9999`, and `hmsSeconds_inInt64` shows that for
`int` arguments every step of `hms_seconds` stays within `int64_t`.

The header declares but does not define the constants `UnixDay`, `UnixSecond` and `DAY` and the
inverse day-number function `from_day_number`: they live in the implementation file, which is not
among the sources, and are modelled from the spec. The spec fixes `day_number(1970,1,1) =
UnixDay = 2440588`, `UnixSecond = UnixDay · 86400` and `DAY = 86400 s`, and calls
`from_day_number` the standard textbook inversion of the serial day number; `fromDayNumber` is
that inversion as in the boost Gregorian calendar the header cites, on a day number taken as the
`unsigned long` parameter, with its steps computed exactly. The widths of the implementation's
intermediates are unknown, so the model says nothing about wrapped day numbers near `2^64`, those
of instants before Julian day 0. `utc_year` reads the year back from an `int` field (`wrap32`);
from Julian day 0 on, up to `max_utctime`, the year lies within `[-4799, 300000]` and the
conversion changes nothing.

`dayNumber_eq_iff` locates where `day_number(t)` misses the serial number of the day that contains
`t`: `duration_cast<seconds>` truncates toward zero, so a sub-second instant in the last second
before a midnight at or before the epoch is counted in the following day.
-/

namespace Shyft.Core

/-- The range check of the coordinate records: every field within its bounds. -/
def inRanges (fields : List (Int × Int × Int)) : Bool :=
  fields.all fun (v, lo, hi) => lo ≤ v && v ≤ hi

@[simp] lemma inRanges_iff {fields : List (Int × Int × Int)} :
    inRanges fields ↔ ∀ f ∈ fields, f.2.1 ≤ f.1 ∧ f.1 ≤ f.2.2 := by
  simp [inRanges]

/-- `YMDhms`: year, month, day, hour, minute and second, `int` fields in the header. -/
structure YMDhms where
  year : Int
  month : Int
  day : Int
  hour : Int
  minute : Int
  second : Int
deriving DecidableEq, Repr

namespace YMDhms

/-- `YMDhms::YEAR_MAX`. -/
def yearMax : Int := 9999

/-- `YMDhms::YEAR_MIN`. -/
def yearMin : Int := -9999

/-- `YMDhms::is_valid_coordinates`. -/
def isValidCoordinates (c : YMDhms) : Bool :=
  inRanges [(c.year, yearMin, yearMax), (c.month, 1, 12), (c.day, 1, 31), (c.hour, 0, 23),
    (c.minute, 0, 59), (c.second, 0, 59)]

/-- `YMDhms::is_null`. -/
def isNull (c : YMDhms) : Bool :=
  c.year == 0 && c.month == 0 && c.day == 0 && c.hour == 0 && c.minute == 0 && c.second == 0

/-- `YMDhms::is_valid`. -/
def isValid (c : YMDhms) : Bool := c.isNull || c.isValidCoordinates

/-- `YMDhms(Y, M, D, h, m, s)`: throws unless the coordinates are valid. -/
def make (Y M D h m s : Int) : Except Fault YMDhms :=
  let c : YMDhms := ⟨Y, M, D, h, m, s⟩
  if !c.isValid then
    .error (.runtimeError "calendar coordinates failed simple range check for one or more item")
  else .ok c

/-- `YMDhms::max()`. -/
def max : Except Fault YMDhms := make yearMax 12 31 23 59 59

/-- `YMDhms::min()`. -/
def min : Except Fault YMDhms := make yearMin 1 1 0 0 0

end YMDhms

/-- `YWdhms`: ISO year, ISO week, week day, hour, minute and second. -/
structure YWdhms where
  isoYear : Int
  isoWeek : Int
  weekDay : Int
  hour : Int
  minute : Int
  second : Int
deriving DecidableEq, Repr

namespace YWdhms

/-- `YWdhms::is_valid_coordinates`. -/
def isValidCoordinates (c : YWdhms) : Bool :=
  inRanges [(c.isoYear, YMDhms.yearMin, YMDhms.yearMax), (c.isoWeek, 1, 53), (c.weekDay, 1, 7),
    (c.hour, 0, 23), (c.minute, 0, 59), (c.second, 0, 59)]

/-- `YWdhms::is_null`. -/
def isNull (c : YWdhms) : Bool :=
  c.isoYear == 0 && c.isoWeek == 0 && c.weekDay == 0 && c.hour == 0 && c.minute == 0 &&
    c.second == 0

/-- `YWdhms::is_valid`. -/
def isValid (c : YWdhms) : Bool := c.isNull || c.isValidCoordinates

/-- `YWdhms(iso_year, iso_week, week_day, hour, minute, second)`: throws unless valid. -/
def make (isoYear isoWeek weekDay hour minute second : Int) : Except Fault YWdhms :=
  let c : YWdhms := ⟨isoYear, isoWeek, weekDay, hour, minute, second⟩
  if !c.isValid then
    .error (.runtimeError
      "calendar iso week coordinates failed simple range check for one or more item")
  else .ok c

/-- `YWdhms::max()`. -/
def max : Except Fault YWdhms := make YMDhms.yearMax 52 6 23 59 59

/-- `YWdhms::min()`. -/
def min : Except Fault YWdhms := make YMDhms.yearMin 1 1 0 0 0

end YWdhms

/-- Modelled from the spec: `calendar::UnixDay`, the day number of 1970-01-01. -/
def unixDay : Int := 2440588

/-- Modelled from the spec: `calendar::UnixSecond`, `UnixDay` days in seconds. -/
def unixSecond : Int := unixDay * 86400

/-- Modelled from the spec: `calendar::DAY`, 86400 s in microseconds. -/
def calendarDay : Int := 86400000000

/-- `calendar::hms_seconds(h, m, s)`, in microseconds. -/
def hmsSeconds (h m s : Int) : Int := deltahours h + deltaminutes m + s * 1000000

/-- For `int` hours, minutes and seconds, every step of `hms_seconds` fits `int64_t`. -/
theorem hmsSeconds_inInt64 {h m s : Int} (hh : InInt32 h) (hm : InInt32 m) (hs : InInt32 s) :
    InInt64 (deltahours h) ∧ InInt64 (deltaminutes m) ∧ InInt64 (s * 1000000) ∧
    InInt64 (deltahours h + deltaminutes m) ∧ InInt64 (hmsSeconds h m s) := by
  unfold InInt32 at hh hm hs
  simp only [InInt64, hmsSeconds, deltahours, deltaminutes]
  omega

/-- The most negative `int` hours, minutes and seconds. -/
theorem hmsSeconds_int_min :
    InInt32 (-2^31) ∧ InInt32 (-2^31) ∧ InInt32 (-2^31) ∧
    InInt64 (deltahours (-2^31)) ∧ InInt64 (deltaminutes (-2^31)) ∧
    InInt64 (-2^31 * 1000000) ∧
    InInt64 (deltahours (-2^31) + deltaminutes (-2^31)) ∧
    InInt64 (hmsSeconds (-2^31) (-2^31) (-2^31)) :=
  ⟨by decide, by decide, by decide, hmsSeconds_inInt64 (by decide) (by decide) (by decide)⟩

/-- `calendar::day_number(utctime)`: both of its divisions truncate toward zero. -/
def dayNumber (t : Int) : Int :=
  (unixSecond + t.tdiv 1000000).tdiv (calendarDay.tdiv 1000000)

/-- Modelled from the spec: `calendar::from_day_number`, the textbook inversion. -/
def fromDayNumber (dayNumber : Nat) : YMDhms :=
  let a : Int := dayNumber + 32044
  let b := (4 * a + 3) / 146097
  let c := a - 146097 * b / 4
  let d := (4 * c + 3) / 1461
  let e := c - 1461 * d / 4
  let m := (5 * e + 2) / 153
  ⟨100 * b + d - 4800 + m / 10, m + 3 - 12 * (m / 10), e - (153 * m + 2) / 5 + 1, 0, 0, 0⟩

/-- `calendar::utc_year`: the day number passed as `unsigned long`, the year read as an `int`. -/
def utcYear (t : Int) : Except Fault Int :=
  if t = noUtctime then .error (.runtimeError "year of no_utctime")
  else if t = maxUtctime then .ok YMDhms.yearMax
  else if t = minUtctime then .ok YMDhms.yearMin
  else .ok (wrap32 (fromDayNumber (dayNumber t % 2^64).toNat).year)

/-- `utc_year` throws for `no_utctime` and for nothing else. -/
lemma utcYear_eq_error_iff {t : Int} {f : Fault} :
    utcYear t = .error f ↔ t = noUtctime ∧ f = .runtimeError "year of no_utctime" := by
  unfold utcYear
  split_ifs with h0 h1 h2 <;> simp [h0, eq_comm]

/-- `utc_year(min_utctime)` throws: `min_utctime` is `no_utctime`. -/
lemma utcYear_minUtctime : utcYear minUtctime = .error (.runtimeError "year of no_utctime") := rfl

/-- The coordinate records' `max()` and `min()` pass their own constructors' range check. -/
lemma coordinate_limits_valid :
    YMDhms.max = .ok ⟨9999, 12, 31, 23, 59, 59⟩ ∧
    YMDhms.min = .ok ⟨-9999, 1, 1, 0, 0, 0⟩ ∧
    YWdhms.max = .ok ⟨9999, 52, 6, 23, 59, 59⟩ ∧
    YWdhms.min = .ok ⟨-9999, 1, 1, 0, 0, 0⟩ :=
  ⟨rfl, rfl, rfl, rfl⟩

/-- From Julian day 0 on, `day_number(t)` is `t`'s day but in the last second before a 0:00. -/
theorem dayNumber_eq_iff {t : Int} (h : -unixSecond * 1000000 ≤ t) :
    dayNumber t = (unixSecond * 1000000 + t) / 86400000000 ↔
      ¬(t < 0 ∧ t % 1000000 ≠ 0 ∧ (t / 1000000 + 1) % 86400 = 0) := by
  simp only [dayNumber, calendarDay, unixSecond, unixDay] at h ⊢
  rw [@tdiv_eq_ite _ 1000000 (by decide),
    show (86400000000 : Int).tdiv 1000000 = 86400 by decide, tdiv_eq_ite (by decide)]
  split_ifs <;> omega

/-- Half a second before the epoch lies in 1969-12-31, and `day_number` puts it in 1970-01-01. -/
theorem dayNumber_eq_iff_half_second_before_epoch :
    -unixSecond * 1000000 ≤ -500000 ∧
    (dayNumber (-500000) = (unixSecond * 1000000 + -500000) / 86400000000 ↔
      ¬(-500000 < 0 ∧ -500000 % 1000000 ≠ 0 ∧ (-500000 / 1000000 + 1) % 86400 = 0)) :=
  ⟨by decide, dayNumber_eq_iff (by decide)⟩

/-- One microsecond before the epoch, `day_number` gives the epoch's day, not the day before. -/
theorem dayNumber_before_epoch :
    dayNumber (-1) = unixDay ∧ (unixSecond * 1000000 + -1) / 86400000000 = unixDay - 1 := by
  decide

end Shyft.Core
