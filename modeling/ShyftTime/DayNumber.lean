import ShyftTime.Calendar
import Mathlib.Tactic.IntervalCases

/-!
# The day-number kernel

The proleptic Gregorian serial day number of a date, `calendar::day_number(const YMDhms&)`, and
its inverse `calendar::from_day_number`. Both are defined in the implementation file, which is not
among the sources: `YMDhms.dayNumber` is the formula the spec gives (Fliegel and Van Flandern,
with C++'s truncating `/`), and `fromDayNumber` (in `ShyftTime.Calendar`) the textbook inversion.
The header declares `day_number` to return `int64_t`; the width of the formula's intermediates is
in the missing file, so the model computes it in `Int`, and says for which years it fits.

The inversion counts years from March to February, so that the leap day ends the year. From
`a = n + 32044` days after 1 March of year -4800 it finds the century `b`, the year `d` in it, the
day `e` of that March year and then its month. `daysBefore y` counts the days before March year
`y` and `marchDay m` those before its `m`-th month. `fromDayNumber_eq_ofMarch` says that the
inversion finds the one March year and day `(y, e)` with `a = daysBefore y + e`, and
`dayNumber_ofMarch` that the formula maps them back. From these:

* `dayNumber_fromDayNumber`: the formula inverts `from_day_number` on every day number whose
  year fits the `int` field of `YMDhms`, and the day number it gives back fits `int64_t`;
* `fromDayNumber_dayNumber_iff`: from Julian day 0 on, `from_day_number` inverts the formula
  exactly on real dates, while `YMDhms`'s range check accepts days 29 to 31 of every month, which
  come back as a day of the next month;
* `le_fromDayNumber_year_iff`: `from_day_number(n).year` counts the 1 Januaries at or before
  day `n`;
* `utcYear_spec`: `calendar::utc_year(t)` is the civil year of `day_number(t)`, off the sentinels
  and from Julian day 0 on;
* `utcYear_mono`: so `utc_year` never decreases, until `max_utctime` sends it back to 9999 from
  the year 294247 of the instant before it;
* `utcYear_le_iff`: from Julian day 0 on, the year lies in `[-4799, 300000]`, so reading it as
  an `int` changes nothing;
* `utcYear_last_second`: through `day_number`'s rounding, `utc_year` answers the next year in the
  last second before every 1 January up to 1970.
-/

namespace Shyft.Core

/-- Proleptic Gregorian leap years. -/
def isLeapYear (y : Int) : Bool := decide (y % 4 = 0 ∧ (y % 100 ≠ 0 ∨ y % 400 = 0))

/-- The number of days of month `m` of year `y`. -/
def daysInMonth (y m : Int) : Int :=
  if m = 2 then if isLeapYear y then 29 else 28
  else if m = 4 ∨ m = 6 ∨ m = 9 ∨ m = 11 then 30 else 31

/-- `Y-M-D` is a day of the proleptic Gregorian calendar. -/
def isDate (Y M D : Int) : Bool :=
  decide (1 ≤ M ∧ M ≤ 12 ∧ 1 ≤ D ∧ D ≤ daysInMonth Y M)

/-- Modelled from the spec: `calendar::day_number(const YMDhms&)`, by Fliegel and Van Flandern. -/
def YMDhms.dayNumber (c : YMDhms) : Int :=
  let a := (c.month - 14).tdiv 12
  (1461 * (c.year + 4800 + a)).tdiv 4 + (367 * (c.month - 2 - 12 * a)).tdiv 12 -
    (3 * ((c.year + 4900 + a).tdiv 100)).tdiv 4 + c.day - 32075

/-- The day number of 1 January of year `Y`. -/
def newYearDay (Y : Int) : Int := YMDhms.dayNumber ⟨Y, 1, 1, 0, 0, 0⟩

example : newYearDay 1970 = unixDay := by decide

/-! ### Years from March to February -/

/-- The days before March year `y`; March year 0 starts on 1 March of year -4800. -/
def daysBefore (y : Int) : Int := 365 * y + y / 4 - y / 100 + y / 400

/-- Day `e` of March year `y` exists: it is below the length of the year. -/
def InYear (y e : Int) : Prop := 0 ≤ e ∧ e < daysBefore (y + 1) - daysBefore y

instance (y e : Int) : Decidable (InYear y e) := inferInstanceAs (Decidable (_ ∧ _))

/-- The days of a March year before its `m`-th month (0 is March, 11 February). -/
def marchDay (m : Int) : Int := (153 * m + 2) / 5

/-- The date of day `e` of March year `y`: the last steps of `from_day_number`. -/
def ofMarch (y e : Int) : YMDhms :=
  let m := (5 * e + 2) / 153
  ⟨y - 4800 + m / 10, m + 3 - 12 * (m / 10), e - marchDay m + 1, 0, 0, 0⟩

/-- A March year has 366 days when the February it ends with has a leap day. -/
lemma daysBefore_succ (y : Int) :
    daysBefore (y + 1) = daysBefore y + if isLeapYear (y + 1) then 366 else 365 := by
  unfold daysBefore isLeapYear
  split_ifs with h <;> simp only [decide_eq_true_eq] at h <;> omega

lemma daysBefore_succ_le {y y' : Int} (h : y < y') : daysBefore (y + 1) ≤ daysBefore y' := by
  unfold daysBefore; omega

lemma InYear.le_365 {y e : Int} (h : InYear y e) : 0 ≤ e ∧ e ≤ 365 := by
  have := daysBefore_succ y
  unfold InYear at h
  split_ifs at this <;> omega

/-- A count of days falls on one day of one March year. -/
lemma InYear.unique {y e y' e' : Int} (h : InYear y e) (h' : InYear y' e')
    (heq : daysBefore y + e = daysBefore y' + e') : y = y' ∧ e = e' := by
  unfold InYear at h h'
  rcases lt_trichotomy y y' with hlt | rfl | hlt
  · have := daysBefore_succ_le hlt; omega
  · omega
  · have := daysBefore_succ_le hlt; omega

/-- Day `e` of a March year lies in its month `(5e + 2) / 153`. -/
lemma marchMonth_iff {e m : Int} :
    (5 * e + 2) / 153 = m ↔ marchDay m ≤ e ∧ e < marchDay (m + 1) := by
  unfold marchDay; omega

/-! ### The inversion -/

/-- Year `d` of century `b` is March year `100 b + d`. -/
lemma daysBefore_century {b d : Int} (h0 : 0 ≤ d) (h1 : d ≤ 99) :
    daysBefore (100 * b + d) = 146097 * b / 4 + 1461 * d / 4 := by
  have h400 : (100 * b + d) / 400 = b / 4 := by omega
  have h100 : (100 * b + d) / 100 = b := by omega
  have h4 : (100 * b + d) / 4 = 25 * b + d / 4 := by omega
  have hb : 146097 * b / 4 = 36524 * b + b / 4 := by omega
  have hd : 1461 * d / 4 = 365 * d + d / 4 := by omega
  unfold daysBefore; omega

/-- The leap day of March year `100 b + d`, by its year `d` in century `b` and by `b`. -/
lemma isLeapYear_century {b d : Int} (hd : 0 ≤ d ∧ d ≤ 99) (h3 : d % 4 = 3)
    (h99 : d = 99 → b % 4 = 3) : isLeapYear (100 * b + d + 1) := by
  simp only [isLeapYear, decide_eq_true_eq]
  omega

/-- The first steps of `from_day_number`: `a` days are day `e` of year `d` of century `b`. -/
lemma inYear_of_days {a b c d e : Int} (hb : b = (4 * a + 3) / 146097)
    (hc : c = a - 146097 * b / 4) (hd : d = (4 * c + 3) / 1461) (he : e = c - 1461 * d / 4) :
    0 ≤ d ∧ a = daysBefore (100 * b + d) + e ∧ InYear (100 * b + d) e := by
  have hb4 : 146097 * b / 4 = 36524 * b + b / 4 := by clear hb hc hd he; omega
  have hc' : 0 ≤ c ∧ c ≤ 36524 ∧ (c = 36524 → b % 4 = 3) := by clear hd he; omega
  have hd4 : 1461 * d / 4 = 365 * d + d / 4 := by clear hb hc hd he hb4 hc'; omega
  have hd' : 0 ≤ d ∧ d ≤ 99 := by clear he hb hc hb4; omega
  have he' : 0 ≤ e ∧ e ≤ 365 ∧ (e = 365 → d % 4 = 3) := by clear hb hc hb4; omega
  have hleap : e = 365 → isLeapYear (100 * b + d + 1) := fun h365 =>
    isLeapYear_century hd' (he'.2.2 h365) fun h99 => hc'.2.2 (by omega)
  have ha : a = 146097 * b / 4 + 1461 * d / 4 + e := by omega
  clear hb hc hd he hb4 hd4
  refine ⟨hd'.1, by rw [daysBefore_century hd'.1 hd'.2]; exact ha, he'.1, ?_⟩
  rw [daysBefore_succ]
  split_ifs with h
  · omega
  · have : e ≠ 365 := fun h' => h (hleap h')
    omega

/-- `from_day_number(n)` finds the March year and day of `n + 32044`. -/
lemma fromDayNumber_eq_ofMarch (n : Nat) : ∃ y e, 0 ≤ y ∧ InYear y e ∧
    (n : Int) + 32044 = daysBefore y + e ∧ fromDayNumber n = ofMarch y e := by
  obtain ⟨hd, ha, he⟩ := @inYear_of_days ((n : Int) + 32044) _ _ _ _ rfl rfl rfl rfl
  exact ⟨_, _, by omega, he, ha, rfl⟩

/-! ### The formula -/

/-- The formula's `367 (m + 1) / 12` is 30 days past the start of March month `m`. -/
lemma marchDay_add_30 {m : Int} (h0 : 0 ≤ m) (h1 : m ≤ 11) :
    367 * (m + 1) / 12 = marchDay m + 30 := by
  unfold marchDay; omega

/-- The formula on a date of month `m` of March year `y`, with the month's offset `a` resolved. -/
lemma dayNumber_eq_tdiv {c : YMDhms} {y m : Int} (hm : 0 ≤ m ∧ m ≤ 11)
    (hM : c.month = m + 3 - 12 * (m / 10)) (hY : c.year = y - 4800 + m / 10) :
    c.dayNumber = (1461 * y).tdiv 4 + (367 * (m + 1)).tdiv 12 -
      (3 * ((y + 100).tdiv 100)).tdiv 4 + c.day - 32075 := by
  have ha : (c.month - 14).tdiv 12 = -(m / 10) := by
    rw [tdiv_eq_ite (by decide)]; split_ifs <;> omega
  have h1 : c.year + 4800 + -(m / 10) = y := by omega
  have h2 : c.month - 2 - 12 * -(m / 10) = m + 1 := by omega
  have h3 : c.year + 4900 + -(m / 10) = y + 100 := by omega
  simp only [YMDhms.dayNumber, ha, h1, h2, h3]

/-- The formula on a date of March month `m` of March year `y`, by the days before both. -/
lemma dayNumber_eq_march {c : YMDhms} {y m : Int} (hy : 0 ≤ y) (hm : 0 ≤ m ∧ m ≤ 11)
    (hM : c.month = m + 3 - 12 * (m / 10)) (hY : c.year = y - 4800 + m / 10) :
    c.dayNumber = daysBefore y + marchDay m + c.day - 1 - 32044 := by
  have h100 : (y + 100) / 100 = y / 100 + 1 := by omega
  have h400 : y / 400 = y / 100 / 4 := by omega
  rw [dayNumber_eq_tdiv hm hM hY, @Int.tdiv_eq_ediv (y + 100) 100 (by omega) (by decide), h100,
    Int.tdiv_eq_ediv (by omega) (by decide), Int.tdiv_eq_ediv (by omega) (by decide),
    Int.tdiv_eq_ediv (by omega) (by decide), marchDay_add_30 hm.1 hm.2]
  unfold daysBefore
  omega

/-- Before March year 0 the formula gives negative day numbers. -/
lemma dayNumber_neg {c : YMDhms} {y m : Int} (hy : y < 0) (hm : 0 ≤ m ∧ m ≤ 11)
    (hM : c.month = m + 3 - 12 * (m / 10)) (hY : c.year = y - 4800 + m / 10) (hD : c.day ≤ 31) :
    c.dayNumber < 0 := by
  rw [dayNumber_eq_tdiv hm hM hY, @tdiv_eq_ite (1461 * y) 4 (by decide), if_neg (by omega),
    @Int.tdiv_eq_ediv (367 * (m + 1)) 12 (by omega) (by decide),
    @tdiv_eq_ite (y + 100) 100 (by decide), tdiv_eq_ite (by decide)]
  split_ifs <;> omega

/-- The formula counts `daysBefore y + e - 32044` days for day `e` of March year `y`. -/
lemma dayNumber_ofMarch {y e : Int} (hy : 0 ≤ y) (he : InYear y e) :
    (ofMarch y e).dayNumber = daysBefore y + e - 32044 := by
  obtain ⟨he0, he1⟩ := he.le_365
  have hm := marchMonth_iff.1 (rfl : (5 * e + 2) / 153 = _)
  rw [dayNumber_eq_march hy (by unfold marchDay at hm; omega) rfl rfl]
  simp only [ofMarch]
  omega

/-! ### Real dates -/

/-- The leap years repeat every 400 years. -/
@[simp] lemma isLeapYear_add_400_mul (Y k : Int) : isLeapYear (Y + 400 * k) = isLeapYear Y := by
  simp only [isLeapYear, decide_eq_decide]
  omega

/-- Outside February a month has the days between the starts of its March month and the next. -/
lemma daysInMonth_of_ne_two {Y M : Int} (hM : 1 ≤ M ∧ M ≤ 12) (h2 : M ≠ 2) :
    daysInMonth Y M = marchDay ((M + 9) % 12 + 1) - marchDay ((M + 9) % 12) := by
  obtain ⟨h1, h12⟩ := hM
  interval_cases M <;> simp_all [daysInMonth, marchDay]

/-- Month `M` is March month `(M + 9) % 12`. -/
lemma month_eq_march {M : Int} (hM : 1 ≤ M ∧ M ≤ 12) :
    0 ≤ (M + 9) % 12 ∧ (M + 9) % 12 ≤ 11 ∧
      M = (M + 9) % 12 + 3 - 12 * ((M + 9) % 12 / 10) := by
  rcases (show M ≤ 2 ∨ 3 ≤ M by omega) with h | h
  · rw [show (M + 9) % 12 = M + 9 by omega]; omega
  · rw [show (M + 9) % 12 = M - 3 by omega]; omega

/-- A date is real exactly when its day falls in its March month and in its March year. -/
lemma isDate_iff_inYear {Y M D : Int} (hM : 1 ≤ M ∧ M ≤ 12) :
    isDate Y M D ↔ 1 ≤ D ∧ marchDay ((M + 9) % 12) + D - 1 < marchDay ((M + 9) % 12 + 1) ∧
      InYear (Y + 4800 - (M + 9) % 12 / 10) (marchDay ((M + 9) % 12) + D - 1) := by
  have hlen := daysBefore_succ (Y + 4800 - (M + 9) % 12 / 10)
  unfold isDate InYear
  rcases eq_or_ne M 2 with rfl | h2
  · have hleap : isLeapYear (Y + 4800 - (2 + 9) % 12 / 10 + 1) = isLeapYear Y := by
      rw [show Y + 4800 - (2 + 9) % 12 / 10 + 1 = Y + 400 * 12 by omega, isLeapYear_add_400_mul]
    have h11 : marchDay ((2 + 9) % 12) = 337 ∧ marchDay ((2 + 9) % 12 + 1) = 367 := by decide
    rw [hleap] at hlen
    simp only [daysInMonth, if_true, decide_eq_true_eq, h11.1, h11.2]
    split_ifs at hlen ⊢ <;> omega
  · have hm : marchDay ((M + 9) % 12 + 1) ≤ 337 := by unfold marchDay; omega
    rw [daysInMonth_of_ne_two hM h2]
    simp only [decide_eq_true_eq]
    have : 0 ≤ marchDay ((M + 9) % 12) := by unfold marchDay; omega
    split_ifs at hlen <;> omega

/-- The date `from_day_number` gives for day `e` of March year `y` is a real one. -/
lemma isDate_ofMarch {y e : Int} (he : InYear y e) :
    isDate (ofMarch y e).year (ofMarch y e).month (ofMarch y e).day := by
  obtain ⟨he0, he1⟩ := he.le_365
  have hm := marchMonth_iff.1 (rfl : (5 * e + 2) / 153 = _)
  simp only [ofMarch]
  generalize (5 * e + 2) / 153 = m at hm ⊢
  have hk : m / 10 = 0 ∧ 0 ≤ m ∧ m ≤ 9 ∨ m / 10 = 1 ∧ 10 ≤ m ∧ m ≤ 11 := by
    unfold marchDay at hm; omega
  rw [isDate_iff_inYear (by omega), show (m + 3 - 12 * (m / 10) + 9) % 12 = m by omega,
    show y - 4800 + m / 10 + 4800 - m / 10 = y by omega,
    show marchDay m + (e - marchDay m + 1) - 1 = e by omega]
  exact ⟨by omega, hm.2, he⟩

/-- A real date is day `marchDay m + D - 1` of March year `Y + 4800 - m / 10`. -/
lemma ofMarch_of_isDate {Y M D : Int} (hd : isDate Y M D) :
    ofMarch (Y + 4800 - (M + 9) % 12 / 10) (marchDay ((M + 9) % 12) + D - 1) =
      ⟨Y, M, D, 0, 0, 0⟩ := by
  have hM : 1 ≤ M ∧ M ≤ 12 := by simp only [isDate, decide_eq_true_eq] at hd; omega
  obtain ⟨hD, hlt, -⟩ := (isDate_iff_inYear hM).1 hd
  have hm := marchMonth_iff.2 ⟨by omega, hlt⟩
  simp only [ofMarch, hm, YMDhms.mk.injEq, and_true]
  clear hd hlt hm
  omega

/-- From Julian day 0 on, `from_day_number` inverts the formula exactly on real dates. -/
theorem fromDayNumber_dayNumber_iff {Y M D : Int}
    (h0 : 0 ≤ (⟨Y, M, D, 0, 0, 0⟩ : YMDhms).dayNumber) :
    fromDayNumber (⟨Y, M, D, 0, 0, 0⟩ : YMDhms).dayNumber.toNat = ⟨Y, M, D, 0, 0, 0⟩ ↔
      isDate Y M D := by
  obtain ⟨y, e, -, he, hn, hf⟩ :=
    fromDayNumber_eq_ofMarch (⟨Y, M, D, 0, 0, 0⟩ : YMDhms).dayNumber.toNat
  constructor
  · intro h
    have := isDate_ofMarch he
    rwa [← hf, h] at this
  · intro hd
    obtain ⟨hM1, hM2, hD⟩ : 1 ≤ M ∧ M ≤ 12 ∧ D ≤ 31 := by
      simp only [isDate, daysInMonth, decide_eq_true_eq] at hd; split_ifs at hd <;> omega
    obtain ⟨hm0, hm1, hMm⟩ := month_eq_march ⟨hM1, hM2⟩
    have he' := ((isDate_iff_inYear ⟨hM1, hM2⟩).1 hd).2.2
    have hy : 0 ≤ Y + 4800 - (M + 9) % 12 / 10 := by
      by_contra hy
      exact absurd h0 (not_le.2 (@dayNumber_neg ⟨Y, M, D, 0, 0, 0⟩ _ _ (not_le.1 hy)
        ⟨hm0, hm1⟩ hMm (by dsimp only; omega) hD))
    have hc := ofMarch_of_isDate hd
    rw [← hc, dayNumber_ofMarch hy he'] at h0 hn
    obtain ⟨rfl, rfl⟩ := he'.unique he (by omega)
    rw [hf, hc]

/-- 30 February 2001 passes `YMDhms`'s range check, and is no real date. -/
theorem fromDayNumber_dayNumber_feb30 :
    0 ≤ (⟨2001, 2, 30, 0, 0, 0⟩ : YMDhms).dayNumber ∧
    (fromDayNumber (⟨2001, 2, 30, 0, 0, 0⟩ : YMDhms).dayNumber.toNat =
      ⟨2001, 2, 30, 0, 0, 0⟩ ↔ isDate 2001 2 30) :=
  ⟨by decide, fromDayNumber_dayNumber_iff (by decide)⟩

example : fromDayNumber (⟨2001, 2, 30, 0, 0, 0⟩ : YMDhms).dayNumber.toNat =
    ⟨2001, 3, 2, 0, 0, 0⟩ := by
  decide

/-! ### Years -/

/-- 1 January of year `Y` is day 306 of March year `Y + 4799`. -/
lemma newYearDay_eq {Y y : Int} (h : Y + 4799 = y) (hy : 0 ≤ y) :
    newYearDay Y = daysBefore y + 306 - 32044 := by
  have : marchDay 10 = 306 := by decide
  rw [newYearDay, @dayNumber_eq_march _ y 10 hy (by decide) (by norm_num) (by dsimp only; omega)]
  dsimp only
  omega

/-- 1 January comes later in every later year. -/
lemma newYearDay_lt {Y Y' : Int} (h : -4799 ≤ Y) (hlt : Y < Y') :
    newYearDay Y < newYearDay Y' := by
  have := daysBefore_succ (Y + 4799)
  have := @daysBefore_succ_le (Y + 4799) (Y' + 4799) (by omega)
  rw [newYearDay_eq rfl (by omega), newYearDay_eq rfl (by omega)]
  split_ifs at * <;> omega

/-- Before March year 0, 1 January has a negative day number. -/
lemma newYearDay_neg {Y : Int} (h : Y < -4799) : newYearDay Y < 0 :=
  @dayNumber_neg ⟨Y, 1, 1, 0, 0, 0⟩ (Y + 4799) 10 (by omega) (by decide) (by norm_num)
    (by dsimp only; omega) (by dsimp only; omega)

/-- Day `n` lies from 1 January of `from_day_number(n)`'s year to before the next one. -/
lemma newYearDay_le_fromDayNumber (n : Nat) :
    -4799 ≤ (fromDayNumber n).year ∧ newYearDay (fromDayNumber n).year ≤ n ∧
      (n : Int) < newYearDay ((fromDayNumber n).year + 1) := by
  obtain ⟨y, e, hy, he, hn, hf⟩ := fromDayNumber_eq_ofMarch n
  obtain ⟨he0, he1⟩ := he.le_365
  have hlen := daysBefore_succ y
  have hlen' := daysBefore_succ (y - 1)
  have hy1 : 1 ≤ y := by unfold daysBefore at hn; omega
  rw [hf]
  simp only [ofMarch]
  by_cases h306 : 306 ≤ e
  · rw [show y - 4800 + (5 * e + 2) / 153 / 10 = y - 4799 by omega,
      newYearDay_eq (show y - 4799 + 4799 = y by omega) hy,
      newYearDay_eq (show y - 4799 + 1 + 4799 = y + 1 by omega) (by omega)]
    unfold InYear at he
    omega
  · rw [show y - 4800 + (5 * e + 2) / 153 / 10 = y - 4800 by omega,
      newYearDay_eq (show y - 4800 + 4799 = y - 1 by omega) (by omega),
      newYearDay_eq (show y - 4800 + 1 + 4799 = y by omega) hy]
    rw [sub_add_cancel] at hlen'
    split_ifs at hlen' <;> omega

/-- A year is at most `from_day_number(n)`'s exactly when its 1 January is at most day `n`. -/
theorem le_fromDayNumber_year_iff (n : Nat) (Z : Int) :
    Z ≤ (fromDayNumber n).year ↔ newYearDay Z ≤ n := by
  obtain ⟨hY, hle, hlt⟩ := newYearDay_le_fromDayNumber n
  constructor
  · intro hZ
    rcases hZ.lt_or_eq with hZ | rfl
    · rcases lt_or_le Z (-4799) with h | h
      · have := newYearDay_neg h; omega
      · exact (newYearDay_lt h hZ).le.trans hle
    · exact hle
  · intro hZ
    by_contra h
    rcases (show (fromDayNumber n).year + 1 ≤ Z by omega).eq_or_lt with h | h
    · rw [← h] at hZ; omega
    · have := newYearDay_lt (by omega) h; omega

/-- The formula inverts `from_day_number` on every day number whose year is an `int`. -/
theorem dayNumber_fromDayNumber (n : Nat) (h : InInt32 (fromDayNumber n).year) :
    (fromDayNumber n).dayNumber = n ∧ InInt64 (fromDayNumber n).dayNumber := by
  obtain ⟨y, e, hy, he, hn, hf⟩ := fromDayNumber_eq_ofMarch n
  have hd : (fromDayNumber n).dayNumber = n := by
    rw [hf, dayNumber_ofMarch hy he]
    omega
  obtain ⟨hY, -, hlt⟩ := newYearDay_le_fromDayNumber n
  rw [newYearDay_eq rfl (by omega)] at hlt
  unfold InInt32 at h
  unfold daysBefore at hlt
  exact ⟨hd, by unfold InInt64; omega⟩

/-- The epoch's day. -/
theorem dayNumber_fromDayNumber_epoch :
    InInt32 (fromDayNumber 2440588).year ∧
      (fromDayNumber 2440588).dayNumber = 2440588 ∧ InInt64 (fromDayNumber 2440588).dayNumber :=
  ⟨by decide, dayNumber_fromDayNumber 2440588 (by decide)⟩

/-! ### `utc_year` -/

/-- `day_number(t)` grows with `t`. -/
lemma dayNumber_mono {t t' : Int} (h : t ≤ t') : dayNumber t ≤ dayNumber t' := by
  unfold dayNumber
  exact tdiv_mono (by decide) (add_le_add_left (tdiv_mono (by decide) h) _)

/-- The day number of an `int64` instant fits `unsigned long`. -/
lemma dayNumber_lt_of_inInt64 {t : Int} (ht : InInt64 t) : dayNumber t < 2^64 :=
  calc dayNumber t ≤ dayNumber maxUtctime :=
        dayNumber_mono (by unfold InInt64 at ht; unfold maxUtctime; omega)
    _ < 2^64 := by decide

/-- From Julian day 0 on, the year of an `int64` instant's day lies in `[-4799, 300000]`. -/
lemma fromDayNumber_year_bounds {t : Int} (ht : InInt64 t) (h0 : 0 ≤ dayNumber t) :
    -4799 ≤ (fromDayNumber (dayNumber t).toNat).year ∧
      (fromDayNumber (dayNumber t).toNat).year ≤ 300000 := by
  have hle : dayNumber t ≤ dayNumber maxUtctime :=
    dayNumber_mono (by unfold InInt64 at ht; unfold maxUtctime; omega)
  have hmax : (fromDayNumber (dayNumber maxUtctime).toNat).year ≤ 300000 := by decide
  have hYmax := le_fromDayNumber_year_iff (dayNumber maxUtctime).toNat
  have hiff := le_fromDayNumber_year_iff (dayNumber t).toNat
  rw [Int.toNat_of_nonneg (show (0 : Int) ≤ dayNumber maxUtctime by decide)] at hYmax
  rw [Int.toNat_of_nonneg h0] at hiff
  have := (hYmax _).2 (((hiff _).1 le_rfl).trans hle)
  exact ⟨(newYearDay_le_fromDayNumber _).1, by omega⟩

/-- Off the sentinels and from Julian day 0 on, `utc_year(t)` is `from_day_number`'s year. -/
lemma utcYear_eq_fromDayNumber {t : Int} (ht : InInt64 t) (h0 : 0 ≤ dayNumber t)
    (hmax : t ≠ maxUtctime) : utcYear t = .ok (fromDayNumber (dayNumber t).toNat).year := by
  have hno : t ≠ noUtctime := by rintro rfl; exact absurd h0 (by decide)
  have hmod : dayNumber t % 2^64 = dayNumber t :=
    Int.emod_eq_of_lt h0 (dayNumber_lt_of_inInt64 ht)
  have hY := fromDayNumber_year_bounds ht h0
  have hw : wrap32 (fromDayNumber (dayNumber t).toNat).year =
      (fromDayNumber (dayNumber t).toNat).year := wrap32_of_inInt32 ⟨by omega, by omega⟩
  simp only [utcYear, hno, hmax, minUtctime_eq_noUtctime, hmod, if_false, hw]

/-- From Julian day 0 on, off `max_utctime`, `utc_year(t)` is the year of `day_number(t)`. -/
theorem utcYear_spec {t : Int} (ht : InInt64 t) (h0 : 0 ≤ dayNumber t) (hmax : t ≠ maxUtctime) :
    ∃ y, utcYear t = .ok y ∧ ∀ Z, Z ≤ y ↔ newYearDay Z ≤ dayNumber t :=
  ⟨_, utcYear_eq_fromDayNumber ht h0 hmax, fun Z => by
    rw [le_fromDayNumber_year_iff, Int.toNat_of_nonneg h0]⟩

/-- The epoch lies in 1970. -/
theorem utcYear_spec_epoch :
    InInt64 0 ∧ 0 ≤ dayNumber 0 ∧ (0 : Int) ≠ maxUtctime ∧
      ∃ y, utcYear 0 = .ok y ∧ ∀ Z, Z ≤ y ↔ newYearDay Z ≤ dayNumber 0 :=
  ⟨by decide, by decide, by decide, utcYear_spec (by decide) (by decide) (by decide)⟩

/-- From Julian day 0 on, `utc_year` never decreases before `max_utctime`, where it drops. -/
theorem utcYear_mono {t t' : Int} (h0 : 0 ≤ dayNumber t) (ht' : InInt64 t') (hle : t ≤ t')
    (hmax : t' ≠ maxUtctime) :
    (∃ y y', utcYear t = .ok y ∧ utcYear t' = .ok y' ∧ y ≤ y') ∧
      utcYear (maxUtctime - 1) = .ok 294247 ∧ utcYear maxUtctime = .ok YMDhms.yearMax := by
  have hno : noUtctime < t :=
    not_le.1 fun h => absurd (h0.trans (dayNumber_mono h)) (by decide)
  have ht : InInt64 t ∧ t ≠ maxUtctime := by
    unfold InInt64 at ht' ⊢; unfold noUtctime at hno; unfold maxUtctime at hmax ⊢; omega
  have h0' := h0.trans (dayNumber_mono hle)
  refine ⟨⟨_, _, utcYear_eq_fromDayNumber ht.1 h0 ht.2, utcYear_eq_fromDayNumber ht' h0' hmax,
    ?_⟩, rfl, rfl⟩
  rw [le_fromDayNumber_year_iff, Int.toNat_of_nonneg h0']
  have := (le_fromDayNumber_year_iff (dayNumber t).toNat _).1 le_rfl
  rw [Int.toNat_of_nonneg h0] at this
  exact this.trans (dayNumber_mono hle)

/-- The epoch and the last instant before `max_utctime`. -/
theorem utcYear_mono_epoch :
    0 ≤ dayNumber 0 ∧ InInt64 (maxUtctime - 1) ∧ 0 ≤ maxUtctime - 1 ∧ maxUtctime - 1 ≠ maxUtctime ∧
    (∃ y y', utcYear 0 = .ok y ∧ utcYear (maxUtctime - 1) = .ok y' ∧ y ≤ y') ∧
      utcYear (maxUtctime - 1) = .ok 294247 ∧ utcYear maxUtctime = .ok YMDhms.yearMax :=
  ⟨by decide, by decide, by decide, by decide, utcYear_mono (by decide) (by decide) (by decide)
    (by decide)⟩

/-- From Julian day 0 on, `utc_year` lies in `[-4799, 300000]` and is read off 1 Januaries. -/
lemma utcYear_le_iff {t : Int} (ht : InInt64 t) (h0 : 0 ≤ dayNumber t) :
    ∃ y, utcYear t = .ok y ∧ -4799 ≤ y ∧ y ≤ 300000 ∧
      ∀ Z, Z ≤ YMDhms.yearMax → (Z ≤ y ↔ newYearDay Z ≤ dayNumber t) := by
  by_cases hmax : t = maxUtctime
  · subst hmax
    have hYmax := le_fromDayNumber_year_iff (dayNumber maxUtctime).toNat
    rw [Int.toNat_of_nonneg h0] at hYmax
    have hbound : 9999 ≤ (fromDayNumber (dayNumber maxUtctime).toNat).year := by decide
    exact ⟨9999, rfl, by decide, by decide, fun Z hZ =>
      ⟨fun _ => (hYmax Z).1 (by unfold YMDhms.yearMax at hZ; omega), fun _ => hZ⟩⟩
  · have hiff := le_fromDayNumber_year_iff (dayNumber t).toNat
    rw [Int.toNat_of_nonneg h0] at hiff
    obtain ⟨hlo, hhi⟩ := fromDayNumber_year_bounds ht h0
    exact ⟨_, utcYear_eq_fromDayNumber ht h0 hmax, hlo, hhi, fun Z _ => hiff Z⟩

/-- In the last second before a 0:00 up to the epoch, `day_number` gives the next day. -/
lemma dayNumber_last_second {K t : Int} (hK : 0 ≤ unixDay + K) (hK' : K ≤ 0)
    (ht : K * 86400000000 - 1000000 < t) (ht' : t < K * 86400000000) :
    dayNumber t = unixDay + K := by
  simp only [dayNumber, calendarDay, unixSecond, unixDay] at hK ⊢
  rw [show (86400000000 : Int).tdiv 1000000 = 86400 by decide, @tdiv_eq_ite t 1000000 (by decide),
    if_neg (by omega), tdiv_eq_ite (by decide), if_pos (by omega)]
  omega

/-- In the last second before 1 January of a year up to 1970, `utc_year` answers that year. -/
theorem utcYear_last_second {Y t : Int} (h0 : 0 < newYearDay Y) (h1 : newYearDay Y ≤ unixDay)
    (ht : (newYearDay Y - unixDay) * 86400000000 - 1000000 < t)
    (ht' : t < (newYearDay Y - unixDay) * 86400000000) :
    (unixSecond * 1000000 + t) / 86400000000 = newYearDay Y - 1 ∧ utcYear t = .ok Y := by
  have hd := dayNumber_last_second (by omega) (by omega) ht ht'
  rw [show unixDay + (newYearDay Y - unixDay) = newYearDay Y by omega] at hd
  have hY : -4799 ≤ Y := not_lt.1 fun h => absurd (newYearDay_neg h) (by omega)
  have hin : InInt64 t := by unfold InInt64; unfold unixDay at h1 ht ht'; omega
  have hmax : t ≠ maxUtctime := by unfold maxUtctime; unfold unixDay at h1 ht'; omega
  refine ⟨by unfold unixSecond; omega, ?_⟩
  rw [utcYear_eq_fromDayNumber hin (by omega) hmax, hd]
  have hiff := le_fromDayNumber_year_iff (newYearDay Y).toNat
  rw [Int.toNat_of_nonneg h0.le] at hiff
  have hge : (fromDayNumber (newYearDay Y).toNat).year ≤ Y := by
    by_contra h
    exact absurd ((hiff _).1 le_rfl) (not_le.2 (newYearDay_lt hY (not_le.1 h)))
  exact congrArg _ (le_antisymm hge ((hiff Y).2 le_rfl))

/-- Half a second before the epoch, `utc_year` answers 1970 for an instant of 1969. -/
theorem utcYear_last_second_1970 :
    0 < newYearDay 1970 ∧ newYearDay 1970 ≤ unixDay ∧
    (newYearDay 1970 - unixDay) * 86400000000 - 1000000 < -500000 ∧
    -500000 < (newYearDay 1970 - unixDay) * 86400000000 ∧
    (unixSecond * 1000000 + -500000) / 86400000000 = newYearDay 1970 - 1 ∧
      utcYear (-500000) = .ok 1970 :=
  ⟨by decide, by decide, by decide, by decide, utcYear_last_second (by decide) (by decide)
    (by decide) (by decide)⟩

end Shyft.Core