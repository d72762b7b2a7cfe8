import ShyftTime.TzInfo

/-!
# DST periods as instants

What a zone built from DST rules is for, and that the table-driven `tz_info<tz_table>` of
`src/core/utctime_utilities.h` (lines 160–173 and 466–475) does it. The rules give, for every
year, the DST period `[dst_start(y), dst_end(y))` of UTC instants and its offset; the zone should
be in DST exactly on those periods and add the offset of the period an instant lies in.

The table does not look at the periods directly: `dst_offset` picks the row of `utc_year(t)`,
which cuts the instant to whole seconds toward zero before taking its day. `le_utcYear_iff` says
this in instants: a year is at most `utc_year(t)` exactly when its first instant, 1 January
00:00 UTC (`newYearInstant`), is at most `t` so cut. `utcYear_of_mem_year` then places every
instant of a year that is clear of the year's last second, and `ofRules_dst_periods` is the
refinement: when the rules put every DST period of the window inside its year and clear of that
last second (`PeriodsInYears`), the zone answers at every instant of the window its base offset
plus the offset of the DST period containing the instant, or the base offset alone outside them,
and is in DST exactly inside the periods with a nonzero offset. `utc_offset` adds in `int64_t`,
so the refinement asks that the base offset, alone and plus each year's DST offset, fits it.
-/

namespace Shyft.Core.TimeZone
open Shyft.Core

/-- The first instant of year `Y`: 1 January, 00:00 UTC. -/
def newYearInstant (Y : Int) : Int := (newYearDay Y - unixDay) * calendarDay

/-- The DST period of `year`, `utcperiod(tz.dst_start(y), tz.dst_end(y))`. -/
def RuleProvider.period (tz : RuleProvider) (year : Int) : Utcperiod :=
  ⟨tz.dstStart year, tz.dstEnd year⟩

/-- Every DST period of the window is nonempty and inside its year, clear of its last second. -/
def PeriodsInYears (tz : RuleProvider) (startYear : Int) (nYears : Nat) : Prop :=
  ∀ y, startYear ≤ y → y < startYear + nYears →
    newYearInstant y ≤ tz.dstStart y ∧ tz.dstStart y < tz.dstEnd y ∧
      tz.dstEnd y + 1000000 ≤ newYearInstant (y + 1)

/-- A year whose 1 January is from Julian day 0 on starts with March year 0 or later. -/
lemma le_year_of_newYearDay_nonneg {Y : Int} (h0 : 0 ≤ newYearDay Y) : -4799 ≤ Y :=
  not_lt.1 fun h => absurd (newYearDay_neg h) (by omega)

/-- 1 January of a year of the calendar is at most 1 January 9999. -/
lemma newYearDay_le_yearMax {Y : Int} (hlo : -4799 ≤ Y) (hY : Y ≤ YMDhms.yearMax) :
    newYearDay Y ≤ 5373120 := by
  have hmax : newYearDay YMDhms.yearMax = 5373120 := by decide
  rcases hY.lt_or_eq with h | rfl
  · exact hmax ▸ (newYearDay_lt hlo h).le
  · exact hmax.le

/-- From Julian day 0 on, a year is at most `utc_year(t)` when it starts by `t` cut to seconds. -/
lemma le_utcYear_iff {t : Int} (hlo : -unixSecond * 1000000 ≤ t) (ht : t < 2^63) :
    ∃ y, utcYear t = .ok y ∧ -4799 ≤ y ∧ y ≤ 300000 ∧ ∀ Z, Z ≤ YMDhms.yearMax →
      (Z ≤ y ↔ newYearInstant Z ≤ t.tdiv 1000000 * 1000000) := by
  have hs : 0 ≤ unixSecond + t.tdiv 1000000 := by
    have := @tdiv_mono _ _ 1000000 (by decide) hlo
    rw [Int.mul_tdiv_cancel _ (by decide)] at this
    omega
  have h0 : 0 ≤ dayNumber t := Int.tdiv_nonneg hs (by decide)
  have ht64 : InInt64 t := by unfold InInt64; unfold unixSecond unixDay at hlo; omega
  obtain ⟨y, hy, hy0, hy1, hiff⟩ := utcYear_le_iff ht64 h0
  refine ⟨y, hy, hy0, hy1, fun Z hZ => (hiff Z hZ).trans ?_⟩
  unfold dayNumber newYearInstant calendarDay
  rw [show (86400000000 : Int).tdiv 1000000 = 86400 by decide, Int.tdiv_eq_ediv hs (by decide)]
  unfold unixSecond at hs ⊢
  omega

/-- An instant of a year from Julian day 0 on, clear of its last second, is in that `utc_year`. -/
lemma utcYear_of_mem_year {Y t : Int} (h0 : 0 ≤ newYearDay Y) (hY : Y < YMDhms.yearMax)
    (h1 : newYearInstant Y ≤ t) (h2 : t + 1000000 ≤ newYearInstant (Y + 1)) :
    utcYear t = .ok Y := by
  have hmax := @newYearDay_le_yearMax (Y + 1) (by have := le_year_of_newYearDay_nonneg h0; omega) hY
  unfold newYearInstant calendarDay at h1 h2
  obtain ⟨y, hy, -, -, hiff⟩ :=
    @le_utcYear_iff t (by unfold unixSecond; omega) (by unfold unixDay at h2; omega)
  have hY1 := hiff Y hY.le
  have hY2 := hiff (Y + 1) hY
  unfold newYearInstant calendarDay at hY1 hY2
  rw [tdiv_eq_ite (by decide)] at hY1 hY2
  rw [hy, show y = Y by split_ifs at hY1 hY2 <;> omega]

/-- An instant after `no_utctime` lies in a nonempty DST period when it lies between its ends. -/
lemma period_contains_iff {tz : RuleProvider} {y t : Int} (hs : noUtctime < tz.dstStart y)
    (hlt : tz.dstStart y < tz.dstEnd y) (ht : noUtctime < t) :
    (tz.period y).contains t ↔ tz.dstStart y ≤ t ∧ t < tz.dstEnd y := by
  simp only [Utcperiod.contains_iff, Utcperiod.valid_iff, RuleProvider.period]
  omega

/-- From a year whose 1 January is from Julian day 0 on, every later 1 January is too. -/
lemma newYearDay_nonneg_of_le {s y : Int} (hjd : 0 ≤ newYearDay s) (hy : s ≤ y) :
    0 ≤ newYearDay y := by
  rcases hy.lt_or_eq with h | rfl
  · exact hjd.trans (newYearDay_lt (le_year_of_newYearDay_nonneg hjd) h).le
  · exact hjd

/-- An instant in the DST period of a year of the window has that year for `utc_year`. -/
lemma utcYear_of_period_contains {tz : RuleProvider} {startYear : Int} {nYears : Nat}
    (hjd : 0 ≤ newYearDay startYear) (hhi : startYear + nYears ≤ YMDhms.yearMax)
    (hp : PeriodsInYears tz startYear nYears) {y t : Int} (ha : startYear ≤ y)
    (hb : y < startYear + nYears) (hc : (tz.period y).contains t) : utcYear t = .ok y := by
  obtain ⟨hs, -, he⟩ := hp y ha hb
  simp only [Utcperiod.contains_iff, RuleProvider.period] at hc
  exact utcYear_of_mem_year (newYearDay_nonneg_of_le hjd ha) (by omega) (by omega) (by omega)

/-- For rules whose DST periods lie in their years, the zone is in DST exactly inside them. -/
theorem ofRules_dst_periods {tz : RuleProvider} {startYear : Int} {nYears : Nat}
    (hjd : 0 ≤ newYearDay startYear) (hhi : startYear + nYears ≤ YMDhms.yearMax)
    (hp : PeriodsInYears tz startYear nYears) (base : Int) (hbase : InInt64 base)
    (hdst : ∀ y, startYear ≤ y → y < startYear + nYears → InInt64 (base + tz.dstOffset y)) {t : Int}
    (h1 : newYearInstant startYear ≤ t) (h2 : t < newYearInstant (startYear + nYears)) :
    let z : TzInfo := ⟨base, TzTable.ofRules tz startYear nYears⟩
    (∀ y, startYear ≤ y → y < startYear + nYears → (tz.period y).contains t →
      z.utcOffset t = .ok (base + tz.dstOffset y)) ∧
    ((∀ y, startYear ≤ y → y < startYear + nYears → ¬(tz.period y).contains t) →
      z.utcOffset t = .ok base) ∧
    (z.isDst t = .ok true ↔ ∃ y, startYear ≤ y ∧ y < startYear + nYears ∧
      (tz.period y).contains t ∧ tz.dstOffset y ≠ 0) := by
  intro z
  have hlo := le_year_of_newYearDay_nonneg hjd
  have hn : 0 < nYears := Nat.pos_of_ne_zero fun h => by subst h; simp at h2; omega
  have hmax := newYearDay_le_yearMax (by omega) hhi
  unfold newYearInstant calendarDay at h1 h2
  -- `t`'s year, and the one period that can contain `t`
  obtain ⟨y, hy, hy0, hy1, hiff⟩ :=
    @le_utcYear_iff t (by unfold unixSecond; omega) (by unfold unixDay at h2; omega)
  have hge : startYear ≤ y := by
    refine (hiff startYear (by unfold YMDhms.yearMax at hhi ⊢; omega)).2 ?_
    unfold newYearInstant calendarDay
    rw [tdiv_eq_ite (by decide)]
    split_ifs <;> omega
  have hyear : ∀ y', startYear ≤ y' → y' < startYear + nYears → (tz.period y').contains t →
      y' = y := fun y' ha hb hc =>
    Except.ok.inj ((utcYear_of_period_contains hjd hhi hp ha hb hc).symm.trans hy)
  obtain ⟨hu, hi⟩ := @TzInfo.utcOffset_isDst_of_dstOffset z t _ <|
    TzTable.ofRules_dstOffset_of_ge (by unfold YMDhms.yearMin; omega) hhi hn hy
      (by unfold InInt32; unfold YMDhms.yearMax at hhi; omega) hge
  have hbase0 : InInt64 (base + 0) := by rwa [add_zero]
  by_cases hw : y < startYear + nYears
  · -- inside the window: `t` is in its year's period exactly when between the period's ends
    have hpy := hp y hge hw
    have hc : (tz.period y).contains t ↔ tz.dstStart y ≤ t ∧ t < tz.dstEnd y := by
      have := newYearDay_nonneg_of_le hjd hge
      unfold newYearInstant calendarDay at hpy
      exact period_contains_iff (by unfold noUtctime; unfold unixDay at hpy; omega) hpy.2.1
        (by unfold noUtctime; unfold unixDay at h1; omega)
    simp only [if_pos hw, RuleProvider.offsetAt, if_pos hpy.2.1] at hu hi
    refine ⟨fun y' ha hb hc' => ?_, fun hout => ?_, ?_⟩
    · obtain rfl := hyear y' ha hb hc'
      rw [hu, if_pos (hc.1 hc'), int64Add_of_inInt64 (hdst _ ha hb)]
    · rw [hu, if_neg fun h => hout y hge hw (hc.2 h), int64Add_of_inInt64 hbase0, add_zero]
    · rw [hi]
      constructor
      · intro h
        split_ifs at h with hin
        · exact ⟨y, hge, hw, hc.2 hin, by simpa using h⟩
        · simp at h
      · rintro ⟨y', ha, hb, hc', hd⟩
        obtain rfl := hyear y' ha hb hc'
        rw [if_pos (hc.1 hc')]
        simpa using hd
  · -- past the window: no period contains `t`, and the table answers 0
    have hout : ∀ y', startYear ≤ y' → y' < startYear + nYears → ¬(tz.period y').contains t :=
      fun y' ha hb hc' => hw (hyear y' ha hb hc' ▸ hb)
    simp only [if_neg hw] at hu hi
    refine ⟨fun y' ha hb hc' => absurd hc' (hout y' ha hb), fun _ => ?_, ?_⟩
    · rw [hu, int64Add_of_inInt64 hbase0, add_zero]
    · rw [hi]
      simp only [bne_self_eq_false, Except.ok.injEq, Bool.false_eq_true, false_iff, not_exists,
        not_and]
      exact fun y' ha hb hc' _ => hout y' ha hb hc'

/-- Central European rules for 2000, DST from 26 March to 29 October, as DST starts. -/
theorem ofRules_dst_periods_2000 :
    let tz : RuleProvider :=
      ⟨fun _ => 954032400000000, fun _ => 972781200000000, fun _ => 3600000000, "CET"⟩
    let z : TzInfo := ⟨3600000000, TzTable.ofRules tz 2000 1⟩
    0 ≤ newYearDay 2000 ∧ (2000 : Int) + (1 : Nat) ≤ YMDhms.yearMax ∧ PeriodsInYears tz 2000 1 ∧
    InInt64 3600000000 ∧
    (∀ y : Int, 2000 ≤ y → y < 2000 + (1 : Nat) → InInt64 (3600000000 + tz.dstOffset y)) ∧
    newYearInstant 2000 ≤ 954032400000000 ∧ 954032400000000 < newYearInstant (2000 + (1 : Nat)) ∧
    (∀ y : Int, 2000 ≤ y → y < 2000 + (1 : Nat) → (tz.period y).contains 954032400000000 →
      z.utcOffset 954032400000000 = .ok (3600000000 + tz.dstOffset y)) ∧
    ((∀ y : Int, 2000 ≤ y → y < 2000 + (1 : Nat) → ¬(tz.period y).contains 954032400000000) →
      z.utcOffset 954032400000000 = .ok 3600000000) ∧
    (z.isDst 954032400000000 = .ok true ↔ ∃ y : Int, 2000 ≤ y ∧ y < 2000 + (1 : Nat) ∧
      (tz.period y).contains 954032400000000 ∧ tz.dstOffset y ≠ 0) := by
  intro tz z
  have hp : PeriodsInYears tz 2000 1 := fun y h1 h2 => by
    obtain rfl : y = 2000 := by omega
    decide
  have hbd : ∀ y : Int, 2000 ≤ y → y < 2000 + (1 : Nat) → InInt64 (3600000000 + tz.dstOffset y) :=
    fun y h1 h2 => by
      obtain rfl : y = 2000 := by omega
      decide
  exact ⟨by decide, by decide, hp, by decide, hbd, by decide, by decide,
    @ofRules_dst_periods tz 2000 1 (by decide) (by decide) hp 3600000000 (by decide) hbd
      954032400000000 (by decide) (by decide)⟩

end Shyft.Core.TimeZone
