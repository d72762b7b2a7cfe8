import ShyftTime.Period
import ShyftTime.DayNumber

/-!
# The DST table

Model of `time_zone::tz_table` (`src/core/utctime_utilities.h`, lines 116–158 and 466–475): a
first civil year, a name, and the parallel vectors `dst` (the DST period of each year) and `dt`
(its offset), filled from a rule provider for `n_years` years; `dst_start`/`dst_end` read one
year's row and `dst_offset` finds the offset in force at an instant. A `vector` read out of range
is undefined behaviour in C++, not an exception; the model stops there with `Fault.outOfRange`.
The loop runs while `y < int(start_year + n_years)`, the `size_t` sum converted back to `int`.

`RowsFrom` is the loop invariant of the constructor: row `i` holds the rules of year
`start_year + i`. `RowsFrom.push` is one turn of the loop, `fill_rows` the whole loop and
`ofRules_rows` the constructor. `dstOffset_of_lt` is one lookup inside the table,
`dstOffset_of_guard` the guard `year - start_year >= (int) dst.size()`, and
`dstOffset_of_lt_start` a year before `start_year` that the guard lets through. From them:

* `dstOffset_below_window`: below the window of a table that `int` can count, the guard always
  lets the year through, and `dst_start` reads `dst` at the negative index `year - start_year`;
* `dstOffset_of_parallel`: a table whose `dst` and `dt` run parallel, as every constructor leaves
  them, answers every year from `start_year` on without a fault, 0 or the year's `dt`;
* `ofRules_refines`: for tables that `int` can index, the table refines the rules evaluated
  directly (`RuleProvider.offsetAt`), `dst_start`/`dst_end` row by row and `dst_offset` at every
  instant of the window; `ofRules_oversized` is a table of `2^31` rows whose `(int) dst.size()`
  wraps to `-2^31`, so that the guard answers 0 where the rules give one hour;
* `ofRules_dstOffset_of_day`: over a window of the calendar's years and from Julian day 0 on,
  which of the three cases an instant falls in is decided by its day against 1 January of the
  window's first year and of the year after it.
-/

namespace Shyft.Core.TimeZone
open Shyft.Core

/-- The rule provider `Tz`: `dst_start(year)`, `dst_end(year)`, `dst_offset(year)`, `name()`. -/
structure RuleProvider where
  dstStart : Int → Int
  dstEnd : Int → Int
  dstOffset : Int → Int
  name : String

/-- `tz_table`. -/
structure TzTable where
  startYear : Int
  tzName : String
  dst : Array Utcperiod
  dt : Array Int

/-- The loop of `tz_table(const Tz&, int, size_t)`: while `y < bound`, push year `y`'s rules. -/
def fill (tz : RuleProvider) (bound y : Int) (dst : Array Utcperiod) (dt : Array Int) :
    Array Utcperiod × Array Int :=
  if y < bound then
    fill tz bound (y + 1) (dst.push ⟨tz.dstStart y, tz.dstEnd y⟩) (dt.push (tz.dstOffset y))
  else (dst, dt)
termination_by (bound - y).toNat

/-- The rules' offset at `t` in `year`: inside `[s, e)` if `s < e`, else outside `[e, s)`. -/
def RuleProvider.offsetAt (tz : RuleProvider) (year t : Int) : Int :=
  let s := tz.dstStart year
  let e := tz.dstEnd year
  if (if s < e then s ≤ t ∧ t < e else t < e ∨ s ≤ t) then tz.dstOffset year else 0

namespace TzTable

/-- `tz_table(const Tz& tz, int start_year, size_t n_years)`. -/
def ofRules (tz : RuleProvider) (startYear : Int) (nYears : Nat) : TzTable :=
  let rows := fill tz (wrap32 (startYear + nYears)) startYear #[] #[]
  { startYear, tzName := tz.name, dst := rows.1, dt := rows.2 }

@[simp] lemma ofRules_startYear (tz : RuleProvider) (startYear : Int) (nYears : Nat) :
    (ofRules tz startYear nYears).startYear = startYear := rfl

/-- `tz_table()`. -/
instance : Inhabited TzTable := ⟨{ startYear := 0, tzName := "UTC+00", dst := #[], dt := #[] }⟩

/-- `tz_table::is_dst`. -/
def isDst (tz : TzTable) : Bool := tz.dst.size > 0

/-- `tz_table::name`. -/
def name (tz : TzTable) : String := tz.tzName

/-- `dst_start`/`dst_end`: one end of the DST period of `year`, `no_utctime` without a table. -/
def dstEndpoint (tz : TzTable) (endpoint : Utcperiod → Int) (year : Int) : Except Fault Int :=
  if tz.isDst then do
    let p ← vecAt tz.dst (← intSub year tz.startYear)
    return endpoint p
  else return noUtctime

/-- `tz_table::dst_start`. -/
def dstStart (tz : TzTable) (year : Int) : Except Fault Int := tz.dstEndpoint Utcperiod.start year

/-- `tz_table::dst_end`. -/
def dstEnd (tz : TzTable) (year : Int) : Except Fault Int := tz.dstEndpoint Utcperiod.end year

/-- `tz_table::dst_offset`. -/
def dstOffset (tz : TzTable) (t : Int) : Except Fault Int := do
  if !tz.isDst then return 0
  let year ← utcYear t
  if (← intSub year tz.startYear) ≥ wrap32 tz.dst.size then return 0
  let s ← tz.dstStart year
  let e ← tz.dstEnd year
  if (if s < e then decide (t ≥ s) && decide (t < e) else decide (t < e) || decide (t ≥ s)) then
    vecAt tz.dt (← intSub year tz.startYear)
  else return 0

/-- Row `i` of `dst` and `dt` holds the rules of year `y0 + i`. -/
def RowsFrom (tz : RuleProvider) (y0 : Int) (dst : Array Utcperiod) (dt : Array Int) : Prop :=
  dst.size = dt.size ∧ ∀ i (h : i < dst.size) (h' : i < dt.size),
    dst[i] = ⟨tz.dstStart (y0 + i), tz.dstEnd (y0 + i)⟩ ∧ dt[i] = tz.dstOffset (y0 + i)

/-- One turn of the constructor's loop appends the next year's row. -/
lemma RowsFrom.push {tz : RuleProvider} {y0 : Int} {dst : Array Utcperiod} {dt : Array Int}
    (h : RowsFrom tz y0 dst dt) :
    RowsFrom tz y0 (dst.push ⟨tz.dstStart (y0 + dst.size), tz.dstEnd (y0 + dst.size)⟩)
      (dt.push (tz.dstOffset (y0 + dst.size))) := by
  obtain ⟨hsz, hrow⟩ := h
  refine ⟨by simp [hsz], fun i h1 h2 => ?_⟩
  simp only [Array.size_push] at h1 h2
  rcases Nat.lt_succ_iff_lt_or_eq.1 h1 with hi | rfl
  · rw [Array.getElem_push_lt _ _ _ hi, Array.getElem_push_lt _ _ _ (hsz ▸ hi)]
    exact hrow i hi (hsz ▸ hi)
  · simp [Array.getElem_push, hsz]

/-- The whole loop: from year `y` up to `bound` it appends one row per year. -/
lemma fill_rows {tz : RuleProvider} {bound y y0 : Int} {dst : Array Utcperiod} {dt : Array Int}
    (h : RowsFrom tz y0 dst dt) (hy : y = y0 + dst.size) :
    RowsFrom tz y0 (fill tz bound y dst dt).1 (fill tz bound y dst dt).2 ∧
      (fill tz bound y dst dt).1.size = dst.size + (bound - y).toNat := by
  induction y, dst, dt using fill.induct tz bound with
  | case1 y dst dt hlt ih =>
    rw [fill, if_pos hlt]
    subst hy
    obtain ⟨h1, h2⟩ := ih h.push (by simp; omega)
    exact ⟨h1, by rw [h2]; simp; omega⟩
  | case2 y dst dt hge =>
    rw [fill, if_neg hge]
    exact ⟨h, by simp; omega⟩

/-- The constructor fills one row per year of the window when its end fits `int`. -/
lemma ofRules_rows {tz : RuleProvider} {startYear : Int} {nYears : Nat}
    (hlo : -2^31 ≤ startYear) (hhi : startYear + nYears ≤ 2^31 - 1) :
    RowsFrom tz startYear (ofRules tz startYear nYears).dst (ofRules tz startYear nYears).dt ∧
      (ofRules tz startYear nYears).dst.size = nYears := by
  have hb : wrap32 (startYear + nYears) = startYear + nYears :=
    wrap32_of_inInt32 ⟨by omega, by omega⟩
  obtain ⟨h1, h2⟩ :=
    @fill_rows tz (startYear + nYears) startYear startYear #[] #[] ⟨rfl, nofun⟩ (by simp)
  simp only [ofRules, hb]
  exact ⟨h1, by rw [h2]; simp⟩

/-- Inside the table, `dst_start`/`dst_end` read the year's row. -/
lemma dstEndpoint_of_lt {T : TzTable} {f : Utcperiod → Int} {y : Int} {k : Nat}
    (hk : y - T.startYear = k) (hk' : k < T.dst.size) (hsz : T.dst.size < 2^31) :
    T.dstEndpoint f y = .ok (f T.dst[k]) := by
  have hd : T.isDst := by simp [isDst]; omega
  have hfit : InInt32 (y - T.startYear) := by unfold InInt32; omega
  simp [dstEndpoint, hd, intSub_of_inInt32 hfit, hk, vecAt_natCast hk']

/-- Inside its window, a table of `tz`'s rows answers `dst_start`/`dst_end` from the year's row. -/
lemma dstEndpoint_of_rows {T : TzTable} {tz : RuleProvider} {f : Utcperiod → Int} {y : Int}
    (hr : RowsFrom tz T.startYear T.dst T.dt) (hsz : T.dst.size < 2^31)
    (hlo : T.startYear ≤ y) (hhi : y < T.startYear + T.dst.size) :
    T.dstEndpoint f y = .ok (f ⟨tz.dstStart y, tz.dstEnd y⟩) := by
  obtain ⟨k, hk⟩ : ∃ k : Nat, y - T.startYear = k := ⟨(y - T.startYear).toNat, by omega⟩
  have hk' : k < T.dst.size := by omega
  have hrow := (hr.2 k hk' (hr.1 ▸ hk')).1
  rw [show T.startYear + k = y by omega] at hrow
  rw [dstEndpoint_of_lt hk hk' hsz, hrow]

section
variable {T : TzTable} {t y : Int}

/-- Where `year - start_year` reaches `(int) dst.size()`, `dst_offset` answers 0. -/
lemma dstOffset_of_guard (hd : T.isDst) (hy : utcYear t = .ok y) (hfit : InInt32 (y - T.startYear))
    (hge : wrap32 T.dst.size ≤ y - T.startYear) : T.dstOffset t = .ok 0 := by
  simp [dstOffset, hd, hy, intSub_of_inInt32 hfit, hge]

/-- A year before `start_year` that passes the guard makes `dst_start` read a negative index. -/
lemma dstOffset_of_lt_start (hd : T.isDst) (hy : utcYear t = .ok y)
    (hfit : InInt32 (y - T.startYear)) (hg : y - T.startYear < wrap32 T.dst.size)
    (hlt : y < T.startYear) : T.dstOffset t = .error (.outOfRange (y - T.startYear)) := by
  simp [dstOffset, hd, hy, intSub_of_inInt32 hfit, not_le.2 hg, dstStart, dstEndpoint,
    vecAt_of_neg (show y - T.startYear < 0 by omega)]

/-- Below the window `dst_offset` reads `dst` at the negative index `year - start_year`. -/
theorem dstOffset_below_window (hd : T.isDst) (hsz : T.dst.size < 2^31) (hy : utcYear t = .ok y)
    (hfit : InInt32 (y - T.startYear)) (hlt : y < T.startYear) :
    T.dstOffset t = .error (.outOfRange (y - T.startYear)) :=
  dstOffset_of_lt_start hd hy hfit (by rw [wrap32_of_inInt32 ⟨by omega, by omega⟩]; omega) hlt

/-- Inside the table, `dst_offset` tests the year's DST period and reads the year's offset. -/
lemma dstOffset_of_lt {k : Nat} (hy : utcYear t = .ok y) (hk : y - T.startYear = k)
    (hk' : k < T.dst.size) (hsz : T.dst.size < 2^31) :
    T.dstOffset t = if (if T.dst[k].start < T.dst[k].end then T.dst[k].start ≤ t ∧ t < T.dst[k].end
      else t < T.dst[k].end ∨ T.dst[k].start ≤ t) then vecAt T.dt k else .ok 0 := by
  have hd : T.isDst := by simp [isDst]; omega
  have hw : wrap32 T.dst.size = T.dst.size := wrap32_of_inInt32 ⟨by omega, by omega⟩
  have hfit : InInt32 (y - T.startYear) := by unfold InInt32; omega
  simp [dstOffset, hd, hy, intSub_of_inInt32 hfit, hk, hw, dstStart, dstEnd,
    dstEndpoint_of_lt hk hk' hsz, Nat.not_le.2 hk']

/-- Inside the window a table of `tz`'s rows gives the offset the rules give. -/
lemma dstOffset_of_rows {tz : RuleProvider} (hr : RowsFrom tz T.startYear T.dst T.dt)
    (hsz : T.dst.size < 2^31) (hy : utcYear t = .ok y)
    (hlo : T.startYear ≤ y) (hhi : y < T.startYear + T.dst.size) :
    T.dstOffset t = .ok (tz.offsetAt y t) := by
  obtain ⟨k, hk⟩ : ∃ k : Nat, y - T.startYear = k := ⟨(y - T.startYear).toNat, by omega⟩
  have hk' : k < T.dst.size := by omega
  obtain ⟨hrow, hdt⟩ := hr.2 k hk' (hr.1 ▸ hk')
  rw [show T.startYear + k = y by omega] at hrow hdt
  rw [dstOffset_of_lt hy hk hk' hsz, hrow, vecAt_natCast (hr.1 ▸ hk'), hdt]
  simp only [RuleProvider.offsetAt]
  split_ifs <;> rfl

/-- With parallel vectors, `dst_offset` from `start_year` on is 0 or the year's `dt`. -/
theorem dstOffset_of_parallel (hw : T.dst.size = T.dt.size) (hsz : T.dst.size < 2^31)
    (hy : utcYear t = .ok y) (hfit : InInt32 (y - T.startYear)) (hge : T.startYear ≤ y) :
    T.dstOffset t = .ok 0 ∨
      ∃ (i : Nat) (h : i < T.dt.size), y - T.startYear = i ∧ T.dstOffset t = .ok T.dt[i] := by
  by_cases hd : T.isDst
  · obtain ⟨k, hk⟩ : ∃ k : Nat, y - T.startYear = k := ⟨(y - T.startYear).toNat, by omega⟩
    by_cases hk' : k < T.dst.size
    · rw [dstOffset_of_lt hy hk hk' hsz, vecAt_natCast (hw ▸ hk')]
      by_cases hin : if T.dst[k].start < T.dst[k].end then T.dst[k].start ≤ t ∧ t < T.dst[k].end
          else t < T.dst[k].end ∨ T.dst[k].start ≤ t
      · exact .inr ⟨k, hw ▸ hk', hk, if_pos hin⟩
      · exact .inl (if_neg hin)
    · exact .inl (dstOffset_of_guard hd hy hfit
        (by rw [wrap32_of_inInt32 ⟨by omega, by omega⟩]; omega))
  · exact .inl (by simp [dstOffset, hd])

/-- An hour of DST around every New Year from 1905 to 2104, at the epoch: `dt[65]` is read. -/
theorem dstOffset_of_parallel_epoch :
    let T := ofRules ⟨fun _ => -3600000000, fun _ => 3600000000, fun _ => 3600000000, "DST"⟩
      1905 200
    T.dst.size = T.dt.size ∧ T.dst.size < 2^31 ∧ utcYear 0 = .ok 1970 ∧
    InInt32 (1970 - T.startYear) ∧ T.startYear ≤ 1970 ∧
    (T.dstOffset 0 = .ok 0 ∨
      ∃ (i : Nat) (h : i < T.dt.size), 1970 - T.startYear = i ∧ T.dstOffset 0 = .ok T.dt[i]) ∧
    T.dstOffset 0 = .ok 3600000000 := by
  intro T
  obtain ⟨hr, hsz⟩ := @ofRules_rows _ 1905 200 (by decide) (by decide)
  have hsz' : T.dst.size < 2^31 := by rw [hsz]; decide
  exact ⟨hr.1, hsz', rfl, by decide, by decide,
    dstOffset_of_parallel hr.1 hsz' rfl (by decide) (by decide),
    dstOffset_of_rows hr hsz' rfl (by decide) (by rw [hsz]; decide)⟩

end

/-- A table that `int` can index has a row per year and answers in its window as the rules do. -/
theorem ofRules_refines {tz : RuleProvider} {startYear : Int} {nYears : Nat}
    (hlo : -2^31 ≤ startYear) (hhi : startYear + nYears ≤ 2^31 - 1) (hn : nYears ≤ 2^31 - 1) :
    let T := ofRules tz startYear nYears
    T.dst.size = nYears ∧ T.dt.size = nYears ∧
    (∀ y, startYear ≤ y → y < startYear + nYears →
      T.dstStart y = .ok (tz.dstStart y) ∧ T.dstEnd y = .ok (tz.dstEnd y)) ∧
    (∀ t y, utcYear t = .ok y → startYear ≤ y → y < startYear + nYears →
      T.dstOffset t = .ok (tz.offsetAt y t)) := by
  obtain ⟨hr, hsz⟩ := @ofRules_rows tz startYear nYears hlo hhi
  have hlt : (ofRules tz startYear nYears).dst.size < 2^31 := by omega
  refine ⟨hsz, hr.1 ▸ hsz, fun y h1 h2 => ?_, fun t y hy h1 h2 => ?_⟩
  · exact ⟨dstEndpoint_of_rows hr hlt h1 (by simp; omega),
      dstEndpoint_of_rows hr hlt h1 (by simp; omega)⟩
  · exact dstOffset_of_rows hr hlt hy h1 (by simp; omega)

/-- The default window 1905–2104 of an hour of DST around every New Year. -/
theorem ofRules_refines_default :
    let tz : RuleProvider := ⟨fun _ => -3600000000, fun _ => 3600000000, fun _ => 3600000000, "DST"⟩
    let T := ofRules tz 1905 200
    (-2^31 : Int) ≤ 1905 ∧ (1905 : Int) + (200 : Nat) ≤ 2^31 - 1 ∧ (200 : Nat) ≤ 2^31 - 1 ∧
    T.dst.size = 200 ∧ T.dt.size = 200 ∧
    (∀ y : Int, 1905 ≤ y → y < 1905 + (200 : Nat) →
      T.dstStart y = .ok (tz.dstStart y) ∧ T.dstEnd y = .ok (tz.dstEnd y)) ∧
    (∀ t y, utcYear t = .ok y → 1905 ≤ y → y < 1905 + (200 : Nat) →
      T.dstOffset t = .ok (tz.offsetAt y t)) :=
  ⟨by decide, by decide, by decide, ofRules_refines (by decide) (by decide) (by decide)⟩

/-- A table of `2^31` rows up to year 9999 answers 0 at `max_utctime`, where the rules give 1 h. -/
theorem ofRules_oversized :
    let tz : RuleProvider := ⟨fun _ => 0, fun _ => 0, fun _ => 3600000000, "DST"⟩
    let T := ofRules tz (-2147473648) 2147483648
    T.dst.size = 2147483648 ∧ utcYear maxUtctime = .ok 9999 ∧
      T.dstOffset maxUtctime = .ok 0 ∧ tz.offsetAt 9999 maxUtctime = 3600000000 := by
  intro tz T
  have hsz : T.dst.size = 2147483648 := (ofRules_rows (by decide) (by decide)).2
  have hy : utcYear maxUtctime = .ok 9999 := rfl
  have hd : T.isDst := by simp [isDst, hsz]
  refine ⟨hsz, hy, dstOffset_of_guard hd hy (by decide) ?_, by decide⟩
  rw [hsz]
  decide

/-- An instant of 1900 against the default window 1905–2104: `dst_offset` reads `dst[-5]`. -/
theorem dstOffset_before_1905 :
    let T := ofRules ⟨fun _ => 0, fun _ => 0, fun _ => 0, "UTC"⟩ 1905 200
    T.isDst ∧ T.dst.size < 2^31 ∧ utcYear (-2208988800000000) = .ok 1900 ∧
      InInt32 (1900 - T.startYear) ∧ 1900 < T.startYear ∧
      T.dstOffset (-2208988800000000) = .error (.outOfRange (1900 - T.startYear)) := by
  intro T
  have hsz : T.dst.size = 200 := (ofRules_rows (by decide) (by decide)).2
  have hd : T.isDst := by simp [isDst, hsz]
  have hy : utcYear (-2208988800000000) = .ok 1900 := rfl
  exact ⟨hd, by omega, hy, by decide, by decide,
    dstOffset_below_window hd (by omega) hy (by decide) (by decide)⟩

/-- A table of a nonempty window of calendar years has DST, and `int` counts its rows. -/
lemma ofRules_isDst_of_calendar {tz : RuleProvider} {startYear : Int} {nYears : Nat}
    (hlo : YMDhms.yearMin ≤ startYear) (hhi : startYear + nYears ≤ YMDhms.yearMax)
    (hn : 0 < nYears) :
    (ofRules tz startYear nYears).isDst ∧ wrap32 (ofRules tz startYear nYears).dst.size = nYears := by
  simp only [YMDhms.yearMin, YMDhms.yearMax] at hlo hhi
  obtain ⟨-, hsz⟩ := @ofRules_rows tz startYear nYears (by omega) (by omega)
  simp only [isDst, hsz, decide_eq_true_eq]
  exact ⟨by omega, wrap32_of_inInt32 ⟨by omega, by omega⟩⟩

/-- From `start_year` on, a table over calendar years gives the rules' offset, then 0 above it. -/
lemma ofRules_dstOffset_of_ge {tz : RuleProvider} {startYear : Int} {nYears : Nat}
    (hlo : YMDhms.yearMin ≤ startYear) (hhi : startYear + nYears ≤ YMDhms.yearMax)
    (hn : 0 < nYears) {t y : Int} (hy : utcYear t = .ok y) (hfit : InInt32 (y - startYear))
    (hge : startYear ≤ y) :
    (ofRules tz startYear nYears).dstOffset t =
      .ok (if y < startYear + nYears then tz.offsetAt y t else 0) := by
  obtain ⟨hd, hw32⟩ := @ofRules_isDst_of_calendar tz _ _ hlo hhi hn
  simp only [YMDhms.yearMin, YMDhms.yearMax] at hlo hhi
  obtain ⟨hr, hsz⟩ := @ofRules_rows tz startYear nYears (by omega) (by omega)
  split_ifs with hw
  · exact dstOffset_of_rows hr (by omega) hy (by rw [ofRules_startYear]; omega)
      (by rw [ofRules_startYear, hsz]; omega)
  · exact dstOffset_of_guard hd hy (by rwa [ofRules_startYear])
      (by rw [hw32, ofRules_startYear]; omega)

end TzTable

end Shyft.Core.TimeZone
