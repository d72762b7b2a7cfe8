import ShyftTime.Machine
import Mathlib.Data.Rat.Floor

/-!
# Instants and `floor`

Model of the instant part of `src/core/utctime_utilities.h` (lines 27–60): a `utctime` (an
instant, microseconds since 1970-01-01T00:00:00Z) and a `utctimespan` (a duration) are both their
`int64_t` count of microseconds, an `Int`; the sentinels `max_utctime`, `min_utctime` and
`no_utctime`, `is_valid`, `deltahours`/`deltaminutes`, and `floor`. `min_utctime` negates the
least `int64_t`, which does not fit and wraps back onto it, so it is `no_utctime`.

Here `floor` is evaluated with exact integer operations: C++ `/` and `lldiv` truncate
(`Int.tdiv`, `Int.tmod`) and `^` is the two's-complement xor. Its `int64_t` evaluation, where
overflow is tracked, is `ShyftTime/FloorInt64.lean`. `floor_window` says what every branch of the
code computes: a multiple of `dt` in the half-open window next to `t`. `FloorWindow.unique` and
`floorWindow_floor_div` identify that multiple with `dt * ⌊t / dt⌋`: for `dt > 0` the greatest
multiple of `dt` not above `t`, for `dt < 0` the least multiple of `|dt|` not below `t`.
`floor_correct` collects the consequences, flooring twice included. `floor_monotone_periodic`
adds that `floor` is monotone, since the windows of two ordered instants cannot cross, and moves
with whole steps. `floor_floor_of_dvd` shows that flooring to a step and then to a multiple of it
is flooring to the multiple, as trimming to hours and then to days trims to days, when both steps
have one sign.
-/

namespace Shyft.Core

/-- `max_utctime = utctime::max()`. -/
def maxUtctime : Int := 2^63 - 1

/-- `no_utctime = utctime::min()`. -/
def noUtctime : Int := -2^63

/-- `min_utctime = utctime(-utctime::min().time_since_epoch())`. -/
def minUtctime : Int := wrap64 (-noUtctime)

/-- The smallest instant is the absent one: `min_utctime == no_utctime`. -/
lemma minUtctime_eq_noUtctime : minUtctime = noUtctime := by decide

/-- `is_valid(utctime)`. -/
def isValid (t : Int) : Bool := t != noUtctime

/-- `deltahours(h)`. -/
def deltahours (h : Int) : Int := h * 3600000000

/-- `deltaminutes(m)`. -/
def deltaminutes (m : Int) : Int := m * 60000000

/-- `lldiv_t`: what `lldiv` returns. -/
structure LldivT where
  quot : Int
  rem : Int

/-- `lldiv(num, den)`: the truncated quotient and its remainder. -/
def lldiv (num den : Int) : LldivT := ⟨num.tdiv den, num.tmod den⟩

/-- `floor(t, dt)` (C++ `floor`). -/
def floor (t : Int) (dt : Int) : Int :=
  let den := dt
  if den = 0 then t
  else
    let num := t
    if 0 < Int.xor num den then den * num.tdiv den
    else
      let r := lldiv num den
      if r.rem ≠ 0 then den * (r.quot - 1) else den * r.quot

@[simp] lemma floor_zero (t : Int) : floor t 0 = t := by simp [floor]

/-- The window of `floor t dt`: a multiple of `dt` within one step of `t`, on the side of `dt`. -/
def FloorWindow (t dt r : Int) : Prop :=
  dt ∣ r ∧ (0 < dt → r ≤ t ∧ t < r + dt) ∧ (dt < 0 → t ≤ r ∧ r < t - dt)

/-- Each branch of `floor` lands in the window. -/
lemma floor_window {t dt : Int} (h : dt ≠ 0) : FloorWindow t dt (floor t dt) := by
  have e := Int.tdiv_add_tmod t dt
  have hb := tmod_bounds t h
  simp only [floor, lldiv, h, if_false]
  split_ifs with hx hr
  · have := xor_pos_iff.1 hx
    exact ⟨Int.dvd_mul_right _ _, by omega, by omega⟩
  · have : ¬ (0 ≤ t ↔ 0 ≤ dt) := fun hs =>
      hx (xor_pos_iff.2 ⟨hs, fun he => hr (he ▸ Int.tmod_self)⟩)
    refine ⟨Int.dvd_mul_right _ _, ?_, ?_⟩ <;> rw [Int.mul_sub] <;> omega
  · exact ⟨Int.dvd_mul_right _ _, by omega, by omega⟩

/-- Two multiples of `dt` less than `|dt|` apart are equal. -/
lemma eq_of_dvd_of_abs_sub_lt {dt r r' : Int} (hd : dt ∣ r) (hd' : dt ∣ r')
    (h : |r - r'| < |dt|) : r = r' :=
  Int.sub_eq_zero.1 (Int.eq_zero_of_abs_lt_dvd ((abs_dvd dt _).2 (Int.dvd_sub hd hd')) h)

/-- A window holds one multiple of `dt` only. -/
lemma FloorWindow.unique {t dt r r' : Int} (hdt : dt ≠ 0) (h : FloorWindow t dt r)
    (h' : FloorWindow t dt r') : r = r' := by
  obtain ⟨hd, hp, hn⟩ := h
  obtain ⟨hd', hp', hn'⟩ := h'
  refine eq_of_dvd_of_abs_sub_lt hd hd' ?_
  rcases Int.lt_or_gt_of_ne hdt with hneg | hpos
  · have := hn hneg; have := hn' hneg
    rw [abs_lt, abs_of_neg hneg]; omega
  · have := hp hpos; have := hp' hpos
    rw [abs_lt, abs_of_pos hpos]; omega

/-- `dt` times the floor of the rational quotient lies in the window. -/
lemma floorWindow_floor_div (t dt : Int) : FloorWindow t dt (dt * ⌊(t : ℚ) / dt⌋) := by
  set q := ⌊(t : ℚ) / dt⌋
  have h1 : (q : ℚ) ≤ t / dt := Int.floor_le _
  have h2 : (t : ℚ) / dt < q + 1 := Int.lt_floor_add_one _
  refine ⟨Int.dvd_mul_right _ _, fun hd => ?_, fun hd => ?_⟩
  · have hq : (0 : ℚ) < dt := by exact_mod_cast hd
    rw [le_div_iff₀ hq] at h1
    rw [div_lt_iff₀ hq] at h2
    have : q * dt ≤ t := by exact_mod_cast h1
    have : t < (q + 1) * dt := by exact_mod_cast h2
    constructor <;> linarith
  · have hq : (dt : ℚ) < 0 := by exact_mod_cast hd
    rw [le_div_iff_of_neg hq] at h1
    rw [div_lt_iff_of_neg hq] at h2
    have : t ≤ q * dt := by exact_mod_cast h1
    have : (q + 1) * dt < t := by exact_mod_cast h2
    constructor <;> linarith

/-- A multiple of `dt` is its own window's multiple. -/
lemma floorWindow_of_dvd {dt r : Int} (h : dt ∣ r) : FloorWindow r dt r :=
  ⟨h, fun _ => by omega, fun _ => by omega⟩

/-- For `dt < 0` the window's multiple is the least multiple of `dt` not below `t`. -/
lemma FloorWindow.le_of_dvd {t dt r m : Int} (hw : FloorWindow t dt r) (hneg : dt < 0)
    (hm : dt ∣ m) (ht : t ≤ m) : r ≤ m := by
  by_contra hlt
  have := hw.2.2 hneg
  have : m = r :=
    FloorWindow.unique hneg.ne ⟨hm, fun h => absurd h (by omega), fun _ => by omega⟩ hw
  omega

/-- `floor` is floor division: the identity for `dt = 0`, otherwise `dt * ⌊t / dt⌋`. -/
theorem floor_correct (t dt : Int) :
    (dt = 0 → floor t dt = t) ∧
    (dt ≠ 0 → floor t dt = dt * ⌊(t : ℚ) / dt⌋) ∧
    (0 < dt → dt ∣ floor t dt ∧ floor t dt ≤ t ∧ t < floor t dt + dt) ∧
    (dt < 0 → |dt| ∣ floor t dt ∧ t ≤ floor t dt ∧
      ∀ m, |dt| ∣ m → t ≤ m → floor t dt ≤ m) ∧
    floor (floor t dt) dt = floor t dt := by
  rcases eq_or_ne dt 0 with rfl | h
  · simp
  have hw := @floor_window t dt h
  refine ⟨fun h0 => absurd h0 h, fun _ => hw.unique h (floorWindow_floor_div t dt),
    fun hpos => ⟨hw.1, hw.2.1 hpos⟩, fun hneg => ?_, ?_⟩
  · exact ⟨(abs_dvd _ _).2 hw.1, (hw.2.2 hneg).1,
      fun m hm ht => hw.le_of_dvd hneg ((abs_dvd _ _).1 hm) ht⟩
  · exact (floor_window h).unique h (floorWindow_of_dvd hw.1)

example : floor (-1) 1000000 = -1000000 := by decide

/-- `floor` is monotone in the instant. -/
lemma floor_mono {t t' dt : Int} (h : t ≤ t') : floor t dt ≤ floor t' dt := by
  rcases eq_or_ne dt 0 with rfl | hdt
  · simpa
  have hw := @floor_window t dt hdt
  have hw' := @floor_window t' dt hdt
  by_contra hlt
  refine hlt (le_of_eq (eq_of_dvd_of_abs_sub_lt hw.1 hw'.1 ?_))
  rcases Int.lt_or_gt_of_ne hdt with hneg | hpos
  · have := hw.2.2 hneg; have := hw'.2.2 hneg
    rw [abs_lt, abs_of_neg hneg]; omega
  · have := hw.2.1 hpos; have := hw'.2.1 hpos
    rw [abs_lt, abs_of_pos hpos]; omega

/-- Moving the instant by whole steps moves `floor` by the same steps. -/
lemma floor_add_mul (t k dt : Int) : floor (t + k * dt) dt = floor t dt + k * dt := by
  rcases eq_or_ne dt 0 with rfl | hdt
  · simp
  have hw := @floor_window t dt hdt
  refine (@floor_window (t + k * dt) dt hdt).unique hdt
    ⟨dvd_add hw.1 (Int.dvd_mul_left k dt), fun h => ?_, fun h => ?_⟩
  · have := hw.2.1 h; omega
  · have := hw.2.2 h; omega

/-- For every step, `floor` is monotone and commutes with moving by whole steps. -/
theorem floor_monotone_periodic (dt : Int) :
    (∀ t t', t ≤ t' → floor t dt ≤ floor t' dt) ∧
    (∀ t k, floor (t + k * dt) dt = floor t dt + k * dt) :=
  ⟨fun _ _ => floor_mono, fun t k => floor_add_mul t k dt⟩

/-- For `dt > 0` the window's multiple is the greatest multiple of `dt` not above `t`. -/
lemma FloorWindow.le_of_dvd_of_pos {t dt r m : Int} (hw : FloorWindow t dt r) (hpos : 0 < dt)
    (hm : dt ∣ m) (ht : m ≤ t) : m ≤ r := by
  by_contra hlt
  have := hw.2.1 hpos
  have : m = r :=
    FloorWindow.unique hpos.ne' ⟨hm, fun _ => by omega, fun h => absurd h (by omega)⟩ hw
  omega

/-- Flooring to a step and then to a multiple of it, both of one sign, floors to the multiple. -/
theorem floor_floor_of_dvd {t d d' : Int} (hd : d ∣ d') (hs : 0 < d ∧ 0 < d' ∨ d < 0 ∧ d' < 0) :
    floor (floor t d) d' = floor t d' := by
  have hd0 : d ≠ 0 := by omega
  have hd0' : d' ≠ 0 := by omega
  have hw := @floor_window t d hd0
  have hw' := @floor_window (floor t d) d' hd0'
  have hm : d ∣ floor (floor t d) d' + d' := dvd_add (dvd_trans hd hw'.1) hd
  refine FloorWindow.unique hd0' ⟨hw'.1, fun hp' => ?_, fun hn' => ?_⟩ (floor_window hd0')
  · have hp : 0 < d := by omega
    have := hw.2.1 hp
    have := hw'.2.1 hp'
    refine ⟨by omega, not_le.1 fun hle => ?_⟩
    have := hw.le_of_dvd_of_pos hp hm hle
    omega
  · have hn : d < 0 := by omega
    have := hw.2.2 hn
    have := hw'.2.2 hn'
    refine ⟨by omega, not_le.1 fun hle => ?_⟩
    have := hw.le_of_dvd hn hm (by omega)
    omega

/-- An hour, then a day: `-1` µs lies in the hour and the day before the epoch. -/
theorem floor_floor_hour_day :
    (3600000000 : Int) ∣ 86400000000 ∧
    (0 < (3600000000 : Int) ∧ 0 < (86400000000 : Int) ∨
      (3600000000 : Int) < 0 ∧ (86400000000 : Int) < 0) ∧
    floor (floor (-1) 3600000000) 86400000000 = floor (-1) 86400000000 :=
  ⟨by decide, by decide, floor_floor_of_dvd (by decide) (by decide)⟩

end Shyft.Core
