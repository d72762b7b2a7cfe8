import ShyftTime.Utctime

/-!
# Periods

Model of `utcperiod` and `intersection` (`src/core/utctime_utilities.h`, lines 69–98). A period
is a pair of instants read as the half-open `[start, end)`; `valid`, both `contains` (of an
instant, and of a period as `containsPeriod`) and `overlaps` are the code's endpoint tests, and
`timespan` is the `int64_t` difference `end - start`.

`Utcperiod.contains_iff`, `Utcperiod.containsPeriod_iff` and `intersection_eq` turn the code's
tests into endpoint arithmetic. From them:

* `intersection_meet`: `intersection` of two valid periods contains exactly the instants and the
  valid periods both contain, so it is their meet for `contains`, and when valid it lies in both;
* `intersection_valid_iff`: it is valid exactly when they share an instant or the later start
  equals the earlier end, where it is the empty `[s, s)`, as for touching periods;
* `overlaps_shared_iff`: two valid periods share an instant exactly when they `overlap` and
  neither is empty, that is when their intersection runs from a start to a later end; a
  zero-length period overlaps and shares nothing;
* `intersection_semilattice`: on periods starting at or after `no_utctime`, as every `int64`
  period does, `intersection` is commutative and associative and keeps a period that is not
  reversed. `utcperiod()` absorbs such a period: the later start is the period's, the earlier
  end `no_utctime`, and they are in order only when the start is `no_utctime` itself.
-/

namespace Shyft.Core

/-- `utcperiod`: the period `[start, end)`. -/
structure Utcperiod where
  start : Int
  «end» : Int
deriving DecidableEq, Repr

namespace Utcperiod

/-- `utcperiod()`: both ends `no_utctime`, the marker of no period. -/
instance : Inhabited Utcperiod := ⟨⟨noUtctime, noUtctime⟩⟩

/-- `utcperiod::timespan`. -/
def timespan (p : Utcperiod) : Option Int := int64 (p.end - p.start)

/-- `utcperiod::valid`. -/
def valid (p : Utcperiod) : Bool :=
  p.start != noUtctime && p.end != noUtctime && decide (p.start ≤ p.end)

/-- `utcperiod::contains(utctime)`. -/
def contains (p : Utcperiod) (t : Int) : Bool :=
  if isValid t && p.valid then decide (t ≥ p.start) && decide (t < p.end) else false

/-- `utcperiod::contains(const utcperiod&)`. -/
def containsPeriod (p q : Utcperiod) : Bool :=
  p.valid && q.valid && decide (q.start ≥ p.start) && decide (q.end ≤ p.end)

/-- `utcperiod::overlaps`. -/
def overlaps (p q : Utcperiod) : Bool :=
  if decide (q.start ≥ p.end) || decide (q.end ≤ p.start) then false else true

@[simp] lemma default_start : (default : Utcperiod).start = noUtctime := rfl

@[simp] lemma default_end : (default : Utcperiod).end = noUtctime := rfl

@[simp] lemma valid_iff {p : Utcperiod} :
    p.valid ↔ p.start ≠ noUtctime ∧ p.end ≠ noUtctime ∧ p.start ≤ p.end := by
  simp [valid, and_assoc]

@[simp] lemma contains_iff {p : Utcperiod} {t : Int} :
    p.contains t ↔ t ≠ noUtctime ∧ p.valid ∧ p.start ≤ t ∧ t < p.end := by
  unfold contains isValid
  split_ifs with h <;> simp_all

@[simp] lemma containsPeriod_iff {p q : Utcperiod} :
    p.containsPeriod q ↔ p.valid ∧ q.valid ∧ p.start ≤ q.start ∧ q.end ≤ p.end := by
  simp [containsPeriod, and_assoc]

@[simp] lemma overlaps_iff {p q : Utcperiod} :
    p.overlaps q ↔ q.start < p.end ∧ p.start < q.end := by
  unfold overlaps
  split_ifs with h <;> simp only [Bool.or_eq_true, decide_eq_true_eq] at h
  · simp only [Bool.false_eq_true, false_iff]; omega
  · simp only [true_iff]; omega

/-- A valid period contains itself. -/
lemma containsPeriod_self {p : Utcperiod} (h : p.valid) : p.containsPeriod p := by
  simpa using h

/-- `utcperiod()` is not valid. -/
@[simp] lemma default_valid : (default : Utcperiod).valid = false := rfl

lemma contains_of_valid {p : Utcperiod} (hp : p.valid) {t : Int} :
    p.contains t ↔ t ≠ noUtctime ∧ p.start ≤ t ∧ t < p.end := by
  simp [hp]

lemma containsPeriod_of_valid {p q : Utcperiod} (hp : p.valid) (hq : q.valid) :
    p.containsPeriod q ↔ p.start ≤ q.start ∧ q.end ≤ p.end := by
  simp [hp, hq]

end Utcperiod

open Utcperiod

/-- `intersection(a, b)`: from the later start to the earlier end, or `utcperiod()`. -/
def intersection (a b : Utcperiod) : Utcperiod :=
  let t0 := max a.start b.start
  let t1 := min a.end b.end
  if t0 ≤ t1 then ⟨t0, t1⟩ else default

/-- What `intersection` returns, by the order of the later start and the earlier end. -/
lemma intersection_eq (a b : Utcperiod) :
    intersection a b = if max a.start b.start ≤ min a.end b.end then
      ⟨max a.start b.start, min a.end b.end⟩ else default := rfl

section
variable {a b : Utcperiod} (ha : a.valid) (hb : b.valid)
include ha hb

/-- The later start and the earlier end of two valid periods, in order, are a valid period. -/
lemma meet_valid (h : max a.start b.start ≤ min a.end b.end) :
    (⟨max a.start b.start, min a.end b.end⟩ : Utcperiod).valid := by
  simp only [valid_iff] at ha hb ⊢
  exact ⟨by omega, by omega, h⟩

/-- Of two valid periods, `intersection` is valid when the later start is by the earlier end. -/
lemma intersection_valid_iff_le :
    (intersection a b).valid ↔ max a.start b.start ≤ min a.end b.end := by
  rw [intersection_eq]
  split_ifs with h
  · simp [meet_valid ha hb h, h]
  · simp [h]

/-- Two valid periods share an instant exactly when the later start is before the earlier end. -/
lemma shared_iff_lt :
    (∃ t, a.contains t ∧ b.contains t) ↔ max a.start b.start < min a.end b.end := by
  simp only [contains_of_valid ha, contains_of_valid hb]
  constructor
  · rintro ⟨t, ⟨-, h1, h2⟩, -, h3, h4⟩
    exact lt_of_le_of_lt (max_le h1 h3) (lt_min h2 h4)
  · intro h
    obtain ⟨h1, h2⟩ := lt_min_iff.1 h
    have := (valid_iff.1 ha).1
    have := (valid_iff.1 hb).1
    exact ⟨max a.start b.start, ⟨by omega, le_max_left _ _, h1⟩,
      by omega, le_max_right _ _, h2⟩

/-- `intersection` keeps exactly the instants both periods contain. -/
lemma contains_intersection (t : Int) :
    (intersection a b).contains t ↔ a.contains t ∧ b.contains t := by
  rw [intersection_eq, contains_of_valid ha, contains_of_valid hb]
  split_ifs with h
  · rw [contains_of_valid (meet_valid ha hb h), max_le_iff, lt_min_iff]
    tauto
  · simp only [contains_iff, default_valid, Bool.false_eq_true, false_and, and_false, false_iff]
    rintro ⟨⟨-, h1, h2⟩, -, h3, h4⟩
    exact h (max_le h1 h3 |>.trans (lt_min h2 h4).le)

/-- `intersection` contains exactly the valid periods both periods contain. -/
lemma containsPeriod_intersection {p : Utcperiod} (hp : p.valid) :
    (intersection a b).containsPeriod p ↔ a.containsPeriod p ∧ b.containsPeriod p := by
  rw [intersection_eq, containsPeriod_of_valid ha hp, containsPeriod_of_valid hb hp]
  split_ifs with h
  · rw [containsPeriod_of_valid (meet_valid ha hb h) hp, max_le_iff, le_min_iff]
    tauto
  · simp only [containsPeriod_iff, default_valid, Bool.false_eq_true, false_and, false_iff]
    rintro ⟨⟨h1, h2⟩, h3, h4⟩
    exact h (max_le h1 h3 |>.trans ((valid_iff.1 hp).2.2.trans (le_min h2 h4)))

end

/-- Of two valid periods, `intersection` is their meet for both `contains`. -/
theorem intersection_meet {a b : Utcperiod} (ha : a.valid) (hb : b.valid) :
    (∀ t, (intersection a b).contains t = (a.contains t && b.contains t)) ∧
    (∀ p : Utcperiod, p.valid →
      (intersection a b).containsPeriod p = (a.containsPeriod p && b.containsPeriod p)) ∧
    ((intersection a b).valid →
      a.containsPeriod (intersection a b) ∧ b.containsPeriod (intersection a b)) := by
  refine ⟨fun t => ?_, fun p hp => ?_, fun hv => ?_⟩
  · rw [Bool.eq_iff_iff, Bool.and_eq_true]; exact contains_intersection ha hb t
  · rw [Bool.eq_iff_iff, Bool.and_eq_true]; exact containsPeriod_intersection ha hb hp
  · exact (containsPeriod_intersection ha hb hv).1 (containsPeriod_self hv)

/-- `[0, 10)` and `[5, 20)` meet in `[5, 10)`. -/
theorem intersection_meet_overlapping :
    let a : Utcperiod := ⟨0, 10⟩
    let b : Utcperiod := ⟨5, 20⟩
    a.valid ∧ b.valid ∧
    (∀ t, (intersection a b).contains t = (a.contains t && b.contains t)) ∧
    (∀ p : Utcperiod, p.valid →
      (intersection a b).containsPeriod p = (a.containsPeriod p && b.containsPeriod p)) ∧
    ((intersection a b).valid →
      a.containsPeriod (intersection a b) ∧ b.containsPeriod (intersection a b)) :=
  ⟨by decide, by decide, intersection_meet (by decide) (by decide)⟩

/-- Of two valid periods, `intersection` is valid when they share an instant or just touch. -/
theorem intersection_valid_iff {a b : Utcperiod} (ha : a.valid) (hb : b.valid) :
    (intersection a b).valid ↔
      (∃ t, a.contains t ∧ b.contains t) ∨ max a.start b.start = min a.end b.end := by
  rw [intersection_valid_iff_le ha hb, shared_iff_lt ha hb]
  omega

/-- `[0, 10)` and `[5, 20)` share instants and have a valid intersection. -/
theorem intersection_valid_iff_overlapping :
    let a : Utcperiod := ⟨0, 10⟩
    let b : Utcperiod := ⟨5, 20⟩
    a.valid ∧ b.valid ∧ ((intersection a b).valid ↔
      (∃ t, a.contains t ∧ b.contains t) ∨ max a.start b.start = min a.end b.end) :=
  ⟨by decide, by decide, intersection_valid_iff (by decide) (by decide)⟩

/-- Touching `[0, 5)` and `[5, 10)` share no instant, yet their intersection is valid. -/
theorem intersection_touching_valid :
    let a : Utcperiod := ⟨0, 5⟩
    let b : Utcperiod := ⟨5, 10⟩
    a.valid ∧ b.valid ∧ (intersection a b).valid ∧ ¬∃ t, a.contains t ∧ b.contains t := by
  refine ⟨by decide, by decide, by decide, ?_⟩
  rw [shared_iff_lt (by decide) (by decide)]
  decide

/-- Two valid periods share an instant exactly when they `overlap` and neither is empty. -/
theorem overlaps_shared_iff {a b : Utcperiod} (ha : a.valid) (hb : b.valid) :
    ((∃ t, a.contains t ∧ b.contains t) ↔ a.overlaps b ∧ a.start < a.end ∧ b.start < b.end) ∧
    ((∃ t, a.contains t ∧ b.contains t) ↔ (intersection a b).start < (intersection a b).end) := by
  rw [shared_iff_lt ha hb, overlaps_iff, intersection_eq]
  constructor
  · omega
  · split_ifs with h
    · exact Iff.rfl
    · simp only [default_start, default_end, lt_irrefl, iff_false]
      omega

/-- `[0, 10)` and `[5, 20)` overlap and share instants. -/
theorem overlaps_shared_iff_overlapping :
    let a : Utcperiod := ⟨0, 10⟩
    let b : Utcperiod := ⟨5, 20⟩
    a.valid ∧ b.valid ∧
    ((∃ t, a.contains t ∧ b.contains t) ↔ a.overlaps b ∧ a.start < a.end ∧ b.start < b.end) ∧
    ((∃ t, a.contains t ∧ b.contains t) ↔ (intersection a b).start < (intersection a b).end) :=
  ⟨by decide, by decide, overlaps_shared_iff (by decide) (by decide)⟩

/-- The zero-length `[5, 5)` overlaps `[0, 10)`, shares no instant and meets it in timespan 0. -/
theorem overlaps_zero_length :
    let a : Utcperiod := ⟨5, 5⟩
    let b : Utcperiod := ⟨0, 10⟩
    a.valid ∧ b.valid ∧ a.overlaps b ∧ (intersection a b).timespan = some 0 ∧
      ¬∃ t, a.contains t ∧ b.contains t := by
  refine ⟨by decide, by decide, by decide, by decide, ?_⟩
  rw [shared_iff_lt (by decide) (by decide)]
  decide

/-! ### The algebra of `intersection` -/

/-- `intersection` does not depend on the order of its arguments. -/
lemma intersection_comm (a b : Utcperiod) : intersection a b = intersection b a := by
  simp only [intersection_eq, max_comm, min_comm]

/-- `utcperiod()` meets a period starting at or after `no_utctime` in `utcperiod()`. -/
lemma intersection_default {c : Utcperiod} (hc : noUtctime ≤ c.start) :
    intersection default c = default := by
  rw [intersection_eq]
  split_ifs with h
  · simp only [default_start, default_end, max_le_iff, le_min_iff] at h
    have hs : c.start = noUtctime := le_antisymm h.1.2 hc
    simp only [default_start, default_end, hs, max_self, min_eq_left h.2.1]
    rfl
  · rfl

/-- Two `intersection`s in a row meet the latest of three starts with the earliest end. -/
lemma intersection_intersection (a b : Utcperiod) {c : Utcperiod} (hc : noUtctime ≤ c.start) :
    intersection (intersection a b) c =
      if max (max a.start b.start) c.start ≤ min (min a.end b.end) c.end then
        ⟨max (max a.start b.start) c.start, min (min a.end b.end) c.end⟩ else default := by
  rw [intersection_eq a b]
  split_ifs with h1 h2 h2
  · rw [intersection_eq, if_pos h2]
  · rw [intersection_eq, if_neg h2]
  · have : max a.start b.start ≤ min a.end b.end :=
      (le_max_left _ _).trans (h2.trans (min_le_left _ _))
    exact absurd this h1
  · exact intersection_default hc

/-- On periods from `no_utctime` on, `intersection` is a semilattice with `utcperiod()` at 0. -/
theorem intersection_semilattice {a b c : Utcperiod} (ha : noUtctime ≤ a.start)
    (hc : noUtctime ≤ c.start) :
    intersection a b = intersection b a ∧
    intersection (intersection a b) c = intersection a (intersection b c) ∧
    (a.start ≤ a.end → intersection a a = a) ∧
    intersection default a = default := by
  refine ⟨intersection_comm a b, ?_, fun h => ?_, intersection_default ha⟩
  · rw [intersection_comm a (intersection b c), intersection_intersection a b hc,
      intersection_intersection b c ha]
    simp only [max_comm, min_comm, max_left_comm, min_left_comm]
  · rw [intersection_eq, if_pos (by simpa using h)]
    simp

/-- Three `int64` periods, the middle one reversed. -/
theorem intersection_semilattice_three :
    let a : Utcperiod := ⟨0, 10⟩
    let b : Utcperiod := ⟨8, 4⟩
    let c : Utcperiod := ⟨5, 20⟩
    noUtctime ≤ a.start ∧ noUtctime ≤ c.start ∧
    intersection a b = intersection b a ∧
    intersection (intersection a b) c = intersection a (intersection b c) ∧
    (a.start ≤ a.end → intersection a a = a) ∧
    intersection default a = default :=
  ⟨by decide, by decide, intersection_semilattice (by decide) (by decide)⟩

end Shyft.Core
