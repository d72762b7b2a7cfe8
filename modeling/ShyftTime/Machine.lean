import Mathlib.Data.Int.Bitwise
import Mathlib.Data.Nat.Bitwise

/-!
# C++ integer semantics

The integer types of `src/core/utctime_utilities.h` are taken as `Int` together with a decidable
range predicate: `int64_t` (the count of `utctime` and `utctimespan`, see `InInt64`) and `int`
(calendar years, see `InInt32`). A conversion to a signed type, `int(...)` or `(int) v.size()`,
is the two's-complement reduction `wrap32`/`wrap64`, which is also the value a wrapping signed
overflow would leave behind. An `int64_t` operation that may overflow is `int64`, which is `none`
where the exact result does not fit; `intSub` and `int64Add` are the same checks inside
`Except Fault`, which is what a call that may throw or go undefined returns: a thrown
`std::runtime_error` with its message, or undefined behaviour, a `vector` subscript out of range
or a signed overflow.

The two integer facts `floor` rests on are proved here: `xor_pos_iff` reads the sign test
`0 < (num ^ den)` as "same sign and different", and `tmod_bounds` gives the remainder of C++'s
truncating division (`Int.tdiv`/`Int.tmod`) the sign of the dividend and a magnitude below the
divisor's.
-/

namespace Shyft.Core

/-- How a call ends when it returns no value. -/
inductive Fault where
  | runtimeError (what : String)
  | outOfRange (index : Int)
  | overflow
deriving DecidableEq, Repr

/-- `x` is a value of `int64_t`. -/
def InInt64 (x : Int) : Prop := -2^63 ≤ x ∧ x < 2^63

instance : DecidablePred InInt64 := fun _ => instDecidableAnd

/-- `x` is a value of `int`. -/
def InInt32 (x : Int) : Prop := -2^31 ≤ x ∧ x < 2^31

instance : DecidablePred InInt32 := fun _ => instDecidableAnd

/-- Conversion to `int` (C++20 [conv.integral]): the value congruent to `x` modulo `2^32`. -/
def wrap32 (x : Int) : Int := (x + 2^31) % 2^32 - 2^31

/-- Conversion to `int64_t`: the value congruent to `x` modulo `2^64`. -/
def wrap64 (x : Int) : Int := (x + 2^63) % 2^64 - 2^63

/-- An `int64_t` operation whose exact result is `x`: `none` when `x` does not fit. -/
def int64 (x : Int) : Option Int := if InInt64 x then some x else none

lemma int64_of_inInt64 {x : Int} (h : InInt64 x) : int64 x = some x := if_pos h

/-- An `int` subtraction: `Fault.overflow` when the difference does not fit. -/
def intSub (a b : Int) : Except Fault Int :=
  if InInt32 (a - b) then .ok (a - b) else .error .overflow

/-- An `int64_t` addition: `Fault.overflow` when the sum does not fit. -/
def int64Add (a b : Int) : Except Fault Int :=
  if InInt64 (a + b) then .ok (a + b) else .error .overflow

/-- `v[i]` on a `vector` with an `int` index: `Fault.outOfRange` unless `0 ≤ i < v.size()`. -/
def vecAt {α : Type} (v : Array α) (i : Int) : Except Fault α :=
  if h : 0 ≤ i ∧ i < v.size then
    have : i.toNat < v.size := by omega
    .ok v[i.toNat]
  else .error (.outOfRange i)

@[simp] lemma ok_bind {ε α β : Type} (a : α) (f : α → Except ε β) :
    (Except.ok a >>= f) = f a := rfl

@[simp] lemma error_bind {ε α β : Type} (e : ε) (f : α → Except ε β) :
    (Except.error e >>= f) = Except.error e := rfl

@[simp] lemma except_pure {ε α : Type} (a : α) : (pure a : Except ε α) = Except.ok a := rfl

lemma intSub_of_inInt32 {a b : Int} (h : InInt32 (a - b)) : intSub a b = .ok (a - b) := if_pos h

lemma int64Add_of_inInt64 {a b : Int} (h : InInt64 (a + b)) : int64Add a b = .ok (a + b) :=
  if_pos h

lemma vecAt_natCast {α : Type} {v : Array α} {n : Nat} (h : n < v.size) :
    vecAt v n = .ok v[n] := by
  simp [vecAt, h, Int.natCast_nonneg]

lemma vecAt_of_neg {α : Type} {v : Array α} {i : Int} (h : i < 0) :
    vecAt v i = .error (.outOfRange i) := by
  simp [vecAt]; omega

/-- Converting a value `int` already holds changes nothing. -/
lemma wrap32_of_inInt32 {x : Int} (h : InInt32 x) : wrap32 x = x := by
  unfold InInt32 at h; unfold wrap32; omega

/-- Converting a value `int64_t` already holds changes nothing. -/
lemma wrap64_of_inInt64 {x : Int} (h : InInt64 x) : wrap64 x = x := by
  unfold InInt64 at h; unfold wrap64; omega

/-- The sign test of `floor`: `a ^ b` is positive when `a`, `b` share a sign and differ. -/
lemma xor_pos_iff {a b : Int} : 0 < Int.xor a b ↔ ((0 ≤ a ↔ 0 ≤ b) ∧ a ≠ b) := by
  cases a <;> cases b <;>
    simp [Int.xor, Nat.pos_iff_ne_zero, Nat.xor_ne_zero, Int.negSucc_lt_zero, Int.negSucc_ne_zero,
      Int.ofNat_zero_le]

/-- Truncating division by a nonnegative divisor, as Euclidean division of the magnitude. -/
lemma tdiv_eq_ite {a b : Int} (hb : 0 ≤ b) :
    a.tdiv b = if 0 ≤ a then a / b else -((-a) / b) := by
  split_ifs with ha
  · exact Int.tdiv_eq_ediv ha hb
  · rw [← Int.tdiv_eq_ediv (by omega) hb, Int.neg_tdiv, Int.neg_neg]

/-- Truncating division by a positive divisor is monotone. -/
lemma tdiv_mono {a a' b : Int} (hb : 0 < b) (h : a ≤ a') : a.tdiv b ≤ a'.tdiv b := by
  have hb' : 0 ≤ b := Int.le_of_lt hb
  rw [tdiv_eq_ite hb', tdiv_eq_ite hb']
  split_ifs with h1 h2 h2
  · exact Int.ediv_le_ediv hb h
  · omega
  · have := Int.ediv_nonneg h2 hb'
    have := Int.ediv_nonneg (show 0 ≤ -a by omega) hb'
    omega
  · exact Int.neg_le_neg (Int.ediv_le_ediv hb (by omega))

/-- The remainder of truncating division has the dividend's sign and is below the divisor. -/
lemma tmod_bounds (a : Int) {b : Int} (hb : b ≠ 0) :
    (0 ≤ a → 0 ≤ a.tmod b ∧ a.tmod b < b.natAbs) ∧
    (a ≤ 0 → -(b.natAbs : Int) < a.tmod b ∧ a.tmod b ≤ 0) := by
  have hpos : 0 < b.natAbs := Int.natAbs_pos.2 hb
  rcases a with m | m <;> rcases b with n | n <;>
    simp only [Int.tmod, Int.natAbs, Int.ofNat_eq_coe, Int.negSucc_coe, Nat.succ_eq_add_one]
      at hpos ⊢
  · have := Nat.mod_lt m hpos; have := Nat.mod_le m n; omega
  · have := Nat.mod_lt m hpos; have := Nat.mod_le m (n + 1); omega
  · have := Nat.mod_lt (m + 1) hpos; omega
  · have := Nat.mod_lt (m + 1) hpos; omega

end Shyft.Core
