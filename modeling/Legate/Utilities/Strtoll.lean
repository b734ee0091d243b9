import Mathlib.Tactic.Ring

/-
Parsing integers from the environment
(`cpp/legate/utilities/detail/strtoll.h`, `safe_strtoll`).

`safe_strtoll<T>` calls `std::strtoll` in base 10, throws when it sets
`errno`, and converts the `long long` it returns to `T`:

* `safeStrtoll_ok_iff` — it returns iff the value `std::strtoll` parses fits
  in `long long`, and then returns the value of `T` congruent to it modulo
  `2 ^ width`, which is the parsed value itself iff that fits in `T`;
* `safeStrtoll_uint32_minus_one` — `safe_strtoll<std::uint32_t>("-1")`
  returns `4294967295`.

Design notes: `std::strtoll` is the C library's; `strtoll` follows the C
standard's description of it in the "C" locale (no digits: `0`, and `errno`
untouched).  A string is its characters before the terminating NUL.
-/

namespace Legate.Utilities

/-- An integral type `T`: its width and whether it is signed. -/
structure IntegralType where
  width : Nat
  signed : Bool

namespace IntegralType

/-- `long long` -/
def longLong : IntegralType := ⟨64, true⟩

/-- `std::uint32_t` -/
def uint32 : IntegralType := ⟨32, false⟩

/-- The least value of the type. -/
def min (t : IntegralType) : Int := if t.signed then -2 ^ (t.width - 1) else 0

/-- `static_cast<T>`: the value of `T` congruent to `x` modulo `2 ^ width`. -/
def cast (t : IntegralType) (x : Int) : Int := (x - t.min) % 2 ^ t.width + t.min

/-- `x` is a value of the type. -/
def InRange (t : IntegralType) (x : Int) : Prop := t.min ≤ x ∧ x < t.min + 2 ^ t.width

instance (t : IntegralType) (x : Int) : Decidable (t.InRange x) :=
  inferInstanceAs (Decidable (_ ∧ _))

theorem two_pow_pos (t : IntegralType) : (0 : Int) < 2 ^ t.width :=
  by exact_mod_cast Nat.pos_pow_of_pos t.width (by decide : 0 < 2)

theorem cast_inRange (t : IntegralType) (x : Int) : t.InRange (t.cast x) := by
  have := Int.emod_nonneg (x - t.min) t.two_pow_pos.ne'
  have := Int.emod_lt_of_pos (x - t.min) t.two_pow_pos
  exact ⟨by unfold cast; omega, by unfold cast; omega⟩

theorem cast_emod (t : IntegralType) (x : Int) : t.cast x % 2 ^ t.width = x % 2 ^ t.width := by
  unfold cast
  rw [Int.add_emod, Int.emod_emod_of_dvd _ dvd_rfl, ← Int.add_emod, Int.sub_add_cancel]

theorem cast_eq_self_iff (t : IntegralType) (x : Int) : t.cast x = x ↔ t.InRange x := by
  refine ⟨fun h => h ▸ t.cast_inRange x, fun ⟨h1, h2⟩ => ?_⟩
  unfold cast
  rw [Int.emod_eq_of_lt (by omega) (by omega)]
  omega

/-- The value of `T` congruent to `x` is unique. -/
theorem cast_eq_of_emod {t : IntegralType} {x v : Int} (hv : t.InRange v)
    (h : v % 2 ^ t.width = x % 2 ^ t.width) : t.cast x = v := by
  rw [← (t.cast_eq_self_iff v).mpr hv]
  unfold cast
  rw [Int.sub_emod, ← h, ← Int.sub_emod]

end IntegralType

/-- `std::isspace` in the "C" locale. -/
def isSpace (c : Char) : Bool :=
  c = ' ' || c = '\t' || c = '\n' || c = '\x0B' || c = '\x0C' || c = '\r'

/-- The number the decimal digits at the start of `s` spell, read on from `acc`. -/
def decimalValue : List Char → Nat → Nat
  | c :: cs, acc => if c.isDigit then decimalValue cs (10 * acc + (c.toNat - '0'.toNat)) else acc
  | [], acc => acc

/-- The value of the subject sequence `std::strtoll` reads in base 10: white
space, an optional sign and the longest run of digits, `0` if there is none. -/
def subjectValue (s : List Char) : Int :=
  match s.dropWhile isSpace with
  | '-' :: cs => -(decimalValue cs 0 : Int)
  | '+' :: cs => decimalValue cs 0
  | cs => decimalValue cs 0

/-- `LLONG_MIN` and `LLONG_MAX`. -/
def LLONG_MIN : Int := -2 ^ 63

def LLONG_MAX : Int := 2 ^ 63 - 1

/-- `ERANGE`, the one `errno` value `std::strtoll` sets in base 10. -/
inductive Errno
  | erange
  deriving DecidableEq, Repr

/-- `std::strtoll(s, end_ptr, 10)`: the parsed value, or `LLONG_MAX` or
`LLONG_MIN` with `errno = ERANGE` when it is out of range. -/
def strtoll (s : List Char) : Int × Option Errno :=
  if subjectValue s > LLONG_MAX then (LLONG_MAX, some .erange)
  else if subjectValue s < LLONG_MIN then (LLONG_MIN, some .erange)
  else (subjectValue s, none)

/-- `std::system_error` thrown with the `errno` value. -/
structure SystemError where
  code : Errno
  what : String

/-- `safe_strtoll<T>()` -/
def safeStrtoll (t : IntegralType) (envValue : List Char) : Except SystemError Int :=
  match strtoll envValue with
  | (_, some eval) => .error ⟨eval, "error occurred calling std::strtol()"⟩
  | (ret, none) => .ok (t.cast ret)

/-- `safe_strtoll<T>` returns iff the parsed value fits in `long long`, and
returns it cast to `T`. -/
theorem safeStrtoll_eq_ok (t : IntegralType) (s : List Char) (v : Int) :
    safeStrtoll t s = .ok v ↔
      (LLONG_MIN ≤ subjectValue s ∧ subjectValue s ≤ LLONG_MAX) ∧ t.cast (subjectValue s) = v := by
  unfold safeStrtoll strtoll
  split_ifs with h1 h2
  · exact iff_of_false (nomatch ·) fun h => by omega
  · exact iff_of_false (nomatch ·) fun h => by omega
  · exact ⟨fun h => ⟨⟨by omega, by omega⟩, Except.ok.inj h⟩, fun h => congrArg Except.ok h.2⟩

/-- `safe_strtoll<T>` returns iff the parsed value fits in `long long`, and then
returns the value of `T` congruent to it modulo `2 ^ width`; that is the parsed
value itself iff it fits in `T`. -/
theorem safeStrtoll_ok_iff (t : IntegralType) (s : List Char) (v : Int) :
    safeStrtoll t s = .ok v ↔
      (LLONG_MIN ≤ subjectValue s ∧ subjectValue s ≤ LLONG_MAX) ∧ t.InRange v ∧
        v % 2 ^ t.width = subjectValue s % 2 ^ t.width ∧
        (v = subjectValue s ↔ t.InRange (subjectValue s)) := by
  rw [safeStrtoll_eq_ok]
  constructor
  · rintro ⟨hr, rfl⟩
    exact ⟨hr, t.cast_inRange _, t.cast_emod _, t.cast_eq_self_iff _⟩
  · rintro ⟨hr, hv, hmod, -⟩
    exact ⟨hr, IntegralType.cast_eq_of_emod hv hmod⟩

/-- `safe_strtoll<std::uint32_t>("-1")` returns `4294967295`, where
`std::strtoll` parsed `-1`. -/
theorem safeStrtoll_uint32_minus_one :
    subjectValue "-1".toList = -1 ∧ safeStrtoll .uint32 "-1".toList = .ok 4294967295 :=
  ⟨rfl, rfl⟩

end Legate.Utilities
