import Mathlib.Tactic.Ring
import Mathlib.Order.MinMax

/-
Aligning the read cursor (`core/utilities/detail/deserializer.inl`,
`align_for_unpack`).

Every fixed-size value in a task's argument buffer is read at an address
aligned for its type.  `align_for_unpack` clamps the space it hands to
`std::align` to `min(bytes + align - 1, capacity)`, the most an aligned value
of `bytes` bytes can need, and throws when `std::align` fails.

* `alignUp_eq` — libstdc++'s `(ptr - 1 + align) & -align` moves `ptr` up by
  exactly the padding `alignPad ptr align` to the next multiple of a
  power-of-two `align`;
* `stdAlign_eq` — so `std::align` succeeds exactly when the padding and the
  value fit in the space;
* `alignForUnpack_eq` — for every size its callers pass (below `2 ^ 32`) and
  every power-of-two alignment, `align_for_unpack` returns the aligned
  address `ptr + pad` and `pad` exactly when `pad + bytes ≤ capacity`, and
  throws otherwise.

Design notes: addresses are natural numbers; `std::size_t` and
`std::uintptr_t` arithmetic is reduced modulo `2 ^ 64` where the source can
wrap.  `std::align` is libstdc++'s, which the standard specifies only for
power-of-two alignments (`IsAlignment`); it returns its address as `ptr`
moved by the difference it computes, the same address modulo `2 ^ 64`.
-/

namespace Legate.Deserializer

/-- Why a deserializer call throws or aborts. -/
inductive Error
  /-- `std::runtime_error` from `align_for_unpack`: "Failed to align buffer
  `ptr` (of size: `bytes`) to `align`-byte alignment (remaining capacity:
  `capacity`)". -/
  | alignFailed (ptr bytes align capacity : Nat)
  /-- `LEGATE_ABORT("unhandled type code: " << code)` -/
  | unhandledTypeCode (code : Int)
  /-- `LEGATE_ABORT("Unhandled transform code: " << code)` -/
  | unhandledTransformCode (code : Int)
  /-- The recursion of the model ran out of fuel; `unpackType` and
  `unpackTransform` are given enough that this never happens. -/
  | outOfFuel
  deriving DecidableEq, Repr

/-- The padding from `ptr` up to the next multiple of `align`. -/
def alignPad (ptr align : Nat) : Nat := (align - ptr % align) % align

theorem alignPad_lt {align : Nat} (ptr : Nat) (ha : 0 < align) : alignPad ptr align < align :=
  Nat.mod_lt _ ha

theorem alignPad_dvd {align : Nat} (ptr : Nat) (ha : 0 < align) : align ∣ ptr + alignPad ptr align := by
  have h1 := Nat.mod_lt ptr ha
  have h2 := Nat.div_add_mod ptr align
  unfold alignPad
  rcases Nat.eq_zero_or_pos (ptr % align) with h | h
  · rw [h, Nat.sub_zero, Nat.mod_self, Nat.add_zero]; exact Nat.dvd_of_mod_eq_zero h
  · rw [Nat.mod_eq_of_lt (by omega : align - ptr % align < align)]
    exact ⟨ptr / align + 1, by rw [Nat.mul_add, Nat.mul_one]; omega⟩

theorem alignPad_of_dvd {ptr align : Nat} (h : ptr % align = 0) : alignPad ptr align = 0 := by
  simp [alignPad, h]

/-- Rounding `ptr` up to a multiple of `align` by division. -/
theorem mul_div_add_sub_one {ptr align : Nat} (ha : 0 < align) :
    align * ((ptr + align - 1) / align) = ptr + alignPad ptr align := by
  obtain ⟨q, hq⟩ := alignPad_dvd ptr ha
  have hlt := alignPad_lt ptr ha
  rw [hq, Nat.div_eq_of_lt_le (k := q) (by rw [Nat.mul_comm]; omega)
    (by rw [Nat.succ_mul, Nat.mul_comm]; omega)]

/-- An alignment `std::align` is specified for: a power of two that is a
`std::size_t`. -/
def IsAlignment (a : Nat) : Prop := ∃ k < 64, 2 ^ k = a

instance : DecidablePred IsAlignment := fun _ => inferInstanceAs (Decidable (∃ k, k < 64 ∧ _))

theorem IsAlignment.pos {a : Nat} (ha : IsAlignment a) : 0 < a := by
  obtain ⟨k, -, rfl⟩ := ha
  exact Nat.two_pow_pos k

theorem IsAlignment.lt {a : Nat} (ha : IsAlignment a) : a < 2 ^ 64 := by
  obtain ⟨k, hk, rfl⟩ := ha
  exact Nat.pow_lt_pow_right (by decide) hk

/-- Below `2 ^ 64`, masking with `-2 ^ k` clears the low `k` bits. -/
theorem land_neg_two_pow {x k : Nat} (hx : x < 2 ^ 64) (hk : k ≤ 64) :
    x &&& (2 ^ 64 - 2 ^ k) = 2 ^ k * (x / 2 ^ k) := by
  apply Nat.eq_of_testBit_eq
  intro i
  have h1 : 2 ^ k - 1 < 2 ^ 64 := by
    have := Nat.pow_le_pow_right (show 0 < 2 by decide) hk; omega
  have hx' : ¬ i < 64 → x.testBit i = false := fun h =>
    Nat.testBit_lt_two_pow (lt_of_lt_of_le hx (Nat.pow_le_pow_right (by decide) (Nat.le_of_not_lt h)))
  rw [Nat.testBit_and, Nat.testBit_mul_pow_two, show 2 ^ 64 - 2 ^ k = 2 ^ 64 - (2 ^ k - 1 + 1) by
    have := Nat.one_le_two_pow (n := k); omega, Nat.testBit_two_pow_sub_succ h1,
    Nat.testBit_two_pow_sub_one, ← Nat.shiftRight_eq_div_pow, Nat.testBit_shiftRight]
  by_cases hi : i < k
  · simp [hi, Nat.not_le.mpr hi]
  · by_cases hi64 : i < 64 <;>
      simp [hi, hi64, Nat.le_of_not_lt hi, Nat.add_sub_cancel' (Nat.le_of_not_lt hi), hx']

/-- libstdc++'s `(intptr - 1u + align) & -align` in `std::uintptr_t`
arithmetic. -/
def alignUp (align intptr : Nat) : Nat :=
  (intptr + 2 ^ 64 - 1 + align) % 2 ^ 64 &&& (2 ^ 64 - align) % 2 ^ 64

/-- For a power-of-two alignment, `alignUp` is the address moved up by the
padding, wrapped to 64 bits. -/
theorem alignUp_eq {align ptr : Nat} (ha : IsAlignment align) (hp : ptr < 2 ^ 64) :
    alignUp align ptr = (ptr + alignPad ptr align) % 2 ^ 64 := by
  obtain ⟨k, hk, rfl⟩ := ha
  have h1 : 1 ≤ 2 ^ k := Nat.one_le_two_pow
  have h64 : (2 : Nat) ^ 64 = 2 ^ k * 2 ^ (64 - k) := by rw [← Nat.pow_add]; congr 1; omega
  unfold alignUp
  rw [show ptr + 2 ^ 64 - 1 + 2 ^ k = (ptr + 2 ^ k - 1) + 2 ^ 64 by omega, Nat.add_mod_right,
    Nat.mod_eq_of_lt (show 2 ^ 64 - 2 ^ k < 2 ^ 64 by omega),
    land_neg_two_pow (Nat.mod_lt _ (by decide)) hk.le, h64, Nat.mod_mul_right_div_self,
    ← Nat.mul_mod_mul_left, mul_div_add_sub_one (Nat.two_pow_pos k)]

/-- `std::align(alignment, size, ptr, space)` as libstdc++ writes it: when
`size` bytes aligned to `alignment` fit in the `space` bytes at `ptr`, the
first such address and the space left from it. -/
def stdAlign (alignment size ptr space : Nat) : Option (Nat × Nat) :=
  if space < size then none
  else
    let intptr := ptr % 2 ^ 64
    let aligned := alignUp alignment intptr
    let diff := (aligned + 2 ^ 64 - intptr) % 2 ^ 64
    if diff > space - size then none
    else some (ptr + diff, space - diff)

/-- The difference `std::align` computes is the padding. -/
theorem stdAlign_diff {alignment : Nat} (ha : IsAlignment alignment) (ptr : Nat) :
    (alignUp alignment (ptr % 2 ^ 64) + 2 ^ 64 - ptr % 2 ^ 64) % 2 ^ 64 =
      alignPad ptr alignment := by
  have hdvd : alignment ∣ 2 ^ 64 := by
    obtain ⟨k, hk, rfl⟩ := ha
    exact Nat.pow_dvd_pow 2 hk.le
  have hpad : alignPad (ptr % 2 ^ 64) alignment = alignPad ptr alignment := by
    simp only [alignPad, Nat.mod_mod_of_dvd ptr hdvd]
  have hlt := alignPad_lt ptr ha.pos
  have := ha.lt
  rw [alignUp_eq ha (Nat.mod_lt _ (by decide)), hpad]
  omega

theorem stdAlign_eq {alignment : Nat} (ha : IsAlignment alignment) (size ptr space : Nat) :
    stdAlign alignment size ptr space =
      if alignPad ptr alignment + size ≤ space then
        some (ptr + alignPad ptr alignment, space - alignPad ptr alignment)
      else none := by
  simp only [stdAlign, stdAlign_diff ha]
  split_ifs <;> first | rfl | omega

/-- `align_for_unpack(ptr, capacity, bytes, align)`: the aligned address and
the padding skipped to reach it. -/
def alignForUnpack (ptr capacity bytes align : Nat) : Except Error (Nat × Nat) :=
  let origAvailSpace := min ((bytes + align + (2 ^ 64 - 1)) % 2 ^ 64) capacity
  match stdAlign align bytes ptr origAvailSpace with
  | none => .error (.alignFailed ptr bytes align capacity)
  | some (p, availSpace) => .ok (p, origAvailSpace - availSpace)

/-- What `align_for_unpack` does for any `std::size_t` size: it returns
exactly when the value fits after the padding and the clamp
`bytes + align - 1` does not wrap. -/
theorem alignForUnpack_apply {ptr capacity bytes align : Nat} (ha : IsAlignment align)
    (hb : bytes < 2 ^ 64) :
    alignForUnpack ptr capacity bytes align =
      if bytes + align - 1 < 2 ^ 64 ∧ alignPad ptr align + bytes ≤ capacity then
        .ok (ptr + alignPad ptr align, alignPad ptr align)
      else .error (.alignFailed ptr bytes align capacity) := by
  have hpad := alignPad_lt ptr ha.pos
  have := ha.lt
  have hmod : (bytes + align + (2 ^ 64 - 1)) % 2 ^ 64 =
      if bytes + align - 1 < 2 ^ 64 then bytes + align - 1 else bytes + align - 1 - 2 ^ 64 := by
    split_ifs <;> omega
  simp only [alignForUnpack, stdAlign_eq ha, hmod]
  split_ifs <;> first | rfl | omega | (simp only [Except.ok.injEq, Prod.mk.injEq, true_and]; omega)

/-- For the sizes its callers pass, `align_for_unpack` returns exactly when the
value fits in the capacity after the padding, and then returns an aligned
address and the padding; otherwise it throws.  The clamp
`min(bytes + align - 1, capacity)` rejects nothing that fits. -/
theorem alignForUnpack_eq {ptr capacity bytes align : Nat} (ha : IsAlignment align)
    (hb : bytes < 2 ^ 32) :
    alignForUnpack ptr capacity bytes align =
        (if alignPad ptr align + bytes ≤ capacity then
          .ok (ptr + alignPad ptr align, alignPad ptr align)
        else .error (.alignFailed ptr bytes align capacity)) ∧
      align ∣ ptr + alignPad ptr align := by
  have hw : bytes + align - 1 < 2 ^ 64 := by
    obtain ⟨k, hk, rfl⟩ := ha
    have : 2 ^ k ≤ 2 ^ 63 := Nat.pow_le_pow_right (by decide) (by omega)
    omega
  refine ⟨?_, alignPad_dvd ptr ha.pos⟩
  rw [alignForUnpack_apply ha (by omega)]
  simp only [hw, true_and]

theorem alignForUnpack_eq_at_three :
    (IsAlignment 4 ∧ (4 : Nat) < 2 ^ 32) ∧
      (alignForUnpack 3 16 4 4 =
          (if alignPad 3 4 + 4 ≤ 16 then .ok (3 + alignPad 3 4, alignPad 3 4)
          else .error (.alignFailed 3 4 4 16)) ∧
        4 ∣ 3 + alignPad 3 4) :=
  ⟨⟨by decide, by decide⟩, alignForUnpack_eq (by decide) (by decide)⟩

/- An eight-byte value at address `3` is read at `8`, past five bytes of
padding; with only twelve bytes it does not fit. -/
example : alignForUnpack 3 16 8 8 = .ok (8, 5) ∧
    alignForUnpack 3 12 8 8 = .error (.alignFailed 3 8 8 12) :=
  ⟨rfl, rfl⟩

end Legate.Deserializer
