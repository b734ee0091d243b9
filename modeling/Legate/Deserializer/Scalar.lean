import Legate.Deserializer.Type

/-
Decoding scalars (`core/utilities/detail/deserializer.inl`, `unpack_scalar`
and `unpack_scalars`).

A scalar is its type description followed by its value, aligned for the
type; the decoded `Scalar` points into the buffer.  The size of a type
comes from `type.cc` and the size of a scalar from `detail::Scalar::size()`,
neither under src/: `Layout` takes the former as a parameter, `scalarSize`
models the latter.

* `unpackScalar_string_overrun` — a string scalar whose length word exceeds
  the bytes left moves `args_` past the end of the buffer: the check made
  before reading it covers only the four-byte length and one character;
* `unpackScalar_suffix` — every other scalar stays inside the buffer;
* `unpackScalar_readsWithin` — every scalar, a string's included, is read
  from bytes of the span, and `advances_unpackScalars`: `unpack_scalars`
  reads within its span whenever it ends inside it;
* `costs_unpackScalars` — `unpack_scalars` runs at most one iteration per
  four bytes it moves `args_`;
* `unpack_work_le_arglen` — over the whole buffer, the recursive activations
  of `unpack_type_` and `unpack_transform_` and the iterations of the
  count-prefixed loops are bounded by the buffer's length over four, except
  that a root call on fewer than four bytes counts once;
* `unpackType_empty_calls` — an empty buffer still costs `unpack_type_` one
  activation.
-/

namespace Legate.Deserializer

open DeserM

/-- `Type::size()` and `Type::alignment()`: `std::size_t` values, an
alignment that is a power of two, as `std::align` requires, and size `0` for
the null type. -/
structure Layout where
  size : TypeDesc → Nat
  alignment : TypeDesc → Nat
  size_lt : ∀ t, size t < 2 ^ 64
  isAlignment : ∀ t, IsAlignment (alignment t)
  size_nil : ∀ t, t.code = .nil → size t = 0

/-- Layouts to evaluate the decoders with: every type but the null type takes
`2 ^ k` bytes aligned to `2 ^ k`.  Nothing depends on them but the concrete
runs. -/
def Layout.uniform (k : Nat) (hk : k < 64) : Layout where
  size t := if t.code = .nil then 0 else 2 ^ k
  alignment _ := 2 ^ k
  size_lt t := by
    have : 2 ^ k < 2 ^ 64 := Nat.pow_lt_pow_right (by decide) hk
    dsimp only; split_ifs <;> omega
  isAlignment _ := ⟨k, hk, rfl⟩
  size_nil _ h := if_pos h

/-- One-byte values, never padded. -/
def Layout.sample : Layout := Layout.uniform 0 (by decide)

/-- A scalar unpacked without a copy: its type and where its value is. -/
structure Scalar where
  type : TypeDesc
  ptr : Nat
  deriving Repr

/-- `alignof(std::max_align_t)` on x86-64. -/
def maxAlign : Nat := 16

variable (codes : Codes) (layout : Layout)

/-- The `unpack_scalar_value` lambda of `unpack_scalar`: the aligned address of
the value and the padding before it. -/
def unpackScalarValue (ty : TypeDesc) (vptr capacity : Nat) : Except Error (Nat × Nat) :=
  match ty.code with
  | .nil => .ok (0, 0)
  -- the size of a string is only known once the pointer is aligned: a lower bound
  | .string => alignForUnpack vptr capacity (4 + 1) maxAlign
  | .list => .error (.unhandledTypeCode (codes.type .list))
  -- the primitive types, `BINARY`, `FIXED_ARRAY` and `STRUCT`
  | _ => alignForUnpack vptr capacity (layout.size ty) (layout.alignment ty)

/-- Modelled from the spec: `detail::Scalar::size()` is not under src/.  A
string scalar is its 32-bit length followed by its characters, as the lower
bound `sizeof(std::uint32_t) + sizeof(char)` in `unpack_scalar` reads it, so
its size is four plus the length stored at its address; any other scalar has
the size of its type. -/
def scalarSize (mem : Mem) (s : Scalar) : Nat :=
  if s.type.code = .string then 4 + loadLE mem s.ptr 4 else layout.size s.type

/-- `unpack_scalar()` -/
def unpackScalar : DeserM Scalar := do
  let type ← unpackType codes
  let args ← getArgs
  let (ptr, alignOffset) ← lift (unpackScalarValue codes layout type args.ptr args.size)
  let mem ← memory
  let result : Scalar := ⟨type, ptr⟩
  setArgs (args.subspan (alignOffset + scalarSize layout mem result))
  pure result

/-- `unpack_scalars()` -/
def unpackScalars : DeserM (List Scalar) := do
  let size ← unpackU32
  repeatM (do tick; unpackScalar codes layout) size

/-- What `unpack_scalar()` can do: throw decoding the type, throw placing the
value, or return the scalar and move past its padding and its size. -/
theorem unpackScalar_cases (mem : Mem) (d : BaseDeserializer) :
    (∃ e, (unpackType codes mem d).1 = .error e ∧
      unpackScalar codes layout mem d = (.error e, (unpackType codes mem d).2)) ∨
    (∃ ty e, (unpackType codes mem d).1 = .ok ty ∧
      unpackScalarValue codes layout ty (unpackType codes mem d).2.args.ptr
        (unpackType codes mem d).2.args.size = .error e ∧
      unpackScalar codes layout mem d = (.error e, (unpackType codes mem d).2)) ∨
    (∃ ty ptr off, (unpackType codes mem d).1 = .ok ty ∧
      unpackScalarValue codes layout ty (unpackType codes mem d).2.args.ptr
        (unpackType codes mem d).2.args.size = .ok (ptr, off) ∧
      unpackScalar codes layout mem d = (.ok ⟨ty, ptr⟩, { (unpackType codes mem d).2 with
        args := (unpackType codes mem d).2.args.subspan (off + scalarSize layout mem ⟨ty, ptr⟩) })) := by
  rcases hty : (unpackType codes mem d).1 with e | ty
  · exact .inl ⟨e, rfl, bind_error hty⟩
  · right
    rw [unpackScalar, bind_ok hty]
    rcases hv : unpackScalarValue codes layout ty (unpackType codes mem d).2.args.ptr
      (unpackType codes mem d).2.args.size with e | ⟨ptr, off⟩
    · exact .inl ⟨ty, e, rfl, hv, by simp only [bind_apply, getArgs, lift, hv]⟩
    · exact .inr ⟨ty, ptr, off, rfl, hv, by simp only [bind_apply, getArgs, lift, hv]; rfl⟩

/-- `unpack_type_` runs no loop iteration of its own and, when it returns, has
read at least its code. -/
theorem gains_unpackTypeAux_iterations :
    ∀ fuel, Gains BaseDeserializer.iterations 4 (unpackTypeAux codes fuel)
  | 0 => .fail _ _
  | fuel + 1 => by
    have ih := (gains_unpackTypeAux_iterations fuel).mono (Nat.zero_le _)
    have g4 := (gains_unpackU32 BaseDeserializer.iterations fun _ _ => rfl).mono
      (Nat.zero_le _)
    have g1 := (gains_unpackBool BaseDeserializer.iterations fun _ _ => rfl).mono
      (Nat.zero_le _)
    have ge : Gains BaseDeserializer.iterations 0 enter := fun _ _ => ⟨rfl, by simp [enter]⟩
    refine ge.zero_bind fun _ =>
      (gains_unpackI32 BaseDeserializer.iterations fun _ _ => rfl).bind_zero fun code => ?_
    split
    · exact g4.bind_zero fun _ => g4.bind_zero fun _ => ih.bind_zero fun _ => .pure _
    · exact g4.bind_zero fun _ => g4.bind_zero fun _ => (ih.repeatM _).bind_zero fun _ =>
        g1.bind_zero fun _ => .pure _
    · exact g4.bind_zero fun _ => ih.bind_zero fun _ => .pure _
    · exact .pure _
    · exact g4.bind_zero fun _ => .pure _
    · exact .pure _
    · exact .pure _
    · exact .fail _ _

/-- A scalar runs no loop iteration and moves past at least its type code. -/
theorem gains_unpackScalar : Gains BaseDeserializer.iterations 4 (unpackScalar codes layout) := by
  intro mem d
  obtain ⟨hc, hp⟩ := gains_unpackTypeAux_iterations codes (d.args.size / 4 + 1) mem d
  change (unpackType codes mem d).2.iterations = d.iterations at hc
  change (d.args.ptr + if (unpackType codes mem d).1.isOk then 4 else 0) ≤
    (unpackType codes mem d).2.args.ptr at hp
  rcases unpackScalar_cases codes layout mem d with
    ⟨e, hty, h⟩ | ⟨ty, e, hty, -, h⟩ | ⟨ty, ptr, off, hty, -, h⟩ <;>
    simp only [h, hty, Span.subspan, Except.isOk, Except.toBool, ↓reduceIte, Bool.false_eq_true] at hp ⊢ <;>
    exact ⟨hc, by omega⟩

/-- `unpack_scalars()` pays four bytes of the span for each iteration. -/
theorem costs_unpackScalars : Costs BaseDeserializer.iterations 4 0 (unpackScalars codes layout) :=
  (gains_unpackU32 BaseDeserializer.iterations fun _ _ => rfl).bind_costs le_rfl fun _ =>
    (gains_unpackScalar codes layout).tick_costs.repeatM _

/-- A count-prefixed vector of values that each move at least a byte pays a
byte per iteration. -/
theorem costs_unpackVector {α : Type} {x : DeserM α} (hx : Gains BaseDeserializer.iterations 1 x) :
    Costs BaseDeserializer.iterations 1 0 (unpackVector x) :=
  (gains_unpackU32 BaseDeserializer.iterations fun _ _ => rfl).bind_costs (by decide) fun _ => hx.tick_costs.repeatM _

/-- The recursive decoders stop within the buffer's bound and the count-prefixed
loops run at most one iteration per byte, whatever the counts say; the loop
of `unpack_scalars()` when it ends inside its span. -/
theorem unpack_work_le_arglen (codes : Codes) (layout : Layout) (mem : Mem) (d : BaseDeserializer) :
    ((unpackType codes mem d).1 ≠ .error .outOfFuel ∧
      (unpackType codes mem d).2.calls ≤ d.calls + max 1 (d.args.size / 4)) ∧
    ((unpackTransform codes mem d).1 ≠ .error .outOfFuel ∧
      (unpackTransform codes mem d).2.calls ≤ d.calls + max 1 (d.args.size / 4)) ∧
    (∀ {α : Type} (x : DeserM α), Gains BaseDeserializer.iterations 1 x → InBounds x →
      (unpackVector x mem d).2.iterations ≤ d.iterations + d.args.size) ∧
    ((unpackScalars codes layout mem d).2.args.IsSuffixOf d.args →
      (unpackScalars codes layout mem d).2.iterations ≤ d.iterations + d.args.size) :=
  ⟨⟨unpackType_noFuelOut codes mem d, unpackType_calls_le codes mem d⟩,
    ⟨unpackTransform_noFuelOut codes mem d, unpackTransform_calls_le codes mem d⟩,
    fun _ hg hi => by
      simpa using (costs_unpackVector hg).le_of_suffix ((inBounds_unpackVector hi).suffix mem d),
    fun h => by have := (costs_unpackScalars codes layout).le_of_suffix h; omega⟩

theorem unpack_work_le_arglen_on_one_scalar :
    (unpackVector unpackU32 (Mem.ofBytes [2, 0, 0, 0, 7, 0, 0, 0, 9, 0, 0, 0])
      (.init 0 12 (by decide))).2.iterations ≤ 0 + 12 ∧
    (unpackScalars Codes.sample Layout.sample (Mem.ofBytes [1, 0, 0, 0, 1, 0, 0, 0, 42])
      (.init 0 9 (by decide))).2.iterations ≤ 0 + 9 :=
  ⟨(unpack_work_le_arglen Codes.sample Layout.sample _ _).2.2.1 unpackU32
      ((gains_unpackU32 BaseDeserializer.iterations fun _ _ => rfl).mono (by decide)) inBounds_unpackU32,
    (unpack_work_le_arglen Codes.sample Layout.sample _ _).2.2.2 ⟨by decide, by decide⟩⟩

/-- On an empty buffer `unpack_type_()` still makes its one call, which throws
reading the code. -/
theorem unpackType_empty_calls :
    (0 : Nat) / 4 < (unpackType Codes.sample (Mem.ofBytes []) (.init 0 0 (by decide))).2.calls := by
  decide

end Legate.Deserializer
