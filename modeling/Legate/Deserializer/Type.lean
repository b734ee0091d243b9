import Legate.Deserializer.Cost
import Mathlib.Data.List.Nodup

/-
Decoding type descriptions and transform stacks
(`core/utilities/detail/deserializer.inl`, `unpack_type_` and
`unpack_transform_`).

Both read a 32-bit code and recurse on the nested types or the parent
transform.  The numbering of the codes lives in `legate_c.h`, which is not
under src/: `Codes` takes it as a parameter, with the facts the source's
`switch` statements need of it.

* `inBounds_unpackType`, `inBounds_unpackTransform` — the decoders read only
  the bytes not consumed yet and leave a suffix of them;
* `unpackType_noFuelOut`, `unpackType_calls_le` — `unpack_type_` never needs
  more than one level of recursion per four bytes left, and its recursion
  tree has at most `max 1 (size / 4)` activations; likewise for
  `unpack_transform_`.

Design notes: the recursion is given fuel for Lean's sake, one level per four
bytes of the span it starts on; `FuelBound` shows the fuel is never
exhausted, so the fuel is invisible in every result.
-/

namespace Legate.Deserializer

open DeserM

/-- `Type::Code`. -/
inductive TypeCode
  | bool | int8 | int16 | int32 | int64 | uint8 | uint16 | uint32 | uint64
  | float16 | float32 | float64 | complex64 | complex128
  | binary | fixedArray | struct | string | list | nil
  deriving DecidableEq, Repr

/-- Every `Type::Code` enumerator. -/
def TypeCode.all : List TypeCode :=
  [.bool, .int8, .int16, .int32, .int64, .uint8, .uint16, .uint32, .uint64, .float16, .float32,
    .float64, .complex64, .complex128, .binary, .fixedArray, .struct, .string, .list, .nil]

theorem TypeCode.mem_all (c : TypeCode) : c ∈ TypeCode.all := by cases c <;> decide

/-- The values of the `Type::Code` enumerators and of the
`LEGATE_CORE_TRANSFORM_*` codes, as 32-bit integers; the case labels of a
`switch` are distinct. -/
structure Codes where
  type : TypeCode → Int
  type_injective : Function.Injective type
  type_bounds : ∀ c, -2 ^ 31 ≤ type c ∧ type c < 2 ^ 31
  shift : Int
  promote : Int
  project : Int
  transpose : Int
  delinearize : Int
  transform_nodup : [-1, shift, promote, project, transpose, delinearize].Nodup
  transform_bounds : ∀ c ∈ [shift, promote, project, transpose, delinearize],
    -2 ^ 31 ≤ c ∧ c < 2 ^ 31

/-- `static_cast<Type::Code>(code)` followed by the `switch` on it: the
enumerator with that value, if any. -/
def Codes.decodeType (codes : Codes) (code : Int) : Option TypeCode :=
  TypeCode.all.find? fun c => codes.type c = code

theorem Codes.decodeType_type (codes : Codes) (c : TypeCode) : codes.decodeType (codes.type c) = some c := by
  obtain ⟨c', hc'⟩ := Option.isSome_iff_exists.mp
    (List.find?_isSome.mpr ⟨c, TypeCode.mem_all c, by simp⟩ :
      (TypeCode.all.find? fun c' => codes.type c' = codes.type c).isSome)
  have h1 : codes.type c' = codes.type c := by simpa using List.find?_some hc'
  rw [decodeType, hc', codes.type_injective h1]

/-- A numbering to evaluate the decoders with: the type codes in the order
`Type::Code` lists them and the transform codes from `100`.  Nothing depends
on it but the concrete runs. -/
def Codes.sample : Codes where
  type c := TypeCode.all.indexOf c
  type_injective a b h :=
    (List.indexOf_inj (TypeCode.mem_all a) (TypeCode.mem_all b)).mp (Int.ofNat.inj h)
  type_bounds c := by
    have := List.indexOf_lt_length.mpr (TypeCode.mem_all c)
    have h20 : TypeCode.all.length = 20 := rfl
    show -2 ^ 31 ≤ (TypeCode.all.indexOf c : Int) ∧ (TypeCode.all.indexOf c : Int) < 2 ^ 31
    omega
  shift := 100
  promote := 101
  project := 102
  transpose := 103
  delinearize := 104
  transform_nodup := by decide
  transform_bounds := by decide

/-- A decoded type: `FixedArrayType`, `StructType`, `ListType`, the
primitive types, `binary_type`, `StringType` and `null_type`. -/
inductive TypeDesc
  | primitive (code : TypeCode)
  | binary (size : Nat)
  | fixedArray (uid : Nat) (elem : TypeDesc) (n : Nat)
  | struct (uid : Nat) (fields : List TypeDesc) (align : Bool)
  | list (uid : Nat) (elem : TypeDesc)
  | string
  | nil
  deriving Repr

/-- `Type::code`. -/
def TypeDesc.code : TypeDesc → TypeCode
  | .primitive c => c
  | .binary _ => .binary
  | .fixedArray .. => .fixedArray
  | .struct .. => .struct
  | .list .. => .list
  | .string => .string
  | .nil => .nil

variable (codes : Codes)

/-- `unpack_type_()`, with `fuel` levels of recursion. -/
def unpackTypeAux : Nat → DeserM TypeDesc
  | 0 => fail .outOfFuel
  | fuel + 1 => do
    enter
    let code ← unpackI32
    match codes.decodeType code with
    | some .fixedArray => do
      let uid ← unpackU32
      let n ← unpackU32
      let type ← unpackTypeAux fuel
      pure (.fixedArray uid type n)
    | some .struct => do
      let uid ← unpackU32
      let numFields ← unpackU32
      let fieldTypes ← repeatM (unpackTypeAux fuel) numFields
      let align ← unpackBool
      pure (.struct uid fieldTypes align)
    | some .list => do
      let uid ← unpackU32
      let type ← unpackTypeAux fuel
      pure (.list uid type)
    | some .nil => pure .nil
    | some .binary => do
      let size ← unpackU32
      pure (.binary size)
    | some .string => pure .string
    | some c => pure (.primitive c)
    | none => fail (.unhandledTypeCode code)

/-- `unpack_type_()`: one level of recursion per four bytes left. -/
def unpackType : DeserM TypeDesc := fun mem d => unpackTypeAux codes (d.args.size / 4 + 1) mem d

/-- A decoded `TransformStack`: the identity (code `-1`) or a transform on
top of its parent stack. -/
inductive TransformDesc
  | identity
  | shift (dim offset : Int) (parent : TransformDesc)
  | promote (extraDim dimSize : Int) (parent : TransformDesc)
  | project (dim coord : Int) (parent : TransformDesc)
  | transpose (axes : List Int) (parent : TransformDesc)
  | delinearize (dim : Int) (sizes : List Nat) (parent : TransformDesc)
  deriving Repr

/-- `unpack_transform_()`, with `fuel` levels of recursion. -/
def unpackTransformAux : Nat → DeserM TransformDesc
  | 0 => fail .outOfFuel
  | fuel + 1 => do
    enter
    let code ← unpackI32
    if code = -1 then pure .identity
    else if code = codes.shift then do
      let dim ← unpackI32
      let offset ← unpackI64
      let parent ← unpackTransformAux fuel
      pure (.shift dim offset parent)
    else if code = codes.promote then do
      let extraDim ← unpackI32
      let dimSize ← unpackI64
      let parent ← unpackTransformAux fuel
      pure (.promote extraDim dimSize parent)
    else if code = codes.project then do
      let dim ← unpackI32
      let coord ← unpackI64
      let parent ← unpackTransformAux fuel
      pure (.project dim coord parent)
    else if code = codes.transpose then do
      let axes ← unpackVector unpackI32
      let parent ← unpackTransformAux fuel
      pure (.transpose axes parent)
    else if code = codes.delinearize then do
      let dim ← unpackI32
      let sizes ← unpackVector unpackU64
      let parent ← unpackTransformAux fuel
      pure (.delinearize dim sizes parent)
    else fail (.unhandledTransformCode code)

/-- `unpack_transform_()`: one level of recursion per four bytes left. -/
def unpackTransform : DeserM TransformDesc :=
  fun mem d => unpackTransformAux codes (d.args.size / 4 + 1) mem d

theorem gains_unpackU32 (cnt : BaseDeserializer → Nat)
    (hcnt : ∀ (d : BaseDeserializer) (s : Span), cnt { d with args := s } = cnt d) :
    Gains cnt 4 unpackU32 :=
  gains_unpackFixed (by decide) (by decide) cnt hcnt

theorem gains_unpackBool (cnt : BaseDeserializer → Nat)
    (hcnt : ∀ (d : BaseDeserializer) (s : Span), cnt { d with args := s } = cnt d) :
    Gains cnt 1 unpackBool :=
  (gains_unpackFixed (by decide) (by decide) cnt hcnt).map _

theorem inBounds_unpackTypeAux : ∀ fuel, InBounds (unpackTypeAux codes fuel)
  | 0 => .fail _
  | fuel + 1 => by
    have ih := inBounds_unpackTypeAux fuel
    refine InBounds.enter.bind fun _ => inBounds_unpackI32.bind fun code => ?_
    split
    · exact inBounds_unpackU32.bind fun _ => inBounds_unpackU32.bind fun _ => ih.bind fun _ => .pure _
    · exact inBounds_unpackU32.bind fun _ => inBounds_unpackU32.bind fun _ =>
        (ih.repeatM _).bind fun _ => inBounds_unpackBool.bind fun _ => .pure _
    · exact inBounds_unpackU32.bind fun _ => ih.bind fun _ => .pure _
    · exact .pure _
    · exact inBounds_unpackU32.bind fun _ => .pure _
    · exact .pure _
    · exact .pure _
    · exact .fail _

/-- Every activation of `unpack_type_` pays four bytes for each activation in
its recursion tree, unless it throws before reading its own code. -/
theorem activation_unpackTypeAux : ∀ fuel, Activation (unpackTypeAux codes fuel)
  | 0 => fun _ _ => .inl le_rfl
  | fuel + 1 => by
    have ih := (activation_unpackTypeAux fuel).costs
    have g4 := gains_unpackU32 BaseDeserializer.calls fun _ _ => rfl
    have g1 := gains_unpackBool BaseDeserializer.calls fun _ _ => rfl
    refine Activation.of_rest fun code => ?_
    split
    · exact g4.bind_costs le_rfl fun _ => (g4.costs 4 4).bind fun _ => ih.bind fun _ =>
        (Gains.pure _).costs 4 4
    · exact g4.bind_costs le_rfl fun _ => (g4.costs 4 4).bind fun _ => (ih.repeatM _).bind fun _ =>
        (g1.costs 4 4).bind fun _ => (Gains.pure _).costs 4 4
    · exact g4.bind_costs le_rfl fun _ => ih.bind fun _ => (Gains.pure _).costs 4 4
    · exact (Gains.pure _).costs 4 0
    · exact ((g4.bind fun _ => Gains.pure _).costs 4 0)
    · exact (Gains.pure _).costs 4 0
    · exact (Gains.pure _).costs 4 0
    · exact (Gains.fail 0 _).costs 4 0

theorem noFuelOut_enter : NoFuelOut enter := fun _ _ h => by cases h

theorem noFuelOut_tick : NoFuelOut tick := fun _ _ h => by cases h

theorem noFuelOut_unpackU32 : NoFuelOut unpackU32 :=
  noFuelOut_unpackFixed (by decide) (by decide)

theorem noFuelOut_unpackI32 : NoFuelOut unpackI32 :=
  (noFuelOut_unpackFixed (by decide) (by decide)).bind fun _ => NoFuelOut.pure _

theorem noFuelOut_unpackBool : NoFuelOut unpackBool :=
  (noFuelOut_unpackFixed (by decide) (by decide)).bind fun _ => NoFuelOut.pure _

/-- `unpack_type_` runs out of fuel only after moving four bytes per level. -/
theorem fuelBound_unpackTypeAux : ∀ fuel, FuelBound (4 * fuel) (unpackTypeAux codes fuel)
  | 0 => fun _ _ _ => le_rfl
  | fuel + 1 => by
    have ih := fuelBound_unpackTypeAux fuel
    have hi := inBounds_unpackTypeAux codes fuel
    have nf := fun f => noFuelOut_unpackU32.fuelBound f
    rw [Nat.mul_succ]
    refine (noFuelOut_enter.fuelBound _).bind InBounds.enter fun _ =>
      FuelBound.shift noFuelOut_unpackI32 (gains_unpackI32 BaseDeserializer.calls
        fun _ _ => rfl) fun code => ?_
    split
    · exact (nf _).bind inBounds_unpackU32 fun _ => (nf _).bind inBounds_unpackU32 fun _ =>
        ih.bind hi fun _ => (NoFuelOut.pure _).fuelBound _
    · exact (nf _).bind inBounds_unpackU32 fun _ => (nf _).bind inBounds_unpackU32 fun _ =>
        (ih.repeatM hi _).bind (hi.repeatM _) fun _ =>
          (noFuelOut_unpackBool.fuelBound _).bind inBounds_unpackBool fun _ =>
            (NoFuelOut.pure _).fuelBound _
    · exact (nf _).bind inBounds_unpackU32 fun _ => ih.bind hi fun _ => (NoFuelOut.pure _).fuelBound _
    · exact (NoFuelOut.pure _).fuelBound _
    · exact (nf _).bind inBounds_unpackU32 fun _ => (NoFuelOut.pure _).fuelBound _
    · exact (NoFuelOut.pure _).fuelBound _
    · exact (NoFuelOut.pure _).fuelBound _
    · exact fun _ _ h => nomatch h

theorem gains_unpackI64 (cnt : BaseDeserializer → Nat)
    (hcnt : ∀ (d : BaseDeserializer) (s : Span), cnt { d with args := s } = cnt d) :
    Gains cnt 8 unpackI64 :=
  (gains_unpackFixed (by decide) (by decide) cnt hcnt).map _

theorem noFuelOut_unpackI64 : NoFuelOut unpackI64 :=
  (noFuelOut_unpackFixed (by decide) (by decide)).bind fun _ => NoFuelOut.pure _

theorem noFuelOut_unpackU64 : NoFuelOut unpackU64 :=
  noFuelOut_unpackFixed (by decide) (by decide)

theorem noFuelOut_unpackVector {α : Type} {x : DeserM α} (hx : NoFuelOut x) :
    NoFuelOut (unpackVector x) :=
  noFuelOut_unpackU32.bind fun _ => (noFuelOut_tick.bind fun _ => hx).repeatM _

/-- A vector read moves past its count word and counts no activation. -/
theorem gains_unpackVector_calls {α : Type} {x : DeserM α} (hx : Gains BaseDeserializer.calls 0 x) :
    Gains BaseDeserializer.calls 4 (unpackVector x) := by
  have ht : Gains BaseDeserializer.calls 0 tick := fun _ _ => ⟨rfl, by simp [tick]⟩
  simpa using (gains_unpackU32 BaseDeserializer.calls fun _ _ => rfl).bind fun _ =>
    (ht.bind fun _ => hx).repeatM _

/-- `unpack_type_` never exhausts its recursion: it needs at most one level
per four bytes left. -/
theorem unpackType_noFuelOut (mem : Mem) (d : BaseDeserializer) :
    (unpackType codes mem d).1 ≠ .error .outOfFuel := fun h => by
  have hb := fuelBound_unpackTypeAux codes (d.args.size / 4 + 1) mem d h
  have hs := (inBounds_unpackTypeAux codes (d.args.size / 4 + 1)).suffix mem d
  simp only [Span.IsSuffixOf] at hs
  omega

/-- The recursion tree of `unpack_type_` has at most `max 1 (size / 4)`
activations. -/
theorem unpackType_calls_le (mem : Mem) (d : BaseDeserializer) :
    (unpackType codes mem d).2.calls ≤ d.calls + max 1 (d.args.size / 4) :=
  (activation_unpackTypeAux codes _).calls_le (inBounds_unpackTypeAux codes _) mem d

theorem inBounds_unpackTransformAux : ∀ fuel, InBounds (unpackTransformAux codes fuel)
  | 0 => .fail _
  | fuel + 1 => by
    have ih := inBounds_unpackTransformAux fuel
    refine InBounds.enter.bind fun _ => inBounds_unpackI32.bind fun code => ?_
    split_ifs
    · exact .pure _
    iterate 3
      exact inBounds_unpackI32.bind fun _ => inBounds_unpackI64.bind fun _ => ih.bind fun _ => .pure _
    · exact (inBounds_unpackVector inBounds_unpackI32).bind fun _ => ih.bind fun _ => .pure _
    · exact inBounds_unpackI32.bind fun _ => (inBounds_unpackVector inBounds_unpackU64).bind fun _ =>
        ih.bind fun _ => .pure _
    · exact .fail _

/-- Every activation of `unpack_transform_` pays four bytes for each
activation below it, unless it throws before reading its own code. -/
theorem activation_unpackTransformAux : ∀ fuel, Activation (unpackTransformAux codes fuel)
  | 0 => fun _ _ => .inl le_rfl
  | fuel + 1 => by
    have ih := (activation_unpackTransformAux fuel).costs
    have gI32 := gains_unpackI32 BaseDeserializer.calls fun _ _ => rfl
    have gI64 := gains_unpackI64 BaseDeserializer.calls fun _ _ => rfl
    have gU64 : Gains BaseDeserializer.calls 8 unpackU64 :=
      gains_unpackFixed (by decide) (by decide) _ fun _ _ => rfl
    refine Activation.of_rest fun code => ?_
    split_ifs
    · exact (Gains.pure _).costs 4 0
    iterate 3
      exact gI32.bind_costs le_rfl fun _ => (gI64.costs 4 4).bind fun _ => ih.bind fun _ =>
        (Gains.pure _).costs 4 4
    · exact (gains_unpackVector_calls (gI32.mono (Nat.zero_le _))).bind_costs le_rfl fun _ =>
        ih.bind fun _ => (Gains.pure _).costs 4 4
    · exact gI32.bind_costs le_rfl fun _ =>
        ((gains_unpackVector_calls (gU64.mono (Nat.zero_le _))).costs 4 4).bind fun _ =>
          ih.bind fun _ => (Gains.pure _).costs 4 4
    · exact (Gains.fail 0 _).costs 4 0

/-- `unpack_transform_` runs out of fuel only after moving four bytes per
level. -/
theorem fuelBound_unpackTransformAux : ∀ fuel, FuelBound (4 * fuel) (unpackTransformAux codes fuel)
  | 0 => fun _ _ _ => le_rfl
  | fuel + 1 => by
    have ih := fuelBound_unpackTransformAux fuel
    have hi := inBounds_unpackTransformAux codes fuel
    rw [Nat.mul_succ]
    refine (noFuelOut_enter.fuelBound _).bind InBounds.enter fun _ =>
      FuelBound.shift noFuelOut_unpackI32 (gains_unpackI32 BaseDeserializer.calls
        fun _ _ => rfl) fun code => ?_
    split_ifs
    · exact (NoFuelOut.pure _).fuelBound _
    iterate 3
      exact (noFuelOut_unpackI32.fuelBound _).bind inBounds_unpackI32 fun _ =>
        (noFuelOut_unpackI64.fuelBound _).bind inBounds_unpackI64 fun _ =>
          ih.bind hi fun _ => (NoFuelOut.pure _).fuelBound _
    · exact ((noFuelOut_unpackVector noFuelOut_unpackI32).fuelBound _).bind
        (inBounds_unpackVector inBounds_unpackI32) fun _ => ih.bind hi fun _ => (NoFuelOut.pure _).fuelBound _
    · exact (noFuelOut_unpackI32.fuelBound _).bind inBounds_unpackI32 fun _ =>
        ((noFuelOut_unpackVector noFuelOut_unpackU64).fuelBound _).bind
          (inBounds_unpackVector inBounds_unpackU64) fun _ => ih.bind hi fun _ =>
            (NoFuelOut.pure _).fuelBound _
    · exact fun _ _ h => nomatch h

/-- `unpack_transform_` never exhausts its recursion. -/
theorem unpackTransform_noFuelOut (mem : Mem) (d : BaseDeserializer) :
    (unpackTransform codes mem d).1 ≠ .error .outOfFuel := fun h => by
  have hb := fuelBound_unpackTransformAux codes (d.args.size / 4 + 1) mem d h
  have hs := (inBounds_unpackTransformAux codes (d.args.size / 4 + 1)).suffix mem d
  simp only [Span.IsSuffixOf] at hs
  omega

/-- The recursion of `unpack_transform_` has at most `max 1 (size / 4)`
activations. -/
theorem unpackTransform_calls_le (mem : Mem) (d : BaseDeserializer) :
    (unpackTransform codes mem d).2.calls ≤ d.calls + max 1 (d.args.size / 4) :=
  (activation_unpackTransformAux codes _).calls_le (inBounds_unpackTransformAux codes _) mem d

end Legate.Deserializer
