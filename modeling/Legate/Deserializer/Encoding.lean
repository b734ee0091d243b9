import Legate.Deserializer.Basic

/-
The layout the deserializer reads (`core/utilities/detail/deserializer.inl`,
`unpack<T>()` and `unpack_impl(T&)`), and decoding against it.

Every fixed-size value the decoders read is aligned to its own size, so a
packed message is a sequence of items, each a little-endian value of `size`
bytes: `layout pos items` puts them down from address `pos`, each after the
padding that `align_for_unpack` skips.  `Decodes mem x items a` says that `x`,
run on a span that starts with the layout of `items`, returns `a` and leaves
the span just past that layout.

* `Decodes.bind`, `Decodes.repeatM`, `Decodes.unpackVector` — decoding
  composes along a sequence of reads and along the count-prefixed loops;
* `decodes_unpackFixed` — `unpack<T>()` decodes its item, and so do
  `unpackU32`, `unpackI32`, `unpackU64`, `unpackI64` and `unpackBool` for the
  values their types hold.

Design notes: the packing side is not under src/; `layout` is the layout the
decoders read, which is what any packer has to produce for them.
-/

namespace Legate.Deserializer

open DeserM

/-- A packed value: `size` bytes, little-endian, aligned to `size`. -/
structure Item where
  size : Nat
  value : Nat

namespace Item

/-- A `std::uint32_t`. -/
def uint32 (n : Nat) : Item := ⟨4, n⟩

/-- A `std::int32_t`, as its two's complement word. -/
def int32 (x : Int) : Item := ⟨4, (x % 2 ^ 32).toNat⟩

/-- A `std::uint64_t`. -/
def uint64 (n : Nat) : Item := ⟨8, n⟩

/-- A `std::int64_t`, as its two's complement word. -/
def int64 (x : Int) : Item := ⟨8, (x % 2 ^ 64).toNat⟩

/-- A `bool`. -/
def bool (b : Bool) : Item := ⟨1, if b then 1 else 0⟩

end Item

/-- The bytes of `items` put down from address `pos`, each item after the
padding to a multiple of its size. -/
def layout : Nat → List Item → List UInt8
  | _, [] => []
  | pos, i :: rest =>
    List.replicate (alignPad pos i.size) 0 ++ encodeLE i.value i.size ++
      layout (pos + alignPad pos i.size + i.size) rest

theorem length_layout_cons (pos : Nat) (i : Item) (rest : List Item) :
    (layout pos (i :: rest)).length =
      alignPad pos i.size + i.size + (layout (pos + alignPad pos i.size + i.size) rest).length := by
  simp [layout, Nat.add_assoc]

theorem layout_append (l₁ l₂ : List Item) : ∀ pos,
    layout pos (l₁ ++ l₂) = layout pos l₁ ++ layout (pos + (layout pos l₁).length) l₂ := by
  induction l₁ with
  | nil => intro pos; rfl
  | cons i l₁ ih =>
    intro pos
    rw [List.cons_append, layout, ih, length_layout_cons, layout]
    simp only [List.append_assoc, Nat.add_assoc]

/-- The span of `d` starts with the layout of `items`. -/
def HoldsItems (mem : Mem) (d : BaseDeserializer) (items : List Item) : Prop :=
  (layout d.args.ptr items).length ≤ d.args.size ∧ mem.Holds d.args.ptr (layout d.args.ptr items)

/-- `x` decodes `items` as `a`: on a span that starts with their layout, it
returns `a` and moves the span just past that layout. -/
def Decodes {α : Type} (mem : Mem) (x : DeserM α) (items : List Item) (a : α) : Prop :=
  ∀ d rest, HoldsItems mem d (items ++ rest) →
    (x mem d).1 = .ok a ∧ (x mem d).2.args = d.args.subspan (layout d.args.ptr items).length

variable {mem : Mem} {α β : Type}

/-- What is left after the layout of `l₁` is the layout of `l₂`. -/
theorem HoldsItems.drop {d d' : BaseDeserializer} {l₁ l₂ : List Item}
    (hd : HoldsItems mem d (l₁ ++ l₂))
    (hd' : d'.args = d.args.subspan (layout d.args.ptr l₁).length) : HoldsItems mem d' l₂ := by
  rw [HoldsItems, layout_append, List.length_append] at hd
  obtain ⟨hp, hs⟩ := Span.subspan_of_le (show (layout d.args.ptr l₁).length ≤ d.args.size by omega)
  rw [Mem.holds_append] at hd
  refine ⟨?_, ?_⟩ <;> rw [hd'] <;> simp only [hp, hs]
  · omega
  · exact hd.2.2

theorem Decodes.pure (a : α) : Decodes mem (Pure.pure a) [] a := fun d _ _ =>
  ⟨rfl, (Span.subspan_zero d.args).symm⟩

theorem Decodes.bind {x : DeserM α} {f : α → DeserM β} {l l₁ l₂ : List Item} {a : α} {b : β}
    (hx : Decodes mem x l₁ a) (hf : Decodes mem (f a) l₂ b) (hl : l = l₁ ++ l₂) :
    Decodes mem (x >>= f) l b := by
  subst hl
  intro d rest hd
  rw [List.append_assoc] at hd
  obtain ⟨h1, h1'⟩ := hx d _ hd
  obtain ⟨h2, h2'⟩ := hf _ rest (hd.drop h1')
  have hfit := hd.1
  rw [layout_append, List.length_append, layout_append, List.length_append] at hfit
  obtain ⟨hp, -⟩ := Span.subspan_of_le (show (layout d.args.ptr l₁).length ≤ d.args.size by omega)
  rw [bind_ok h1]
  refine ⟨h2, ?_⟩
  rw [h2', h1', hp, Span.subspan_add _ (by omega), layout_append, List.length_append]

theorem Decodes.map {x : DeserM α} {l : List Item} {a : α} (hx : Decodes mem x l a) (g : α → β) :
    Decodes mem (g <$> x) l (g a) :=
  hx.bind (Decodes.pure _) (List.append_nil l).symm

/-- A counted loop decodes its iterations one after the other. -/
theorem Decodes.repeatM {x : DeserM α} {f : α → List Item} :
    ∀ {as : List α}, (∀ a ∈ as, Decodes mem x (f a) a) →
      Decodes mem (Deserializer.repeatM x as.length) (as.map f).flatten as
  | [], _ => Decodes.pure _
  | _ :: _, h =>
    (h _ (.head _)).bind ((Decodes.repeatM fun a ha => h a (.tail _ ha)).bind
      (Decodes.pure _) (List.append_nil _).symm) rfl

theorem decodes_tick : Decodes mem tick [] () := fun d _ _ =>
  ⟨rfl, (Span.subspan_zero d.args).symm⟩

theorem decodes_enter : Decodes mem enter [] () := fun d _ _ =>
  ⟨rfl, (Span.subspan_zero d.args).symm⟩

/-- `unpack<T>()` for a `T` of `size` bytes aligned to `size` reads the value
of its item. -/
theorem decodes_unpackFixed {size v : Nat} (hs : IsAlignment size) (hs' : size < 2 ^ 63)
    (hv : v < 256 ^ size) : Decodes mem (unpackFixed size size) [⟨size, v⟩] v := by
  intro d rest hd
  have hfit := hd.1
  have hmem := hd.2
  simp only [List.singleton_append, layout, List.length_append, List.length_replicate,
    length_encodeLE, Mem.holds_append] at hfit hmem
  have hl : (layout d.args.ptr [⟨size, v⟩]).length = alignPad d.args.ptr size + size := by
    simp [layout]
  rw [unpackFixed_apply hs (by omega), if_pos ⟨by omega, by omega⟩, hl,
    loadLE_of_holds (by simpa using hmem.1.2), Nat.mod_eq_of_lt hv]
  exact ⟨rfl, rfl⟩

theorem decodes_unpackU32 {n : Nat} (hn : n < 2 ^ 32) : Decodes mem unpackU32 [.uint32 n] n :=
  decodes_unpackFixed (by decide) (by decide) hn

theorem decodes_unpackI32 {x : Int} (h1 : -2 ^ 31 ≤ x) (h2 : x < 2 ^ 31) :
    Decodes mem unpackI32 [.int32 x] x := by
  have h : Decodes mem (unpackFixed 4 4) [⟨4, (x % 2 ^ 32).toNat⟩] (x % 2 ^ 32).toNat :=
    decodes_unpackFixed (by decide) (by decide) (by omega)
  have := h.map (toSigned 32)
  rwa [toSigned_toNat_emod h1 h2] at this

theorem decodes_unpackBool (b : Bool) : Decodes mem unpackBool [.bool b] b := by
  have h : Decodes mem (unpackFixed 1 1) [⟨1, if b then 1 else 0⟩] (if b then 1 else 0) :=
    decodes_unpackFixed (by decide) (by decide) (by cases b <;> decide)
  have := h.map fun v => decide (v ≠ 0)
  cases b <;> exact this

/-- `unpack_impl(std::vector<T>&)` decodes the count and then each element. -/
theorem Decodes.unpackVector {x : DeserM α} {f : α → List Item} {as : List α}
    (hlen : as.length < 2 ^ 32) (h : ∀ a ∈ as, Decodes mem x (f a) a) :
    Decodes mem (Deserializer.unpackVector x) (.uint32 as.length :: (as.map f).flatten) as :=
  (decodes_unpackU32 hlen).bind
    (Decodes.repeatM fun a ha => decodes_tick.bind (h a ha) rfl) rfl

end Legate.Deserializer
