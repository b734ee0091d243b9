import Legate.Deserializer.Align
import Mathlib.Tactic.Positivity

/-
The cursor of the task-argument deserializer
(`core/utilities/detail/deserializer.inl`, `BaseDeserializer`).

A `BaseDeserializer` holds `args_`, the span of the buffer not consumed yet;
every `unpack` aligns the span's start, reads a value there and drops it from
the span.  `DeserM` is a call on the deserializer: it reads the memory the
buffer lives in, and returns or throws, keeping the deserializer as the throw
left it.

* `InBounds` — a call reads only bytes of the span it starts on and leaves a
  suffix of that span, whether it returns or throws;
* `InBounds.bind`, `InBounds.repeatM` — the property is closed under
  sequencing and counted loops;
* `inBounds_unpackFixed` — `unpack<T>()` for a fixed-size `T` has it;
* `Advances` — the weaker property of a call that may overrun its span: it
  moves the span only forward, and reads within it whenever it ends inside
  it; `Advances.bind` keeps it through a sequence, whose parts all ended
  inside the span if the whole does.

Design notes: `calls` and `iterations` are not members of the source class;
they count the activations of the recursive decoders and the iterations of
the count-prefixed loops, and nothing the deserializer computes reads them.
-/

namespace Legate.Deserializer

/-- Byte-addressed memory holding the argument buffer. -/
abbrev Mem := Nat → UInt8

/-- The little-endian value of the `k` bytes at `p` (`*static_cast<const T*>(ptr)`). -/
def loadLE (mem : Mem) (p : Nat) : Nat → Nat
  | 0 => 0
  | k + 1 => (mem p).toNat + 256 * loadLE mem (p + 1) k

theorem loadLE_congr {mem mem' : Mem} {p : Nat} :
    ∀ {k}, (∀ a, p ≤ a → a < p + k → mem a = mem' a) → loadLE mem p k = loadLE mem' p k
  | 0, _ => rfl
  | k + 1, h => by
    simp only [loadLE, h p le_rfl (by omega),
      loadLE_congr (p := p + 1) (k := k) fun a h1 h2 => h a (by omega) (by omega)]

/-- The `w` little-endian bytes of `n`, as the packer writes a `w`-byte word. -/
def encodeLE (n : Nat) : Nat → List UInt8
  | 0 => []
  | w + 1 => UInt8.ofNat (n % 256) :: encodeLE (n / 256) w

/-- A buffer holding the bytes `l` from address `0`. -/
def Mem.ofBytes (l : List UInt8) : Mem := fun a => l[a]?.getD 0

@[simp] theorem length_encodeLE (n w : Nat) : (encodeLE n w).length = w := by
  induction w generalizing n <;> simp [encodeLE, *]

/-- `mem` holds the bytes `l` from address `p` on. -/
def Mem.Holds (mem : Mem) (p : Nat) (l : List UInt8) : Prop :=
  ∀ i (h : i < l.length), mem (p + i) = l[i]

theorem Mem.holds_append {mem : Mem} {p : Nat} {a b : List UInt8} :
    mem.Holds p (a ++ b) ↔ mem.Holds p a ∧ mem.Holds (p + a.length) b := by
  constructor
  · intro h
    refine ⟨fun i hi => (h i (by simp; omega)).trans (List.getElem_append_left' b hi).symm,
      fun i hi => ?_⟩
    rw [show p + a.length + i = p + (i + a.length) by omega]
    exact (h _ (by simp; omega)).trans (List.getElem_append_right' a hi).symm
  · rintro ⟨ha, hb⟩ i hi
    by_cases hia : i < a.length
    · exact (ha i hia).trans (List.getElem_append_left' b hia)
    · rw [List.getElem_append_right (by omega), show p + i = p + a.length + (i - a.length) by omega]
      exact hb _ _

theorem Mem.holds_ofBytes (l : List UInt8) : (Mem.ofBytes l).Holds 0 l := fun i h => by
  simp [Mem.ofBytes, h]

/-- A word held in memory reads back modulo `256 ^ w`. -/
theorem loadLE_of_holds {mem : Mem} : ∀ {w p n : Nat}, mem.Holds p (encodeLE n w) →
    loadLE mem p w = n % 256 ^ w
  | 0, _, _, _ => by simp [loadLE, Nat.mod_one]
  | w + 1, p, n, h => by
    have h0 : mem p = UInt8.ofNat (n % 256) := h 0 (by simp)
    have h1 : mem.Holds (p + 1) (encodeLE (n / 256) w) := fun i hi => by
      simp only [length_encodeLE] at hi
      simpa [encodeLE, Nat.add_assoc, Nat.add_comm 1] using h (i + 1) (by simpa using hi)
    have hb : (UInt8.ofNat (n % 256)).toNat = n % 256 := Nat.mod_mod _ _
    rw [loadLE, h0, loadLE_of_holds h1, hb, pow_succ', Nat.mod_mul]

/-- A `w`-bit word read as a two's complement integer. -/
def toSigned (w x : Nat) : Int := if x < 2 ^ (w - 1) then x else (x : Int) - 2 ^ w

/-- The 32-bit word of an `int32` value reads back as that value. -/
theorem toSigned_toNat_emod {x : Int} (h1 : -2 ^ 31 ≤ x) (h2 : x < 2 ^ 31) :
    toSigned 32 (x % 2 ^ 32).toNat = x := by
  unfold toSigned
  split_ifs <;> omega

/-- The 64-bit word of an `int64` value reads back as that value. -/
theorem toSigned_toNat_emod64 {x : Int} (h1 : -2 ^ 63 ≤ x) (h2 : x < 2 ^ 63) :
    toSigned 64 (x % 2 ^ 64).toNat = x := by
  unfold toSigned
  split_ifs <;> omega

/-- The eight bytes an `std::int64_t` is packed as. -/
def int64Bytes (e : Int) : List UInt8 := encodeLE (e % 2 ^ 64).toNat 8

@[simp] theorem length_int64Bytes (e : Int) : (int64Bytes e).length = 8 := length_encodeLE _ _

theorem length_flatten_int64Bytes (es : List Int) : (es.map int64Bytes).flatten.length = 8 * es.length := by
  induction es with
  | nil => rfl
  | cons e es ih => simp [int64Bytes, ih]; ring

/-- `Span<const std::int8_t>`: `size` bytes from address `ptr`; the size is a
`std::size_t`. -/
structure Span where
  ptr : Nat
  size : Nat
  size_lt : size < 2 ^ 64

/-- `Span::subspan(off)`: the span `off` bytes further on.  `size_ - off` is
`std::size_t` arithmetic and nothing checks `off ≤ size_`. -/
def Span.subspan (s : Span) (off : Nat) : Span :=
  ⟨s.ptr + off % 2 ^ 64, (s.size + (2 ^ 64 - off % 2 ^ 64)) % 2 ^ 64, Nat.mod_lt _ (by positivity)⟩

/-- `t` is what is left of `s` after dropping a prefix. -/
def Span.IsSuffixOf (t s : Span) : Prop := s.ptr ≤ t.ptr ∧ t.ptr + t.size = s.ptr + s.size

theorem Span.IsSuffixOf.refl (s : Span) : s.IsSuffixOf s := ⟨le_rfl, rfl⟩

theorem Span.IsSuffixOf.trans {r s t : Span} (hrs : r.IsSuffixOf s) (hst : s.IsSuffixOf t) :
    r.IsSuffixOf t :=
  ⟨hst.1.trans hrs.1, hrs.2.trans hst.2⟩

theorem Span.subspan_of_le {s : Span} {off : Nat} (h : off ≤ s.size) :
    (s.subspan off).ptr = s.ptr + off ∧ (s.subspan off).size = s.size - off := by
  have := s.size_lt
  simp only [subspan]
  constructor <;> omega

theorem Span.subspan_isSuffixOf {s : Span} {off : Nat} (h : off ≤ s.size) :
    (s.subspan off).IsSuffixOf s := by
  obtain ⟨h1, h2⟩ := Span.subspan_of_le h
  exact ⟨by omega, by omega⟩

theorem Span.subspan_zero (s : Span) : s.subspan 0 = s := by
  have := s.size_lt
  cases s
  simp only [Span.subspan, Span.mk.injEq]
  omega

theorem Span.subspan_add (s : Span) {a b : Nat} (h : a + b ≤ s.size) :
    (s.subspan a).subspan b = s.subspan (a + b) := by
  have := s.size_lt
  simp only [Span.subspan, Span.mk.injEq]
  omega

/-- The state of a `BaseDeserializer`. -/
structure BaseDeserializer where
  args : Span
  calls : Nat
  iterations : Nat

/-- `BaseDeserializer(args, arglen)`: the whole buffer is left to read. -/
def BaseDeserializer.init (args arglen : Nat) (h : arglen < 2 ^ 64) : BaseDeserializer :=
  ⟨⟨args, arglen, h⟩, 0, 0⟩

/-- A call on a deserializer over the memory `mem`: its outcome, and the
deserializer it leaves, also when it throws. -/
def DeserM (α : Type) : Type := Mem → BaseDeserializer → Except Error α × BaseDeserializer

instance : Monad DeserM where
  pure a _ d := (.ok a, d)
  bind x f mem d :=
    match (x mem d).1 with
    | .ok a => f a mem (x mem d).2
    | .error e => (.error e, (x mem d).2)

theorem pure_apply {α : Type} (a : α) (mem : Mem) (d : BaseDeserializer) :
    (pure a : DeserM α) mem d = (.ok a, d) := rfl

theorem bind_apply {α β : Type} (x : DeserM α) (f : α → DeserM β) (mem : Mem)
    (d : BaseDeserializer) :
    (x >>= f) mem d =
      match (x mem d).1 with
      | .ok a => f a mem (x mem d).2
      | .error e => (.error e, (x mem d).2) := rfl

theorem bind_ok {α β : Type} {x : DeserM α} {f : α → DeserM β} {mem : Mem} {d : BaseDeserializer}
    {a : α} (h : (x mem d).1 = .ok a) : (x >>= f) mem d = f a mem (x mem d).2 := by
  rw [bind_apply, h]

theorem bind_error {α β : Type} {x : DeserM α} {f : α → DeserM β} {mem : Mem}
    {d : BaseDeserializer} {e : Error} (h : (x mem d).1 = .error e) :
    (x >>= f) mem d = (.error e, (x mem d).2) := by
  rw [bind_apply, h]

/-- A sequence that returns ran both of its parts to a return. -/
theorem bind_eq_ok {α β : Type} {x : DeserM α} {f : α → DeserM β} {mem : Mem}
    {d : BaseDeserializer} {b : β} (h : ((x >>= f) mem d).1 = .ok b) :
    ∃ a, (x mem d).1 = .ok a ∧ (f a mem (x mem d).2).1 = .ok b := by
  rw [bind_apply] at h
  split at h
  · exact ⟨_, ‹_›, h⟩
  · cases h

namespace DeserM

/-- Throw or abort. -/
def fail {α : Type} (e : Error) : DeserM α := fun _ d => (.error e, d)

/-- The outcome of a computation that does not touch the deserializer. -/
def lift {α : Type} (x : Except Error α) : DeserM α := fun _ d => (x, d)

/-- `args_`. -/
def getArgs : DeserM Span := fun _ d => (.ok d.args, d)

/-- `args_ = s`. -/
def setArgs (s : Span) : DeserM Unit := fun _ d => (.ok (), { d with args := s })

/-- Count one activation of a recursive decoder. -/
def enter : DeserM Unit := fun _ d => (.ok (), { d with calls := d.calls + 1 })

/-- Count one iteration of a count-prefixed loop. -/
def tick : DeserM Unit := fun _ d => (.ok (), { d with iterations := d.iterations + 1 })

/-- The memory the buffer lives in. -/
def memory : DeserM Mem := fun mem d => (.ok mem, d)

end DeserM

open DeserM

/-- `for (idx = 0; idx < count; ++idx)` collecting the values of `x`. -/
def repeatM {α : Type} (x : DeserM α) : Nat → DeserM (List α)
  | 0 => pure []
  | k + 1 => do
    let a ← x
    let as ← repeatM x k
    pure (a :: as)

/-- `unpack<T>()` for a fixed-size `T` of `size` bytes aligned to `align`
(`unpack_impl(T&)`). -/
def unpackFixed (size align : Nat) : DeserM Nat := do
  let args ← getArgs
  let (ptr, alignOffset) ← lift (alignForUnpack args.ptr args.size size align)
  setArgs (args.subspan (alignOffset + size))
  let mem ← memory
  pure (loadLE mem ptr size)

/-- `unpack<std::uint32_t>()` -/
def unpackU32 : DeserM Nat := unpackFixed 4 4

/-- `unpack<std::int32_t>()` -/
def unpackI32 : DeserM Int := toSigned 32 <$> unpackFixed 4 4

/-- `unpack<std::uint64_t>()` -/
def unpackU64 : DeserM Nat := unpackFixed 8 8

/-- `unpack<std::int64_t>()` -/
def unpackI64 : DeserM Int := toSigned 64 <$> unpackFixed 8 8

/-- `unpack<bool>()` -/
def unpackBool : DeserM Bool := (· ≠ 0) <$> unpackFixed 1 1

/-- `unpack_impl(std::vector<T>&)`: a `std::uint32_t` count, then that many
values. -/
def unpackVector {α : Type} (x : DeserM α) : DeserM (List α) := do
  let size ← unpackU32
  repeatM (do tick; x) size

/-- The memories `mem` and `mem'` agree on the bytes of `s`. -/
def AgreeOn (mem mem' : Mem) (s : Span) : Prop :=
  ∀ a, s.ptr ≤ a → a < s.ptr + s.size → mem a = mem' a

theorem AgreeOn.mono {mem mem' : Mem} {s t : Span} (h : AgreeOn mem mem' s) (hts : t.IsSuffixOf s) :
    AgreeOn mem mem' t :=
  fun a h1 h2 => h a (by have := hts.1; omega) (by have := hts.2; omega)

/-- A call that reads only the bytes of the span it starts on and leaves a
suffix of it, whether it returns or throws. -/
structure InBounds {α : Type} (x : DeserM α) : Prop where
  suffix : ∀ mem d, (x mem d).2.args.IsSuffixOf d.args
  readsWithin : ∀ mem mem' d, AgreeOn mem mem' d.args → x mem d = x mem' d

namespace InBounds

variable {α β : Type}

theorem pure (a : α) : InBounds (Pure.pure a : DeserM α) :=
  ⟨fun _ d => .refl d.args, fun _ _ _ _ => rfl⟩

theorem fail (e : Error) : InBounds (DeserM.fail e : DeserM α) :=
  ⟨fun _ d => .refl d.args, fun _ _ _ _ => rfl⟩

theorem lift (x : Except Error α) : InBounds (DeserM.lift x) :=
  ⟨fun _ d => .refl d.args, fun _ _ _ _ => rfl⟩

theorem enter : InBounds DeserM.enter := ⟨fun _ d => .refl d.args, fun _ _ _ _ => rfl⟩

theorem tick : InBounds DeserM.tick := ⟨fun _ d => .refl d.args, fun _ _ _ _ => rfl⟩

theorem bind {x : DeserM α} {f : α → DeserM β} (hx : InBounds x) (hf : ∀ a, InBounds (f a)) :
    InBounds (x >>= f) where
  suffix mem d := by
    rw [bind_apply]
    cases h : (x mem d).1 with
    | error e => exact hx.suffix mem d
    | ok a => exact ((hf a).suffix mem _).trans (hx.suffix mem d)
  readsWithin mem mem' d hagree := by
    rw [bind_apply, bind_apply, hx.readsWithin mem mem' d hagree]
    cases (x mem' d).1 with
    | error e => rfl
    | ok a =>
      exact (hf a).readsWithin mem mem' _
        (hagree.mono (hx.readsWithin mem mem' d hagree ▸ hx.suffix mem d))

theorem map {x : DeserM α} (hx : InBounds x) (g : α → β) : InBounds (g <$> x) :=
  hx.bind fun a => pure (g a)

theorem repeatM {x : DeserM α} (hx : InBounds x) : ∀ k, InBounds (Deserializer.repeatM x k)
  | 0 => pure []
  | k + 1 => hx.bind fun a => (repeatM hx k).bind fun as => pure (a :: as)

end InBounds

/-- A call that moves the span's start and end only forward, and reads only
bytes of its span whenever it ends inside that span.  A call that overruns
the span's end never comes back inside it, so a sequence that ends inside
the span ended each of its parts inside it. -/
structure Advances {α : Type} (x : DeserM α) : Prop where
  ptr_le : ∀ mem d, d.args.ptr ≤ (x mem d).2.args.ptr
  end_le : ∀ mem d, d.args.ptr + d.args.size ≤ (x mem d).2.args.ptr + (x mem d).2.args.size
  readsWithin : ∀ mem mem' d, AgreeOn mem mem' d.args → (x mem d).2.args.IsSuffixOf d.args →
    x mem d = x mem' d

namespace Advances

variable {α β : Type}

theorem of_inBounds {x : DeserM α} (hx : InBounds x) : Advances x where
  ptr_le mem d := (hx.suffix mem d).1
  end_le mem d := (hx.suffix mem d).2.ge
  readsWithin mem mem' d h _ := hx.readsWithin mem mem' d h

/-- Between two calls that advance, the span in between is a suffix of the
first span whenever the last one is. -/
theorem isSuffixOf_of_between {r s t : Span} (hrs : r.ptr ≤ s.ptr)
    (hrs' : r.ptr + r.size ≤ s.ptr + s.size) (hst' : s.ptr + s.size ≤ t.ptr + t.size)
    (hrt : t.IsSuffixOf r) : s.IsSuffixOf r :=
  ⟨hrs, by have := hrt.2; omega⟩

theorem bind {x : DeserM α} {f : α → DeserM β} (hx : Advances x) (hf : ∀ a, Advances (f a)) :
    Advances (x >>= f) where
  ptr_le mem d := by
    rw [bind_apply]
    cases (x mem d).1 with
    | error e => exact hx.ptr_le mem d
    | ok a => exact (hx.ptr_le mem d).trans ((hf a).ptr_le mem _)
  end_le mem d := by
    rw [bind_apply]
    cases (x mem d).1 with
    | error e => exact hx.end_le mem d
    | ok a => exact (hx.end_le mem d).trans ((hf a).end_le mem _)
  readsWithin mem mem' d hagree hsuf := by
    rw [bind_apply] at hsuf
    rw [bind_apply, bind_apply]
    cases hres : (x mem d).1 with
    | error e =>
      simp only [hres] at hsuf
      rw [← hx.readsWithin mem mem' d hagree hsuf, hres]
    | ok a =>
      simp only [hres] at hsuf
      have hmid : (x mem d).2.args.IsSuffixOf d.args :=
        isSuffixOf_of_between (hx.ptr_le mem d) (hx.end_le mem d) ((hf a).end_le mem _) hsuf
      have hsame := hx.readsWithin mem mem' d hagree hmid
      rw [← hsame, hres]
      exact (hf a).readsWithin mem mem' _ (hagree.mono hmid) ⟨(hf a).ptr_le mem _,
        by have := hsuf.2; have := hmid.2; omega⟩

theorem repeatM {x : DeserM α} (hx : Advances x) : ∀ k, Advances (Deserializer.repeatM x k)
  | 0 => of_inBounds (InBounds.pure [])
  | k + 1 => hx.bind fun _ => (repeatM hx k).bind fun _ => of_inBounds (InBounds.pure _)

end Advances

section Fixed

variable {size align : Nat} (ha : IsAlignment align) (hs : size < 2 ^ 64)
include ha hs

/-- `unpack<T>()` either throws, leaving the deserializer as it was, or reads
the `size` bytes after the padding and drops the padding and the value. -/
theorem unpackFixed_apply (mem : Mem) (d : BaseDeserializer) :
    unpackFixed size align mem d =
      if size + align - 1 < 2 ^ 64 ∧ alignPad d.args.ptr align + size ≤ d.args.size then
        (.ok (loadLE mem (d.args.ptr + alignPad d.args.ptr align) size),
          { d with args := d.args.subspan (alignPad d.args.ptr align + size) })
      else (.error (.alignFailed d.args.ptr size align d.args.size), d) := by
  simp only [unpackFixed, bind_apply, getArgs, lift, alignForUnpack_apply ha hs]
  split_ifs <;> rfl

/-- A read at an aligned address with room for the value. -/
theorem unpackFixed_aligned {mem : Mem} {d : BaseDeserializer} (hw : size + align - 1 < 2 ^ 64)
    (hal : alignPad d.args.ptr align = 0) (hfit : size ≤ d.args.size) :
    unpackFixed size align mem d =
      (.ok (loadLE mem d.args.ptr size), { d with args := d.args.subspan size }) := by
  rw [unpackFixed_apply ha hs, if_pos ⟨hw, by omega⟩, hal, Nat.add_zero, Nat.zero_add]

/-- The value a returning read gives is the word after the padding. -/
theorem unpackFixed_ok {mem : Mem} {d : BaseDeserializer} {v : Nat}
    (h : (unpackFixed size align mem d).1 = .ok v) :
    v = loadLE mem (d.args.ptr + alignPad d.args.ptr align) size := by
  rw [unpackFixed_apply ha hs] at h
  split_ifs at h
  exact (Except.ok.inj h).symm

theorem inBounds_unpackFixed : InBounds (unpackFixed size align) where
  suffix mem d := by
    rw [unpackFixed_apply ha hs]
    split_ifs with h
    · exact Span.subspan_isSuffixOf h.2
    · exact .refl _
  readsWithin mem mem' d hagree := by
    rw [unpackFixed_apply ha hs, unpackFixed_apply ha hs]
    split_ifs with h
    · rw [loadLE_congr fun a h1 h2 => hagree a (by omega) (by omega)]
    · rfl

end Fixed

theorem inBounds_unpackU32 : InBounds unpackU32 := inBounds_unpackFixed (by decide) (by decide)

theorem inBounds_unpackI32 : InBounds unpackI32 :=
  (inBounds_unpackFixed (by decide) (by decide)).map _

theorem inBounds_unpackU64 : InBounds unpackU64 := inBounds_unpackFixed (by decide) (by decide)

theorem inBounds_unpackI64 : InBounds unpackI64 :=
  (inBounds_unpackFixed (by decide) (by decide)).map _

theorem inBounds_unpackBool : InBounds unpackBool :=
  (inBounds_unpackFixed (by decide) (by decide)).map _

theorem inBounds_unpackVector {α : Type} {x : DeserM α} (hx : InBounds x) :
    InBounds (unpackVector x) :=
  inBounds_unpackU32.bind fun _ => (InBounds.tick.bind fun _ => hx).repeatM _

/-- `unpack<std::int64_t>()` reads back a value held after the padding. -/
theorem unpackI64_of_holds {mem : Mem} {d : BaseDeserializer} {e : Int}
    (he : -2 ^ 63 ≤ e ∧ e < 2 ^ 63) (hfit : alignPad d.args.ptr 8 + 8 ≤ d.args.size)
    (hmem : mem.Holds (d.args.ptr + alignPad d.args.ptr 8) (int64Bytes e)) :
    unpackI64 mem d = (.ok e, { d with args := d.args.subspan (alignPad d.args.ptr 8 + 8) }) := by
  have hl : loadLE mem (d.args.ptr + alignPad d.args.ptr 8) 8 = (e % 2 ^ 64).toNat := by
    rw [loadLE_of_holds hmem]; omega
  rw [show unpackI64 = unpackFixed 8 8 >>= fun a => pure (toSigned 64 a) from rfl, bind_apply,
    unpackFixed_apply (by decide) (by decide), if_pos ⟨by decide, hfit⟩]
  simp only [hl, toSigned_toNat_emod64 he.1 he.2]
  rfl

end Legate.Deserializer
