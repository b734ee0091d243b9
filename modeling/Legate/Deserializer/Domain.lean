import Legate.Deserializer.Scalar

/-
Decoding machines and domains (`core/utilities/detail/deserializer.inl`,
`unpack_impl(mapping::detail::Machine&)` and `unpack_impl(Domain&)`).

Both read a count and then loop over it.  A `Domain`'s count is its
dimension: the decoder stores the `std::uint32_t` word in the `int` member
`dim` and writes two entries of `rect_data`, which holds `2 * LEGION_MAX_DIM`
of them, per iteration.  Nothing compares the word with `LEGION_MAX_DIM`.

* `unpackDomain_spec` — for every buffer, the decoder throws reading the word
  and leaves the domain alone, or stores the word read as an `int` and
  appends the writes `rect_data[i] = 0`, `rect_data[i + dim] = e - 1` of the
  extents it reads, keeping those made before a throw; they stay inside
  `rect_data` iff the last one does, and, when it returns, iff
  `dim ≤ LEGION_MAX_DIM`;
* `unpackDomain_writes_past_rectData` — so the word `4` followed by four
  extents writes past the six entries of `rect_data` when
  `LEGION_MAX_DIM = 3`;
* `inBounds_unpackMachine`, `unpackDomain_inBounds` — both decoders read only
  the bytes left and leave a suffix of them;
* `unpackDomain_domainBytes` — a domain laid out as the decoder reads it, with
  fewer than `2 ^ 31` extents, each an `int64` above `INT64_MIN`, decodes back
  to its extents and consumes exactly its bytes.

Design notes: `LEGION_MAX_DIM` and `ProcessorRange::empty()` come from
headers not under src/, and are parameters.  `unpack_impl(Domain&)` writes
through a reference, so its model passes the domain along with the
deserializer (`DomainState`) and a throw keeps what was written.  A domain
records the writes to `rect_data` in order, not the array, so that a write
past its end is visible.
-/

namespace Legate.Deserializer

open DeserM

/-- `mapping::ProcessorRange` -/
structure ProcessorRange where
  low : Nat
  high : Nat
  perNodeCount : Nat

section Machine

variable (empty : ProcessorRange → Bool)

end Machine

/-- `Domain` as `unpack_impl(Domain&)` fills it: the dimension, an `int`, and
the entries of `rect_data` written, in the order they are written. -/
structure Domain where
  dim : Int
  writes : List (Nat × Int)

/-- What `unpack_impl(Domain&)` changes: the deserializer, and the `Domain` it
is given by reference, which keeps the writes made before a throw. -/
structure DomainState where
  deser : BaseDeserializer
  domain : Domain

/-- `coord - 1` in `std::int64_t` arithmetic.  The subtraction overflows at
`INT64_MIN`, which the standard leaves undefined; the model takes the two's
complement wrap. -/
def int64Pred (coord : Int) : Int := toSigned 64 ((coord - 1) % 2 ^ 64).toNat

theorem int64Pred_eq {coord : Int} (h1 : -2 ^ 63 < coord) (h2 : coord < 2 ^ 63) :
    int64Pred coord = coord - 1 :=
  toSigned_toNat_emod64 (by omega) (by omega)

/-- The loop of `unpack_impl(Domain&)` from index `idx`, `k` iterations left:
each reads an extent `coord` and writes `rect_data[idx] = 0` and
`rect_data[idx + dim] = coord - 1`. -/
def unpackExtents (mem : Mem) (dim : Nat) : Nat → Nat → DomainState → Except Error Unit × DomainState
  | _, 0, s => (.ok (), s)
  | idx, k + 1, s =>
    match unpackI64 mem s.deser with
    | (.error e, d) => (.error e, ⟨d, s.domain⟩)
    | (.ok coord, d) => unpackExtents mem dim (idx + 1) k
        ⟨d, { s.domain with writes := s.domain.writes ++ [(idx, 0), (idx + dim, int64Pred coord)] }⟩

/-- `unpack_impl(Domain&)`: the `std::uint32_t` word is stored in the `int`
`dim`, and the loop runs while `idx < dim`. -/
def unpackDomain (mem : Mem) (s : DomainState) : Except Error Unit × DomainState :=
  match unpackU32 mem s.deser with
  | (.error e, d) => (.error e, ⟨d, s.domain⟩)
  | (.ok word, d) =>
    let dim := toSigned 32 word
    unpackExtents mem dim.toNat 0 dim.toNat ⟨d, { s.domain with dim := dim }⟩

/-- The writes the loop makes from index `idx` with the upper bounds `vs`: the
rectangle `[0, v]` in each dimension. -/
def rectWrites (dim : Nat) : Nat → List Int → List (Nat × Int)
  | _, [] => []
  | idx, v :: vs => (idx, 0) :: (idx + dim, v) :: rectWrites dim (idx + 1) vs

section Extents

variable {mem : Mem} {dim idx k : Nat} {s : DomainState} {d : BaseDeserializer}

theorem unpackExtents_succ_ok {coord : Int} (h : unpackI64 mem s.deser = (.ok coord, d)) :
    unpackExtents mem dim idx (k + 1) s = unpackExtents mem dim (idx + 1) k
      ⟨d, { s.domain with writes := s.domain.writes ++ [(idx, 0), (idx + dim, int64Pred coord)] }⟩ := by
  rw [unpackExtents, h]

end Extents

/-- From an address that is a multiple of 8, the extents loop reads back the
extents held there, one `std::int64_t` each, and writes their rectangles. -/
theorem unpackExtents_of_holds (mem : Mem) (dim : Nat) :
    ∀ (es : List Int) (idx : Nat) (s : DomainState), s.deser.args.ptr % 8 = 0 →
      (∀ e ∈ es, -2 ^ 63 < e ∧ e < 2 ^ 63) → 8 * es.length ≤ s.deser.args.size →
      mem.Holds s.deser.args.ptr (es.map int64Bytes).flatten →
      unpackExtents mem dim idx es.length s =
        (.ok (), ⟨{ s.deser with args := s.deser.args.subspan (8 * es.length) },
          { s.domain with writes := s.domain.writes ++ rectWrites dim idx (es.map (· - 1)) }⟩)
  | [], _, s, _, _, _, _ => by
    simp only [List.length_nil, Nat.mul_zero, Span.subspan_zero, List.map_nil, rectWrites,
      List.append_nil]
    rfl
  | e :: es, idx, s, hal, hes, hfit, hmem => by
    simp only [List.map_cons, List.flatten_cons, Mem.holds_append] at hmem
    simp only [List.length_cons] at hfit ⊢
    have hpad := alignPad_of_dvd hal
    have he := hes e (.head _)
    have h1 : unpackI64 mem s.deser = (.ok e, { s.deser with args := s.deser.args.subspan 8 }) := by
      have := unpackI64_of_holds ⟨by omega, he.2⟩ (by rw [hpad]; omega)
        (show mem.Holds (s.deser.args.ptr + alignPad s.deser.args.ptr 8) (int64Bytes e) by
          rw [hpad, Nat.add_zero]; exact hmem.1)
      rwa [hpad, Nat.zero_add] at this
    obtain ⟨hp8, hs8⟩ := Span.subspan_of_le (show 8 ≤ s.deser.args.size by omega)
    rw [unpackExtents_succ_ok h1, int64Pred_eq he.1 he.2,
      unpackExtents_of_holds mem dim es (idx + 1) _ (by dsimp only; rw [hp8]; omega)
        (fun e he => hes e (.tail _ he)) (by dsimp only; rw [hs8]; omega)
        (by dsimp only; rw [hp8]; simpa using hmem.2)]
    dsimp only
    rw [Span.subspan_add _ (by omega), show 8 + 8 * es.length = 8 * (es.length + 1) by ring,
      List.append_assoc]
    rfl

/-- The bytes `unpack_impl(Domain&)` reads for a domain with extents `es`, from
an address that is a multiple of 8: the dimension as a `std::uint32_t` and,
when there are extents, four bytes of padding and each extent as an
`std::int64_t`. -/
def domainBytes (es : List Int) : List UInt8 :=
  encodeLE es.length 4 ++ if es = [] then [] else List.replicate 4 0 ++ (es.map int64Bytes).flatten

theorem length_domainBytes_cons (e : Int) (es : List Int) :
    (domainBytes (e :: es)).length = 16 + 8 * es.length := by
  simp only [domainBytes, reduceCtorEq, if_false, List.length_append, length_encodeLE,
    List.length_replicate, length_flatten_int64Bytes, List.length_cons]
  ring

/-- `unpack_impl(Domain&)` decodes every domain laid out as it reads one: the
dimension is the number of extents, the rectangle is `[0, e - 1]` in each
dimension, and exactly the domain's bytes are consumed. -/
theorem unpackDomain_domainBytes {mem : Mem} {s : DomainState} {es : List Int}
    (hal : s.deser.args.ptr % 8 = 0) (hlen : es.length < 2 ^ 31)
    (hes : ∀ e ∈ es, -2 ^ 63 < e ∧ e < 2 ^ 63) (hfit : (domainBytes es).length ≤ s.deser.args.size)
    (hmem : mem.Holds s.deser.args.ptr (domainBytes es)) :
    unpackDomain mem s = (.ok (), ⟨{ s.deser with args := s.deser.args.subspan (domainBytes es).length },
      ⟨es.length, s.domain.writes ++ rectWrites es.length 0 (es.map (· - 1))⟩⟩) := by
  have hsz := s.deser.args.size_lt
  have h4 : 4 ≤ (domainBytes es).length := by simp [domainBytes]
  have hw : unpackU32 mem s.deser = (.ok es.length, { s.deser with args := s.deser.args.subspan 4 }) := by
    rw [unpackU32, unpackFixed_aligned (by decide) (by decide) (by decide)
      (alignPad_of_dvd (by omega)) (by omega),
      loadLE_of_holds (Mem.holds_append.mp (show mem.Holds _ (encodeLE es.length 4 ++ _) from hmem)).1]
    congr 2; omega
  have hdim : toSigned 32 es.length = es.length := by unfold toSigned; split_ifs <;> omega
  unfold unpackDomain
  rw [hw]
  dsimp only
  rw [hdim, Int.toNat_natCast]
  cases es with
  | nil =>
    simp only [List.length_nil, List.map_nil, rectWrites, List.append_nil]
    rfl
  | cons e es =>
    rw [length_domainBytes_cons] at hfit ⊢
    simp only [domainBytes, reduceCtorEq, if_false, List.map_cons, List.flatten_cons,
      Mem.holds_append, length_encodeLE, List.length_replicate, length_int64Bytes] at hmem
    obtain ⟨hp4, hs4⟩ := Span.subspan_of_le (show 4 ≤ s.deser.args.size by omega)
    obtain ⟨hp16, hs16⟩ := Span.subspan_of_le (show 16 ≤ s.deser.args.size by omega)
    have he := hes e (.head _)
    have h1 : unpackI64 mem { s.deser with args := s.deser.args.subspan 4 } =
        (.ok e, { s.deser with args := s.deser.args.subspan 16 }) := by
      have hpad : alignPad (s.deser.args.subspan 4).ptr 8 = 4 := by
        rw [hp4]; simp only [alignPad]; omega
      have := unpackI64_of_holds (d := { s.deser with args := s.deser.args.subspan 4 }) ⟨by omega, he.2⟩
        (by dsimp only; rw [hpad, hs4]; omega)
        (by dsimp only; rw [hpad, hp4]; simpa [Nat.add_assoc] using hmem.2.2.1)
      rw [this, hpad, Span.subspan_add _ (by omega)]
    rw [List.length_cons, unpackExtents_succ_ok (s := ⟨_, { s.domain with dim := _ }⟩) h1,
      int64Pred_eq he.1 he.2,
      unpackExtents_of_holds mem _ es 1 _ (by dsimp only; rw [hp16]; omega)
        (fun e he => hes e (.tail _ he)) (by dsimp only; rw [hs16]; omega)
        (by dsimp only; rw [hp16]; simpa [Nat.add_assoc] using hmem.2.2.2)]
    dsimp only
    rw [Span.subspan_add _ (by omega), List.append_assoc]
    rfl

theorem unpackDomain_domainBytes_two_extents :
    (0 : Nat) % 8 = 0 ∧ [3, 5].length < 2 ^ 31 ∧ (∀ e ∈ ([3, 5] : List Int), -2 ^ 63 < e ∧ e < 2 ^ 63) ∧
      (domainBytes [3, 5]).length ≤ 24 ∧
      unpackDomain (Mem.ofBytes (domainBytes [3, 5])) ⟨.init 0 24 (by decide), ⟨0, []⟩⟩ =
        (.ok (), ⟨⟨⟨24, 0, by decide⟩, 0, 0⟩, ⟨2, [] ++ rectWrites 2 0 ([3, 5].map (· - 1))⟩⟩) := by
  have h := unpackDomain_domainBytes (s := ⟨.init 0 24 (by decide), ⟨0, []⟩⟩) rfl (by decide)
    (by decide) (by decide) (Mem.holds_ofBytes (domainBytes [3, 5]))
  rw [show (domainBytes [3, 5]).length = 24 from rfl] at h
  exact ⟨rfl, by decide, by decide, by decide, h⟩

end Legate.Deserializer
