import Mathlib.Tactic.Ring

/-
Printing a dense array (`core/utilities/debug.inl`, `print_dense_array`).

`print_dense_array` walks the points of a rectangle with an odometer: the
`do`-`while` loop advances the last dimension that can still move, resets
the dimensions after it, and prints the brackets and separators on the way.
Dimensions of stride `0` are skipped.

* `printDenseArray_eq_render` — given enough fuel the odometer prints
  `render`, the nested rendering of the active dimensions, each extent taken
  to be at least `1`, the element of each point read at its offset;
* `reads_render` — that rendering reads the points in row-major order, each
  once, at the sum of its coordinates times the strides, modulo `2 ^ 64`;
* `printDenseArray_empty_rect` — an empty rectangle still reads `base[0]`.

Design notes: the output is a list of tokens, the elements by their offsets,
so that what is read and where stands in the output.  Offsets are `coord_t`
values computed with `std::size_t` strides, so they wrap modulo `2 ^ 64`.
The copy from device memory is left out.
-/

namespace Legate.Utilities

/-- What `print_dense_array` writes: a bracket, a separator, or the element at
an offset from `base`. -/
inductive Token
  | open
  | close
  | sep
  | elem (offset : Int)
  deriving DecidableEq, Repr

/-- `coord_t` after `std::size_t` arithmetic: the value modulo `2 ^ 64`, read as
two's complement. -/
def wrap64 (x : Int) : Int := (x + 2 ^ 63) % 2 ^ 64 - 2 ^ 63

@[simp] theorem wrap64_wrap64_add (x y : Int) : wrap64 (wrap64 x + y) = wrap64 (x + y) := by
  unfold wrap64; omega

theorem wrap64_idem (x : Int) : wrap64 (wrap64 x) = wrap64 x := by
  simpa using wrap64_wrap64_add x 0

/-- The odometer: `point` and `offset`. -/
structure Odometer where
  point : Nat → Int
  offset : Int

section

variable (n : Nat) (extents : Nat → Int) (strides : Nat → Nat)

/-- A `[` for each dimension of `ds` of nonzero stride. -/
def opensOf (ds : List Nat) : List Token := (ds.filter (strides · ≠ 0)).map fun _ => .open

/-- The `[` printed for each dimension of nonzero stride from `lo` up to `n - 1`. -/
def opens (lo : Nat) : List Token := opensOf strides (List.range' lo (n - lo))

/-- The `for (dim = DIM - 1; dim >= 0; --dim)` loop over the dimensions below
`k`: the odometer after it, what it printed, and whether it stopped at a
dimension that could advance (`dim >= 0` after it). -/
def advance : Nat → Odometer → Odometer × List Token × Bool
  | 0, s => (s, [], false)
  | k + 1, s =>
    if strides k = 0 then advance k s
    else if s.point k + 1 < extents k then
      let offset := wrap64 (s.offset + strides k)
      (⟨Function.update s.point k (s.point k + 1), offset⟩, .sep :: opens n strides (k + 1) ++ [.elem offset],
        true)
    else
      let r := advance k ⟨Function.update s.point k 0, wrap64 (s.offset - s.point k * strides k)⟩
      (r.1, .close :: r.2.1, r.2.2)

/-- The `do`-`while` loop, for at most `fuel` passes. -/
def loop : Nat → Odometer → Option (List Token)
  | 0, _ => none
  | fuel + 1, s =>
    let r := advance n extents strides n s
    if r.2.2 then (loop fuel r.1).map (r.2.1 ++ ·) else some r.2.1

/-- `print_dense_array(base, extents, strides)`, with `fuel` passes of its loop. -/
def printDenseArray (fuel : Nat) : Option (List Token) :=
  (loop n extents strides fuel ⟨fun _ => 0, 0⟩).map fun rest => opens n strides 0 ++ .elem 0 :: rest

/-- The extent dimension `d` is walked with: at least one point. -/
def radix (d : Nat) : Nat := (max (extents d) 1).toNat

/-- The nested rendering of the dimensions `ds` from the offset `o`: a
bracketed, comma-separated list per dimension of nonzero stride. -/
def render : List Nat → Int → List Token
  | [], o => [.elem o]
  | d :: ds, o =>
    if strides d = 0 then render ds o
    else .open :: [Token.sep].intercalate ((List.range (radix extents d)).map fun i : Nat =>
      render ds (wrap64 (o + i * strides d))) ++ [.close]

/-- `print_dense_array(accessor, rect)`: the extents are `rect.hi - rect.lo + 1`;
the strides are the accessor's. -/
def printDenseArrayRect (lo hi : Nat → Int) (fuel : Nat) : Option (List Token) :=
  printDenseArray n (fun d => wrap64 (hi d - lo d + 1)) strides fuel

/-- The offsets of the elements the tokens read, in order. -/
def reads (toks : List Token) : List Int := toks.filterMap fun
  | .elem o => some o
  | _ => none

/-- The points of the dimensions `ds` of nonzero stride, in row-major order,
each the list of its dimensions paired with its coordinates. -/
def points : List Nat → List (List (Nat × Nat))
  | [] => [[]]
  | d :: ds =>
    if strides d = 0 then points ds
    else (List.range (radix extents d)).flatMap fun i => (points ds).map ((d, i) :: ·)

/-- The offset of a point: its coordinates times the strides. -/
def pointOffset (p : List (Nat × Nat)) : Int := (p.map fun c => (c.2 : Int) * strides c.1).sum

/-- The number of points of the dimensions `ds`. -/
def count : List Nat → Nat
  | [] => 1
  | d :: ds => (if strides d = 0 then 1 else radix extents d) * count ds

/-- The passes left once the dimensions from `d` on have run through: the
pass that reached dimension `d - 1` goes on there. -/
def cont (d fuel : Nat) (s : Odometer) : Option (List Token) :=
  let r := advance n extents strides d s
  if r.2.2 then (loop n extents strides fuel r.1).map (r.2.1 ++ ·) else some r.2.1

@[simp] theorem opensOf_nil : opensOf strides [] = [] := rfl

theorem opensOf_cons (d : Nat) (ds : List Nat) :
    opensOf strides (d :: ds) = (if strides d = 0 then [] else [.open]) ++ opensOf strides ds := by
  unfold opensOf; split_ifs with h <;> simp [List.filter_cons, h]

theorem loop_succ (fuel : Nat) (s : Odometer) :
    loop n extents strides (fuel + 1) s = cont n extents strides n fuel s := rfl

/-- A dimension of stride `0` is passed over. -/
theorem advance_skip {d : Nat} (h : strides d = 0) (s : Odometer) :
    advance n extents strides (d + 1) s = advance n extents strides d s := by
  rw [advance, if_pos h]

/-- The dimension `d` advances when it can. -/
theorem advance_step {d : Nat} (h : strides d ≠ 0) {s : Odometer}
    (hlt : s.point d + 1 < extents d) :
    advance n extents strides (d + 1) s =
      (⟨Function.update s.point d (s.point d + 1), wrap64 (s.offset + strides d)⟩,
        .sep :: opens n strides (d + 1) ++ [.elem (wrap64 (s.offset + strides d))], true) := by
  rw [advance, if_neg h, if_pos hlt]

/-- Otherwise it is reset, closes its bracket, and the pass goes on below. -/
theorem advance_carry {d : Nat} (h : strides d ≠ 0) {s : Odometer}
    (hge : ¬s.point d + 1 < extents d) :
    advance n extents strides (d + 1) s =
      ((advance n extents strides d
          ⟨Function.update s.point d 0, wrap64 (s.offset - s.point d * strides d)⟩).1,
        .close :: (advance n extents strides d
          ⟨Function.update s.point d 0, wrap64 (s.offset - s.point d * strides d)⟩).2.1,
        (advance n extents strides d
          ⟨Function.update s.point d 0, wrap64 (s.offset - s.point d * strides d)⟩).2.2) := by
  rw [advance, if_neg h, if_neg hge]

theorem cont_step {d : Nat} (h : strides d ≠ 0) {s : Odometer} (hlt : s.point d + 1 < extents d)
    (fuel : Nat) :
    cont n extents strides (d + 1) fuel s =
      (loop n extents strides fuel
          ⟨Function.update s.point d (s.point d + 1), wrap64 (s.offset + strides d)⟩).map
        ((.sep :: opens n strides (d + 1) ++ [.elem (wrap64 (s.offset + strides d))]) ++ ·) := by
  rw [cont, advance_step n extents strides h hlt]
  rfl

theorem cont_carry {d : Nat} (h : strides d ≠ 0) {s : Odometer} (hge : ¬s.point d + 1 < extents d)
    (fuel : Nat) :
    cont n extents strides (d + 1) fuel s =
      (cont n extents strides d fuel
          ⟨Function.update s.point d 0, wrap64 (s.offset - s.point d * strides d)⟩).map (.close :: ·) := by
  rw [cont, cont, advance_carry n extents strides h hge]
  split_ifs <;> simp [Function.comp_def]

/-- Run from a point that is zero on the dimensions `ds`, those from `d` on,
the loop prints their rendering and then goes on as the pass that reached
dimension `d - 1`. -/
def BlockRuns (d : Nat) (ds : List Nat) : Prop :=
  ∀ fuel (s : Odometer), (∀ j, d ≤ j → j < n → s.point j = 0) → wrap64 s.offset = s.offset →
    (loop n extents strides (fuel + count extents strides ds) s).map
        (opensOf strides ds ++ .elem s.offset :: ·) =
      (cont n extents strides d fuel s).map (render extents strides ds s.offset ++ ·)

theorem blockRuns_nil : BlockRuns n extents strides n [] := fun fuel s _ _ => by
  simp [count, render, loop_succ]

theorem blockRuns_skip {d : Nat} {ds : List Nat} (hs : strides d = 0)
    (h : BlockRuns n extents strides (d + 1) ds) : BlockRuns n extents strides d (d :: ds) :=
  fun fuel s hz ho => by
    have := h fuel s (fun j h1 h2 => hz j (by omega) h2) ho
    rw [cont, advance_skip n extents strides hs] at this
    simpa [count, render, opensOf_cons, hs] using this

theorem intercalate_cons_cons {α : Type} (x : α) (a b : List α) (l : List (List α)) :
    [x].intercalate (a :: b :: l) = a ++ x :: [x].intercalate (b :: l) := rfl

/-- The odometer at coordinate `i` of dimension `d`, from `s`. -/
def Odometer.at (s : Odometer) (d i step : Nat) : Odometer :=
  ⟨Function.update s.point d i, wrap64 (s.offset + i * step)⟩

@[simp] theorem Odometer.at_offset (s : Odometer) (d i step : Nat) :
    (s.at d i step).offset = wrap64 (s.offset + i * step) := rfl

@[simp] theorem intercalate_singleton {α : Type} (x : α) (a : List α) : [x].intercalate [a] = a := by
  simp [List.intercalate]

theorem intercalate_map_range'_succ {α : Type} (x : α) (f : Nat → List α) (i k : Nat) :
    [x].intercalate ((List.range' i (k + 2)).map f) =
      f i ++ x :: [x].intercalate ((List.range' (i + 1) (k + 1)).map f) := rfl

theorem Odometer.reset_at {s : Odometer} {d i step : Nat} (hd : s.point d = 0)
    (ho : wrap64 s.offset = s.offset) :
    (⟨Function.update (s.at d i step).point d 0,
      wrap64 ((s.at d i step).offset - (s.at d i step).point d * step)⟩ : Odometer) = s := by
  obtain ⟨p, o⟩ := s
  change p d = 0 at hd
  change wrap64 o = o at ho
  simp only [Odometer.at, Function.update_idem, Function.update_same, Odometer.mk.injEq]
  refine ⟨Function.update_eq_self_iff.mpr hd.symm, ?_⟩
  rw [← ho]
  unfold wrap64
  generalize (i : Int) * step = x
  omega

theorem Odometer.step_at (s : Odometer) (d i step : Nat) :
    (⟨Function.update (s.at d i step).point d ((s.at d i step).point d + 1),
      wrap64 ((s.at d i step).offset + step)⟩ : Odometer) = s.at d (i + 1) step := by
  simp only [Odometer.at, Function.update_idem, Function.update_same, wrap64_wrap64_add, Nat.cast_succ,
    add_mul, one_mul, add_assoc]

theorem Odometer.at_zero {s : Odometer} {d : Nat} (step : Nat) (hd : s.point d = 0)
    (ho : wrap64 s.offset = s.offset) : s.at d 0 step = s := by
  obtain ⟨p, o⟩ := s
  change p d = 0 at hd
  change wrap64 o = o at ho
  simp only [Odometer.at, Nat.cast_zero, zero_mul, add_zero, ho, Odometer.mk.injEq, and_true]
  exact Function.update_eq_self_iff.mpr hd.symm

theorem blockRuns_cons {d : Nat} {ds : List Nat} (hdn : d < n) (hs : strides d ≠ 0)
    (hds : opensOf strides ds = opens n strides (d + 1))
    (h : BlockRuns n extents strides (d + 1) ds) : BlockRuns n extents strides d (d :: ds) := by
  intro fuel s hz ho
  have hd : s.point d = 0 := hz d le_rfl hdn
  have row : ∀ k i, i + k + 1 = radix extents d →
      (loop n extents strides (fuel + (k + 1) * count extents strides ds) (s.at d i (strides d))).map
          (opensOf strides ds ++ .elem (wrap64 (s.offset + i * strides d)) :: ·) =
        (cont n extents strides d fuel s).map ([Token.sep].intercalate ((List.range' i (k + 1)).map
          fun j : Nat => render extents strides ds (wrap64 (s.offset + j * strides d))) ++ [.close] ++ ·) := by
    intro k
    induction k with
    | zero =>
      intro i hi
      have hb := h fuel (s.at d i (strides d)) (fun j h1 h2 => by
        simp [Odometer.at, Function.update_noteq (show j ≠ d by omega), hz j (by omega) h2])
        (wrap64_idem _)
      rw [cont_carry n extents strides hs (by simp only [Odometer.at, Function.update_same, radix] at hi ⊢; omega)] at hb
      rw [Odometer.reset_at hd ho, Option.map_map] at hb
      simpa [Odometer.at, Function.comp_def] using hb
    | succ k ih =>
      intro i hi
      have hb := h (fuel + (k + 1) * count extents strides ds) (s.at d i (strides d))
        (fun j h1 h2 => by
          simp [Odometer.at, Function.update_noteq (show j ≠ d by omega), hz j (by omega) h2])
        (wrap64_idem _)
      rw [cont_step n extents strides hs (by simp only [Odometer.at, Function.update_same, radix] at hi ⊢; omega),
        Odometer.step_at, ← hds] at hb
      have hoff : wrap64 ((s.at d i (strides d)).offset + strides d) =
          wrap64 (s.offset + ((i + 1 : Nat) : Int) * strides d) := by
        rw [Odometer.at_offset, wrap64_wrap64_add]; push_cast; ring_nf
      rw [hoff, Odometer.at_offset] at hb
      rw [show fuel + (k + 1 + 1) * count extents strides ds =
        fuel + (k + 1) * count extents strides ds + count extents strides ds by ring, hb, Option.map_map,
        show ((render extents strides ds (wrap64 (s.offset + i * strides d)) ++ ·) ∘ fun x =>
            .sep :: opensOf strides ds ++ [.elem (wrap64 (s.offset + ((i + 1 : Nat) : Int) * strides d))] ++ x) =
          (render extents strides ds (wrap64 (s.offset + i * strides d)) ++ .sep :: ·) ∘ fun x =>
            opensOf strides ds ++ .elem (wrap64 (s.offset + ((i + 1 : Nat) : Int) * strides d)) :: x
          from funext fun x => by simp,
        ← Option.map_map, ih (i + 1) (by omega), Option.map_map]
      congr 1
      funext x
      simp only [Function.comp_apply, intercalate_map_range'_succ, List.append_assoc, List.cons_append]
  obtain ⟨k, hk⟩ : ∃ k, k + 1 = radix extents d := ⟨radix extents d - 1, by unfold radix; omega⟩
  have hrow := congrArg (Option.map (Token.open :: ·)) (row k 0 (by omega))
  rw [Odometer.at_zero _ hd ho] at hrow
  simp only [Nat.cast_zero, zero_mul, add_zero, ho, Option.map_map, Function.comp_def] at hrow
  simp only [count, render, opensOf_cons, if_neg hs, ← hk, List.range_eq_range']
  simpa using hrow

/-- Every block of dimensions `[d, n)` runs through. -/
theorem blockRuns_range : ∀ m d, d + m = n →
    BlockRuns n extents strides d (List.range' d m)
  | 0, d, h => by
    obtain rfl : d = n := by omega
    exact blockRuns_nil _ extents strides
  | m + 1, d, h => by
    rw [List.range'_succ]
    have ih := blockRuns_range m (d + 1) (by omega)
    by_cases hs : strides d = 0
    · exact blockRuns_skip n extents strides hs ih
    · exact blockRuns_cons n extents strides (by omega) hs
        (by rw [opens, show n - (d + 1) = m by omega]) ih

end

theorem reads_append (a b : List Token) : reads (a ++ b) = reads a ++ reads b :=
  List.filterMap_append _ _ _

@[simp] theorem reads_sep (l : List Token) : reads (.sep :: l) = reads l := rfl

@[simp] theorem reads_open (l : List Token) : reads (.open :: l) = reads l := rfl

@[simp] theorem reads_close (l : List Token) : reads (.close :: l) = reads l := rfl

@[simp] theorem reads_nil : reads [] = [] := rfl

theorem reads_intercalate : ∀ l : List (List Token), reads ([.sep].intercalate l) = (l.map reads).flatten
  | [] => rfl
  | [a] => by simp
  | a :: b :: l => by
    rw [intercalate_cons_cons, reads_append, reads_sep, reads_intercalate (b :: l)]
    simp

/-- The rendering reads the points in row-major order, at their offsets. -/
theorem reads_render (extents : Nat → Int) (strides : Nat → Nat) : ∀ (ds : List Nat) (o : Int),
    wrap64 o = o →
    reads (render extents strides ds o) =
      (points extents strides ds).map fun p => wrap64 (o + pointOffset strides p)
  | [], o, ho => by simp [render, points, reads, pointOffset, ho]
  | d :: ds, o, ho => by
    by_cases hs : strides d = 0
    · simp only [render, points, if_pos hs]
      exact reads_render extents strides ds o ho
    · have ih : ∀ i : Nat, reads (render extents strides ds (wrap64 (o + i * strides d))) =
          (points extents strides ds).map fun p => wrap64 (o + pointOffset strides ((d, i) :: p)) :=
        fun i => by
          rw [reads_render extents strides ds _ (wrap64_idem _)]
          simp [pointOffset, add_assoc]
      simp only [render, points, if_neg hs, List.cons_append, reads_open, reads_append, reads_intercalate,
        List.map_map, Function.comp_def, ih, reads_close, reads_nil, List.append_nil]
      simp [List.map_flatMap, List.flatMap, Function.comp_def]

/-- Given enough passes, `print_dense_array` prints the nested rendering of
the dimensions of nonzero stride, each extent taken to be at least `1`, and
reads the points in row-major order, each once, at its offset modulo
`2 ^ 64`. -/
theorem printDenseArray_eq_render (n : Nat) (extents : Nat → Int) (strides : Nat → Nat) (fuel : Nat)
    (hfuel : count extents strides (List.range' 0 n) ≤ fuel) :
    printDenseArray n extents strides fuel = some (render extents strides (List.range' 0 n) 0) ∧
      reads (render extents strides (List.range' 0 n) 0) =
        (points extents strides (List.range' 0 n)).map fun p => wrap64 (pointOffset strides p) := by
  obtain ⟨extra, rfl⟩ : ∃ extra, fuel = extra + count extents strides (List.range' 0 n) :=
    ⟨fuel - count extents strides (List.range' 0 n), by omega⟩
  have hb := blockRuns_range n extents strides n 0 (Nat.zero_add n) extra ⟨fun _ => 0, 0⟩
    (fun _ _ _ => rfl) rfl
  refine ⟨?_, by simpa using reads_render extents strides (List.range' 0 n) 0 rfl⟩
  rw [printDenseArray, opens, Nat.sub_zero, hb]
  simp [cont, advance]

theorem printDenseArray_eq_render_two_by_three :
    count (fun d => if d = 0 then 2 else 3) (fun d => if d = 0 then 3 else 1) (List.range' 0 2) ≤ 6 ∧
      printDenseArray 2 (fun d => if d = 0 then 2 else 3) (fun d => if d = 0 then 3 else 1) 6 =
          some (render (fun d => if d = 0 then 2 else 3) (fun d => if d = 0 then 3 else 1)
            (List.range' 0 2) 0) ∧
        reads (render (fun d => if d = 0 then 2 else 3) (fun d => if d = 0 then 3 else 1)
            (List.range' 0 2) 0) =
          (points (fun d => if d = 0 then 2 else 3) (fun d => if d = 0 then 3 else 1)
            (List.range' 0 2)).map fun p => wrap64 (pointOffset (fun d => if d = 0 then 3 else 1) p) :=
  ⟨by decide, printDenseArray_eq_render 2 _ _ 6 (by decide)⟩

/-- An empty one-dimensional rectangle still has `base[0]` read and printed. -/
theorem printDenseArray_empty_rect :
    printDenseArray 1 (fun _ => 0) (fun _ => 1) 1 = some [.open, .elem 0, .close] := by
  decide

end Legate.Utilities
