import Legate.Deserializer.Basic

/-
What the deserializer's loops and recursion pay for their steps.

A count word or a type code is read from the buffer, and every read moves
`args_` on.  These predicates turn that into bounds on the number of loop
iterations and recursive activations, whatever counts the buffer holds:

* `Gains cnt s x` — `x` leaves the counter `cnt` alone and moves `args_`
  at least `s` bytes when it returns;
* `Costs cnt w e x` — `w` bytes of movement pay for every unit `x` adds to
  `cnt`, with `e` bytes of slack when it throws;
* `Activation x` — one activation of a recursive decoder: it pays four bytes
  per activation it counts, or threw before reading its code;
* `FuelBound f x` — when the model's recursion runs out of fuel, `args_` has
  moved at least `f` bytes.

Each comes with its rules for `>>=` and `repeatM`, and `unpackFixed`
instantiates them.
-/

namespace Legate.Deserializer

open DeserM

variable {α β : Type}

/-- `x` leaves the counter `cnt` unchanged and, when it returns, has moved
`args_` at least `s` bytes on. -/
def Gains (cnt : BaseDeserializer → Nat) (s : Nat) (x : DeserM α) : Prop :=
  ∀ mem d, cnt (x mem d).2 = cnt d ∧
    d.args.ptr + (if (x mem d).1.isOk then s else 0) ≤ (x mem d).2.args.ptr

/-- `w` bytes of movement of `args_` pay for each unit `x` adds to the counter
`cnt`, with `e` bytes of slack when `x` throws. -/
def Costs (cnt : BaseDeserializer → Nat) (w e : Nat) (x : DeserM α) : Prop :=
  ∀ mem d, w * cnt (x mem d).2 + d.args.ptr ≤
    w * cnt d + (x mem d).2.args.ptr + (if (x mem d).1.isOk then 0 else e)

/-- One activation of `unpack_type_` or `unpack_transform_`: four bytes pay
for every activation it counts, or it threw before reading its code, having
counted only itself. -/
def Activation (x : DeserM α) : Prop :=
  ∀ mem d, 4 * (x mem d).2.calls + d.args.ptr ≤ 4 * d.calls + (x mem d).2.args.ptr ∨
    ((x mem d).1.isOk = false ∧ (x mem d).2.calls ≤ d.calls + 1 ∧
      d.args.ptr ≤ (x mem d).2.args.ptr)

/-- When `x` runs out of fuel, it has moved `args_` at least `f` bytes. -/
def FuelBound (f : Nat) (x : DeserM α) : Prop :=
  ∀ mem d, (x mem d).1 = .error .outOfFuel → d.args.ptr + f ≤ (x mem d).2.args.ptr

/-- `x` never runs out of fuel. -/
def NoFuelOut (x : DeserM α) : Prop := ∀ mem d, (x mem d).1 ≠ .error .outOfFuel

variable {cnt : BaseDeserializer → Nat} {x : DeserM α} {y : α → DeserM β}

namespace Gains

theorem pure (a : α) : Gains cnt 0 (Pure.pure a : DeserM α) :=
  fun _ _ => ⟨rfl, by simp [pure_apply]⟩

theorem fail (s : Nat) (e : Error) : Gains cnt s (DeserM.fail e : DeserM α) :=
  fun _ _ => ⟨rfl, by simp [DeserM.fail, Except.isOk, Except.toBool]⟩

theorem bind {s t : Nat} (hx : Gains cnt s x) (hy : ∀ a, Gains cnt t (y a)) :
    Gains cnt (s + t) (x >>= y) := by
  intro mem d
  obtain ⟨hc, hp⟩ := hx mem d
  cases h : (x mem d).1 with
  | error e =>
    rw [bind_error h]
    simp only [h, Except.isOk, Except.toBool] at hp ⊢
    exact ⟨hc, hp⟩
  | ok a =>
    rw [bind_ok h]
    obtain ⟨hc', hp'⟩ := hy a mem (x mem d).2
    simp only [h, Except.isOk, Except.toBool, if_true] at hp
    refine ⟨hc'.trans hc, ?_⟩
    split_ifs at hp' ⊢ <;> omega

theorem bind_zero {s : Nat} (hx : Gains cnt s x) (hy : ∀ a, Gains cnt 0 (y a)) :
    Gains cnt s (x >>= y) := by
  simpa using hx.bind hy

theorem zero_bind {t : Nat} (hx : Gains cnt 0 x) (hy : ∀ a, Gains cnt t (y a)) :
    Gains cnt t (x >>= y) := by
  simpa using hx.bind hy

theorem mono {s s' : Nat} (hx : Gains cnt s x) (h : s' ≤ s) : Gains cnt s' x := by
  intro mem d
  obtain ⟨hc, hp⟩ := hx mem d
  refine ⟨hc, ?_⟩
  split_ifs at hp ⊢ <;> omega

theorem map {s : Nat} (hx : Gains cnt s x) (g : α → β) : Gains cnt s (g <$> x) := by
  simpa using hx.bind (y := fun a => Pure.pure (g a)) fun a => pure (g a)

theorem repeatM (hx : Gains cnt 0 x) : ∀ k, Gains cnt 0 (Deserializer.repeatM x k)
  | 0 => pure []
  | k + 1 => by simpa using hx.bind fun a => (repeatM hx k).bind fun as => pure (a :: as)

theorem costs {s : Nat} (hx : Gains cnt s x) (w e : Nat) : Costs cnt w e x := by
  intro mem d
  obtain ⟨hc, hp⟩ := hx mem d
  rw [hc]
  split_ifs at hp <;> omega

theorem bind_costs {s w e : Nat} (hx : Gains cnt s x) (hes : e ≤ s)
    (hy : ∀ a, Costs cnt w e (y a)) : Costs cnt w 0 (x >>= y) := by
  intro mem d
  obtain ⟨hc, hp⟩ := hx mem d
  cases h : (x mem d).1 with
  | error e =>
    rw [bind_error h]
    simp only [h, Except.isOk, Except.toBool] at hp ⊢
    rw [hc]; omega
  | ok a =>
    rw [bind_ok h]
    have hy' := hy a mem (x mem d).2
    simp only [h, Except.isOk, Except.toBool, if_true] at hp
    rw [hc] at hy'
    split_ifs at hy' ⊢ <;> omega

/-- A loop iteration counts itself and then runs a body that moves `s` bytes
when it returns. -/
theorem tick_costs {s : Nat} {x : DeserM α} (hx : Gains BaseDeserializer.iterations s x) :
    Costs BaseDeserializer.iterations s s (tick >>= fun _ => x) := by
  intro mem d
  rw [bind_ok (show (tick mem d).1 = .ok () from rfl)]
  obtain ⟨hc, hp⟩ := hx mem (tick mem d).2
  have e1 : (tick mem d).2.iterations = d.iterations + 1 := rfl
  have e2 : (tick mem d).2.args = d.args := rfl
  rw [hc, e1, Nat.mul_succ]
  rw [e2] at hp
  split_ifs at hp ⊢ <;> omega

end Gains

namespace Costs

variable {w e : Nat}

theorem mono {e' : Nat} (hx : Costs cnt w e x) (he : e ≤ e') : Costs cnt w e' x := by
  intro mem d
  have := hx mem d
  split_ifs at this ⊢ <;> omega

theorem bind (hx : Costs cnt w e x) (hy : ∀ a, Costs cnt w e (y a)) : Costs cnt w e (x >>= y) := by
  intro mem d
  have hx' := hx mem d
  cases h : (x mem d).1 with
  | error e => rw [bind_error h]; simpa [h] using hx'
  | ok a =>
    rw [bind_ok h]
    have hy' := hy a mem (x mem d).2
    simp only [h, Except.isOk, Except.toBool, if_true] at hx'
    split_ifs at hy' ⊢ <;> omega

theorem repeatM (hx : Costs cnt w e x) : ∀ k, Costs cnt w e (Deserializer.repeatM x k)
  | 0 => (Gains.pure []).costs w e
  | k + 1 => hx.bind fun a => (repeatM hx k).bind fun as => (Gains.pure (a :: as)).costs w e

/-- A paid-for call that ends on a suffix of its span counted at most one unit
per `w` bytes of it. -/
theorem le_of_suffix (hx : Costs cnt w 0 x) {mem : Mem} {d : BaseDeserializer}
    (h : (x mem d).2.args.IsSuffixOf d.args) : w * cnt (x mem d).2 ≤ w * cnt d + d.args.size := by
  have := hx mem d
  simp only [Span.IsSuffixOf, ite_self] at h this
  omega

end Costs

theorem NoFuelOut.bind (hx : NoFuelOut x) (hy : ∀ a, NoFuelOut (y a)) : NoFuelOut (x >>= y) := by
  intro mem d
  cases h : (x mem d).1 with
  | error e => rw [bind_error h]; simpa [h] using hx mem d
  | ok a => rw [bind_ok h]; exact hy a mem _

theorem NoFuelOut.pure (a : α) : NoFuelOut (Pure.pure a : DeserM α) := fun _ _ => nofun

theorem NoFuelOut.repeatM (hx : NoFuelOut x) : ∀ k, NoFuelOut (Deserializer.repeatM x k)
  | 0 => NoFuelOut.pure []
  | k + 1 => hx.bind fun a => (NoFuelOut.repeatM hx k).bind fun as => NoFuelOut.pure (a :: as)

theorem NoFuelOut.fuelBound (hx : NoFuelOut x) (f : Nat) : FuelBound f x :=
  fun mem d h => absurd h (hx mem d)

namespace FuelBound

variable {f : Nat}

theorem bind (hx : FuelBound f x) (hxi : InBounds x) (hy : ∀ a, FuelBound f (y a)) :
    FuelBound f (x >>= y) := by
  intro mem d hout
  cases h : (x mem d).1 with
  | error e => rw [bind_error h] at hout ⊢; exact hx mem d (h.trans (by simpa using hout))
  | ok a =>
    rw [bind_ok h] at hout ⊢
    have := (hxi.suffix mem d).1
    have := hy a mem _ hout
    omega

/-- A read that moves `s` bytes and cannot run out of fuel lifts the bound of
what follows by `s`. -/
theorem shift {s : Nat} (hx : NoFuelOut x) (hg : Gains cnt s x) (hy : ∀ a, FuelBound f (y a)) :
    FuelBound (f + s) (x >>= y) := by
  intro mem d hout
  cases h : (x mem d).1 with
  | error e => rw [bind_error h] at hout; exact absurd (h.trans (by simpa using hout)) (hx mem d)
  | ok a =>
    rw [bind_ok h] at hout ⊢
    have := (hg mem d).2
    simp only [h, Except.isOk, Except.toBool, if_true] at this
    have := hy a mem _ hout
    omega

theorem repeatM (hx : FuelBound f x) (hxi : InBounds x) :
    ∀ k, FuelBound f (Deserializer.repeatM x k)
  | 0 => (NoFuelOut.pure []).fuelBound f
  | k + 1 => hx.bind hxi fun a => (repeatM hx hxi k).bind (hxi.repeatM k) fun as =>
      (NoFuelOut.pure (a :: as)).fuelBound f

end FuelBound

section Fixed

variable {size align : Nat} (ha : IsAlignment align) (hs : size < 2 ^ 64)
include ha hs

theorem gains_unpackFixed (cnt : BaseDeserializer → Nat)
    (hcnt : ∀ (d : BaseDeserializer) (s : Span), cnt { d with args := s } = cnt d) :
    Gains cnt size (unpackFixed size align) := by
  intro mem d
  rw [unpackFixed_apply ha hs]
  by_cases h : size + align - 1 < 2 ^ 64 ∧ alignPad d.args.ptr align + size ≤ d.args.size
  · rw [if_pos h]
    have := (Span.subspan_of_le h.2).1
    simp only [hcnt, Except.isOk, Except.toBool, if_true, this, true_and]
    omega
  · rw [if_neg h]
    simp [Except.isOk, Except.toBool]

theorem noFuelOut_unpackFixed : NoFuelOut (unpackFixed size align) := by
  intro mem d
  rw [unpackFixed_apply ha hs]
  split_ifs <;> simp

end Fixed

/-- `unpack<std::int32_t>()` moves four bytes and counts nothing. -/
theorem gains_unpackI32 (cnt : BaseDeserializer → Nat)
    (hcnt : ∀ (d : BaseDeserializer) (s : Span), cnt { d with args := s } = cnt d) :
    Gains cnt 4 unpackI32 :=
  (gains_unpackFixed (by decide) (by decide) cnt hcnt).map _

/-- Reading a four-byte code after counting the activation, then going on
with `rest`, which pays for the activations it counts, is an `Activation`. -/
theorem Activation.of_rest {rest : Int → DeserM α}
    (hrest : ∀ code, Costs BaseDeserializer.calls 4 0 (rest code)) :
    Activation (do enter; let code ← unpackI32; rest code) := by
  intro mem d
  rw [bind_ok (show (enter mem d).1 = .ok () from rfl)]
  have e1 : (enter mem d).2.args.ptr = d.args.ptr := rfl
  have e2 : (enter mem d).2.calls = d.calls + 1 := rfl
  obtain ⟨hc, hp⟩ := gains_unpackI32 BaseDeserializer.calls (fun _ _ => rfl) mem (enter mem d).2
  cases h : (unpackI32 mem (enter mem d).2).1 with
  | error e =>
    rw [bind_error h]
    simp only [h, Except.isOk, Except.toBool] at hp
    exact .inr ⟨rfl, by simp only; omega, by simp only; omega⟩
  | ok code =>
    rw [bind_ok h]
    simp only [h, Except.isOk, Except.toBool, if_true] at hp
    have := hrest code mem (unpackI32 mem (enter mem d).2).2
    simp only [ite_self] at this
    left
    omega

theorem Activation.costs {α : Type} {x : DeserM α} (hx : Activation x) :
    Costs BaseDeserializer.calls 4 4 x := by
  intro mem d
  rcases hx mem d with h | ⟨h1, h2, h3⟩
  · split_ifs <;> omega
  · rw [if_neg (by simp [h1])]; omega

theorem Activation.calls_le {x : DeserM α} (hx : Activation x) (hi : InBounds x) (mem : Mem)
    (d : BaseDeserializer) : (x mem d).2.calls ≤ d.calls + max 1 (d.args.size / 4) := by
  have hs := hi.suffix mem d
  simp only [Span.IsSuffixOf] at hs
  rcases hx mem d with h | ⟨-, h, -⟩ <;> omega

end Legate.Deserializer
