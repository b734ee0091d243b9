import Mathlib.Data.Fintype.Card
import Mathlib.Algebra.Order.BigOperators.Group.Finset

/-
The teardown protocol of the thread-local communicator
(`legate/comm/detail/thread_comm.cc`).

Every one of the `n` participants of a `ThreadComm` set up by `init n` calls
`finalize n is_finalizer` once, with exactly one finalizer.  Each statement of
`finalize` and `clear` is one atomic step of the thread that runs it; a state
records the communicator's fields and the statement each thread is about to
run, and `Reachable f` is every state some interleaving reaches.

* `inv_step` — one step of any thread preserves `Inv`;
* `reachable_inv` — `Inv` holds in every reachable state;
* `finalize_safe` — `clear` runs only once every thread has counted itself
  in, no other thread returns before `ready_flag_` is cleared, and once all
  have returned the communicator is torn down and ready for a new `init`.

Design notes: the finalizer's position is summarised by `Phase.rank`, so the
invariant reads "past statement `k`, field `x` has been reset".
-/

namespace Legate.Comm

/-- The statement a thread is about to run inside `ThreadComm::finalize`. -/
inductive Phase
  /-- `++entered_finalize_` -/
  | enter
  /-- `while (entered_finalize_ != global_comm_size) {}` (finalizer) -/
  | spin
  /-- `entered_finalize_ = 0` (finalizer) -/
  | resetCount
  /-- `pthread_barrier_destroy(&barrier_)`, first statement of `clear` -/
  | destroyBarrier
  /-- `buffers_.reset()` -/
  | resetBuffers
  /-- `displs_.reset()` -/
  | resetDispls
  /-- `ready_flag_ = false` -/
  | clearReady
  /-- `while (ready()) {}` (every other thread) -/
  | wait
  /-- returned from `finalize` -/
  | done
  deriving DecidableEq, Repr

/-- How far the finalizer has got through its statements. -/
def Phase.rank : Phase → Nat
  | .enter | .wait => 0
  | .spin => 1
  | .resetCount => 2
  | .destroyBarrier => 3
  | .resetBuffers => 4
  | .resetDispls => 5
  | .clearReady => 6
  | .done => 7

/-- The fields of `ThreadComm` that `init`, `finalize` and `clear` touch; an
`Option` is `none` once destroyed or reset, and holds the size otherwise. -/
structure ThreadComm where
  barrier : Option Nat
  buffers : Option Nat
  displs : Option Nat
  enteredFinalize : Nat
  readyFlag : Bool
  deriving DecidableEq, Repr

/-- `ThreadComm::init`. -/
def ThreadComm.init (globalCommSize : Nat) : ThreadComm :=
  ⟨some globalCommSize, some globalCommSize, some globalCommSize, 0, true⟩

/-- The communicator and the statement each of the `n` threads is at. -/
structure State (n : Nat) where
  comm : ThreadComm
  pc : Fin n → Phase

variable {n : Nat}

/-- Every thread is about to call `finalize` on a freshly initialised
communicator. -/
def State.init (n : Nat) : State n := ⟨ThreadComm.init n, fun _ => .enter⟩

/-- Thread `i` runs its next statement; `f` is the thread whose
`is_finalizer` is true.  A spin loop whose condition holds leaves the state
unchanged. -/
def step (f : Fin n) (s : State n) (i : Fin n) : State n :=
  let goto (p : Phase) (c : ThreadComm) : State n := ⟨c, Function.update s.pc i p⟩
  let c := s.comm
  match s.pc i with
  | .enter => goto (if i = f then .spin else .wait) { c with enteredFinalize := c.enteredFinalize + 1 }
  | .spin => if c.enteredFinalize ≠ n then s else goto .resetCount c
  | .resetCount => goto .destroyBarrier { c with enteredFinalize := 0 }
  | .destroyBarrier => goto .resetBuffers { c with barrier := none }
  | .resetBuffers => goto .resetDispls { c with buffers := none }
  | .resetDispls => goto .clearReady { c with displs := none }
  | .clearReady => goto .done { c with readyFlag := false }
  | .wait => if c.readyFlag then s else goto .done c
  | .done => s

/-- The states some interleaving of the threads' steps reaches. -/
inductive Reachable (f : Fin n) : State n → Prop
  | init : Reachable f (State.init n)
  | step {s : State n} (i : Fin n) : Reachable f s → Reachable f (step f s i)

/-- The number of threads that have run `++entered_finalize_`. -/
def entered (s : State n) : Nat := (Finset.univ.filter fun i => s.pc i ≠ .enter).card

theorem entered_update {s : State n} {i : Fin n} (hi : s.pc i = .enter) {p : Phase}
    (hp : p ≠ .enter) (c : ThreadComm) :
    entered ⟨c, Function.update s.pc i p⟩ = entered s + 1 := by
  have : (Finset.univ.filter fun j => Function.update s.pc i p j ≠ .enter) =
      insert i (Finset.univ.filter fun j => s.pc j ≠ .enter) := by
    ext j
    by_cases hj : j = i <;> simp [hj, hp]
  rw [entered, this, Finset.card_insert_of_not_mem (by simp [hi])]; rfl

theorem entered_update_of_ne {s : State n} {i : Fin n} (hi : s.pc i ≠ .enter) {p : Phase}
    (hp : p ≠ .enter) (c : ThreadComm) :
    entered ⟨c, Function.update s.pc i p⟩ = entered s := by
  simp only [entered]
  congr 1
  ext j
  by_cases hj : j = i <;> simp [hj, hi, hp]

theorem entered_eq_iff (s : State n) : entered s = n ↔ ∀ i, s.pc i ≠ .enter := by
  have h := Finset.card_eq_iff_eq_univ (Finset.univ.filter fun i => s.pc i ≠ .enter)
  rw [Fintype.card_fin] at h
  simp [entered, h, Finset.filter_eq_self]

/-- The communicator's fields once the finalizer has run its statements up to
rank `r` and `k` threads have counted themselves in. -/
def expected (n r k : Nat) : ThreadComm :=
  ⟨if 4 ≤ r then none else some n, if 5 ≤ r then none else some n,
    if 6 ≤ r then none else some n, if 3 ≤ r then 0 else k, decide (r < 7)⟩

theorem expected_succ {r : Nat} (hr : r < 3) (k : Nat) :
    { expected n r k with enteredFinalize := (expected n r k).enteredFinalize + 1 } =
      expected n r (k + 1) := by
  simp [expected, Nat.not_le.mpr hr]

/-- The protocol invariant: the fields follow the finalizer's progress, the
finalizer passes its spin loop only once everybody is counted, and nobody else
returns before the finalizer. -/
structure Inv (f : Fin n) (s : State n) : Prop where
  comm : s.comm = expected n (s.pc f).rank (entered s)
  others : ∀ i, i ≠ f → s.pc i = .enter ∨ s.pc i = .wait ∨ s.pc i = .done
  finalizer : s.pc f ≠ .wait
  allEntered : 2 ≤ (s.pc f).rank → ∀ i, s.pc i ≠ .enter
  waiters : ∀ i, i ≠ f → s.pc i = .done → s.pc f = .done

theorem inv_init (f : Fin n) : Inv f (State.init n) := by
  refine ⟨?_, fun _ _ => .inl rfl, nofun, fun h => by simp [State.init, Phase.rank] at h,
    fun _ _ h => nomatch h⟩
  simp [State.init, ThreadComm.init, expected, entered, Phase.rank]

theorem Phase.eq_done_of_rank {p : Phase} (h : 7 ≤ p.rank) : p = .done := by
  cases p <;> simp_all [Phase.rank]

/-- Only the finalizer runs the statements after `++entered_finalize_` other
than the wait loop. -/
theorem Inv.eq_finalizer {f : Fin n} {s : State n} (h : Inv f s) {i : Fin n} {p : Phase}
    (hp : s.pc i = p) (hne : p ≠ .enter ∧ p ≠ .wait ∧ p ≠ .done) : i = f := by
  by_contra hif
  rcases h.others i hif with h1 | h1 | h1 <;> simp_all

/-- A step of the finalizer from `p` to `p'` once everybody is counted in,
leaving the fields the finalizer's progress expects. -/
theorem Inv.finalizer_move {f : Fin n} {s : State n} (h : Inv f s) {p p' : Phase} {c : ThreadComm}
    (hp : s.pc f = p) (hpd : p ≠ .done) (hp' : p' ≠ .enter ∧ p' ≠ .wait)
    (hall : ∀ i, s.pc i ≠ .enter) (hc : c = expected n p'.rank (entered s)) :
    Inv f ⟨c, Function.update s.pc f p'⟩ := by
  subst hc
  refine ⟨by rw [entered_update_of_ne (hall f) hp'.1]; simp, fun j hj => ?_, by simpa using hp'.2,
    fun _ j => ?_, fun j hj hd => ?_⟩
  · simpa [Function.update_noteq hj] using h.others j hj
  · by_cases hj : j = f
    · subst hj; simpa using hp'.1
    · simpa [Function.update_noteq hj] using hall j
  · simp only [Function.update_noteq hj] at hd
    exact absurd (hp ▸ h.waiters j hj hd) hpd

/-- Every step of every thread preserves the invariant. -/
theorem inv_step {f : Fin n} {s : State n} (h : Inv f s) (i : Fin n) : Inv f (step f s i) := by
  have hc := h.comm
  cases hp : s.pc i with
  | enter =>
    have hlt : (s.pc f).rank < 2 := by
      by_contra hc; exact h.allEntered (by omega) i hp
    by_cases hif : i = f
    · subst hif
      simp only [step, hp, if_pos rfl]
      refine ⟨?_, fun j hj => ?_, by simp, by simp [Phase.rank], fun j hj hd => ?_⟩
      · rw [entered_update hp (by nofun), hc, hp]; simp [expected, Phase.rank]
      · simpa [Function.update_noteq hj] using h.others j hj
      · simp only [Function.update_noteq hj] at hd; simp [h.waiters j hj hd] at hp
    · simp only [step, hp, if_neg hif]
      refine ⟨?_, fun j hj => ?_, ?_, fun hr => by simp [Function.update_noteq (Ne.symm hif)] at hr; omega,
        fun j hj hd => ?_⟩
      · dsimp only
        rw [entered_update hp (by nofun), Function.update_noteq (Ne.symm hif), hc]
        exact expected_succ (by omega) _
      · by_cases hji : j = i
        · subst hji; simp
        · simpa [Function.update_noteq hji] using h.others j hj
      · simpa [Function.update_noteq (Ne.symm hif)] using h.finalizer
      · by_cases hji : j = i
        · subst hji; simp at hd
        · simp only [Function.update_noteq hji, Function.update_noteq (Ne.symm hif)] at hd ⊢
          exact h.waiters j hj hd
  | spin =>
    obtain rfl := h.eq_finalizer hp (by decide)
    simp only [step, hp]
    split
    · exact h
    · rename_i hn
      rw [hc, hp] at hn
      exact h.finalizer_move hp (by decide) (by decide)
        ((entered_eq_iff s).mp (by simpa [expected, Phase.rank] using hn))
        (by rw [hc, hp]; simp [expected, Phase.rank])
  | resetCount | destroyBarrier | resetBuffers | resetDispls | clearReady =>
    -- the finalizer resets one field after everybody has counted in
    obtain rfl := h.eq_finalizer hp (by decide)
    simp only [step, hp]
    exact h.finalizer_move hp (by decide) (by decide) (h.allEntered (by simp [hp, Phase.rank]))
      (by rw [hc, hp]; simp [expected, Phase.rank])
  | wait =>
    have hif : i ≠ f := fun e => h.finalizer (e ▸ hp)
    simp only [step, hp]
    split
    · exact h
    · rename_i hr
      have hfd : s.pc f = .done := Phase.eq_done_of_rank (by rw [hc] at hr; simpa [expected] using hr)
      have hfi := Function.update_noteq (Ne.symm hif) Phase.done s.pc
      refine ⟨?_, fun j hj => ?_, by simpa [hfi] using h.finalizer, fun hr j => ?_,
        fun _ _ _ => by simpa [hfi] using hfd⟩
      · dsimp only; rw [entered_update_of_ne (by simp [hp]) (by nofun), hfi]; exact hc
      · by_cases hji : j = i
        · subst hji; simp
        · simpa [Function.update_noteq hji] using h.others j hj
      · by_cases hji : j = i
        · subst hji; simp
        · simp only [hfi] at hr; simpa [Function.update_noteq hji] using h.allEntered hr j
  | done =>
    simp only [step, hp]
    exact h

/-- The invariant holds in every state some interleaving reaches. -/
theorem reachable_inv {f : Fin n} {s : State n} (h : Reachable f s) : Inv f s := by
  induction h with
  | init => exact inv_init f
  | step i _ ih => exact inv_step ih i

/-- The state reached when the threads run their statements in the order
`sched`. -/
def run (f : Fin n) (s : State n) (sched : List (Fin n)) : State n := sched.foldl (step f) s

theorem Reachable.run {f : Fin n} {s : State n} (h : Reachable f s) (sched : List (Fin n)) :
    Reachable f (Comm.run f s sched) := by
  induction sched generalizing s with
  | nil => exact h
  | cons i sched ih => exact ih (.step i h)

/-- What the teardown protocol guarantees in a state `s`: (a) `clear` runs
only once all `n` threads have run `++entered_finalize_`, so nobody is still
inside `barrier_local`; (b) no other thread returns before `clear` has reset
`ready_flag_`; (c) once every thread has returned, the counter is zero, the
flag is down, and the barrier, `buffers_` and `displs_` are released, ready
for the next `init`. -/
def FinalizeSafe (f : Fin n) (s : State n) : Prop :=
  ((s.pc f = .destroyBarrier ∨ s.pc f = .resetBuffers ∨ s.pc f = .resetDispls ∨
      s.pc f = .clearReady) → ∀ i, s.pc i ≠ .enter) ∧
    (∀ i, i ≠ f → s.pc i = .done → s.comm.readyFlag = false) ∧
    ((∀ i, s.pc i = .done) →
      s.comm.enteredFinalize = 0 ∧ s.comm.readyFlag = false ∧ s.comm.barrier = none ∧
        s.comm.buffers = none ∧ s.comm.displs = none)

/-- `ThreadComm::finalize` is safe under every interleaving `sched` of the
threads' statements. -/
theorem finalize_safe (f : Fin n) (sched : List (Fin n)) :
    FinalizeSafe f (run f (State.init n) sched) := by
  have hi := reachable_inv (Reachable.init.run (f := f) sched)
  have hc := hi.comm
  refine ⟨fun hp => hi.allEntered (by rcases hp with hp | hp | hp | hp <;> simp [hp, Phase.rank]),
    fun i hif hd => ?_, fun hd => ?_⟩
  · rw [hc, hi.waiters i hif hd]; rfl
  · rw [hc, hd f]; simp [expected, Phase.rank]

/-- How many statements of `finalize` a thread at `p` has run; a spin loop
whose condition holds runs none. -/
def Phase.progress : Phase → Nat
  | .enter => 0
  | .spin | .wait => 1
  | .resetCount => 2
  | .destroyBarrier => 3
  | .resetBuffers => 4
  | .resetDispls => 5
  | .clearReady => 6
  | .done => 7

theorem Phase.progress_le (p : Phase) : p.progress ≤ 7 := by
  cases p <;> decide

/-- The statements the threads have run so far, all together. -/
def potential (s : State n) : Nat := ∑ i, (s.pc i).progress

theorem potential_le (s : State n) : potential s ≤ 7 * n := by
  simpa [mul_comm] using Finset.sum_le_card_nsmul Finset.univ _ 7 fun i _ => (s.pc i).progress_le

/-- A step of thread `i` either spins, leaving the state as it is, or moves
`i` forward and no other thread. -/
theorem step_cases (f : Fin n) (s : State n) (i : Fin n) :
    step f s i = s ∨ ∃ c p, (s.pc i).progress < p.progress ∧
      step f s i = ⟨c, Function.update s.pc i p⟩ := by
  cases hp : s.pc i <;> simp only [step, hp, true_or] <;> (try split) <;>
    first
    | exact .inl rfl
    | exact .inr ⟨_, _, by decide, rfl⟩

theorem potential_lt_step {f : Fin n} {s : State n} {i : Fin n}
    (h : (s.pc i).progress < ((step f s i).pc i).progress) : potential s < potential (step f s i) := by
  rcases step_cases f s i with he | ⟨c, p, hlt, he⟩
  · rw [he] at h; exact absurd h (lt_irrefl _)
  · rw [he]
    refine Finset.sum_lt_sum (fun j _ => ?_) ⟨i, Finset.mem_univ _, by simpa using hlt⟩
    by_cases hji : j = i
    · subst hji; simpa using hlt.le
    · simp [Function.update_noteq hji]

/-- As long as some thread has not returned, some thread can run a statement:
everybody not yet counted in can, then the finalizer can pass its spin loop
and clear, and then every other thread can leave its wait loop. -/
theorem Inv.exists_progress {f : Fin n} {s : State n} (h : Inv f s) (hnd : ∃ i, s.pc i ≠ .done) :
    ∃ i, (s.pc i).progress < ((step f s i).pc i).progress := by
  by_cases he : ∃ i, s.pc i = .enter
  · obtain ⟨i, hi⟩ := he
    refine ⟨i, ?_⟩
    simp only [step, hi, Function.update_same]
    split_ifs <;> decide
  push_neg at he
  have hc := h.comm
  cases hf : s.pc f with
  | enter => exact absurd hf (he f)
  | wait => exact absurd hf h.finalizer
  | spin =>
    have hn : s.comm.enteredFinalize = n := by
      rw [hc, hf, (entered_eq_iff s).mpr he]; rfl
    exact ⟨f, by simp [step, hf, hn, Phase.progress]⟩
  | resetCount | destroyBarrier | resetBuffers | resetDispls | clearReady =>
    exact ⟨f, by simp [step, hf, Phase.progress]⟩
  | done =>
    -- the finalizer has cleared `ready_flag_`, so a thread still waiting leaves
    obtain ⟨i, hi⟩ := hnd
    have hif : i ≠ f := fun e => hi (e ▸ hf)
    have hw : s.pc i = .wait := by rcases h.others i hif with h1 | h1 | h1 <;> simp_all
    have hr : s.comm.readyFlag = false := by rw [hc, hf]; rfl
    exact ⟨i, by simp [step, hw, hr, Phase.progress]⟩

theorem exists_run_done (f : Fin n) {s : State n} (hs : Reachable f s) :
    ∃ sched : List (Fin n), sched.length + potential s ≤ 7 * n ∧
      ∀ i, (run f s sched).pc i = .done := by
  by_cases hd : ∀ i, s.pc i = .done
  · exact ⟨[], by simpa using potential_le s, hd⟩
  push_neg at hd
  obtain ⟨i, hi⟩ := (reachable_inv hs).exists_progress hd
  have hlt := potential_lt_step hi
  obtain ⟨sched, hl, hdone⟩ := exists_run_done f (hs.step i)
  exact ⟨i :: sched, by simp only [List.length_cons]; omega, hdone⟩
termination_by 7 * n - potential s
decreasing_by have := potential_le (step f s i); omega

/-- `ThreadComm::finalize` cannot deadlock: from every state some interleaving
reaches, some order of at most `7 * n` further statements returns every
thread from `finalize` and leaves the communicator torn down. -/
theorem finalize_completes (f : Fin n) {s : State n} (hs : Reachable f s) :
    ∃ sched : List (Fin n), sched.length ≤ 7 * n ∧ (∀ i, (run f s sched).pc i = .done) ∧
      (run f s sched).comm = ⟨none, none, none, 0, false⟩ := by
  obtain ⟨sched, hl, hdone⟩ := exists_run_done f hs
  refine ⟨sched, by omega, hdone, ?_⟩
  rw [(reachable_inv (hs.run sched)).comm, hdone f]
  rfl

theorem finalize_completes_two_threads :
    ∃ sched : List (Fin 2), sched.length ≤ 7 * 2 ∧ (∀ i, (run 1 (State.init 2) sched).pc i = .done) ∧
      (run 1 (State.init 2) sched).comm = ⟨none, none, none, 0, false⟩ :=
  finalize_completes 1 .init

/-- Two threads, the second finalizing: every statement of both, in one
order, returns both with the communicator torn down. -/
example : (run (1 : Fin 2) (State.init 2) [0, 1, 1, 1, 1, 1, 1, 1, 0]).comm =
    ⟨none, none, none, 0, false⟩ := by decide

end Legate.Comm
