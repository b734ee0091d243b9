import Legate.Runtime.ArgumentParsing

/-
Handing the configuration to Realm (`cpp/legate/runtime/detail/argument_parsing.cc`,
`try_set_property`, `set_core_config_properties`, `set_cuda_config_properties`,
`set_openmp_config_properties` and `handle_legate_args` from the parsed values
on).

A run auto-configures the counts, sets each of them as a property of its Realm
module, records in `Config` whether GPUs and OpenMP groups are needed, and
last checks that the build supports what is needed.  A `LEGATE_CHECK` that
fails aborts the process; the CUDA and OpenMP setters catch the exceptions of
their `try_set_property` calls and drop them in a build without that support.

* `trySetProperty_error` — a `try_set_property` that fails leaves Realm and
  `Config` as they were, and either aborts on a negative value or throws a
  `ConfigurationError` whose message names the flag;
* `handleLegateArgs_configures` — in a build with CUDA and OpenMP support, a
  run that returns has set exactly the auto-configured value of every
  property of every loaded module, in the setters' order, and needs GPUs and
  OpenMP iff it configured some;
* `handleLegateArgs_unsupported` — in a build without CUDA (or OpenMP)
  support, a run that returns has configured no GPU (or no OpenMP group).

Design notes: the parsing of `LEGATE_CONFIG` (argparse) is not modelled: a run
starts from the value parsed into each `ScaledVar`, and `used` is
`parser.is_used()`.  `Realm::ModuleConfig::set_property()` is a parameter of
each loaded module.  The state is what Realm and `Config` hold: the properties
set, in order, and the `Config` members the setters write.  Failures keep the
state they happen in, since what was set before an exception stays set.
The `Config` flags set from the other arguments touch nothing a modelled
function reads, and are left out, as is `set_legion_default_args`, which
writes `LEGION_DEFAULT_ARGS` and nothing these functions read.
-/

namespace Legate.Runtime

/-- `Arg<T>`: a flag and the value parsed into it. -/
structure Arg (α : Type) where
  flag : String
  value : α

/-- `Realm::ModuleConfig`, through `set_property(name, value)`: whether the
module takes `value` for the property `name`. -/
abbrev ModuleConfig := String → Int → Bool

/-- The Realm runtime as the configuration sees it: `get_module_config(name)`
for each module, and what the modules report.  The CUDA and OpenMP modules
report their resources iff they are loaded. -/
structure Realm where
  moduleConfig : String → Option ModuleConfig
  resources : Resources
  cuda_loaded : (moduleConfig "cuda").isSome = resources.cudaGpu.isSome
  openmp_loaded : (moduleConfig "openmp").isSome = resources.openmp

/-- What Realm and `Config` hold: the properties the modules took, in order,
as (module, property, value), and the `Config` members the setters write. -/
structure ConfigState where
  properties : List (String × String × Int)
  needCuda : Bool
  needOpenmp : Bool
  numOmpThreads : Int

/-- How a step fails: a failed `LEGATE_CHECK` aborts the process; the others
are exceptions. -/
inductive Failure
  | abort
  | configurationError (what : String)
  | autoConfigurationError (e : AutoConfigurationError)
  | runtimeError (what : String)

/-- A step of the run: it returns or fails, and leaves the state it got to. -/
abbrev ConfigM := ExceptT Failure (StateM ConfigState)

namespace ConfigM

variable {α β : Type}

theorem bind_apply (x : ConfigM α) (f : α → ConfigM β) (s : ConfigState) :
    (x >>= f) s = match x s with
      | (.ok a, s') => f a s'
      | (.error e, s') => (.error e, s') := by
  change (match x s with | (a, s') => ExceptT.bindCont f a s') = _
  rcases x s with ⟨_ | a, s'⟩ <;> rfl

theorem bind_eq_ok {x : ConfigM α} {f : α → ConfigM β} {s s'' : ConfigState} {b : β}
    (h : (x >>= f) s = (.ok b, s'')) : ∃ a s', x s = (.ok a, s') ∧ f a s' = (.ok b, s'') := by
  rw [bind_apply] at h
  rcases hx : x s with ⟨_ | a, s'⟩ <;> rw [hx] at h
  · cases h
  · exact ⟨a, s', rfl, h⟩

theorem bind_of_error {x : ConfigM α} {f : α → ConfigM β} {s s' : ConfigState} {e : Failure}
    (h : x s = (.error e, s')) : (x >>= f) s = (.error e, s') := by
  rw [bind_apply, h]

end ConfigM

open ConfigM

/-- `LEGATE_CHECK(cond)` -/
def legateCheck (cond : Prop) [Decidable cond] : ConfigM Unit :=
  if cond then pure () else throw .abort

/-- `try { x } catch (...) { if (rethrow) { throw; } }`: an exception is
rethrown or dropped; an abort ends the process before any handler runs. -/
def catchAll (rethrow : Bool) (x : ConfigM Unit) : ConfigM Unit :=
  tryCatch x fun
    | .abort => throw .abort
    | e => if rethrow then throw e else pure ()

/-- `config->set_property(name, value)`: a property the module takes is set. -/
def setProperty (config : ModuleConfig) (moduleName propertyName : String) (value : Int) :
    ConfigM Bool :=
  if config propertyName value then do
    modify fun s => { s with properties := s.properties ++ [(moduleName, propertyName, value)] }
    pure true
  else pure false

/-- `SYSMEM_LIMIT_FOR_IPC_REG`: `1024 * MB`. -/
def SYSMEM_LIMIT_FOR_IPC_REG : Int := 1024 * MB

theorem legateCheck_apply (cond : Prop) [Decidable cond] (s : ConfigState) :
    legateCheck cond s = if cond then (.ok (), s) else (.error .abort, s) := by
  unfold legateCheck
  split_ifs <;> rfl

theorem catchAll_apply (r : Bool) (x : ConfigM Unit) (s : ConfigState) :
    catchAll r x s = match x s with
      | (.ok u, s') => (.ok u, s')
      | (.error .abort, s') => (.error .abort, s')
      | (.error e, s') => if r then (.error e, s') else (.ok (), s') := by
  show ExceptT.tryCatch x _ s = _
  simp only [ExceptT.tryCatch, ExceptT.mk, bind, StateT.bind]
  rcases x s with ⟨(_ | e) | u, s'⟩ <;> first | rfl | (cases r <;> rfl)

/-- In a build with the support, the handler rethrows everything. -/
theorem catchAll_true (x : ConfigM Unit) : catchAll true x = x := by
  funext s
  rw [catchAll_apply]
  rcases x s with ⟨(_ | e) | u, s'⟩ <;> rfl

theorem setProperty_apply (config : ModuleConfig) (moduleName propertyName : String) (value : Int)
    (s : ConfigState) :
    setProperty config moduleName propertyName value s =
      if config propertyName value then
        (.ok true, { s with properties := s.properties ++ [(moduleName, propertyName, value)] })
      else (.ok false, s) := by
  unfold setProperty
  split_ifs <;> rfl

/-- What `try_set_property` sets on a module: the property, when the module is
loaded. -/
def Realm.entry (realm : Realm) (moduleName propertyName : String) (value : Int) :
    List (String × String × Int) :=
  if (realm.moduleConfig moduleName).isSome then [(moduleName, propertyName, value)] else []

section Setters

variable (realm : Realm) (used : String → Bool)

/-- `try_set_property()` -/
def trySetProperty {bits : Nat} (moduleName propertyName : String) (var : Arg (ScaledVar bits)) :
    ConfigM Unit := do
  let value := var.value.value
  legateCheck (value ≥ 0)
  let flag := var.flag
  match realm.moduleConfig moduleName with
  | none =>
    if !used flag then return
    throw (.configurationError s!"Unable to set {flag} (the {moduleName} module is not available).")
  | some config =>
    if !(← setProperty config moduleName propertyName value) then
      throw (.configurationError s!"Unable to set {flag}.")

variable {realm used} {bits : Nat} {moduleName propertyName : String} {var : Arg (ScaledVar bits)}
  {s s' : ConfigState}

/-- A `try_set_property` that returns has checked that the value is not
negative, and has set it iff the module is loaded. -/
theorem trySetProperty_eq_ok {u : Unit}
    (h : trySetProperty realm used moduleName propertyName var s = (.ok u, s')) :
    0 ≤ var.value.value ∧
      s' = { s with properties := s.properties ++ realm.entry moduleName propertyName var.value.value } := by
  obtain ⟨_, s1, h1, h⟩ := bind_eq_ok h
  rw [legateCheck_apply] at h1
  split_ifs at h1 with hv <;> cases h1
  refine ⟨hv, ?_⟩
  simp only [Realm.entry]
  rcases hm : realm.moduleConfig moduleName with _ | config <;> simp only [hm] at h
  · split_ifs at h <;> cases h
    simp
  · obtain ⟨b, s2, h2, h⟩ := bind_eq_ok h
    rw [setProperty_apply] at h2
    split_ifs at h2 <;> cases h2 <;> cases h
    simp

/-- A `try_set_property` that fails has changed nothing: it aborts on a
negative value, and otherwise throws a `ConfigurationError` whose message
names the flag. -/
theorem trySetProperty_error {e : Failure}
    (h : trySetProperty realm used moduleName propertyName var s = (.error e, s')) :
    s' = s ∧ (e = .abort ∧ var.value.value < 0 ∨
      ∃ pre post, e = .configurationError (pre ++ var.flag ++ post)) := by
  unfold trySetProperty at h
  rw [bind_apply, legateCheck_apply] at h
  by_cases hv : var.value.value ≥ 0
  · rw [if_pos hv] at h
    dsimp only at h
    rcases hm : realm.moduleConfig moduleName with _ | config <;> simp only [hm] at h
    · split_ifs at h
      · cases h
      · cases h
        exact ⟨rfl, .inr ⟨"Unable to set ", " (the " ++ moduleName ++ " module is not available).",
          by simp only [String.append_assoc]; rfl⟩⟩
    · rw [bind_apply, setProperty_apply] at h
      split_ifs at h
      · cases h
      · cases h
        exact ⟨rfl, .inr ⟨"Unable to set ", ".", rfl⟩⟩
  · rw [if_neg hv] at h
    cases h
    exact ⟨rfl, .inl ⟨rfl, by omega⟩⟩

variable (realm used)

/-- `set_core_config_properties()`; the last step is
`LEGATE_CHECK(config != nullptr)` and a `set_property` whose result is
dropped. -/
def setCoreConfigProperties (cpus util : Arg (ScaledVar 32)) (sysmem regmem : Arg (ScaledVar 64)) :
    ConfigM Unit := do
  trySetProperty realm used "core" "cpu" cpus
  trySetProperty realm used "core" "util" util
  trySetProperty realm used "core" "sysmem" sysmem
  trySetProperty realm used "core" "regmem" regmem
  match realm.moduleConfig "core" with
  | none => throw .abort
  | some config =>
    let _ ← setProperty config "core" "sysmem_ipc_limit" SYSMEM_LIMIT_FOR_IPC_REG
    pure ()

/-- `set_cuda_config_properties()`; `useCuda` is `LEGATE_DEFINED(LEGATE_USE_CUDA)`. -/
def setCudaConfigProperties (useCuda : Bool) (gpus : Arg (ScaledVar 32))
    (fbmem zcmem : Arg (ScaledVar 64)) : ConfigM Unit := do
  catchAll useCuda do
    trySetProperty realm used "cuda" "gpu" gpus
    trySetProperty realm used "cuda" "fbmem" fbmem
    trySetProperty realm used "cuda" "zcmem" zcmem
  if gpus.value.value > 0 then
    modify fun s => { s with needCuda := true }

/-- `set_openmp_config_properties()`; `useOpenmp` is
`LEGATE_DEFINED(LEGATE_USE_OPENMP)`. -/
def setOpenmpConfigProperties (useOpenmp : Bool) (omps ompthreads : Arg (ScaledVar 32))
    (numamem : Arg (ScaledVar 64)) : ConfigM Unit := do
  if omps.value.value > 0 then
    let numThreads := ompthreads.value.value
    legateCheck (numThreads > 0)
    modify fun s => { s with needOpenmp := true, numOmpThreads := numThreads }
  catchAll useOpenmp do
    trySetProperty realm used "openmp" "ocpu" omps
    trySetProperty realm used "openmp" "othr" ompthreads
    trySetProperty realm used "numa" "numamem" numamem

end Setters

/-- The IPC limit `set_core_config_properties` sets, when the core module
takes it. -/
def Realm.ipcLimitEntry (realm : Realm) : List (String × String × Int) :=
  match realm.moduleConfig "core" with
  | none => []
  | some config =>
    if config "sysmem_ipc_limit" SYSMEM_LIMIT_FOR_IPC_REG then
      [("core", "sysmem_ipc_limit", SYSMEM_LIMIT_FOR_IPC_REG)]
    else []

theorem value_of_mem_entry {realm : Realm} {moduleName propertyName : String} {value : Int}
    {e : String × String × Int} (he : e ∈ realm.entry moduleName propertyName value) :
    e.2.2 = value := by
  unfold Realm.entry at he
  split_ifs at he
  · rw [List.mem_singleton.mp he]
  · cases he

theorem value_of_mem_ipcLimitEntry {realm : Realm} {e : String × String × Int}
    (he : e ∈ realm.ipcLimitEntry) : e.2.2 = SYSMEM_LIMIT_FOR_IPC_REG := by
  unfold Realm.ipcLimitEntry at he
  split at he
  · cases he
  · split_ifs at he
    · rw [List.mem_singleton.mp he]
    · cases he

/-- `x` leaves the `Config` members as they were, whatever it does. -/
def KeepsConfig {α : Type} (x : ConfigM α) : Prop :=
  ∀ s, (x s).2.needCuda = s.needCuda ∧ (x s).2.needOpenmp = s.needOpenmp ∧
    (x s).2.numOmpThreads = s.numOmpThreads

theorem KeepsConfig.bind {α β : Type} {x : ConfigM α} {f : α → ConfigM β} (hx : KeepsConfig x)
    (hf : ∀ a, KeepsConfig (f a)) : KeepsConfig (x >>= f) := fun s => by
  rw [bind_apply]
  obtain ⟨h1, h2, h3⟩ := hx s
  rcases hxs : x s with ⟨_ | a, s1⟩ <;> rw [hxs] at h1 h2 h3
  · exact ⟨h1, h2, h3⟩
  · obtain ⟨g1, g2, g3⟩ := hf a s1
    exact ⟨g1.trans h1, g2.trans h2, g3.trans h3⟩

theorem KeepsConfig.catchAll {x : ConfigM Unit} (hx : KeepsConfig x) (r : Bool) :
    KeepsConfig (catchAll r x) := fun s => by
  rw [catchAll_apply]
  obtain ⟨h1, h2, h3⟩ := hx s
  rcases hxs : x s with ⟨(_ | e) | u, s1⟩ <;> rw [hxs] at h1 h2 h3 <;> (try cases r) <;>
    exact ⟨h1, h2, h3⟩

section Steps

variable {realm : Realm} {used : String → Bool} {s s' : ConfigState} {u : Unit}

theorem keepsConfig_trySetProperty (realm : Realm) (used : String → Bool) {bits : Nat}
    (moduleName propertyName : String) (var : Arg (ScaledVar bits)) :
    KeepsConfig (trySetProperty realm used moduleName propertyName var) :=
  fun s => by
    rcases h : trySetProperty realm used moduleName propertyName var s with ⟨_ | e, s'⟩
    · obtain ⟨rfl, -⟩ := trySetProperty_error h
      exact ⟨rfl, rfl, rfl⟩
    · obtain ⟨-, rfl⟩ := trySetProperty_eq_ok h
      exact ⟨rfl, rfl, rfl⟩

theorem trySetProperty_of_neg {bits : Nat} {moduleName propertyName : String}
    {var : Arg (ScaledVar bits)} (hv : var.value.value < 0) :
    trySetProperty realm used moduleName propertyName var s = (.error .abort, s) := by
  unfold trySetProperty
  rw [bind_apply, legateCheck_apply, if_neg (by omega)]

/-- A `set_core_config_properties` that returns has set the four core
properties of their (non-negative) values, and the IPC limit if the module
took it. -/
theorem setCoreConfigProperties_eq_ok {cpus util : Arg (ScaledVar 32)}
    {sysmem regmem : Arg (ScaledVar 64)}
    (h : setCoreConfigProperties realm used cpus util sysmem regmem s = (.ok u, s')) :
    0 ≤ cpus.value.value ∧ 0 ≤ util.value.value ∧ 0 ≤ sysmem.value.value ∧ 0 ≤ regmem.value.value ∧
      s' = { s with properties := (s.properties ++ realm.entry "core" "cpu" cpus.value.value ++
        realm.entry "core" "util" util.value.value ++ realm.entry "core" "sysmem" sysmem.value.value ++
        realm.entry "core" "regmem" regmem.value.value ++ realm.ipcLimitEntry) } := by
  unfold setCoreConfigProperties at h
  obtain ⟨_, s1, h1, h⟩ := bind_eq_ok h
  obtain ⟨hc, rfl⟩ := trySetProperty_eq_ok h1
  obtain ⟨_, s2, h2, h⟩ := bind_eq_ok h
  obtain ⟨hu, rfl⟩ := trySetProperty_eq_ok h2
  obtain ⟨_, s3, h3, h⟩ := bind_eq_ok h
  obtain ⟨hs, rfl⟩ := trySetProperty_eq_ok h3
  obtain ⟨_, s4, h4, h⟩ := bind_eq_ok h
  obtain ⟨hr, rfl⟩ := trySetProperty_eq_ok h4
  refine ⟨hc, hu, hs, hr, ?_⟩
  unfold Realm.ipcLimitEntry
  rcases hm : realm.moduleConfig "core" with _ | config <;> simp only [hm] at h
  · cases h
  · rw [bind_apply, setProperty_apply] at h
    split_ifs at h with hacc <;> cases h <;> simp [hacc]

/-- A `set_cuda_config_properties` that returns has not aborted, so the GPU
count is not negative; it needs CUDA iff it configured a GPU, and, in a build
with CUDA support, has set the three CUDA properties. -/
theorem setCudaConfigProperties_eq_ok {r : Bool} {gpus : Arg (ScaledVar 32)}
    {fbmem zcmem : Arg (ScaledVar 64)}
    (h : setCudaConfigProperties realm used r gpus fbmem zcmem s = (.ok u, s')) :
    0 ≤ gpus.value.value ∧ s'.needCuda = (s.needCuda || decide (0 < gpus.value.value)) ∧
      s'.needOpenmp = s.needOpenmp ∧ s'.numOmpThreads = s.numOmpThreads ∧
      (r = true → 0 ≤ fbmem.value.value ∧ 0 ≤ zcmem.value.value ∧
        s'.properties = s.properties ++ realm.entry "cuda" "gpu" gpus.value.value ++
          realm.entry "cuda" "fbmem" fbmem.value.value ++ realm.entry "cuda" "zcmem" zcmem.value.value) := by
  unfold setCudaConfigProperties at h
  obtain ⟨_, s1, h1, h⟩ := bind_eq_ok h
  have hk := (((keepsConfig_trySetProperty realm used "cuda" "gpu" gpus).bind fun _ =>
    (keepsConfig_trySetProperty realm used "cuda" "fbmem" fbmem).bind fun _ =>
      keepsConfig_trySetProperty realm used "cuda" "zcmem" zcmem).catchAll r) s
  rw [h1] at hk
  have hg : 0 ≤ gpus.value.value := by
    by_contra hneg
    rw [catchAll_apply, bind_of_error (trySetProperty_of_neg (by omega))] at h1
    cases h1
  have hs' : s' = { s1 with needCuda := s1.needCuda || decide (gpus.value.value > 0) } := by
    by_cases hp : gpus.value.value > 0
    · rw [if_pos hp] at h
      cases h
      simp [hp]
    · rw [if_neg hp] at h
      cases h
      simp [hp]
  subst hs'
  refine ⟨hg, by rw [hk.1], hk.2.1, hk.2.2, fun hr => ?_⟩
  subst hr
  rw [catchAll_true] at h1
  obtain ⟨_, t1, g1, h1⟩ := bind_eq_ok h1
  obtain ⟨-, rfl⟩ := trySetProperty_eq_ok g1
  obtain ⟨_, t2, g2, g3⟩ := bind_eq_ok h1
  obtain ⟨hfb, rfl⟩ := trySetProperty_eq_ok g2
  obtain ⟨hzc, rfl⟩ := trySetProperty_eq_ok g3
  exact ⟨hfb, hzc, by simp⟩

/-- A `set_openmp_config_properties` that returns has not aborted: the
OpenMP group count is not negative, and with a group there is a thread per
group.  It needs OpenMP iff it configured a group, and then records the
thread count; in a build with OpenMP support it has set the three OpenMP and
NUMA properties. -/
theorem setOpenmpConfigProperties_eq_ok {r : Bool} {omps ompthreads : Arg (ScaledVar 32)}
    {numamem : Arg (ScaledVar 64)}
    (h : setOpenmpConfigProperties realm used r omps ompthreads numamem s = (.ok u, s')) :
    0 ≤ omps.value.value ∧ (0 < omps.value.value → 0 < ompthreads.value.value) ∧
      s'.needCuda = s.needCuda ∧ s'.needOpenmp = (s.needOpenmp || decide (0 < omps.value.value)) ∧
      s'.numOmpThreads = (if 0 < omps.value.value then ompthreads.value.value else s.numOmpThreads) ∧
      (r = true → 0 ≤ ompthreads.value.value ∧ 0 ≤ numamem.value.value ∧
        s'.properties = s.properties ++ realm.entry "openmp" "ocpu" omps.value.value ++
          realm.entry "openmp" "othr" ompthreads.value.value ++
          realm.entry "numa" "numamem" numamem.value.value) := by
  unfold setOpenmpConfigProperties at h
  dsimp only at h
  obtain ⟨s1, hs1, hthreads, h⟩ : ∃ s1, s1 = (if 0 < omps.value.value then
      { s with needOpenmp := true, numOmpThreads := ompthreads.value.value } else s) ∧
      (0 < omps.value.value → 0 < ompthreads.value.value) ∧
      catchAll r (do
        trySetProperty realm used "openmp" "ocpu" omps
        trySetProperty realm used "openmp" "othr" ompthreads
        trySetProperty realm used "numa" "numamem" numamem) s1 = (.ok u, s') := by
    by_cases hp : 0 < omps.value.value
    · rw [if_pos hp] at h
      obtain ⟨_, t, g, h⟩ := bind_eq_ok h
      rw [legateCheck_apply] at g
      split_ifs at g with hn <;> cases g
      obtain ⟨_, t', g', h⟩ := bind_eq_ok h
      cases g'
      exact ⟨_, by rw [if_pos hp], fun _ => hn, h⟩
    · rw [if_neg hp] at h
      exact ⟨s, by rw [if_neg hp], fun h => absurd h hp, h⟩
  have hk := (((keepsConfig_trySetProperty realm used "openmp" "ocpu" omps).bind fun _ =>
    (keepsConfig_trySetProperty realm used "openmp" "othr" ompthreads).bind fun _ =>
      keepsConfig_trySetProperty realm used "numa" "numamem" numamem).catchAll r) s1
  rw [h] at hk
  have ho : 0 ≤ omps.value.value := by
    by_contra hneg
    rw [catchAll_apply, bind_of_error (trySetProperty_of_neg (by omega))] at h
    cases h
  refine ⟨ho, hthreads, ?_, ?_, ?_, fun hr => ?_⟩
  · rw [hk.1, hs1]; split_ifs <;> rfl
  · rw [hk.2.1, hs1]; split_ifs with hp <;> simp [hp]
  · rw [hk.2.2, hs1]; split_ifs <;> rfl
  · subst hr
    rw [catchAll_true] at h
    obtain ⟨_, t1, g1, h⟩ := bind_eq_ok h
    obtain ⟨-, rfl⟩ := trySetProperty_eq_ok g1
    obtain ⟨_, t2, g2, g3⟩ := bind_eq_ok h
    obtain ⟨hth, rfl⟩ := trySetProperty_eq_ok g2
    obtain ⟨hnu, rfl⟩ := trySetProperty_eq_ok g3
    refine ⟨hth, hnu, ?_⟩
    subst hs1
    split_ifs <;> simp

end Steps


/-- The defaults of `handle_legate_args`; a `-1` is left to auto-configuration. -/
def DEFAULT_CPUS : Int := -1
def DEFAULT_GPUS : Int := -1
def DEFAULT_OMPS : Int := -1
def DEFAULT_OMPTHREADS : Int := -1
def DEFAULT_UTILITY : Int := 2
def DEFAULT_SYSMEM : Int := -1
def DEFAULT_NUMAMEM : Int := -1
def DEFAULT_FBMEM : Int := -1
def DEFAULT_ZCMEM : Int := 128
def DEFAULT_REGMEM : Int := 0

/-- What parsing `LEGATE_CONFIG` left in the `value_` of each `ScaledVar`. -/
structure ParsedValues where
  cpus : Int
  gpus : Int
  omps : Int
  ompthreads : Int
  util : Int
  sysmem : Int
  numamem : Int
  fbmem : Int
  zcmem : Int
  regmem : Int

namespace ParsedValues

/-- The counts `handle_legate_args` hands to `autoconfigure`: each `ScaledVar`
declared with its default and scale, holding the parsed value, and the
utility count raised to at least 1. -/
def counts (p : ParsedValues) : Counts :=
  let util : ScaledVar 32 := ⟨DEFAULT_UTILITY, 1, p.util⟩
  ⟨util.set (max 1 util.value), ⟨DEFAULT_CPUS, 1, p.cpus⟩, ⟨DEFAULT_GPUS, 1, p.gpus⟩,
    ⟨DEFAULT_OMPS, 1, p.omps⟩, ⟨DEFAULT_OMPTHREADS, 1, p.ompthreads⟩, ⟨DEFAULT_SYSMEM, MB, p.sysmem⟩,
    ⟨DEFAULT_FBMEM, MB, p.fbmem⟩, ⟨DEFAULT_NUMAMEM, MB, p.numamem⟩⟩

/-- `--zcmem`, which auto-configuration does not touch. -/
def zcmemVar (p : ParsedValues) : ScaledVar 64 := ⟨DEFAULT_ZCMEM, MB, p.zcmem⟩

/-- `--regmem`, which auto-configuration does not touch. -/
def regmemVar (p : ParsedValues) : ScaledVar 64 := ⟨DEFAULT_REGMEM, MB, p.regmem⟩

end ParsedValues

/-- An `AutoConfigurationError` that `autoconfigure` throws propagates. -/
def liftAutoConfiguration {α : Type} : Except AutoConfigurationError α → ConfigM α
  | .ok a => pure a
  | .error e => throw (.autoConfigurationError e)

/-- `handle_legate_args()` from the parsed values on: auto-configure (its
`LEGATE_CHECK(core != nullptr)` first), set the properties, and check that
the build supports the GPUs and OpenMP groups configured.  Nothing writes
`Config` between the two checks, which read it once here. -/
def handleLegateArgs (realm : Realm) (used : String → Bool) (useCuda useOpenmp autoConfig : Bool)
    (sizing : MemorySizing) (p : ParsedValues) : ConfigM Unit := do
  legateCheck (realm.moduleConfig "core").isSome
  let c ← liftAutoConfiguration (autoconfigure autoConfig sizing realm.resources p.counts)
  setCoreConfigProperties realm used ⟨"--cpus", c.cpus⟩ ⟨"--utility", c.util⟩ ⟨"--sysmem", c.sysmem⟩
    ⟨"--regmem", p.regmemVar⟩
  setCudaConfigProperties realm used useCuda ⟨"--gpus", c.gpus⟩ ⟨"--fbmem", c.fbmem⟩
    ⟨"--zcmem", p.zcmemVar⟩
  setOpenmpConfigProperties realm used useOpenmp ⟨"--omps", c.omps⟩ ⟨"--ompthreads", c.ompthreads⟩
    ⟨"--numamem", c.numamem⟩
  let config ← get
  if !useCuda && config.needCuda then
    throw (.runtimeError "Legate was run with GPUs but was not built with GPU support. Please install Legate again with the \"--with-cuda\" flag")
  else if !useOpenmp && config.needOpenmp then
    throw (.runtimeError "Legate was run with OpenMP enabled, but was not built with OpenMP support. Please install Legate again with the \"--with-openmp\" flag")


theorem handleLegateArgs_eq_ok {realm : Realm} {used : String → Bool}
    {useCuda useOpenmp autoConfig : Bool} {sizing : MemorySizing} {p : ParsedValues}
    {s s' : ConfigState} {u : Unit}
    (h : handleLegateArgs realm used useCuda useOpenmp autoConfig sizing p s = (.ok u, s')) :
    ∃ c s1 s2, autoconfigure autoConfig sizing realm.resources p.counts = .ok c ∧
      setCoreConfigProperties realm used ⟨"--cpus", c.cpus⟩ ⟨"--utility", c.util⟩
        ⟨"--sysmem", c.sysmem⟩ ⟨"--regmem", p.regmemVar⟩ s = (.ok (), s1) ∧
      setCudaConfigProperties realm used useCuda ⟨"--gpus", c.gpus⟩ ⟨"--fbmem", c.fbmem⟩
        ⟨"--zcmem", p.zcmemVar⟩ s1 = (.ok (), s2) ∧
      setOpenmpConfigProperties realm used useOpenmp ⟨"--omps", c.omps⟩
        ⟨"--ompthreads", c.ompthreads⟩ ⟨"--numamem", c.numamem⟩ s2 = (.ok (), s') ∧
      (useCuda || !s'.needCuda) = true ∧ (useOpenmp || !s'.needOpenmp) = true := by
  unfold handleLegateArgs at h
  obtain ⟨_, s0, h0, h⟩ := bind_eq_ok h
  rw [legateCheck_apply] at h0
  split_ifs at h0 <;> cases h0
  obtain ⟨c, t, hc, h⟩ := bind_eq_ok h
  rcases hac : autoconfigure autoConfig sizing realm.resources p.counts with e | c' <;>
    rw [hac] at hc <;> cases hc
  obtain ⟨_, s1, h1, h⟩ := bind_eq_ok h
  obtain ⟨_, s2, h2, h⟩ := bind_eq_ok h
  obtain ⟨_, s3, h3, h⟩ := bind_eq_ok h
  obtain ⟨config, t, hg, h⟩ := bind_eq_ok h
  cases hg
  split_ifs at h with hcu hom <;> cases h
  refine ⟨c, s1, s2, rfl, h1, h2, h3, ?_, ?_⟩
  · revert hcu; cases useCuda <;> cases s'.needCuda <;> decide
  · revert hom; cases useOpenmp <;> cases s'.needOpenmp <;> decide

/-- What a run that returns has set, in a build with CUDA and OpenMP support:
each property of each loaded module, with the value configured for its flag,
in the order the setters run, and the IPC limit when the core module takes
it. -/
def configuredProperties (realm : Realm) (c : Counts) (p : ParsedValues) :
    List (String × String × Int) :=
  realm.entry "core" "cpu" c.cpus.value ++ realm.entry "core" "util" c.util.value ++
    realm.entry "core" "sysmem" c.sysmem.value ++ realm.entry "core" "regmem" p.regmemVar.value ++
    realm.ipcLimitEntry ++
    realm.entry "cuda" "gpu" c.gpus.value ++ realm.entry "cuda" "fbmem" c.fbmem.value ++
    realm.entry "cuda" "zcmem" p.zcmemVar.value ++
    realm.entry "openmp" "ocpu" c.omps.value ++ realm.entry "openmp" "othr" c.ompthreads.value ++
    realm.entry "numa" "numamem" c.numamem.value

/-- A node with eight cores and 16 GiB of system memory, with the OpenMP
module and no CUDA or NUMA module, whose modules take every value. -/
def Realm.sample : Realm where
  moduleConfig m := if m = "core" ∨ m = "openmp" then some fun _ _ => true else none
  resources := ⟨some 8, some (2 ^ 34), none, 0, true, []⟩
  cuda_loaded := rfl
  openmp_loaded := rfl

/-- In a build with CUDA and OpenMP support, a run that returns has
auto-configured the counts, and has set in Realm exactly the configured value
of every property of every loaded module, none of them negative; it needs
GPUs and OpenMP iff it configured some, and with an OpenMP group it records a
positive thread count. -/
theorem handleLegateArgs_configures {realm : Realm} {used : String → Bool} {autoConfig : Bool}
    {sizing : MemorySizing} {p : ParsedValues} {s s' : ConfigState}
    (h : handleLegateArgs realm used true true autoConfig sizing p s = (.ok (), s')) :
    ∃ c, autoconfigure autoConfig sizing realm.resources p.counts = .ok c ∧
      s'.properties = s.properties ++ configuredProperties realm c p ∧
      (∀ e ∈ configuredProperties realm c p, 0 ≤ e.2.2) ∧
      s'.needCuda = (s.needCuda || decide (0 < c.gpus.value)) ∧
      s'.needOpenmp = (s.needOpenmp || decide (0 < c.omps.value)) ∧
      (0 < c.omps.value → s'.numOmpThreads = c.ompthreads.value ∧ 0 < c.ompthreads.value) := by
  obtain ⟨c, s1, s2, hc, h1, h2, h3, -, -⟩ := handleLegateArgs_eq_ok h
  obtain ⟨hcpu, hutil, hsys, hreg, rfl⟩ := setCoreConfigProperties_eq_ok h1
  obtain ⟨hgpu, hcu2, hom2, -, hcuda⟩ := setCudaConfigProperties_eq_ok h2
  obtain ⟨hfb, hzc, hp2⟩ := hcuda rfl
  obtain ⟨homp, hthr, hcu3, hom3, hth3, hopen⟩ := setOpenmpConfigProperties_eq_ok h3
  obtain ⟨hot, hnu, hp3⟩ := hopen rfl
  refine ⟨c, hc, ?_, fun e he => ?_, by rw [hcu3, hcu2], by rw [hom3, hom2],
    fun hpos => ⟨by rw [hth3, if_pos hpos], hthr hpos⟩⟩
  · rw [hp3, hp2]
    simp only [configuredProperties, List.append_assoc]
  · simp only [configuredProperties, List.mem_append] at he
    rcases he with (((((((((he | he) | he) | he) | he) | he) | he) | he) | he) | he) | he <;>
      first
        | (rw [value_of_mem_entry he]; assumption)
        | (rw [value_of_mem_ipcLimitEntry he]; decide)

/-- The default configuration on `Realm.sample`: one CPU, five threads for
one OpenMP group, and no GPU. -/
theorem handleLegateArgs_configures_eight_cores :
    handleLegateArgs .sample (fun _ => false) true true true
        ⟨fun _ => 4096, fun _ _ => 12000, fun _ => 13107⟩ ⟨-1, -1, -1, -1, 2, -1, -1, -1, 128, 0⟩
        ⟨[], false, false, 0⟩ =
      (.ok (), ⟨[("core", "cpu", 1), ("core", "util", 2), ("core", "sysmem", 13107 * MB),
        ("core", "regmem", 0), ("core", "sysmem_ipc_limit", 1024 * MB), ("openmp", "ocpu", 1),
        ("openmp", "othr", 5)], false, true, 5⟩) ∧
    ∃ c, autoconfigure true ⟨fun _ => 4096, fun _ _ => 12000, fun _ => 13107⟩ Realm.sample.resources
        (ParsedValues.counts ⟨-1, -1, -1, -1, 2, -1, -1, -1, 128, 0⟩) = .ok c ∧
      [("core", "cpu", 1), ("core", "util", 2), ("core", "sysmem", 13107 * MB),
        ("core", "regmem", 0), ("core", "sysmem_ipc_limit", 1024 * MB), ("openmp", "ocpu", 1),
        ("openmp", "othr", 5)] = [] ++ configuredProperties .sample c ⟨-1, -1, -1, -1, 2, -1, -1, -1, 128, 0⟩ ∧
      (∀ e ∈ configuredProperties .sample c ⟨-1, -1, -1, -1, 2, -1, -1, -1, 128, 0⟩, 0 ≤ e.2.2) ∧
      false = (false || decide (0 < c.gpus.value)) ∧ true = (false || decide (0 < c.omps.value)) ∧
      (0 < c.omps.value → (5 : Int) = c.ompthreads.value ∧ 0 < c.ompthreads.value) :=
  have h : handleLegateArgs .sample (fun _ => false) true true true
      ⟨fun _ => 4096, fun _ _ => 12000, fun _ => 13107⟩ ⟨-1, -1, -1, -1, 2, -1, -1, -1, 128, 0⟩
      ⟨[], false, false, 0⟩ =
    (.ok (), ⟨[("core", "cpu", 1), ("core", "util", 2), ("core", "sysmem", 13107 * MB),
      ("core", "regmem", 0), ("core", "sysmem_ipc_limit", 1024 * MB), ("openmp", "ocpu", 1),
      ("openmp", "othr", 5)], false, true, 5⟩) := rfl
  ⟨h, handleLegateArgs_configures h⟩

/-- In a build without CUDA (or OpenMP) support, a run that returns has
configured no GPU (or no OpenMP group). -/
theorem handleLegateArgs_unsupported {realm : Realm} {used : String → Bool}
    {useCuda useOpenmp autoConfig : Bool} {sizing : MemorySizing} {p : ParsedValues}
    {s s' : ConfigState}
    (h : handleLegateArgs realm used useCuda useOpenmp autoConfig sizing p s = (.ok (), s')) :
    ∃ c, autoconfigure autoConfig sizing realm.resources p.counts = .ok c ∧
      (useCuda = false → c.gpus.value = 0) ∧ (useOpenmp = false → c.omps.value = 0) := by
  obtain ⟨c, s1, s2, hc, h1, h2, h3, hcu, hom⟩ := handleLegateArgs_eq_ok h
  obtain ⟨hgpu, hcu2, hom2, -, -⟩ := setCudaConfigProperties_eq_ok h2
  obtain ⟨homp, -, hcu3, hom3, -, -⟩ := setOpenmpConfigProperties_eq_ok h3
  refine ⟨c, hc, fun hno => ?_, fun hno => ?_⟩
  · rw [hno, hcu3, hcu2] at hcu
    simp only [Bool.false_or, Bool.not_or, Bool.and_eq_true, Bool.not_eq_true',
      decide_eq_false_iff_not] at hcu
    exact le_antisymm (not_lt.mp hcu.2) hgpu
  · rw [hno, hom3] at hom
    simp only [Bool.false_or, Bool.not_or, Bool.and_eq_true, Bool.not_eq_true',
      decide_eq_false_iff_not] at hom
    exact le_antisymm (not_lt.mp hom.2) homp

/-- The default configuration on `Realm.sample`, in a build without CUDA
support. -/
theorem handleLegateArgs_unsupported_without_cuda :
    handleLegateArgs .sample (fun _ => false) false true true
        ⟨fun _ => 4096, fun _ _ => 12000, fun _ => 13107⟩ ⟨-1, -1, -1, -1, 2, -1, -1, -1, 128, 0⟩
        ⟨[], false, false, 0⟩ =
      (.ok (), ⟨[("core", "cpu", 1), ("core", "util", 2), ("core", "sysmem", 13107 * MB),
        ("core", "regmem", 0), ("core", "sysmem_ipc_limit", 1024 * MB), ("openmp", "ocpu", 1),
        ("openmp", "othr", 5)], false, true, 5⟩) ∧
    ∃ c, autoconfigure true ⟨fun _ => 4096, fun _ _ => 12000, fun _ => 13107⟩ Realm.sample.resources
        (ParsedValues.counts ⟨-1, -1, -1, -1, 2, -1, -1, -1, 128, 0⟩) = .ok c ∧
      (false = false → c.gpus.value = 0) ∧ (true = false → c.omps.value = 0) :=
  have h : handleLegateArgs .sample (fun _ => false) false true true
      ⟨fun _ => 4096, fun _ _ => 12000, fun _ => 13107⟩ ⟨-1, -1, -1, -1, 2, -1, -1, -1, 128, 0⟩
      ⟨[], false, false, 0⟩ =
    (.ok (), ⟨[("core", "cpu", 1), ("core", "util", 2), ("core", "sysmem", 13107 * MB),
      ("core", "regmem", 0), ("core", "sysmem_ipc_limit", 1024 * MB), ("openmp", "ocpu", 1),
      ("openmp", "othr", 5)], false, true, 5⟩) := rfl
  ⟨h, handleLegateArgs_unsupported h⟩

end Legate.Runtime
