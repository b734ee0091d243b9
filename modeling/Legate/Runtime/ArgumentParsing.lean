import Mathlib.Tactic.Ring

/-
Auto-configuration of the processors and memories
(`cpp/legate/runtime/detail/argument_parsing.cc`, the `autoconfigure_*`
functions and `autoconfigure`).

The processor counts are `ScaledVar<std::int32_t>`s and the memory sizes
`ScaledVar<std::int64_t>`s; the cores left for CPU and OpenMP processors are
computed in `int`:

* `autoconfigureCpus_spec` — when `autoconfigure_cpus` derives the CPU count
  from the detected cores `R`, it throws iff `R - util - gpus ≤ 0` and
  otherwise leaves `cpus + util + gpus ≤ R`;
* `autoconfigureOmpthreads_spec` — likewise `autoconfigure_ompthreads`, as
  long as `R - cpus - util - gpus` is an `int`;
* `autoconfigure_ompthreads_wraps` — a configuration where it is not, and
  the difference wraps to a large thread count instead of an error;
* `autoconfigure_idem` — `autoconfigure` reaches a fixed point: run again on
  the counts and sizes it returned, it returns them unchanged.

Design notes: the memory sizes are computed in floating point,
`static_cast<std::int64_t>(std::floor(fraction * bytes / MB))`; `MemorySizing`
takes these values as functions of the bytes reported, and the model keeps
every branch and every throw around them.  What the Realm modules report is a
`Resources` record.
-/

namespace Legate.Runtime

/-- Arithmetic in a signed integer type of `bits` bits: the value modulo
`2 ^ bits`, read as two's complement. -/
def wrapInt (bits : Nat) (x : Int) : Int := (x + 2 ^ (bits - 1)) % 2 ^ bits - 2 ^ (bits - 1)

theorem wrapInt_of_bounds {bits : Nat} {x : Int} (hb : 0 < bits) (h1 : -2 ^ (bits - 1) ≤ x)
    (h2 : x < 2 ^ (bits - 1)) : wrapInt bits x = x := by
  have hp : (2 : Int) ^ bits = 2 * 2 ^ (bits - 1) := by
    rw [← pow_succ']; congr 1; omega
  unfold wrapInt
  rw [hp, Int.emod_eq_of_lt (by omega) (by omega)]
  omega

theorem wrapInt32_of_bounds {x : Int} (h1 : -2 ^ 31 ≤ x) (h2 : x < 2 ^ 31) : wrapInt 32 x = x :=
  wrapInt_of_bounds (by decide) h1 h2

/-- `constexpr std::int64_t MB = 1 << 20;` -/
def MB : Int := 2 ^ 20

/-- `MINIMAL_MEM`, in MB. -/
def MINIMAL_MEM : Int := 256

/-- `ScaledVar<T>` for a signed `T` of `bits` bits: a default, a scale and the
value set, `UNSET` while none is. -/
structure ScaledVar (bits : Nat) where
  defaultValue : Int
  scale : Int
  value_ : Int

namespace ScaledVar

variable {bits : Nat}

/-- `ScaledVar::UNSET`: `std::numeric_limits<T>::max()`. -/
def UNSET (bits : Nat) : Int := 2 ^ (bits - 1) - 1

/-- `ScaledVar(default_val, scale)`: unset. -/
def ofDefault (defaultVal scale : Int) : ScaledVar bits := ⟨defaultVal, scale, UNSET bits⟩

/-- `ScaledVar::raw_value()` -/
def rawValue (v : ScaledVar bits) : Int := if v.value_ = UNSET bits then v.defaultValue else v.value_

/-- `ScaledVar::value()`: the product is computed in `T`. -/
def value (v : ScaledVar bits) : Int := wrapInt bits (v.rawValue * v.scale)

/-- `ScaledVar::set()` -/
def set (v : ScaledVar bits) (x : Int) : ScaledVar bits := { v with value_ := x }

@[simp] theorem value_set (v : ScaledVar bits) (x : Int) :
    (v.set x).value = wrapInt bits ((if x = UNSET bits then v.defaultValue else x) * v.scale) := rfl

/-- Setting a value again replaces what was set. -/
theorem set_set (v : ScaledVar bits) (x y : Int) : (v.set x).set y = v.set y := rfl

theorem UNSET_32 : UNSET 32 = 2 ^ 31 - 1 := rfl

end ScaledVar

/-- `AutoConfigurationError`, with its message. -/
structure AutoConfigurationError where
  what : String

/-- What the Realm modules report: the `cpu` and `sysmem` resources of the
core module, the `gpu` resource of the CUDA module when it is loaded and the
free memory the CUDA driver reports for the first GPU, whether the OpenMP
module is loaded, and `numa_mems`, the size of each NUMA domain. -/
structure Resources where
  cpu : Option Int
  sysmem : Option Nat
  cudaGpu : Option (Option Int)
  fbmem : Nat
  openmp : Bool
  numaMems : List Nat

/-- The sizes in MB the memory auto-configuration computes in floating point:
`std::floor(0.95 * bytes / MB)` for a frame buffer,
`std::floor(0.8 * bytes / MB / omps_per_numa)` for a NUMA domain and
`std::floor(0.8 * bytes / MB)` for the system memory, each cast to
`std::int64_t`. -/
structure MemorySizing where
  fbmem : Nat → Int
  numamem : Nat → Nat → Int
  sysmem : Nat → Int

section

variable (autoConfig : Bool) (sizing : MemorySizing)

/-- `autoconfigure_gpus` -/
def autoconfigureGpus (cuda : Option (Option Int)) (gpus : ScaledVar 32) :
    Except AutoConfigurationError (ScaledVar 32) :=
  if gpus.value ≥ 0 then .ok gpus
  else if autoConfig then
    match cuda with
    | some (some autoGpus) => .ok (gpus.set autoGpus)
    | some none => .error ⟨"CUDA Realm module could not determine the number of GPUs."⟩
    | none => .ok (gpus.set 0)
  else .ok (gpus.set 0)

/-- `autoconfigure_fbmem` -/
def autoconfigureFbmem (cudaLoaded : Bool) (resFbmem : Nat) (gpus : Int) (fbmem : ScaledVar 64) :
    ScaledVar 64 :=
  if fbmem.value ≥ 0 then fbmem
  else if gpus ≤ 0 then fbmem.set 0
  else if autoConfig && cudaLoaded then fbmem.set (sizing.fbmem resFbmem)
  else fbmem.set MINIMAL_MEM

/-- `autoconfigure_omps` -/
def autoconfigureOmps (openmp : Bool) (numaMems : List Nat) (gpus : Int) (omps : ScaledVar 32) :
    ScaledVar 32 :=
  if omps.value ≥ 0 then omps
  else if !autoConfig || !openmp then omps.set 0
  else if gpus > 0 then omps.set gpus
  else omps.set (max (wrapInt 32 numaMems.length) 1)

/-- `autoconfigure_numamem`: `omps` is positive where it is converted to
`std::size_t`. -/
def autoconfigureNumamem (numaMems : List Nat) (omps : Int) (numamem : ScaledVar 64) :
    ScaledVar 64 :=
  if numamem.value ≥ 0 then numamem
  else if omps ≤ 0 || numaMems.isEmpty || omps.toNat % numaMems.length ≠ 0 then numamem.set 0
  else if !autoConfig then numamem.set MINIMAL_MEM
  else
    let ompsPerNuma := (omps.toNat + numaMems.length - 1) / numaMems.length
    numamem.set (sizing.numamem (numaMems.headD 0) ompsPerNuma)

/-- `autoconfigure_cpus` -/
def autoconfigureCpus (resNumCpus : Option Int) (omps util gpus : Int) (cpus : ScaledVar 32) :
    Except AutoConfigurationError (ScaledVar 32) :=
  if cpus.value ≥ 0 then .ok cpus
  else if !autoConfig || omps > 0 then .ok (cpus.set 1)
  else if gpus > 0 then .ok (cpus.set gpus)
  else
    match resNumCpus with
    | none => .error ⟨"Core Realm module could not determine the number of CPU cores."⟩
    | some r =>
      if r = 0 then .error ⟨"Core Realm module detected 0 CPU cores while configuring CPUs."⟩
      else
      let autoCpus := wrapInt 32 (r - util - gpus)
      if autoCpus ≤ 0 then
        .error ⟨s!"No CPU cores left to allocate to CPU processors. Have {r}, but need {util} for utility processors, and {gpus} for GPU processors."⟩
      else .ok (cpus.set autoCpus)

/-- `autoconfigure_sysmem` -/
def autoconfigureSysmem (resSysmem : Option Nat) (numamem : Int) (sysmem : ScaledVar 64) :
    Except AutoConfigurationError (ScaledVar 64) :=
  if sysmem.value ≥ 0 then .ok sysmem
  else if !autoConfig || numamem > 0 then .ok (sysmem.set MINIMAL_MEM)
  else
    match resSysmem with
    | none => .error ⟨"Core Realm module could not determine the available system memory."⟩
    | some size => .ok (sysmem.set (sizing.sysmem size))

/-- `autoconfigure_ompthreads`: `std::floor` of an `int` quotient is the
quotient, rounded toward zero. -/
def autoconfigureOmpthreads (resNumCpus : Option Int) (util cpus gpus omps : Int)
    (ompthreads : ScaledVar 32) : Except AutoConfigurationError (ScaledVar 32) :=
  if ompthreads.value ≥ 0 then .ok ompthreads
  else if omps ≤ 0 then .ok (ompthreads.set 0)
  else if !autoConfig then .ok (ompthreads.set 1)
  else
    match resNumCpus with
    | none => .error ⟨"Core Realm module could not determine the number of CPU cores."⟩
    | some r =>
      if r = 0 then
        .error ⟨"Core Realm module detected 0 CPU cores while configuring the number of OpenMP threads."⟩
      else
      let autoOmpthreads := (wrapInt 32 (r - cpus - util - gpus)).tdiv omps
      if autoOmpthreads ≤ 0 then
        .error ⟨s!"Not enough CPU cores to split across {omps} OpenMP processor(s). Have {r}, but need {cpus} for CPU processors, {util} for utility processors, {gpus} for GPU processors, and at least {omps} for OpenMP processors (1 core each)."⟩
      else .ok (ompthreads.set autoOmpthreads)

/-- The counts and sizes `autoconfigure` fills in. -/
structure Counts where
  util : ScaledVar 32
  cpus : ScaledVar 32
  gpus : ScaledVar 32
  omps : ScaledVar 32
  ompthreads : ScaledVar 32
  sysmem : ScaledVar 64
  fbmem : ScaledVar 64
  numamem : ScaledVar 64

/-- `autoconfigure`, in the source's order. -/
def autoconfigure (res : Resources) (c : Counts) : Except AutoConfigurationError Counts := do
  let gpus ← autoconfigureGpus autoConfig res.cudaGpu c.gpus
  let fbmem := autoconfigureFbmem autoConfig sizing res.cudaGpu.isSome res.fbmem gpus.value c.fbmem
  let omps := autoconfigureOmps autoConfig res.openmp res.numaMems gpus.value c.omps
  let numamem := autoconfigureNumamem autoConfig sizing res.numaMems omps.value c.numamem
  let cpus ← autoconfigureCpus autoConfig res.cpu omps.value c.util.value gpus.value c.cpus
  let sysmem ← autoconfigureSysmem autoConfig sizing res.sysmem numamem.value c.sysmem
  let ompthreads ← autoconfigureOmpthreads autoConfig res.cpu c.util.value cpus.value gpus.value
    omps.value c.ompthreads
  pure { c with gpus, fbmem, omps, numamem, cpus, sysmem, ompthreads }

end

/-- A quotient rounded toward zero is positive iff the divisor fits in the
dividend. -/
theorem tdiv_pos_iff {a b : Int} (hb : 0 < b) : 0 < a.tdiv b ↔ b ≤ a := by
  rcases le_or_lt 0 a with ha | ha
  · rw [Int.tdiv_eq_ediv ha hb.le, ← Int.add_one_le_iff, zero_add, Int.le_ediv_iff_mul_le hb, one_mul]
  · have : 0 ≤ (-a).tdiv b := Int.tdiv_nonneg (by omega) hb.le
    rw [show a = -(-a) by omega, Int.neg_tdiv]
    omega

theorem mul_tdiv_le {a b : Int} (ha : 0 ≤ a) (hb : 0 < b) : b * a.tdiv b ≤ a := by
  rw [Int.tdiv_eq_ediv ha hb.le]
  exact Int.mul_ediv_self_le hb.ne'

/-- When `autoconfigure_cpus` derives the CPU count from `R` cores, it throws
iff no core is left after the utility and GPU processors, and otherwise
leaves `cpus + util + gpus ≤ R`. -/
theorem autoconfigureCpus_spec {r omps util gpus : Int} {cpus : ScaledVar 32}
    (hr : 1 ≤ r) (hr' : r < 2 ^ 31) (hutil : 1 ≤ util) (hutil' : util < 2 ^ 31)
    (hgpus : 0 ≤ gpus) (hgpus' : gpus ≤ 0) (homps : omps ≤ 0) (hcpus : cpus.value < 0)
    (hscale : cpus.scale = 1) :
    ((∃ e, autoconfigureCpus true (some r) omps util gpus cpus = .error e) ↔ r - util - gpus ≤ 0) ∧
    ∀ cpus', autoconfigureCpus true (some r) omps util gpus cpus = .ok cpus' →
      cpus'.value + util + gpus ≤ r := by
  have hX : wrapInt 32 (r - util - gpus) = r - util - gpus := wrapInt32_of_bounds (by omega) (by omega)
  simp only [autoconfigureCpus, hX, if_neg (not_le.mpr hcpus), Bool.not_true, Bool.false_or,
    decide_eq_true_eq, if_neg (not_lt.mpr homps), if_neg (not_lt.mpr hgpus'), if_neg (show r ≠ 0 by omega)]
  split_ifs with h
  · exact ⟨iff_of_true ⟨_, rfl⟩ h, fun _ hc => nomatch hc⟩
  · refine ⟨iff_of_false (fun ⟨_, he⟩ => nomatch he) h, fun c' hc => ?_⟩
    cases hc
    rw [ScaledVar.value_set, ScaledVar.UNSET_32, if_neg (by omega), hscale, mul_one, hX]
    omega

theorem autoconfigureCpus_spec_four_cores :
    ((∃ e, autoconfigureCpus true (some 4) 0 2 0 (.ofDefault (-1) 1) = .error e) ↔
      (4 : Int) - 2 - 0 ≤ 0) ∧
    ∀ cpus', autoconfigureCpus true (some 4) 0 2 0 (.ofDefault (-1) 1) = .ok cpus' →
      cpus'.value + 2 + 0 ≤ 4 :=
  autoconfigureCpus_spec (by decide) (by decide) (by decide) (by decide) le_rfl le_rfl le_rfl
    (by decide) rfl

/-- When `autoconfigure_ompthreads` derives the thread count from `R` cores
and `R - cpus - util - gpus` is an `int`, it throws iff fewer cores than
OpenMP groups are left, and otherwise gives every group at least one thread
within the `R` cores. -/
theorem autoconfigureOmpthreads_spec {r util cpus gpus omps : Int} {ompthreads : ScaledVar 32}
    (hr : 1 ≤ r) (hr' : r < 2 ^ 31) (hutil : 1 ≤ util) (hcpus : 0 ≤ cpus) (hgpus : 0 ≤ gpus)
    (homps : 1 ≤ omps) (hthreads : ompthreads.value < 0) (hscale : ompthreads.scale = 1)
    (hwrap : -2 ^ 31 ≤ r - cpus - util - gpus) :
    ((∃ e, autoconfigureOmpthreads true (some r) util cpus gpus omps ompthreads = .error e) ↔
      r - cpus - util - gpus < omps) ∧
    ∀ t, autoconfigureOmpthreads true (some r) util cpus gpus omps ompthreads = .ok t →
      1 ≤ t.value ∧ cpus + util + gpus + omps * t.value ≤ r := by
  have hX : wrapInt 32 (r - cpus - util - gpus) = r - cpus - util - gpus :=
    wrapInt32_of_bounds hwrap (by omega)
  have hpos : 0 < (r - cpus - util - gpus).tdiv omps ↔ omps ≤ r - cpus - util - gpus :=
    tdiv_pos_iff (by omega)
  simp only [autoconfigureOmpthreads, hX, if_neg (not_le.mpr hthreads), if_neg (show ¬omps ≤ 0 by omega),
    Bool.not_true, Bool.false_eq_true, ↓reduceIte, if_neg (show r ≠ 0 by omega)]
  split_ifs with h
  · exact ⟨iff_of_true ⟨_, rfl⟩ (by omega), fun _ hc => nomatch hc⟩
  · refine ⟨iff_of_false (fun ⟨_, he⟩ => nomatch he) (by omega), fun t ht => ?_⟩
    cases ht
    set q := (r - cpus - util - gpus).tdiv omps
    have hle : omps * q ≤ r - cpus - util - gpus := mul_tdiv_le (by omega) (by omega)
    have hq : q ≤ omps * q := by
      simpa using Int.mul_le_mul_of_nonneg_right homps (by omega : 0 ≤ q)
    rw [ScaledVar.value_set, ScaledVar.UNSET_32, if_neg (by omega), hscale, mul_one,
      wrapInt32_of_bounds (by omega) (by omega)]
    omega

theorem autoconfigureOmpthreads_spec_eight_cores :
    ((∃ e, autoconfigureOmpthreads true (some 8) 1 1 0 2 (.ofDefault (-1) 1) = .error e) ↔
      (8 : Int) - 1 - 1 - 0 < 2) ∧
    ∀ t, autoconfigureOmpthreads true (some 8) 1 1 0 2 (.ofDefault (-1) 1) = .ok t →
      1 ≤ t.value ∧ 1 + 1 + 0 + 2 * t.value ≤ 8 :=
  autoconfigureOmpthreads_spec (by decide) (by decide) le_rfl (by decide) le_rfl (by decide)
    (by decide) rfl (by decide)

/-- One core and `--cpus 2147483646 --utility 2 --gpus 3 --omps 1`, the
memory sizes left to auto-configuration and the core module reporting its
system memory: fewer cores are left than OpenMP groups, but
`1 - 2147483646 - 2 - 3` wraps in `int`, and `autoconfigure` sets
`2147483646` threads per group instead of throwing, whatever the memory
sizes come to. -/
theorem autoconfigure_ompthreads_wraps (sizing : MemorySizing) :
    (1 : Int) - 2147483646 - 2 - 3 < 1 ∧
      (autoconfigure true sizing ⟨some 1, some (2 ^ 34), none, 0, true, []⟩
          ⟨⟨2, 1, 2⟩, ⟨-1, 1, 2147483646⟩, ⟨-1, 1, 3⟩, ⟨-1, 1, 1⟩, .ofDefault (-1) 1,
            .ofDefault (-1) MB, .ofDefault (-1) MB, .ofDefault (-1) MB⟩).map (·.ompthreads) =
        .ok ⟨-1, 1, 2147483646⟩ :=
  ⟨by decide, rfl⟩

/-- Each `autoconfigure_*` keeps a value that is set, and otherwise sets it to
one that does not depend on the value: run again on what it returned, it
returns that. -/
theorem autoconfigureGpus_idem {ac : Bool} {cuda : Option (Option Int)} {v v' : ScaledVar 32}
    (h : autoconfigureGpus ac cuda v = .ok v') : autoconfigureGpus ac cuda v' = .ok v' := by
  unfold autoconfigureGpus at h ⊢
  by_cases hv : v'.value ≥ 0
  · rw [if_pos hv]
  rw [if_neg hv]
  split_ifs at h with h0 h1
  · cases h; exact absurd h0 hv
  · rw [if_pos h1]
    split at h <;> cases h <;> rw [ScaledVar.set_set]
  · cases h; rw [if_neg h1, ScaledVar.set_set]

/-- The shape of `autoconfigure_fbmem`, `autoconfigure_omps` and
`autoconfigure_numamem`: keep a value that is set, otherwise set one of three. -/
theorem keepOrSet_idem {bits : Nat} {c₁ c₂ : Prop} [Decidable c₁] [Decidable c₂] {x₁ x₂ x₃ : Int}
    {v v' : ScaledVar bits}
    (h : (if v.value ≥ 0 then v else if c₁ then v.set x₁ else if c₂ then v.set x₂ else v.set x₃) = v') :
    (if v'.value ≥ 0 then v' else if c₁ then v'.set x₁ else if c₂ then v'.set x₂ else v'.set x₃) = v' := by
  by_cases hv : v'.value ≥ 0
  · rw [if_pos hv]
  rw [if_neg hv]
  split_ifs at h with h0 h1 h2 <;> subst h
  · exact absurd h0 hv
  · rw [if_pos h1, ScaledVar.set_set]
  · rw [if_neg h1, if_pos h2, ScaledVar.set_set]
  · rw [if_neg h1, if_neg h2, ScaledVar.set_set]

theorem autoconfigureFbmem_idem {ac cudaLoaded : Bool} {sizing : MemorySizing} {resFbmem : Nat}
    {gpus : Int} {v v' : ScaledVar 64}
    (h : autoconfigureFbmem ac sizing cudaLoaded resFbmem gpus v = v') :
    autoconfigureFbmem ac sizing cudaLoaded resFbmem gpus v' = v' :=
  keepOrSet_idem h

theorem autoconfigureOmps_idem {ac openmp : Bool} {numaMems : List Nat} {gpus : Int}
    {v v' : ScaledVar 32} (h : autoconfigureOmps ac openmp numaMems gpus v = v') :
    autoconfigureOmps ac openmp numaMems gpus v' = v' :=
  keepOrSet_idem h

theorem autoconfigureNumamem_idem {ac : Bool} {sizing : MemorySizing} {numaMems : List Nat}
    {omps : Int} {v v' : ScaledVar 64} (h : autoconfigureNumamem ac sizing numaMems omps v = v') :
    autoconfigureNumamem ac sizing numaMems omps v' = v' :=
  keepOrSet_idem h

theorem autoconfigureCpus_idem {ac : Bool} {res : Option Int} {omps util gpus : Int}
    {v v' : ScaledVar 32} (h : autoconfigureCpus ac res omps util gpus v = .ok v') :
    autoconfigureCpus ac res omps util gpus v' = .ok v' := by
  unfold autoconfigureCpus at h ⊢
  by_cases hv : v'.value ≥ 0
  · rw [if_pos hv]
  rw [if_neg hv]
  split_ifs at h with h0 h1 h2
  · cases h; exact absurd h0 hv
  · cases h; rw [if_pos h1, ScaledVar.set_set]
  · cases h; rw [if_neg h1, if_pos h2, ScaledVar.set_set]
  · rw [if_neg h1, if_neg h2]
    split at h
    · cases h
    · dsimp only at h ⊢
      split_ifs at h with h3 h4
      cases h
      rw [if_neg h3, if_neg h4, ScaledVar.set_set]

theorem autoconfigureSysmem_idem {ac : Bool} {sizing : MemorySizing} {res : Option Nat}
    {numamem : Int} {v v' : ScaledVar 64}
    (h : autoconfigureSysmem ac sizing res numamem v = .ok v') :
    autoconfigureSysmem ac sizing res numamem v' = .ok v' := by
  unfold autoconfigureSysmem at h ⊢
  by_cases hv : v'.value ≥ 0
  · rw [if_pos hv]
  rw [if_neg hv]
  split_ifs at h with h0 h1
  · cases h; exact absurd h0 hv
  · cases h; rw [if_pos h1, ScaledVar.set_set]
  · rw [if_neg h1]
    split at h <;> cases h
    rw [ScaledVar.set_set]

theorem autoconfigureOmpthreads_idem {ac : Bool} {res : Option Int} {util cpus gpus omps : Int}
    {v v' : ScaledVar 32} (h : autoconfigureOmpthreads ac res util cpus gpus omps v = .ok v') :
    autoconfigureOmpthreads ac res util cpus gpus omps v' = .ok v' := by
  unfold autoconfigureOmpthreads at h ⊢
  by_cases hv : v'.value ≥ 0
  · rw [if_pos hv]
  rw [if_neg hv]
  split_ifs at h with h0 h1 h2
  · cases h; exact absurd h0 hv
  · cases h; rw [if_pos h1, ScaledVar.set_set]
  · cases h; rw [if_neg h1, if_pos h2, ScaledVar.set_set]
  · rw [if_neg h1, if_neg h2]
    split at h
    · cases h
    · dsimp only at h ⊢
      split_ifs at h with h3 h4
      cases h
      rw [if_neg h3, if_neg h4, ScaledVar.set_set]

/-- Auto-configuration reaches a fixed point: run again on the counts and
sizes it returned, `autoconfigure` returns them unchanged, whatever the Realm
modules report and whether auto-configuration is on. -/
theorem autoconfigure_idem {ac : Bool} {sizing : MemorySizing} {res : Resources} {c c' : Counts}
    (h : autoconfigure ac sizing res c = .ok c') : autoconfigure ac sizing res c' = .ok c' := by
  simp only [autoconfigure, bind, Except.bind] at h ⊢
  split at h
  · cases h
  rename_i gpus hg
  split at h
  · cases h
  rename_i cpus hc
  split at h
  · cases h
  rename_i sysmem hs
  split at h
  · cases h
  rename_i ompthreads ho
  cases h
  simp only [autoconfigureGpus_idem hg, autoconfigureFbmem_idem rfl, autoconfigureOmps_idem rfl,
    autoconfigureNumamem_idem rfl, autoconfigureCpus_idem hc, autoconfigureSysmem_idem hs,
    autoconfigureOmpthreads_idem ho]
  rfl

/-- Eight cores, 16 GiB of system memory in one NUMA domain, no GPU, and the
default configuration. -/
theorem autoconfigure_idem_eight_cores :
    autoconfigure true ⟨fun _ => 4096, fun _ _ => 12000, fun _ => 13107⟩
        ⟨some 8, some (2 ^ 34), none, 0, true, [2 ^ 34]⟩
        ⟨.ofDefault 2 1, .ofDefault (-1) 1, .ofDefault (-1) 1, .ofDefault (-1) 1, .ofDefault (-1) 1,
          .ofDefault (-1) MB, .ofDefault (-1) MB, .ofDefault (-1) MB⟩ =
      .ok ⟨.ofDefault 2 1, ⟨-1, 1, 1⟩, ⟨-1, 1, 0⟩, ⟨-1, 1, 1⟩, ⟨-1, 1, 5⟩,
        ⟨-1, MB, 256⟩, ⟨-1, MB, 0⟩, ⟨-1, MB, 12000⟩⟩ ∧
    autoconfigure true ⟨fun _ => 4096, fun _ _ => 12000, fun _ => 13107⟩
        ⟨some 8, some (2 ^ 34), none, 0, true, [2 ^ 34]⟩
        ⟨.ofDefault 2 1, ⟨-1, 1, 1⟩, ⟨-1, 1, 0⟩, ⟨-1, 1, 1⟩, ⟨-1, 1, 5⟩,
          ⟨-1, MB, 256⟩, ⟨-1, MB, 0⟩, ⟨-1, MB, 12000⟩⟩ =
      .ok ⟨.ofDefault 2 1, ⟨-1, 1, 1⟩, ⟨-1, 1, 0⟩, ⟨-1, 1, 1⟩, ⟨-1, 1, 5⟩,
        ⟨-1, MB, 256⟩, ⟨-1, MB, 0⟩, ⟨-1, MB, 12000⟩⟩ :=
  have h : autoconfigure true ⟨fun _ => 4096, fun _ _ => 12000, fun _ => 13107⟩
      ⟨some 8, some (2 ^ 34), none, 0, true, [2 ^ 34]⟩
      ⟨.ofDefault 2 1, .ofDefault (-1) 1, .ofDefault (-1) 1, .ofDefault (-1) 1, .ofDefault (-1) 1,
        .ofDefault (-1) MB, .ofDefault (-1) MB, .ofDefault (-1) MB⟩ =
      .ok ⟨.ofDefault 2 1, ⟨-1, 1, 1⟩, ⟨-1, 1, 0⟩, ⟨-1, 1, 1⟩, ⟨-1, 1, 5⟩,
        ⟨-1, MB, 256⟩, ⟨-1, MB, 0⟩, ⟨-1, MB, 12000⟩⟩ := rfl
  ⟨h, autoconfigure_idem h⟩

end Legate.Runtime
