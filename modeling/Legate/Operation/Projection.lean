import Mathlib.Tactic.Tauto
import Mathlib.Order.Basic

/-
The ordering of projection infos (`core/operation/detail/projection.cc`,
`BaseProjectionInfo::operator<`).

`BaseProjectionInfo` keys the region requirements of a launch by
`(partition, proj_id, redop)`; launchers keep them in ordered containers, so
`operator<` must be a strict order whose incomparable pairs are exactly the
pairs `operator==` identifies.  Legion's `LogicalPartition` is external: it is
a parameter type with value equality, and `PartitionOrder` is its `operator<`
with the laws of a strict total order.

* `BaseProjectionInfo.lt_irrefl`, `BaseProjectionInfo.lt_trans` — `operator<`
  is a strict order;
* `BaseProjectionInfo.incomparable_iff_eq` — two infos are incomparable
  exactly when `operator==` holds;
* `BaseProjectionInfo.lt_trichotomy` — exactly one of `a < b`, `b < a`,
  `a == b`;
* `BaseProjectionInfo.lt_strictTotalOrder` — the four together.
-/

namespace Legate

/-- Legion's `LogicalPartition::operator<`, a strict total order. -/
structure PartitionOrder (P : Type) where
  lt : P → P → Bool
  lt_irrefl : ∀ a, lt a a = false
  lt_trans : ∀ a b c, lt a b = true → lt b c = true → lt a c = true
  eq_of_incomparable : ∀ a b, lt a b = false → lt b a = false → a = b

/-- The order of natural numbers, a model of `PartitionOrder`. -/
def PartitionOrder.nat : PartitionOrder Nat where
  lt a b := decide (a < b)
  lt_irrefl a := by simp
  lt_trans a b c := by simp only [decide_eq_true_eq]; exact Nat.lt_trans
  eq_of_incomparable a b := by simp only [decide_eq_false_iff_not]; omega

/-- The sort key of a region requirement: partition, projection functor and
reduction operator (`Legion::ProjectionID` and `Legion::ReductionOpID` are
unsigned). -/
structure BaseProjectionInfo (P : Type) where
  partition : P
  projId : Nat
  redop : Nat

namespace BaseProjectionInfo

variable {P : Type} (o : PartitionOrder P)

/-- `BaseProjectionInfo::operator<`. -/
def lt (a b : BaseProjectionInfo P) : Bool :=
  if o.lt a.partition b.partition then true
  else if o.lt b.partition a.partition then false
  else if a.projId < b.projId then true
  else if a.projId > b.projId then false
  else if a.redop < b.redop then true
  else false

/-- `BaseProjectionInfo::operator==`. -/
def eq [DecidableEq P] (a b : BaseProjectionInfo P) : Bool :=
  a.partition = b.partition && a.projId == b.projId && a.redop == b.redop

theorem eq_iff [DecidableEq P] {a b : BaseProjectionInfo P} : eq a b = true ↔ a = b := by
  cases a; cases b; simp [eq, and_assoc]

/-- `operator<` is the lexicographic order: partitions first, then the
projection and reduction ids. -/
theorem lt_iff {a b : BaseProjectionInfo P} :
    lt o a b = true ↔ o.lt a.partition b.partition = true ∨
      (a.partition = b.partition ∧ (a.projId < b.projId ∨
        (a.projId = b.projId ∧ a.redop < b.redop))) := by
  unfold lt
  cases h1 : o.lt a.partition b.partition
  · cases h2 : o.lt b.partition a.partition
    · have := o.eq_of_incomparable _ _ h1 h2
      simp only [this, true_and]
      rcases Nat.lt_trichotomy a.projId b.projId with h | h | h
      · simp [h]
      · simp [h]
      · simp [h, Nat.not_lt_of_gt h, Nat.ne_of_gt h]
    · have : a.partition ≠ b.partition := by rintro h; simp [h, o.lt_irrefl] at h2
      simp [this]
  · simp

theorem lt_irrefl (a : BaseProjectionInfo P) : lt o a a = false := by
  simp [lt, o.lt_irrefl]

theorem lt_trans {a b c : BaseProjectionInfo P} (hab : lt o a b = true) (hbc : lt o b c = true) :
    lt o a c = true := by
  rw [lt_iff] at *
  rcases hab with hab | ⟨hab, hab'⟩ <;> rcases hbc with hbc | ⟨hbc, hbc'⟩
  · exact .inl (o.lt_trans _ _ _ hab hbc)
  · exact .inl (hbc ▸ hab)
  · exact .inl (hab ▸ hbc)
  · exact .inr ⟨hab.trans hbc, by omega⟩

theorem lt_asymm {a b : BaseProjectionInfo P} (hab : lt o a b = true) : lt o b a = false := by
  cases h : lt o b a
  · rfl
  · simpa [lt_irrefl] using lt_trans o hab h

/-- Incomparability under `operator<` is exactly `operator==`: an ordered
container keyed by projection infos neither merges distinct keys nor splits
equal ones. -/
theorem incomparable_iff_eq [DecidableEq P] (a b : BaseProjectionInfo P) :
    (lt o a b = false ∧ lt o b a = false) ↔ eq a b = true := by
  rw [eq_iff]
  constructor
  · rintro ⟨hab, hba⟩
    have h1 : ¬lt o a b = true := by simp [hab]
    have h2 : ¬lt o b a = true := by simp [hba]
    rw [lt_iff, not_or] at h1 h2
    obtain ⟨pa, ia, ra⟩ := a
    obtain ⟨pb, ib, rb⟩ := b
    obtain rfl : pa = pb := o.eq_of_incomparable _ _ (by simpa using h1.1) (by simpa using h2.1)
    simp only [true_and, mk.injEq] at h1 h2 ⊢
    omega
  · rintro rfl
    exact ⟨lt_irrefl o a, lt_irrefl o a⟩

/-- Exactly one of `a < b`, `b < a` and `a == b` holds. -/
theorem lt_trichotomy [DecidableEq P] (a b : BaseProjectionInfo P) :
    (lt o a b = true ∨ lt o b a = true ∨ eq a b = true) ∧
      ¬(lt o a b = true ∧ lt o b a = true) ∧
      ¬(lt o a b = true ∧ eq a b = true) ∧
      ¬(lt o b a = true ∧ eq a b = true) := by
  have hinc := incomparable_iff_eq o a b
  refine ⟨?_, fun ⟨h1, h2⟩ => ?_, fun ⟨h1, h2⟩ => ?_, fun ⟨h1, h2⟩ => ?_⟩
  · cases h1 : lt o a b <;> cases h2 : lt o b a <;> simp_all
  · simp [lt_asymm o h1] at h2
  · simp [hinc.mpr h2] at h1
  · simp [hinc.mpr h2] at h1

/-- `operator<` is a strict total order on the keys that agrees with
`operator==`: irreflexive, transitive, incomparable exactly on `==` pairs,
and for every two keys exactly one of `a < b`, `b < a`, `a == b` holds. -/
theorem lt_strictTotalOrder [DecidableEq P] :
    (∀ a : BaseProjectionInfo P, lt o a a = false) ∧
    (∀ a b c : BaseProjectionInfo P, lt o a b = true → lt o b c = true → lt o a c = true) ∧
    (∀ a b : BaseProjectionInfo P, (lt o a b = false ∧ lt o b a = false) ↔ eq a b = true) ∧
    ∀ a b : BaseProjectionInfo P, (lt o a b = true ∨ lt o b a = true ∨ eq a b = true) ∧
      ¬(lt o a b = true ∧ lt o b a = true) ∧ ¬(lt o a b = true ∧ eq a b = true) ∧
      ¬(lt o b a = true ∧ eq a b = true) :=
  ⟨lt_irrefl o, fun _ _ _ => lt_trans o, incomparable_iff_eq o, lt_trichotomy o⟩

end BaseProjectionInfo

end Legate
