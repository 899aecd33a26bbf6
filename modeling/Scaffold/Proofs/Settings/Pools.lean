import Scaffold.Settings.Pools

/-!
# Which pools are accepted

`Pools.validate` looks for the first stage with a size out of range; it accepts exactly the pools
whose sizes are all between 1 and `Pools.most` (`Pools.validate_eq_ok`). A size that a command line
asks for is brought into that range (`Pools.requested_mem_range`), so accepted pools stay accepted
when sizes are asked for (`Pools.validate_request`).
-/

namespace Scaffold.Pools

variable {p : Pools}

/-- A stage is all right exactly when its size is in range. -/
theorem problemAt?_eq_none {stage : Stage} :
    p.problemAt? stage = none ↔ 1 ≤ p.size stage ∧ p.size stage ≤ most := by
  unfold problemAt?
  split
  · simp only [reduceCtorEq, false_iff]
    omega
  · split
    · simp only [reduceCtorEq, false_iff]
      omega
    · simp only [true_iff]
      omega

/-- Pools are accepted exactly when the size of every stage is in range. -/
theorem validate_eq_ok :
    p.validate = .ok () ↔ ∀ stage, 1 ≤ p.size stage ∧ p.size stage ≤ most := by
  have hall (stage : Stage) : stage ∈ Stage.all := by cases stage <;> simp [Stage.all]
  have hnone : p.problem? = none ↔ ∀ stage, 1 ≤ p.size stage ∧ p.size stage ≤ most := by
    unfold problem?
    rw [List.findSome?_eq_none_iff]
    exact ⟨fun h stage => problemAt?_eq_none.1 (h stage (hall stage)),
      fun h stage _ => problemAt?_eq_none.2 (h stage)⟩
  unfold validate
  rw [← hnone]
  cases p.problem? <;> simp

/-! ## Sizes that are asked for -/

/-- The size of a stage that a number asks for, by cases. -/
theorem requested_eq (n : Nat) :
    requested n = if n = 0 then 5 else if 256 < n then 256 else n := by
  unfold requested usual most
  split
  · rfl
  · split <;> omega

/-- Whatever number asks for it, the size is in range. -/
theorem requested_mem_range (n : Nat) : 1 ≤ requested n ∧ requested n ≤ most := by
  unfold requested usual most
  split <;> omega

/-- The sizes that are asked for, by stage. -/
def asked (reading processing writing : Option Nat) : Stage → Option Nat
  | .reading => reading
  | .processing => processing
  | .writing => writing

/-- A stage has the size that is asked for; without a request its size stays. -/
theorem size_request (p : Pools) (reading processing writing : Option Nat) (stage : Stage) :
    (p.request reading processing writing).size stage =
      ((asked reading processing writing stage).map requested).getD (p.size stage) := by
  cases stage <;> rfl

/-- Accepted pools are accepted with any sizes that are asked for. -/
theorem validate_request (h : p.validate = .ok ()) (reading processing writing : Option Nat) :
    (p.request reading processing writing).validate = .ok () := by
  rw [validate_eq_ok] at h ⊢
  intro stage
  have hsize := size_request p reading processing writing stage
  cases hasked : asked reading processing writing stage with
  | none =>
    rw [hasked] at hsize
    rw [hsize]
    exact h stage
  | some n =>
    rw [hasked] at hsize
    rw [hsize]
    exact requested_mem_range n

end Scaffold.Pools
