/-!
# Totals

The total of a weight over a list: how many bytes characters take, how much work is left in a queue.
-/

namespace Scaffold

variable {α β : Type}

/-- The total of a weight over a list. -/
def total (weight : α → Nat) (l : List α) : Nat :=
  l.foldr (fun a n => weight a + n) 0

variable (weight : α → Nat)

@[simp] theorem total_nil : total weight [] = 0 := rfl

@[simp] theorem total_cons (a : α) (l : List α) :
    total weight (a :: l) = weight a + total weight l := rfl

@[simp] theorem total_append (l l' : List α) :
    total weight (l ++ l') = total weight l + total weight l' := by
  induction l with
  | nil => simp
  | cons a l ih => rw [List.cons_append, total_cons, ih, total_cons, Nat.add_assoc]

@[simp] theorem total_map (f : β → α) (l : List β) :
    total weight (l.map f) = total (fun b => weight (f b)) l := by
  induction l with
  | nil => rfl
  | cons b l ih => rw [List.map_cons, total_cons, ih, total_cons]

/-- The total over lists that are put together is the total of their totals. -/
theorem total_flatMap (f : β → List α) (l : List β) :
    total weight (l.flatMap f) = total (fun b => total weight (f b)) l := by
  induction l with
  | nil => rfl
  | cons b l ih => rw [List.flatMap_cons, total_append, ih, total_cons]

/-- The length of lists that are put together is the total of their lengths. -/
theorem length_flatMap_eq_total (f : β → List α) (l : List β) :
    (l.flatMap f).length = total (fun b => (f b).length) l := by
  induction l with
  | nil => rfl
  | cons b l ih => rw [List.flatMap_cons, List.length_append, ih, total_cons]

/-- Counting is adding up ones. -/
theorem countP_eq_total (p : α → Bool) (l : List α) :
    l.countP p = total (fun a => (p a).toNat) l := by
  induction l with
  | nil => rfl
  | cons a l ih =>
    rw [List.countP_cons, ih, total_cons, Nat.add_comm]
    cases p a <;> rfl

/-- The count in lists that are put together is the total of their counts. -/
theorem countP_flatMap (p : α → Bool) (f : β → List α) (l : List β) :
    (l.flatMap f).countP p = total (fun b => (f b).countP p) l := by
  rw [countP_eq_total, total_flatMap]
  simp only [countP_eq_total]

/-- The total of two weights is the sum of their totals. -/
theorem total_add (weight' : α → Nat) (l : List α) :
    total (fun a => weight a + weight' a) l = total weight l + total weight' l := by
  induction l with
  | nil => rfl
  | cons a l ih =>
    simp only [total_cons, ih]
    omega

variable {weight}

theorem total_congr {weight' : α → Nat} {l : List α} (h : ∀ a ∈ l, weight a = weight' a) :
    total weight l = total weight' l := by
  induction l with
  | nil => rfl
  | cons a l ih =>
    obtain ⟨ha, hl⟩ := List.forall_mem_cons.1 h
    rw [total_cons, total_cons, ha, ih hl]

/-- The total does not depend on the order. -/
theorem total_perm {l l' : List α} (h : l.Perm l') : total weight l = total weight l' := by
  induction h with
  | nil => rfl
  | cons a _ ih => rw [total_cons, total_cons, ih]
  | swap a b l =>
    simp only [total_cons]
    omega
  | trans _ _ ih ih' => exact ih.trans ih'

/-- Setting an entry changes the total by the difference of the weights. -/
theorem total_set (weight : α → Nat) {l : List α} {i : Nat} {a : α} (h : l[i]? = some a) (b : α) :
    total weight (l.set i b) + weight a = total weight l + weight b := by
  induction l generalizing i with
  | nil => simp at h
  | cons c l ih =>
    cases i with
    | zero =>
      obtain rfl : c = a := by simpa using h
      simp only [List.set_cons_zero, total_cons]
      omega
    | succ i =>
      have := ih (i := i) (by simpa using h)
      simp only [List.set_cons_succ, total_cons] at this ⊢
      omega

end Scaffold
