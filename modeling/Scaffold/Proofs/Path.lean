import Scaffold.Path

/-!
# The order of paths

Components are ordered by their form and then by their text, which is a linear order. So the order
of paths is a total preorder, and the paths that it does not tell apart are the same place.
-/

namespace Scaffold.Path

namespace Component

/-- The text of a name; other components have none. -/
def label : Component → String
  | name text => text
  | _ => ""

/-- Components are compared by rank and then by label. -/
theorem compare_eq :
    (compare : Component → Component → Ordering) =
      compareLex (compareOn rank) (compareOn label) := by
  funext a b
  cases a <;> cases b <;> rfl

instance : Std.TransOrd Component := by
  rw [Std.TransOrd, compare_eq]
  infer_instance

instance : Std.LawfulEqOrd Component where
  eq_of_compare {a b} h := by
    rw [compare_eq, compareLex_eq_eq] at h
    have hrank : a.rank = b.rank := Std.LawfulEqOrd.eq_of_compare h.1
    have hlabel : a.label = b.label := Std.LawfulEqOrd.eq_of_compare h.2
    cases a <;> cases b <;> simp_all [rank, label]

end Component

instance : Std.TransCmp order :=
  inferInstanceAs (Std.TransCmp (compareOn components))

/-- The order takes two paths for equal exactly when they are the same place. -/
theorem order_eq_eq {p q : Path} : p.order q = .eq ↔ p.Same q :=
  Std.LawfulEqOrd.compare_eq_iff_eq

/-- Two spellings of one place are in the same order to any path. -/
theorem order_congr_left {p q : Path} (h : p.Same q) (r : Path) : p.order r = q.order r :=
  Std.TransCmp.congr_left (order_eq_eq.2 h)

/-- What is in order before or after a path is another place. -/
theorem not_same_of_order_ne {p q r : Path} (h : p.Same q) (horder : p.order r ≠ .eq) :
    ¬ r.Same q :=
  fun hr => horder (order_eq_eq.2 (h.trans hr.symm))

end Scaffold.Path
