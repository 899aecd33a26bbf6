import Mathlib.Data.String.Basic
import Scaffold.Fixture.Naming

/-!
# The order and the names of tests

Methods are sorted by name and overloads keep their order (`ordinal_sortByName`), which says all
there is to say about the order. The names of tests follow from the sorted names alone
(`testNames_congr`). So a method that gets another signature under its name stays at its place, and
no method around it moves or gets another test name (`sortByName_replace`).
-/

namespace Scaffold.Fixture

/-! ## The order of tests -/

/-- Whether `a` can stand before `b` when methods are in the order of their names. -/
def nameLE (a b : Method) : Bool :=
  !(b.name < a.name)

theorem nameLE_iff {a b : Method} : nameLE a b = true ↔ a.name ≤ b.name := by
  unfold nameLE
  rw [Bool.not_eq_true', decide_eq_false_iff_not, not_lt]

theorem nameLE_trans (a b c : Method) (hab : nameLE a b = true) (hbc : nameLE b c = true) :
    nameLE a c = true := by
  rw [nameLE_iff] at hab hbc ⊢
  exact hab.trans hbc

theorem nameLE_total (a b : Method) : (nameLE a b || nameLE b a) = true := by
  rw [Bool.or_eq_true, nameLE_iff, nameLE_iff]
  exact le_total a.name b.name

/-- The methods in the order of their names, with overloads in the order in which they are given. -/
structure Ordinal (methods sorted : List Method) : Prop where
  perm : sorted.Perm methods
  ordered : sorted.Pairwise fun a b => a.name ≤ b.name
  stable : ∀ name, sorted.filter (·.name = name) = methods.filter (·.name = name)

theorem perm_sortByName (methods : List Method) : (sortByName methods).Perm methods :=
  List.mergeSort_perm methods nameLE

/-- Sorting leaves the methods of one name in their order. -/
theorem filter_sortByName (methods : List Method) (name : String) :
    (sortByName methods).filter (·.name = name) = methods.filter (·.name = name) := by
  -- The methods of the name are in order as they are, so they stay a sublist.
  have hordered : (methods.filter (·.name = name)).Pairwise fun a b => nameLE a b = true := by
    rw [List.pairwise_filter]
    refine List.pairwise_of_forall fun a b ha hb => ?_
    rw [nameLE_iff, of_decide_eq_true ha, of_decide_eq_true hb]
  have hsublist : (methods.filter (·.name = name)).Sublist (sortByName methods) :=
    List.sublist_mergeSort nameLE_trans nameLE_total hordered List.filter_sublist
  have hfiltered := hsublist.filter (·.name = name)
  rw [List.filter_filter] at hfiltered
  simp only [Bool.and_self] at hfiltered
  have hlength := ((perm_sortByName methods).filter (·.name = name)).length_eq
  exact (hfiltered.eq_of_length hlength.symm).symm

theorem ordinal_sortByName (methods : List Method) : Ordinal methods (sortByName methods) where
  perm := perm_sortByName methods
  ordered := (List.pairwise_mergeSort nameLE_trans nameLE_total methods).imp nameLE_iff.1
  stable := filter_sortByName methods

/-! ## Another signature under the same name -/

/-- A method that is replaced by one of its name stays at its place among the sorted methods, and no
other method moves. -/
theorem sortByName_replace {m m' : Method} (hname : m'.name = m.name) (front back : List Method) :
    ∃ before after, sortByName (front ++ m :: back) = before ++ m :: after ∧
      sortByName (front ++ m' :: back) = before ++ m' :: after := by
  -- Both lists are sorted at once, as pairs of what stands at one place in the one and the other.
  let twice (l : List Method) : List (Method × Method) := l.map fun a => (a, a)
  have htwice (l : List Method) : ∀ p ∈ twice l, p.1 = p.2 := by
    intro p hp
    obtain ⟨a, -, rfl⟩ := List.mem_map.1 hp
    rfl
  let pairs := twice front ++ (m, m') :: twice back
  have hfst : pairs.map Prod.fst = front ++ m :: back := by
    simp [pairs, twice, Function.comp_def]
  have hsnd : pairs.map Prod.snd = front ++ m' :: back := by
    simp [pairs, twice, Function.comp_def]
  have hpair : ∀ p ∈ pairs, p.2.name = p.1.name := by
    intro p hp
    rcases List.mem_append.1 hp with hp | hp
    · rw [htwice front p hp]
    · rcases List.mem_cons.1 hp with rfl | hp
      · exact hname
      · rw [htwice back p hp]
  let sorted := pairs.mergeSort fun p q => nameLE p.1 q.1
  have hsortedFst : sorted.map Prod.fst = sortByName (front ++ m :: back) := by
    rw [← hfst]
    exact List.map_mergeSort fun _ _ _ _ => rfl
  have hsortedSnd : sorted.map Prod.snd = sortByName (front ++ m' :: back) := by
    rw [← hsnd]
    refine List.map_mergeSort fun p hp q hq => ?_
    unfold nameLE
    rw [hpair p hp, hpair q hq]
  -- Every other pair has the same method twice, and stays such a pair.
  have hperm : sorted.Perm pairs := List.mergeSort_perm pairs _
  have hmem : (m, m') ∈ sorted :=
    hperm.mem_iff.2 (List.mem_append_right _ List.mem_cons_self)
  obtain ⟨before, after, hsplit⟩ := List.append_of_mem hmem
  have hothers : (before ++ after).Perm (twice front ++ twice back) := by
    rw [hsplit] at hperm
    exact (List.perm_middle.symm.trans (hperm.trans List.perm_middle)).cons_inv
  have hsame : ∀ p ∈ before ++ after, p.1 = p.2 := by
    intro p hp
    rcases List.mem_append.1 (hothers.mem_iff.1 hp) with hp | hp
    · exact htwice front p hp
    · exact htwice back p hp
  rw [List.forall_mem_append] at hsame
  refine ⟨before.map Prod.fst, after.map Prod.fst, ?_, ?_⟩
  · rw [← hsortedFst, hsplit, List.map_append, List.map_cons]
  · rw [← hsortedSnd, hsplit, List.map_append, List.map_cons, List.map_congr_left hsame.1,
      List.map_congr_left hsame.2]

/-! ## The names of tests -/

theorem testNamesAfter_congr {methods methods' : List Method}
    (h : methods.map (·.name) = methods'.map (·.name)) (previous : Option String) (k : Nat) :
    testNamesAfter previous k methods = testNamesAfter previous k methods' := by
  induction methods generalizing methods' previous k with
  | nil =>
    obtain rfl := List.map_eq_nil_iff.1 h.symm
    rfl
  | cons m methods ih =>
    cases methods' with
    | nil => cases h
    | cons m' methods' =>
      rw [List.map_cons, List.map_cons, List.cons.injEq] at h
      rw [testNamesAfter, testNamesAfter, h.1]
      exact congrArg _ (ih h.2 _ _)

/-- The names of tests follow from the names of the methods. -/
theorem testNames_congr {methods methods' : List Method}
    (h : methods.map (·.name) = methods'.map (·.name)) : testNames methods = testNames methods' :=
  testNamesAfter_congr h none 0

end Scaffold.Fixture
