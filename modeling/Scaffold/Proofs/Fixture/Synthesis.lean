import Scaffold.Fixture.Synthesis

/-!
# No member is lost in synthesis

For each public method of a class there is a test or an omission, and for an instance class there is
a setup or an omission beside them (`Synthesizer.synthesize_conserves`).
-/

namespace Scaffold.Fixture

/-- There is one name for each method. -/
theorem length_testNamesAfter (previous : Option String) (k : Nat) (methods : List Method) :
    (testNamesAfter previous k methods).length = methods.length := by
  induction methods generalizing previous k with
  | nil => rfl
  | cons m methods ih => rw [testNamesAfter, List.length_cons, ih, List.length_cons]

namespace Synthesizer

/-- What was tried was made or left out. -/
theorem length_made_add_leftOut {α : Type} (tried : List (Except Omission α)) :
    (tried.filterMap made).length + (tried.filterMap leftOut).length = tried.length := by
  induction tried with
  | nil => rfl
  | cons a tried ih => cases a <;> simp [made, leftOut, List.filterMap_cons] <;> omega

/-- Every public method is tried once. -/
theorem length_attempts (s : Synthesizer) (c : ClassDeclaration) :
    (s.attempts c).length = c.methods.countP (·.isPublic) := by
  have hsort : (sortByName c.publicMethods).length = c.publicMethods.length :=
    List.length_mergeSort _
  rw [attempts, List.length_map, namedMethods, List.length_zip, testNames, length_testNamesAfter,
    Nat.min_self, hsort, ClassDeclaration.publicMethods, List.countP_eq_length_filter]

/-- A setup is tried for an instance class, and is made or left out. -/
theorem length_setup (s : Synthesizer) (c : ClassDeclaration) :
    ((s.setup? c).bind made).toList.length + ((s.setup? c).bind leftOut).toList.length =
      if c.isStatic then 0 else 1 := by
  unfold setup?
  split
  · rfl
  · split <;> rfl

/-- The tests, the setup and the omissions of a class are as many as its public methods, and one
more for an instance class. -/
theorem synthesize_conserves (s : Synthesizer) (c : ClassDeclaration) :
    (s.synthesize c).fixture.tests.length + (s.synthesize c).fixture.setup.toList.length +
        (s.synthesize c).omissions.length =
      c.methods.countP (·.isPublic) + if c.isStatic then 0 else 1 := by
  have hattempts := length_made_add_leftOut (s.attempts c)
  have hsetup := s.length_setup c
  rw [length_attempts] at hattempts
  simp only [synthesize, List.length_append]
  omega

end Synthesizer

end Scaffold.Fixture
