import Scaffold.Proofs.Fixture.Naming
import Scaffold.Proofs.Fixture.Synthesis
import Scaffold.Proofs.Fixture.Test

/-!
# Members are tried one by one

Every public method, in the order of the tests, is made into one test or reported by one omission,
and an instance class without a setup has one omission more, before all others (`attempts_settle`).
What is tried for one method does not depend on the signature of another: names follow from the
names of the methods and calls from the class. So another signature of one method changes what this
method contributes and nothing else (`synthesize_isolates`).
-/

namespace Scaffold

/-- The class has another signature for one public method, under the same name. -/
structure ClassDeclaration.Respells (c c' : ClassDeclaration) (m m' : Method) : Prop where
  /-- The method is replaced at one place, and all else stays. -/
  replaces : ∃ front back, c.methods = front ++ m :: back ∧
    c' = { c with methods := front ++ m' :: back }
  isPublic : m.isPublic = true
  isPublic' : m'.isPublic = true
  name : m'.name = m.name

namespace Fixture

namespace Synthesizer

/-! ## What a method contributes -/

/-- What a public method contributes to the fixture of its class. -/
inductive Contributes (c : ClassDeclaration) (m : Method) (name : String) :
    Except Omission Test → Prop where
  /-- A test, when all types in it have placeholders. -/
  | test {t : Test} (tests : Tests name c m t)
      (resolves : ∀ type ∈ m.testedTypes, Resolves m.typeParameters type) :
      Contributes c m name (.ok t)
  /-- An omission, which is reported for the first type that has none. -/
  | omission {o : Omission} {type : String} (offends : Offends m type o.reason)
      (fault : o.fault = .unresolvedDefault c.qualifiedName m.name type) :
      Contributes c m name (.error o)

/-- What is tried for a method under the name of its test. -/
def attempt (s : Synthesizer) (c : ClassDeclaration) (p : Method × String) :
    Except Omission Test :=
  match test s.failureMessage p.2 c p.1 with
  | .ok t => .ok t
  | .error (type, reason) => .error ⟨c.qualifiedName, p.1.name, type, reason⟩

theorem namedMethods_eq (c : ClassDeclaration) : namedMethods c =
    (sortByName c.publicMethods).zip (testNames (sortByName c.publicMethods)) := rfl

theorem attempts_eq (s : Synthesizer) (c : ClassDeclaration) :
    s.attempts c = (namedMethods c).map (s.attempt c) := rfl

theorem contributes_attempt (s : Synthesizer) (c : ClassDeclaration) (p : Method × String) :
    Contributes c p.1 p.2 (s.attempt c p) := by
  unfold attempt
  rcases test_spec s.failureMessage p.2 c p.1 with ⟨t, hrun, htests, hall⟩ | h
  · rw [hrun]
    exact .test htests hall
  · obtain ⟨type, reason, hrun, hoffends⟩ := h
    rw [hrun]
    exact .omission hoffends rfl

/-! ## What a class contributes -/

/-- The outcomes, one for each public method in the order of the tests, account for the tests and
the omissions of the class. -/
structure Settles (s : Synthesizer) (c : ClassDeclaration)
    (outcomes : List (Except Omission Test)) : Prop where
  /-- The methods are in the order of their names, and each contributes its own outcome. -/
  contributes : ∃ sorted, Ordinal c.publicMethods sorted ∧
    List.Forall₂ (fun p outcome => Contributes c p.1 p.2 outcome) (sorted.zip (testNames sorted))
      outcomes
  length : outcomes.length = c.publicMethods.length
  tests : (s.synthesize c).fixture.tests = outcomes.filterMap made
  /-- Before the omissions of methods stands the one of the setup, if the setup of an instance class
  was left out. -/
  omissions : ∃ ofSetup : List Omission,
    (s.synthesize c).omissions = ofSetup ++ outcomes.filterMap leftOut ∧
      ofSetup.length =
        (if c.isStatic = false ∧ (s.synthesize c).fixture.setup.isNone then 1 else 0) ∧
      ∀ o ∈ ofSetup, o.fault = .unresolvedDefault c.qualifiedName "SetUp" o.type

theorem length_ofSetup (s : Synthesizer) (c : ClassDeclaration) :
    ((s.setup? c).bind leftOut).toList.length =
      if c.isStatic = false ∧ (s.synthesize c).fixture.setup.isNone then 1 else 0 := by
  show _ = if c.isStatic = false ∧ ((s.setup? c).bind made).isNone then 1 else 0
  unfold setup?
  cases c.isStatic with
  | true => rfl
  | false => cases (Wiring.ofClass s.classifier c).setup c <;> rfl

theorem fault_ofSetup (s : Synthesizer) (c : ClassDeclaration) :
    ∀ o ∈ ((s.setup? c).bind leftOut).toList,
      o.fault = .unresolvedDefault c.qualifiedName "SetUp" o.type := by
  intro o ho
  obtain ⟨tried, htried, ho⟩ := Option.bind_eq_some_iff.1 (Option.mem_toList.1 ho)
  unfold setup? at htried
  split at htried
  · cases htried
  · split at htried
    · obtain rfl := Option.some.inj htried
      cases ho
    · obtain rfl := Option.some.inj htried
      obtain rfl := Option.some.inj ho
      rfl

/-- Every public method is settled. -/
theorem attempts_settle (s : Synthesizer) (c : ClassDeclaration) :
    s.Settles c (s.attempts c) where
  contributes := by
    refine ⟨sortByName c.publicMethods, ordinal_sortByName c.publicMethods, ?_⟩
    rw [attempts_eq, List.forall₂_map_right_iff]
    exact List.forall₂_same.2 fun p _ => s.contributes_attempt c p
  length := by
    rw [length_attempts, List.countP_eq_length_filter, ClassDeclaration.publicMethods]
  tests := rfl
  omissions :=
    ⟨((s.setup? c).bind leftOut).toList, rfl, s.length_ofSetup c, s.fault_ofSetup c⟩

/-! ## Another signature for one method -/

/-- The two classes, which differ in the signature of one method, have the same fields, the same
setup and the same outcomes for all other methods, under the same names. -/
structure Isolates (s : Synthesizer) (c c' : ClassDeclaration) (m m' : Method) : Prop where
  fields : (s.synthesize c').fixture.fields = (s.synthesize c).fixture.fields
  setup : (s.synthesize c').fixture.setup = (s.synthesize c).fixture.setup
  others : ∃ (before after : List (Method × String)) (name : String)
    (front back : List (Except Omission Test)) (own own' : Except Omission Test),
    namedMethods c = before ++ (m, name) :: after ∧
      namedMethods c' = before ++ (m', name) :: after ∧
      List.Forall₂ (fun p outcome => Contributes c p.1 p.2 outcome) before front ∧
      List.Forall₂ (fun p outcome => Contributes c p.1 p.2 outcome) after back ∧
      Contributes c m name own ∧ Contributes c' m' name own' ∧
      (s.synthesize c).fixture.tests = (front ++ own :: back).filterMap made ∧
      (s.synthesize c').fixture.tests = (front ++ own' :: back).filterMap made

/-- At the place of a method stands the name of its test. -/
theorem testNames_split (before : List Method) (m : Method) (after : List Method) :
    ∃ names name names', testNames (before ++ m :: after) = names ++ name :: names' ∧
      before.length = names.length := by
  have hlength : before.length < (testNames (before ++ m :: after)).length := by
    rw [testNames, length_testNamesAfter, List.length_append, List.length_cons]
    omega
  generalize testNames (before ++ m :: after) = all at hlength
  refine ⟨all.take before.length, all[before.length], all.drop (before.length + 1), ?_, ?_⟩
  · rw [List.getElem_cons_drop hlength, List.take_append_drop]
  · rw [List.length_take_of_le hlength.le]

/-- The names of tests stay, with every method at its place. -/
theorem namedMethods_respell {c c' : ClassDeclaration} {m m' : Method} (h : c.Respells c' m m') :
    ∃ before after name, namedMethods c = before ++ (m, name) :: after ∧
      namedMethods c' = before ++ (m', name) :: after := by
  obtain ⟨front, back, hmethods, rfl⟩ := h.replaces
  have hpublic : c.publicMethods =
      front.filter (·.isPublic) ++ m :: back.filter (·.isPublic) := by
    rw [ClassDeclaration.publicMethods, hmethods, List.filter_append, List.filter_cons,
      if_pos h.isPublic]
  have hpublic' : ClassDeclaration.publicMethods { c with methods := front ++ m' :: back } =
      front.filter (·.isPublic) ++ m' :: back.filter (·.isPublic) := by
    rw [ClassDeclaration.publicMethods, List.filter_append, List.filter_cons, if_pos h.isPublic']
  obtain ⟨before, after, hsorted, hsorted'⟩ := sortByName_replace h.name
    (front.filter (·.isPublic)) (back.filter (·.isPublic))
  have hnames : testNames (before ++ m' :: after) = testNames (before ++ m :: after) :=
    testNames_congr (by simp [h.name])
  -- The name at the place of the method is the one for both.
  obtain ⟨names, name, names', hsplit, hbefore⟩ := testNames_split before m after
  refine ⟨before.zip names, after.zip names', name, ?_, ?_⟩
  · rw [namedMethods_eq, hpublic, hsorted, hsplit, List.zip_append hbefore, List.zip_cons_cons]
  · rw [namedMethods_eq, hpublic', hsorted', hnames, hsplit, List.zip_append hbefore,
      List.zip_cons_cons]

/-- The public methods of a class, in the order of their names with overloads in their order, are
settled one by one: each is made into one test, or reported by one omission for its first type that
has no placeholder; an omission of the setup stands before them. And another signature of one public
method changes neither fields nor setup nor what any other method contributes. -/
theorem synthesize_isolates (s : Synthesizer) (c : ClassDeclaration) :
    (∃ outcomes, s.Settles c outcomes) ∧
      ∀ c' m m', c.Respells c' m m' → s.Isolates c c' m m' := by
  refine ⟨⟨s.attempts c, s.attempts_settle c⟩, fun c' m m' h => ?_⟩
  obtain ⟨before, after, name, hnamed, hnamed'⟩ := namedMethods_respell h
  obtain ⟨front, back, -, rfl⟩ := h.replaces
  -- Beside its methods the class is the same, and nothing else is read for a single test.
  have hsame (p : Method × String) :
      s.attempt { c with methods := front ++ m' :: back } p = s.attempt c p := rfl
  have hcontributes (l : List (Method × String)) :
      List.Forall₂ (fun p outcome => Contributes c p.1 p.2 outcome) l (l.map (s.attempt c)) := by
    rw [List.forall₂_map_right_iff]
    exact List.forall₂_same.2 fun p _ => s.contributes_attempt c p
  exact {
    fields := rfl
    setup := rfl
    others := by
      refine ⟨before, after, name, before.map (s.attempt c), after.map (s.attempt c),
        s.attempt c (m, name), s.attempt c (m', name), hnamed, hnamed', hcontributes before,
        hcontributes after, s.contributes_attempt c (m, name), ?_, ?_, ?_⟩
      · exact s.contributes_attempt { c with methods := front ++ m' :: back } (m', name)
      · rw [(s.attempts_settle c).tests, attempts_eq, hnamed, List.map_append, List.map_cons]
      · rw [(s.attempts_settle _).tests, attempts_eq, hnamed', List.map_append, List.map_cons]
        rfl }

/-- An overload gets a parameter that no test can declare; the other overload keeps its number. -/
theorem synthesize_isolates_overload :
    let run : Method := ⟨"Run", [⟨"x", "int", .byValue⟩], "void", [], false, true⟩
    let run' : Method := ⟨"Run", [⟨"x", "var", .byOut⟩], "int", ["T"], true, true⟩
    let again : Method := ⟨"Run", [], "int", [], false, true⟩
    let other : Method := ⟨"Halt", [], "void", [], false, true⟩
    let c : ClassDeclaration := ⟨"A", "A", "N", false, [other, run, again], [], []⟩
    let c' : ClassDeclaration := { c with methods := [other, run', again] }
    let s : Synthesizer := ⟨.interfaceConvention, "todo"⟩
    c.Respells c' run run' ∧ s.Isolates c c' run run' ∧
      (s.synthesize c).fixture.tests.map (·.name) = ["HaltTest", "RunTest", "RunTest1"] ∧
      (s.synthesize c').fixture.tests.map (·.name) = ["HaltTest", "RunTest1"] := by
  intro run run' again other c c' s
  have h : c.Respells c' run run' := {
    replaces := ⟨[other], [again], rfl, rfl⟩
    isPublic := rfl
    isPublic' := rfl
    name := rfl }
  -- The methods are in the order of their names already.
  have hsorted : sortByName [other, run, again] = [other, run, again] :=
    List.mergeSort_of_pairwise (by decide)
  have hsorted' : sortByName [other, run', again] = [other, run', again] :=
    List.mergeSort_of_pairwise (by decide)
  refine ⟨h, (synthesize_isolates s c).2 c' run run' h, ?_, ?_⟩
  · show ((s.attempts c).filterMap made).map (·.name) = _
    have hpublic : c.publicMethods = [other, run, again] := by decide
    rw [attempts_eq, namedMethods_eq, hpublic, hsorted]
    decide
  · show ((s.attempts c').filterMap made).map (·.name) = _
    have hpublic : c'.publicMethods = [other, run', again] := by decide
    rw [attempts_eq, namedMethods_eq, hpublic, hsorted']
    decide

end Synthesizer

end Fixture

end Scaffold
