import Scaffold.Proofs.Fixture.Members
import Scaffold.Proofs.Text.Ends
import Scaffold.Proofs.Text.Lines

/-!
# The locals of a routine

A test declares one local for each parameter of its method, under the name of the parameter, and for
a method that returns something `actual` and `expected` beside them (`localNames_body`). The setup
declares one for each parameter of the constructor that is not mocked (`localNames_setup`). Nothing
renames these locals. So a local is declared twice in a test exactly when the method returns
something and has a parameter that is called `actual` or `expected`
(`Synthesizer.locals_distinct_iff`), and a routine hides a field exactly when one of these parameters
is called like it (`Synthesizer.fields_hidden_iff`). The names of fields begin with an underscore, so
it takes a parameter with one in front.
-/

namespace Scaffold.Fixture

/-- The names of the locals that statements declare, in order. -/
def localNames (statements : List Statement) : List String :=
  statements.filterMap Statement.local?

theorem localNames_append (front back : List Statement) :
    localNames (front ++ back) = localNames front ++ localNames back :=
  List.filterMap_append

/-! ## The locals of a test -/

/-- The locals that a test declares beside those for parameters. -/
def resultLocals (returnType : String) : List String :=
  if returnType = voidType then [] else ["actual", "expected"]

variable {failureMessage name : String} {c : ClassDeclaration} {m : Method} {t : Test}

theorem localNames_body (h : Written failureMessage name c m t) :
    localNames t.body = m.parameters.map (·.name) ++ resultLocals m.returnType := by
  cases h with
  | bare hreturns harrange =>
    rw [Test.body, localNames_append, localNames, locals_of_forall₂ harrange, resultLocals,
      if_pos hreturns]
    rfl
  | returning hreturns harrange _ =>
    rw [Test.body, localNames_append, localNames, locals_of_forall₂ harrange, resultLocals,
      if_neg hreturns]
    rfl

/-- Among distinct names, those of the other locals come twice when they are there already. -/
theorem nodup_append_resultLocals_iff {names : List String} (hnames : names.Nodup)
    (returnType : String) : (names ++ resultLocals returnType).Nodup ↔
      returnType = voidType ∨ ∀ name ∈ names, name ≠ "actual" ∧ name ≠ "expected" := by
  unfold resultLocals
  split
  · rename_i hreturns
    rw [List.append_nil]
    exact iff_of_true hnames (.inl hreturns)
  · rename_i hreturns
    have hresults : ["actual", "expected"].Nodup := by decide
    rw [List.nodup_append, or_iff_right hreturns, and_iff_right hnames, and_iff_right hresults]
    simp

/-! ## The locals of a setup -/

namespace Synthesizer

variable {s : Synthesizer} {setup : Setup}

/-- A setup assigns the mocks, declares the locals and creates the object, all as the slots say. -/
theorem statements_of_setup (h : (s.synthesize c).fixture.setup = some setup) :
    setup.statements = (Wiring.slotsOf s.classifier c).filterMap Slot.assignment? ++
      (Wiring.slotsOf s.classifier c).filterMap Slot.local? ++
        [.assign (fieldName c.simpleName)
          (.create c.qualifiedName ((Wiring.slotsOf s.classifier c).map Slot.argument))] := by
  rw [eq_of_setup (setup_of_fixture h), Wiring.ofClass_eq]
  rfl

/-- Where there is a setup, every parameter that is not mocked has its local. -/
theorem locals_of_setup (h : (s.synthesize c).fixture.setup = some setup) :
    List.Forall₂ (LocalFor []) (s.classifier.locals c.createdWith)
      ((Wiring.slotsOf s.classifier c).filterMap Slot.local?) := by
  have hrun := setup_of_fixture h
  rcases locals_slots [fieldName c.simpleName] c.createdWith with
    ⟨-, hlocals⟩ | ⟨p, reason, hfailure, -⟩
  · exact hlocals
  · rw [Wiring.ofClass_eq] at hrun
    unfold Wiring.setup Wiring.extend Wiring.slotsOf at hrun
    rw [hfailure] at hrun
    cases hrun

theorem localNames_setup (h : (s.synthesize c).fixture.setup = some setup) :
    localNames setup.statements = (s.classifier.locals c.createdWith).map (·.name) := by
  have hmocks : localNames ((Wiring.slotsOf s.classifier c).filterMap Slot.assignment?) = [] := by
    refine List.filterMap_eq_nil_iff.2 fun st hst => ?_
    obtain ⟨slot, -, hslot⟩ := List.mem_filterMap.1 hst
    obtain ⟨mock, -, rfl⟩ := Option.map_eq_some_iff.1 hslot
    rfl
  rw [statements_of_setup h, localNames_append, localNames_append, hmocks, localNames,
    locals_of_forall₂ (locals_of_setup h)]
  exact List.append_nil _

/-! ## Every local once -/

/-- The tests of a class are those of methods in their order. -/
theorem exists_tested (s : Synthesizer) (c : ClassDeclaration) :
    ∃ tested, tested.Sublist (sortByName c.publicMethods) ∧
      List.Forall₂ (fun m t => test s.failureMessage t.name c m = .ok t) tested
        (s.synthesize c).fixture.tests := by
  refine ⟨_, sublist_sortByName c fun p => (s.attempt c p).isOk, ?_⟩
  rw [List.forall₂_map_left_iff]
  refine (forall₂_made (s.attempt c) (namedMethods c)).imp fun p t h => ?_
  rw [(tests_of_attempt h).name]
  exact test_of_attempt h

theorem sortByName_singleton (m : Method) : sortByName [m] = [m] :=
  List.mergeSort_of_pairwise (List.pairwise_singleton _ _)

/-- A class with a single method has its test, unless it was left out. -/
theorem tests_of_singleton (s : Synthesizer) (h : c.publicMethods = [m]) :
    (s.synthesize c).fixture.tests = (made (s.attempt c (m, testName m.name 0))).toList := by
  show (s.attempts c).filterMap made = _
  rw [attempts_eq, namedMethods_eq, h, sortByName_singleton]
  show [s.attempt c (m, testName m.name 0)].filterMap made = _
  rw [List.filterMap_cons]
  cases made (s.attempt c (m, testName m.name 0)) <;> rfl

/-- A test declares its parameters, and for a method that returns something `actual` and `expected`.
Where the parameters have distinct names, all these locals are distinct exactly when the method
returns nothing or has no parameter of these two names. -/
theorem locals_distinct_iff (s : Synthesizer) (c : ClassDeclaration) :
    ∃ tested, tested.Sublist (sortByName c.publicMethods) ∧
      List.Forall₂ (fun m t => test s.failureMessage t.name c m = .ok t ∧
        localNames t.body = m.parameters.map (·.name) ++
          (if m.returnType = "void" then [] else ["actual", "expected"]) ∧
        ((m.parameters.map (·.name)).Nodup →
          ((localNames t.body).Nodup ↔ m.returnType = "void" ∨
            ∀ p ∈ m.parameters, p.name ≠ "actual" ∧ p.name ≠ "expected")))
        tested (s.synthesize c).fixture.tests := by
  obtain ⟨tested, hsublist, htests⟩ := s.exists_tested c
  refine ⟨tested, hsublist, htests.imp fun m t htest => ?_⟩
  have hnames := localNames_body (written_of_test htest)
  refine ⟨htest, hnames, fun hdistinct => ?_⟩
  rw [hnames, nodup_append_resultLocals_iff hdistinct, List.forall_mem_map]
  rfl

/-- A method with two parameters, neither of which is called like the other locals. -/
theorem locals_distinct_iff_sum :
    let add : Method :=
      ⟨"Add", [⟨"left", "int", .byValue⟩, ⟨"right", "int", .byValue⟩], "int", [], false, true⟩
    let c : ClassDeclaration := ⟨"Sum", "Sum", "N", false, [add], [], []⟩
    let s : Synthesizer := ⟨.interfaceConvention, "todo"⟩
    (add.parameters.map (·.name)).Nodup ∧
      (s.synthesize c).fixture.tests.map (·.name) = ["AddTest"] ∧
      ∀ t ∈ (s.synthesize c).fixture.tests,
        localNames t.body = ["left", "right", "actual", "expected"] ∧
          (localNames t.body).Nodup := by
  intro add c s
  have hdistinct : (add.parameters.map (·.name)).Nodup := by decide
  have hsorted : sortByName c.publicMethods = [add] := sortByName_singleton add
  refine ⟨hdistinct, ?_, ?_⟩
  · rw [s.tests_of_singleton rfl]
    decide
  obtain ⟨tested, hsublist, htests⟩ := locals_distinct_iff s c
  rw [hsorted] at hsublist
  have htested : ∀ m ∈ tested, m = add := fun m hm => List.mem_singleton.1 (hsublist.subset hm)
  have hall := ((List.forall₂_and_left tested _).2 ⟨htested, htests⟩).flip
  refine forall_of_forall₂ (fun t m ⟨hm, _, hnames, hiff⟩ => ?_) hall
  subst hm
  exact ⟨hnames, (hiff hdistinct).2 (.inr (by decide))⟩

/-- A method that compares: its parameters are called like the two locals that are added. -/
theorem locals_twice_in_comparison :
    let compare : Method :=
      ⟨"Compare", [⟨"expected", "int", .byValue⟩, ⟨"actual", "int", .byValue⟩], "int", [], false,
        true⟩
    let c : ClassDeclaration := ⟨"Comparer", "Comparer", "App", false, [compare], [], []⟩
    let s : Synthesizer := ⟨.interfaceConvention, "autogenerated"⟩
    (compare.parameters.map (·.name)).Nodup ∧
      (s.synthesize c).fixture.tests.map (fun t => localNames t.body) =
        [["expected", "actual", "actual", "expected"]] ∧
      ¬ ["expected", "actual", "actual", "expected"].Nodup := by
  intro compare c s
  refine ⟨by decide, ?_, by decide⟩
  rw [s.tests_of_singleton rfl]
  decide

end Synthesizer

/-! ## Names of fields -/

/-- What an expression takes for the name of a field: the mock whose object it is, or what it calls a
method on. -/
def Expr.fieldUse? : Expr → Option String
  | .mockObject field => some field
  | .invoke target _ _ => some target
  | _ => none

/-- What a statement assigns to. -/
def Statement.target? : Statement → Option String
  | assign target _ => some target
  | _ => none

/-- What a statement takes for names of fields: what it assigns to, and what is taken for one inside
it. -/
def Statement.fieldUses (statement : Statement) : List String :=
  statement.target?.toList ++ statement.parts.filterMap Expr.fieldUse?

theorem head?_candidate {wanted : String} {first : Char} (h : wanted.toList.head? = some first)
    (n : Nat) : (candidate wanted n).toList.head? = some first := by
  unfold candidate
  split
  · exact h
  · exact Text.head?_append h
  · exact Text.head?_append (Text.head?_append h)

theorem head?_freeName (taken : List String) (identifier : String) :
    (freeName taken (fieldName identifier)).toList.head? = some '_' := by
  have hwanted : (fieldName identifier).toList.head? = some '_' := Text.head?_append rfl
  obtain ⟨n, -, hname⟩ := firstFree_eq_candidate taken (fieldName identifier) 0 taken.length
  rw [freeName, hname]
  exact head?_candidate hwanted n

/-- The names of mocks begin with an underscore. -/
theorem head?_of_mem_slots (classifier : Classifier) (taken : List String) (ps : List Parameter) :
    ∀ slot ∈ slots classifier taken ps, ∀ name, slot.mock = some name →
      name.toList.head? = some '_' := by
  induction ps generalizing taken with
  | nil => simp [slots]
  | cons p ps ih =>
    cases h : classifier.isAbstraction p.type with
    | true =>
      rw [slots_cons_of_pos h, List.forall_mem_cons]
      refine ⟨fun name hname => ?_, ih _⟩
      obtain rfl := Option.some.inj hname
      exact head?_freeName taken p.name
    | false =>
      rw [slots_cons_of_neg h, List.forall_mem_cons]
      exact ⟨fun name hname => absurd hname (by simp), ih taken⟩

/-! ## What is taken for a field -/

theorem filterMap_fieldUse?_partsAll (arguments : List Argument) :
    (Argument.partsAll arguments).filterMap Expr.fieldUse? =
      arguments.flatMap fun a => a.parts.filterMap Expr.fieldUse? := by
  rw [partsAll_eq, List.filterMap_flatMap]

/-- A statement around the call of a method takes what this is called on for a field, and none of the
arguments. -/
theorem fieldUses_act {act : Statement} (hparts : act.parts = (call c m).parts)
    (htarget : act.target? = none) : act.fieldUses = [callTarget c m] := by
  have harguments : (m.parameters.map passOn).flatMap
      (fun a => a.parts.filterMap Expr.fieldUse?) = [] := by
    rw [List.flatMap_map, List.flatMap_eq_nil_iff]
    exact fun p _ => rfl
  have hcall : (call c m).fieldUse? = some (callTarget c m) := rfl
  rw [call] at hcall
  rw [Statement.fieldUses, hparts, htarget, call, Expr.parts, List.filterMap_cons_some hcall,
    filterMap_fieldUse?_partsAll, harguments]
  rfl

theorem fieldUses_locals {typeParameters : List String} {parameters : List Parameter}
    {locals : List Statement} (h : List.Forall₂ (LocalFor typeParameters) parameters locals) :
    locals.flatMap Statement.fieldUses = [] := by
  refine List.flatMap_eq_nil_iff.2 (forall_of_forall₂ (fun l p ⟨value, _, hl⟩ => ?_) h.flip)
  rw [hl]
  rfl

/-- In a test only what the method is called on is taken for a field. -/
theorem fieldUses_body (h : Written failureMessage name c m t) :
    t.body.flatMap Statement.fieldUses = [callTarget c m] := by
  cases h with
  | bare _ harrange =>
    rw [Test.body, List.flatMap_append, fieldUses_locals harrange, List.flatMap_cons,
      fieldUses_act rfl rfl]
    rfl
  | returning _ harrange _ =>
    rw [Test.body, List.flatMap_append, fieldUses_locals harrange, List.flatMap_cons,
      fieldUses_act rfl rfl]
    rfl

theorem fieldUses_assignments (slots : List Slot) :
    (slots.filterMap Slot.assignment?).flatMap Statement.fieldUses = slots.filterMap (·.mock) := by
  induction slots with
  | nil => rfl
  | cons slot slots ih =>
    obtain ⟨p, _ | mock⟩ := slot
    · exact ih
    · exact congrArg (mock :: ·) ih

theorem fieldUses_arguments (slots : List Slot) :
    (slots.map Slot.argument).flatMap (fun a => a.parts.filterMap Expr.fieldUse?) =
      slots.filterMap (·.mock) := by
  induction slots with
  | nil => rfl
  | cons slot slots ih =>
    obtain ⟨p, _ | mock⟩ := slot
    · exact ih
    · exact congrArg (mock :: ·) ih

namespace Synthesizer

variable {s : Synthesizer} {setup : Setup}

/-- A setup takes the mocks for fields when it assigns them, then the object under test, and then
the mocks again. -/
theorem fieldUses_setup (h : (s.synthesize c).fixture.setup = some setup) :
    setup.statements.flatMap Statement.fieldUses =
      (Wiring.slotsOf s.classifier c).filterMap (·.mock) ++ fieldName c.simpleName ::
        (Wiring.slotsOf s.classifier c).filterMap (·.mock) := by
  have hcreate (arguments : List Argument) :
      (Statement.assign (fieldName c.simpleName) (.create c.qualifiedName arguments)).fieldUses =
        fieldName c.simpleName :: arguments.flatMap fun a => a.parts.filterMap Expr.fieldUse? := by
    rw [Statement.fieldUses, Statement.parts, Expr.parts, List.filterMap_cons_none rfl,
      filterMap_fieldUse?_partsAll]
    rfl
  rw [statements_of_setup h, List.flatMap_append, List.flatMap_append, fieldUses_assignments,
    fieldUses_locals (locals_of_setup h), List.append_nil, List.flatMap_singleton, hcreate,
    fieldUses_arguments]

theorem head?_of_mem_fieldNames (s : Synthesizer) {c : ClassDeclaration} (hc : c.isStatic = false)
    {name : String} (h : name ∈ (s.synthesize c).fixture.fields.map (·.name)) :
    name.toList.head? = some '_' := by
  rw [s.fieldNames_of_not_isStatic hc, List.mem_cons, List.mem_filterMap] at h
  obtain rfl | ⟨slot, hslot, hname⟩ := h
  · exact Text.head?_append rfl
  · exact head?_of_mem_slots _ _ _ slot hslot name hname

/-- What a routine of an instance class takes for a field is one, and the last statement of the setup
fills the first field, which holds the object under test. A field is hidden in the setup exactly
when a parameter of the constructor that is not mocked is called like it, and in a test exactly when
a parameter of the method is. The names of fields begin with an underscore, so a parameter that
hides one does. -/
theorem fields_hidden_iff (s : Synthesizer) (c : ClassDeclaration) (hc : c.isStatic = false) :
    let fixture := (s.synthesize c).fixture
    let names := fixture.fields.map (·.name)
    names.head? = some (fieldName c.simpleName) ∧
      (∀ name ∈ names, name.toList.head? = some '_') ∧
      (∀ setup, fixture.setup = some setup →
        (∀ name ∈ setup.statements.flatMap Statement.fieldUses, name ∈ names) ∧
          (∃ front value, setup.statements = front ++ [.assign (fieldName c.simpleName) value]) ∧
          ∀ name ∈ names, name ∈ localNames setup.statements ↔
            ∃ p ∈ s.classifier.locals c.createdWith, p.name = name) ∧
      ∃ tested, tested.Sublist (sortByName c.publicMethods) ∧
        List.Forall₂ (fun m t => test s.failureMessage t.name c m = .ok t ∧
          (m.isStatic = false → t.body.flatMap Statement.fieldUses = [fieldName c.simpleName]) ∧
          ∀ name ∈ names, name ∈ localNames t.body ↔ ∃ p ∈ m.parameters, p.name = name)
          tested fixture.tests := by
  intro fixture names
  have hnames : names = fieldName c.simpleName ::
      (Wiring.slotsOf s.classifier c).filterMap (·.mock) := s.fieldNames_of_not_isStatic hc
  have hunderscore : ∀ name ∈ names, name.toList.head? = some '_' :=
    fun name => s.head?_of_mem_fieldNames hc
  refine ⟨by rw [hnames, List.head?_cons], hunderscore, fun setup hsetup => ⟨?_, ?_, ?_⟩, ?_⟩
  · rw [fieldUses_setup hsetup, hnames]
    intro name hname
    obtain hname | hname := List.mem_append.1 hname
    · exact List.mem_cons_of_mem _ hname
    · exact hname
  · exact ⟨_, _, statements_of_setup hsetup⟩
  · intro name _
    rw [localNames_setup hsetup, List.mem_map]
  · obtain ⟨tested, hsublist, htests⟩ := s.exists_tested c
    refine ⟨tested, hsublist, htests.imp fun m t htest => ⟨htest, fun hm => ?_, ?_⟩⟩
    · rw [fieldUses_body (written_of_test htest), callTarget, if_neg (by simp [hc, hm])]
    · intro name hname
      -- The locals that are added have no underscore.
      have hresult : name ∉ resultLocals m.returnType := by
        have hhead := hunderscore name hname
        unfold resultLocals
        split
        · exact List.not_mem_nil
        · rw [List.mem_cons, List.mem_singleton]
          rintro (rfl | rfl) <;> exact absurd hhead (by decide)
      rw [localNames_body (written_of_test htest), List.mem_append, or_iff_left hresult,
        List.mem_map]

/-- A mock that has to be renamed beside a local, and no parameter with an underscore. -/
theorem fields_hidden_iff_reader :
    let read : Method := ⟨"Read", [⟨"count", "int", .byRef⟩], "int", [], false, true⟩
    let k : Constructor := ⟨[⟨"reader", "IReader", .byValue⟩, ⟨"size", "int", .byValue⟩]⟩
    let c : ClassDeclaration := ⟨"Reader", "Reader", "App", false, [read], [k], []⟩
    let s : Synthesizer := ⟨.interfaceConvention, "todo"⟩
    let fixture := (s.synthesize c).fixture
    c.isStatic = false ∧ fixture.fields.map (·.name) = ["_reader", "_readerMock"] ∧
      (∃ setup, fixture.setup = some setup ∧
        ∀ name ∈ ["_reader", "_readerMock"], name ∉ localNames setup.statements) ∧
      fixture.tests.map (·.name) = ["ReadTest"] ∧
      ∀ t ∈ fixture.tests, t.body.flatMap Statement.fieldUses = ["_reader"] ∧
        ∀ name ∈ ["_reader", "_readerMock"], name ∉ localNames t.body := by
  intro read k c s fixture
  have hc : c.isStatic = false := rfl
  have hfields : fixture.fields.map (·.name) = ["_reader", "_readerMock"] := by decide
  have hobject : fieldName c.simpleName = "_reader" := by decide
  have hlocals : s.classifier.locals c.createdWith = [⟨"size", "int", .byValue⟩] := by decide
  have hsorted : sortByName c.publicMethods = [read] := sortByName_singleton read
  obtain ⟨setup, hsetup⟩ : ∃ setup, fixture.setup = some setup := ⟨_, rfl⟩
  obtain ⟨-, -, hhidden, tested, hsublist, htests⟩ := fields_hidden_iff s c hc
  obtain ⟨-, -, hhidden⟩ := hhidden setup hsetup
  rw [hfields, hlocals] at hhidden
  rw [hfields] at htests
  rw [hsorted] at hsublist
  refine ⟨hc, hfields, ⟨setup, hsetup, fun name hname => ?_⟩, ?_, ?_⟩
  · rw [hhidden name hname]
    revert name
    decide
  · rw [s.tests_of_singleton rfl]
    decide
  · have htested : ∀ m ∈ tested, m = read := fun m hm => List.mem_singleton.1 (hsublist.subset hm)
    have hall := ((List.forall₂_and_left tested _).2 ⟨htested, htests⟩).flip
    refine forall_of_forall₂ (fun t m ⟨hm, _, huses, hhidden⟩ => ?_) hall
    subst hm
    refine ⟨hobject ▸ huses rfl, fun name hname => ?_⟩
    rw [hhidden name hname]
    revert name
    decide

/-- A class with a parameter called like the field of the object under test, both in its constructor
and in a method: the setup assigns the new object to its local, and the test calls the method on its
local. -/
theorem field_hidden_by_parameter :
    let merge : Method := ⟨"Merge", [⟨"_cart", "Cart", .byValue⟩], "void", [], false, true⟩
    let k : Constructor := ⟨[⟨"_cart", "Cart", .byValue⟩]⟩
    let c : ClassDeclaration := ⟨"Cart", "Cart", "App", false, [merge], [k], []⟩
    let s : Synthesizer := ⟨.interfaceConvention, "autogenerated"⟩
    let fixture := (s.synthesize c).fixture
    fixture.fields.map (·.name) = ["_cart"] ∧
      fixture.setup.map (fun setup =>
        (localNames setup.statements, setup.statements.flatMap Statement.fieldUses)) =
          some (["_cart"], ["_cart"]) ∧
      fixture.tests.map (fun t => (localNames t.body, t.body.flatMap Statement.fieldUses)) =
        [(["_cart"], ["_cart"])] := by
  intro merge k c s fixture
  refine ⟨by decide, by decide, ?_⟩
  rw [s.tests_of_singleton rfl]
  decide

end Synthesizer

end Scaffold.Fixture
