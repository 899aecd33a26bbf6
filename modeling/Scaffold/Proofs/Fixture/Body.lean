import Scaffold.Proofs.Fixture.Isolation
import Scaffold.Proofs.Fixture.Wiring

/-!
# What is in a test

A test that is made declares a local for each parameter, calls the method with these locals,
compares what a returning method gives with a local of its type, and fails (`written_of_test`). All
that is said of the bodies of tests follows from this one description: they name only locals that
stand above (`scoped_body`), and they have one marker, at their end (`tests_shaped`).
-/

namespace Scaffold.Fixture

/-! ## Inside statements -/

mutual

/-- An expression and all expressions inside it. -/
def Expr.parts : Expr → List Expr
  | .placeholder value => [.placeholder value]
  | .identifier name => [.identifier name]
  | .invoke target method arguments =>
    .invoke target method arguments :: Argument.partsAll arguments
  | .create type arguments => .create type arguments :: Argument.partsAll arguments
  | .createMock type => [.createMock type]
  | .mockObject field => [.mockObject field]

/-- The expressions inside an argument. -/
def Argument.parts : Argument → List Expr
  | ⟨_, value⟩ => value.parts

/-- The expressions inside arguments. -/
def Argument.partsAll : List Argument → List Expr
  | [] => []
  | a :: as => a.parts ++ Argument.partsAll as

end

/-- The expressions inside a statement; an assertion of equality names two locals. -/
def Statement.parts : Statement → List Expr
  | declare _ _ value => value.parts
  | assign _ value => value.parts
  | expression value => value.parts
  | assertEqual actual expected => [.identifier actual, .identifier expected]
  | assertFail _ => []

/-- The name of the local that a statement declares. -/
def Statement.local? : Statement → Option String
  | declare _ name _ => some name
  | _ => none

/-- Every identifier in the statements is a local that is declared further up, or in `above`. -/
def Scoped (above : List String) : List Statement → Prop
  | [] => True
  | s :: rest =>
    (∀ name, .identifier name ∈ s.parts → name ∈ above) ∧ Scoped (above ++ s.local?.toList) rest

theorem scoped_append {above : List String} {front back : List Statement}
    (hfront : Scoped above front)
    (hback : Scoped (above ++ front.filterMap Statement.local?) back) :
    Scoped above (front ++ back) := by
  induction front generalizing above with
  | nil => simpa using hback
  | cons s front ih =>
    refine ⟨hfront.1, ih hfront.2 ?_⟩
    cases hs : s.local? with
    | none => simpa [hs] using hback
    | some name => simpa [hs, List.append_assoc] using hback

/-! ## The arguments of calls -/

theorem partsAll_eq (arguments : List Argument) :
    Argument.partsAll arguments = arguments.flatMap Argument.parts := by
  induction arguments with
  | nil => rfl
  | cons a arguments ih => rw [Argument.partsAll, List.flatMap_cons, ih]

/-- Inside a call stand the call and an identifier for each parameter. -/
theorem mem_parts_call {c : ClassDeclaration} {m : Method} {e : Expr} (h : e ∈ (call c m).parts) :
    e = call c m ∨ ∃ p ∈ m.parameters, e = .identifier p.name := by
  rw [call, Expr.parts, partsAll_eq, List.mem_cons, List.mem_flatMap] at h
  obtain rfl | ⟨a, ha, he⟩ := h
  · exact .inl rfl
  · obtain ⟨p, hp, rfl⟩ := List.mem_map.1 ha
    exact .inr ⟨p, hp, List.mem_singleton.1 he⟩

/-- The identifiers in a call are the parameters. -/
theorem identifier_mem_parts_call {c : ClassDeclaration} {m : Method} {name : String}
    (h : .identifier name ∈ (call c m).parts) : name ∈ m.parameters.map (·.name) := by
  obtain h | ⟨p, hp, h⟩ := mem_parts_call h
  · cases h
  · obtain rfl := Expr.identifier.inj h
    exact List.mem_map_of_mem hp

/-! ## What is made for a method -/

/-- The statement declares a local for the parameter, with the placeholder of its type. -/
def LocalFor (typeParameters : List String) (p : Parameter) (s : Statement) : Prop :=
  ∃ value, placeholder p.type typeParameters = .ok value ∧
    s = .declare (some p.type) p.name (.placeholder value)

/-- What a test of a method is made of. -/
inductive Written (failureMessage name : String) (c : ClassDeclaration) (m : Method) : Test → Prop
  /-- A method that returns nothing is called. -/
  | bare {locals : List Statement} (returns : m.returnType = voidType)
      (arrange : List.Forall₂ (LocalFor m.typeParameters) m.parameters locals) :
      Written failureMessage name c m
        ⟨name, locals, .expression (call c m), [.assertFail failureMessage]⟩
  /-- What another method returns is compared with a placeholder of its type. -/
  | returning {locals : List Statement} {value : Placeholder} (returns : m.returnType ≠ voidType)
      (arrange : List.Forall₂ (LocalFor m.typeParameters) m.parameters locals)
      (expected : placeholder m.returnType m.typeParameters = .ok value) :
      Written failureMessage name c m
        ⟨name, locals, .declare none "actual" (call c m),
          [.declare (some m.returnType) "expected" (.placeholder value),
            .assertEqual "actual" "expected", .assertFail failureMessage]⟩

theorem localFor_of_arrange {typeParameters : List String} {p : Parameter} {s : Statement}
    (h : arrange typeParameters p = .ok s) : LocalFor typeParameters p s := by
  unfold arrange at h
  split at h
  · rename_i value hvalue
    exact ⟨value, hvalue, (Except.ok.inj h).symm⟩
  · cases h

variable {failureMessage name : String} {c : ClassDeclaration} {m : Method} {t : Test}

theorem written_of_test (h : test failureMessage name c m = .ok t) :
    Written failureMessage name c m t := by
  unfold test at h
  rcases mapM_spec (arrange m.typeParameters) m.parameters with
    ⟨locals, hrun, hlocals⟩ | ⟨p, refusal, hrun, -⟩
  · have harrange := hlocals.imp fun _ _ => localFor_of_arrange
    rw [hrun] at h
    simp only [bind, Except.bind] at h
    split at h
    · rename_i hreturns
      have hreturns : m.returnType ≠ voidType := by simpa [Method.returnsValue] using hreturns
      split at h
      · cases h
      · rename_i value hvalue
        obtain rfl := Except.ok.inj h
        exact .returning hreturns harrange hvalue
    · rename_i hreturns
      have hreturns : m.returnType = voidType := by simpa [Method.returnsValue] using hreturns
      obtain rfl := Except.ok.inj h
      exact .bare hreturns harrange
  · rw [hrun] at h
    cases h

/-! ## The locals of a test -/

theorem locals_of_forall₂ {typeParameters : List String} {parameters : List Parameter}
    {locals : List Statement} (h : List.Forall₂ (LocalFor typeParameters) parameters locals) :
    locals.filterMap Statement.local? = parameters.map (·.name) := by
  induction h with
  | nil => rfl
  | @cons p _ _ _ hlocal _ ih =>
    obtain ⟨value, -, rfl⟩ := hlocal
    rw [List.map_cons, ← ih]
    rfl

theorem scoped_locals {typeParameters : List String} {parameters : List Parameter}
    {locals : List Statement} (h : List.Forall₂ (LocalFor typeParameters) parameters locals)
    (above : List String) : Scoped above locals := by
  induction h generalizing above with
  | nil => trivial
  | cons hlocal _ ih =>
    obtain ⟨value, -, rfl⟩ := hlocal
    refine ⟨fun name hname => ?_, ih _⟩
    simp [Statement.parts, Expr.parts] at hname

theorem marker_notMem_locals {typeParameters : List String} {parameters : List Parameter}
    {locals : List Statement} (h : List.Forall₂ (LocalFor typeParameters) parameters locals)
    (message : String) : .assertFail message ∉ locals := by
  induction h with
  | nil => simp
  | cons hlocal _ ih =>
    obtain ⟨value, -, rfl⟩ := hlocal
    simpa using ih

/-- Every local that is named in a test is declared above. -/
theorem scoped_body (h : Written failureMessage name c m t) : Scoped [] t.body := by
  cases h with
  | bare _ harrange =>
    refine scoped_append (scoped_locals harrange []) ?_
    rw [locals_of_forall₂ harrange]
    exact ⟨fun name hname => identifier_mem_parts_call hname, by simp [Statement.parts], trivial⟩
  | returning _ harrange _ =>
    refine scoped_append (scoped_locals harrange []) ?_
    rw [locals_of_forall₂ harrange]
    refine ⟨fun name hname => identifier_mem_parts_call hname, ?_, ?_, ?_, trivial⟩
    · simp [Statement.parts, Expr.parts]
    · simp [Statement.parts, Statement.local?]
    · simp [Statement.parts]

/-! ## The tests of a class -/

namespace Synthesizer

/-- What was made of elements came of those that succeeded, in their order. -/
theorem forall₂_made {α β : Type} (f : α → Except Omission β) (l : List α) :
    List.Forall₂ (fun a b => f a = .ok b) (l.filter fun a => (f a).isOk)
      ((l.map f).filterMap made) := by
  induction l with
  | nil => exact .nil
  | cons a l ih =>
    rw [List.map_cons, List.filter_cons, List.filterMap_cons]
    cases h : f a with
    | ok b => exact .cons h ih
    | error o => exact ih

/-- What was left out came of the other elements, in their order. -/
theorem forall₂_leftOut {α β : Type} (f : α → Except Omission β) (l : List α) :
    List.Forall₂ (fun a o => f a = .error o) (l.filter fun a => !(f a).isOk)
      ((l.map f).filterMap leftOut) := by
  induction l with
  | nil => exact .nil
  | cons a l ih =>
    rw [List.map_cons, List.filter_cons, List.filterMap_cons]
    cases h : f a with
    | ok b => exact ih
    | error o => exact .cons h ih

theorem map_fst_namedMethods (c : ClassDeclaration) :
    (namedMethods c).map Prod.fst = sortByName c.publicMethods := by
  rw [namedMethods_eq]
  exact List.map_fst_zip (length_testNamesAfter none 0 _).ge

variable {s : Synthesizer} {p : Method × String}

theorem test_of_attempt (h : s.attempt c p = .ok t) :
    test s.failureMessage p.2 c p.1 = .ok t := by
  unfold attempt at h
  split at h
  · rename_i t' ht'
    rw [ht', Except.ok.inj h]
  · cases h

theorem tests_of_attempt (h : s.attempt c p = .ok t) : Tests p.2 c p.1 t := by
  have hcontributes := s.contributes_attempt c p
  rw [h] at hcontributes
  cases hcontributes with
  | test htests _ => exact htests

/-- An omission reports its method for the first type that has no placeholder. -/
theorem offends_of_attempt {o : Omission} (h : s.attempt c p = .error o) :
    o.fault = .unresolvedDefault c.qualifiedName p.1.name o.type ∧
      Offends p.1 o.type o.reason := by
  have hcontributes := s.contributes_attempt c p
  rw [h] at hcontributes
  cases hcontributes with
  | omission hoffends hfault =>
    obtain rfl := (Fault.unresolvedDefault.inj hfault).2.2
    exact ⟨hfault, hoffends⟩

/-- The call is one of the method, with one argument for each of its parameters, in order, that
names the local of the parameter. What is static is called on the class, and all else on the first
field of the fixture, which holds the object under test. -/
structure Calls (s : Synthesizer) (c : ClassDeclaration) (m : Method) (target : String)
    (arguments : List Argument) : Prop where
  arguments : List.Forall₂ (fun p a => a.value = .identifier p.name) m.parameters arguments
  onClass : c.isStatic = true ∨ m.isStatic = true → target = c.qualifiedName
  onObject : c.isStatic = false → m.isStatic = false →
    ∃ others, (s.synthesize c).fixture.fields = ⟨target, c.qualifiedName, false⟩ :: others

/-- The shape of a test of the method. -/
structure Shaped (s : Synthesizer) (c : ClassDeclaration) (m : Method) (t : Test) : Prop where
  arrange : List.Forall₂
    (fun p l => ∃ value, l = .declare (some p.type) p.name (.placeholder value)) m.parameters
    t.arrange
  /-- What a method returns is compared with a local of its type. -/
  act : ∃ target arguments, s.Calls c m target arguments ∧
    ((m.returnType ≠ "void" ∧
        t.act = .declare none "actual" (.invoke target m.name arguments) ∧
        ∃ value, t.assert = [.declare (some m.returnType) "expected" (.placeholder value),
          .assertEqual "actual" "expected", .assertFail s.failureMessage]) ∨
      (m.returnType = "void" ∧ t.act = .expression (.invoke target m.name arguments) ∧
        t.assert = [.assertFail s.failureMessage]))
  /-- The marker is the last statement and the only one of its kind. -/
  marker : ∃ front, t.body = front ++ [.assertFail s.failureMessage] ∧
    ∀ message, .assertFail message ∉ front
  inScope : Scoped [] t.body

theorem calls_call (s : Synthesizer) (c : ClassDeclaration) (m : Method) :
    s.Calls c m (callTarget c m) (m.parameters.map passOn) where
  arguments := by
    rw [List.forall₂_map_right_iff]
    exact List.forall₂_same.2 fun _ _ => rfl
  onClass h := if_pos (by simpa using h)
  onObject hc hm := by
    have htarget : callTarget c m = fieldName c.simpleName := if_neg (by simp [hc, hm])
    exact ⟨_, htarget ▸ s.fields_of_not_isStatic hc⟩

theorem shaped_of_written (h : Written s.failureMessage name c m t) : s.Shaped c m t where
  arrange := by
    cases h with
    | bare _ harrange => exact harrange.imp fun _ _ ⟨value, _, h⟩ => ⟨value, h⟩
    | returning _ harrange _ => exact harrange.imp fun _ _ ⟨value, _, h⟩ => ⟨value, h⟩
  act := by
    refine ⟨callTarget c m, m.parameters.map passOn, s.calls_call c m, ?_⟩
    cases h with
    | bare hreturns _ => exact .inr ⟨hreturns, rfl, rfl⟩
    | returning hreturns _ _ => exact .inl ⟨hreturns, rfl, _, rfl⟩
  marker := by
    cases h with
    | bare _ harrange =>
      refine ⟨_ ++ [_], (List.append_assoc _ [_] [_]).symm, fun message => ?_⟩
      simpa using marker_notMem_locals harrange message
    | returning _ harrange _ =>
      refine ⟨_ ++ [_, _, _], (List.append_assoc _ [_, _, _] [_]).symm, fun message => ?_⟩
      simpa using marker_notMem_locals harrange message
  inScope := scoped_body h

theorem shaped_of_attempt (h : s.attempt c p = .ok t) : s.Shaped c p.1 t :=
  shaped_of_written (written_of_test (test_of_attempt h))

/-- The methods that are picked from the public methods with their names are in the order of the
tests. -/
theorem sublist_sortByName (c : ClassDeclaration) (pick : Method × String → Bool) :
    (((namedMethods c).filter pick).map Prod.fst).Sublist (sortByName c.publicMethods) := by
  rw [← map_fst_namedMethods]
  exact List.filter_sublist.map Prod.fst

section Static

variable (s : Synthesizer) {c : ClassDeclaration} (hc : c.isStatic = true)

include hc

theorem fields_of_isStatic : (s.synthesize c).fixture.fields = [] :=
  if_pos hc

theorem setup?_of_isStatic : s.setup? c = none :=
  if_pos hc

theorem setup_of_isStatic : (s.synthesize c).fixture.setup = none := by
  show (s.setup? c).bind made = none
  rw [s.setup?_of_isStatic hc]
  rfl

end Static

/-- The setup of a fixture is that of the wiring. -/
theorem setup_of_fixture {setup : Setup} (h : (s.synthesize c).fixture.setup = some setup) :
    (Wiring.ofClass s.classifier c).setup c = .ok setup := by
  cases hc : c.isStatic with
  | true =>
    rw [s.setup_of_isStatic hc] at h
    cases h
  | false =>
    rw [(s.fixture_of_not_isStatic hc).2] at h
    cases hrun : (Wiring.ofClass s.classifier c).setup c with
    | error refusal =>
      rw [hrun] at h
      cases h
    | ok setup' =>
      rw [hrun] at h
      rw [Option.some.inj h]

/-- Every test of a class has the shape of a test of one of its methods: locals for the parameters,
the call with these locals, the comparison of what is returned with a local of its type, and the
marker. A static class has neither fields nor a setup, and whatever is left out of its fixture is
one of its methods. -/
theorem tests_shaped (s : Synthesizer) (c : ClassDeclaration) :
    (∃ tested, tested.Sublist (sortByName c.publicMethods) ∧
        List.Forall₂ (s.Shaped c) tested (s.synthesize c).fixture.tests) ∧
      (c.isStatic = true →
        (s.synthesize c).fixture.fields = [] ∧ (s.synthesize c).fixture.setup = none ∧
          ∃ dropped, dropped.Sublist (sortByName c.publicMethods) ∧
            List.Forall₂ (fun m o => o.member = m.name ∧ Offends m o.type o.reason) dropped
              (s.synthesize c).omissions) := by
  refine ⟨⟨_, sublist_sortByName c fun p => (s.attempt c p).isOk, ?_⟩, fun hc =>
    ⟨s.fields_of_isStatic hc, s.setup_of_isStatic hc, ?_⟩⟩
  · rw [List.forall₂_map_left_iff]
    exact (forall₂_made (s.attempt c) (namedMethods c)).imp fun _ _ => shaped_of_attempt
  · refine ⟨_, sublist_sortByName c fun p => !(s.attempt c p).isOk, ?_⟩
    have homissions : (s.synthesize c).omissions =
        ((namedMethods c).map (s.attempt c)).filterMap leftOut := by
      show ((s.setup? c).bind leftOut).toList ++ (s.attempts c).filterMap leftOut = _
      rw [s.setup?_of_isStatic hc, attempts_eq]
      rfl
    rw [homissions, List.forall₂_map_left_iff]
    refine (forall₂_leftOut (s.attempt c) (namedMethods c)).imp fun p o h => ?_
    obtain ⟨hfault, hoffends⟩ := offends_of_attempt h
    exact ⟨(Fault.unresolvedDefault.inj hfault).2.1, hoffends⟩

/-- A static class with a constructor that wants a mock. -/
theorem tests_shaped_static :
    let parse : Method := ⟨"Parse", [⟨"text", "string", .byIn⟩], "int", [], true, true⟩
    let c : ClassDeclaration :=
      ⟨"Numbers", "Numbers", "N", true, [parse], [⟨[⟨"clock", "IClock", .byValue⟩]⟩], []⟩
    let s : Synthesizer := ⟨.interfaceConvention, "todo"⟩
    c.isStatic = true ∧ (s.synthesize c).fixture.fields = [] ∧
      (s.synthesize c).fixture.setup = none ∧
      ∃ tested, List.Forall₂ (s.Shaped c) tested (s.synthesize c).fixture.tests := by
  intro parse c s
  obtain ⟨⟨tested, -, hshaped⟩, hstatic⟩ := tests_shaped s c
  obtain ⟨hfields, hsetup, -⟩ := hstatic rfl
  exact ⟨rfl, hfields, hsetup, tested, hshaped⟩

end Synthesizer

end Scaffold.Fixture
