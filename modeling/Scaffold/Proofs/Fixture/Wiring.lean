import Scaffold.Proofs.Constructor
import Scaffold.Proofs.Fixture.Test

/-!
# How the object under test is wired

The parameters of the constructor are gone through once, and fields, mocks, locals, arguments and a
possible failure are gathered on the way. Seen from the parameters, each has a slot: it is mocked in
a field of its own or it is a local. All that is gathered is read off the list of slots, part by
part (`Wiring.foldl_add_eq`), so the parts fit together whatever the kinds of the parameters are
(`synthesize_wires`).
-/

namespace Scaffold.Fixture

/-! ## Slots -/

/-- A parameter of the constructor, with the name of the field of its mock if it is mocked. -/
structure Slot where
  parameter : Parameter
  mock : Option String

namespace Slot

/-- The field of the mock. -/
def field? (slot : Slot) : Option Field :=
  slot.mock.map fun name => ⟨name, slot.parameter.type, true⟩

/-- The assignment of a new mock to its field. -/
def assignment? (slot : Slot) : Option Statement :=
  slot.mock.map fun name => .assign name (.createMock slot.parameter.type)

/-- The argument for the parameter: the object of its mock, or its local. -/
def argument (slot : Slot) : Argument :=
  match slot.mock with
  | some name => ⟨none, .mockObject name⟩
  | none => ⟨slot.parameter.passing.callKeyword?, .identifier slot.parameter.name⟩

/-- The local for a parameter that is not mocked, if its type has a placeholder. -/
def local? (slot : Slot) : Option Statement :=
  match slot.mock, placeholder slot.parameter.type [] with
  | none, .ok value =>
    some (.declare (some slot.parameter.type) slot.parameter.name (.placeholder value))
  | _, _ => none

/-- The parameter, if it is not mocked and has no placeholder. -/
def failure? (slot : Slot) : Option (Parameter × Unresolved) :=
  match slot.mock, placeholder slot.parameter.type [] with
  | none, .error reason => some (slot.parameter, reason)
  | _, _ => none

end Slot

/-- The slots of parameters, when the names `taken` are in use for other fields. -/
def slots (classifier : Classifier) (taken : List String) : List Parameter → List Slot
  | [] => []
  | p :: ps =>
    if classifier.isAbstraction p.type then
      let name := freeName taken (fieldName p.name)
      ⟨p, some name⟩ :: slots classifier (taken ++ [name]) ps
    else ⟨p, none⟩ :: slots classifier taken ps

variable {classifier : Classifier} {p : Parameter}

theorem slots_cons_of_pos (h : classifier.isAbstraction p.type = true) (taken : List String)
    (ps : List Parameter) : slots classifier taken (p :: ps) =
      ⟨p, some (freeName taken (fieldName p.name))⟩ ::
        slots classifier (taken ++ [freeName taken (fieldName p.name)]) ps :=
  if_pos h

theorem slots_cons_of_neg (h : classifier.isAbstraction p.type = false) (taken : List String)
    (ps : List Parameter) :
    slots classifier taken (p :: ps) = ⟨p, none⟩ :: slots classifier taken ps :=
  if_neg (Bool.eq_false_iff.1 h)

variable (classifier)

/-- Each parameter has one slot. -/
theorem parameters_slots (taken : List String) (ps : List Parameter) :
    (slots classifier taken ps).map (·.parameter) = ps := by
  induction ps generalizing taken with
  | nil => rfl
  | cons p ps ih =>
    cases h : classifier.isAbstraction p.type with
    | true => rw [slots_cons_of_pos h, List.map_cons, ih]
    | false => rw [slots_cons_of_neg h, List.map_cons, ih]

/-- The abstractions are mocked. -/
theorem isSome_mock_of_mem_slots (taken : List String) (ps : List Parameter) :
    ∀ slot ∈ slots classifier taken ps,
      slot.mock.isSome = classifier.isAbstraction slot.parameter.type := by
  induction ps generalizing taken with
  | nil => simp [slots]
  | cons p ps ih =>
    cases h : classifier.isAbstraction p.type with
    | true =>
      rw [slots_cons_of_pos h]
      exact List.forall_mem_cons.2 ⟨h.symm, ih _⟩
    | false =>
      rw [slots_cons_of_neg h]
      exact List.forall_mem_cons.2 ⟨h.symm, ih _⟩

variable {classifier}

/-! ## Mocks and locals -/

namespace Classifier

/-- The parameters that are mocked. -/
def mocked (classifier : Classifier) (ps : List Parameter) : List Parameter :=
  ps.filter fun p => classifier.isAbstraction p.type

/-- The parameters that are not mocked. -/
def locals (classifier : Classifier) (ps : List Parameter) : List Parameter :=
  ps.filter fun p => !classifier.isAbstraction p.type

theorem mocked_cons_of_pos (h : classifier.isAbstraction p.type = true) (ps : List Parameter) :
    classifier.mocked (p :: ps) = p :: classifier.mocked ps := by
  simp [mocked, h]

theorem mocked_cons_of_neg (h : classifier.isAbstraction p.type = false) (ps : List Parameter) :
    classifier.mocked (p :: ps) = classifier.mocked ps := by
  simp [mocked, h]

theorem locals_cons_of_pos (h : classifier.isAbstraction p.type = true) (ps : List Parameter) :
    classifier.locals (p :: ps) = classifier.locals ps := by
  simp [locals, h]

theorem locals_cons_of_neg (h : classifier.isAbstraction p.type = false) (ps : List Parameter) :
    classifier.locals (p :: ps) = p :: classifier.locals ps := by
  simp [locals, h]

end Classifier

/-- The statement declares the local of a parameter, with the placeholder of its type. -/
def Declares (p : Parameter) (s : Statement) : Prop :=
  ∃ value, placeholder p.type [] = .ok value ∧
    s = .declare (some p.type) p.name (.placeholder value)

/-- The parameters that are not mocked have locals, or one of them is the first without a
placeholder. -/
theorem locals_slots (taken : List String) (ps : List Parameter) :
    ((slots classifier taken ps).findSome? Slot.failure? = none ∧
        List.Forall₂ Declares (classifier.locals ps)
          ((slots classifier taken ps).filterMap Slot.local?)) ∨
      ∃ p reason, (slots classifier taken ps).findSome? Slot.failure? = some (p, reason) ∧
        FirstRefused (fun p => placeholder p.type []) (classifier.locals ps) p reason := by
  induction ps generalizing taken with
  | nil => exact .inl ⟨rfl, .nil⟩
  | cons p ps ih =>
    cases h : classifier.isAbstraction p.type with
    | true =>
      rw [slots_cons_of_pos h, Classifier.locals_cons_of_pos h]
      exact ih (taken ++ [freeName taken (fieldName p.name)])
    | false =>
      rw [slots_cons_of_neg h, Classifier.locals_cons_of_neg h]
      cases hvalue : placeholder p.type [] with
      | error reason =>
        have hfailure : Slot.failure? ⟨p, none⟩ = some (p, reason) := by
          simp [Slot.failure?, hvalue]
        refine .inr ⟨p, reason, ?_, [], classifier.locals ps, rfl, by simp, hvalue⟩
        rw [List.findSome?_cons, hfailure]
      | ok value =>
        have hfailure : Slot.failure? ⟨p, none⟩ = none := by simp [Slot.failure?, hvalue]
        have hlocal : Slot.local? ⟨p, none⟩ =
            some (.declare (some p.type) p.name (.placeholder value)) := by
          simp [Slot.local?, hvalue]
        rw [List.findSome?_cons, hfailure, List.filterMap_cons_some hlocal]
        rcases ih taken with ⟨hnone, hall⟩ | ⟨q, reason, hsome, hfirst⟩
        · exact .inl ⟨hnone, .cons ⟨value, hvalue, rfl⟩ hall⟩
        · exact .inr ⟨q, reason, hsome, hfirst.cons hvalue⟩

/-- The fields of mocks follow from the parameters that are mocked. -/
theorem fields_slots (taken : List String) (ps : List Parameter) :
    (slots classifier taken ps).filterMap Slot.field? =
      (slots classifier taken (classifier.mocked ps)).filterMap Slot.field? := by
  induction ps generalizing taken with
  | nil => rfl
  | cons p ps ih =>
    cases h : classifier.isAbstraction p.type with
    | true =>
      rw [Classifier.mocked_cons_of_pos h, slots_cons_of_pos h, slots_cons_of_pos h,
        List.filterMap_cons, List.filterMap_cons, ih]
    | false =>
      rw [Classifier.mocked_cons_of_neg h, slots_cons_of_neg h]
      exact ih taken

/-! ## What is gathered -/

namespace Wiring

/-- The wiring with what the slots add to it. -/
def extend (w : Wiring) (added : List Slot) : Wiring where
  fields := w.fields ++ added.filterMap Slot.field?
  mocks := w.mocks ++ added.filterMap Slot.assignment?
  locals := w.locals ++ added.filterMap Slot.local?
  arguments := w.arguments ++ added.map Slot.argument
  failure := w.failure.or (added.findSome? Slot.failure?)

theorem extend_nil (w : Wiring) : w.extend [] = w := by
  simp [extend]

theorem extend_extend (w : Wiring) (added added' : List Slot) :
    (w.extend added).extend added' = w.extend (added ++ added') := by
  simp [extend, List.findSome?_append, Option.or_assoc]

theorem addMock_eq (w : Wiring) (p : Parameter) :
    w.addMock p = w.extend [⟨p, some (freeName (w.fields.map (·.name)) (fieldName p.name))⟩] := by
  simp [addMock, extend, Slot.field?, Slot.assignment?, Slot.local?, Slot.argument, Slot.failure?]

theorem addLocal_eq (w : Wiring) (p : Parameter) : w.addLocal p = w.extend [⟨p, none⟩] := by
  unfold addLocal
  cases hvalue : placeholder p.type [] with
  | ok value =>
    simp [extend, Slot.field?, Slot.assignment?, Slot.local?, Slot.argument, Slot.failure?, hvalue,
      passOn]
  | error reason =>
    simp [extend, Slot.field?, Slot.assignment?, Slot.local?, Slot.argument, Slot.failure?, hvalue,
      passOn]

/-- Going through parameters adds their slots. -/
theorem foldl_add_eq (w : Wiring) (ps : List Parameter) :
    ps.foldl (add classifier) w = w.extend (slots classifier (w.fields.map (·.name)) ps) := by
  induction ps generalizing w with
  | nil => rw [slots, extend_nil]; rfl
  | cons p ps ih =>
    have hfields (slot : Slot) : (w.extend [slot]).fields.map (·.name) =
        w.fields.map (·.name) ++ slot.mock.toList := by
      cases hmock : slot.mock <;> simp [extend, Slot.field?, hmock]
    rw [List.foldl_cons, ih]
    cases h : classifier.isAbstraction p.type with
    | true =>
      have hadd : add classifier w p = w.addMock p := if_pos h
      rw [hadd, addMock_eq, hfields, slots_cons_of_pos h, extend_extend]
      rfl
    | false =>
      have hadd : add classifier w p = w.addLocal p := if_neg (Bool.eq_false_iff.1 h)
      rw [hadd, addLocal_eq, hfields, slots_cons_of_neg h, extend_extend]
      simp

/-- The slots of the constructor that is called. -/
def slotsOf (classifier : Classifier) (c : ClassDeclaration) : List Slot :=
  slots classifier [fieldName c.simpleName] c.createdWith

theorem ofClass_eq (c : ClassDeclaration) : ofClass classifier c =
    (start ⟨fieldName c.simpleName, c.qualifiedName, false⟩).extend (slotsOf classifier c) :=
  foldl_add_eq _ c.createdWith

end Wiring

namespace Synthesizer

/-- How the object under test of an instance class is wired, slot by slot. -/
structure Wires (s : Synthesizer) (c : ClassDeclaration) (slots : List Slot) : Prop where
  parameters : slots.map (·.parameter) = c.createdWith
  mocks : ∀ slot ∈ slots, slot.mock.isSome = s.classifier.isAbstraction slot.parameter.type
  fields : (s.synthesize c).fixture.fields =
    ⟨fieldName c.simpleName, c.qualifiedName, false⟩ :: slots.filterMap Slot.field?
  /-- When all locals have placeholders, mocks are assigned, then locals are declared, and last the
  object is created with one argument for each parameter. -/
  setup : (∀ p ∈ s.classifier.locals c.createdWith, Resolves [] p.type) →
    ∃ locals, List.Forall₂ Declares (s.classifier.locals c.createdWith) locals ∧
      (Wiring.ofClass s.classifier c).setup c = .ok {
        name := "SetUp"
        statements := slots.filterMap Slot.assignment? ++ locals ++
          [.assign (fieldName c.simpleName)
            (.create c.qualifiedName (slots.map Slot.argument))] }
  /-- Otherwise the first one without a placeholder is what the setup is refused for. -/
  failure : (¬ ∀ p ∈ s.classifier.locals c.createdWith, Resolves [] p.type) →
    ∃ p reason, FirstRefused (fun p => placeholder p.type [])
        (s.classifier.locals c.createdWith) p reason ∧
      (Wiring.ofClass s.classifier c).setup c = .error (p, reason)
  fixtureSetup : (s.synthesize c).fixture.setup =
    ((Wiring.ofClass s.classifier c).setup c).toOption

/-- What the fixture of an instance class takes from the wiring. -/
theorem fixture_of_not_isStatic (s : Synthesizer) {c : ClassDeclaration} (hc : c.isStatic = false) :
    (s.synthesize c).fixture.fields = (Wiring.ofClass s.classifier c).fields ∧
      (s.synthesize c).fixture.setup = ((Wiring.ofClass s.classifier c).setup c).toOption := by
  show s.fields c = _ ∧ (s.setup? c).bind made = _
  unfold fields setup?
  rw [hc]
  refine ⟨rfl, ?_⟩
  cases (Wiring.ofClass s.classifier c).setup c <;> rfl

theorem fields_of_not_isStatic (s : Synthesizer) {c : ClassDeclaration} (hc : c.isStatic = false) :
    (s.synthesize c).fixture.fields = ⟨fieldName c.simpleName, c.qualifiedName, false⟩ ::
      (Wiring.slotsOf s.classifier c).filterMap Slot.field? := by
  rw [(s.fixture_of_not_isStatic hc).1, Wiring.ofClass_eq]
  rfl

theorem wires_slotsOf (s : Synthesizer) {c : ClassDeclaration} (hc : c.isStatic = false) :
    s.Wires c (Wiring.slotsOf s.classifier c) where
  parameters := parameters_slots _ _ _
  mocks := isSome_mock_of_mem_slots _ _ _
  fields := s.fields_of_not_isStatic hc
  setup := by
    intro hall
    rcases locals_slots [fieldName c.simpleName] c.createdWith with
      ⟨hnone, hlocals⟩ | ⟨p, reason, -, hfirst⟩
    · refine ⟨_, hlocals, ?_⟩
      rw [Wiring.ofClass_eq]
      unfold Wiring.setup Wiring.extend Wiring.slotsOf
      rw [hnone]
      rfl
    · exact absurd hall hfirst.not_forall
  failure := by
    intro hsome
    rcases locals_slots [fieldName c.simpleName] c.createdWith with
      ⟨-, hlocals⟩ | ⟨p, reason, hfailure, hfirst⟩
    · exact absurd (forall_of_forall₂ (fun p _ h => ⟨h.choose, h.choose_spec.1⟩) hlocals) hsome
    · refine ⟨p, reason, hfirst, ?_⟩
      rw [Wiring.ofClass_eq]
      unfold Wiring.setup Wiring.extend Wiring.slotsOf
      rw [hfailure]
      rfl
  fixtureSetup := (s.fixture_of_not_isStatic hc).2

/-- The object under test of an instance class is created by the first of its smallest constructors.
Each parameter has a slot, which says whether it is mocked, and the fields, the mocks, the locals
and the arguments follow the slots; a setup is refused for the first local without a placeholder.
The fields follow from the names of the class and the mocked parameters alone, so no placeholder
that is missing changes them. -/
theorem synthesize_wires (s : Synthesizer) (c : ClassDeclaration) (hc : c.isStatic = false) :
    ((c.constructors = [] ∧ c.createdWith = []) ∨
        ∃ k, FirstSmallest c.constructors k ∧ c.createdWith = k.parameters) ∧
      (∃ slots, s.Wires c slots) ∧
      ∀ c' : ClassDeclaration, c'.isStatic = false → c'.simpleName = c.simpleName →
        c'.qualifiedName = c.qualifiedName →
        s.classifier.mocked c'.createdWith = s.classifier.mocked c.createdWith →
        (s.synthesize c').fixture.fields = (s.synthesize c).fixture.fields := by
  refine ⟨c.createdWith_spec, ⟨_, s.wires_slotsOf hc⟩, fun c' hc' hsimple hqualified hmocked => ?_⟩
  rw [s.fields_of_not_isStatic hc', s.fields_of_not_isStatic hc, Wiring.slotsOf, Wiring.slotsOf,
    fields_slots, hmocked, ← fields_slots, hsimple, hqualified]

/-- A mock between two locals, in the second of two constructors. -/
theorem synthesize_wires_mixed :
    let k : Constructor :=
      ⟨[⟨"count", "int", .byRef⟩, ⟨"clock", "IClock", .byValue⟩, ⟨"label", "string", .byValue⟩]⟩
    let c : ClassDeclaration :=
      ⟨"Job", "Job", "N", false, [], [⟨⟨"next", "var", .byValue⟩ :: k.parameters⟩, k], []⟩
    let s : Synthesizer := ⟨.interfaceConvention, "todo"⟩
    c.isStatic = false ∧ c.createdWith = k.parameters ∧
      ∃ (slots : List Slot) (locals : List Statement), slots.map (·.parameter) = k.parameters ∧
        List.Forall₂ Declares (s.classifier.locals k.parameters) locals ∧
        (Wiring.ofClass s.classifier c).setup c = .ok {
          name := "SetUp"
          statements := slots.filterMap Slot.assignment? ++ locals ++
            [.assign "_job" (.create "Job" (slots.map Slot.argument))] } := by
  intro k c s
  obtain ⟨-, ⟨slots, hwires⟩, -⟩ := synthesize_wires s c rfl
  have hresolves : ∀ p ∈ s.classifier.locals c.createdWith, Resolves [] p.type := by
    have hlocals : s.classifier.locals c.createdWith =
        [⟨"count", "int", .byRef⟩, ⟨"label", "string", .byValue⟩] := by decide
    rw [hlocals]
    simp only [List.forall_mem_cons]
    exact ⟨⟨.typeDefault, rfl⟩, ⟨.literal "\"\"", rfl⟩, by simp⟩
  obtain ⟨locals, hlocals, hsetup⟩ := hwires.setup hresolves
  have hname : fieldName "Job" = "_job" := by decide
  exact ⟨rfl, rfl, slots, locals, hwires.parameters, hlocals, hname ▸ hsetup⟩

end Synthesizer

end Scaffold.Fixture
