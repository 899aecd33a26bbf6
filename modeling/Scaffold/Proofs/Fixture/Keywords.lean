import Scaffold.Proofs.Fixture.Locals

/-!
# Keywords at calls

Where a parameter is passed by reference, the argument has to repeat the keyword of the parameter
(`RepeatsKeyword`). Arguments that pass on a local do so, in the calls of tests and in the call of
the constructor. The object of a mock is a value: it is passed on without a keyword, however the
parameter is passed (`Synthesizer.calls_repeat_keywords`).
-/

namespace Scaffold

/-- Where a relation amounts to a property of the first element, it relates two lists when all
elements of the first list have the property. -/
theorem forall₂_iff_forall {α β : Type} {S R : α → β → Prop} {P : α → Prop} {as : List α}
    {bs : List β} (hS : ∀ a b, S a b → (R a b ↔ P a)) (h : List.Forall₂ S as bs) :
    List.Forall₂ R as bs ↔ ∀ a ∈ as, P a := by
  induction h with
  | nil => simp
  | cons hab _ ih => rw [List.forall₂_cons, List.forall_mem_cons, hS _ _ hab, ih]

/-- The keyword that stands before an argument, by how its parameter is passed. -/
inductive RepeatsKeyword : Passing → Option String → Prop
  | byValue : RepeatsKeyword .byValue none
  | byRef : RepeatsKeyword .byRef (some "ref")
  | byOut : RepeatsKeyword .byOut (some "out")
  | byIn : RepeatsKeyword .byIn (some "in")
  | variadic : RepeatsKeyword .variadic none

theorem repeatsKeyword_iff {passing : Passing} {keyword : Option String} :
    RepeatsKeyword passing keyword ↔ keyword = passing.callKeyword? := by
  constructor
  · intro h
    cases h <;> rfl
  · rintro rfl
    cases passing <;> constructor

namespace Fixture

/-- What stands for a parameter of the constructor: the object of a mock without a keyword, or its
local with the keyword of the parameter. -/
inductive PassedOn (classifier : Classifier) (p : Parameter) : Argument → Prop
  | mock {field : String} (h : classifier.isAbstraction p.type = true) :
      PassedOn classifier p ⟨none, .mockObject field⟩
  | onLocal {keyword : Option String} (h : classifier.isAbstraction p.type = false)
      (repeats : RepeatsKeyword p.passing keyword) :
      PassedOn classifier p ⟨keyword, .identifier p.name⟩

theorem Slot.passedOn {classifier : Classifier} {slot : Slot}
    (h : slot.mock.isSome = classifier.isAbstraction slot.parameter.type) :
    PassedOn classifier slot.parameter slot.argument := by
  obtain ⟨p, _ | field⟩ := slot
  · exact .onLocal h.symm (repeatsKeyword_iff.2 rfl)
  · exact .mock h.symm

/-- An argument repeats the keyword of its parameter unless this has one and is mocked. -/
theorem PassedOn.repeats_iff {classifier : Classifier} {p : Parameter} {a : Argument}
    (h : PassedOn classifier p a) : RepeatsKeyword p.passing a.keyword ↔
      (classifier.isAbstraction p.type = true → RepeatsKeyword p.passing none) := by
  cases h with
  | mock hp => exact ⟨fun hrepeats _ => hrepeats, fun hrepeats => hrepeats hp⟩
  | onLocal hp hrepeats =>
    refine iff_of_true hrepeats fun hp' => ?_
    rw [hp] at hp'
    cases hp'

namespace Synthesizer

/-- In tests every argument repeats the keyword of its parameter. In the call of the constructor
every local does, and no object of a mock: so all keywords are repeated there exactly when the
mocked parameters have none. -/
theorem calls_repeat_keywords (s : Synthesizer) (c : ClassDeclaration) :
    (∃ tested, tested.Sublist (sortByName c.publicMethods) ∧
      List.Forall₂ (fun m t => test s.failureMessage t.name c m = .ok t ∧
        ∃ target arguments,
          (t.act = .expression (.invoke target m.name arguments) ∨
            t.act = .declare none "actual" (.invoke target m.name arguments)) ∧
          List.Forall₂ (fun p a => RepeatsKeyword p.passing a.keyword) m.parameters arguments)
        tested (s.synthesize c).fixture.tests) ∧
      ∀ setup, (s.synthesize c).fixture.setup = some setup → ∃ front arguments,
        setup.statements =
          front ++ [.assign (fieldName c.simpleName) (.create c.qualifiedName arguments)] ∧
        List.Forall₂ (PassedOn s.classifier) c.createdWith arguments ∧
        (List.Forall₂ (fun p a => RepeatsKeyword p.passing a.keyword) c.createdWith arguments ↔
          ∀ p ∈ s.classifier.mocked c.createdWith, RepeatsKeyword p.passing none) := by
  constructor
  · obtain ⟨tested, hsublist, htests⟩ := s.exists_tested c
    refine ⟨tested, hsublist, htests.imp fun m t htest => ⟨htest, callTarget c m,
      m.parameters.map passOn, ?_, ?_⟩⟩
    · have hwritten := written_of_test htest
      generalize t.name = name at hwritten
      cases hwritten with
      | bare => exact .inl rfl
      | returning => exact .inr rfl
    · rw [List.forall₂_map_right_iff]
      exact List.forall₂_same.2 fun p _ => repeatsKeyword_iff.2 rfl
  · intro setup hsetup
    refine ⟨_, _, statements_of_setup hsetup, ?_⟩
    have hpassed : List.Forall₂ (PassedOn s.classifier) c.createdWith
        ((Wiring.slotsOf s.classifier c).map Slot.argument) := by
      have hmocks := isSome_mock_of_mem_slots s.classifier [fieldName c.simpleName] c.createdWith
      have hparameters : (Wiring.slotsOf s.classifier c).map (·.parameter) = c.createdWith :=
        parameters_slots _ _ _
      rw [← hparameters, List.forall₂_map_left_iff, List.forall₂_map_right_iff]
      exact List.forall₂_same.2 fun slot hslot => Slot.passedOn (hmocks slot hslot)
    have hrepeats (p : Parameter) (a : Argument) (h : PassedOn s.classifier p a) :
        RepeatsKeyword p.passing a.keyword ↔
          (s.classifier.isAbstraction p.type = true → RepeatsKeyword p.passing none) := h.repeats_iff
    refine ⟨hpassed, ?_⟩
    rw [forall₂_iff_forall hrepeats hpassed]
    simp only [Classifier.mocked, List.mem_filter, and_imp]

/-- A mock between two locals that are passed by reference. -/
theorem calls_repeat_keywords_mixed :
    let k : Constructor := ⟨[⟨"buffer", "byte[]", .byRef⟩, ⟨"source", "ISource", .byValue⟩,
      ⟨"limits", "Limits", .byIn⟩]⟩
    let c : ClassDeclaration := ⟨"Reader", "Reader", "App", false, [], [k], []⟩
    let s : Synthesizer := ⟨.interfaceConvention, "todo"⟩
    ∃ setup front arguments, (s.synthesize c).fixture.setup = some setup ∧
      setup.statements = front ++ [.assign "_reader" (.create "Reader" arguments)] ∧
        List.Forall₂ (fun p a => RepeatsKeyword p.passing a.keyword) k.parameters arguments := by
  intro k c s
  obtain ⟨setup, hsetup⟩ : ∃ setup, (s.synthesize c).fixture.setup = some setup := ⟨_, rfl⟩
  have hobject : fieldName c.simpleName = "_reader" := by decide
  have hcreated : c.createdWith = k.parameters := by decide
  have hmocked : s.classifier.mocked c.createdWith = [⟨"source", "ISource", .byValue⟩] := by decide
  obtain ⟨front, arguments, hstatements, -, hall⟩ := (calls_repeat_keywords s c).2 setup hsetup
  rw [hmocked, List.forall_mem_singleton, hcreated] at hall
  exact ⟨setup, front, arguments, hsetup, hobject ▸ hstatements, hall.2 .byValue⟩

/-- A constructor that takes an abstraction by reference: its argument has no keyword. -/
theorem no_keyword_before_mock :
    let k : Constructor := ⟨[⟨"clock", "IClock", .byRef⟩]⟩
    let c : ClassDeclaration := ⟨"Job", "Job", "App", false, [], [k], []⟩
    let s : Synthesizer := ⟨.interfaceConvention, "autogenerated"⟩
    (s.synthesize c).fixture.setup = some ⟨"SetUp", [.assign "_clock" (.createMock "IClock"),
        .assign "_job" (.create "Job" [⟨none, .mockObject "_clock"⟩])]⟩ ∧
      ¬ RepeatsKeyword .byRef none := by
  refine ⟨by rfl, ?_⟩
  rw [repeatsKeyword_iff]
  decide

end Synthesizer

end Fixture

end Scaffold
