import Scaffold.Proofs.Fixture.Body
import Scaffold.Proofs.Text.Runs

/-!
# Which methods are left out

A type is resolvable for a method when its text is not blank, is not `var` and mentions no type
parameter of the method; these are the types with placeholders (`placeholder_eq_ok_iff`). A type
parameter is mentioned where its name is a whole identifier, that is, a maximal run of the
characters of identifiers. A method has a test exactly when all types in the test are resolvable,
and otherwise the first type that is not is reported (`drops_unresolvable`).
-/

namespace Scaffold

namespace Fixture

open Text

/-! ## Resolvable types -/

/-- A test can declare a variable of the type in place of one in a method with the given type
parameters. -/
structure Resolvable (typeParameters : List String) (type : String) : Prop where
  nonempty : trim type ≠ ""
  declarable : trim type ≠ "var"
  concrete : ∀ name ∈ typeParameters, ¬ IsMaximalRun isTypeIdentifier name.toList type.toList

/-- The ranges have no number in common. -/
def Apart (r r' : Ranges) : Prop :=
  ∀ a ∈ r, ∀ b ∈ r', a.2 < b.1 ∨ b.2 < a.1

instance (r r' : Ranges) : Decidable (Apart r r') :=
  inferInstanceAs (Decidable (∀ a ∈ r, ∀ b ∈ r', a.2 < b.1 ∨ b.2 < a.1))

theorem Apart.has_eq_false {r r' : Ranges} (h : Apart r r') {c : Char} (hc : r.has c = true) :
    r'.has c = false := by
  obtain ⟨a, ha, hca⟩ := List.any_eq_true.1 hc
  refine List.any_eq_false.2 fun b hb => ?_
  have hab := h a ha b hb
  simp only [Bool.and_eq_true, decide_eq_true_eq] at hca ⊢
  omega

theorem apart_blank_alphanumeric : Apart blankRanges alphanumericRanges := by
  decide +kernel

/-- No blank is in an identifier. -/
theorem isTypeIdentifier_of_isBlank {c : Char} (h : isBlank c = true) :
    isTypeIdentifier c = false := by
  have hascii : c.isAlphanum = false := by
    have hval : c.val.toNat = c.toNat := rfl
    simp only [isBlank, Ranges.has, blankRanges, List.any_cons, List.any_nil, Bool.or_eq_true,
      Bool.and_eq_true, decide_eq_true_eq, Bool.or_false] at h
    unfold Char.isAlphanum Char.isAlpha Char.isUpper Char.isLower Char.isDigit
    simp only [Bool.or_eq_false_iff, Bool.and_eq_false_iff, decide_eq_false_iff_not, ge_iff_le,
      UInt32.le_iff_toNat_le, Char.reduceVal, UInt32.reduceToNat, hval]
    omega
  have hunderscore : (c == '_') = false := by
    rw [beq_eq_false_iff_ne]
    rintro rfl
    exact absurd h (by decide)
  rw [isTypeIdentifier, isAlphanumeric, hascii, hunderscore,
    apart_blank_alphanumeric.has_eq_false h, Bool.and_false]
  rfl

/-- The identifiers in the trimmed text of a type are the maximal runs in its text. -/
theorem mem_typeIdentifiers_iff {name type : String} :
    name ∈ typeIdentifiers (trim type).toList ↔
      IsMaximalRun isTypeIdentifier name.toList type.toList := by
  have hruns : runsOf (fun c => !isTypeIdentifier c) (trim type).toList =
      runsOf (fun c => !isTypeIdentifier c) type.toList := by
    rw [trim, String.toList_ofList]
    refine runsOf_trimmed (fun c hc => ?_) _
    rw [isTypeIdentifier_of_isBlank hc]
    rfl
  rw [typeIdentifiers, hruns, ← mem_runsOf_iff, List.mem_map]
  constructor
  · rintro ⟨run, hrun, rfl⟩
    rwa [String.toList_ofList]
  · exact fun h => ⟨name.toList, h, String.ofList_toList⟩

/-- The value stands for one of the type: the empty string for a string, and the default of the type
for any other type. -/
def StandsFor (type : String) (value : Placeholder) : Prop :=
  (trim type ∈ ["string", "String", "System.String"] ∧ value = .literal "\"\"") ∨
    (trim type ∉ ["string", "String", "System.String"] ∧ value = .typeDefault)

/-- The types with placeholders are the resolvable ones. -/
theorem placeholder_eq_ok_iff {type : String} {typeParameters : List String}
    {value : Placeholder} : placeholder type typeParameters = .ok value ↔
      Resolvable typeParameters type ∧ StandsFor type value := by
  have hresolvable : Resolvable typeParameters type ↔ trim type ≠ "" ∧ trim type ≠ "var" ∧
      typeParameters.find? (· ∈ typeIdentifiers (trim type).toList) = none := by
    simp only [List.find?_eq_none, decide_eq_true_eq, mem_typeIdentifiers_iff]
    exact ⟨fun h => ⟨h.nonempty, h.declarable, h.concrete⟩, fun ⟨h, h', h''⟩ => ⟨h, h', h''⟩⟩
  have hvalue : StandsFor type value ↔
      (if trim type ∈ stringTypes then .literal "\"\"" else .typeDefault) = value := by
    unfold StandsFor
    split_ifs with hstring
    · exact ⟨fun h => (h.elim And.right fun h => absurd hstring h.1).symm,
        fun h => .inl ⟨hstring, h.symm⟩⟩
    · exact ⟨fun h => (h.elim (fun h => absurd h.1 hstring) And.right).symm,
        fun h => .inr ⟨hstring, h.symm⟩⟩
  rw [hresolvable, hvalue]
  unfold placeholder
  dsimp only
  generalize (if trim type ∈ stringTypes then Placeholder.literal "\"\"" else .typeDefault) = made
  split_ifs with hempty hvar
  · simp [hempty]
  · simp [hvar]
  · cases typeParameters.find? (· ∈ typeIdentifiers (trim type).toList) with
    | some name => simp
    | none => simp [hempty, hvar]

/-- There is a value for every type. -/
theorem exists_standsFor (type : String) : ∃ value, StandsFor type value := by
  by_cases h : trim type ∈ ["string", "String", "System.String"]
  · exact ⟨_, .inl ⟨h, rfl⟩⟩
  · exact ⟨_, .inr ⟨h, rfl⟩⟩

theorem resolves_iff {typeParameters : List String} {type : String} :
    Resolves typeParameters type ↔ Resolvable typeParameters type := by
  constructor
  · rintro ⟨value, h⟩
    exact (placeholder_eq_ok_iff.1 h).1
  · intro h
    obtain ⟨value, hvalue⟩ := exists_standsFor type
    exact ⟨value, placeholder_eq_ok_iff.2 ⟨h, hvalue⟩⟩

theorem not_resolvable_of_error {typeParameters : List String} {type : String}
    {reason : Unresolved} (h : placeholder type typeParameters = .error reason) :
    ¬ Resolvable typeParameters type := by
  rw [← resolves_iff]
  rintro ⟨value, hvalue⟩
  rw [h] at hvalue
  cases hvalue

instance (typeParameters : List String) (type : String) :
    Decidable (Resolvable typeParameters type) :=
  decidable_of_iff ((placeholder type typeParameters).isOk = true) (by
    rw [← resolves_iff, Resolves]
    cases placeholder type typeParameters <;> simp [Except.isOk, Except.toBool])

/-! ## Methods with tests -/

/-- All types in a test of the method are resolvable. -/
def Testable (m : Method) : Prop :=
  (∀ p ∈ m.parameters, Resolvable m.typeParameters p.type) ∧
    (m.returnType ≠ "void" → Resolvable m.typeParameters m.returnType)

instance (m : Method) : Decidable (Testable m) :=
  inferInstanceAs (Decidable ((∀ p ∈ m.parameters, Resolvable m.typeParameters p.type) ∧
    (m.returnType ≠ "void" → Resolvable m.typeParameters m.returnType)))

/-- The type is the one that is reported of the method: the first parameter type that is not
resolvable, or the return type when all parameter types are. -/
inductive Reported (m : Method) : String → Prop
  | parameter {before after : List Parameter} {p : Parameter}
      (split : m.parameters = before ++ p :: after)
      (first : ∀ q ∈ before, Resolvable m.typeParameters q.type)
      (unresolvable : ¬ Resolvable m.typeParameters p.type) : Reported m p.type
  | returnType (parameters : ∀ p ∈ m.parameters, Resolvable m.typeParameters p.type)
      (returns : m.returnType ≠ "void")
      (unresolvable : ¬ Resolvable m.typeParameters m.returnType) : Reported m m.returnType

theorem Reported.not_testable {m : Method} {type : String} (h : Reported m type) :
    ¬ Testable m := by
  rintro ⟨hparameters, hreturn⟩
  cases h with
  | parameter hsplit _ hp =>
    exact hp (hparameters _ (hsplit ▸ List.mem_append_right _ List.mem_cons_self))
  | returnType _ hreturns htype => exact htype (hreturn hreturns)

variable {failureMessage name : String} {c : ClassDeclaration} {m : Method} {t : Test}

theorem LocalFor.resolvable {typeParameters : List String} {p : Parameter} {l : Statement}
    (h : LocalFor typeParameters p l) : Resolvable typeParameters p.type := by
  obtain ⟨value, hvalue, -⟩ := h
  exact (placeholder_eq_ok_iff.1 hvalue).1

theorem testable_of_written (h : Written failureMessage name c m t) : Testable m := by
  cases h with
  | bare hreturns harrange =>
    exact ⟨forall_of_forall₂ (fun _ _ => LocalFor.resolvable) harrange,
      fun hne => absurd hreturns hne⟩
  | returning _ harrange hexpected =>
    exact ⟨forall_of_forall₂ (fun _ _ => LocalFor.resolvable) harrange,
      fun _ => (placeholder_eq_ok_iff.1 hexpected).1⟩

theorem reported_of_offends {type : String} {reason : Unresolved} (h : Offends m type reason) :
    Reported m type := by
  obtain ⟨before, after, hsplit, hbefore, htype⟩ := h
  have hunresolvable := not_resolvable_of_error htype
  have hresolvable : ∀ x ∈ before, Resolvable m.typeParameters x :=
    fun x hx => resolves_iff.1 (hbefore x hx)
  have hparameter {after : List String}
      (hsplit : m.parameters.map (·.type) = before ++ type :: after) : Reported m type := by
    obtain ⟨front, back, hparameters, rfl, hback⟩ := List.map_eq_append_iff.1 hsplit
    obtain ⟨p, back, rfl, rfl, -⟩ := List.map_eq_cons_iff.1 hback
    exact .parameter hparameters (List.forall_mem_map.1 hresolvable) hunresolvable
  rw [Method.testedTypes] at hsplit
  cases hreturns : m.returnsValue with
  | false =>
    rw [hreturns, if_neg Bool.false_ne_true, List.append_nil] at hsplit
    exact hparameter hsplit
  | true =>
    rw [if_pos hreturns] at hsplit
    rcases List.eq_nil_or_concat after with rfl | ⟨after, last, rfl⟩
    · obtain ⟨rfl, hlast⟩ := List.append_inj' hsplit rfl
      obtain rfl := List.singleton_inj.1 hlast
      exact .returnType (List.forall_mem_map.1 hresolvable)
        (by simpa [Method.returnsValue, voidType] using hreturns) hunresolvable
    · rw [List.concat_eq_append, ← List.cons_append, ← List.append_assoc] at hsplit
      exact hparameter (List.append_inj_left' hsplit rfl)

/-! ## Placeholders in a fixture -/

/-- Every placeholder in the statement is the value of a local and stands for one of its type. -/
def Statement.IsFilled (s : Statement) : Prop :=
  ∀ value, .placeholder value ∈ s.parts →
    ∃ type name, s = .declare (some type) name (.placeholder value) ∧ StandsFor type value

/-- A statement without placeholders is filled. -/
theorem isFilled_of_forall {s : Statement} (h : ∀ value, .placeholder value ∉ s.parts) :
    s.IsFilled :=
  fun value hvalue => absurd hvalue (h value)

theorem isFilled_declare {typeParameters : List String} {type : String} {value : Placeholder}
    (h : placeholder type typeParameters = .ok value) (name : String) :
    (Statement.declare (some type) name (.placeholder value)).IsFilled := by
  intro value' hvalue'
  obtain rfl : value' = value := by simpa [Statement.parts, Expr.parts] using hvalue'
  exact ⟨type, name, rfl, (placeholder_eq_ok_iff.1 h).2⟩

theorem LocalFor.isFilled {typeParameters : List String} {p : Parameter} {l : Statement}
    (h : LocalFor typeParameters p l) : l.IsFilled := by
  obtain ⟨value, hvalue, rfl⟩ := h
  exact isFilled_declare hvalue p.name

theorem placeholder_notMem_parts_call (value : Placeholder) :
    .placeholder value ∉ (call c m).parts := by
  intro h
  obtain h | ⟨p, -, h⟩ := mem_parts_call h <;> cases h

theorem isFilled_body (h : Written failureMessage name c m t) : ∀ s ∈ t.body, s.IsFilled := by
  have hlocals {locals : List Statement}
      (harrange : List.Forall₂ (LocalFor m.typeParameters) m.parameters locals) :
      ∀ l ∈ locals, l.IsFilled :=
    forall_of_forall₂ (fun _ _ => LocalFor.isFilled) harrange.flip
  have hmarker : (Statement.assertFail failureMessage).IsFilled :=
    isFilled_of_forall fun value => List.not_mem_nil
  cases h with
  | bare _ harrange =>
    refine List.forall_mem_append.2 ⟨hlocals harrange, ?_⟩
    rw [List.forall_mem_cons, List.forall_mem_singleton]
    exact ⟨isFilled_of_forall placeholder_notMem_parts_call, hmarker⟩
  | returning _ harrange hexpected =>
    refine List.forall_mem_append.2 ⟨hlocals harrange, ?_⟩
    rw [List.forall_mem_cons, List.forall_mem_cons, List.forall_mem_cons, List.forall_mem_singleton]
    refine ⟨isFilled_of_forall placeholder_notMem_parts_call, isFilled_declare hexpected "expected",
      isFilled_of_forall fun value => ?_, hmarker⟩
    simp [Statement.parts]

/-- A setup assigns the mocks, declares the locals and creates the object. -/
theorem eq_of_setup {w : Wiring} {setup : Setup} (h : w.setup c = .ok setup) :
    setup = ⟨"SetUp", w.mocks ++ w.locals ++
      [.assign (fieldName c.simpleName) (.create c.qualifiedName w.arguments)]⟩ := by
  unfold Wiring.setup at h
  split at h
  · cases h
  · exact (Except.ok.inj h).symm

theorem isFilled_setup (classifier : Classifier) {setup : Setup}
    (h : (Wiring.ofClass classifier c).setup c = .ok setup) :
    ∀ s ∈ setup.statements, s.IsFilled := by
  have hargument (value : Placeholder) (slot : Slot) :
      .placeholder value ∉ slot.argument.parts := by
    rw [Slot.argument]
    split <;> simp [Argument.parts, Expr.parts]
  rw [eq_of_setup h, Wiring.ofClass_eq]
  simp only [Wiring.extend, Wiring.start, List.nil_append, List.forall_mem_append,
    List.forall_mem_singleton]
  refine ⟨⟨fun s hs => ?_, fun s hs => ?_⟩, isFilled_of_forall fun value => ?_⟩
  · obtain ⟨slot, -, hslot⟩ := List.mem_filterMap.1 hs
    obtain ⟨name, -, rfl⟩ := Option.map_eq_some_iff.1 hslot
    refine isFilled_of_forall fun value => ?_
    simp [Statement.parts, Expr.parts]
  · obtain ⟨slot, -, hslot⟩ := List.mem_filterMap.1 hs
    unfold Slot.local? at hslot
    split at hslot
    · rename_i hvalue
      obtain rfl := Option.some.inj hslot
      exact isFilled_declare hvalue _
    · cases hslot
  · rw [Statement.parts, Expr.parts, partsAll_eq, List.mem_cons, List.mem_flatMap]
    rintro (hcreate | ⟨a, ha, hvalue⟩)
    · cases hcreate
    · obtain ⟨slot, -, rfl⟩ := List.mem_map.1 ha
      exact hargument value slot hvalue

/-! ## The methods of a class -/

namespace Synthesizer

theorem isOk_attempt_iff (s : Synthesizer) (c : ClassDeclaration) (p : Method × String) :
    (s.attempt c p).isOk = decide (Testable p.1) := by
  cases h : s.attempt c p with
  | ok t => exact (decide_eq_true (testable_of_written (written_of_test (test_of_attempt h)))).symm
  | error o =>
    exact (decide_eq_false (reported_of_offends (offends_of_attempt h).2).not_testable).symm

theorem exists_ok_of_testable (s : Synthesizer) (c : ClassDeclaration) {p : Method × String}
    (h : Testable p.1) : ∃ t, s.attempt c p = .ok t := by
  have hok := s.isOk_attempt_iff c p
  rw [decide_eq_true h] at hok
  cases hattempt : s.attempt c p with
  | ok t => exact ⟨t, rfl⟩
  | error o =>
    rw [hattempt] at hok
    cases hok

theorem exists_error_of_not_testable (s : Synthesizer) (c : ClassDeclaration)
    {p : Method × String} (h : ¬ Testable p.1) : ∃ o, s.attempt c p = .error o := by
  have hok := s.isOk_attempt_iff c p
  rw [decide_eq_false h] at hok
  cases hattempt : s.attempt c p with
  | ok t =>
    rw [hattempt] at hok
    cases hok
  | error o => exact ⟨o, rfl⟩

/-- Of the public methods of a class, those whose types are all resolvable have tests under their
names, and each other one is left out and reported for its first type that is not; whatever else is
reported is the setup. Every placeholder in the fixture is the value of a local and stands for its
type: the empty string for a string, and the default for any other type. -/
theorem drops_unresolvable (s : Synthesizer) (c : ClassDeclaration) :
    ((namedMethods c).map Prod.fst).Perm c.publicMethods ∧
      List.Forall₂ (fun p t => Tests p.2 c p.1 t)
        ((namedMethods c).filter fun p => Testable p.1) (s.synthesize c).fixture.tests ∧
      (∃ ofSetup ofMethods, (s.synthesize c).omissions = ofSetup ++ ofMethods ∧
        (∀ o ∈ ofSetup, o.fault = .unresolvedDefault c.qualifiedName "SetUp" o.type) ∧
        List.Forall₂
          (fun p o => o.fault = .unresolvedDefault c.qualifiedName p.1.name o.type ∧
            Reported p.1 o.type)
          ((namedMethods c).filter fun p => ¬ Testable p.1) ofMethods) ∧
      (∀ t ∈ (s.synthesize c).fixture.tests, ∀ statement ∈ t.body, statement.IsFilled) ∧
      ∀ setup ∈ (s.synthesize c).fixture.setup, ∀ statement ∈ setup.statements,
        statement.IsFilled := by
  have hmade := forall₂_made (s.attempt c) (namedMethods c)
  have hleftOut := forall₂_leftOut (s.attempt c) (namedMethods c)
  simp only [isOk_attempt_iff, ← decide_not] at hmade hleftOut
  refine ⟨?_, ?_, ⟨_, _, rfl, s.fault_ofSetup c, ?_⟩, ?_, ?_⟩
  · rw [map_fst_namedMethods]
    exact perm_sortByName c.publicMethods
  · exact hmade.imp fun _ _ => tests_of_attempt
  · exact hleftOut.imp fun p o h => (offends_of_attempt h).imp_right reported_of_offends
  · exact forall_of_forall₂ (fun _ _ h => isFilled_body (written_of_test (test_of_attempt h)))
      hmade.flip
  · exact fun setup hsetup => isFilled_setup s.classifier (setup_of_fixture hsetup)

/-- A type parameter inside generic arguments, and one whose name only begins another identifier. -/
theorem drops_unresolvable_nested :
    let load : Method :=
      ⟨"Load", [⟨"index", "Dictionary<string, List<T>>", .byRef⟩], "void", ["T"], false, true⟩
    let find : Method := ⟨"Find", [⟨"key", " String ", .byValue⟩], "Task", ["T"], false, true⟩
    let c : ClassDeclaration := ⟨"Store", "Store", "N", false, [find, load], [], []⟩
    let s : Synthesizer := ⟨.interfaceConvention, "todo"⟩
    ¬ Testable load ∧ Testable find ∧
      (s.synthesize c).fixture.tests.map (·.name) = ["FindTest"] ∧
      ∃ o ∈ (s.synthesize c).omissions,
        o.fault = .unresolvedDefault "Store" "Load" o.type ∧ Reported load o.type := by
  intro load find c s
  have hload : ¬ Testable load := by decide
  have hfind : Testable find := by decide
  have hnamed : namedMethods c = [(find, "FindTest"), (load, "LoadTest")] := by
    have hpublic : c.publicMethods = [find, load] := by decide
    have hsorted : sortByName [find, load] = [find, load] :=
      List.mergeSort_of_pairwise (by decide)
    rw [namedMethods_eq, hpublic, hsorted]
    decide
  obtain ⟨-, htests, ⟨ofSetup, ofMethods, homissions, -, hdropped⟩, -, -⟩ := drops_unresolvable s c
  have htested : (namedMethods c).filter (fun p => Testable p.1) = [(find, "FindTest")] := by
    rw [hnamed]
    simp [hfind, hload]
  have huntested : (namedMethods c).filter (fun p => ¬ Testable p.1) = [(load, "LoadTest")] := by
    rw [hnamed]
    simp [hfind, hload]
  rw [htested] at htests
  rw [huntested] at hdropped
  obtain ⟨o, _, ho, -, rfl⟩ := List.forall₂_cons_left_iff.1 hdropped
  refine ⟨hload, hfind, ?_, o, ?_, ho⟩
  · obtain ⟨t, _, ht, hnil, hcons⟩ := List.forall₂_cons_left_iff.1 htests
    obtain rfl := List.forall₂_nil_left_iff.1 hnil
    rw [hcons, List.map_singleton, ht.name]
  · rw [homissions]
    exact List.mem_append_right ofSetup List.mem_cons_self

end Synthesizer

end Fixture

end Scaffold
