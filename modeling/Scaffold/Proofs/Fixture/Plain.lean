import Scaffold.Proofs.Constructor
import Scaffold.Proofs.Fixture.Lines
import Scaffold.Proofs.Fixture.Test

/-!
# Plain classes have plain fixtures

The names and statements of a fixture are put together from the names and types in its class, fixed
words and numbers. So they are plain when the class and the message of the assertions are
(`Synthesizer.isPlain_synthesize`), and the fixture does not break a line.
-/

namespace Scaffold

open Text (Plain)

namespace Fixture

/-! ## Names -/

/-- The lower-case mappings beyond ASCII stay beyond the control characters. -/
theorem lowercaseRuns_bound :
    ∀ r ∈ Text.lowercaseRuns, (0x20 : Int) ≤ r.first + r.shift := by
  decide +kernel

/-- The line feed is the only ASCII character whose lower case is a line feed. -/
theorem toLower_ascii : ∀ n < 0x80, n ≠ 10 → (Char.ofNat n).toLower ≠ '\n' := by
  decide +kernel

/-- A character beyond the control characters is no line feed. -/
theorem ofNat_ne {n : Nat} (h : 0x20 ≤ n) : Char.ofNat n ≠ '\n' := by
  unfold Char.ofNat
  by_cases hvalid : n.isValidChar
  · intro hlf
    rw [dif_pos hvalid] at hlf
    have hn : n = 10 := congrArg Char.toNat hlf
    omega
  -- A number that is no character stands for the null character.
  · rw [dif_neg hvalid]
    decide

/-- Lower case makes no line feed of another character. -/
theorem lowercase_ne {c : Char} (hc : c ≠ '\n') : ∀ d ∈ Text.lowercase c, d ≠ '\n' := by
  intro d hd
  -- ASCII characters are checked one by one; beyond them, a mapping leads to no control character.
  rcases Text.mem_lowercase_cases hd with
    ⟨hascii, rfl⟩ | rfl | rfl | ⟨-, r, hr, hfirst, -, rfl⟩ | rfl
  · have hn : c.toNat ≠ 10 := fun hn => hc (Char.toNat_inj.1 hn)
    simpa using toLower_ascii c.toNat hascii hn
  · decide
  · decide
  · have hbound := lowercaseRuns_bound r hr
    exact ofNat_ne (by omega)
  · exact hc

theorem plain_camelCase {name : String} (h : Plain name) : Plain (camelCase name) := by
  unfold camelCase
  split
  · decide
  · rename_i c cs hcs
    rw [Plain, hcs, List.mem_cons, not_or] at h
    refine Text.plain_ofList fun d hd => ?_
    rcases List.mem_append.1 hd with hd | hd
    · exact lowercase_ne (fun hlf => h.1 hlf.symm) d hd
    · exact fun hlf => h.2 (hlf ▸ hd)

theorem plain_fieldName {identifier : String} (h : Plain identifier) :
    Plain (fieldName identifier) :=
  Text.plain_append.2 ⟨by decide, plain_camelCase h⟩

theorem plain_fixtureName {className : String} (h : Plain className) :
    Plain (fixtureName className) :=
  Text.plain_append.2 ⟨h, by decide⟩

theorem plain_testNamespace {path : String} (h : Plain path) : Plain (testNamespace path) := by
  rw [testNamespace]
  split
  · decide
  · rcases Text.splitFirst?_cases '.' path with ⟨-, hsplit⟩ | ⟨first, rest, hpath, -, hsplit⟩
    · rw [hsplit]
      show Plain (path ++ "." ++ "Tests")
      simp only [Text.plain_append]
      exact ⟨⟨h, by decide⟩, by decide⟩
    · rw [hpath, Text.plain_append, Text.plain_append] at h
      rw [hsplit]
      show Plain (first ++ "." ++ "Tests" ++ "." ++ rest)
      simp only [Text.plain_append]
      exact ⟨⟨⟨⟨h.1.1, by decide⟩, by decide⟩, by decide⟩, h.2⟩

theorem plain_testName {name : String} (h : Plain name) (k : Nat) : Plain (testName name k) := by
  have hnumber : Plain (if k = 0 then "" else toString k) := by
    split
    · decide
    · exact Text.plain_toString k
  simp only [testName, Text.plain_append]
  exact ⟨⟨h, by decide⟩, hnumber⟩

/-- The names of tests are plain when the names of the methods are. -/
theorem plain_testNamesAfter {methods : List Method} (h : ∀ m ∈ methods, Plain m.name)
    (previous : Option String) (k : Nat) :
    ∀ name ∈ testNamesAfter previous k methods, Plain name := by
  induction methods generalizing previous k with
  | nil => simp [testNamesAfter]
  | cons m methods ih =>
    obtain ⟨hm, hmethods⟩ := List.forall_mem_cons.1 h
    rw [testNamesAfter, List.forall_mem_cons]
    exact ⟨plain_testName hm _, ih hmethods _ _⟩

theorem plain_candidate {wanted : String} (h : Plain wanted) (n : Nat) :
    Plain (candidate wanted n) := by
  unfold candidate
  split
  · exact h
  · exact Text.plain_append.2 ⟨h, by decide⟩
  · simp only [Text.plain_append]
    exact ⟨⟨h, by decide⟩, Text.plain_toString n⟩

theorem plain_freeName {wanted : String} (h : Plain wanted) (taken : List String) :
    Plain (freeName taken wanted) := by
  have hfree (n tries : Nat) : Plain (firstFree taken wanted n tries) := by
    induction tries generalizing n with
    | zero => exact plain_candidate h n
    | succ tries ih =>
      rw [firstFree]
      split
      · exact ih (n + 1)
      · exact plain_candidate h n
  exact hfree 0 taken.length

/-! ## Expressions and statements -/

section Render

variable (text name type target method field keyword : String) (arguments : List Argument)
  (value : Expr)

theorem Expr.render_typeDefault : (placeholder .typeDefault).render = "default" := rfl

theorem Expr.render_literal : (placeholder (.literal text)).render = text := rfl

theorem Expr.render_identifier : (identifier name).render = name := rfl

theorem Expr.render_invoke : (invoke target method arguments).render =
    target ++ "." ++ method ++ "(" ++ ", ".intercalate (Argument.renderAll arguments) ++ ")" := rfl

theorem Expr.render_create : (create type arguments).render =
    "new " ++ type ++ "(" ++ ", ".intercalate (Argument.renderAll arguments) ++ ")" := rfl

theorem Expr.render_createMock : (createMock type).render = "new Mock<" ++ type ++ ">()" := rfl

theorem Expr.render_mockObject : (mockObject field).render = field ++ ".Object" := rfl

theorem Argument.render_none : render ⟨none, value⟩ = value.render := rfl

theorem Argument.render_some : render ⟨some keyword, value⟩ = keyword ++ " " ++ value.render := rfl

end Render

theorem renderAll_eq (arguments : List Argument) :
    Argument.renderAll arguments = arguments.map Argument.render := by
  induction arguments with
  | nil => rfl
  | cons a arguments ih => rw [Argument.renderAll, ih, List.map_cons]

theorem plain_arguments {arguments : List Argument} (h : ∀ a ∈ arguments, Plain a.render) :
    Plain (", ".intercalate (Argument.renderAll arguments)) := by
  rw [renderAll_eq]
  exact Text.plain_intercalate (by decide) (List.forall_mem_map.2 h)

/-- Placeholders are fixed words. -/
theorem plain_placeholder {type : String} {typeParameters : List String} {value : Placeholder}
    (h : placeholder type typeParameters = .ok value) : Plain (Expr.placeholder value).render := by
  simp only [placeholder] at h
  split at h
  · cases h
  · split at h
    · cases h
    · split at h
      · cases h
      · obtain rfl := Except.ok.inj h
        split
        · rw [Expr.render_literal]
          decide
        · rw [Expr.render_typeDefault]
          decide

theorem plain_invoke {target method : String} {arguments : List Argument} (ht : Plain target)
    (hm : Plain method) (h : ∀ a ∈ arguments, Plain a.render) :
    Plain (Expr.invoke target method arguments).render := by
  rw [Expr.render_invoke]
  simp only [Text.plain_append]
  exact ⟨⟨⟨⟨⟨ht, by decide⟩, hm⟩, by decide⟩, plain_arguments h⟩, by decide⟩

theorem plain_create {type : String} {arguments : List Argument} (ht : Plain type)
    (h : ∀ a ∈ arguments, Plain a.render) : Plain (Expr.create type arguments).render := by
  rw [Expr.render_create]
  simp only [Text.plain_append]
  exact ⟨⟨⟨⟨by decide, ht⟩, by decide⟩, plain_arguments h⟩, by decide⟩

theorem plain_createMock {type : String} (h : Plain type) :
    Plain (Expr.createMock type).render := by
  rw [Expr.render_createMock]
  simp only [Text.plain_append]
  exact ⟨⟨by decide, h⟩, by decide⟩

theorem plain_mockObject {field : String} (h : Plain field) :
    Plain (Expr.mockObject field).render := by
  rw [Expr.render_mockObject]
  exact Text.plain_append.2 ⟨h, by decide⟩

theorem plain_field {field : Field} (hname : Plain field.name) (htype : Plain field.type) :
    Plain field.render := by
  have hshown : Plain (if field.isMock then "Mock<" ++ field.type ++ ">" else field.type) := by
    split
    · simp only [Text.plain_append]
      exact ⟨⟨by decide, htype⟩, by decide⟩
    · exact htype
  simp only [Field.render, Text.plain_append]
  exact ⟨⟨⟨⟨by decide, hshown⟩, by decide⟩, hname⟩, by decide⟩

theorem plain_declare {type : Option String} {name : String} {value : Expr}
    (ht : ∀ t ∈ type, Plain t) (hn : Plain name) (hv : Plain value.render) :
    Plain (Statement.declare type name value).render := by
  have htype : Plain (type.getD "var") := by
    cases type with
    | none => decide
    | some t => exact ht t rfl
  simp only [Statement.render, Text.plain_append]
  exact ⟨⟨⟨⟨⟨htype, by decide⟩, hn⟩, by decide⟩, hv⟩, by decide⟩

theorem plain_assign {target : String} {value : Expr} (ht : Plain target)
    (hv : Plain value.render) : Plain (Statement.assign target value).render := by
  simp only [Statement.render, Text.plain_append]
  exact ⟨⟨⟨ht, by decide⟩, hv⟩, by decide⟩

theorem plain_assertFail {message : String} (h : Plain message) :
    Plain (Statement.assertFail message).render := by
  have hescape : Plain (escape message) := by
    refine Text.plain_ofList fun d hd => ?_
    obtain ⟨c, hc, hd⟩ := List.mem_flatMap.1 hd
    have hlf : c ≠ '\n' := fun hlf => h (hlf ▸ hc)
    unfold escapeChar at hd
    split at hd
    · simp only [List.mem_cons, List.not_mem_nil, or_false, or_self] at hd
      exact hd ▸ by decide
    · simp only [List.mem_cons, List.not_mem_nil, or_false] at hd
      rcases hd with rfl | rfl <;> decide
    · exact List.mem_singleton.1 hd ▸ hlf
  simp only [Statement.render, Text.plain_append]
  exact ⟨⟨by decide, hescape⟩, by decide⟩

/-- An argument that passes on a plain parameter is plain. -/
theorem plain_passOn {p : Parameter} (h : p.IsPlain) : Plain (passOn p).render := by
  have hkeyword : ∀ keyword ∈ p.passing.callKeyword?, Plain keyword := by
    cases p.passing <;> decide
  unfold passOn
  cases hp : p.passing.callKeyword? with
  | none =>
    rw [Argument.render_none, Expr.render_identifier]
    exact h.1
  | some keyword =>
    rw [Argument.render_some, Expr.render_identifier]
    simp only [Text.plain_append]
    exact ⟨⟨hkeyword keyword hp, by decide⟩, h.1⟩

/-! ## Wiring -/

/-- The fields, statements and arguments of a wiring are plain. -/
structure Wiring.IsPlain (w : Wiring) : Prop where
  fields : ∀ f ∈ w.fields, Plain f.name ∧ Plain f.type
  mocks : ∀ s ∈ w.mocks, Plain s.render
  locals : ∀ s ∈ w.locals, Plain s.render
  arguments : ∀ a ∈ w.arguments, Plain a.render

namespace Wiring

variable {w : Wiring} {p : Parameter}

theorem IsPlain.addMock (hw : w.IsPlain) (hp : p.IsPlain) : (w.addMock p).IsPlain := by
  have hname : Plain (freeName (w.fields.map (·.name)) (fieldName p.name)) :=
    plain_freeName (plain_fieldName hp.1) _
  have hmock : Plain (Expr.createMock p.type).render := plain_createMock hp.2
  have hargument : Plain (Argument.render
      ⟨none, .mockObject (freeName (w.fields.map (·.name)) (fieldName p.name))⟩) := by
    rw [Argument.render_none]
    exact plain_mockObject hname
  exact {
    fields := List.forall_mem_append.2 ⟨hw.fields, by simpa using ⟨hname, hp.2⟩⟩
    mocks := List.forall_mem_append.2 ⟨hw.mocks, by simpa using plain_assign hname hmock⟩
    locals := hw.locals
    arguments := List.forall_mem_append.2 ⟨hw.arguments, by simpa using hargument⟩ }

theorem IsPlain.addLocal (hw : w.IsPlain) (hp : p.IsPlain) : (w.addLocal p).IsPlain := by
  have harguments : ∀ a ∈ w.arguments ++ [passOn p], Plain a.render :=
    List.forall_mem_append.2 ⟨hw.arguments, by simpa using plain_passOn hp⟩
  unfold Wiring.addLocal
  cases hvalue : placeholder p.type [] with
  | ok value =>
    have hlocal : Plain (Statement.declare (some p.type) p.name (.placeholder value)).render :=
      plain_declare (by simpa using hp.2) hp.1 (plain_placeholder hvalue)
    exact {
      fields := hw.fields
      mocks := hw.mocks
      locals := List.forall_mem_append.2 ⟨hw.locals, by simpa using hlocal⟩
      arguments := harguments }
  | error reason =>
    exact { fields := hw.fields, mocks := hw.mocks, locals := hw.locals, arguments := harguments }

/-- Wiring plain parameters keeps a wiring plain. -/
theorem IsPlain.addAll (classifier : Classifier) {parameters : List Parameter}
    (hp : ∀ p ∈ parameters, p.IsPlain) (hw : w.IsPlain) :
    (parameters.foldl (add classifier) w).IsPlain := by
  induction parameters generalizing w with
  | nil => exact hw
  | cons p parameters ih =>
    obtain ⟨hhead, htail⟩ := List.forall_mem_cons.1 hp
    refine ih htail ?_
    unfold add
    split
    · exact hw.addMock hhead
    · exact hw.addLocal hhead

end Wiring

/-- The wiring of a plain class is plain. -/
theorem Wiring.isPlain_ofClass (classifier : Classifier) {c : ClassDeclaration} (hc : c.IsPlain) :
    (Wiring.ofClass classifier c).IsPlain := by
  have hparameters : ∀ p ∈ (c.smallestConstructor?.map (·.parameters)).getD [], p.IsPlain := by
    cases hk : c.smallestConstructor? with
    | none => simp
    | some k =>
      exact hc.constructors k (ClassDeclaration.firstSmallest_of_smallestConstructor? hk).mem
  refine Wiring.IsPlain.addAll classifier hparameters ?_
  constructor
  · simpa [Wiring.start] using ⟨plain_fieldName hc.simpleName, hc.qualifiedName⟩
  all_goals simp [Wiring.start]

/-! ## Fixtures -/

section Class

variable {c : ClassDeclaration} (hc : c.IsPlain)
include hc

theorem plain_call {m : Method} (hm : m.IsPlain) : Plain (call c m).render := by
  have htarget : Plain (callTarget c m) := by
    unfold callTarget
    split
    · exact hc.qualifiedName
    · exact plain_fieldName hc.simpleName
  refine plain_invoke htarget hm.name ?_
  rw [List.forall_mem_map]
  exact fun p hp => plain_passOn (hm.parameters p hp)

/-- The test of a plain method is plain. -/
theorem plain_test {failureMessage name : String} (hmessage : Plain failureMessage)
    (hname : Plain name) {m : Method} (hm : m.IsPlain) {t : Test}
    (h : test failureMessage name c m = .ok t) :
    Plain t.name ∧ ∀ s ∈ t.body, Plain s.render := by
  unfold test at h
  cases hlocals : m.parameters.mapM (arrange m.typeParameters) with
  | error e => simp [hlocals, bind, Except.bind] at h
  | ok locals =>
    have harrange : ∀ s ∈ locals, Plain s.render := by
      intro s hs
      obtain ⟨p, hp, hs⟩ := exists_of_mapM_ok hlocals s hs
      have hplain := hm.parameters p hp
      unfold arrange at hs
      split at hs
      · obtain rfl := Except.ok.inj hs
        exact plain_declare (by simpa using hplain.2) hplain.1 (plain_placeholder ‹_›)
      · cases hs
    have hcall := plain_call hc hm
    simp only [hlocals, bind, Except.bind] at h
    split at h
    · -- The method returns a value, so the test declares what is expected.
      split at h
      · cases h
      · rename_i value hvalue
        obtain rfl := Except.ok.inj h
        have hact : Plain (Statement.declare none "actual" (call c m)).render :=
          plain_declare (by simp) (by decide) hcall
        have hexpected : Plain
            (Statement.declare (some m.returnType) "expected" (.placeholder value)).render :=
          plain_declare (by simpa using hm.returnType) (by decide) (plain_placeholder hvalue)
        refine ⟨hname, ?_⟩
        rw [Test.body, List.forall_mem_append]
        simpa using ⟨harrange, hact, hexpected, by decide, plain_assertFail hmessage⟩
    · -- The method returns nothing.
      obtain rfl := Except.ok.inj h
      have hact : Plain (Statement.expression (call c m)).render :=
        Text.plain_append.2 ⟨hcall, by decide⟩
      refine ⟨hname, ?_⟩
      rw [Test.body, List.forall_mem_append]
      simpa using ⟨harrange, hact, plain_assertFail hmessage⟩

/-- The tests of a plain class are plain. -/
theorem plain_tests {s : Synthesizer} (hmessage : Plain s.failureMessage) :
    ∀ t ∈ (s.attempts c).filterMap Synthesizer.made,
      Plain t.name ∧ ∀ statement ∈ t.body, Plain statement.render := by
  intro t ht
  obtain ⟨attempt, hattempt, hmade⟩ := List.mem_filterMap.1 ht
  obtain ⟨⟨m, name⟩, hpair, rfl⟩ := List.mem_map.1 hattempt
  have hmethods : ∀ m ∈ sortByName c.publicMethods, m.IsPlain := by
    intro m hm
    exact hc.methods m (List.mem_filter.1 ((List.mergeSort_perm _ _).subset hm)).1
  have hm := hmethods m (List.of_mem_zip hpair).1
  -- The names are made for the sorted methods one by one, so the pair has a name of some method.
  have hname : Plain name :=
    plain_testNamesAfter (fun m hm => (hmethods m hm).name) none 0 name (List.of_mem_zip hpair).2
  cases htest : test s.failureMessage name c m with
  | error e => simp [htest, Synthesizer.made] at hmade
  | ok made =>
    obtain rfl : made = t := by simpa [htest, Synthesizer.made] using hmade
    exact plain_test hc hmessage hname hm htest

/-- The fields of a plain class are plain. -/
theorem plain_fields (s : Synthesizer) : ∀ field ∈ s.fields c, Plain field.render := by
  intro field hfield
  unfold Synthesizer.fields at hfield
  split at hfield
  · cases hfield
  · obtain ⟨hname, htype⟩ := (Wiring.isPlain_ofClass s.classifier hc).fields field hfield
    exact plain_field hname htype

/-- The setup of a plain class is plain. -/
theorem plain_setup (s : Synthesizer) : ∀ setup ∈ (s.setup? c).bind Synthesizer.made,
    Plain setup.name ∧ ∀ statement ∈ setup.statements, Plain statement.render := by
  intro setup hsetup
  obtain ⟨attempt, hattempt, hmade⟩ := Option.bind_eq_some_iff.1 hsetup
  have hwiring := Wiring.isPlain_ofClass s.classifier hc
  unfold Synthesizer.setup? at hattempt
  split at hattempt
  · cases hattempt
  · split at hattempt
    · rename_i made hwired
      obtain rfl := Option.some.inj hattempt
      obtain rfl : made = setup := Option.some.inj hmade
      unfold Wiring.setup at hwired
      split at hwired
      · cases hwired
      · obtain rfl := Except.ok.inj hwired
        have hcreate := plain_assign (plain_fieldName hc.simpleName)
          (plain_create hc.qualifiedName hwiring.arguments)
        have hname : Plain setupName := by decide
        refine ⟨hname, ?_⟩
        rw [List.forall_mem_append, List.forall_mem_append]
        exact ⟨⟨hwiring.mocks, hwiring.locals⟩, by simpa using hcreate⟩
    · -- A setup that was left out is not made.
      obtain rfl := Option.some.inj hattempt
      cases hmade

/-- The fixture of a plain class is plain. -/
theorem Synthesizer.isPlain_synthesize {s : Synthesizer} (hmessage : Plain s.failureMessage) :
    (s.synthesize c).fixture.IsPlain where
  name := plain_fixtureName hc.simpleName
  namespacePath := plain_testNamespace hc.namespacePath
  sourceNamespace := hc.namespacePath
  imports := hc.imports
  fields := plain_fields hc s
  setup := plain_setup hc s
  tests := plain_tests hc hmessage

end Class

end Fixture

end Scaffold
