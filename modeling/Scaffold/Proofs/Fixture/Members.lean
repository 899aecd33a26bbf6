import Scaffold.Proofs.Fixture.Distinct
import Scaffold.Proofs.Fixture.Overloads
import Scaffold.Proofs.Text.Lines

/-!
# The members of a fixture

The fields of a fixture are named after the class and the mocked parameters, and are renamed only
when two fields would have one name. A renamed field ends in `Mock` and maybe a number, so no other
member is called like it (`not_isRenamed_of_lastLetter?`). Every other field has the name it should
have (`Synthesizer.mem_fieldNames_iff`), which begins with an underscore. So a test or the fixture is
called like a field only when the method or the class has an underscore in front too, and the rest
of the field is the rest of that member (`fieldName_eq_append_iff`). There are such classes:
`Synthesizer.fields_clash_iff` says which, and `Synthesizer.fields_clash_with_underscores` is one.
-/

namespace Scaffold.Fixture

/-! ## The last letter of a name -/

/-- The last character of a name that is no digit. -/
def lastLetter? (name : String) : Option Char :=
  (Text.dropEndWhile Char.isDigit name.toList).getLast?

theorem lastLetter?_eq {name : String} {front digits : List Char} {c : Char}
    (h : name.toList = front ++ c :: digits) (hc : c.isDigit = false)
    (hdigits : ∀ d ∈ digits, d.isDigit = true) : lastLetter? name = some c := by
  have hreverse : (front ++ c :: digits).reverse = digits.reverse ++ c :: front.reverse := by simp
  rw [lastLetter?, h, Text.dropEndWhile, hreverse,
    List.dropWhile_append_of_pos fun d hd => hdigits d (List.mem_reverse.1 hd),
    List.dropWhile_cons_of_neg (by simp [hc]), List.getLast?_reverse, List.head?_cons]

theorem lastLetter?_testName (name : String) (k : Nat) : lastLetter? (testName name k) = some 't' :=
  lastLetter?_eq (toList_testName name k) (by decide) fun _ => isDigit_of_mem_overloadDigits

theorem lastLetter?_fixtureName (className : String) :
    lastLetter? (fixtureName className) = some 's' := by
  have hlist : (fixtureName className).toList = (className.toList ++ "Test".toList) ++ ['s'] := by
    rw [fixtureName, String.toList_append, List.append_assoc]
    rfl
  exact lastLetter?_eq hlist (by decide) (by simp)

/-! ## The names that fields are given -/

/-- The name is one that a field gets when the name it should have is taken. -/
def IsRenamed (name : String) : Prop :=
  ∃ wanted n, name = candidate wanted (n + 1)

/-- Behind the name it should have, a renamed field has `Mock` and from the second one on its
number. -/
theorem toList_candidate_succ (wanted : String) (n : Nat) :
    (candidate wanted (n + 1)).toList =
      wanted.toList ++ ("Mock".toList ++ overloadDigits (if n = 0 then 0 else n + 1)) := by
  cases n with
  | zero => exact String.toList_append
  | succ n =>
    rw [if_neg (Nat.succ_ne_zero n), overloadDigits, if_neg (Nat.succ_ne_zero _)]
    show (wanted ++ "Mock" ++ toString (n + 2)).toList = _
    rw [String.toList_append, String.toList_append, List.append_assoc, Nat.toString_eq_repr,
      Nat.toList_repr]

/-- Behind the name it should have, a renamed field has `Mock` and digits. -/
theorem exists_candidate_succ_eq (wanted : String) (n : Nat) :
    ∃ digits, (candidate wanted (n + 1)).toList = wanted.toList ++ ("Mock".toList ++ digits) ∧
      ∀ d ∈ digits, d.isDigit = true :=
  ⟨_, toList_candidate_succ wanted n, fun _ => isDigit_of_mem_overloadDigits⟩

theorem lastLetter?_of_isRenamed {name : String} (h : IsRenamed name) :
    lastLetter? name = some 'k' := by
  obtain ⟨wanted, n, rfl⟩ := h
  obtain ⟨digits, hlist, hdigits⟩ := exists_candidate_succ_eq wanted n
  have hmock : wanted.toList ++ ("Mock".toList ++ digits) =
      (wanted.toList ++ "Moc".toList) ++ 'k' :: digits := by
    rw [List.append_assoc]
    rfl
  exact lastLetter?_eq (hlist.trans hmock) (by decide) hdigits

/-- A name with another last letter is that of no renamed field. -/
theorem not_isRenamed_of_lastLetter? {name : String} {c : Char} (h : lastLetter? name = some c)
    (hc : c ≠ 'k') : ¬ IsRenamed name := by
  intro hrenamed
  exact hc (Option.some.inj (h.symm.trans (lastLetter?_of_isRenamed hrenamed)))

theorem firstFree_eq_candidate (taken : List String) (wanted : String) (n tries : Nat) :
    ∃ i, n ≤ i ∧ firstFree taken wanted n tries = candidate wanted i := by
  induction tries generalizing n with
  | zero => exact ⟨n, Nat.le_refl n, rfl⟩
  | succ tries ih =>
    rw [firstFree]
    split
    · obtain ⟨i, hi, heq⟩ := ih (n + 1)
      exact ⟨i, by omega, heq⟩
    · exact ⟨n, Nat.le_refl n, rfl⟩

/-- A field gets the name it should have, or this name is taken and it is renamed. -/
theorem freeName_cases (taken : List String) (wanted : String) :
    freeName taken wanted = wanted ∨ wanted ∈ taken ∧ IsRenamed (freeName taken wanted) := by
  unfold freeName
  cases taken.length with
  | zero => exact .inl rfl
  | succ tries =>
    rw [firstFree]
    split
    · rename_i htaken
      obtain ⟨i, hi, heq⟩ := firstFree_eq_candidate taken wanted 1 tries
      obtain ⟨n, rfl⟩ := Nat.exists_eq_add_of_le' hi
      exact .inr ⟨htaken, wanted, n, heq⟩
    · exact .inl rfl

variable {classifier : Classifier} {x : String}

/-- Beside the names of renamed fields, mocks bring in the names that they should have. -/
theorem mem_slots_iff (hx : ¬ IsRenamed x) (taken : List String) (ps : List Parameter) :
    (x ∈ taken ∨ x ∈ (slots classifier taken ps).filterMap (·.mock)) ↔
      x ∈ taken ∨ ∃ p ∈ classifier.mocked ps, x = fieldName p.name := by
  induction ps generalizing taken with
  | nil => simp [slots, Classifier.mocked]
  | cons p ps ih =>
    cases h : classifier.isAbstraction p.type with
    | false =>
      rw [slots_cons_of_neg h, Classifier.mocked_cons_of_neg h, List.filterMap_cons]
      exact ih taken
    | true =>
      -- The new field has the wanted name unless this is taken already.
      have hname : (x ∈ taken ∨ x = freeName taken (fieldName p.name)) ↔
          (x ∈ taken ∨ x = fieldName p.name) := by
        rcases freeName_cases taken (fieldName p.name) with heq | ⟨htaken, hrenamed⟩
        · rw [heq]
        · have hfree : x ≠ freeName taken (fieldName p.name) := by
            rintro rfl
            exact hx hrenamed
          have hwanted : x = fieldName p.name → x ∈ taken := by
            rintro rfl
            exact htaken
          rw [or_iff_left hfree, or_iff_left_of_imp hwanted]
      have hrest := ih (taken ++ [freeName taken (fieldName p.name)])
      rw [List.mem_append, List.mem_singleton, hname] at hrest
      rw [slots_cons_of_pos h, Classifier.mocked_cons_of_pos h, List.filterMap_cons, List.mem_cons,
        ← or_assoc, hname, hrest, List.exists_mem_cons_iff, or_assoc]

/-! ## Names with an underscore in front -/

theorem toList_underscore_append (name : String) : ("_" ++ name).toList = '_' :: name.toList := by
  rw [String.toList_append]
  rfl

/-- A name that was made of `name` is that of a field when both go on alike behind an underscore. -/
theorem fieldName_eq_append_iff {identifier name suffix : String}
    (hsuffix : suffix.toList.head? = some 'T') :
    fieldName identifier = name ++ suffix ↔
      ∃ rest, name = "_" ++ rest ∧ camelCase identifier = rest ++ suffix := by
  constructor
  · intro h
    have hlist := congrArg String.toList h
    rw [fieldName, toList_underscore_append, String.toList_append] at hlist
    cases hname : name.toList with
    | nil =>
      rw [hname, List.nil_append] at hlist
      rw [← hlist] at hsuffix
      cases hsuffix
    | cons c cs =>
      rw [hname, List.cons_append] at hlist
      obtain ⟨rfl, hcamel⟩ := List.cons.inj hlist
      refine ⟨String.ofList cs, ?_, ?_⟩
      · rw [← String.toList_inj, hname, toList_underscore_append, String.toList_ofList]
      · rw [← String.toList_inj, hcamel, String.toList_append, String.toList_ofList]
  · rintro ⟨rest, rfl, hcamel⟩
    rw [fieldName, hcamel, String.append_assoc]

theorem fieldName_eq_testName_iff {identifier name : String} {k : Nat} :
    fieldName identifier = testName name k ↔
      ∃ rest, name = "_" ++ rest ∧ camelCase identifier = testName rest k := by
  simp only [testName, String.append_assoc]
  refine fieldName_eq_append_iff ?_
  rw [String.toList_append]
  rfl

theorem fieldName_eq_fixtureName_iff {identifier className : String} :
    fieldName identifier = fixtureName className ↔
      ∃ rest, className = "_" ++ rest ∧ camelCase identifier = fixtureName rest :=
  fieldName_eq_append_iff rfl

/-- A class whose name begins with an underscore has a fixture that is not called like the field of
the object under test. -/
theorem fieldName_ne_fixtureName (className : String) :
    fieldName className ≠ fixtureName className := by
  intro h
  obtain ⟨rest, rfl, hcamel⟩ := fieldName_eq_fixtureName_iff.1 h
  have hlist : (camelCase ("_" ++ rest)).toList = '_' :: rest.toList := by
    rw [camelCase, toList_underscore_append]
    exact String.toList_ofList
  rw [hcamel, fixtureName, String.toList_append] at hlist
  have hlength := congrArg List.length hlist
  simp at hlength

namespace Synthesizer

/-- The identifiers that the fields of a fixture are named after. -/
def fieldSources (s : Synthesizer) (c : ClassDeclaration) : List String :=
  if c.isStatic then []
  else c.simpleName :: (s.classifier.mocked c.createdWith).map (·.name)

/-- The fields of an instance class are the one of the object under test and those of the mocks. -/
theorem fieldNames_of_not_isStatic (s : Synthesizer) {c : ClassDeclaration}
    (hc : c.isStatic = false) : (s.synthesize c).fixture.fields.map (·.name) =
      fieldName c.simpleName :: (Wiring.slotsOf s.classifier c).filterMap (·.mock) := by
  have hmocks : ((Wiring.slotsOf s.classifier c).filterMap Slot.field?).map (·.name) =
      (Wiring.slotsOf s.classifier c).filterMap (·.mock) := by
    rw [List.map_filterMap]
    refine List.filterMap_congr fun slot _ => ?_
    unfold Slot.field?
    cases slot.mock <;> rfl
  rw [s.fields_of_not_isStatic hc, List.map_cons, hmocks]

/-- The fields that are not renamed are called after what they hold. -/
theorem mem_fieldNames_iff (s : Synthesizer) (c : ClassDeclaration) (hx : ¬ IsRenamed x) :
    x ∈ (s.synthesize c).fixture.fields.map (·.name) ↔
      ∃ identifier ∈ s.fieldSources c, x = fieldName identifier := by
  unfold fieldSources
  cases hc : c.isStatic with
  | true =>
    rw [s.fields_of_isStatic hc]
    simp
  | false =>
    have hslots : (x ∈ [fieldName c.simpleName] ∨ x ∈ (Wiring.slotsOf s.classifier c).filterMap
        (·.mock)) ↔ _ := mem_slots_iff hx [fieldName c.simpleName] c.createdWith
    rw [List.mem_singleton] at hslots
    rw [s.fieldNames_of_not_isStatic hc, List.mem_cons, hslots]
    simp

/-- The test of a named method is called like a field when the method has the underscore that the
field has, and the rest of its name is that of the field. -/
theorem testName_mem_fieldNames_iff (s : Synthesizer) (c : ClassDeclaration) (name : String)
    (k : Nat) : testName name k ∈ (s.synthesize c).fixture.fields.map (·.name) ↔
      ∃ identifier ∈ s.fieldSources c, ∃ rest,
        name = "_" ++ rest ∧ camelCase identifier = testName rest k := by
  rw [s.mem_fieldNames_iff c
    (not_isRenamed_of_lastLetter? (lastLetter?_testName name k) (by decide))]
  exact exists_congr fun identifier => and_congr_right fun _ =>
    eq_comm.trans fieldName_eq_testName_iff

/-- The fixture is called like the field of a mock when the class has the underscore that the field
has, and the rest of its name is that of the field. -/
theorem fixtureName_mem_fieldNames_iff (s : Synthesizer) (c : ClassDeclaration) :
    fixtureName c.simpleName ∈ (s.synthesize c).fixture.fields.map (·.name) ↔
      c.isStatic = false ∧ ∃ p ∈ s.classifier.mocked c.createdWith, ∃ rest,
        c.simpleName = "_" ++ rest ∧ camelCase p.name = fixtureName rest := by
  rw [s.mem_fieldNames_iff c
    (not_isRenamed_of_lastLetter? (lastLetter?_fixtureName c.simpleName) (by decide))]
  unfold fieldSources
  cases c.isStatic with
  | true => simp
  | false =>
    have hobject : fixtureName c.simpleName ≠ fieldName c.simpleName :=
      (fieldName_ne_fixtureName c.simpleName).symm
    rw [if_neg Bool.false_ne_true, List.exists_mem_cons_iff, or_iff_right hobject, eq_self,
      true_and]
    simp only [List.mem_map, exists_exists_and_eq_and]
    exact exists_congr fun p => and_congr_right fun _ =>
      eq_comm.trans fieldName_eq_fixtureName_iff

theorem setupName_notMem_fieldNames (s : Synthesizer) (c : ClassDeclaration) :
    "SetUp" ∉ (s.synthesize c).fixture.fields.map (·.name) := by
  have hletter : lastLetter? "SetUp" = some 'p' := by decide
  rw [s.mem_fieldNames_iff c (not_isRenamed_of_lastLetter? hletter (by decide))]
  rintro ⟨identifier, -, h⟩
  have hlist := congrArg String.toList h
  rw [fieldName, toList_underscore_append] at hlist
  exact absurd (List.cons.inj hlist).1 (by decide)

/-- The setup of a fixture has the same name for every class. -/
theorem name_of_setup {s : Synthesizer} {c : ClassDeclaration} {setup : Setup}
    (h : (s.synthesize c).fixture.setup = some setup) : setup.name = "SetUp" := by
  rw [eq_of_setup (setup_of_fixture h)]

/-- A test is called like a public method and how many of its name are declared before it. -/
theorem exists_of_mem_tests {s : Synthesizer} {c : ClassDeclaration} {t : Test}
    (h : t ∈ (s.synthesize c).fixture.tests) :
    ∃ before m after, c.publicMethods = before ++ m :: after ∧
      t.name = testName m.name ((before.map (·.name)).count m.name) := by
  obtain ⟨outcome, houtcome, hmade⟩ := List.mem_filterMap.1 h
  obtain ⟨p, hp, hattempt⟩ := List.mem_map.1 houtcome
  obtain ⟨before, after, hsplit, hname⟩ :=
    exists_of_mem_numberedAfter ((perm_numbered c).mem_iff.1 hp)
  cases outcome with
  | error o => cases hmade
  | ok t' =>
    obtain rfl := Option.some.inj hmade
    exact ⟨before, p.1, after, hsplit, (tests_of_attempt hattempt).name.trans hname⟩

/-- No field is called like the setup. A field is called like a test exactly when the method is
called with an underscore in front, and behind it the class or a mocked parameter is called like the
test; and like the fixture exactly when the class is called with an underscore in front, and behind
it a mocked parameter is called like the fixture. So where neither the class nor a public method has
such a name, the fields share no name with other members. -/
theorem fields_clash_iff (s : Synthesizer) (c : ClassDeclaration) :
    let fixture := (s.synthesize c).fixture
    let names := fixture.fields.map (·.name)
    "SetUp" ∉ names ∧ (∀ setup, fixture.setup = some setup → setup.name = "SetUp") ∧
      (∀ t ∈ fixture.tests, ∃ before m after, c.publicMethods = before ++ m :: after ∧
        let k := (before.map (·.name)).count m.name
        t.name = testName m.name k ∧
          (t.name ∈ names ↔ ∃ identifier ∈ s.fieldSources c, ∃ rest,
            m.name = "_" ++ rest ∧ camelCase identifier = testName rest k)) ∧
      (fixture.name ∈ names ↔ c.isStatic = false ∧ ∃ p ∈ s.classifier.mocked c.createdWith,
        ∃ rest, c.simpleName = "_" ++ rest ∧ camelCase p.name = fixtureName rest) ∧
      ((∀ name ∈ c.simpleName :: c.publicMethods.map (·.name), name.toList.head? ≠ some '_') →
        ∀ x ∈ names, x ≠ "SetUp" ∧ x ≠ fixture.name ∧ x ∉ fixture.tests.map (·.name)) := by
  intro fixture names
  have hunderscore (rest : String) : ("_" ++ rest).toList.head? = some '_' := by
    rw [toList_underscore_append]
    rfl
  refine ⟨s.setupName_notMem_fieldNames c, fun _ => name_of_setup, fun t ht => ?_,
    s.fixtureName_mem_fieldNames_iff c, fun hplain x hx => ⟨?_, ?_, ?_⟩⟩
  · obtain ⟨before, m, after, hsplit, hname⟩ := exists_of_mem_tests ht
    exact ⟨before, m, after, hsplit, hname, hname ▸ s.testName_mem_fieldNames_iff c m.name _⟩
  · rintro rfl
    exact s.setupName_notMem_fieldNames c hx
  · rintro rfl
    obtain ⟨-, -, -, rest, hclass, -⟩ := (s.fixtureName_mem_fieldNames_iff c).1 hx
    exact hplain c.simpleName List.mem_cons_self (hclass ▸ hunderscore rest)
  · intro hmem
    obtain ⟨t, ht, rfl⟩ := List.mem_map.1 hmem
    obtain ⟨before, m, after, hsplit, hname⟩ := exists_of_mem_tests ht
    rw [hname] at hx
    obtain ⟨-, -, rest, hmethod, -⟩ := (s.testName_mem_fieldNames_iff c m.name _).1 hx
    have hpublic : m ∈ c.publicMethods := hsplit ▸ List.mem_append_right before List.mem_cons_self
    exact hplain m.name (List.mem_cons_of_mem _ (List.mem_map_of_mem hpublic))
      (hmethod ▸ hunderscore rest)

/-- A mock that has to be renamed, and no name with an underscore. -/
theorem fields_clash_iff_plain :
    let read : Method := ⟨"Read", [], "void", [], false, true⟩
    let c : ClassDeclaration :=
      ⟨"Reader", "Reader", "App", false, [read], [⟨[⟨"reader", "IReader", .byValue⟩]⟩], []⟩
    let s : Synthesizer := ⟨.interfaceConvention, "todo"⟩
    let fixture := (s.synthesize c).fixture
    (∀ name ∈ c.simpleName :: c.publicMethods.map (·.name), name.toList.head? ≠ some '_') ∧
      fixture.fields.map (·.name) = ["_reader", "_readerMock"] ∧
      ∀ x ∈ ["_reader", "_readerMock"],
        x ≠ "SetUp" ∧ x ≠ fixture.name ∧ x ∉ fixture.tests.map (·.name) := by
  intro read c s fixture
  have hplain : ∀ name ∈ c.simpleName :: c.publicMethods.map (·.name),
      name.toList.head? ≠ some '_' := by decide
  have hfields : fixture.fields.map (·.name) = ["_reader", "_readerMock"] := by decide
  obtain ⟨-, -, -, -, hdisjoint⟩ := fields_clash_iff s c
  exact ⟨hplain, hfields, hfields ▸ hdisjoint hplain⟩

/-- A class and a method with underscores in front: one mock is called like the test, and another
like the fixture. -/
theorem fields_clash_with_underscores :
    let run : Method := ⟨"_run", [], "void", [], false, true⟩
    let k : Constructor :=
      ⟨[⟨"runTest", "IRunner", .byValue⟩, ⟨"jobTests", "IJobTests", .byValue⟩]⟩
    let c : ClassDeclaration := ⟨"_job", "_job", "App", false, [run], [k], []⟩
    let s : Synthesizer := ⟨.interfaceConvention, "autogenerated"⟩
    let fixture := (s.synthesize c).fixture
    fixture.name = "_jobTests" ∧ fixture.tests.map (·.name) = ["_runTest"] ∧
      fixture.fields.map (·.name) = ["__job", "_runTest", "_jobTests"] := by
  intro run k c s fixture
  refine ⟨by decide, ?_, by decide⟩
  have hsorted : sortByName c.publicMethods = [run] :=
    List.mergeSort_of_pairwise (List.pairwise_singleton _ _)
  show ((s.attempts c).filterMap made).map (·.name) = ["_runTest"]
  rw [attempts_eq, namedMethods_eq, hsorted]
  decide

end Synthesizer

end Scaffold.Fixture
