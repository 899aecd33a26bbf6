import Mathlib.Data.List.Basic
import Scaffold.Proofs.Fixture.Isolation

/-!
# No two tests have one name

The name of a test is the name of its method, `Test`, and for the second and later overloads a
number. Both can be read off it, whatever the name of the method is: the digits at the end are the
number, since the letter before them is none (`testName_inj`). Among sorted methods the overloads of
one name stand together, so they are numbered upwards and no number comes twice
(`nodup_testNamesAfter`). The tests of a class are named by some of these names
(`Synthesizer.sublist_testNames`), and no other member of the fixture is called like one of them
(`testNames_never_collide`).
-/

namespace Scaffold.Fixture

/-! ## Reading a name back -/

/-- The digits that number an overload, or a field that is renamed; the first one has none. -/
def overloadDigits (k : Nat) : List Char :=
  if k = 0 then [] else Nat.toDigits 10 k

theorem isDigit_of_mem_overloadDigits {k : Nat} {c : Char} (h : c ∈ overloadDigits k) :
    c.isDigit = true := by
  unfold overloadDigits at h
  split at h
  · cases h
  · exact Nat.isDigit_of_mem_toDigits (by omega) (Nat.le_refl 10) h

/-- The digits tell the number. -/
theorem overloadDigits_inj {k k' : Nat} (h : overloadDigits k = overloadDigits k') : k = k' := by
  unfold overloadDigits at h
  split at h <;> split at h
  · omega
  · exact absurd h.symm Nat.toDigits_ne_nil
  · exact absurd h Nat.toDigits_ne_nil
  · calc
      k = Nat.ofDigitChars 10 (Nat.toDigits 10 k) 0 := Nat.ofDigitChars_ten_toDigits.symm
      _ = Nat.ofDigitChars 10 (Nat.toDigits 10 k') 0 := by rw [h]
      _ = k' := Nat.ofDigitChars_ten_toDigits

theorem toList_testName (name : String) (k : Nat) :
    (testName name k).toList = (name.toList ++ ['T', 'e', 's']) ++ 't' :: overloadDigits k := by
  have hdigits : (if k = 0 then "" else toString k).toList = overloadDigits k := by
    unfold overloadDigits
    split
    · rfl
    · rw [Nat.toString_eq_ofList_toDigits, String.toList_ofList]
  rw [testName, String.toList_append, String.toList_append, hdigits, List.append_assoc,
    List.append_assoc]
  rfl

/-- What stands before the last place of an element, and what stands behind it, can be read off a
list. -/
theorem append_cons_inj_of_notMem_back {α : Type} {c : α} {front front' back back' : List α}
    (hback : c ∉ back) (hback' : c ∉ back') (h : front ++ c :: back = front' ++ c :: back') :
    front = front' ∧ back = back' := by
  -- One front is the other and some more. More than nothing would have the element in a back.
  obtain ⟨more, rfl, hrest⟩ | ⟨more, rfl, hrest⟩ := List.append_eq_append_iff.1 h
  · cases more with
    | nil => exact ⟨(List.append_nil front).symm, (List.cons.inj hrest).2⟩
    | cons x more =>
      obtain ⟨rfl, rfl⟩ := List.cons.inj hrest
      exact absurd (List.mem_append_right more List.mem_cons_self) hback
  · cases more with
    | nil => exact ⟨List.append_nil front', (List.cons.inj hrest).2.symm⟩
    | cons x more =>
      obtain ⟨rfl, rfl⟩ := List.cons.inj hrest
      exact absurd (List.mem_append_right more List.mem_cons_self) hback'

/-- The method and the number of the overload can be read off the name of a test. -/
theorem testName_inj {name name' : String} {k k' : Nat} (h : testName name k = testName name' k') :
    name = name' ∧ k = k' := by
  have hletter (k : Nat) : 't' ∉ overloadDigits k := by
    intro hmem
    have hdigit := isDigit_of_mem_overloadDigits hmem
    exact absurd hdigit (by decide)
  have hlist := congrArg String.toList h
  rw [toList_testName, toList_testName] at hlist
  obtain ⟨hfront, hdigits⟩ := append_cons_inj_of_notMem_back (hletter k) (hletter k') hlist
  exact ⟨String.toList_inj.1 (List.append_cancel_right hfront), overloadDigits_inj hdigits⟩

/-- The name of a test ends in the last letter of `Test` or in a digit. -/
theorem getLast?_testName (name : String) (k : Nat) {c : Char}
    (h : (testName name k).toList.getLast? = some c) : c = 't' ∨ c.isDigit = true := by
  rw [toList_testName, List.getLast?_append, List.getLast?_cons, Option.some_or,
    Option.some.injEq] at h
  cases hdigits : (overloadDigits k).getLast? with
  | none =>
    rw [hdigits] at h
    exact .inl h.symm
  | some d =>
    rw [hdigits] at h
    obtain rfl : d = c := h
    exact .inr (isDigit_of_mem_overloadDigits (List.mem_of_getLast? hdigits))

/-! ## The names of the tests -/

/-- Behind `k` overloads of a name, all others of it have higher numbers. -/
theorem exists_of_mem_testNamesAfter {methods : List Method} {previous : String} {k : Nat}
    (hsorted : methods.Pairwise fun a b => a.name ≤ b.name)
    (hprevious : ∀ m ∈ methods, previous ≤ m.name) {x : String}
    (h : x ∈ testNamesAfter (some previous) k methods) :
    ∃ m ∈ methods, ∃ j, x = testName m.name j ∧ (m.name = previous → k < j) := by
  induction methods generalizing previous k with
  | nil => cases h
  | cons m methods ih =>
    obtain ⟨hm, hsorted⟩ := List.pairwise_cons.1 hsorted
    obtain ⟨hle, -⟩ := List.forall_mem_cons.1 hprevious
    rw [testNamesAfter] at h
    obtain rfl | h := List.mem_cons.1 h
    · refine ⟨m, List.mem_cons_self, _, rfl, fun hname => ?_⟩
      rw [if_pos (congrArg some hname.symm)]
      omega
    · obtain ⟨m', hm', j, rfl, hj⟩ := ih hsorted hm h
      refine ⟨m', List.mem_cons_of_mem _ hm', j, rfl, fun hname => ?_⟩
      -- Between two methods of one name stand only methods of that name.
      have heq : m.name = previous := le_antisymm (hname ▸ hm m' hm') hle
      have hj := hj (hname.trans heq.symm)
      rw [if_pos (congrArg some heq.symm)] at hj
      omega

/-- Sorted methods have tests of different names. -/
theorem nodup_testNamesAfter {methods : List Method}
    (hsorted : methods.Pairwise fun a b => a.name ≤ b.name) (previous : Option String) (k : Nat) :
    (testNamesAfter previous k methods).Nodup := by
  induction methods generalizing previous k with
  | nil => exact List.nodup_nil
  | cons m methods ih =>
    obtain ⟨hm, hsorted⟩ := List.pairwise_cons.1 hsorted
    rw [testNamesAfter]
    refine List.nodup_cons.2 ⟨fun hmem => ?_, ih hsorted _ _⟩
    obtain ⟨m', -, j, heq, hj⟩ := exists_of_mem_testNamesAfter hsorted hm hmem
    obtain ⟨hname, rfl⟩ := testName_inj heq
    exact absurd (hj hname.symm) (Nat.lt_irrefl _)

/-- Every name of a test comes of some method. -/
theorem exists_testName_of_mem {methods : List Method} {previous : Option String} {k : Nat}
    {x : String} (h : x ∈ testNamesAfter previous k methods) : ∃ name j, x = testName name j := by
  induction methods generalizing previous k with
  | nil => cases h
  | cons m methods ih =>
    rw [testNamesAfter] at h
    obtain rfl | h := List.mem_cons.1 h
    · exact ⟨m.name, _, rfl⟩
    · exact ih h

/-- A text with another ending is the name of no test. -/
theorem notMem_testNames {methods : List Method} {x : String} {c : Char}
    (hlast : x.toList.getLast? = some c) (hletter : c ≠ 't') (hdigit : c.isDigit = false) :
    x ∉ testNames methods := by
  intro h
  obtain ⟨name, j, rfl⟩ := exists_testName_of_mem h
  obtain rfl | hc := getLast?_testName name j hlast
  · exact hletter rfl
  · rw [hdigit] at hc
    cases hc

/-! ## The tests of a class -/

namespace Synthesizer

/-- The tests of a class are named in the order of its methods, and those that are left out are left
out of the names. -/
theorem sublist_testNames (s : Synthesizer) (c : ClassDeclaration) :
    ((s.synthesize c).fixture.tests.map (·.name)).Sublist
      (testNames (sortByName c.publicMethods)) := by
  have hnames : (namedMethods c).map Prod.snd = testNames (sortByName c.publicMethods) := by
    rw [namedMethods_eq]
    exact List.map_snd_zip (length_testNamesAfter none 0 _).le
  have htests : (s.synthesize c).fixture.tests =
      ((namedMethods c).map (s.attempt c)).filterMap made := rfl
  rw [htests, ← hnames]
  generalize namedMethods c = named
  induction named with
  | nil => exact .slnil
  | cons p named ih =>
    rw [List.map_cons, List.map_cons, List.filterMap_cons]
    have hp := s.contributes_attempt c p
    cases hattempt : s.attempt c p with
    | error o => exact ih.cons _
    | ok t =>
      rw [hattempt] at hp
      cases hp with
      | test htests =>
        rw [← htests.name]
        exact ih.cons_cons t.name

end Synthesizer

/-- The names of tests never collide: sorted methods, whatever they are called, have one name each
and all different. So have the tests of a class, which are named by some of these in their order,
and neither the setup nor the fixture itself is called like a test. -/
theorem testNames_never_collide :
    (∀ methods : List Method,
      (testNames (sortByName methods)).length = methods.length ∧
        (testNames (sortByName methods)).Nodup) ∧
      ∀ (s : Synthesizer) (c : ClassDeclaration),
        let fixture := (s.synthesize c).fixture
        let names := fixture.tests.map (·.name)
        names.Sublist (testNames (sortByName c.publicMethods)) ∧ names.Nodup ∧
          "SetUp" ∉ names ∧ fixture.name ∉ names := by
  have hnodup (methods : List Method) : (testNames (sortByName methods)).Nodup :=
    nodup_testNamesAfter (ordinal_sortByName methods).ordered none 0
  refine ⟨fun methods => ⟨?_, hnodup methods⟩, fun s c => ?_⟩
  · rw [testNames, length_testNamesAfter]
    exact (perm_sortByName methods).length_eq
  · intro fixture names
    have hsublist : names.Sublist (testNames (sortByName c.publicMethods)) := s.sublist_testNames c
    have hfixture : (fixtureName c.simpleName).toList.getLast? = some 's' := by
      rw [fixtureName, String.toList_append, List.getLast?_append]
      rfl
    refine ⟨hsublist, hsublist.nodup (hnodup _), fun hmem => ?_, fun hmem => ?_⟩
    · exact notMem_testNames rfl (by decide) (by decide) (hsublist.subset hmem)
    · exact notMem_testNames hfixture (by decide) (by decide) (hsublist.subset hmem)

end Scaffold.Fixture
