import Scaffold.Proofs.Fixture.Resolvable
import Scaffold.Proofs.Text.Bytes

/-!
# The numbers of overloads

The test of a method is numbered by how many methods of its name are declared before it, wherever
other methods stand (`perm_numbered`). Sorting brings the methods of one name together without
changing their order, so counting along a run of one name comes to the same
(`zip_testNamesAfter_eq`). Methods that are declared in another order, with overloads in the same
order, are sorted into the same list (`namedMethods_of_reorders`), and so the tests of two such
classes differ in what is called and in nothing else (`overloads_numbered`).
-/

namespace Scaffold

/-- The public methods of the classes are the same, and those of one name are declared in the same
order. -/
structure ClassDeclaration.Reorders (c c' : ClassDeclaration) : Prop where
  perm : c'.publicMethods.Perm c.publicMethods
  overloads : ∀ name, c'.publicMethods.filter (·.name = name) =
    c.publicMethods.filter (·.name = name)

namespace Fixture

/-! ## Lists that agree on each key -/

section Keys

variable {α : Type} {key : α → String} {l l' : List α}

/-- Lists that agree on each key have the same elements. -/
theorem perm_of_filter_eq [DecidableEq α]
    (h : ∀ x, l.filter (key · = x) = l'.filter (key · = x)) : l.Perm l' := by
  refine List.perm_iff_count.2 fun a => ?_
  have hcount (l : List α) : (l.filter (key · = key a)).count a = l.count a :=
    List.count_filter (decide_eq_true rfl)
  rw [← hcount l, h, hcount l']

theorem mem_of_filter_eq (h : ∀ x, l.filter (key · = x) = l'.filter (key · = x)) {a : α}
    (ha : a ∈ l) : a ∈ l' := by
  have hfilter : a ∈ l.filter (key · = key a) := List.mem_filter.2 ⟨ha, decide_eq_true rfl⟩
  rw [h] at hfilter
  exact List.mem_of_mem_filter hfilter

/-- The head of a list in the order of its keys has the least key. -/
theorem key_head_le {a b : α} (h : (a :: l).Pairwise fun a b => key a ≤ key b)
    (hb : b ∈ a :: l) : key a ≤ key b := by
  rcases List.mem_cons.1 hb with rfl | hb
  · exact le_refl (key b)
  · exact (List.pairwise_cons.1 h).1 b hb

/-- A list in the order of its keys is known from what it is on each key. -/
theorem eq_of_filter_eq (hl : l.Pairwise fun a b => key a ≤ key b)
    (hl' : l'.Pairwise fun a b => key a ≤ key b)
    (h : ∀ x, l.filter (key · = x) = l'.filter (key · = x)) : l = l' := by
  induction l generalizing l' with
  | nil => exact (List.eq_nil_iff_forall_not_mem.2 fun a ha =>
      List.not_mem_nil (mem_of_filter_eq (fun x => (h x).symm) ha)).symm
  | cons a l ih =>
    have hmem : a ∈ l' := mem_of_filter_eq h List.mem_cons_self
    cases l' with
    | nil => cases hmem
    | cons b l' =>
      have hmem' : b ∈ a :: l := mem_of_filter_eq (fun x => (h x).symm) List.mem_cons_self
      -- Both heads have the least key, and of the elements with this key they are the first.
      have hkey : key a = key b := le_antisymm (key_head_le hl hmem') (key_head_le hl' hmem)
      have hhead := h (key a)
      rw [List.filter_cons, List.filter_cons, if_pos (decide_eq_true rfl),
        if_pos (decide_eq_true hkey.symm)] at hhead
      obtain ⟨rfl, -⟩ := List.cons.inj hhead
      refine congrArg (a :: ·) (ih hl.of_cons hl'.of_cons fun x => ?_)
      have hx := h x
      rw [List.filter_cons, List.filter_cons] at hx
      split at hx
      · exact (List.cons.inj hx).2
      · exact hx

end Keys

/-! ## Numbers in declaration order -/

/-- Methods with the names of their tests, where a test is numbered by how many of the methods
before it have the name of its method; `seen` are the names of methods that come before all of
these. -/
def numberedAfter (seen : List String) : List Method → List (Method × String)
  | [] => []
  | m :: ms => (m, testName m.name (seen.count m.name)) :: numberedAfter (seen ++ [m.name]) ms

/-- Methods, as they are declared, with the names of their tests. -/
def numbered (methods : List Method) : List (Method × String) :=
  numberedAfter [] methods

theorem numberedAfter_append (seen : List String) (front back : List Method) :
    numberedAfter seen (front ++ back) =
      numberedAfter seen front ++ numberedAfter (seen ++ front.map (·.name)) back := by
  induction front generalizing seen with
  | nil => simp [numberedAfter]
  | cons m front ih => simp [numberedAfter, ih]

/-- The number of a method is how often its name comes before it. -/
theorem mem_numbered (before : List Method) (m : Method) (after : List Method) :
    (m, testName m.name ((before.map (·.name)).count m.name)) ∈
      numbered (before ++ m :: after) := by
  rw [numbered, numberedAfter_append, List.nil_append]
  exact List.mem_append_right _ List.mem_cons_self

/-- Every name comes of some method and how often the name of the method comes before it. -/
theorem exists_of_mem_numberedAfter {p : Method × String} {seen : List String}
    {methods : List Method} (h : p ∈ numberedAfter seen methods) :
    ∃ before after, methods = before ++ p.1 :: after ∧
      p.2 = testName p.1.name ((seen ++ before.map (·.name)).count p.1.name) := by
  induction methods generalizing seen with
  | nil => cases h
  | cons m methods ih =>
    rw [numberedAfter] at h
    obtain rfl | h := List.mem_cons.1 h
    · exact ⟨[], methods, rfl, by simp⟩
    · obtain ⟨before, after, rfl, hname⟩ := ih h
      exact ⟨m :: before, after, rfl, by simpa using hname⟩

/-- The methods of one name are numbered one after the other, whatever stands between them. -/
theorem filter_numberedAfter (name : String) (seen : List String) (methods : List Method) :
    (numberedAfter seen methods).filter (·.1.name = name) =
      ((methods.filter (·.name = name)).zipIdx (seen.count name)).map
        fun p => (p.1, testName p.1.name p.2) := by
  induction methods generalizing seen with
  | nil => rfl
  | cons m methods ih =>
    rw [numberedAfter, List.filter_cons, List.filter_cons, ih]
    by_cases hname : m.name = name
    · simp [hname]
    · simp [hname]

/-! ## Numbers in runs -/

/-- Behind methods with the names `seen` in order, `previous` is the last name, and `k + 1` of them
have it. -/
structure CountsRun (seen : List String) (previous : Option String) (k : Nat) : Prop where
  count : ∀ name, previous = some name → seen.count name = k + 1
  last : ∀ name ∈ seen, ∃ name', previous = some name' ∧ name ≤ name'

/-- Counting along the runs of sorted methods gives each method its number. -/
theorem zip_testNamesAfter_eq {methods : List Method} {seen : List String}
    {previous : Option String} {k : Nat} (hrun : CountsRun seen previous k)
    (hsorted : methods.Pairwise fun a b => a.name ≤ b.name)
    (hprevious : ∀ name, previous = some name → ∀ m ∈ methods, name ≤ m.name) :
    methods.zip (testNamesAfter previous k methods) = numberedAfter seen methods := by
  induction methods generalizing seen previous k with
  | nil => rfl
  | cons m methods ih =>
    obtain ⟨hm, hsorted⟩ := List.pairwise_cons.1 hsorted
    have hcount : (if previous = some m.name then k + 1 else 0) = seen.count m.name := by
      split
      · rename_i hsame
        exact (hrun.count m.name hsame).symm
      · rename_i hother
        refine (List.count_eq_zero.2 fun hmem => ?_).symm
        -- A name that comes again in sorted names is the last one.
        obtain ⟨last, hlast, hle⟩ := hrun.last m.name hmem
        have heq : m.name = last := le_antisymm hle (hprevious last hlast m List.mem_cons_self)
        exact hother (heq ▸ hlast)
    have hrun' : CountsRun (seen ++ [m.name]) (some m.name) (seen.count m.name) := {
      count := by
        intro name hname
        obtain rfl := Option.some.inj hname
        rw [List.count_append, List.count_singleton_self]
      last := by
        intro name hname
        refine ⟨m.name, rfl, ?_⟩
        rcases List.mem_append.1 hname with hname | hname
        · obtain ⟨last, hlast, hle⟩ := hrun.last name hname
          exact hle.trans (hprevious last hlast m List.mem_cons_self)
        · exact (List.mem_singleton.1 hname).le }
    have hprevious' : ∀ name, some m.name = some name → ∀ m' ∈ methods, name ≤ m'.name := by
      intro name hname
      obtain rfl := Option.some.inj hname
      exact hm
    rw [testNamesAfter, numberedAfter, hcount, List.zip_cons_cons, ih hrun' hsorted hprevious']

/-! ## The methods of a class -/

namespace Synthesizer

variable {c c' : ClassDeclaration}

theorem namedMethods_eq_numberedAfter (c : ClassDeclaration) :
    namedMethods c = numberedAfter [] (sortByName c.publicMethods) := by
  rw [namedMethods_eq, testNames]
  refine zip_testNamesAfter_eq ⟨fun _ h => ?_, fun _ h => ?_⟩
    (ordinal_sortByName c.publicMethods).ordered fun _ h => ?_
  · cases h
  · cases h
  · cases h

/-- Sorting changes no number. -/
theorem perm_numbered (c : ClassDeclaration) :
    (namedMethods c).Perm (numbered c.publicMethods) := by
  have hfilter (name : String) : (namedMethods c).filter (·.1.name = name) =
      (numbered c.publicMethods).filter (·.1.name = name) := by
    rw [namedMethods_eq_numberedAfter, numbered, filter_numberedAfter, filter_numberedAfter,
      filter_sortByName]
  exact perm_of_filter_eq hfilter

/-- The order in which different names are declared does not matter. -/
theorem namedMethods_of_reorders (h : c.Reorders c') : namedMethods c' = namedMethods c := by
  have hsorted := ordinal_sortByName c.publicMethods
  have hsorted' := ordinal_sortByName c'.publicMethods
  have hfilter (name : String) : (sortByName c'.publicMethods).filter (·.name = name) =
      (sortByName c.publicMethods).filter (·.name = name) := by
    rw [hsorted.stable, hsorted'.stable, h.overloads]
  rw [namedMethods_eq_numberedAfter, namedMethods_eq_numberedAfter,
    eq_of_filter_eq hsorted'.ordered hsorted.ordered hfilter]

/-- Methods are in the order of the bytes of their names. -/
theorem pairwise_namedMethods (c : ClassDeclaration) :
    (namedMethods c).Pairwise fun p q => Text.bytes p.1.name ≤ Text.bytes q.1.name := by
  have hsorted := (ordinal_sortByName c.publicMethods).ordered
  rw [← map_fst_namedMethods, List.pairwise_map] at hsorted
  exact hsorted.imp Text.bytes_le_iff.2

/-! ## The tests of two classes -/

variable {s : Synthesizer} {p : Method × String} {t t' : Test}

/-- The call can be read off the test. -/
theorem head?_parts_act (h : s.attempt c p = .ok t) : t.act.parts.head? = some (call c p.1) := by
  rcases (tests_of_attempt h).act with hact | hact <;> rw [hact] <;> rfl

/-- Of its class, a test takes what the method is called on. -/
theorem attempt_eq_iff (h : s.attempt c p = .ok t) (h' : s.attempt c' p = .ok t') :
    t' = t ↔ callTarget c' p.1 = callTarget c p.1 := by
  constructor
  · rintro rfl
    have hcall := Option.some.inj ((head?_parts_act h').symm.trans (head?_parts_act h))
    exact (Expr.invoke.inj hcall).1
  · intro htarget
    have htest : test s.failureMessage p.2 c' p.1 = test s.failureMessage p.2 c p.1 := by
      simp only [test, call, htarget]
    rw [test_of_attempt h, test_of_attempt h'] at htest
    exact Except.ok.inj htest

/-- Two classes have the same tests of named methods when these are called on the same. -/
theorem made_eq_iff (s : Synthesizer) (c c' : ClassDeclaration) (named : List (Method × String)) :
    (named.map (s.attempt c')).filterMap made = (named.map (s.attempt c)).filterMap made ↔
      ∀ p ∈ named, Testable p.1 → callTarget c' p.1 = callTarget c p.1 := by
  induction named with
  | nil => simp
  | cons p named ih =>
    rw [List.map_cons, List.map_cons, List.filterMap_cons, List.filterMap_cons,
      List.forall_mem_cons, ← ih]
    by_cases htestable : Testable p.1
    · obtain ⟨t, h⟩ := s.exists_ok_of_testable c htestable
      obtain ⟨t', h'⟩ := s.exists_ok_of_testable c' htestable
      rw [h, h', ← attempt_eq_iff h h']
      simp [made, htestable]
    · obtain ⟨o, h⟩ := s.exists_error_of_not_testable c htestable
      obtain ⟨o', h'⟩ := s.exists_error_of_not_testable c' htestable
      rw [h, h']
      simp [made, htestable]

theorem tests_eq_iff_of_reorders (s : Synthesizer) (h : c.Reorders c') :
    (s.synthesize c').fixture.tests = (s.synthesize c).fixture.tests ↔
      ∀ m ∈ c.publicMethods, Testable m → callTarget c' m = callTarget c m := by
  have hmethods (P : Method → Prop) :
      (∀ p ∈ namedMethods c, P p.1) ↔ ∀ m ∈ c.publicMethods, P m := by
    rw [← List.forall_mem_map (P := P), map_fst_namedMethods]
    exact forall_congr' fun m => imp_congr_left (perm_sortByName c.publicMethods).mem_iff
  show ((namedMethods c').map (s.attempt c')).filterMap made =
    ((namedMethods c).map (s.attempt c)).filterMap made ↔ _
  rw [namedMethods_of_reorders h, made_eq_iff,
    hmethods fun m => Testable m → callTarget c' m = callTarget c m]

/-- The test of a public method is called like the method, then `Test` and, if there are any, the
number of public methods of that name that are declared before it. Tests are in the order of the
bytes of the names of their methods. So two classes whose public methods are declared in different
orders, with overloads in the same order, have the same methods under the same names; and their
tests are the same when they call the methods on the same, as two classes of one name do that are
both static or both not. -/
theorem overloads_numbered (s : Synthesizer) (c : ClassDeclaration) :
    (∀ before m after, c.publicMethods = before ++ m :: after →
        let k := (before.map (·.name)).count m.name
        (m, m.name ++ "Test" ++ if k = 0 then "" else toString k) ∈ namedMethods c) ∧
      (namedMethods c).Perm (numbered c.publicMethods) ∧
      ((namedMethods c).Pairwise fun p q => Text.bytes p.1.name ≤ Text.bytes q.1.name) ∧
      (∃ kept, kept.Sublist (namedMethods c) ∧
        List.Forall₂ (fun p t => Tests p.2 c p.1 t) kept (s.synthesize c).fixture.tests) ∧
      ∀ c', c.Reorders c' →
        namedMethods c' = namedMethods c ∧
          ((s.synthesize c').fixture.tests = (s.synthesize c).fixture.tests ↔
            ∀ m ∈ c.publicMethods, Testable m → callTarget c' m = callTarget c m) ∧
          (c'.isStatic = c.isStatic → c'.simpleName = c.simpleName →
            c'.qualifiedName = c.qualifiedName →
            (s.synthesize c').fixture.tests = (s.synthesize c).fixture.tests) := by
  have hmade := forall₂_made (s.attempt c) (namedMethods c)
  refine ⟨fun before m after hsplit => ?_, perm_numbered c, pairwise_namedMethods c,
    ⟨_, List.filter_sublist, hmade.imp fun _ _ => tests_of_attempt⟩, fun c' h => ?_⟩
  · refine (perm_numbered c).mem_iff.2 ?_
    rw [hsplit]
    exact mem_numbered before m after
  · have htests := s.tests_eq_iff_of_reorders h
    refine ⟨namedMethods_of_reorders h, htests, fun hstatic hsimple hqualified => ?_⟩
    refine htests.2 fun m _ _ => ?_
    rw [callTarget, callTarget, hstatic, hsimple, hqualified]

/-- Two overloads with a method between them, and the same with that method in front. -/
theorem overloads_numbered_apart :
    let run : Method := ⟨"Run", [⟨"x", "int", .byValue⟩], "void", [], false, true⟩
    let again : Method := ⟨"Run", [], "int", [], false, true⟩
    let halt : Method := ⟨"Halt", [], "void", [], false, true⟩
    let c : ClassDeclaration := ⟨"Job", "Job", "N", false, [run, halt, again], [], []⟩
    let c' : ClassDeclaration := { c with methods := [halt, run, again] }
    let s : Synthesizer := ⟨.interfaceConvention, "todo"⟩
    c.Reorders c' ∧ (again, "RunTest1") ∈ namedMethods c ∧ namedMethods c' = namedMethods c ∧
      (s.synthesize c').fixture.tests = (s.synthesize c).fixture.tests := by
  intro run again halt c c' s
  have h : c.Reorders c' := {
    perm := List.Perm.swap run halt [again]
    overloads := by
      intro name
      show [halt, run, again].filter (·.name = name) = [run, halt, again].filter (·.name = name)
      by_cases hname : "Run" = name
      · subst hname
        decide
      · simp [List.filter_cons, run, again, halt, hname] }
  obtain ⟨hnames, -, -, -, hreordered⟩ := overloads_numbered s c
  obtain ⟨hnamed, -, htests⟩ := hreordered c' h
  have hagain : (again, testName "Run" 1) ∈ namedMethods c := hnames [run, halt] again [] rfl
  have hname : testName "Run" 1 = "RunTest1" := by decide
  exact ⟨h, hname ▸ hagain, hnamed, htests rfl rfl rfl⟩

/-- Methods of two classes are called on different fields, so the tests differ though the public
methods are the same. -/
theorem tests_differ_between_classes :
    let total : Method := ⟨"Total", [], "void", [], false, true⟩
    let cart : ClassDeclaration := ⟨"Cart", "Cart", "", false, [total], [], []⟩
    let order : ClassDeclaration := ⟨"Order", "Order", "", false, [total], [], []⟩
    let s : Synthesizer := ⟨.interfaceConvention, "autogenerated"⟩
    cart.Reorders order ∧
      (s.synthesize order).fixture.tests ≠ (s.synthesize cart).fixture.tests := by
  intro total cart order s
  have h : cart.Reorders order := ⟨List.Perm.refl _, fun _ => rfl⟩
  refine ⟨h, fun heq => ?_⟩
  have htarget := (s.tests_eq_iff_of_reorders h).1 heq total List.mem_cons_self (by decide)
  exact absurd htarget (by decide)

end Synthesizer

end Fixture

end Scaffold
