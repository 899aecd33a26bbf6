import Mathlib.Logic.Relation
import Scaffold.Proofs.Collection.Site

/-!
# Spellings of namespaces

A namespace can be written in several ways. A block with a dotted name stands for two blocks, one
around the other, and a block can be closed and opened again between two of its members. `Respells`
is one such step, at any depth of blocks. What is declared under a scope stays the same in such a
step, each declaration at its place (`Respells.declarationsAll_eq`): the steps split a name and pass
the usings on as they are. So units that differ by any number of steps, in either direction, have
the same classes (`collect_respelled`).
-/

namespace Scaffold

namespace Member

/-- The second list of members is the first one with a namespace spelled in another way at one
place. -/
inductive Respells : List Member → List Member → Prop where
  /-- A block with a dotted name is a block without usings around a block. -/
  | nested (outer inner : String) (usings : List String) (members : List Member) :
    Respells [.namespaceBlock (outer ++ "." ++ inner) usings members]
      [.namespaceBlock outer [] [.namespaceBlock inner usings members]]
  /-- A block is closed between two members and opened again. -/
  | reopened (name : String) (usings : List String) (before after : List Member) :
    Respells [.namespaceBlock name usings (before ++ after)]
      [.namespaceBlock name usings before, .namespaceBlock name usings after]
  /-- The place has other members beside it. -/
  | beside (before after : List Member) {ms ms' : List Member} (h : Respells ms ms') :
    Respells (before ++ ms ++ after) (before ++ ms' ++ after)
  /-- The place is in a block. -/
  | inside (name : String) (usings : List String) {ms ms' : List Member} (h : Respells ms ms') :
    Respells [.namespaceBlock name usings ms] [.namespaceBlock name usings ms']

theorem declarationsAll_append (s : Scope) (ms ns : List Member) :
    declarationsAll s (ms ++ ns) = declarationsAll s ms ++ declarationsAll s ns := by
  rw [declarationsAll_eq, declarationsAll_eq, declarationsAll_eq, sitesAll_append, List.map_append]

theorem declarationsAll_block (s : Scope) (name : String) (usings : List String)
    (members : List Member) : declarationsAll s [.namespaceBlock name usings members] =
      declarationsAll (s.enterNamespace name usings) members := by
  rw [declarationsAll, declarationsAll, List.append_nil, declarations]

end Member

/-! ## Dotted names -/

/-- A dotted name makes the path that the names before and behind its dot make. -/
theorem intercalate_dotted (before : List String) (outer inner : String) (rest : List String) :
    ".".intercalate (before ++ (outer ++ "." ++ inner) :: rest) =
      ".".intercalate (before ++ outer :: inner :: rest) := by
  have hfirst : ".".intercalate ((outer ++ "." ++ inner) :: rest) =
      ".".intercalate (outer :: inner :: rest) := by
    rw [String.intercalate_cons_cons]
    cases rest with
    | nil => rw [String.intercalate_singleton, String.intercalate_singleton]
    | cons next rest =>
      rw [String.intercalate_cons_cons, String.intercalate_cons_cons]
      simp only [String.append_assoc]
  by_cases hbefore : before = []
  · rw [hbefore, List.nil_append, List.nil_append, hfirst]
  · rw [String.intercalate_append_of_ne_nil hbefore (List.cons_ne_nil _ _),
      String.intercalate_append_of_ne_nil hbefore (List.cons_ne_nil _ _), hfirst]

/-- Inside a block with a dotted name, a class is declared as it is inside two blocks. -/
theorem Scope.declare_dotted (s : Scope) (outer inner : String) (usings : List String)
    (site : Site) : (s.enterNamespace (outer ++ "." ++ inner) usings).declare site =
      ((s.enterNamespace outer []).enterNamespace inner usings).declare site := by
  have hpath : ((s.enterNamespace (outer ++ "." ++ inner) usings).within site).namespacePath =
      (((s.enterNamespace outer []).enterNamespace inner usings).within site).namespacePath := by
    simp only [namespacePath, within, enterNamespace, List.append_assoc, List.cons_append,
      List.nil_append, intercalate_dotted]
  simp only [declare, declaration, hpath]
  rfl

/-! ## Respelling -/

namespace Member

/-- One step changes no declaration and no place of one, whatever the scope is. -/
theorem Respells.declarationsAll_eq {ms ms' : List Member} (h : Respells ms ms') (s : Scope) :
    declarationsAll s ms = declarationsAll s ms' := by
  induction h generalizing s with
  | nested outer inner usings members =>
    rw [declarationsAll_block, declarationsAll_block, declarationsAll_block,
      Member.declarationsAll_eq, Member.declarationsAll_eq]
    exact List.map_congr_left fun site _ => s.declare_dotted outer inner usings site
  | reopened name usings before after =>
    have hblocks : [Member.namespaceBlock name usings before, .namespaceBlock name usings after] =
        [.namespaceBlock name usings before] ++ [.namespaceBlock name usings after] := rfl
    rw [hblocks, declarationsAll_append, declarationsAll_block, declarationsAll_block,
      declarationsAll_block, declarationsAll_append]
  | beside before after _ ih =>
    rw [declarationsAll_append, declarationsAll_append, ih s, declarationsAll_append,
      declarationsAll_append]
  | inside name usings _ ih => rw [declarationsAll_block, declarationsAll_block, ih]

/-- Any number of steps, forth and back, changes no declaration. -/
theorem declarationsAll_eq_of_respells {ms ms' : List Member}
    (h : Relation.EqvGen Respells ms ms') (s : Scope) :
    declarationsAll s ms = declarationsAll s ms' := by
  induction h with
  | rel _ _ hstep => exact hstep.declarationsAll_eq s
  | refl => rfl
  | symm _ _ _ ih => exact ih.symm
  | trans _ _ _ _ _ ih ih' => exact ih.trans ih'

end Member

/-- The spelling of namespaces does not matter: units with one head whose members differ in steps of
spelling, at any depth, of any number and in either direction, have the same declarations in the
same order, and so the same classes. -/
theorem collect_respelled (u v : SourceUnit) (husings : v.usings = u.usings)
    (hfile : v.fileNamespace = u.fileNamespace)
    (h : Relation.EqvGen Member.Respells u.members v.members) :
    v.declarations = u.declarations ∧ collect v = collect u := by
  have hscope : Scope.ofUnit v = Scope.ofUnit u := by
    rw [Scope.ofUnit, Scope.ofUnit, husings, hfile]
  have hdeclarations : v.declarations = u.declarations := by
    rw [SourceUnit.declarations, SourceUnit.declarations, hscope]
    exact (Member.declarationsAll_eq_of_respells h _).symm
  refine ⟨hdeclarations, ?_⟩
  rw [collect, collect, hdeclarations]

/-- A class in two parts in a block with a dotted name, and the same with the name split and the
inner one of the two blocks closed between the parts. -/
theorem collect_respelled_between_parts :
    let run : Method := ⟨"Run", [], "void", [], false, true⟩
    let stop : Method := ⟨"Stop", [], "bool", [], true, true⟩
    let part (m : Method) : Member := .classNode ⟨"Job", false, [m], [], []⟩
    let unit (members : List Member) : SourceUnit := ⟨none, ["System"], none,
      [.namespaceBlock "App" ["Moq"] (.classNode ⟨"Clock", true, [], [], []⟩ :: members)]⟩
    let whole := unit [.namespaceBlock "Jobs.Data" ["System", "Xunit"] [part run, part stop]]
    let split := unit [.namespaceBlock "Jobs" [] [
      .namespaceBlock "Data" ["System", "Xunit"] [part run],
      .namespaceBlock "Data" ["System", "Xunit"] [part stop]]]
    Relation.EqvGen Member.Respells split.members whole.members ∧ collect whole = [
      ⟨"Clock", "Clock", "App", true, [], [], ["System", "Moq"]⟩,
      ⟨"Job", "Job", "App.Jobs.Data", false, [run, stop], [], ["System", "Moq", "Xunit"]⟩] := by
  intro run stop part unit whole split
  have hname : "Jobs" ++ "." ++ "Data" = "Jobs.Data" := by decide
  have hnested := Member.Respells.nested "Jobs" "Data" ["System", "Xunit"] [part run, part stop]
  have hreopened := Member.Respells.reopened "Data" ["System", "Xunit"] [part run] [part stop]
  rw [hname] at hnested
  have hsteps : Relation.EqvGen Member.Respells split.members whole.members :=
    .symm _ _ (.trans _ _ _ (.rel _ _ (.inside "App" ["Moq"] (.beside [_] [] hnested)))
      (.rel _ _ (.inside "App" ["Moq"] (.beside [_] [] (.inside "Jobs" [] hreopened)))))
  have hsame : collect whole = collect split := (collect_respelled split whole rfl rfl hsteps).2
  refine ⟨hsteps, ?_⟩
  rw [hsame]
  decide

end Scaffold
