import Mathlib.Data.List.Forall2
import Scaffold.Proofs.Collection.Parts

/-!
# What a class takes from its surroundings

A class node is reached from the members of a unit through namespace blocks and then through
classes. These nodes on the way, with the usings and the file-scoped namespace of the unit, are all
that its declaration depends on beside the node (`SourceUnit.DeclaredAt`). Usings accumulate on the
way: a scope adds those of a block that it does not have, which comes to the same as taking all
usings of all blocks and leaving out what is there already or occurs twice (`addMissing_eq`).

A class in several parts is the first part with what the others add, so its imports follow by the
same law from those of its parts (`ClassDeclaration.imports_foldl_merge`). Whatever else stands in
the unit says nothing about the class (`mem_collect_congr`).
-/

namespace Scaffold

/-! ## Missing elements -/

/-- The elements of `ys` that are not among `xs`, each where it first occurs. -/
def missingFrom (xs ys : List String) : List String :=
  (ys.filter (· ∉ xs)).eraseDups

/-- Adding what is missing adds the first occurrences of what is not there. -/
theorem addMissing_eq (xs ys : List String) : addMissing xs ys = xs ++ missingFrom xs ys := by
  induction ys using List.reverseRecOn with
  | nil => exact (List.append_nil xs).symm
  | append_singleton ys y ih =>
    have hstep : addMissing xs (ys ++ [y]) =
        if y ∈ addMissing xs ys then addMissing xs ys else addMissing xs ys ++ [y] := by
      unfold addMissing
      rw [List.foldl_append, List.foldl_cons, List.foldl_nil]
    rw [missingFrom, List.filter_append, hstep]
    by_cases hxs : y ∈ xs
    · have hnothing : [y].filter (· ∉ xs) = [] := by simp [hxs]
      rw [if_pos (mem_addMissing.2 (.inl hxs)), ih, hnothing, List.append_nil, missingFrom]
    · -- A new element counts unless it was met among the missing ones before.
      have hnew : [y].filter (· ∉ xs) = [y] := by simp [hxs]
      have hmet : y ∈ ys.filter (· ∉ xs) ↔ y ∈ addMissing xs ys := by simp [mem_addMissing, hxs]
      rw [hnew, eraseDups_concat]
      simp only [hmet]
      split
      · exact ih
      · rw [ih, missingFrom, List.append_assoc]

theorem addMissing_append (xs ys zs : List String) :
    addMissing xs (ys ++ zs) = addMissing (addMissing xs ys) zs :=
  List.foldl_append

/-- Adding what is missing of several lists, one by one, adds what is missing of all of them. -/
theorem foldl_addMissing {α : Type} (f : α → List String) (xs : List String) (as : List α) :
    as.foldl (fun seen a => addMissing seen (f a)) xs = addMissing xs (as.flatMap f) := by
  induction as generalizing xs with
  | nil => rfl
  | cons a as ih => rw [List.foldl_cons, ih, List.flatMap_cons, addMissing_append]

/-! ## Ways to a class -/

/-- A class contains a node inside the classes with the given names, outermost first; it contains
itself inside none. -/
inductive ClassNode.Contains : ClassNode → List String → ClassNode → Prop where
  | self (c : ClassNode) : Contains c [] c
  | nested {c d node : ClassNode} {names : List String} (hd : d ∈ c.nested)
      (h : d.Contains names node) : Contains c (c.name :: names) node

/-- A member leads to a class node through namespace blocks, which are given by their names and
usings, and then through classes, which are given by their names. -/
inductive Member.LeadsTo :
    Member → List (String × List String) → List String → ClassNode → Prop where
  | classNode {c node : ClassNode} {names : List String} (h : c.Contains names node) :
    LeadsTo (.classNode c) [] names node
  | block {name : String} {usings names : List String} {members : List Member} {m : Member}
      {blocks : List (String × List String)} {node : ClassNode} (hm : m ∈ members)
      (h : m.LeadsTo blocks names node) :
    LeadsTo (.namespaceBlock name usings members) ((name, usings) :: blocks) names node

mutual

theorem ClassNode.mem_sites_iff (c : ClassNode) (site : Site) :
    site ∈ c.sites ↔ site.blocks = [] ∧ c.Contains site.classes site.node := by
  match c with
  | ⟨name, isStatic, methods, constructors, nested⟩ =>
    rw [ClassNode.sites, List.mem_cons, List.mem_map]
    constructor
    · rintro (rfl | ⟨inner, hinner, rfl⟩)
      · exact ⟨rfl, .self _⟩
      · obtain ⟨hblocks, d, hd, hcontains⟩ := (ClassNode.mem_sitesAll_iff nested inner).1 hinner
        exact ⟨hblocks, .nested hd hcontains⟩
    · obtain ⟨blocks, classes, node⟩ := site
      rintro ⟨rfl, hcontains⟩
      cases hcontains with
      | self => exact .inl rfl
      | @nested _ d _ names hd h =>
        exact .inr ⟨⟨[], names, node⟩, (ClassNode.mem_sitesAll_iff nested _).2 ⟨rfl, d, hd, h⟩, rfl⟩

theorem ClassNode.mem_sitesAll_iff (cs : List ClassNode) (site : Site) :
    site ∈ ClassNode.sitesAll cs ↔
      site.blocks = [] ∧ ∃ c ∈ cs, c.Contains site.classes site.node := by
  match cs with
  | [] => simp [ClassNode.sitesAll]
  | c :: cs =>
    rw [ClassNode.sitesAll, List.mem_append, ClassNode.mem_sites_iff c,
      ClassNode.mem_sitesAll_iff cs, List.exists_mem_cons_iff, ← and_or_left]

end

mutual

theorem Member.mem_sites_iff (m : Member) (site : Site) :
    site ∈ m.sites ↔ m.LeadsTo site.blocks site.classes site.node := by
  match m with
  | .namespaceBlock name usings members =>
    rw [Member.sites, List.mem_map]
    constructor
    · rintro ⟨inner, hinner, rfl⟩
      obtain ⟨m, hm, hleads⟩ := (Member.mem_sitesAll_iff members inner).1 hinner
      exact .block hm hleads
    · obtain ⟨blocks, classes, node⟩ := site
      intro hleads
      cases hleads with
      | @block _ _ _ _ m blocks _ hm h =>
        exact ⟨⟨blocks, classes, node⟩, (Member.mem_sitesAll_iff members _).2 ⟨m, hm, h⟩, rfl⟩
  | .classNode c =>
    rw [Member.sites, ClassNode.mem_sites_iff]
    obtain ⟨blocks, classes, node⟩ := site
    constructor
    · rintro ⟨rfl, h⟩
      exact .classNode h
    · intro hleads
      cases hleads with
      | classNode h => exact ⟨rfl, h⟩

theorem Member.mem_sitesAll_iff (ms : List Member) (site : Site) :
    site ∈ Member.sitesAll ms ↔ ∃ m ∈ ms, m.LeadsTo site.blocks site.classes site.node := by
  match ms with
  | [] => simp [Member.sitesAll]
  | m :: ms =>
    rw [Member.sitesAll, List.mem_append, Member.mem_sites_iff m, Member.mem_sitesAll_iff ms,
      List.exists_mem_cons_iff]

end

/-! ## The declaration of a class node -/

namespace SourceUnit

/-- The imports of the class at a site: the usings of the unit, and the usings of the blocks around
the class that are missing there. -/
def importsAt (u : SourceUnit) (site : Site) : List String :=
  u.usings ++ missingFrom u.usings (site.blocks.flatMap Prod.snd)

/-- The declaration says of a class node at a site what the node says itself and what the nodes
around it and the head of the unit say. -/
structure DeclaredAt (u : SourceUnit) (site : Site) (d : ClassDeclaration) : Prop where
  simpleName : d.simpleName = site.node.name
  qualifiedName : d.qualifiedName = ".".intercalate (site.classes ++ [site.node.name])
  namespacePath : d.namespacePath =
    match u.fileNamespace with
    | some name => name
    | none => ".".intercalate (site.blocks.map Prod.fst)
  imports : d.imports = u.importsAt site
  isStatic : d.isStatic = site.node.isStatic
  methods : d.methods = site.node.methods
  constructors : d.constructors = site.node.constructors

theorem imports_declare (u : SourceUnit) (site : Site) :
    ((Scope.ofUnit u).declare site).imports = u.importsAt site := by
  rw [importsAt, ← addMissing_eq, ← foldl_addMissing]
  rfl

theorem declaredAt_declare (u : SourceUnit) (site : Site) :
    u.DeclaredAt site ((Scope.ofUnit u).declare site) where
  simpleName := rfl
  qualifiedName := rfl
  namespacePath := by
    show u.fileNamespace.getD site.blockPath = _
    cases u.fileNamespace <;> rfl
  imports := u.imports_declare site
  isStatic := rfl
  methods := rfl
  constructors := rfl

end SourceUnit

/-! ## The class of several nodes -/

namespace ClassDeclaration

/-- A class imports what its first part does, and what the others import and it does not. -/
theorem imports_foldl_merge (first : ClassDeclaration) (rest : List ClassDeclaration) :
    (rest.foldl merge first).imports =
      first.imports ++ missingFrom first.imports (rest.flatMap (·.imports)) := by
  rw [← addMissing_eq, ← foldl_addMissing]
  induction rest generalizing first with
  | nil => rfl
  | cons part rest ih => exact ih (first.merge part)

end ClassDeclaration

/-- A class is collected exactly when it is the first declaration of its identity with the later
ones merged into it. -/
theorem mem_collect_iff {u : SourceUnit} {c : ClassDeclaration} :
    c ∈ collect u ↔ ∃ first rest, u.declarations.filter (·.identity = c.identity) = first :: rest ∧
      c = rest.foldl ClassDeclaration.merge first := by
  refine ⟨fun h => ClassDeclaration.exists_parts u.declarations c h, ?_⟩
  rintro ⟨first, rest, hparts, hc⟩
  have hfirst : first ∈ u.declarations.filter (·.identity = c.identity) :=
    hparts ▸ List.mem_cons_self
  obtain ⟨hdeclared, hidentity⟩ := List.mem_filter.1 hfirst
  have hidentity : first.identity = c.identity := of_decide_eq_true hidentity
  -- The identity is collected, and the class that has it is made of the same parts.
  have hmem : c.identity ∈ (collect u).map (·.identity) := by
    rw [identities_collect, List.mem_eraseDups, ← hidentity]
    exact List.mem_map_of_mem hdeclared
  obtain ⟨c', hc', hsame⟩ := List.mem_map.1 hmem
  obtain ⟨first', rest', hparts', hmerged⟩ := ClassDeclaration.exists_parts u.declarations c' hc'
  rw [hsame, hparts] at hparts'
  obtain ⟨rfl, rfl⟩ := List.cons.inj hparts'
  rwa [hc, ← hmerged]

/-- Units with one head have the same class of an identity when they have the same sites of it. -/
theorem mem_collect_congr {u v : SourceUnit} (husings : v.usings = u.usings)
    (hfile : v.fileNamespace = u.fileNamespace) {c : ClassDeclaration}
    (hsites : v.sitesOf c.identity = u.sitesOf c.identity) : c ∈ collect v ↔ c ∈ collect u := by
  have hscope : Scope.ofUnit v = Scope.ofUnit u := by
    rw [Scope.ofUnit, Scope.ofUnit, husings, hfile]
  rw [mem_collect_iff, mem_collect_iff, v.filter_declarations, u.filter_declarations, hsites,
    hscope]

/-- The imports of a collected class are those of its first node, and what the imports of its other
nodes, in preorder, add to them. -/
theorem imports_of_mem_collect {u : SourceUnit} {c : ClassDeclaration} (h : c ∈ collect u) :
    ∃ first rest, u.sitesOf c.identity = first :: rest ∧
      c.imports =
        u.importsAt first ++ missingFrom (u.importsAt first) (rest.flatMap u.importsAt) := by
  obtain ⟨part, parts, hparts, hc⟩ := mem_collect_iff.1 h
  rw [u.filter_declarations] at hparts
  obtain ⟨first, rest, hsites, rfl, rfl⟩ := List.map_eq_cons_iff.1 hparts
  refine ⟨first, rest, hsites, ?_⟩
  have himports : (rest.map (Scope.ofUnit u).declare).flatMap (·.imports) =
      rest.flatMap u.importsAt := by
    rw [List.flatMap_map]
    exact List.flatMap_congr fun site _ => u.imports_declare site
  calc c.imports
      = ((rest.map (Scope.ofUnit u).declare).foldl ClassDeclaration.merge
          ((Scope.ofUnit u).declare first)).imports := by rw [← hc]
    _ = u.importsAt first ++ missingFrom (u.importsAt first) (rest.flatMap u.importsAt) := by
      rw [ClassDeclaration.imports_foldl_merge, himports, u.imports_declare]

/-- The sites of a unit are the ways to its class nodes. Each node is declared with what the nodes
on the way and the head of the unit say: the classes in its qualified name, the blocks in its
namespace, unless the file has one, and the usings of the unit and then of the blocks, in nesting
order and none of them added twice. A class of several nodes imports what the first one does and
then what the others add, in preorder. Nothing else takes part: units with the same head and the
same sites of an identity have the same class of this identity, whatever their other members are. -/
theorem collect_scoped (u : SourceUnit) :
    (∀ site, site ∈ u.sites ↔ ∃ m ∈ u.members, m.LeadsTo site.blocks site.classes site.node) ∧
      List.Forall₂ u.DeclaredAt u.sites u.declarations ∧
      (∀ c ∈ collect u, ∃ first rest, u.sitesOf c.identity = first :: rest ∧
        c.imports =
          u.importsAt first ++ missingFrom (u.importsAt first) (rest.flatMap u.importsAt)) ∧
      ∀ (v : SourceUnit) (c : ClassDeclaration), v.usings = u.usings →
        v.fileNamespace = u.fileNamespace → v.sitesOf c.identity = u.sitesOf c.identity →
          (c ∈ collect v ↔ c ∈ collect u) := by
  refine ⟨Member.mem_sitesAll_iff u.members, ?_, fun c hc => imports_of_mem_collect hc,
    fun v c husings hfile hsites => mem_collect_congr husings hfile hsites⟩
  rw [u.declarations_eq, List.forall₂_map_right_iff, List.forall₂_same]
  exact fun site _ => u.declaredAt_declare site

/-- A class in two parts, with a namespace beside the first one whose using and class of the same
name stay out of it. Without that namespace the class is the same. -/
theorem collect_scoped_beside :
    let run : Method := ⟨"Run", [], "void", [], false, true⟩
    let parts (beside : List Member) : SourceUnit := ⟨none, ["System"], none, [
      .namespaceBlock "App" ["System.Data", "System"] (
        beside ++ [.namespaceBlock "Sales" ["Moq", "System.Data"] [
          .classNode ⟨"Order", false, [], [], [⟨"Line", false, [run], [], []⟩]⟩]]),
      .namespaceBlock "App.Sales" ["Xunit", "Moq"] [.classNode ⟨"Order", false, [], [],
        [⟨"Line", false, [run], [], []⟩]⟩]]⟩
    let unit := parts [.namespaceBlock "Stock" ["Secret"] [
      .classNode ⟨"Order", true, [], [], [⟨"Line", true, [], [⟨[]⟩], []⟩]⟩]]
    let line : ClassDeclaration := ⟨"Line", "Order.Line", "App.Sales", false, [run, run], [],
      ["System", "System.Data", "Moq", "Xunit"]⟩
    line ∈ collect unit ∧ line ∈ collect (parts []) ∧ (parts []).sitesOf line.identity ≠ [] := by
  intro run parts unit line
  obtain ⟨-, -, himports, hsame⟩ := collect_scoped unit
  have hline : line ∈ collect unit := by decide
  have hsites : (parts []).sitesOf line.identity = unit.sitesOf line.identity := by rfl
  refine ⟨hline, (hsame (parts []) line rfl rfl hsites).2 hline, ?_⟩
  obtain ⟨first, rest, hparts, -⟩ := himports line hline
  rw [hsites, hparts]
  exact List.cons_ne_nil first rest

end Scaffold
