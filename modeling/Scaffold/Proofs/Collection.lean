import Mathlib.Data.List.Induction
import Scaffold.Collection
import Scaffold.Proofs.Text.Lines
import Scaffold.Total

/-!
# What collecting keeps

A unit is walked in preorder, and each of its class nodes gives one declaration with the methods of
the node (`SourceUnit.methods_declarations`). Collecting merges declarations of one identity and
keeps all their methods (`total_collect`); it keeps each identity once, in the order in which they
first occur (`identities_collect`). Nothing is put into a declaration that is not made of the texts
of the unit, so a unit of plain texts has plain declarations (`isPlain_collect`).
-/

namespace Scaffold

open Text (Plain)

/-! ## Usings -/

/-- Adding missing elements adds no others. -/
theorem mem_addMissing {x : String} {xs ys : List String} :
    x ∈ addMissing xs ys ↔ x ∈ xs ∨ x ∈ ys := by
  unfold addMissing
  induction ys generalizing xs with
  | nil => simp
  | cons y ys ih =>
    rw [List.foldl_cons, ih]
    split
    · rename_i hy
      simp only [List.mem_cons]
      constructor
      · rintro (h | h)
        · exact .inl h
        · exact .inr (.inr h)
      · rintro (h | rfl | h)
        · exact .inl h
        · exact .inl hy
        · exact .inr h
    · simp [or_assoc]

/-! ## First occurrences -/

section FirstOccurrences

variable {α : Type} [BEq α] [LawfulBEq α]

/-- One more element counts if it does not occur before. -/
theorem eraseDups_concat (l : List α) (a : α) :
    (l ++ [a]).eraseDups = if a ∈ l then l.eraseDups else l.eraseDups ++ [a] := by
  rw [List.eraseDups_append, List.removeAll, List.filter_cons, List.filter_nil]
  by_cases h : a ∈ l
  · simp [h]
  · simp [h, List.eraseDups_cons]

theorem nodup_eraseDups (l : List α) : l.eraseDups.Nodup := by
  induction l using List.reverseRecOn with
  | nil => exact List.nodup_nil
  | append_singleton l a ih =>
    rw [eraseDups_concat]
    split
    · exact ih
    · rename_i ha
      refine List.nodup_append.2 ⟨ih, List.pairwise_singleton _ a, fun b hb c hc => ?_⟩
      obtain rfl := List.mem_singleton.1 hc
      rintro rfl
      exact ha (List.mem_eraseDups.1 hb)

theorem eraseDups_sublist (l : List α) : l.eraseDups.Sublist l := by
  induction l using List.reverseRecOn with
  | nil => exact List.Sublist.refl []
  | append_singleton l a ih =>
    rw [eraseDups_concat]
    split
    · exact ih.trans (List.sublist_append_left l [a])
    · exact ih.append (List.Sublist.refl [a])

/-- All elements are first occurrences just when no element occurs twice. -/
theorem length_eraseDups_eq_iff (l : List α) : l.eraseDups.length = l.length ↔ l.Nodup := by
  constructor
  · intro h
    exact (eraseDups_sublist l).eq_of_length h ▸ nodup_eraseDups l
  · intro h
    induction l using List.reverseRecOn with
    | nil => rfl
    | append_singleton l a ih =>
      obtain ⟨hl, -, hdisjoint⟩ := List.nodup_append.1 h
      have ha : a ∉ l := fun hmem => hdisjoint a hmem a (List.mem_singleton_self a) rfl
      rw [eraseDups_concat, if_neg ha, List.length_append, List.length_append, ih hl]

end FirstOccurrences

/-! ## The nodes and the texts of a unit -/

/-- The texts of a parameter. -/
def Parameter.strings (p : Parameter) : List String :=
  [p.name, p.type]

/-- The texts of a method. -/
def Method.strings (m : Method) : List String :=
  m.name :: m.returnType :: m.typeParameters ++ m.parameters.flatMap Parameter.strings

/-- The texts of a constructor. -/
def Constructor.strings (k : Constructor) : List String :=
  k.parameters.flatMap Parameter.strings

namespace ClassNode

mutual

/-- A class node and the nodes in it, outer before inner. -/
def nodes (c : ClassNode) : List ClassNode :=
  match c with
  | ⟨name, isStatic, methods, constructors, nested⟩ =>
    ⟨name, isStatic, methods, constructors, nested⟩ :: nodesAll nested

/-- The class nodes of a list of classes. -/
def nodesAll : List ClassNode → List ClassNode
  | [] => []
  | c :: cs => c.nodes ++ nodesAll cs

end

mutual

/-- The texts of a class and its nested classes. -/
def strings (c : ClassNode) : List String :=
  match c with
  | ⟨name, _, methods, constructors, nested⟩ =>
    name :: (methods.flatMap Method.strings ++
      (constructors.flatMap Constructor.strings ++ stringsAll nested))

/-- The texts of a list of classes. -/
def stringsAll : List ClassNode → List String
  | [] => []
  | c :: cs => c.strings ++ stringsAll cs

end

end ClassNode

namespace Member

mutual

/-- The class nodes under a member. -/
def nodes : Member → List ClassNode
  | namespaceBlock _ _ members => nodesAll members
  | classNode node => node.nodes

/-- The class nodes under a list of members. -/
def nodesAll : List Member → List ClassNode
  | [] => []
  | m :: ms => m.nodes ++ nodesAll ms

end

mutual

/-- The texts of a member. -/
def strings : Member → List String
  | namespaceBlock name usings members => name :: (usings ++ stringsAll members)
  | classNode node => node.strings

/-- The texts of a list of members. -/
def stringsAll : List Member → List String
  | [] => []
  | m :: ms => m.strings ++ stringsAll ms

end

end Member

/-- The class nodes of a unit, in preorder. -/
def SourceUnit.nodes (u : SourceUnit) : List ClassNode :=
  Member.nodesAll u.members

/-- The texts of a unit. -/
def SourceUnit.strings (u : SourceUnit) : List String :=
  u.usings ++ u.fileNamespace.toList ++ Member.stringsAll u.members

/-! ## One declaration for each node -/

mutual

theorem ClassNode.methods_declarations (s : Scope) (c : ClassNode) :
    (c.declarations s).map (·.methods) = c.nodes.map (·.methods) := by
  match c with
  | ⟨name, isStatic, methods, constructors, nested⟩ =>
    rw [declarations, nodes, List.map_cons, List.map_cons,
      ClassNode.methods_declarationsAll (s.enterClass name) nested]
    rfl

theorem ClassNode.methods_declarationsAll (s : Scope) (cs : List ClassNode) :
    (declarationsAll s cs).map (·.methods) = (nodesAll cs).map (·.methods) := by
  match cs with
  | [] => rfl
  | c :: cs =>
    rw [declarationsAll, nodesAll, List.map_append, List.map_append,
      ClassNode.methods_declarations s c, ClassNode.methods_declarationsAll s cs]

end

mutual

theorem Member.methods_declarations (s : Scope) (m : Member) :
    (m.declarations s).map (·.methods) = m.nodes.map (·.methods) := by
  match m with
  | .namespaceBlock name usings members =>
    rw [Member.declarations, Member.nodes]
    exact Member.methods_declarationsAll (s.enterNamespace name usings) members
  | .classNode node =>
    rw [Member.declarations, Member.nodes]
    exact node.methods_declarations s

theorem Member.methods_declarationsAll (s : Scope) (ms : List Member) :
    (Member.declarationsAll s ms).map (·.methods) = (Member.nodesAll ms).map (·.methods) := by
  match ms with
  | [] => rfl
  | m :: ms =>
    rw [Member.declarationsAll, Member.nodesAll, List.map_append, List.map_append,
      Member.methods_declarations s m, Member.methods_declarationsAll s ms]

end

/-- Each class node gives one declaration, with its methods. -/
theorem SourceUnit.methods_declarations (u : SourceUnit) :
    u.declarations.map (·.methods) = u.nodes.map (·.methods) :=
  Member.methods_declarationsAll (Scope.ofUnit u) u.members

/-! ## Plain declarations -/

/-- The name and the type of a parameter are plain. -/
def Parameter.IsPlain (p : Parameter) : Prop :=
  Plain p.name ∧ Plain p.type

/-- The names and types in the signature of a method are plain. -/
structure Method.IsPlain (m : Method) : Prop where
  name : Plain m.name
  parameters : ∀ p ∈ m.parameters, p.IsPlain
  returnType : Plain m.returnType

/-- The names and types in a declaration are plain. -/
structure ClassDeclaration.IsPlain (c : ClassDeclaration) : Prop where
  simpleName : Plain c.simpleName
  qualifiedName : Plain c.qualifiedName
  namespacePath : Plain c.namespacePath
  methods : ∀ m ∈ c.methods, m.IsPlain
  constructors : ∀ k ∈ c.constructors, ∀ p ∈ k.parameters, p.IsPlain
  imports : ∀ name ∈ c.imports, Plain name

/-! ## Plain units -/

theorem Parameter.isPlain_of_strings {parameters : List Parameter}
    (h : ∀ t ∈ parameters.flatMap Parameter.strings, Plain t) : ∀ p ∈ parameters, p.IsPlain := by
  intro p hp
  have hone : ∀ t ∈ p.strings, Plain t := fun t ht => h t (List.mem_flatMap.2 ⟨p, hp, ht⟩)
  simpa [Parameter.strings, Parameter.IsPlain] using hone

theorem Method.isPlain_of_strings {m : Method} (h : ∀ t ∈ m.strings, Plain t) : m.IsPlain := by
  rw [Method.strings, List.cons_append, List.cons_append, List.forall_mem_cons,
    List.forall_mem_cons, List.forall_mem_append] at h
  obtain ⟨hname, hreturn, -, hparameters⟩ := h
  exact ⟨hname, Parameter.isPlain_of_strings hparameters, hreturn⟩

/-- What the ancestors of a class say about it is plain. -/
structure Scope.IsPlain (s : Scope) : Prop where
  namespaces : ∀ name ∈ s.namespaces, Plain name
  classes : ∀ name ∈ s.classes, Plain name
  imports : ∀ name ∈ s.imports, Plain name
  fileNamespace : ∀ name ∈ s.fileNamespace, Plain name

namespace Scope

variable {s : Scope}

theorem IsPlain.enterNamespace (hs : s.IsPlain) {name : String} (hname : Plain name)
    {usings : List String} (husings : ∀ u ∈ usings, Plain u) :
    (s.enterNamespace name usings).IsPlain := by
  refine { hs with namespaces := ?_, imports := fun u hu => ?_ }
  · exact List.forall_mem_append.2 ⟨hs.namespaces, by simpa using hname⟩
  · rcases mem_addMissing.1 hu with hu | hu
    · exact hs.imports u hu
    · exact husings u hu

theorem IsPlain.enterClass (hs : s.IsPlain) {name : String} (hname : Plain name) :
    (s.enterClass name).IsPlain :=
  { hs with classes := List.forall_mem_append.2 ⟨hs.classes, by simpa using hname⟩ }

/-- The declaration of a class node with plain texts in a plain scope is plain. -/
theorem IsPlain.declaration (hs : s.IsPlain) {c : ClassNode} (hname : Plain c.name)
    (hmethods : ∀ t ∈ c.methods.flatMap Method.strings, Plain t)
    (hconstructors : ∀ t ∈ c.constructors.flatMap Constructor.strings, Plain t) :
    (s.declaration c).IsPlain where
  simpleName := hname
  qualifiedName :=
    Text.plain_intercalate (by decide)
      (List.forall_mem_append.2 ⟨hs.classes, by simpa using hname⟩)
  namespacePath := by
    have hblocks : Plain (".".intercalate s.namespaces) :=
      Text.plain_intercalate (by decide) hs.namespaces
    cases hfile : s.fileNamespace with
    | none => simpa [Scope.declaration, namespacePath, hfile] using hblocks
    | some name => simpa [Scope.declaration, namespacePath, hfile] using hs.fileNamespace name hfile
  methods m hm :=
    Method.isPlain_of_strings fun t ht => hmethods t (List.mem_flatMap.2 ⟨m, hm, ht⟩)
  constructors k hk :=
    Parameter.isPlain_of_strings fun t ht => hconstructors t (List.mem_flatMap.2 ⟨k, hk, ht⟩)
  imports := hs.imports

end Scope

mutual

theorem ClassNode.isPlain_declarations {s : Scope} (hs : s.IsPlain) (c : ClassNode)
    (h : ∀ t ∈ c.strings, Plain t) : ∀ d ∈ c.declarations s, d.IsPlain := by
  match c with
  | ⟨name, isStatic, methods, constructors, nested⟩ =>
    rw [ClassNode.strings, List.forall_mem_cons, List.forall_mem_append,
      List.forall_mem_append] at h
    obtain ⟨hname, hmethods, hconstructors, hnested⟩ := h
    rw [ClassNode.declarations, List.forall_mem_cons]
    exact ⟨hs.declaration hname hmethods hconstructors,
      ClassNode.isPlain_declarationsAll (hs.enterClass hname) nested hnested⟩

theorem ClassNode.isPlain_declarationsAll {s : Scope} (hs : s.IsPlain) (cs : List ClassNode)
    (h : ∀ t ∈ ClassNode.stringsAll cs, Plain t) :
    ∀ d ∈ ClassNode.declarationsAll s cs, d.IsPlain := by
  match cs with
  | [] => simp [ClassNode.declarationsAll]
  | c :: cs =>
    rw [ClassNode.stringsAll, List.forall_mem_append] at h
    rw [ClassNode.declarationsAll, List.forall_mem_append]
    exact ⟨ClassNode.isPlain_declarations hs c h.1,
      ClassNode.isPlain_declarationsAll hs cs h.2⟩

end

mutual

theorem Member.isPlain_declarations {s : Scope} (hs : s.IsPlain) (m : Member)
    (h : ∀ t ∈ m.strings, Plain t) : ∀ d ∈ m.declarations s, d.IsPlain := by
  match m with
  | .namespaceBlock name usings members =>
    rw [Member.strings, List.forall_mem_cons, List.forall_mem_append] at h
    rw [Member.declarations]
    exact Member.isPlain_declarationsAll (hs.enterNamespace h.1 h.2.1) members h.2.2
  | .classNode node =>
    rw [Member.strings] at h
    rw [Member.declarations]
    exact node.isPlain_declarations hs h

theorem Member.isPlain_declarationsAll {s : Scope} (hs : s.IsPlain) (ms : List Member)
    (h : ∀ t ∈ Member.stringsAll ms, Plain t) : ∀ d ∈ Member.declarationsAll s ms, d.IsPlain := by
  match ms with
  | [] => simp [Member.declarationsAll]
  | m :: ms =>
    rw [Member.stringsAll, List.forall_mem_append] at h
    rw [Member.declarationsAll, List.forall_mem_append]
    exact ⟨Member.isPlain_declarations hs m h.1, Member.isPlain_declarationsAll hs ms h.2⟩

end

/-- A unit of plain texts has plain declarations. -/
theorem SourceUnit.isPlain_declarations (u : SourceUnit) (h : ∀ t ∈ u.strings, Plain t) :
    ∀ d ∈ u.declarations, d.IsPlain := by
  rw [SourceUnit.strings, List.forall_mem_append, List.forall_mem_append] at h
  obtain ⟨⟨husings, hfile⟩, hmembers⟩ := h
  have hscope : (Scope.ofUnit u).IsPlain := {
    namespaces := by simp [Scope.ofUnit]
    classes := by simp [Scope.ofUnit]
    imports := husings
    fileNamespace := fun name hname => hfile name (Option.mem_toList.2 hname) }
  exact Member.isPlain_declarationsAll hscope u.members hmembers

/-! ## Merging -/

namespace ClassDeclaration

/-- Merging keeps declarations plain. -/
theorem IsPlain.merge {c part : ClassDeclaration} (hc : c.IsPlain) (hpart : part.IsPlain) :
    (c.merge part).IsPlain where
  simpleName := hc.simpleName
  qualifiedName := hc.qualifiedName
  namespacePath := hc.namespacePath
  methods := List.forall_mem_append.2 ⟨hc.methods, hpart.methods⟩
  constructors := List.forall_mem_append.2 ⟨hc.constructors, hpart.constructors⟩
  imports := fun name hname => (mem_addMissing.1 hname).elim (hc.imports name) (hpart.imports name)

theorem isPlain_insert {part : ClassDeclaration} (hpart : part.IsPlain)
    {classes : List ClassDeclaration} (h : ∀ c ∈ classes, c.IsPlain) :
    ∀ c ∈ part.insert classes, c.IsPlain := by
  induction classes with
  | nil => simpa [insert] using hpart
  | cons c classes ih =>
    obtain ⟨hc, hclasses⟩ := List.forall_mem_cons.1 h
    rw [insert]
    split
    · exact List.forall_mem_cons.2 ⟨hc.merge hpart, hclasses⟩
    · exact List.forall_mem_cons.2 ⟨hc, ih hclasses⟩

/-- A part keeps the total of what merging adds up. -/
theorem total_insert {weight : ClassDeclaration → Nat}
    (hweight : ∀ c part, weight (merge c part) = weight c + weight part)
    (part : ClassDeclaration) (classes : List ClassDeclaration) :
    total weight (part.insert classes) = total weight classes + weight part := by
  induction classes with
  | nil => simp [insert]
  | cons c classes ih =>
    rw [insert]
    split
    · simp only [total_cons, hweight]
      omega
    · simp only [total_cons, ih]
      omega

/-- A part keeps the identities, with its own at the end if it is new. -/
theorem identities_insert (part : ClassDeclaration) (classes : List ClassDeclaration) :
    (part.insert classes).map identity =
      if part.identity ∈ classes.map identity then classes.map identity
      else classes.map identity ++ [part.identity] := by
  induction classes with
  | nil => simp [insert]
  | cons c classes ih =>
    rw [insert]
    -- A part of the same identity is merged into `c`, and `c` keeps its identity.
    split
    · rename_i hsame
      have hmerge : (c.merge part).identity = c.identity := rfl
      simp [hmerge, hsame]
    · rename_i hother
      have hne : part.identity ≠ c.identity := fun h => hother h.symm
      simp only [List.map_cons, ih, List.mem_cons, hne, false_or]
      split <;> rfl

end ClassDeclaration

/-! ## Collecting -/

/-- Collecting keeps the total of what merging adds up. -/
theorem total_collect {weight : ClassDeclaration → Nat}
    (hweight : ∀ c part, weight (ClassDeclaration.merge c part) = weight c + weight part)
    (u : SourceUnit) : total weight (collect u) = total weight u.declarations := by
  unfold collect
  -- Collecting is a fold from the left, so the induction takes declarations off at the end.
  induction u.declarations using List.reverseRecOn with
  | nil => rfl
  | append_singleton ds part ih =>
    rw [List.foldl_append, List.foldl_cons, List.foldl_nil,
      ClassDeclaration.total_insert hweight part, ih]
    simp

/-- Collecting keeps each identity once, in the order in which they first occur. -/
theorem identities_foldl_insert (ds : List ClassDeclaration) :
    (ds.foldl (fun classes part => part.insert classes) []).map (·.identity) =
      (ds.map (·.identity)).eraseDups := by
  induction ds using List.reverseRecOn with
  | nil => rfl
  | append_singleton ds part ih =>
    rw [List.foldl_append, List.foldl_cons, List.foldl_nil, ClassDeclaration.identities_insert, ih,
      List.map_append, List.map_singleton, eraseDups_concat]
    simp only [List.mem_eraseDups]

theorem identities_collect (u : SourceUnit) :
    (collect u).map (·.identity) = (u.declarations.map (·.identity)).eraseDups :=
  identities_foldl_insert u.declarations

/-- Plain units have plain classes. -/
theorem isPlain_collect (u : SourceUnit) (h : ∀ t ∈ u.strings, Plain t) :
    ∀ c ∈ collect u, c.IsPlain := by
  have hdeclarations := u.isPlain_declarations h
  unfold collect
  generalize u.declarations = ds at hdeclarations ⊢
  induction ds using List.reverseRecOn with
  | nil => simp
  | append_singleton ds part ih =>
    obtain ⟨hds, hpart⟩ := List.forall_mem_append.1 hdeclarations
    rw [List.foldl_append, List.foldl_cons, List.foldl_nil]
    exact ClassDeclaration.isPlain_insert (hpart part (List.mem_singleton_self part)) (ih hds)

end Scaffold
