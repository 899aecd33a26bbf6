import Scaffold.Collection

/-!
# Where the classes of a unit stand

A site is a class node with the namespace blocks and the classes around it. The sites of a unit are
listed from the inside out: a node is put at the site without surroundings, and every node above it
is put around the sites below. Collecting goes the other way and passes a scope down; the two agree
(`SourceUnit.declarations_eq`), so what collecting says of a class is a function of its site alone.
-/

namespace Scaffold

/-- A class node with the nodes around it. -/
structure Site where
  /-- The names and the usings of the namespace blocks around the class, outermost first. -/
  blocks : List (String × List String)
  /-- The names of the classes around it, outermost first. -/
  classes : List String
  node : ClassNode

namespace Site

/-- The site with one more class around its classes. -/
def inClass (name : String) (site : Site) : Site :=
  { site with classes := name :: site.classes }

/-- The site with one more namespace block around its blocks. -/
def inBlock (name : String) (usings : List String) (site : Site) : Site :=
  { site with blocks := (name, usings) :: site.blocks }

/-- The qualified name of the class: the names of the classes around it and its own. -/
def qualifiedName (site : Site) : String :=
  ".".intercalate (site.classes ++ [site.node.name])

/-- The namespace that the blocks around the class make. -/
def blockPath (site : Site) : String :=
  ".".intercalate (site.blocks.map Prod.fst)

end Site

namespace ClassNode

mutual

/-- The sites of a class and its nested classes, outer before inner. -/
def sites (c : ClassNode) : List Site :=
  match c with
  | ⟨name, isStatic, methods, constructors, nested⟩ =>
    ⟨[], [], ⟨name, isStatic, methods, constructors, nested⟩⟩ ::
      (sitesAll nested).map (Site.inClass name)

/-- The sites of a list of classes. -/
def sitesAll : List ClassNode → List Site
  | [] => []
  | c :: cs => c.sites ++ sitesAll cs

end

theorem sitesAll_append (cs ds : List ClassNode) :
    sitesAll (cs ++ ds) = sitesAll cs ++ sitesAll ds := by
  induction cs with
  | nil => rfl
  | cons c cs ih => rw [List.cons_append, sitesAll, sitesAll, ih, List.append_assoc]

end ClassNode

namespace Member

mutual

/-- The sites under a member. -/
def sites : Member → List Site
  | namespaceBlock name usings members => (sitesAll members).map (Site.inBlock name usings)
  | classNode node => node.sites

/-- The sites under a list of members. -/
def sitesAll : List Member → List Site
  | [] => []
  | m :: ms => m.sites ++ sitesAll ms

end

theorem sitesAll_append (ms ns : List Member) :
    sitesAll (ms ++ ns) = sitesAll ms ++ sitesAll ns := by
  induction ms with
  | nil => rfl
  | cons m ms ih => rw [List.cons_append, sitesAll, sitesAll, ih, List.append_assoc]

end Member

/-- The sites of a unit, in preorder. -/
def SourceUnit.sites (u : SourceUnit) : List Site :=
  Member.sitesAll u.members

/-- The identity of a class of the unit: its namespace, which is the one of the file if the file has
one, and its qualified name. -/
def SourceUnit.identityOf (u : SourceUnit) (site : Site) : String × String :=
  (u.fileNamespace.getD site.blockPath, site.qualifiedName)

/-! ## How many sites there are -/

mutual

theorem ClassNode.length_sites (c : ClassNode) : c.sites.length = c.count := by
  match c with
  | ⟨name, isStatic, methods, constructors, nested⟩ =>
    rw [ClassNode.sites, ClassNode.count, List.length_cons, List.length_map,
      ClassNode.length_sitesAll nested]

theorem ClassNode.length_sitesAll (cs : List ClassNode) :
    (ClassNode.sitesAll cs).length = ClassNode.countAll cs := by
  match cs with
  | [] => rfl
  | c :: cs =>
    rw [ClassNode.sitesAll, ClassNode.countAll, List.length_append, ClassNode.length_sites c,
      ClassNode.length_sitesAll cs]

end

mutual

theorem Member.length_sites (m : Member) : m.sites.length = m.classCount := by
  match m with
  | .namespaceBlock name usings members =>
    rw [Member.sites, Member.classCount, List.length_map, Member.length_sitesAll members]
  | .classNode node => exact node.length_sites

theorem Member.length_sitesAll (ms : List Member) :
    (Member.sitesAll ms).length = Member.classCountAll ms := by
  match ms with
  | [] => rfl
  | m :: ms =>
    rw [Member.sitesAll, Member.classCountAll, List.length_append, Member.length_sites m,
      Member.length_sitesAll ms]

end

/-- A unit has one site for each class that it counts. -/
theorem SourceUnit.length_sites (u : SourceUnit) : u.sites.length = u.classCount :=
  Member.length_sitesAll u.members

/-! ## The scope of a site -/

namespace Scope

/-- The scope of the class at a site, when `s` is the scope of what the site is in. -/
def within (s : Scope) (site : Site) : Scope where
  namespaces := s.namespaces ++ site.blocks.map Prod.fst
  classes := s.classes ++ site.classes
  imports := site.blocks.foldl (fun imports block => addMissing imports block.2) s.imports
  fileNamespace := s.fileNamespace

/-- The declaration of the class at a site. -/
def declare (s : Scope) (site : Site) : ClassDeclaration :=
  (s.within site).declaration site.node

/-- A site without surroundings changes no scope. -/
theorem declare_node (s : Scope) (c : ClassNode) : s.declare ⟨[], [], c⟩ = s.declaration c := by
  unfold declare within
  simp only [List.map_nil, List.append_nil, List.foldl_nil]

/-- Inside a class, a site stands as it does with the class around it. -/
theorem declare_inClass (s : Scope) (name : String) (site : Site) :
    s.declare (site.inClass name) = (s.enterClass name).declare site := by
  have hwithin : s.within (site.inClass name) = (s.enterClass name).within site := by
    simp [within, Site.inClass, enterClass]
  show (s.within (site.inClass name)).declaration site.node = _
  rw [hwithin, declare]

/-- Inside a namespace block, a site stands as it does with the block around it. -/
theorem declare_inBlock (s : Scope) (name : String) (usings : List String) (site : Site) :
    s.declare (site.inBlock name usings) = (s.enterNamespace name usings).declare site := by
  have hwithin : s.within (site.inBlock name usings) =
      (s.enterNamespace name usings).within site := by
    simp [within, Site.inBlock, enterNamespace]
  show (s.within (site.inBlock name usings)).declaration site.node = _
  rw [hwithin, declare]

end Scope

mutual

theorem ClassNode.declarations_eq (s : Scope) (c : ClassNode) :
    c.declarations s = c.sites.map s.declare := by
  match c with
  | ⟨name, isStatic, methods, constructors, nested⟩ =>
    have hinside : ((ClassNode.sitesAll nested).map (Site.inClass name)).map s.declare =
        (ClassNode.sitesAll nested).map (s.enterClass name).declare := by
      rw [List.map_map]
      exact List.map_congr_left fun site _ => s.declare_inClass name site
    rw [ClassNode.declarations, ClassNode.sites, List.map_cons, hinside, s.declare_node,
      ClassNode.declarationsAll_eq (s.enterClass name) nested]

theorem ClassNode.declarationsAll_eq (s : Scope) (cs : List ClassNode) :
    ClassNode.declarationsAll s cs = (ClassNode.sitesAll cs).map s.declare := by
  match cs with
  | [] => rfl
  | c :: cs =>
    rw [ClassNode.declarationsAll, ClassNode.sitesAll, List.map_append,
      ClassNode.declarations_eq s c, ClassNode.declarationsAll_eq s cs]

end

mutual

theorem Member.declarations_eq (s : Scope) (m : Member) :
    m.declarations s = m.sites.map s.declare := by
  match m with
  | .namespaceBlock name usings members =>
    have hinside : ((Member.sitesAll members).map (Site.inBlock name usings)).map s.declare =
        (Member.sitesAll members).map (s.enterNamespace name usings).declare := by
      rw [List.map_map]
      exact List.map_congr_left fun site _ => s.declare_inBlock name usings site
    rw [Member.declarations, Member.sites, hinside,
      Member.declarationsAll_eq (s.enterNamespace name usings) members]
  | .classNode node =>
    rw [Member.declarations, Member.sites]
    exact node.declarations_eq s

theorem Member.declarationsAll_eq (s : Scope) (ms : List Member) :
    Member.declarationsAll s ms = (Member.sitesAll ms).map s.declare := by
  match ms with
  | [] => rfl
  | m :: ms =>
    rw [Member.declarationsAll, Member.sitesAll, List.map_append, Member.declarations_eq s m,
      Member.declarationsAll_eq s ms]

end

/-- The declarations of a unit are the declarations of its sites. -/
theorem SourceUnit.declarations_eq (u : SourceUnit) :
    u.declarations = u.sites.map (Scope.ofUnit u).declare :=
  Member.declarationsAll_eq (Scope.ofUnit u) u.members

/-- The declaration of a site has the identity of the site. -/
theorem SourceUnit.identity_declare (u : SourceUnit) (site : Site) :
    ((Scope.ofUnit u).declare site).identity = u.identityOf site := rfl

end Scaffold
