import Scaffold.Proofs.CSharp.Classes

/-!
# The outline of a tree has its classes

The classes of an outline are the class declarations of the tree that are reached, each once, in
document order and with what is around it, and each class has the methods and constructors of its
own that are reached (`Node.outline_keeps`). So the outline loses classes and members just where a
conditional directive is around them, or a namespace in a class is.

The outline looks for classes and members directly in bodies, while they are sought here anywhere in
the tree. `Node.Shows` says that the two agree for some nodes, and `Node.Conforms.isShown` proves it
for every node of a tree that conforms, by induction on the tree: a class and a namespace have one
body (`Node.Conforms.exists_body`), the parts of a body are not bodies, and what is left consists of
phrases in which classes and members can only stand under a conditional directive. Each of the last
two is a check of the grammar, and so is it that a file namespace, which the outline looks into for
members of the unit, has none in it (`Node.members_itemsAmong`).
-/

namespace Scaffold.CSharp

open Text

/-! ## What the outline reads off a body -/

namespace Node

/-- The outline reads the classes of a class off its body. -/
theorem classNode_eq (n : Node) : n.classNode = n.classWith (classes n.bodyParts) := by
  have hbody : ∀ ns : List Node, bodyClasses ns =
      classes (((ns.find? (·.role = some .body)).map (·.parts)).getD []) := by
    intro ns
    induction ns with
    | nil => rfl
    | cons m ns ih =>
      obtain ⟨kind, role, start, text, isFlawed, parts⟩ := m
      rw [bodyClasses]
      by_cases hrole : role = some .body
      · simp [hrole]
      · simp [hrole, ih]
  obtain ⟨kind, role, start, text, isFlawed, parts⟩ := n
  rw [classNode, hbody]
  rfl

/-- The outline reads the members of a namespace off its body. -/
theorem namespaceNode_eq (n : Node) : n.namespaceNode = n.namespaceWith (members n.bodyParts) := by
  have hbody : ∀ ns : List Node, bodyMembers ns =
      members (((ns.find? (·.role = some .body)).map (·.parts)).getD []) := by
    intro ns
    induction ns with
    | nil => rfl
    | cons m ns ih =>
      obtain ⟨kind, role, start, text, isFlawed, parts⟩ := m
      rw [bodyMembers]
      by_cases hrole : role = some .body
      · simp [hrole]
      · simp [hrole, ih]
  obtain ⟨kind, role, start, text, isFlawed, parts⟩ := n
  rw [namespaceNode, hbody]
  rfl

/-- The body is the first part that plays its role. -/
theorem bodyParts_eq {n body : Node} {front back : List Node} (h : n.parts = front ++ body :: back)
    (hfront : ∀ m ∈ front, m.role ≠ some .body) (hbody : body.role = some .body) :
    n.bodyParts = body.parts := by
  have hnone : front.find? (·.role = some .body) = none :=
    List.find?_eq_none.2 fun m hm => by simpa using hfront m hm
  rw [bodyParts, part?, h, List.find?_append, hnone, Option.none_or,
    List.find?_cons_of_pos (by simpa using hbody)]
  rfl

theorem classes_append (xs ys : List Node) : classes (xs ++ ys) = classes xs ++ classes ys := by
  induction xs with
  | nil => rfl
  | cons x xs ih =>
    rw [List.cons_append, classes, classes, ih]
    split <;> rfl

theorem members_append (xs ys : List Node) : members (xs ++ ys) = members xs ++ members ys := by
  induction xs with
  | nil => rfl
  | cons x xs ih =>
    rw [List.cons_append, members, members, ih]
    split
    · rfl
    · split <;> rfl

theorem items_eq (n : Node) :
    n.items = n :: if n.is .fileNamespace then itemsAmong n.parts else [] := by
  obtain ⟨kind, role, start, text, isFlawed, parts⟩ := n
  simp [items, Node.is]

/-- Without file namespaces the members of a unit are the nodes as they stand. -/
theorem itemsAmong_eq_self {ns : List Node} (h : ∀ n ∈ ns, n.is .fileNamespace = false) :
    itemsAmong ns = ns := by
  induction ns with
  | nil => rfl
  | cons n ns ih =>
    obtain ⟨hn, hns⟩ := List.forall_mem_cons.1 h
    rw [itemsAmong, items_eq, hn, ih hns]
    rfl

end Node

/-! ## What is seen among nodes -/

/-- Whether a phrase is neither a class, a namespace or a member of a class, nor made of such. -/
def Phrase.isQuiet : Phrase → Bool
  | compilationUnit | topItem | declarationList | declaration | declarationsBranch | itemsBranch
  | classDeclaration | namespaceDeclaration | methodDeclaration | constructorDeclaration => false
  | _ => true

namespace Node

/-- Only methods and constructors declare something. -/
def DeclaresMembers {α : Type} (declared? : Node → Option α) : Prop :=
  ∀ n, n.is .methodDeclaration = false → n.is .constructorDeclaration = false → declared? n = none

theorem declaresMembers_method? : DeclaresMembers method? := by
  intro n hmethod _
  rw [method?, hmethod]
  rfl

theorem declaresMembers_constructor? : DeclaresMembers constructor? := by
  intro n _ hconstructor
  rw [constructor?, hconstructor]
  rfl

/-- What is seen among the places in `ns` is what the outline reads off `items`. -/
structure Shows (ns items : List Node) : Prop where
  sites : found Place.seenSite? ns = Member.sitesAll (members items)
  nested : found Place.nestedSite? ns = ClassNode.sitesAll (classes items)
  members : ∀ {α : Type} (declared? : Node → Option α), DeclaresMembers declared? →
    found (Place.member? declared?) ns = items.filterMap declared?

namespace Shows

theorem nil : Shows [] [] := ⟨rfl, rfl, fun _ _ => rfl⟩

theorem append {xs ys items more : List Node} (hxs : Shows xs items) (hys : Shows ys more) :
    Shows (xs ++ ys) (items ++ more) where
  sites := by
    rw [found_append, hxs.sites, hys.sites, members_append, Member.sitesAll_append]
  nested := by
    rw [found_append, hxs.nested, hys.nested, classes_append, ClassNode.sitesAll_append]
  members declared? h := by
    rw [found_append, hxs.members declared? h, hys.members declared? h, List.filterMap_append]

theorem of_forall {ns : List Node} (h : ∀ n ∈ ns, Shows [n] [n]) : Shows ns ns := by
  induction ns with
  | nil => exact nil
  | cons n ns ih =>
    obtain ⟨hn, hns⟩ := List.forall_mem_cons.1 h
    exact hn.append (ih hns)

/-- The outline reads nothing off a quiet node. -/
theorem nothing_of_quiet {n : Node} {ns : List Node} (hn : n.IsA Phrase.isQuiet)
    (h : Shows ns [n]) : Shows ns [] := by
  obtain ⟨hsites, hnested, hmembers⟩ := h
  rw [Node.members, Node.members, hn.is_eq_false rfl, hn.is_eq_false rfl] at hsites
  rw [classes, classes, hn.is_eq_false rfl] at hnested
  refine ⟨hsites, hnested, fun declared? h => ?_⟩
  rw [hmembers declared? h,
    List.filterMap_cons_none (h n (hn.is_eq_false rfl) (hn.is_eq_false rfl))]

/-- Among quiet nodes the outline reads nothing, and there is nothing to be seen. -/
theorem of_quiet {ns : List Node} (h : ∀ n ∈ ns, Shows [n] [n] ∧ n.IsA Phrase.isQuiet) :
    Shows ns [] := by
  induction ns with
  | nil => exact nil
  | cons n ns ih =>
    obtain ⟨⟨hn, hquiet⟩, hns⟩ := List.forall_mem_cons.1 h
    exact (nothing_of_quiet hquiet hn).append (ih hns)

/-- A node that is no class and no namespace shows itself if nothing is seen in it. -/
theorem singleton_of_blank {n : Node} (hclass : n.is .classDeclaration = false)
    (hblock : n.is .namespaceDeclaration = false)
    (hsites : found (fun place => (place.inside n).seenSite?) n.parts = [])
    (hnested : found (fun place => (place.inside n).nestedSite?) n.parts = [])
    (hmembers : ∀ {α : Type} (declared? : Node → Option α), DeclaresMembers declared? →
      found (fun place => (place.inside n).member? declared?) n.parts = []) :
    Shows [n] [n] where
  sites := by
    have hhere : Place.seenSite? ⟨[], n⟩ = none := by simp [Place.seenSite?, Place.isSeen, hclass]
    rw [found_singleton, hhere, hsites, Node.members, Node.members, hclass, hblock]
    rfl
  nested := by
    have hhere : Place.nestedSite? ⟨[], n⟩ = none := by
      simp [Place.nestedSite?, Place.isNested, hclass]
    rw [found_singleton, hhere, hnested, classes, classes, hclass]
    rfl
  members declared? h := by
    rw [found_singleton, hmembers declared? h, List.append_nil]
    cases hn : declared? n with
    | none => rw [List.filterMap_cons_none hn]; exact congrArg Option.toList hn
    | some m => rw [List.filterMap_cons_some hn]; exact congrArg Option.toList hn

/-- A class shows what its body shows. -/
theorem singleton_of_class {n : Node} (h : n.kind = .phrase .classDeclaration)
    (hparts : Shows n.parts n.bodyParts) : Shows [n] [n] where
  sites := by
    have hinside : (fun place : Place => (place.inside n).seenSite?) =
        fun place => place.nestedSite?.map (Site.inClass (n.partText .name)) :=
      funext fun place => (place.inside_class method? h).1
    have hhere : Place.seenSite? ⟨[], n⟩ = some ⟨[], [], n.classNode⟩ := by
      simp [Place.seenSite?, Place.isSeen, Place.isReached, Place.site, Node.is, h]
    rw [found_singleton, hinside, found_map, hparts.nested, hhere]
    simp [Node.members, Node.is, h, Member.sitesAll, Member.sites, classNode_eq n, classWith,
      ClassNode.sites]
  nested := by
    have hinside : (fun place : Place => (place.inside n).nestedSite?) =
        fun place => place.nestedSite?.map (Site.inClass (n.partText .name)) :=
      funext fun place => (place.inside_class method? h).2.1
    have hhere : Place.nestedSite? ⟨[], n⟩ = some ⟨[], [], n.classNode⟩ := by
      simp [Place.nestedSite?, Place.isNested, Place.site, Node.is, h]
    rw [found_singleton, hinside, found_map, hparts.nested, hhere]
    simp [classes, Node.is, h, ClassNode.sitesAll, classNode_eq n, classWith, ClassNode.sites]
  members declared? hdeclares := by
    have hn : declared? n = none := hdeclares n (by simp [Node.is, h]) (by simp [Node.is, h])
    rw [found_singleton, found_eq_nil _ fun place => (place.inside_class declared? h).2.2]
    simp [Place.member?, hn]

/-- A namespace block shows what its body shows, but not to a class around it. -/
theorem singleton_of_namespace {n : Node} (h : n.kind = .phrase .namespaceDeclaration)
    (hparts : Shows n.parts n.bodyParts) : Shows [n] [n] where
  sites := by
    have hinside : (fun place : Place => (place.inside n).seenSite?) = fun place =>
        place.seenSite?.map (Site.inBlock (compact (n.partText .name)) (usings n.bodyParts)) :=
      funext fun place => (place.inside_namespace method? h).1
    have hhere : Place.seenSite? ⟨[], n⟩ = none := by
      simp [Place.seenSite?, Place.isSeen, Node.is, h]
    rw [found_singleton, hinside, found_map, hparts.sites, hhere]
    simp [Node.members, Node.is, h, Member.sitesAll, Member.sites, namespaceNode_eq n,
      namespaceWith]
  nested := by
    rw [found_singleton, found_eq_nil _ fun place => (place.inside_namespace method? h).2.1]
    simp [Place.nestedSite?, Place.isNested, classes, Node.is, h, ClassNode.sitesAll]
  members declared? hdeclares := by
    have hn : declared? n = none := hdeclares n (by simp [Node.is, h]) (by simp [Node.is, h])
    rw [found_singleton, found_eq_nil _ fun place => (place.inside_namespace declared? h).2.2]
    simp [Place.member?, hn]

/-- In a node that hides what is in it nothing is seen. -/
theorem singleton_of_hiding {n : Node} {p : Phrase} (h : n.kind = .phrase p)
    (hp : p.hides = true) : Shows [n] [n] := by
  have hno (q : Phrase) (hq : q.hides = false) : n.is q = false := by
    refine decide_eq_false fun hkind => ?_
    obtain rfl : p = q := Kind.phrase.inj (h.symm.trans hkind)
    rw [hp] at hq
    exact absurd hq (by decide)
  exact singleton_of_blank (hno _ rfl) (hno _ rfl)
    (found_eq_nil _ (fun place => (place.inside_hiding method? h hp).1) _)
    (found_eq_nil _ (fun place => (place.inside_hiding method? h hp).2.1) _)
    (fun declared? _ => found_eq_nil _ (fun place => (place.inside_hiding declared? h hp).2.2) _)

section Other

variable {n : Node} {p : Phrase} (h : n.kind = .phrase p) (hhides : p.hides = false)
  (hp : p ≠ .classDeclaration ∧ p ≠ .namespaceDeclaration)

include h hhides hp

/-- Another node can be looked through. -/
theorem found_inside :
    found (fun place => (place.inside n).seenSite?) n.parts = found Place.seenSite? n.parts ∧
      found (fun place => (place.inside n).nestedSite?) n.parts =
        found Place.nestedSite? n.parts ∧
      ∀ {α : Type} (declared? : Node → Option α),
        found (fun place => (place.inside n).member? declared?) n.parts =
          found (Place.member? declared?) n.parts :=
  ⟨congrArg (found · n.parts) (funext fun place => (place.inside_other method? h hhides hp).1),
    congrArg (found · n.parts) (funext fun place => (place.inside_other method? h hhides hp).2.1),
    fun declared? => congrArg (found · n.parts)
      (funext fun place => (place.inside_other declared? h hhides hp).2.2)⟩

/-- Another node shows nothing but itself if nothing is seen in it. -/
theorem singleton_of_other (hparts : Shows n.parts []) : Shows [n] [n] := by
  have hclass : n.is .classDeclaration = false := by simp [Node.is, h, hp.1]
  have hblock : n.is .namespaceDeclaration = false := by simp [Node.is, h, hp.2]
  obtain ⟨hsites, hnested, hmembers⟩ := found_inside h hhides hp
  exact singleton_of_blank hclass hblock (hsites.trans hparts.sites)
    (hnested.trans hparts.nested)
    fun declared? hdeclares => (hmembers declared?).trans (hparts.members declared? hdeclares)

end Other

/-- A body shows what its parts show. -/
theorem of_body {n : Node} {items : List Node} (h : n.kind = .phrase .declarationList)
    (hparts : Shows n.parts items) : Shows [n] items := by
  obtain ⟨hsites, hnested, hmembers⟩ := found_inside h rfl ⟨by decide, by decide⟩
  constructor
  · rw [found_singleton, hsites, hparts.sites]
    simp [Place.seenSite?, Place.isSeen, Node.is, h]
  · rw [found_singleton, hnested, hparts.nested]
    simp [Place.nestedSite?, Place.isNested, Node.is, h]
  · intro α declared? hdeclares
    have hn : declared? n = none := hdeclares n (by simp [Node.is, h]) (by simp [Node.is, h])
    rw [found_singleton, hmembers, hparts.members declared? hdeclares]
    simp [Place.member?, hn]

end Shows

end Node

/-! ## What the grammar allows -/

namespace Phrase

/-- Whether a phrase is no list in which classes and namespaces stand. -/
def isItem : Phrase → Bool
  | compilationUnit | declarationList | declarationsBranch | itemsBranch => false
  | _ => true

/-- Whether a phrase with a node of its own is made of quiet phrases. -/
def isPlain (p : Phrase) : Bool :=
  !p.isHidden && !p.hides && p.isItem && p != classDeclaration && p != namespaceDeclaration

/-- Whether a phrase is quiet and stands for no body. -/
def isHeading (p : Phrase) : Bool :=
  p.isQuiet && p != .functionBody

/-- Whether a phrase is quiet and is no file namespace. -/
def isIdle (p : Phrase) : Bool :=
  p.isQuiet && p != .fileNamespace

theorem isItem_of_isQuiet {p : Phrase} : p.isQuiet = true → p.isItem = true := by
  cases p <;> decide

theorem isOpen_isQuiet : isOpen (fun label _ => label.isA isQuiet) = true := by
  decide

theorem isOpen_isItem : isOpen (fun label _ => label.isA isItem) = true := by
  decide

theorem isOpen_isHeading :
    isOpen (fun label role => label.isA isHeading && role != some .body) = true := by
  decide

theorem isOpen_isIdle : isOpen (fun label _ => label.isA isIdle) = true := by
  decide

/-- A plain phrase is made of quiet phrases. -/
theorem allows_of_isPlain {p : Phrase} (h : p.isPlain = true) :
    p.pattern.allows (fun label _ => label.isA isQuiet) none none = true := by
  have hall : all.all (fun p => !p.isPlain ||
      p.pattern.allows (fun label _ => label.isA isQuiet) none none) = true := by
    decide
  have hp := List.all_eq_true.1 hall p p.mem_all
  rwa [h, Bool.not_true, Bool.false_or] at hp

/-- The parts of a unit and of a body are items. -/
theorem allows_items {p : Phrase} (h : p = compilationUnit ∨ p = declarationList) :
    p.pattern.allows (fun label _ => label.isA isItem) none none = true := by
  rcases h with rfl | rfl <;> decide

end Phrase

namespace Node

variable {n : Node}

/-- A class and a namespace have one body, with nothing but quiet phrases before and after it. -/
theorem Conforms.exists_body (h : n.Conforms) {p : Phrase} (hkind : n.kind = .phrase p)
    (hp : p = .classDeclaration ∨ p = .namespaceDeclaration) :
    ∃ front body back, n.parts = front ++ body :: back ∧
      body.kind = .phrase .declarationList ∧ body.role = some .body ∧
      (∀ m ∈ front, m.IsA Phrase.isQuiet ∧ m.role ≠ some .body) ∧
      ∀ m ∈ back, m.IsA Phrase.isQuiet := by
  obtain ⟨heading, hpattern, hheading⟩ : ∃ heading,
      p.pattern = .sequence (heading ++ [.members]) ∧
        (Pattern.sequence heading).allows
          (fun label role => label.isA Phrase.isHeading && role != some .body) none none =
            true := by
    rcases hp with rfl | rfl
    · exact ⟨[.heading, .word "class", .declaredName, .typeHeading], rfl, by decide⟩
    · exact ⟨[.word "namespace", .labelled .name (.phrase .name)], rfl, by decide⟩
  -- The list of declarations may have a semicolon behind it.
  have hfits := h.constituents hkind
  rw [hpattern] at hfits
  obtain ⟨before, tail, hparts, hbefore, htail⟩ := Fits.sequence_concat_iff.1 hfits
  obtain ⟨list, after, rfl, hlist, hafter⟩ := Fits.sequence_cons_iff.1 htail
  obtain ⟨body, rfl, hbody, hrole⟩ := Fits.exists_of_visible rfl (Fits.labelled_iff.1 hlist)
  obtain ⟨front, back, hns, hfront, hback⟩ := exists_parts_of_constituents hparts
  refine ⟨front, body, back, hns, hbody, hrole, fun m hm => ?_, fun m hm => ?_⟩
  · rcases hfront m hm with htrivia | hmem
    · have hparts : m ∈ n.parts := by
        rw [hns]
        exact List.mem_append_left _ hm
      exact ⟨.of_isTrivia htrivia, by simp [((h.of_mem hparts).of_isTrivia htrivia).2]⟩
    · obtain ⟨label, hlabel, hok⟩ := hbefore.allowed Phrase.isOpen_isHeading hheading hmem
      rw [Bool.and_eq_true, bne_iff_ne] at hok
      exact ⟨(IsA.of_label hlabel hok.1).mono fun p hp => (Bool.and_eq_true _ _ ▸ hp).1, hok.2⟩
  · rcases hback m hm with htrivia | hmem
    · exact .of_isTrivia htrivia
    · obtain ⟨label, hlabel, hok⟩ := hafter.allowed Phrase.isOpen_isQuiet (by decide) hmem
      exact .of_label hlabel hok

/-- What is to be shown of every node in a tree that conforms: an item shows itself, and a unit and
a body show what their parts show. -/
def IsShown (n : Node) : Prop :=
  (n.IsA Phrase.isItem → Shows [n] [n]) ∧
    (n.kind = .phrase .compilationUnit ∨ n.kind = .phrase .declarationList →
      Shows n.parts n.parts)

theorem shows_of_quiet {ns : List Node} (h : ∀ m ∈ ns, m.IsShown)
    (hquiet : ∀ m ∈ ns, m.IsA Phrase.isQuiet) : Shows ns [] :=
  .of_quiet fun m hm =>
    ⟨(h m hm).1 ((hquiet m hm).mono fun _ => Phrase.isItem_of_isQuiet), hquiet m hm⟩

/-- In a class and in a namespace, the outline looks for what they show where it is. -/
theorem Conforms.shows_parts (h : n.Conforms) {p : Phrase} (hkind : n.kind = .phrase p)
    (hp : p = .classDeclaration ∨ p = .namespaceDeclaration) (hparts : ∀ m ∈ n.parts, m.IsShown) :
    Shows n.parts n.bodyParts := by
  obtain ⟨front, body, back, hns, hbody, hrole, hfront, hback⟩ := h.exists_body hkind hp
  rw [hns, List.forall_mem_append, List.forall_mem_cons] at hparts
  obtain ⟨hshownFront, hshownBody, hshownBack⟩ := hparts
  have hbodyParts : Shows [body] body.parts := .of_body hbody (hshownBody.2 (.inr hbody))
  have hall := (shows_of_quiet hshownFront fun m hm => (hfront m hm).1).append
    (hbodyParts.append (shows_of_quiet hshownBack hback))
  rw [bodyParts_eq hns (fun m hm => (hfront m hm).2) hrole, hns]
  rwa [List.nil_append, List.append_nil] at hall

/-- A node without parts that is no phrase shows itself. -/
theorem isShown_of_leaf (hkind : ∀ p, n.kind ≠ .phrase p) (hparts : n.parts = []) : n.IsShown := by
  have hno (p : Phrase) : n.is p = false := decide_eq_false (hkind p)
  refine ⟨fun _ => .singleton_of_blank (hno _) (hno _) ?_ ?_ fun _ _ => ?_, fun hlist => ?_⟩
  · rw [hparts, found_nil]
  · rw [hparts, found_nil]
  · rw [hparts, found_nil]
  · rcases hlist with hlist | hlist
    · exact absurd hlist (hkind _)
    · exact absurd hlist (hkind _)

/-- Every node in a tree that conforms is shown, by induction on the tree. -/
theorem Conforms.isShown (h : n.Conforms) : n.IsShown := by
  induction h with
  | @intro n isMade parts ih =>
    have hn : n.Conforms := .intro isMade parts
    cases hkind : n.kind with
    | phrase p =>
      constructor
      · intro hitem
        by_cases hhides : p.hides = true
        · exact .singleton_of_hiding hkind hhides
        by_cases hclass : p = .classDeclaration
        · exact .singleton_of_class (hclass ▸ hkind) (hn.shows_parts hkind (.inl hclass) ih)
        by_cases hblock : p = .namespaceDeclaration
        · exact .singleton_of_namespace (hblock ▸ hkind) (hn.shows_parts hkind (.inr hblock) ih)
        have hshown : p.isHidden = false := by
          rw [IsMade, hkind] at isMade
          exact isMade.1
        -- What is left has no body, and is made of quiet phrases.
        have hplain : p.isPlain = true := by
          simp [Phrase.isPlain, hshown, hhides, hitem p hkind, hclass, hblock]
        have hquiet : ∀ m ∈ n.parts, m.IsA Phrase.isQuiet :=
          hn.isA_of_mem hkind Phrase.isOpen_isQuiet (Phrase.allows_of_isPlain hplain)
        exact .singleton_of_other hkind (by simpa using hhides) ⟨hclass, hblock⟩
          (shows_of_quiet ih hquiet)
      · intro hlist
        have hp : p = .compilationUnit ∨ p = .declarationList := by
          rw [hkind] at hlist
          exact hlist.imp Kind.phrase.inj Kind.phrase.inj
        have hitems : ∀ m ∈ n.parts, m.IsA Phrase.isItem :=
          hn.isA_of_mem hkind Phrase.isOpen_isItem (Phrase.allows_items hp)
        exact .of_forall fun m hm => (ih m hm).1 (hitems m hm)
    | token t =>
      rw [IsMade, hkind] at isMade
      exact isShown_of_leaf (by simp [hkind]) isMade.1
    | comment =>
      rw [IsMade, hkind] at isMade
      exact isShown_of_leaf (by simp [hkind]) isMade.1
    | directive =>
      rw [IsMade, hkind] at isMade
      exact isShown_of_leaf (by simp [hkind]) isMade.1
    | unread => simp [IsMade, hkind] at isMade
    | missing t => simp [IsMade, hkind] at isMade

end Node

/-! ## Classes and members that are kept -/

/-- Leaving out elements loses nothing just when nothing is picked at those left out. -/
theorem filterMap_filter_eq_iff {α β : Type} {keeps : α → Bool} {pick : α → Option β} {l : List α} :
    (l.filter keeps).filterMap pick = l.filterMap pick ↔
      ∀ a ∈ l, (pick a).isSome = true → keeps a = true := by
  induction l with
  | nil => simp
  | cons a l ih =>
    rw [List.forall_mem_cons, ← ih]
    by_cases ha : keeps a = true
    · rw [List.filter_cons_of_pos ha]
      cases hpick : pick a with
      | none => simp [List.filterMap_cons_none hpick]
      | some b => simp [List.filterMap_cons_some hpick, ha]
    · rw [List.filter_cons_of_neg ha]
      cases hpick : pick a with
      | none => simp [List.filterMap_cons_none hpick]
      | some b =>
        have hlength : ((l.filter keeps).filterMap pick).length ≤ (l.filterMap pick).length :=
          (List.filter_sublist.filterMap pick).length_le
        constructor
        -- What is left out cannot come back: there would be one fewer.
        · intro heq
          rw [heq, List.filterMap_cons_some hpick, List.length_cons] at hlength
          omega
        · intro hall
          exact absurd (hall.1 rfl) ha

namespace Node

variable {n : Node}

/-- The class keeps those of its methods and constructors that are reached. So it loses one just
when one of them is not. -/
structure KeepsReached (n : Node) : Prop where
  methods : n.classNode.methods = (n.ownPlaces.filter (·.isReached)).filterMap (·.node.method?)
  constructors : n.classNode.constructors =
    (n.ownPlaces.filter (·.isReached)).filterMap (·.node.constructor?)
  methods_iff : n.classNode.methods = n.ownPlaces.filterMap (·.node.method?) ↔
    ∀ place ∈ n.ownPlaces, place.node.method?.isSome = true → place.isReached = true
  constructors_iff : n.classNode.constructors = n.ownPlaces.filterMap (·.node.constructor?) ↔
    ∀ place ∈ n.ownPlaces, place.node.constructor?.isSome = true → place.isReached = true

/-- What can be seen from a class is what is reached of its own. -/
theorem found_member {α : Type} (declared? : Node → Option α)
    (h : n.kind = .phrase .classDeclaration) :
    found (Place.member? declared?) n.parts =
      (n.ownPlaces.filter (·.isReached)).filterMap fun place => declared? place.node := by
  have hreached (place : Place) : (place.inside n).isReached =
      (!place.around.any isConditional && !place.around.any (·.is .namespaceDeclaration)) := by
    simp [Place.isReached, Place.inside, isConditional, Node.is, h]
  have hpick (place : Place) : place.member? declared? =
      if !place.around.any isTypeDeclaration && (place.inside n).isReached then
        declared? (place.inside n).node
      else none := by
    rw [hreached, Place.member?]
    rfl
  rw [ownPlaces, List.filter_map, List.filter_filter, List.filterMap_map, List.filterMap_filter,
    found, funext hpick]
  refine congrArg (fun pick => (placesAmong n.parts).filterMap pick) (funext fun place => ?_)
  rw [Bool.and_comm]
  rfl

/-- The methods and the constructors of a class. -/
theorem Conforms.keepsReached (hn : n.Conforms) (h : n.kind = .phrase .classDeclaration) :
    n.KeepsReached := by
  have hshows : Shows n.parts n.bodyParts :=
    hn.shows_parts h (.inl rfl) fun m hm => (hn.of_mem hm).isShown
  have hmethods : n.classNode.methods =
      (n.ownPlaces.filter (·.isReached)).filterMap (·.node.method?) := by
    rw [classNode_eq, ← found_member method? h]
    exact (hshows.members method? declaresMembers_method?).symm
  have hconstructors : n.classNode.constructors =
      (n.ownPlaces.filter (·.isReached)).filterMap (·.node.constructor?) := by
    rw [classNode_eq, ← found_member constructor? h]
    exact (hshows.members constructor? declaresMembers_constructor?).symm
  exact {
    methods := hmethods
    constructors := hconstructors
    methods_iff := by rw [hmethods]; exact filterMap_filter_eq_iff
    constructors_iff := by rw [hconstructors]; exact filterMap_filter_eq_iff }

/-- The outline reads no members off quiet nodes. -/
theorem members_of_quiet {ns : List Node} (h : ∀ m ∈ ns, m.IsA Phrase.isQuiet) :
    members ns = [] := by
  induction ns with
  | nil => rfl
  | cons m ns ih =>
    obtain ⟨hm, hns⟩ := List.forall_mem_cons.1 h
    rw [members, hm.is_eq_false rfl, hm.is_eq_false rfl, ih hns]
    rfl

/-- The grammar has nothing in a file namespace that a unit declares. -/
theorem Conforms.members_items (h : n.Conforms) : members n.items = members [n] := by
  rw [items_eq]
  by_cases hn : n.is .fileNamespace = true
  -- In a file namespace there is its name only, so nothing is looked into and nothing is read.
  · have hidle : ∀ m ∈ n.parts, m.IsA Phrase.isIdle :=
      h.isA_of_mem (of_decide_eq_true hn) Phrase.isOpen_isIdle (by decide)
    have hquiet : members n.parts = [] := members_of_quiet fun m hm =>
      (hidle m hm).mono fun p hp => (Bool.and_eq_true _ _ ▸ hp).1
    rw [if_pos hn, itemsAmong_eq_self fun m hm => (hidle m hm).is_eq_false rfl,
      ← List.singleton_append, members_append, hquiet, List.append_nil]
  · rw [if_neg hn]

theorem members_itemsAmong {ns : List Node} (h : ∀ m ∈ ns, m.Conforms) :
    members (itemsAmong ns) = members ns := by
  induction ns with
  | nil => rfl
  | cons m ns ih =>
    obtain ⟨hm, hns⟩ := List.forall_mem_cons.1 h
    rw [itemsAmong, members_append, hm.members_items, ih hns, ← members_append,
      List.singleton_append]

/-- The sites of an outline are those of the classes that can be seen in the unit. -/
theorem Conforms.sites_outline (hn : n.Conforms) (h : n.kind = .phrase .compilationUnit)
    (path : Option Path) : (n.outline path).sites = n.places.filterMap Place.seenSite? := by
  have hnone : Place.seenSite? ⟨[], n⟩ = none := by
    simp [Place.seenSite?, Place.isSeen, Node.is, h]
  obtain ⟨hinside, -, -⟩ := Shows.found_inside h rfl ⟨by decide, by decide⟩
  calc (n.outline path).sites = Member.sitesAll (members (itemsAmong n.parts)) := rfl
    _ = Member.sitesAll (members n.parts) := by
      rw [members_itemsAmong fun m hm => hn.of_mem hm]
    _ = found Place.seenSite? n.parts := (hn.isShown.2 (.inl h)).sites.symm
    _ = found Place.seenSite? [n] := by rw [found_singleton, hnone, hinside]; rfl
    _ = n.places.filterMap Place.seenSite? := by rw [found, placesAmong_singleton]

/-- The outline of a unit has the class declarations in no structure, interface, record or
enumeration that are reached, each once and in document order, at the sites that the namespaces and
classes around them make. It has all such classes just when all are reached. Each class has the
methods and the instance constructors whose nearest type declaration it is, in document order, as
far as they are reached. -/
theorem outline_keeps {unit : Node} (h : unit.Conforms) (hunit : unit.is .compilationUnit = true)
    (path : Option Path) :
    (unit.outline path).sites = (unit.classPlaces.filter (·.isReached)).map Place.site ∧
      ((unit.outline path).sites = unit.classPlaces.map Place.site ↔
        ∀ place ∈ unit.classPlaces, place.isReached = true) ∧
      ∀ place ∈ unit.classPlaces, place.node.KeepsReached := by
  have hsites : (unit.outline path).sites =
      (unit.classPlaces.filter (·.isReached)).map Place.site := by
    rw [h.sites_outline (of_decide_eq_true hunit) path, classPlaces, List.filter_filter,
      ← List.filterMap_eq_map, List.filterMap_filter]
    refine congrArg (fun pick => unit.places.filterMap pick) (funext fun place => ?_)
    rw [Bool.and_comm]
    rfl
  refine ⟨hsites, ?_, fun place hplace => ?_⟩
  · rw [hsites, ← List.filterMap_eq_map, filterMap_filter_eq_iff]
    simp
  · obtain ⟨hplace, hclass⟩ := List.mem_filter.1 hplace
    rw [Bool.and_eq_true] at hclass
    exact (h.of_mem_places place hplace).keepsReached (of_decide_eq_true hclass.1)

/-- The node of an empty list of declarations. -/
def emptyBody (start : Nat) : Node :=
  ofPhrase .declarationList (some .body) start "\x7b \x7d"
    [ofToken (.mark "\x7b") start "\x7b", ofToken (.mark "\x7d") (start + 2) "\x7d"]

/-- The tree of `namespace N { class A { A(); class B { } } struct S { class C { } } }`. -/
def nestedUnit : Node :=
  let b : Node := ofPhrase .classDeclaration none 29 "class B \x7b \x7d"
    [ofToken (.word "class") 29 "class", ofIdentifier (some .name) 35 "B", emptyBody 37]
  let c : Node := ofPhrase .classDeclaration none 54 "class C \x7b \x7d"
    [ofToken (.word "class") 54 "class", ofIdentifier (some .name) 60 "C", emptyBody 62]
  let constructor : Node := ofPhrase .constructorDeclaration none 24 "A();" [
    ofIdentifier (some .name) 24 "A",
    ofPhrase .parameterList (some .parameters) 25 "()"
      [ofToken (.mark "(") 25 "(", ofToken (.mark ")") 26 ")"],
    ofToken (.mark ";") 27 ";"]
  let a : Node := ofPhrase .classDeclaration none 14 "class A \x7b A(); class B \x7b \x7d \x7d" [
    ofToken (.word "class") 14 "class", ofIdentifier (some .name) 20 "A",
    ofPhrase .declarationList (some .body) 22 "\x7b A(); class B \x7b \x7d \x7d"
      [ofToken (.mark "\x7b") 22 "\x7b", constructor, b, ofToken (.mark "\x7d") 41 "\x7d"]]
  let s : Node := ofPhrase .structDeclaration none 43 "struct S \x7b class C \x7b \x7d \x7d" [
    ofToken (.word "struct") 43 "struct", ofIdentifier (some .name) 50 "S",
    ofPhrase .declarationList (some .body) 52 "\x7b class C \x7b \x7d \x7d"
      [ofToken (.mark "\x7b") 52 "\x7b", c, ofToken (.mark "\x7d") 66 "\x7d"]]
  let body : Node := ofPhrase .declarationList (some .body) 12
    "\x7b class A \x7b A(); class B \x7b \x7d \x7d struct S \x7b class C \x7b \x7d \x7d \x7d"
    [ofToken (.mark "\x7b") 12 "\x7b", a, s, ofToken (.mark "\x7d") 68 "\x7d"]
  let text := "namespace N " ++ body.text
  ofPhrase .compilationUnit none 0 text [
    ofPhrase .namespaceDeclaration none 0 text
      [ofToken (.word "namespace") 0 "namespace", ofIdentifier (some .name) 10 "N", body]]

/-- A class in a namespace and a class in that class are kept, the outer one with its constructor.
The class in a structure is not. -/
theorem outline_keeps_nested :
    nestedUnit.Conforms ∧ nestedUnit.is .compilationUnit = true ∧
      (nestedUnit.outline none).sites = nestedUnit.classPlaces.map Place.site ∧
      (nestedUnit.outline none).sites.map
          (fun site => (site.blocks, site.classes, site.node.name)) =
        [([("N", [])], [], "A"), ([("N", [])], ["A"], "B")] ∧
      ∀ place ∈ nestedUnit.classPlaces, place.node.KeepsReached := by
  have hconforms : nestedUnit.Conforms := conforms_of_checks 40 (by decide)
  have hunit : nestedUnit.is .compilationUnit = true := by decide
  obtain ⟨-, hsites, hkeeps⟩ := outline_keeps hconforms hunit none
  exact ⟨hconforms, hunit, hsites.2 (by decide), by decide, hkeeps⟩

/-- The tree of a class between the lines of a conditional directive. -/
def conditionalUnit : Node :=
  ofPhrase .compilationUnit none 0 "#if DEBUG\nclass A \x7b \x7d\n#endif\n" [
    ofPhrase .conditionalItems none 0 "#if DEBUG\nclass A \x7b \x7d\n#endif" [
      ofToken (.directive "if") 0 "#if",
      ofPhrase .condition none 4 "DEBUG" [ofIdentifier none 4 "DEBUG"],
      ofToken .lineEnd 9 "\n",
      ofPhrase .classDeclaration none 10 "class A \x7b \x7d"
        [ofToken (.word "class") 10 "class", ofIdentifier (some .name) 16 "A", emptyBody 18],
      ofToken (.directive "endif") 22 "#endif"]]

/-- The class is in no type of another sort, and the outline has no class. -/
theorem outline_loses_conditional :
    conditionalUnit.Conforms ∧ conditionalUnit.is .compilationUnit = true ∧
      conditionalUnit.classPlaces.map (fun place => (place.site.blocks, place.site.node.name)) =
        [([], "A")] ∧
      (conditionalUnit.outline none).classCount = 0 :=
  ⟨conforms_of_checks 40 (by decide), by decide, by decide, by decide⟩

end Node

end Scaffold.CSharp
