import Scaffold.CSharp.Parse
import Scaffold.Proofs.CSharp.Places

/-!
# The first fault of a tree

A source is refused with the place of the first fault of its tree. The search for it looks only into
nodes that are flawed. If a node is flawed just when there is a fault in it
(`Node.HasExactFlags`), the search leaves out nothing that counts: it gives what a search through
all nodes in document order gives (`Node.firstFault?_eq`), and a flawed tree is never refused
without a fault to show (`verdict_of_exactFlags`).

The trees of sources have such flags but for one case: where nothing but names is missing, the tree
is flawed and has no node for what is missing (`hasExactFlags_parse_iff`).
-/

namespace Scaffold.CSharp

namespace Node

variable {n m : Node}

/-! ## The nodes of a tree -/

/-- The nodes of a tree in document order: a node before its parts. -/
def nodes (n : Node) : List Node :=
  n.places.map (·.node)

theorem nodes_eq (n : Node) : n.nodes = n :: n.parts.flatMap nodes := by
  have hparts : ∀ ns : List Node, (placesAmong ns).map (·.node) = ns.flatMap nodes := by
    intro ns
    induction ns with
    | nil => rfl
    | cons m ns ih => rw [placesAmong, List.map_append, ih, List.flatMap_cons, nodes]
  rw [nodes, places_eq, List.map_cons, List.map_map, ← hparts]
  rfl

theorem mem_nodes_self (n : Node) : n ∈ n.nodes := by
  rw [nodes_eq]
  exact List.mem_cons_self

theorem mem_nodes_of_mem_parts (hm : m ∈ n.parts) {k : Node} (hk : k ∈ m.nodes) : k ∈ n.nodes := by
  rw [nodes_eq]
  exact List.mem_cons_of_mem n (List.mem_flatMap_of_mem hm hk)

/-- There is a fault in the tree. -/
def HasFault (n : Node) : Prop :=
  ∃ fault ∈ n.nodes, fault.isFault = true

instance (n : Node) : Decidable n.HasFault :=
  inferInstanceAs (Decidable (∃ fault ∈ n.nodes, fault.isFault = true))

/-- In the tree, those nodes are flawed that have a fault in them. -/
def HasExactFlags (n : Node) : Prop :=
  ∀ m ∈ n.nodes, m.isFlawed = true ↔ m.HasFault

instance (n : Node) : Decidable n.HasExactFlags :=
  inferInstanceAs (Decidable (∀ m ∈ n.nodes, m.isFlawed = true ↔ m.HasFault))

theorem HasExactFlags.of_mem (h : n.HasExactFlags) (hm : m ∈ n.parts) : m.HasExactFlags :=
  fun k hk => h k (mem_nodes_of_mem_parts hm hk)

theorem HasExactFlags.isFlawed_iff (h : n.HasExactFlags) : n.isFlawed = true ↔ n.HasFault :=
  h n n.mem_nodes_self

theorem find?_isFault_eq_none_iff : n.nodes.find? isFault = none ↔ ¬n.HasFault := by
  simp [HasFault]

/-! ## The search -/

theorem firstFault?_eq_ite (n : Node) :
    n.firstFault? =
      if n.isFault then some n else if n.isFlawed then firstFaultAmong? n.parts else none := by
  obtain ⟨kind, role, start, text, isFlawed, parts⟩ := n
  rw [firstFault?]

mutual

/-- The search gives what a search through all nodes gives: in what is left out there is no
fault. -/
theorem firstFault?_eq : ∀ {n : Node}, n.HasExactFlags → n.firstFault? = n.nodes.find? isFault
  | ⟨kind, role, start, text, isFlawed, parts⟩, h => by
    have hparts : firstFaultAmong? parts = (parts.flatMap nodes).find? isFault :=
      firstFaultAmong?_eq fun m hm => h.of_mem hm
    generalize hn : (⟨kind, role, start, text, isFlawed, parts⟩ : Node) = n at h
    obtain rfl : n.parts = parts := by rw [← hn]
    rw [firstFault?_eq_ite, nodes_eq, List.find?_cons]
    by_cases hfault : n.isFault = true
    · rw [if_pos hfault, hfault]
    rw [if_neg hfault, Bool.eq_false_iff.2 hfault]
    by_cases hflawed : n.isFlawed = true
    · rw [if_pos hflawed, hparts]
    · -- The parts are not looked into, and there is no fault in them.
      rw [if_neg hflawed]
      have hnone := find?_isFault_eq_none_iff.2 fun hhas => hflawed (h.isFlawed_iff.2 hhas)
      rw [nodes_eq, List.find?_cons, Bool.eq_false_iff.2 hfault] at hnone
      exact hnone.symm

theorem firstFaultAmong?_eq : ∀ {ns : List Node}, (∀ n ∈ ns, n.HasExactFlags) →
    firstFaultAmong? ns = (ns.flatMap nodes).find? isFault
  | [], _ => rfl
  | n :: ns, h => by
    obtain ⟨hn, hns⟩ := List.forall_mem_cons.1 h
    rw [firstFaultAmong?, firstFault?_eq hn, firstFaultAmong?_eq hns, List.flatMap_cons,
      List.find?_append]

end

/-! ## What is said of a tree -/

/-- What is said of a source that is read into the tree: its outline, or where its first fault
is. -/
def verdict (tree : Node) (text : String) (path : Option Path) : Except Fault SourceUnit :=
  if tree.isFlawed then
    let fault := tree.firstFault?
    let (line, column) := (fault.map fun n => lineAndColumn text.toList n.start).getD (1, 1)
    .error (.parse (path.getD anonymousPath) line column (faultText fault))
  else .ok (tree.outline path)

/-- The message on a fault is not the one that is kept for trees without faults. -/
theorem faultText_ne (fault : Node) : faultText (some fault) ≠ faultText none := by
  have hfirst : (faultText (some fault)).toList.head? ≠ (faultText none).toList.head? := by
    obtain ⟨kind, -, -, text, -, -⟩ := fault
    cases kind with
    | missing t => simp [faultText]
    | _ => simp [faultText]
  exact fun h => hfirst (congrArg (·.toList.head?) h)

theorem HasExactFlags.verdict_of_some (h : n.HasExactFlags) {fault : Node}
    (hfault : n.nodes.find? isFault = some fault) (text : String) (path : Option Path) :
    n.verdict text path =
      .error (.parse (path.getD anonymousPath) (lineAndColumn text.toList fault.start).1
        (lineAndColumn text.toList fault.start).2 (faultText (some fault))) := by
  have hflawed : n.isFlawed = true :=
    h.isFlawed_iff.2 ⟨fault, List.mem_of_find?_eq_some hfault, List.find?_some hfault⟩
  rw [verdict, if_pos hflawed, firstFault?_eq h, hfault]
  rfl

theorem HasExactFlags.verdict_of_none (h : n.HasExactFlags) (hnone : n.nodes.find? isFault = none)
    (text : String) (path : Option Path) : n.verdict text path = .ok (n.outline path) := by
  have hsound : ¬n.isFlawed = true :=
    fun hflawed => find?_isFault_eq_none_iff.1 hnone (h.isFlawed_iff.1 hflawed)
  rw [verdict, if_neg hsound]

end Node

open Node

theorem outline_eq_verdict (text : String) (path : Option Path) :
    outline text path = (parse text).verdict text path := rfl

/-- The outline of a source is what is said of its tree. In a tree whose flawed nodes are those with
a fault in them, the search finds what a search through all nodes in document order finds, and it
finds nothing just when the tree is not flawed. So a source that is read into such a tree is refused
with the place and the text of the first fault, or outlined if there is none, and never refused
without a fault. -/
theorem verdict_of_exactFlags {tree : Node} (h : tree.HasExactFlags) :
    tree.firstFault? = tree.nodes.find? isFault ∧
      (tree.firstFault? = none ↔ tree.isFlawed = false) ∧
      (∀ text path, outline text path = (parse text).verdict text path) ∧
      ∀ text path,
        (∀ fault, tree.nodes.find? isFault = some fault → tree.verdict text path =
          .error (.parse (path.getD anonymousPath) (lineAndColumn text.toList fault.start).1
            (lineAndColumn text.toList fault.start).2 (faultText (some fault)))) ∧
        (tree.nodes.find? isFault = none → tree.verdict text path = .ok (tree.outline path)) ∧
        ∀ file line column,
          tree.verdict text path ≠ .error (.parse file line column (faultText none)) := by
  have hsearch := firstFault?_eq h
  have hnone : tree.firstFault? = none ↔ tree.isFlawed = false := by
    rw [hsearch, find?_isFault_eq_none_iff, ← h.isFlawed_iff, Bool.not_eq_true]
  refine ⟨hsearch, hnone, outline_eq_verdict, fun text path => ⟨?_, ?_, ?_⟩⟩
  · exact fun _ hfault => h.verdict_of_some hfault text path
  · exact fun hclean => h.verdict_of_none hclean text path
  · intro file line column hverdict
    cases hfault : tree.nodes.find? isFault with
    | none =>
      rw [h.verdict_of_none hfault] at hverdict
      exact absurd hverdict (by simp)
    | some fault =>
      rw [h.verdict_of_some hfault, Except.error.injEq, Fault.parse.injEq] at hverdict
      exact faultText_ne fault hverdict.2.2.2

/-- A text that cannot be read. -/
def unreadMark : Node :=
  ⟨.unread, none, 22, "=", true, []⟩

/-- A tree of a class without faults and a class with two of them, in different depths. -/
def twoFaultsTree : Node :=
  let token (text : String) (start : Nat) : Node :=
    ⟨.token (.mark text), none, start, text, false, []⟩
  let word (start : Nat) : Node := ⟨.token (.word "class"), none, start, "class", false, []⟩
  let name (start : Nat) (text : String) : Node :=
    ⟨.phrase .identifier, some .name, start, text, false,
      [⟨.token .identifier, none, start, text, false, []⟩]⟩
  let field : Node := ⟨.phrase .fieldDeclaration, none, 24, "int f", true, [
    ⟨.phrase .variableDeclaration, none, 24, "int f", false, []⟩,
    ⟨.missing (.mark ";"), none, 29, "", true, []⟩]⟩
  ⟨.phrase .compilationUnit, none, 0, "class A \x7b \x7d\nclass B \x7b = int f \x7d", true, [
    ⟨.phrase .classDeclaration, none, 0, "class A \x7b \x7d", false, [
      word 0, name 6 "A", ⟨.phrase .declarationList, some .body, 8, "\x7b \x7d", false,
        [token "\x7b" 8, token "\x7d" 10]⟩]⟩,
    ⟨.phrase .classDeclaration, none, 12, "class B \x7b = int f \x7d", true, [
      word 12, name 18 "B", ⟨.phrase .declarationList, some .body, 20, "\x7b = int f \x7d", true,
        [token "\x7b" 20, unreadMark, field, token "\x7d" 30]⟩]⟩]⟩

/-- The fault on the second line is shown, though the class before it is not looked into. -/
theorem verdict_of_exactFlags_twoFaults :
    twoFaultsTree.HasExactFlags ∧ twoFaultsTree.firstFault? = some unreadMark ∧
      twoFaultsTree.verdict "class A \x7b \x7d\nclass B \x7b = int f \x7d" none =
        .error (.parse anonymousPath 2 11 "unexpected `=`") := by
  have hflags : twoFaultsTree.HasExactFlags := by decide
  have hfirst : twoFaultsTree.nodes.find? isFault = some unreadMark := rfl
  obtain ⟨hsearch, -, -, hverdict⟩ := verdict_of_exactFlags hflags
  obtain ⟨hrefused, -, -⟩ := hverdict "class A \x7b \x7d\nclass B \x7b = int f \x7d" none
  exact ⟨hflags, hsearch.trans hfirst, hrefused unreadMark hfirst⟩

/-- A flawed tree without faults is refused without a place. -/
example :
    let text := "namespace N \x7b class \x7b \x7d \x7d"
    verdict ⟨.phrase .compilationUnit, none, 0, text, true, []⟩ text none =
      .error (.parse anonymousPath 1 1 "syntax error") := rfl

/-! ## The trees of sources -/

namespace Node

variable {n m : Node}

/-- Nothing in the tree is flawed, and nothing is a fault. -/
inductive IsClean : Node → Prop
  | intro {n : Node} (notFlawed : n.isFlawed = false) (noFault : n.isFault = false)
      (parts : ∀ m ∈ n.parts, m.IsClean) : n.IsClean

/-- The node is a fault without parts. -/
structure IsBareFault (n : Node) : Prop where
  isFault : n.isFault = true
  isFlawed : n.isFlawed = true
  parts : n.parts = []

theorem hasExactFlags_iff : n.HasExactFlags ↔
    (n.isFlawed = true ↔ n.HasFault) ∧ ∀ m ∈ n.parts, m.HasExactFlags := by
  unfold HasExactFlags
  rw [nodes_eq, List.forall_mem_cons]
  refine and_congr_right fun _ => ⟨fun h m hm k hk => ?_, fun h k hk => ?_⟩
  · exact h k (List.mem_flatMap_of_mem hm hk)
  · obtain ⟨m, hm, hk⟩ := List.mem_flatMap.1 hk
    exact h m hm k hk

theorem hasFault_iff : n.HasFault ↔ n.isFault = true ∨ ∃ m ∈ n.parts, m.HasFault := by
  constructor
  · rintro ⟨fault, hmem, hfault⟩
    rw [nodes_eq] at hmem
    rcases List.mem_cons.1 hmem with rfl | hmem
    · exact .inl hfault
    · obtain ⟨m, hm, hmem⟩ := List.mem_flatMap.1 hmem
      exact .inr ⟨m, hm, fault, hmem, hfault⟩
  · rintro (hfault | ⟨m, hm, fault, hmem, hfault⟩)
    · exact ⟨n, n.mem_nodes_self, hfault⟩
    · exact ⟨fault, mem_nodes_of_mem_parts hm hmem, hfault⟩

theorem IsClean.not_hasFault (h : n.IsClean) : ¬n.HasFault := by
  induction h with
  | intro notFlawed noFault parts ih =>
    rw [hasFault_iff]
    rintro (hfault | ⟨m, hm, hfault⟩)
    · exact absurd hfault (by simp [noFault])
    · exact ih m hm hfault

theorem IsClean.notFlawed (h : n.IsClean) : n.isFlawed = false := by
  obtain ⟨notFlawed, -, -⟩ := h
  exact notFlawed

theorem IsClean.hasExactFlags (h : n.IsClean) : n.HasExactFlags := by
  induction h with
  | intro notFlawed noFault parts ih =>
    have hclean := IsClean.intro notFlawed noFault parts
    exact hasExactFlags_iff.2 ⟨by simp [notFlawed, hclean.not_hasFault], ih⟩

theorem IsBareFault.hasFault (h : n.IsBareFault) : n.HasFault :=
  hasFault_iff.2 (.inl h.isFault)

theorem IsBareFault.hasExactFlags (h : n.IsBareFault) : n.HasExactFlags := by
  refine hasExactFlags_iff.2 ⟨by simp [h.isFlawed, h.hasFault], fun m hm => ?_⟩
  rw [h.parts] at hm
  exact absurd hm List.not_mem_nil

/-- A node without parts that is neither a phrase nor a fault. -/
theorem isClean_of_leaf {kind : Kind} (h : kind ≠ .unread ∧ ∀ t, kind ≠ .missing t)
    (role : Option Role) (start : Nat) (text : String) :
    IsClean ⟨kind, role, start, text, false, []⟩ := by
  refine .intro rfl ?_ fun m hm => absurd hm List.not_mem_nil
  cases kind with
  | unread => exact absurd rfl h.1
  | missing t => exact absurd rfl (h.2 t)
  | _ => rfl

end Node

section Reading

variable {s : Source} {spans later : List Span}

theorem Source.isClean_of_mem_trivia {place : Nat} : ∀ n ∈ s.trivia place, n.IsClean := by
  intro n hn
  obtain ⟨⟨t, skipped, length⟩, -, rfl⟩ := List.mem_map.1 hn
  exact isClean_of_leaf (by cases t <;> simp [Trivia.kind]) _ _ _

/-- All nodes of the spans are clean. -/
def Span.AreClean (spans : List Span) : Prop :=
  ∀ span ∈ spans, span.node.IsClean

namespace Span

theorem AreClean.interleave (h : AreClean spans) : ∀ n ∈ Span.interleave s spans, n.IsClean := by
  induction spans with
  | nil => exact fun n hn => absurd hn List.not_mem_nil
  | cons a spans ih =>
    obtain ⟨ha, hspans⟩ := List.forall_mem_cons.1 h
    cases spans with
    | nil => exact List.forall_mem_singleton.2 ha
    | cons b rest =>
      refine List.forall_mem_append.2 ⟨List.forall_mem_cons.2 ⟨ha, fun n hn => ?_⟩, ih hspans⟩
      have hgap := (List.mem_filter.1 hn).1
      split at hgap
      · exact Source.isClean_of_mem_trivia n hgap
      · exact absurd hgap List.not_mem_nil

theorem AreClean.ofParts (h : AreClean spans) (p : Phrase) :
    (Span.ofParts s p spans).node.IsClean := by
  have hparts : ∀ n ∈ Span.interleave s spans, n.IsClean := h.interleave
  refine .intro (List.any_eq_false.2 fun n hn => ?_) rfl hparts
  simp [(hparts n hn).notFlawed]

theorem isClean_play {span : Span} (h : span.node.IsClean) (role : Option Role) :
    (span.play role).node.IsClean := by
  rw [play]
  split
  · obtain ⟨notFlawed, noFault, parts⟩ := h
    exact .intro notFlawed noFault parts
  · exact h

end Span

namespace Chart

theorem areClean_parts (net : Network) (chart : Chart) (fuel column i : Nat)
    (h : Span.AreClean later) : Span.AreClean (chart.parts net s fuel column i later) := by
  induction fuel generalizing column i later with
  | zero => exact h
  | succ fuel ih =>
    simp only [parts]
    split
    · exact h
    · refine ih _ _ (List.forall_mem_append.2 ⟨List.forall_mem_map.2 fun span hspan => ?_, h⟩)
      refine Span.isClean_play ?_ _
      split at hspan
      · rw [List.mem_singleton.1 hspan]
        exact isClean_of_leaf (by simp) _ _ _
      · have hinner : ∀ column j, Span.AreClean (chart.parts net s fuel column j []) :=
          fun column j => ih column j fun _ hnil => absurd hnil List.not_mem_nil
        split at hspan
        · exact hinner _ _ span hspan
        · rw [List.mem_singleton.1 hspan]
          exact (hinner _ _).ofParts _

theorem isClean_of_mem_tree? {net : Network} {chart : Chart} {tree : Node}
    (h : tree ∈ chart.tree? net s) : tree.IsClean := by
  simp only [tree?, Option.mem_def] at h
  split at h
  · obtain ⟨i, -, rfl⟩ := Option.map_eq_some_iff.1 h
    have hspans : ∀ column, Span.AreClean (chart.parts net s (chart.entryCount + 1) column i []) :=
      fun column => areClean_parts net chart _ column i fun _ hnil => absurd hnil List.not_mem_nil
    refine .intro rfl rfl (List.forall_mem_append.2 ⟨List.forall_mem_append.2 ⟨fun n hn => ?_, ?_⟩,
      Source.isClean_of_mem_trivia⟩)
    · split at hn
      · exact absurd hn List.not_mem_nil
      · exact Source.isClean_of_mem_trivia n hn
    · exact (hspans _).interleave
  · exact absurd h (by simp)

end Chart

namespace Repair

/-- The node that shows the fault of the repair, if there is one, is a fault without parts. -/
def IsShown (r : Repair) : Prop :=
  ∀ fault ∈ r.fault, fault.IsBareFault

theorem isShown_takeOut (start stop parts : Nat) : (takeOut s start stop parts).IsShown := by
  rintro _ ⟨⟩
  exact ⟨rfl, rfl, rfl⟩

theorem isShown_putIn (place : Nat) (t : Token) : (putIn s place t).IsShown := by
  intro fault hfault
  simp only [putIn, Option.mem_def] at hfault
  split at hfault
  · exact absurd hfault (by simp)
  · obtain rfl := Option.some.inj hfault
    exact ⟨rfl, rfl, rfl⟩

variable {net : Network}

theorem isShown_of_mem_candidates {chart : Chart} : ∀ r ∈ candidates net s chart, r.IsShown := by
  intro r hr
  rcases List.mem_append.1 (List.mem_mergeSort.1 hr) with hr | hr
  · obtain ⟨place, -, hr⟩ := List.mem_flatMap.1 hr
    split at hr
    · exact absurd hr List.not_mem_nil
    · obtain ⟨stretch, -, rfl⟩ := List.mem_map.1 hr
      exact isShown_takeOut _ _ _
  · simp only [insertions] at hr
    split at hr
    · exact absurd hr List.not_mem_nil
    · obtain ⟨t, -, rfl⟩ := List.mem_map.1 hr
      exact isShown_putIn _ t

/-- The repairs that are found, if there are such, are shown by bare faults. -/
def AreShown (found : Option (Nat × List Repair)) : Prop :=
  ∀ best ∈ found, ∀ r ∈ best.2, r.IsShown

theorem areShown_cheapest (repairs limit : Nat) (cs : List Char) :
    AreShown (cheapest net repairs limit cs) := by
  have hnothing : AreShown (some (0, [])) := by
    rintro best ⟨⟩ r hr
    exact absurd hr List.not_mem_nil
  have hnone : AreShown none := fun best hbest => absurd hbest (by simp)
  induction repairs generalizing limit cs with
  | zero =>
    unfold cheapest
    dsimp only
    split
    · exact hnothing
    · exact hnone
  | succ repairs ih =>
    unfold cheapest
    dsimp only
    split
    · exact hnothing
    · -- What is known stays, or a candidate is taken with what is found behind it.
      refine List.foldlRecOn (motive := AreShown) _ _ hnone fun known hknown r hr => ?_
      split
      · exact hknown
      · split
        · rename_i price more hmore
          split
          · rintro best ⟨⟩
            exact List.forall_mem_cons.2 ⟨isShown_of_mem_candidates r hr, ih _ _ _ hmore⟩
          · exact hknown
        · exact hknown

theorem isBareFault_of_mem_faults : ∀ n ∈ faults net s, n.IsBareFault := by
  intro n hn
  simp only [faults] at hn
  split at hn
  · rw [List.mem_singleton.1 hn]
    exact ⟨rfl, rfl, rfl⟩
  · split at hn
    · rename_i price repairs hbest
      obtain ⟨r, hr, hfault⟩ := List.mem_filterMap.1 (List.mem_mergeSort.1 hn)
      exact areShown_cheapest _ _ _ _ hbest r hr n hfault
    · rw [List.mem_singleton.1 hn]
      exact ⟨rfl, rfl, rfl⟩

end Repair

end Reading

/-- A source has a tree without faults, or one that shows its faults. -/
theorem parse_cases (text : String) :
    (parse text).IsClean ∨ parse text = flawedTree (Source.ofCharacters text.toList) := by
  unfold parse
  dsimp only
  cases htree : (Chart.ofSource network (Source.ofCharacters text.toList).characters).tree? network
      (Source.ofCharacters text.toList) with
  | some tree => exact .inl (Chart.isClean_of_mem_tree? htree)
  | none => exact .inr rfl

/-- In the tree of a source, flawed nodes are those with a fault in them, unless the tree is flawed
and has no parts: then nothing but names is missing in the source. -/
theorem hasExactFlags_parse_iff (text : String) : (parse text).HasExactFlags ↔
    ((parse text).isFlawed = true → (parse text).parts ≠ []) := by
  rcases parse_cases text with hclean | hparse
  · exact iff_of_true hclean.hasExactFlags (by simp [hclean.notFlawed])
  · rw [hparse]
    generalize Source.ofCharacters text.toList = s
    have hfaults : ∀ n ∈ (flawedTree s).parts, n.IsBareFault := Repair.isBareFault_of_mem_faults
    have hhas : (flawedTree s).HasFault ↔ (flawedTree s).parts ≠ [] := by
      rw [hasFault_iff]
      constructor
      · rintro (hfault | ⟨m, hm, -⟩)
        · exact absurd hfault (by simp [flawedTree, isFault])
        · exact List.ne_nil_of_mem hm
      · intro hne
        obtain ⟨m, hm⟩ := List.exists_mem_of_ne_nil _ hne
        exact .inr ⟨m, hm, (hfaults m hm).hasFault⟩
    have hflawed : (flawedTree s).isFlawed = true := rfl
    rw [hasExactFlags_iff, hhas, and_iff_left fun m hm => (hfaults m hm).hasExactFlags]
    simp [hflawed]

end Scaffold.CSharp
