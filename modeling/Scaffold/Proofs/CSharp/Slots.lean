import Scaffold.CSharp.Outline
import Scaffold.Proofs.CSharp.Conformance
import Scaffold.Proofs.Text.Lines

/-!
# The slots of a parameter list

A parameter list has slots between its commas. A slot is a parameter node, or the attribute lists,
the keyword, the type and the name of a parameter that takes all further arguments, which stand in
the list itself. The outline takes just one parameter from each slot, in order, wherever there are
comments among the nodes of the list (`Node.parameters_perSlot`). So it is for every list that is
made as the grammar says and has no directives in it (`Node.Conforms.exists_slots`).

`Node.declaredAmong` is what the outline takes from some nodes of a list. A mark splits it, and
comments do not change it; with that it is enough to look at a single slot.
-/

namespace Scaffold.CSharp

open Text

namespace Node

/-- The node is neither a mark that separates slots, nor an attribute list or a comment, nor a
parameter node. -/
def IsOrdinary (n : Node) : Prop :=
  n.isSlotMark = false ∧ n.isAside = false ∧ n.isParameter = false

instance (n : Node) : Decidable n.IsOrdinary :=
  inferInstanceAs
    (Decidable (n.isSlotMark = false ∧ n.isAside = false ∧ n.isParameter = false))

/-- Whether a node is a comment. -/
def isComment (n : Node) : Bool :=
  n.kind = .comment

end Node

/-- A parameter that takes all further arguments, in the parts that it has in a list. -/
structure VariadicSlot where
  attributes : List Node
  keyword : Node
  type : Node
  name : Node
  areAttributes : ∀ a ∈ attributes, a.is .attributeList = true
  isKeyword : keyword.kind = .token (.word "params")
  isWritten : keyword.text = "params"
  isType : type.IsOrdinary
  isName : name.IsOrdinary

/-- A slot of a parameter list. -/
inductive Slot where
  | single (parameter : Node) (isParameter : parameter.isParameter = true)
  | variadic (parts : VariadicSlot)

namespace Slot

/-- The nodes of a slot. -/
def nodes : Slot → List Node
  | single parameter _ => [parameter]
  | variadic parts => parts.attributes ++ [parts.keyword, parts.type, parts.name]

/-- The parameter in a slot. -/
def parameter : Slot → Parameter
  | single parameter _ =>
    ⟨parameter.partText .name, compact (parameter.partText .type), parameter.passing⟩
  | variadic parts => ⟨parts.name.text, compact parts.type.text, .variadic⟩

/-- The nodes are those of the slots, with a comma between two slots. -/
inductive Separated : List Slot → List Node → Prop
  | last (slot : Slot) : Separated [slot] slot.nodes
  | next (slot : Slot) {comma : Node} {slots : List Slot} {ns : List Node}
      (isComma : comma.isMark "," = true) (rest : Separated slots ns) :
      Separated (slot :: slots) (slot.nodes ++ comma :: ns)

end Slot

namespace Node

/-- But for comments, the parts of the list are a parenthesis, the slots with commas between them,
and a parenthesis. -/
def Lists (list : Node) (slots : List Slot) : Prop :=
  ∃ opening inner closing, list.parts.filter (!·.isComment) = opening :: inner ++ [closing] ∧
    opening.isMark "(" = true ∧ closing.isMark ")" = true ∧
    (slots = [] ∧ inner = [] ∨ Slot.Separated slots inner)

/-- The parameters that the outline takes from nodes of a parameter list. -/
def declaredAmong (ns : List Node) : List Parameter :=
  (groups isSlotMark ns).filterMap slotParameter?

/-! ## Groups of nodes -/

section Groups

variable {p keeps : Node → Bool} {m : Node}

/-- The groups are the lists that the library splits a list into. -/
theorem groups_eq_splitOnP (p : Node → Bool) (ns : List Node) : groups p ns = ns.splitOnP p :=
  eq_splitOnP rfl (fun n ns hn => by rw [groups, if_pos hn])
    (fun n ns g gs hn hns => by rw [groups, if_neg hn, hns]) ns

/-- A separator stands between the groups before it and the groups behind it. -/
theorem groups_append (hm : p m = true) (xs ys : List Node) :
    groups p (xs ++ m :: ys) = groups p xs ++ groups p ys := by
  simp only [groups_eq_splitOnP]
  exact List.splitOnP_append_cons xs ys hm

/-- Nodes without a separator are one group. -/
theorem groups_of_forall {ns : List Node} (h : ∀ n ∈ ns, p n = false) : groups p ns = [ns] := by
  rw [groups_eq_splitOnP, List.splitOnP_eq_singleton h]

/-- To leave out nodes that do not separate is to leave them out of each group. -/
theorem groups_filter (hkeeps : ∀ n, p n = true → keeps n = true) (ns : List Node) :
    groups p (ns.filter keeps) = (groups p ns).map (·.filter keeps) := by
  -- A node that separates is kept, so it splits both lists; any other goes into the first group or
  -- out of it.
  induction ns with
  | nil => rfl
  | cons n ns ih =>
    by_cases hn : p n = true
    · have hkept : keeps n = true := hkeeps n hn
      have hleft : groups p (n :: ns) = [] :: groups p ns := by rw [groups, if_pos hn]
      rw [hleft, List.filter_cons_of_pos hkept, groups, if_pos hn, ih]
      rfl
    · obtain ⟨g, gs, hgroups⟩ : ∃ g gs, groups p ns = g :: gs :=
        List.exists_cons_of_ne_nil (groups_eq_splitOnP p ns ▸ List.splitOnP_ne_nil p ns)
      have hleft : groups p (n :: ns) = (n :: g) :: gs := by rw [groups, if_neg hn, hgroups]
      have hfilter : groups p (ns.filter keeps) = g.filter keeps :: gs.map (·.filter keeps) := by
        rw [ih, hgroups, List.map_cons]
      rw [hleft, List.map_cons]
      by_cases hkept : keeps n = true
      · rw [List.filter_cons_of_pos hkept, List.filter_cons_of_pos hkept, groups, if_neg hn,
          hfilter]
      · rw [List.filter_cons_of_neg hkept, List.filter_cons_of_neg hkept, hfilter]

end Groups

/-! ## What the outline takes from nodes of a list -/

variable {n m : Node}

theorem declaredAmong_append (hm : m.isSlotMark = true) (xs ys : List Node) :
    declaredAmong (xs ++ m :: ys) = declaredAmong xs ++ declaredAmong ys := by
  unfold declaredAmong
  rw [groups_append hm, List.filterMap_append]

theorem declaredAmong_nil : declaredAmong [] = [] := rfl

theorem isComment_eq_false_of_isSlotMark (h : n.isSlotMark = true) : n.isComment = false := by
  refine Bool.eq_false_iff.2 fun hcomment => ?_
  have hkind : n.kind = .comment := of_decide_eq_true hcomment
  simp [isSlotMark, isMark, hkind] at h

/-- Comments in a slot do not change its parameter. -/
theorem slotParameter?_filter (slot : List Node) :
    slotParameter? (slot.filter (!·.isComment)) = slotParameter? slot := by
  have hparameter (n : Node) :
      decide ((!n.isComment) = true ∧ n.isParameter = true) = n.isParameter := by
    by_cases h : n.kind = .comment
    · simp [isParameter, Node.is, h]
    · simp [isComment, h]
  have haside (n : Node) : (!n.isAside && !n.isComment) = !n.isAside := by
    by_cases h : n.kind = .comment
    · simp [isAside, h]
    · simp [isComment, h]
  have hfind : (slot.filter (!·.isComment)).find? isParameter = slot.find? isParameter := by
    rw [List.find?_filter]
    exact congrArg (slot.find? ·) (funext hparameter)
  have hfilter : (slot.filter (!·.isComment)).filter (!·.isAside) = slot.filter (!·.isAside) := by
    rw [List.filter_filter]
    exact congrArg (slot.filter ·) (funext haside)
  unfold slotParameter?
  rw [hfind, hfilter]

/-- Comments do not change what the outline takes. -/
theorem declaredAmong_filter (ns : List Node) :
    declaredAmong (ns.filter (!·.isComment)) = declaredAmong ns := by
  have hkeeps : ∀ n : Node, n.isSlotMark = true → (!n.isComment) = true := fun n hn => by
    rw [isComment_eq_false_of_isSlotMark hn, Bool.not_false]
  unfold declaredAmong
  rw [groups_filter hkeeps, List.filterMap_map]
  exact congrArg (List.filterMap · _) (funext slotParameter?_filter)

/-! ## Slots -/

theorem isSlotMark_of_phrase {p : Phrase} (h : n.kind = .phrase p) : n.isSlotMark = false := by
  simp [isSlotMark, isMark, h]

theorem isSlotMark_of_is {p : Phrase} (h : n.is p = true) : n.isSlotMark = false :=
  isSlotMark_of_phrase (of_decide_eq_true h)

theorem isSlotMark_of_isParameter (h : n.isParameter = true) : n.isSlotMark = false := by
  rw [isParameter, Bool.or_eq_true] at h
  exact h.elim isSlotMark_of_is isSlotMark_of_is

theorem IsOrdinary.of_word {text : String} (h : n.kind = .token (.word text)) : n.IsOrdinary := by
  refine ⟨?_, ?_, ?_⟩
  · simp [isSlotMark, isMark, h]
  · simp [isAside, Node.is, h]
  · simp [isParameter, Node.is, h]

theorem IsOrdinary.of_phrase {p : Phrase} (h : n.kind = .phrase p) (hlist : p ≠ .attributeList)
    (hparameter : p ≠ .parameter ∧ p ≠ .variadicParameter) : n.IsOrdinary := by
  refine ⟨isSlotMark_of_phrase h, ?_, ?_⟩
  · simp [isAside, Node.is, h, hlist]
  · simp [isParameter, Node.is, h, hparameter]

end Node

namespace Slot

open Node

/-- There is no mark in a slot. -/
theorem isSlotMark_of_mem_nodes (slot : Slot) : ∀ n ∈ slot.nodes, n.isSlotMark = false := by
  cases slot with
  | single parameter isParameter =>
    exact List.forall_mem_singleton.2 (isSlotMark_of_isParameter isParameter)
  | variadic parts =>
    have hkeyword : parts.keyword.IsOrdinary := .of_word parts.isKeyword
    refine List.forall_mem_append.2 ⟨fun a ha => isSlotMark_of_is (parts.areAttributes a ha), ?_⟩
    simp [hkeyword.1, parts.isType.1, parts.isName.1]

/-- The nodes of a slot have its parameter. -/
theorem slotParameter?_nodes (slot : Slot) : slotParameter? slot.nodes = some slot.parameter := by
  cases slot with
  | single parameter isParameter =>
    have hfind : (single parameter isParameter).nodes.find? Node.isParameter = some parameter :=
      List.find?_cons_of_pos isParameter
    unfold slotParameter?
    rw [hfind]
    rfl
  | variadic parts =>
    obtain ⟨attributes, keyword, type, name, areAttributes, isKeyword, isWritten, isType, isName⟩ :=
      parts
    have hkeyword : keyword.IsOrdinary := .of_word isKeyword
    -- No part is a parameter node, so the slot is read by its keyword.
    have hattribute (a : Node) (ha : a ∈ attributes) : a.isParameter = false ∧
        a.isAside = true := by
      have hkind : a.kind = .phrase .attributeList := of_decide_eq_true (areAttributes a ha)
      exact ⟨by simp [isParameter, Node.is, hkind], by simp [isAside, Node.is, hkind]⟩
    have hfind : (attributes ++ [keyword, type, name]).find? Node.isParameter = none := by
      rw [List.find?_eq_none]
      refine List.forall_mem_append.2 ⟨fun a ha => by simp [(hattribute a ha).1], ?_⟩
      simp [hkeyword.2.2, isType.2.2, isName.2.2]
    have hfilter : (attributes ++ [keyword, type, name]).filter (!·.isAside) =
        [keyword, type, name] := by
      have hnone : attributes.filter (!·.isAside) = [] :=
        List.filter_eq_nil_iff.2 fun a ha => by simp [(hattribute a ha).2]
      rw [List.filter_append, hnone, List.nil_append, List.filter_eq_self]
      simp [hkeyword.2.1, isType.2.1, isName.2.1]
    show slotParameter? (attributes ++ [keyword, type, name]) = _
    unfold slotParameter?
    rw [hfind, hfilter]
    show (if keyword.text = "params" then _ else _) = _
    rw [if_pos isWritten]
    rfl

theorem declaredAmong_nodes (slot : Slot) : declaredAmong slot.nodes = [slot.parameter] := by
  unfold declaredAmong
  rw [groups_of_forall slot.isSlotMark_of_mem_nodes, List.filterMap_cons_some
    slot.slotParameter?_nodes, List.filterMap_nil]

/-- From slots with commas between them the outline takes one parameter each. -/
theorem Separated.declaredAmong_eq {slots : List Slot} {ns : List Node} (h : Separated slots ns) :
    declaredAmong ns = slots.map parameter := by
  induction h with
  | last slot => exact slot.declaredAmong_nodes
  | @next slot comma slots ns isComma rest ih =>
    have hmark : comma.isSlotMark = true := by simp [isSlotMark, isComma]
    rw [declaredAmong_append hmark, slot.declaredAmong_nodes, ih]
    rfl

end Slot

namespace Node

variable {n list : Node} {slots : List Slot}

theorem Lists.listParameters_eq (h : list.Lists slots) :
    list.listParameters = slots.map Slot.parameter := by
  -- Before the opening and behind the closing parenthesis there is an empty group each.
  obtain ⟨opening, inner, closing, hparts, hopening, hclosing, hslots⟩ := h
  have hopen : opening.isSlotMark = true := by simp [isSlotMark, hopening]
  have hclose : closing.isSlotMark = true := by simp [isSlotMark, hclosing]
  have hinner : declaredAmong inner = slots.map Slot.parameter := by
    rcases hslots with ⟨rfl, rfl⟩ | hseparated
    · rfl
    · exact hseparated.declaredAmong_eq
  calc list.listParameters
      = declaredAmong (list.parts.filter (!·.isComment)) := (declaredAmong_filter list.parts).symm
    _ = declaredAmong ([] ++ opening :: (inner ++ closing :: [])) := by rw [hparts]; rfl
    _ = declaredAmong inner := by
      rw [declaredAmong_append hopen, declaredAmong_append hclose, declaredAmong_nil,
        List.nil_append, List.append_nil]
    _ = slots.map Slot.parameter := hinner

/-- A declaration has one parameter for each slot of its parameter list, in order: with the name and
the compacted type in the slot, and one that takes all further arguments where the slot has the
keyword for that. Comments may stand anywhere in the list; a list without slots has no
parameters. -/
theorem parameters_perSlot (hlist : n.part? .parameters = some list) (h : list.Lists slots) :
    n.parameters = slots.map Slot.parameter := by
  unfold parameters
  rw [hlist]
  exact h.listParameters_eq

/-- The tree of a parameter `int first`. -/
def firstInteger : Node :=
  ofPhrase .parameter none 2 "int first" [
    ofPhrase .predefinedType (some .type) 2 "int" [ofToken (.word "int") 2 "int"],
    ofIdentifier (some .name) 6 "first"]

/-- The parts of `[A] params int[] xs` in a list. -/
def furtherIntegers : VariadicSlot where
  attributes := [
    ofPhrase .attributeList none 23 "[A]" [
      ofToken (.mark "[") 23 "[",
      ofPhrase .attributeUse none 24 "A" [ofIdentifier (some .name) 24 "A"],
      ofToken (.mark "]") 25 "]"]]
  keyword := ofToken (.word "params") 27 "params"
  type := ofPhrase .arrayType (some .type) 44 "int[]" [
    ofPhrase .predefinedType none 44 "int" [ofToken (.word "int") 44 "int"],
    ofPhrase .arrayRank none 47 "[]" [ofToken (.mark "[") 47 "[", ofToken (.mark "]") 48 "]"]]
  name := ofIdentifier (some .name) 50 "xs"
  areAttributes := by decide
  isKeyword := rfl
  isWritten := rfl
  isType := by decide
  isName := by decide

/-- The tree of `(int first /* one */, [A] params /* all */ int[] xs)`. -/
def commentedList : Node :=
  let comment (start : Nat) (text : String) : Node := ⟨.comment, none, start, text, false, []⟩
  ofPhrase .parameterList (some .parameters) 1
    "(int first /* one */, [A] params /* all */ int[] xs)"
    ([ofToken (.mark "(") 1 "(", firstInteger, comment 12 "/* one */", ofToken (.mark ",") 21 ","] ++
      furtherIntegers.attributes ++
      [furtherIntegers.keyword, comment 34 "/* all */", furtherIntegers.type, furtherIntegers.name,
        ofToken (.mark ")") 52 ")"])

/-- The tree of a constructor with that list. -/
def commentedConstructor : Node :=
  ofPhrase .constructorDeclaration none 0 ("C" ++ commentedList.text ++ ";")
    [ofIdentifier (some .name) 0 "C", commentedList, ofToken (.mark ";") 53 ";"]

/-- Two slots with comments in and between them have two parameters. -/
theorem parameters_perSlot_commented :
    commentedConstructor.Conforms ∧ commentedConstructor.part? .parameters = some commentedList ∧
      commentedList.Lists [.single firstInteger rfl, .variadic furtherIntegers] ∧
      commentedConstructor.parameters = [⟨"first", "int", .byValue⟩, ⟨"xs", "int[]", .variadic⟩] := by
  have hconforms : commentedConstructor.Conforms := conforms_of_checks 40 (by decide)
  have hlist : commentedConstructor.part? .parameters = some commentedList := rfl
  have hslots : commentedList.Lists [.single firstInteger rfl, .variadic furtherIntegers] := by
    have hcomma : (ofToken (.mark ",") 21 ",").isMark "," = true := rfl
    have hseparated :=
      Slot.Separated.next (.single firstInteger rfl) hcomma (.last (.variadic furtherIntegers))
    exact ⟨ofToken (.mark "(") 1 "(", _, ofToken (.mark ")") 52 ")", rfl, rfl, rfl, .inr hseparated⟩
  have hparameters := parameters_perSlot hlist hslots
  exact ⟨hconforms, hlist, hslots, hparameters.trans (by decide)⟩

end Node

/-! ## Lists that are made as the grammar says -/

section Grammar

open Node

variable {ns : List Node}

/-- Without conditional directives, what stands before a declaration are attribute lists. -/
theorem Fits.is_attributeList (h : Fits .attributes none none ns)
    (hns : ∀ n ∈ ns, n.is .conditionalAttributes = false) : ∀ n ∈ ns, n.is .attributeList = true := by
  obtain ⟨nss, rfl, hnss⟩ := exists_of_repeated h
  intro n hn
  obtain ⟨xs, hxs, hmem⟩ := List.mem_flatten.1 hn
  obtain ⟨q, hq, hfits⟩ := exists_of_phrases (hnss xs hxs)
  have hshown : ∀ q ∈ [Phrase.attributeList, .conditionalAttributes], q.isHidden = false := by
    decide
  obtain ⟨a, rfl, hkind, -⟩ := exists_of_visible (hshown q hq) hfits
  obtain rfl : n = a := List.mem_singleton.1 hmem
  have hcases : q = .attributeList ∨ q = .conditionalAttributes := by simpa using hq
  rcases hcases with rfl | rfl
  · exact decide_eq_true hkind
  · exact absurd (decide_eq_true hkind) (ne_true_of_eq_false (hns n hn))

namespace Slot

/-- The node is made as the grammar says and is no conditional directive around attributes. -/
def Allows (n : Node) : Prop :=
  n.Conforms ∧ n.is .conditionalAttributes = false

theorem exists_variadic (h : Fits (.phrase .variadicParameter) none none ns)
    (hns : ∀ n ∈ ns, Allows n) : ∃ slot : Slot, ns = slot.nodes := by
  obtain ⟨attributes, tail, rfl, hattributes, htail⟩ :=
    Fits.sequence_cons_iff.1 (Fits.of_hidden rfl h)
  obtain ⟨keyword, tail, rfl, hkeyword, htail⟩ := Fits.exists_of_token_sequence htail
  obtain ⟨types, names, rfl, htypes, hnames⟩ := Fits.sequence_cons_iff.1 htail
  obtain ⟨t, ht, hfits⟩ := Fits.exists_of_phrases (Fits.labelled_iff.1 htypes)
  obtain ⟨name, rfl, hname, -⟩ :=
    Fits.exists_of_visible rfl (Fits.labelled_iff.1 (Fits.sequence_singleton_iff.1 hnames))
  have hordinary : ∀ t ∈ [Phrase.arrayType, .nullableType],
      t.isHidden = false ∧ t ≠ .attributeList ∧ t ≠ .parameter ∧ t ≠ .variadicParameter := by
    decide
  obtain ⟨hshown, hlist, hparameter⟩ := hordinary t ht
  obtain ⟨type, rfl, htype, -⟩ := Fits.exists_of_visible hshown hfits
  obtain ⟨hallowed, hrest⟩ := List.forall_mem_append.1 hns
  have hlists := hattributes.is_attributeList fun a ha => (hallowed a ha).2
  have hwritten : keyword.text = "params" :=
    (hrest keyword List.mem_cons_self).1.text_eq hkeyword rfl
  exact ⟨.variadic ⟨attributes, keyword, type, name, hlists, hkeyword, hwritten,
    .of_phrase htype hlist hparameter, .of_phrase hname (by decide) (by decide)⟩, rfl⟩

/-- What the grammar has between two commas is a slot. -/
theorem exists_of_fits (h : Fits (.phrases [.parameter, .variadicParameter]) none none ns)
    (hns : ∀ n ∈ ns, Allows n) : ∃ slot : Slot, ns = slot.nodes := by
  obtain ⟨q, hq, hfits⟩ := Fits.exists_of_phrases h
  have hcases : q = .parameter ∨ q = .variadicParameter := by simpa using hq
  rcases hcases with rfl | rfl
  · obtain ⟨parameter, rfl, hkind, -⟩ := Fits.exists_of_visible rfl hfits
    exact ⟨.single parameter (by simp [isParameter, Node.is, hkind]), rfl⟩
  · exact exists_variadic hfits hns

/-- What the grammar has between the parentheses, if there is something, are slots with commas
between them. -/
theorem exists_separated (h : Fits (.list (.phrases [.parameter, .variadicParameter])) none none ns)
    (hns : ∀ n ∈ ns, Allows n) : ∃ slots, Separated slots ns := by
  obtain ⟨first, more, rfl, hfirst, hmore⟩ := Fits.sequence_cons_iff.1 h
  obtain ⟨nss, rfl, hnss⟩ := Fits.exists_of_repeated (Fits.sequence_singleton_iff.1 hmore)
  clear h hmore
  -- Each repetition is a comma and what stands before the next one.
  induction nss generalizing first with
  | nil =>
    rw [List.flatten_nil, List.append_nil] at hns ⊢
    obtain ⟨slot, rfl⟩ := exists_of_fits hfirst hns
    exact ⟨[slot], .last slot⟩
  | cons xs nss ih =>
    obtain ⟨hxs, hrepeated⟩ := List.forall_mem_cons.1 hnss
    obtain ⟨comma, next, rfl, hcomma, hnext⟩ := Fits.exists_of_token_sequence hxs
    obtain ⟨hallowed, hothers⟩ := List.forall_mem_append.1 hns
    obtain ⟨slot, rfl⟩ := exists_of_fits hfirst hallowed
    obtain ⟨-, hbehind⟩ := List.forall_mem_cons.1 hothers
    obtain ⟨slots, hslots⟩ := ih next (Fits.sequence_singleton_iff.1 hnext) hrepeated hbehind
    exact ⟨slot :: slots, .next slot (decide_eq_true hcomma) hslots⟩

end Slot

/-- A parameter list that is made as the grammar says, without directives in it, has slots. -/
theorem Node.Conforms.exists_slots {list : Node} (h : list.Conforms)
    (hlist : list.is .parameterList = true)
    (hparts : ∀ m ∈ list.parts, m.kind ≠ .directive ∧ m.is .conditionalAttributes = false) :
    ∃ slots, list.Lists slots := by
  have hfits := h.constituents (of_decide_eq_true hlist)
  have hfilter : list.constituents = list.parts.filter (!·.isComment) :=
    List.filter_congr fun m hm => by simp [isTrivia, isComment, (hparts m hm).1]
  have hallows : ∀ m ∈ list.constituents, Slot.Allows m := fun m hm =>
    have hmem : m ∈ list.parts := (List.mem_filter.1 hm).1
    ⟨h.of_mem hmem, (hparts m hmem).2⟩
  obtain ⟨opening, tail, hns, hopening, htail⟩ := Fits.exists_of_token_sequence hfits
  obtain ⟨inner, closings, rfl, hinner, hclosings⟩ := Fits.sequence_cons_iff.1 htail
  obtain ⟨closing, rfl, hclosing⟩ := Fits.exists_of_token (Fits.sequence_singleton_iff.1 hclosings)
  have hslots : ∃ slots, slots = [] ∧ inner = [] ∨ Slot.Separated slots inner := by
    cases hinner with
    | left => exact ⟨[], .inl ⟨rfl, rfl⟩⟩
    | taken part =>
      have hall : ∀ m ∈ inner, Slot.Allows m := fun m hm => hallows m (by rw [hns]; simp [hm])
      obtain ⟨slots, hseparated⟩ := Slot.exists_separated part hall
      exact ⟨slots, .inr hseparated⟩
  obtain ⟨slots, hslots⟩ := hslots
  exact ⟨slots, opening, inner, closing, by rw [← hfilter, hns]; rfl, decide_eq_true hopening,
    decide_eq_true hclosing, hslots⟩

end Grammar

end Scaffold.CSharp
