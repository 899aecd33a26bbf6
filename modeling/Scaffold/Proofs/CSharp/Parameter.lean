import Mathlib.Data.List.Induction
import Mathlib.Data.List.TakeWhile
import Scaffold.CSharp.Outline
import Scaffold.Proofs.CSharp.Conformance

/-!
# How an argument is passed to a parameter

The parts of a parameter before its type and its name are keywords and remarks: attribute lists,
comments and directives (`Node.leading_cases`). The outline takes the passing mode from the last of
them with a keyword of a mode among its words, so a remark with such a word can decide, and it is
only then that the mode is not that of the keywords (`Node.passing_eq_keywordPassing_iff`).
-/

namespace Scaffold.CSharp

open Text

/-- The keywords that may stand before the type of a parameter. -/
def parameterWords : List String := ["this", "scoped", "ref", "out", "in", "readonly"]

namespace Node

/-- Whether a node says nothing about how an argument is passed: an attribute list, also in a
conditional directive, a comment or a directive. -/
def isRemark (n : Node) : Bool :=
  n.is .attributeList || n.is .conditionalAttributes || n.isTrivia

/-- The parts of a parameter before its type and its name. -/
def leading (n : Node) : List Node :=
  n.parts.takeWhile (!·.isTypeOrName)

/-- The passing mode that a keyword names. -/
def keyword? (n : Node) : Option Passing :=
  match n.kind with
  | .token _ => Passing.ofKeyword? n.text
  | _ => none

/-- The passing mode that the keywords before the type and the name of a parameter name. -/
def keywordPassing (n : Node) : Passing :=
  (n.leading.filterMap keyword?).getLast?.getD .byValue

/-- The part is the last one before the type and the name whose text names a mode. -/
def Decides (n part : Node) (mode : Passing) : Prop :=
  ∃ before after, n.leading = before ++ part :: after ∧ passingIn? part.text = some mode ∧
    ∀ later ∈ after, passingIn? later.text = none

end Node

/-! ## The last of a list -/

section Last

variable {α β : Type} (f : α → Option β)

theorem foldl_getD_eq_getLast? (l : List α) (start : β) :
    l.foldl (fun b a => (f a).getD b) start = (l.filterMap f).getLast?.getD start := by
  induction l using List.reverseRecOn with
  | nil => rfl
  | append_singleton l a ih =>
    rw [List.foldl_append, List.foldl_cons, List.foldl_nil, ih, List.filterMap_append]
    cases hf : f a with
    | none =>
      rw [List.filterMap_cons_none hf, List.filterMap_nil, List.append_nil, Option.getD_none]
    | some b =>
      rw [List.filterMap_cons_some hf, List.filterMap_nil, List.getLast?_concat, Option.getD_some,
        Option.getD_some]

variable {f} in
theorem getLast?_filterMap_of_split {before after : List α} {a : α} {b : β} (ha : f a = some b)
    (hafter : ∀ later ∈ after, f later = none) :
    ((before ++ a :: after).filterMap f).getLast? = some b := by
  rw [List.filterMap_append, List.filterMap_cons_some ha, List.filterMap_eq_nil_iff.2 hafter,
    List.getLast?_concat]

theorem exists_last_or_forall (l : List α) :
    (∀ a ∈ l, f a = none) ∨ ∃ before a after b, l = before ++ a :: after ∧ f a = some b ∧
      ∀ later ∈ after, f later = none := by
  induction l using List.reverseRecOn with
  | nil => exact .inl fun a ha => absurd ha List.not_mem_nil
  | append_singleton l a ih =>
    cases hf : f a with
    | some b => exact .inr ⟨l, a, [], b, rfl, hf, fun _ h => absurd h List.not_mem_nil⟩
    | none =>
      rcases ih with hnone | ⟨before, x, after, b, rfl, hx, hafter⟩
      · exact .inl (List.forall_mem_append.2 ⟨hnone, List.forall_mem_singleton.2 hf⟩)
      · refine .inr ⟨before, x, after ++ [a], b, by simp, hx, ?_⟩
        exact List.forall_mem_append.2 ⟨hafter, List.forall_mem_singleton.2 hf⟩

/-- What stands before the first element that fails a test stands before any that fails it. -/
theorem mem_of_mem_takeWhile_append {p : α → Bool} {xs ys : List α} {a y : α} (hy : p y = false)
    (h : a ∈ (xs ++ y :: ys).takeWhile p) : a ∈ xs := by
  induction xs with
  | nil =>
    rw [List.nil_append, List.takeWhile_cons_of_neg (by simp [hy])] at h
    exact absurd h List.not_mem_nil
  | cons x xs ih =>
    by_cases hx : p x = true
    · rw [List.cons_append, List.takeWhile_cons_of_pos hx] at h
      exact (List.mem_cons.1 h).elim (fun h => h ▸ List.mem_cons_self)
        fun h => List.mem_cons_of_mem x (ih h)
    · rw [List.cons_append, List.takeWhile_cons_of_neg hx] at h
      exact absurd h List.not_mem_nil

end Last

/-! ## What stands before the type and the name -/

namespace Label

/-- What may stand before the type and the name of a parameter: keywords and attribute lists. -/
def isLeading : Label → Bool
  | token (.word text) => parameterWords.contains text
  | token _ => false
  | phrase p => p == .attributeList || p == .conditionalAttributes

/-- What may stand before the name of a parameter. -/
def isBeforeName (label : Label) (role : Option Role) : Bool :=
  role == some .type || label.isLeading

end Label

theorem Phrase.isOpen_isBeforeName : isOpen Label.isBeforeName = true := by
  decide

namespace Node

variable {n part : Node} {mode : Passing}

/-- Before the type and the name of a parameter there are keywords and remarks. -/
theorem leading_cases (h : n.Conforms) (hn : n.is .parameter = true) (hpart : part ∈ n.leading) :
    part.isRemark = true ∨ ∃ word ∈ parameterWords,
      part.kind = .token (.word word) ∧ part.text = word := by
  have hkind : n.kind = .phrase .parameter := of_decide_eq_true hn
  obtain ⟨xs, tail, hparts, hxs, htail⟩ := Fits.sequence_cons_iff.1 (h.constituents hkind)
  obtain ⟨ys, rest, rfl, hys, hrest⟩ := Fits.sequence_cons_iff.1 htail
  obtain ⟨zs, last, rfl, hzs, -⟩ := Fits.sequence_cons_iff.1 hrest
  obtain ⟨name, rfl, -, hrole⟩ := Fits.exists_of_visible rfl (Fits.labelled_iff.1 hzs)
  rw [← List.append_assoc] at hparts
  obtain ⟨front, back, hns, hfront, -⟩ := exists_parts_of_constituents hparts
  -- Every parameter has a name, so what stands before the type and the name is before it.
  have hmem : part ∈ front := by
    rw [leading, hns] at hpart
    exact mem_of_mem_takeWhile_append (by simp [isTypeOrName, hrole]) hpart
  have hparts : part ∈ n.parts := List.takeWhile_subset _ hpart
  have hrole : part.role ≠ some .type := by
    have hneither := List.mem_takeWhile_imp hpart
    intro hrole
    simp [isTypeOrName, hrole] at hneither
  rcases hfront part hmem with htrivia | hbefore
  · exact .inl (by simp [isRemark, htrivia])
  -- What the grammar has before the name is the type, an attribute list or a keyword.
  · have hallowed : ∃ label : Label, part.kind = label.kind ∧
        label.isBeforeName part.role = true := by
      rcases List.mem_append.1 hbefore with hbefore | hbefore
      · exact hxs.allowed Phrase.isOpen_isBeforeName (by decide) hbefore
      · exact hys.allowed Phrase.isOpen_isBeforeName (by decide) hbefore
    obtain ⟨label, hlabel, hok⟩ := hallowed
    rw [Label.isBeforeName, Bool.or_eq_true, beq_iff_eq] at hok
    have hleading := hok.resolve_left hrole
    unfold Label.isLeading at hleading
    split at hleading
    · rename_i text
      have hword : text ∈ parameterWords := by simpa using hleading
      exact .inr ⟨text, hword, hlabel, (h.of_mem hparts).text_eq hlabel rfl⟩
    · exact absurd hleading Bool.false_ne_true
    · rw [Bool.or_eq_true, beq_iff_eq, beq_iff_eq] at hleading
      refine .inl ?_
      rcases hleading with rfl | rfl
      · simp [isRemark, Node.is, hlabel, Label.kind]
      · simp [isRemark, Node.is, hlabel, Label.kind]

/-- A remark is no keyword. -/
theorem keyword?_of_isRemark (h : part.isRemark = true) : part.keyword? = none := by
  rw [keyword?]
  split
  · rename_i t hkind
    simp [isRemark, isTrivia, Node.is, hkind] at h
  · rfl

/-- Among the words of a keyword there is the keyword only. -/
theorem passingIn?_of_mem {word : String} (h : word ∈ parameterWords) :
    passingIn? word = Passing.ofKeyword? word := by
  revert word
  decide

/-- A part before the type and the name that is no remark names the mode of its keyword. -/
theorem passingIn?_eq_keyword? (h : n.Conforms) (hn : n.is .parameter = true)
    (hpart : part ∈ n.leading) (hremark : part.isRemark = false) :
    passingIn? part.text = part.keyword? := by
  rcases leading_cases h hn hpart with hremark' | ⟨word, hword, hkind, htext⟩
  · exact absurd hremark' (by simp [hremark])
  · rw [keyword?, hkind, htext, passingIn?_of_mem hword]

theorem passing_eq_getLast? (n : Node) :
    n.passing = (n.leading.filterMap (passingIn? ·.text)).getLast?.getD n.plainPassing :=
  foldl_getD_eq_getLast? (fun part : Node => passingIn? part.text) n.leading n.plainPassing

theorem plainPassing_eq (hn : n.is .parameter = true) : n.plainPassing = .byValue := by
  have hkind : n.kind = .phrase .parameter := of_decide_eq_true hn
  simp [plainPassing, Node.is, hkind]

/-- The part that decides gives the mode. -/
theorem Decides.passing_eq (h : n.Decides part mode) : n.passing = mode := by
  obtain ⟨before, after, hleading, hmode, hafter⟩ := h
  have hlast : (n.leading.filterMap (passingIn? ·.text)).getLast? = some mode := by
    rw [hleading]
    exact getLast?_filterMap_of_split hmode hafter
  rw [passing_eq_getLast?, hlast, Option.getD_some]

/-- If the part that decides is no remark, the mode is that of the keywords. -/
theorem Decides.keywordPassing_eq (hd : n.Decides part mode) (h : n.Conforms)
    (hn : n.is .parameter = true) (hremark : part.isRemark = false) : n.keywordPassing = mode := by
  obtain ⟨before, after, hleading, hmode, hafter⟩ := hd
  have hmem (later : Node) (hlater : later ∈ part :: after) : later ∈ n.leading := by
    rw [hleading]
    exact List.mem_append_right _ hlater
  have hkeyword : part.keyword? = some mode := by
    rw [← passingIn?_eq_keyword? h hn (hmem part List.mem_cons_self) hremark, hmode]
  have hnone : ∀ later ∈ after, later.keyword? = none := by
    intro later hlater
    by_cases hremark : later.isRemark = true
    · exact keyword?_of_isRemark hremark
    · rw [← passingIn?_eq_keyword? h hn (hmem later (List.mem_cons_of_mem part hlater))
        (by simpa using hremark), hafter later hlater]
  rw [keywordPassing, hleading, getLast?_filterMap_of_split hkeyword hnone, Option.getD_some]

/-- If no part names a mode, the argument is passed by value, and no keyword says otherwise. -/
theorem passing_of_forall_none (h : n.Conforms) (hn : n.is .parameter = true)
    (hnone : ∀ part ∈ n.leading, passingIn? part.text = none) :
    n.passing = .byValue ∧ n.keywordPassing = .byValue := by
  constructor
  · rw [passing_eq_getLast?, List.filterMap_eq_nil_iff.2 hnone]
    exact plainPassing_eq hn
  · have hkeyword : ∀ part ∈ n.leading, part.keyword? = none := by
      intro part hpart
      by_cases hremark : part.isRemark = true
      · exact keyword?_of_isRemark hremark
      · rw [← passingIn?_eq_keyword? h hn hpart (by simpa using hremark), hnone part hpart]
    rw [keywordPassing, List.filterMap_eq_nil_iff.2 hkeyword]
    rfl

/-- The passing mode is that of the keywords just when no remark decides for another one. -/
theorem passing_eq_iff (h : n.Conforms) (hn : n.is .parameter = true) :
    n.passing = n.keywordPassing ↔
      ∀ part mode, n.Decides part mode → part.isRemark = true → mode = n.keywordPassing := by
  constructor
  · intro heq part mode hd _
    rw [← hd.passing_eq, heq]
  · intro hremarks
    rcases exists_last_or_forall (fun part : Node => passingIn? part.text) n.leading with
      hnone | ⟨before, part, after, mode, hleading, hmode, hafter⟩
    · obtain ⟨hpassing, hkeyword⟩ := passing_of_forall_none h hn hnone
      rw [hpassing, hkeyword]
    · have hd : n.Decides part mode := ⟨before, after, hleading, hmode, hafter⟩
      rw [hd.passing_eq]
      by_cases hremark : part.isRemark = true
      · exact hremarks part mode hd hremark
      · exact (hd.keywordPassing_eq h hn (by simpa using hremark)).symm

end Node

/-! ## Parameters that differ in their remarks -/

/-- Remarks play no role in a parameter. A parameter list may hide another list of attributes. -/
def Label.isSilent (label : Label) (role : Option Role) : Bool :=
  role == none ||
    label.isA fun p => p != .attributeList && p != .conditionalAttributes && p != .variadicParameter

theorem Phrase.isOpen_isSilent : isOpen Label.isSilent = true := by
  decide

/-- What is left of a node if the texts of remarks are left out, and all that is in the node. -/
structure Shape where
  kind : Kind
  role : Option Role
  /-- The text of the node, unless the node is a remark. -/
  text? : Option String

namespace Shape

def isTypeOrName (shape : Shape) : Bool :=
  shape.role = some .type || shape.role = some .name

/-- The passing mode that a keyword names. -/
def keyword? (shape : Shape) : Option Passing :=
  match shape.kind with
  | .token _ => shape.text?.bind Passing.ofKeyword?
  | _ => none

end Shape

namespace Node

def shape (n : Node) : Shape :=
  ⟨n.kind, n.role, if n.isRemark then none else some n.text⟩

/-- The nodes have the same parts but for the texts of their remarks. -/
def SameButRemarks (n m : Node) : Prop :=
  n.parts.map shape = m.parts.map shape

/-- No remark before the type and the name has a word that names a mode. -/
def HasHarmlessRemarks (n : Node) : Prop :=
  ∀ part ∈ n.leading, part.isRemark = true → passingIn? part.text = none

instance (n : Node) : Decidable n.HasHarmlessRemarks :=
  inferInstanceAs
    (Decidable (∀ part ∈ n.leading, part.isRemark = true → passingIn? part.text = none))

variable {n m part : Node}

theorem role_of_isRemark (h : n.Conforms) (hn : n.is .parameter = true) (hpart : part ∈ n.parts)
    (hremark : part.isRemark = true) : part.role = none := by
  by_cases htrivia : part.isTrivia = true
  · exact ((h.of_mem hpart).of_isTrivia htrivia).2
  · obtain ⟨label, hlabel, hok⟩ := (h.constituents (of_decide_eq_true hn)).allowed
      Phrase.isOpen_isSilent (by decide) (mem_constituents hpart htrivia)
    rw [Label.isSilent, Bool.or_eq_true, beq_iff_eq] at hok
    refine hok.resolve_right fun hother => ?_
    have hnot := IsA.of_label hlabel hother
    rw [isRemark, Bool.or_eq_true, Bool.or_eq_true] at hremark
    rcases hremark.resolve_right htrivia with hkind | hkind
    · exact absurd (hnot _ (of_decide_eq_true hkind)) (by decide)
    · exact absurd (hnot _ (of_decide_eq_true hkind)) (by decide)

/-- The text of the part with a role is read off the shapes. -/
theorem partText_eq (h : n.Conforms) (hn : n.is .parameter = true) (role : Role) :
    n.partText role =
      (((n.parts.map shape).find? (·.role = some role)).bind (·.text?)).getD "" := by
  have hcomp : ((fun shape : Shape => decide (shape.role = some role)) ∘ shape) =
      fun part => decide (part.role = some role) := rfl
  rw [partText, part?, List.find?_map, hcomp]
  cases hpart : n.parts.find? (·.role = some role) with
  | none => rfl
  | some part =>
    have hrole : part.role = some role := by simpa using List.find?_some hpart
    have hremark : part.isRemark ≠ true := fun hremark => by
      rw [role_of_isRemark h hn (List.mem_of_find?_eq_some hpart) hremark] at hrole
      exact absurd hrole (by simp)
    simp [shape, hremark]

theorem keyword?_shape (part : Node) : part.shape.keyword? = part.keyword? := by
  rw [Shape.keyword?, keyword?, shape]
  cases hkind : part.kind with
  | token t => simp [isRemark, isTrivia, Node.is, hkind]
  | _ => rfl

/-- The mode that the keywords name is read off the shapes. -/
theorem keywordPassing_eq (n : Node) :
    n.keywordPassing = (((n.parts.map shape).takeWhile (!·.isTypeOrName)).filterMap
      Shape.keyword?).getLast?.getD .byValue := by
  have hcomp : ((fun shape : Shape => !shape.isTypeOrName) ∘ shape) =
      fun part => !part.isTypeOrName := rfl
  rw [List.takeWhile_map, hcomp, List.filterMap_map, keywordPassing, leading,
    show Shape.keyword? ∘ shape = keyword? from funext keyword?_shape]

/-- With harmless remarks only the keywords tell how an argument is passed. -/
theorem HasHarmlessRemarks.passing_eq (hharmless : n.HasHarmlessRemarks) (h : n.Conforms)
    (hn : n.is .parameter = true) : n.passing = n.keywordPassing := by
  refine (passing_eq_iff h hn).2 fun part mode ⟨before, after, hleading, hmode, _⟩ hremark => ?_
  have hpart : part ∈ n.leading := by
    rw [hleading]
    exact List.mem_append_right _ List.mem_cons_self
  rw [hharmless part hpart hremark] at hmode
  exact absurd hmode (by simp)

/-- The passing mode of a parameter is the one that its keywords name just when no remark before the
type and the name decides for another one. Of two parameters that differ in the texts of remarks
only, the names, the types and the modes of the keywords are the same, and the parameters are if
their remarks are harmless. -/
theorem parameter_by_keywords (h : n.Conforms) (hn : n.is .parameter = true) :
    (n.passing = n.keywordPassing ↔
        ∀ part mode, n.Decides part mode → part.isRemark = true → mode = n.keywordPassing) ∧
      ∀ m : Node, m.Conforms → m.is .parameter = true → n.SameButRemarks m →
        m.parameter.name = n.parameter.name ∧ m.parameter.type = n.parameter.type ∧
          m.keywordPassing = n.keywordPassing ∧
          (n.HasHarmlessRemarks → m.HasHarmlessRemarks → m.parameter = n.parameter) := by
  refine ⟨passing_eq_iff h hn, fun m hm hmn hsame => ?_⟩
  have htext (role : Role) : m.partText role = n.partText role := by
    rw [partText_eq hm hmn, partText_eq h hn, hsame]
  have hkeywords : m.keywordPassing = n.keywordPassing := by
    rw [keywordPassing_eq, keywordPassing_eq, hsame]
  refine ⟨htext .name, congrArg compact (htext .type), hkeywords, fun hharmless hmharmless => ?_⟩
  rw [parameter, parameter, htext, htext, hmharmless.passing_eq hm hmn, hkeywords,
    hharmless.passing_eq h hn]

/-- The tree of an attribute list `[Desc("…")]` with the given text between the quotes. -/
def describedAs (text : String) : Node :=
  let quoted := "\"" ++ text ++ "\""
  let stop := 8 + text.length
  ofPhrase .attributeList none 0 ("[Desc(" ++ quoted ++ ")]") [
    ofToken (.mark "[") 0 "[",
    ofPhrase .attributeUse none 1 ("Desc(" ++ quoted ++ ")") [
      ofIdentifier (some .name) 1 "Desc",
      ofPhrase .attributeArguments none 5 ("(" ++ quoted ++ ")") [
        ofToken (.mark "(") 5 "(",
        ofPhrase .attributeArgument none 6 quoted [
          ofPhrase .regularString none 6 quoted [
            ofToken .openQuote 6 "\"", ofToken .stringText 7 text,
            ofToken (.mark "\"") (stop - 1) "\""]],
        ofToken (.mark ")") stop ")"]],
    ofToken (.mark "]") (stop + 1) "]"]

/-- The type and the name of a parameter `int x`. -/
def integerNamed (start : Nat) : List Node := [
  ofPhrase .predefinedType (some .type) start "int" [ofToken (.word "int") start "int"],
  ofIdentifier (some .name) (start + 4) "x"]

/-- The tree of the parameter `[Desc("…")] int x`. -/
def describedValue (text : String) : Node :=
  ofPhrase .parameter none 0 ((describedAs text).text ++ " int x")
    (describedAs text :: integerNamed (11 + text.length))

/-- The tree of the parameter `[Desc("…")] ref int x`. -/
def describedReference (text : String) : Node :=
  ofPhrase .parameter none 0 ((describedAs text).text ++ " ref int x")
    (describedAs text :: ofToken (.word "ref") (11 + text.length) "ref" ::
      integerNamed (15 + text.length))

/-- A keyword behind a remark decides, whatever the remark says. Two parameters with different
harmless remarks are the same. -/
theorem parameter_by_keywords_described :
    (describedReference "passed in here").Conforms ∧
      (describedReference "passed in here").is .parameter = true ∧
      (describedReference "passed in here").passing = .byRef ∧
      (∀ part mode, (describedReference "passed in here").Decides part mode →
        part.isRemark = true → mode = .byRef) ∧
      (describedValue "given").SameButRemarks (describedValue "noted") ∧
      (describedValue "noted").parameter = (describedValue "given").parameter := by
  have href : (describedReference "passed in here").Conforms := conforms_of_checks 40 (by decide)
  have hgiven : (describedValue "given").Conforms := conforms_of_checks 40 (by decide)
  have hnoted : (describedValue "noted").Conforms := conforms_of_checks 40 (by decide)
  have hsame : (describedValue "given").SameButRemarks (describedValue "noted") := rfl
  obtain ⟨hdecides, -⟩ := parameter_by_keywords href (by decide)
  obtain ⟨-, hremarks⟩ := parameter_by_keywords hgiven (by decide)
  obtain ⟨-, -, -, hequal⟩ := hremarks _ hnoted (by decide) hsame
  have hkeyword : (describedReference "passed in here").keywordPassing = .byRef := by decide
  have hpassing : (describedReference "passed in here").passing = .byRef := by decide
  rw [hkeyword] at hdecides
  exact ⟨href, by decide, hpassing, hdecides.1 hpassing, hsame, hequal (by decide) (by decide)⟩

/-- Two parameters without keywords that differ in a remark only, and are passed differently. -/
theorem parameter_by_remark :
    (describedValue "passed in here").Conforms ∧ (describedValue "given").Conforms ∧
      (describedValue "passed in here").SameButRemarks (describedValue "given") ∧
      (describedValue "passed in here").keywordPassing = .byValue ∧
      (describedValue "passed in here").parameter = ⟨"x", "int", .byIn⟩ ∧
      (describedValue "given").parameter = ⟨"x", "int", .byValue⟩ :=
  ⟨conforms_of_checks 40 (by decide), conforms_of_checks 40 (by decide), rfl,
    by decide, by decide, by decide⟩

end Node

end Scaffold.CSharp
