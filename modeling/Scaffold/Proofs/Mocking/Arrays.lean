import Scaffold.Proofs.Fixture.Resolvable
import Scaffold.Proofs.Fixture.Locals
import Scaffold.Proofs.Mocking.Convention

/-!
# Arrays

The text of an array type is that of its element type with rank specifiers behind it, and where
the array is nullable it ends with a question mark. Compacting leaves no more than one space between
two of these tokens. An array has no base name when its last bracket is seen at the end, also through the
question mark, but not through a space before the question mark (`ArrayType.baseName?_chars`). So an
array is never mocked unless it is written with this space; then it is mocked where its element type
is called like an abstraction (`ArrayType.mocked_iff_detached`).
-/

namespace Scaffold.Fixture

open Text

/-! ## The texts of arrays -/

/-- The space between two tokens, if there is one. -/
def gap (isSpaced : Bool) : List Char :=
  if isSpaced then [' '] else []

/-- A rank specifier: square brackets with any number of commas between them. -/
structure Rank where
  /-- Whether a space stands before the opening bracket. -/
  isApart : Bool
  /-- Whether a space stands behind the opening bracket. -/
  isSpaced : Bool
  /-- For each comma, whether a space stands behind it. -/
  commas : List Bool

/-- The characters of a rank specifier. -/
def Rank.chars (r : Rank) : List Char :=
  gap r.isApart ++
    '[' :: (gap r.isSpaced ++ r.commas.flatMap fun isSpaced => ',' :: gap isSpaced) ++ [']']

/-- The characters of the question mark of a nullable array, which says whether a space stands
before it. -/
def markChars : Option Bool → List Char
  | none => []
  | some isSpaced => gap isSpaced ++ ['?']

/-- An array type as it is written. -/
structure ArrayType where
  /-- The text of the element type. -/
  element : List Char
  first : Rank
  more : List Rank
  /-- The question mark, if the array is nullable. -/
  mark : Option Bool

namespace ArrayType

/-- The characters of an array type without its question mark. -/
def unmarked (a : ArrayType) : List Char :=
  a.element ++ (a.first :: a.more).flatMap Rank.chars

/-- The text of an array type. -/
def text (a : ArrayType) : String :=
  String.ofList (a.unmarked ++ markChars a.mark)

/-- Whether the array is nullable, with a space before the question mark. -/
def isDetached (a : ArrayType) : Bool :=
  a.mark == some true

end ArrayType

/-! ## The base name of an array -/

namespace ArrayType

/-- Before the question mark stands a bracket. -/
theorem exists_unmarked_eq (a : ArrayType) : ∃ front, a.unmarked = front ++ [']'] := by
  obtain ⟨before, last, hranks⟩ := (List.eq_nil_or_concat' (a.first :: a.more)).resolve_left
    (List.cons_ne_nil a.first a.more)
  rw [unmarked, hranks, List.flatMap_append, List.flatMap_singleton, Rank.chars,
    ← List.append_assoc, ← List.append_assoc]
  exact ⟨_, rfl⟩

/-- The space before the question mark takes no part in the name. -/
theorem withoutArguments_detached (a : ArrayType) :
    withoutArguments (a.unmarked ++ [' ', '?']) = withoutArguments a.unmarked := by
  rw [withoutArguments_eq, withoutArguments_eq]
  cases hany : a.unmarked.any fun c => !isBare c with
  | true => rw [takeWhile_append_of_any hany]
  | false =>
    obtain ⟨front, hfront⟩ := a.exists_unmarked_eq
    have hbare : a.unmarked.takeWhile isBare = a.unmarked :=
      List.takeWhile_eq_self_iff.2 (by simpa using hany)
    have hspace : [' ', '?'].takeWhile isBare = [' '] := by decide
    have htrimmed (rest : List Char) : trimmed (front ++ [']'] ++ rest) =
        front.dropWhile isBlank ++ ']' :: dropEndWhile isBlank rest := by
      rw [List.append_assoc, List.singleton_append, trimmed_append_cons (by decide)]
    have hblank : dropEndWhile isBlank [' '] = dropEndWhile isBlank [] := by decide
    rw [takeWhile_isBare_append hany, hbare, hspace, hfront, htrimmed, hblank, ← htrimmed,
      List.append_nil]

/-- An array has a base name only where a space stands before the question mark. -/
theorem baseName?_chars (a : ArrayType) : baseName? (a.unmarked ++ markChars a.mark) =
    if a.isDetached then some (lastName a.unmarked) else none := by
  obtain ⟨front, hfront⟩ := a.exists_unmarked_eq
  have hend : dropEndWhile (· == '?') (trimmed (a.unmarked ++ markChars a.mark)) =
      front.dropWhile isBlank ++
        ']' :: dropEndWhile (· == '?') (dropEndWhile isBlank (markChars a.mark)) := by
    rw [hfront, List.append_assoc, List.singleton_append, trimmed_append_cons (by decide),
      dropEndWhile_append_cons (by decide)]
  unfold isDetached
  -- Only the detached mark leaves something, a space, behind the bracket.
  generalize a.mark = mark at hend
  match mark with
  | none =>
    have hrest : dropEndWhile (· == '?') (dropEndWhile isBlank (markChars none)) = [] := by decide
    rw [hrest] at hend
    exact baseName?_of_bracket (by simp [hend])
  | some false =>
    have hrest : dropEndWhile (· == '?') (dropEndWhile isBlank (markChars (some false))) = [] := by
      decide
    rw [hrest] at hend
    exact baseName?_of_bracket (by simp [hend])
  | some true =>
    have hrest :
        dropEndWhile (· == '?') (dropEndWhile isBlank (markChars (some true))) = [' '] := by decide
    rw [hrest] at hend
    rw [baseName?_of_not_bracket (by simp [hend]), lastName, lastName]
    exact congrArg some (by rw [← a.withoutArguments_detached]; rfl)

end ArrayType

/-! ## The convention for interfaces -/

/-- A text has no dot, or it has a last one. -/
theorem exists_last_dot (cs : List Char) :
    '.' ∉ cs ∨ ∃ front rest, cs = front ++ '.' :: rest ∧ '.' ∉ rest := by
  induction cs with
  | nil => exact .inl List.not_mem_nil
  | cons c cs ih =>
    obtain hcs | ⟨front, rest, rfl, hrest⟩ := ih
    · by_cases hc : c = '.'
      · exact .inr ⟨[], cs, by rw [hc, List.nil_append], hcs⟩
      · exact .inl (by simp [Ne.symm hc, hcs])
    · exact .inr ⟨c :: front, rest, rfl, hrest⟩

/-- The characters of rank specifiers are blanks, brackets and commas. -/
theorem Rank.mem_chars {r : Rank} {c : Char} (h : c ∈ r.chars) : c ∈ [' ', '[', ',', ']'] := by
  have hgap {isSpaced : Bool} (hc : c ∈ gap isSpaced) : c = ' ' := by
    cases isSpaced <;> simp_all [gap]
  simp only [Rank.chars, List.mem_append, List.mem_cons, List.mem_flatMap, List.not_mem_nil,
    or_false] at h
  grind

/-- Behind a text, characters that are neither dots nor capitals do not change whether its last
segment is the name of an interface. -/
theorem isInterfaceName_trimmed_append (cs : List Char) {tail : List Char}
    (hdot : '.' ∉ tail) (htail : ∀ c ∈ tail, c.isUpper = false) :
    isInterfaceName ((piecesOf (· == '.') (trimmed (cs ++ tail))).getLast?.getD []) =
      isInterfaceName ((piecesOf (· == '.') (trimmed cs)).getLast?.getD []) := by
  obtain hcs | ⟨front, rest, rfl, hrest⟩ := exists_last_dot cs
  · have hplain {text : List Char} (htext : '.' ∉ text) :
        isInterfaceName ((piecesOf (· == '.') (trimmed text)).getLast?.getD []) =
          isInterfaceName (text.dropWhile isBlank) := by
      rw [piecesOf_of_notMem (mt mem_of_mem_trimmed htext), List.getLast?_singleton,
        Option.getD_some, trimmed, isInterfaceName_dropEndWhile]
    -- Where the text is blank, blanks of the tail are dropped from the front as well.
    obtain ⟨rest, hdrop, hrest⟩ : ∃ rest, (cs ++ tail).dropWhile isBlank =
        cs.dropWhile isBlank ++ rest ∧ ∀ c ∈ rest, c ∈ tail := by
      rw [List.dropWhile_append]
      split
      · rename_i hempty
        rw [List.isEmpty_iff.1 hempty]
        exact ⟨_, rfl, fun c hc => (List.dropWhile_sublist isBlank).subset hc⟩
      · exact ⟨tail, rfl, fun c => id⟩
    rw [hplain (by simp [hcs, hdot]), hplain hcs, hdrop, isInterfaceName_append]
    exact fun c hc => htail c (hrest c (List.mem_of_mem_head? hc))
  · rw [List.append_assoc, List.cons_append, getLast?_piecesOf_trimmed (by simp [hrest, hdot]),
      getLast?_piecesOf_trimmed hrest, Option.getD_some, Option.getD_some,
      isInterfaceName_dropEndWhile, isInterfaceName_dropEndWhile, isInterfaceName_append]
    exact fun c hc => htail c (List.mem_of_mem_head? hc)

/-- Rank specifiers do not change whether the last name in a type is the name of an interface. -/
theorem ArrayType.isInterfaceName_unmarked (a : ArrayType) :
    isInterfaceName (lastName a.unmarked) = isInterfaceName (lastName a.element) := by
  have hranks {c : Char} (hc : c ∈ (a.first :: a.more).flatMap Rank.chars) :
      c ∈ [' ', '[', ',', ']'] := by
    obtain ⟨r, -, hc⟩ := List.mem_flatMap.1 hc
    exact Rank.mem_chars hc
  have hbare : ∀ c ∈ [' ', '[', ',', ']'], isBare c = true ∧ c.isUpper = false := by simp [isBare]
  have hdot : '.' ∉ [' ', '[', ',', ']'] := by decide
  rw [lastName, lastName, withoutArguments_eq, withoutArguments_eq]
  cases hany : a.element.any fun c => !isBare c with
  | true => rw [unmarked, takeWhile_append_of_any hany]
  | false =>
    have htail : ((a.first :: a.more).flatMap Rank.chars).takeWhile isBare =
        (a.first :: a.more).flatMap Rank.chars :=
      List.takeWhile_eq_self_iff.2 fun c hc => (hbare c (hranks hc)).1
    rw [unmarked, takeWhile_isBare_append hany, htail, isInterfaceName_trimmed_append]
    · exact fun h => hdot (hranks h)
    · exact fun c hc => (hbare c (hranks hc)).2

/-! ## Arrays among the parameters of a constructor -/

namespace ArrayType

/-- The text of an array ends with a bracket or a question mark. -/
theorem getLast?_text (a : ArrayType) :
    a.text.toList.getLast? = some ']' ∨ a.text.toList.getLast? = some '?' := by
  obtain ⟨front, hfront⟩ := a.exists_unmarked_eq
  rw [text, String.toList_ofList, hfront]
  match a.mark with
  | none => exact .inl (by simp [markChars])
  | some isSpaced =>
    rw [markChars, ← List.append_assoc]
    exact .inr List.getLast?_concat

/-- The placeholder of an array is the default of its type. -/
theorem placeholder_text (a : ArrayType) : placeholder a.text [] = .ok .typeDefault := by
  have hne {t : String} (h : t.toList.getLast? ≠ some ']' ∧ t.toList.getLast? ≠ some '?') :
      trim a.text ≠ t :=
    a.getLast?_text.elim (fun hlast => trim_ne_of_getLast? hlast (by decide) h.1)
      (fun hlast => trim_ne_of_getLast? hlast (by decide) h.2)
  refine placeholder_eq_ok_iff.2 ⟨⟨hne (by decide), hne (by decide), nofun⟩, .inr ⟨?_, rfl⟩⟩
  simp only [List.mem_cons, List.not_mem_nil, or_false, not_or]
  exact ⟨hne (by decide), hne (by decide), hne (by decide)⟩

/-- Where an array is not mocked, the setup has a local for it. -/
theorem declare_mem_setup {s : Synthesizer} {c : ClassDeclaration} {setup : Setup} {p : Parameter}
    {a : ArrayType} (hp : p ∈ c.createdWith) (htype : p.type = a.text)
    (ha : s.classifier.isAbstraction a.text = false)
    (hsetup : (s.synthesize c).fixture.setup = some setup) :
    .declare (some a.text) p.name (.placeholder .typeDefault) ∈ setup.statements := by
  rw [← parameters_slots s.classifier [fieldName c.simpleName] c.createdWith, List.mem_map] at hp
  obtain ⟨slot, hslot, rfl⟩ := hp
  have hmock := isSome_mock_of_mem_slots _ _ _ slot hslot
  rw [htype, ha, Option.isSome_eq_false_iff, Option.isNone_iff_eq_none] at hmock
  have hlocal : slot.local? =
      some (.declare (some a.text) slot.parameter.name (.placeholder .typeDefault)) := by
    rw [Slot.local?, hmock, htype, a.placeholder_text]
  rw [Synthesizer.statements_of_setup hsetup]
  exact List.mem_append_left _
    (List.mem_append_right _ (List.mem_filterMap.2 ⟨slot, hslot, hlocal⟩))

/-- What a classifier that goes by base names says of an array: it is no abstraction unless a space
stands before its question mark, and then the base name is the last name in its text. By the
convention for interfaces such an array is an abstraction exactly when the last name in the text of
its element type is the name of an interface. An array that is not mocked has a local in the setup,
whatever it is an array of. -/
theorem mocked_iff_detached (a : ArrayType) :
    (∀ p, (Classifier.ofBaseName p).isAbstraction a.text =
        (a.isDetached && p (lastName a.unmarked))) ∧
      Classifier.interfaceConvention.isAbstraction a.text =
        (a.isDetached && isInterfaceName (lastName a.element)) ∧
      (∀ texts, (Classifier.beginnings texts).isAbstraction a.text = (a.isDetached &&
        texts.any fun text => text != "" && text.toList.isPrefixOf (lastName a.unmarked))) ∧
      (a.isDetached = false → ∀ (s : Synthesizer) (p : List Char → Bool),
        s.classifier = .ofBaseName p → ∀ (c : ClassDeclaration), ∀ q ∈ c.createdWith,
        q.type = a.text → ∀ setup, (s.synthesize c).fixture.setup = some setup →
          .declare (some a.text) q.name (.placeholder .typeDefault) ∈ setup.statements) := by
  have hclassifier (p : List Char → Bool) : (Classifier.ofBaseName p).isAbstraction a.text =
      (a.isDetached && p (lastName a.unmarked)) := by
    rw [Classifier.isAbstraction_ofBaseName, text, String.toList_ofList, baseName?_chars]
    cases a.isDetached <;> rfl
  refine ⟨hclassifier, ?_, fun texts => hclassifier _, ?_⟩
  · rw [Classifier.interfaceConvention, hclassifier, isInterfaceName_unmarked]
  · intro ha s p hs c q hq htype setup hsetup
    refine declare_mem_setup hq htype ?_ hsetup
    rw [hs, hclassifier, ha, Bool.false_and]

/-- A nullable array of lists, with spaces everywhere but before the question mark, is a parameter
of the constructor: it has a local although `IList<int>` alone is mocked. -/
theorem mocked_iff_detached_list :
    let a : ArrayType := ⟨"IList<int>".toList, ⟨true, true, [true]⟩, [⟨false, false, []⟩], some false⟩
    let c : ClassDeclaration :=
      ⟨"Job", "Job", "N", false, [], [⟨[⟨"rows", "IList<int> [ , ][]?", .byValue⟩]⟩], []⟩
    let s : Synthesizer := ⟨.interfaceConvention, "todo"⟩
    a.text = "IList<int> [ , ][]?" ∧ a.isDetached = false ∧
      s.classifier.isAbstraction "IList<int>" = true ∧ s.classifier.isAbstraction a.text = false ∧
      ∃ setup, (s.synthesize c).fixture.setup = some setup ∧
        .declare (some a.text) "rows" (.placeholder .typeDefault) ∈ setup.statements := by
  intro a c s
  have htext : a.text = "IList<int> [ , ][]?" := by decide
  obtain ⟨hclassifier, -, -, hlocal⟩ := mocked_iff_detached a
  refine ⟨htext, rfl, by decide, hclassifier _, ?_⟩
  obtain ⟨setup, hsetup⟩ : ∃ setup, (s.synthesize c).fixture.setup = some setup :=
    Option.isSome_iff_exists.1 (by decide)
  exact ⟨setup, hsetup, hlocal rfl s _ rfl c _ (List.mem_singleton_self _) htext.symm setup hsetup⟩

/-- With a space before its question mark, an array of an interface is mocked, whether the
classifier goes by the convention or by the beginnings of names. Compacting keeps this space. -/
theorem mocked_detached : ∃ a : ArrayType, a.text = "IService[] ?" ∧
    compact "IService[]\n  ?" = a.text ∧
    Classifier.interfaceConvention.isAbstraction a.text = true ∧
    (Classifier.beginnings ["IS"]).isAbstraction a.text = true := by
  refine ⟨⟨"IService".toList, ⟨false, false, []⟩, [], some true⟩, ?_⟩
  decide

end ArrayType

end Scaffold.Fixture
