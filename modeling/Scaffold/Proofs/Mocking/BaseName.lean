import Scaffold.Fixture.Mocking
import Scaffold.Proofs.Text.Ends
import Scaffold.Proofs.Text.Runs

/-!
# Base names

The base name of a type is read off its text: it stands behind the last dot of what comes before the
first `<` or `?` (`lastName`). `Shows` says which name a text has at this place, and `Shows.append`
how this comes about when a text is put together of two. The convention for interfaces looks at the
first two characters only, so what is left behind a name does not count (`isInterfaceName_append`),
and the name that a text shows decides (`isAbstraction_of_shows`).
-/

namespace Scaffold.Fixture

open Text

/-- A character that does not end the part of a type in which its base name is looked for. -/
def isBare (c : Char) : Bool :=
  c != '<' && c != '?'

/-! ## The names of interfaces -/

/-- Behind a name, a character that is no capital does not change whether the name is one of an
interface. -/
theorem isInterfaceName_append (name : List Char) {tail : List Char}
    (h : ∀ c ∈ tail.head?, c.isUpper = false) :
    isInterfaceName (name ++ tail) = isInterfaceName name := by
  obtain _ | ⟨a, _ | ⟨b, name⟩⟩ := name
  · obtain _ | ⟨c, tail⟩ := tail
    · rfl
    · have hc : c ≠ 'I' := by
        rintro rfl
        exact absurd (h 'I' rfl) (by decide)
      simp [isInterfaceName, hc]
  · obtain _ | ⟨c, tail⟩ := tail
    · rfl
    · have hc : c.isUpper = false := h c rfl
      by_cases ha : a = 'I' <;> simp [isInterfaceName, ha, hc]
  · by_cases ha : a = 'I' <;> simp [isInterfaceName, ha]

theorem isUpper_eq_false_of_isBlank {c : Char} (h : isBlank c = true) : c.isUpper = false := by
  have hval : c.val.toNat = c.toNat := rfl
  simp only [isBlank, Ranges.has, blankRanges, List.any_cons, List.any_nil, Bool.or_eq_true,
    Bool.and_eq_true, decide_eq_true_eq, Bool.or_false] at h
  unfold Char.isUpper
  simp only [decide_eq_false_iff_not, ge_iff_le, UInt32.le_iff_toNat_le, Char.reduceVal,
    UInt32.reduceToNat, hval]
  omega

/-- Blanks behind a name do not count. -/
theorem isInterfaceName_dropEndWhile (name : List Char) :
    isInterfaceName (dropEndWhile isBlank name) = isInterfaceName name := by
  obtain ⟨dropped, hname, hdropped⟩ := exists_dropEndWhile_append isBlank name
  have hhead : ∀ c ∈ dropped.head?, c.isUpper = false := fun c hc =>
    isUpper_eq_false_of_isBlank (hdropped c (List.mem_of_mem_head? hc))
  calc isInterfaceName (dropEndWhile isBlank name)
    _ = isInterfaceName (dropEndWhile isBlank name ++ dropped) :=
        (isInterfaceName_append _ hhead).symm
    _ = isInterfaceName name := by rw [← hname]

/-! ## The last segment -/

/-- The last segment of a text with a dot is what is behind the last dot. -/
theorem getLast?_piecesOf_trimmed {front rest : List Char} (h : '.' ∉ rest) :
    (piecesOf (· == '.') (trimmed (front ++ '.' :: rest))).getLast? =
      some (dropEndWhile isBlank rest) := by
  rw [trimmed_append_cons (by decide), piecesOf_append (by decide),
    piecesOf_of_notMem (mt mem_of_mem_dropEndWhile h), List.getLast?_append,
    List.getLast?_singleton, Option.some_or]

/-- The last dotted segment of a type, as far as the text goes before generic arguments and marks of
nullability. -/
def lastName (type : List Char) : List Char :=
  (piecesOf (· == '.') (withoutArguments type)).getLast?.getD []

theorem withoutArguments_eq (type : List Char) :
    withoutArguments type = trimmed (type.takeWhile isBare) := rfl

theorem Classifier.isAbstraction_ofBaseName (p : List Char → Bool) (type : String) :
    (ofBaseName p).isAbstraction type = (baseName? type.toList).any p := rfl

theorem baseName?_of_bracket {type : List Char}
    (h : (dropEndWhile (· == '?') (trimmed type)).getLast? = some ']') : baseName? type = none :=
  if_pos h

theorem baseName?_of_not_bracket {type : List Char}
    (h : (dropEndWhile (· == '?') (trimmed type)).getLast? ≠ some ']') :
    baseName? type = some (lastName type) := by
  have hlast := List.getLast?_eq_some_getLast
    (piecesOf_ne_nil (· == '.') (withoutArguments type))
  rw [baseName?, if_neg h, lastName, hlast, Option.getD_some]

/-! ## What a text shows -/

/-- The name that stands behind the last dot of a text, if there is a dot. Behind the name the text
goes on without a capital. -/
inductive Shows : List Char → Option (List Char) → Prop
  | nothing {text : List Char} (h : '.' ∉ text) : Shows text none
  | name {front name tail : List Char} (h : '.' ∉ name ++ tail)
      (htail : ∀ c ∈ tail.head?, c.isUpper = false) :
      Shows (front ++ '.' :: (name ++ tail)) (some name)

/-- Of two texts, the second decides if it has a dot. Otherwise the first does, where the second goes
on without a capital. -/
theorem Shows.append {x y : List Char} {m n : Option (List Char)} (hx : Shows x m) (hy : Shows y n)
    (hhead : m ≠ none → ∀ c ∈ y.head?, c.isUpper = false) : Shows (x ++ y) (n.or m) := by
  cases hy with
  | name h htail =>
    rw [← List.append_assoc]
    exact .name h htail
  | nothing h =>
    cases hx with
    | nothing hx => exact .nothing (by simp [hx, h])
    | @name front name tail hx htail =>
      have hhead := hhead (Option.some_ne_none name)
      rw [List.append_assoc, List.cons_append, List.append_assoc]
      refine .name (by simp_all) fun c hc => ?_
      rw [List.head?_append] at hc
      obtain _ | ⟨a, tail⟩ := tail
      · exact hhead c hc
      · exact htail c hc

/-! ## What the convention sees -/

/-- The name that a text shows decides; where it shows none, its beginning does. -/
theorem isAbstraction_of_shows {type : List Char} {name? : Option (List Char)}
    (hbracket : ']' ∉ type) (hhead : ∀ c ∈ (type.takeWhile isBare).head?, isBlank c = false)
    (h : Shows (type.takeWhile isBare) name?) :
    Classifier.interfaceConvention.isAbstraction (String.ofList type) =
      isInterfaceName (name?.getD (type.takeWhile isBare)) := by
  have hbase : baseName? type = some (lastName type) := by
    refine baseName?_of_not_bracket fun hlast => hbracket ?_
    exact mem_of_mem_trimmed (mem_of_mem_dropEndWhile (List.mem_of_getLast? hlast))
  rw [Classifier.interfaceConvention, Classifier.isAbstraction_ofBaseName, String.toList_ofList,
    hbase, Option.any_some, lastName, withoutArguments_eq]
  generalize type.takeWhile isBare = bare at h hhead
  cases h with
  | nothing h =>
    rw [piecesOf_of_notMem (mt mem_of_mem_trimmed h), List.getLast?_singleton,
      Option.getD_some, Option.getD_none]
    obtain _ | ⟨c, bare⟩ := bare
    · rfl
    · have hfront : (c :: bare).dropWhile isBlank = c :: bare :=
        List.dropWhile_cons_of_neg (by simp [hhead c rfl])
      rw [trimmed, hfront, isInterfaceName_dropEndWhile]
  | name h htail =>
    rw [getLast?_piecesOf_trimmed h, Option.getD_some, Option.getD_some,
      isInterfaceName_dropEndWhile, isInterfaceName_append _ htail]

end Scaffold.Fixture
