import Mathlib.Data.List.TakeWhile
import Scaffold.Proofs.Text.Ends
import Scaffold.Proofs.Text.Runs

/-!
# The words of a text

A text is laid out from words when these stand in it one after the other, with blanks around them
and at least one between two of them (`LaidOut`). Every text is laid out from just one list of
words, those that it is split into (`wordsOf_eq_iff`), and compacting keeps these and forgets the
layout: compacted texts are the same exactly where the words are (`compact_eq_iff`), and compacting
a compacted text does nothing (`compact_compact`).
-/

namespace Scaffold.Text

variable {p : Char → Bool} {cs front rest gap word : List Char} {words : List (List Char)} {c : Char}

/-! ## Runs of texts put together -/

theorem runsOf_of_forall (hne : cs ≠ []) (h : ∀ a ∈ cs, p a = false) : runsOf p cs = [cs] := by
  rw [runsOf, piecesOf_of_forall h, List.filter_cons_of_pos (by simp [hne]), List.filter_nil]

/-- A text of separators has no runs. -/
theorem runsOf_eq_nil (h : ∀ a ∈ cs, p a = true) : runsOf p cs = [] := by
  induction cs with
  | nil => rfl
  | cons a cs ih =>
    obtain ⟨ha, hcs⟩ := List.forall_mem_cons.1 h
    rw [runsOf_cons_of_pos ha, ih hcs]

/-- No run goes on over the beginning of a text that begins with a separator. -/
theorem runsOf_append_of_head? (h : ∀ a ∈ rest.head?, p a = true) (front : List Char) :
    runsOf p (front ++ rest) = runsOf p front ++ runsOf p rest := by
  cases rest with
  | nil => rw [List.append_nil, runsOf_nil, List.append_nil]
  | cons a rest =>
    have ha : p a = true := h a rfl
    rw [runsOf_cons_of_pos ha, runsOf, piecesOf_append ha, List.filter_append]
    rfl

/-- No run goes on over the end of a text that ends with a separator. -/
theorem runsOf_append_of_getLast? (h : ∀ a ∈ front.getLast?, p a = true) (rest : List Char) :
    runsOf p (front ++ rest) = runsOf p front ++ runsOf p rest := by
  obtain rfl | ⟨before, a, rfl⟩ := List.eq_nil_or_concat' front
  · rfl
  · have ha : p a = true := h a (by simp)
    rw [List.append_assoc, runsOf_append_of_head? (by simpa using ha), List.singleton_append,
      runsOf_cons_of_pos ha, runsOf_concat_of_pos ha]

/-- Runs with a separator between two of them are the runs of the text that they make. -/
theorem runsOf_intercalate (hc : p c = true) {runs : List (List Char)}
    (h : ∀ run ∈ runs, run ≠ [] ∧ ∀ a ∈ run, p a = false) :
    runsOf p ([c].intercalate runs) = runs := by
  by_cases hruns : runs = []
  · subst hruns
    rfl
  · rw [runsOf, piecesOf_intercalate hc hruns fun run hrun => (h run hrun).2, List.filter_eq_self]
    intro run hrun
    simpa using (h run hrun).1

/-! ## Words -/

/-- A word is not empty, and there is no blank in it. -/
structure IsWord (word : List Char) : Prop where
  ne_nil : word ≠ []
  inside : ∀ a ∈ word, isBlank a = false

/-- A gap is not empty, and there are only blanks in it. -/
structure IsGap (gap : List Char) : Prop where
  ne_nil : gap ≠ []
  inside : ∀ a ∈ gap, isBlank a = true

instance (word : List Char) : Decidable (IsWord word) :=
  decidable_of_iff (word ≠ [] ∧ word.all (!isBlank ·) = true)
    ⟨fun h => ⟨h.1, by simpa using h.2⟩, fun h => ⟨h.ne_nil, by simpa using h.inside⟩⟩

instance (gap : List Char) : Decidable (IsGap gap) :=
  decidable_of_iff (gap ≠ [] ∧ gap.all isBlank = true)
    ⟨fun h => ⟨h.1, List.all_eq_true.1 h.2⟩, fun h => ⟨h.ne_nil, List.all_eq_true.2 h.inside⟩⟩

/-- The text consists of the words, one after the other, with blanks around them and at least one
blank between two of them. -/
inductive LaidOut : List (List Char) → List Char → Prop
  | nothing {gap : List Char} (blank : ∀ a ∈ gap, isBlank a = true) : LaidOut [] gap
  | next {gap word rest : List Char} {words : List (List Char)}
      (blank : ∀ a ∈ gap, isBlank a = true) (isWord : IsWord word)
      (ends : ∀ a ∈ rest.head?, isBlank a = true) (others : LaidOut words rest) :
      LaidOut (word :: words) (gap ++ word ++ rest)

theorem isWord_of_mem_wordsOf (h : word ∈ wordsOf cs) : IsWord word := by
  obtain ⟨hpiece, hne⟩ := List.mem_filter.1 h
  exact ⟨by simpa using hne, fun a ha => not_separator_of_mem_piecesOf hpiece ha⟩

/-- No word goes on over the beginning of a text that begins with a blank. -/
theorem wordsOf_append_of_head? (h : ∀ a ∈ rest.head?, isBlank a = true) (front : List Char) :
    wordsOf (front ++ rest) = wordsOf front ++ wordsOf rest :=
  runsOf_append_of_head? h front

/-- No word goes on over the end of a text that ends with a blank. -/
theorem wordsOf_append_of_getLast? (h : ∀ a ∈ front.getLast?, isBlank a = true) (rest : List Char) :
    wordsOf (front ++ rest) = wordsOf front ++ wordsOf rest :=
  runsOf_append_of_getLast? h rest

theorem wordsOf_eq_nil (h : ∀ a ∈ cs, isBlank a = true) : wordsOf cs = [] :=
  runsOf_eq_nil h

theorem IsWord.wordsOf_eq (h : IsWord word) : wordsOf word = [word] :=
  runsOf_of_forall h.ne_nil h.inside

/-- Blanks at the front do not count. -/
theorem wordsOf_append (h : ∀ a ∈ gap, isBlank a = true) (cs : List Char) :
    wordsOf (gap ++ cs) = wordsOf cs := by
  rw [wordsOf_append_of_getLast? fun a ha => h a (List.mem_of_getLast? ha), wordsOf_eq_nil h,
    List.nil_append]

/-- The first word of a text that begins with it. -/
theorem IsWord.wordsOf_append (h : IsWord word) (hends : ∀ a ∈ rest.head?, isBlank a = true) :
    wordsOf (word ++ rest) = word :: wordsOf rest := by
  rw [wordsOf_append_of_head? hends, h.wordsOf_eq, List.singleton_append]

theorem LaidOut.wordsOf_eq (h : LaidOut words cs) : wordsOf cs = words := by
  induction h with
  | nothing blank => exact wordsOf_eq_nil blank
  | next blank isWord ends _ ih =>
    rw [List.append_assoc, wordsOf_append blank, isWord.wordsOf_append ends, ih]

/-- A text is laid out from the words that it is split into. -/
theorem laidOut_wordsOf (cs : List Char) : LaidOut (wordsOf cs) cs := by
  -- What follows the first word is a shorter text, which is empty or begins with a blank.
  induction hn : cs.length using Nat.strongRecOn generalizing cs with
  | ind n ih =>
    have hgap : ∀ a ∈ cs.takeWhile isBlank, isBlank a = true :=
      fun a ha => List.mem_takeWhile_imp ha
    have hcs : cs.takeWhile isBlank ++ cs.dropWhile isBlank = cs := List.takeWhile_append_dropWhile
    have hhead := List.head?_dropWhile_not isBlank cs
    generalize cs.takeWhile isBlank = gap at hgap hcs
    generalize cs.dropWhile isBlank = text at hcs hhead
    subst hcs
    rw [wordsOf_append hgap]
    cases text with
    | nil =>
      rw [List.append_nil]
      exact .nothing hgap
    | cons first text =>
      have hfirst : isBlank first = false := by simpa using hhead
      obtain ⟨word, rest, htext, hword, hends⟩ : ∃ word rest, first :: text = word ++ rest ∧
          IsWord word ∧ ∀ a ∈ rest.head?, isBlank a = true := by
        obtain hnone | ⟨word, b, rest, htext, hword, hb⟩ :=
          exists_first_separator isBlank (first :: text)
        · exact ⟨first :: text, [], (List.append_nil _).symm, ⟨by simp, hnone⟩, by simp⟩
        · refine ⟨word, b :: rest, htext, ⟨?_, hword⟩, by simpa using hb⟩
          rintro rfl
          obtain rfl : first = b := (List.cons.inj htext).1
          exact absurd hb (by simp [hfirst])
      have hlt : rest.length < n := by
        have hpos : 0 < word.length := List.length_pos_iff.2 hword.ne_nil
        rw [← hn, htext, List.length_append, List.length_append]
        omega
      rw [htext, hword.wordsOf_append hends, ← List.append_assoc]
      exact .next hgap hword hends (ih rest.length hlt rest rfl)

/-- The words that a text is laid out from are those that it is split into, and no others. -/
theorem wordsOf_eq_iff : wordsOf cs = words ↔ LaidOut words cs :=
  ⟨fun h => h ▸ laidOut_wordsOf cs, LaidOut.wordsOf_eq⟩

/-- A text with a character that is no blank has a word. -/
theorem wordsOf_ne_nil (hmem : c ∈ cs) (hc : isBlank c = false) : wordsOf cs ≠ [] := by
  intro hnil
  cases wordsOf_eq_iff.1 hnil with
  | nothing blank => exact absurd (blank c hmem) (by simp [hc])

/-! ## Joining with separators -/

section Intercalate

variable {α : Type} {separator x y : List α} {xs ys : List (List α)}

theorem intercalate_append (hxs : xs ≠ []) (hys : ys ≠ []) : separator.intercalate (xs ++ ys) =
    separator.intercalate xs ++ separator ++ separator.intercalate ys := by
  induction xs with
  | nil => exact absurd rfl hxs
  | cons x xs ih =>
    by_cases hnil : xs = []
    · subst hnil
      rw [List.singleton_append, List.intercalate_cons_of_ne_nil hys, List.intercalate_singleton]
    · rw [List.cons_append, List.intercalate_cons_of_ne_nil (by simp [hnil]), ih hnil,
        List.intercalate_cons_of_ne_nil hnil]
      simp only [List.append_assoc]

/-- What the last part ends with ends the whole. -/
theorem intercalate_concat_append (xs : List (List α)) (x y : List α) :
    separator.intercalate (xs ++ [x ++ y]) = separator.intercalate (xs ++ [x]) ++ y := by
  by_cases hnil : xs = []
  · subst hnil
    rw [List.nil_append, List.nil_append, List.intercalate_singleton, List.intercalate_singleton]
  · rw [intercalate_append hnil (by simp), intercalate_append hnil (by simp),
      List.intercalate_singleton, List.intercalate_singleton, List.append_assoc,
      List.append_assoc, List.append_assoc]

end Intercalate

/-! ## Compacted texts -/

theorem wordsOf_compacted (cs : List Char) : wordsOf (compacted cs) = wordsOf cs :=
  runsOf_intercalate (by decide) fun _ hword =>
    ⟨(isWord_of_mem_wordsOf hword).ne_nil, (isWord_of_mem_wordsOf hword).inside⟩

theorem compacted_compacted (cs : List Char) : compacted (compacted cs) = compacted cs :=
  congrArg [' '].intercalate (wordsOf_compacted cs)

/-- The compacted text has the words of the text and forgets all else. -/
theorem compacted_eq_iff {ds : List Char} :
    compacted cs = compacted ds ↔ wordsOf cs = wordsOf ds := by
  constructor
  · intro h
    rw [← wordsOf_compacted cs, h, wordsOf_compacted]
  · exact fun h => congrArg [' '].intercalate h

/-- Blanks between two parts of a text become one space. -/
theorem compacted_append (hfront : wordsOf front ≠ []) (hgap : IsGap gap)
    (hrest : wordsOf rest ≠ []) :
    compacted (front ++ (gap ++ rest)) = compacted front ++ ' ' :: compacted rest := by
  have hhead : ∀ a ∈ (gap ++ rest).head?, isBlank a = true := by
    obtain ⟨b, blanks, rfl⟩ := List.exists_cons_of_ne_nil hgap.ne_nil
    simpa using hgap.inside b List.mem_cons_self
  rw [compacted, wordsOf_append_of_head? hhead, wordsOf_append hgap.inside,
    intercalate_append hfront hrest, List.append_assoc]
  rfl

/-- Blanks at the end do not count. -/
theorem compacted_append_blanks (h : ∀ a ∈ gap, isBlank a = true) (cs : List Char) :
    compacted (cs ++ gap) = compacted cs := by
  have hhead : ∀ a ∈ gap.head?, isBlank a = true := fun a ha => h a (List.mem_of_head? ha)
  rw [compacted, wordsOf_append_of_head? hhead, wordsOf_eq_nil h, List.append_nil]
  rfl

/-- A character that is no blank stays at the end. Before it stands the compacted text, and a space
if the character is a word of its own. -/
theorem compacted_concat (hc : isBlank c = false) (cs : List Char) :
    ∃ front, compacted (cs ++ [c]) = front ++ [c] ∧
      ∀ a ∈ cs.getLast?, wordsOf cs ≠ [] →
        front = if isBlank a then compacted cs ++ [' '] else compacted cs := by
  -- The part of the text behind its last blank makes one word with the character.
  obtain ⟨last, hcs, hlast⟩ := exists_dropEndWhile_append (fun a => !isBlank a) cs
  have hends : ∀ a ∈ (dropEndWhile (fun a => !isBlank a) cs).getLast?, isBlank a = true :=
    fun a ha => by simpa using not_mem_getLast?_dropEndWhile ha
  have hinside : ∀ a ∈ last, isBlank a = false := fun a ha => by simpa using hlast a ha
  generalize dropEndWhile (fun a => !isBlank a) cs = front at hcs hends
  subst hcs
  have hword : IsWord (last ++ [c]) :=
    ⟨by simp, List.forall_mem_append.2 ⟨hinside, List.forall_mem_singleton.2 hc⟩⟩
  refine ⟨[' '].intercalate (wordsOf front ++ [last]), ?_, fun a ha hne => ?_⟩
  · rw [compacted, List.append_assoc, wordsOf_append_of_getLast? hends, hword.wordsOf_eq,
      intercalate_concat_append]
  · by_cases hempty : last = []
    · subst hempty
      rw [List.append_nil] at ha hne ⊢
      rw [if_pos (hends a ha), intercalate_append hne (by simp), List.intercalate_singleton,
        List.append_nil]
      rfl
    · have hmem : a ∈ last := by
        rw [List.getLast?_append_of_ne_nil _ hempty] at ha
        exact List.mem_of_getLast? ha
      have hlast : IsWord last := ⟨hempty, hinside⟩
      rw [if_neg (by simp [hinside a hmem]), compacted, wordsOf_append_of_getLast? hends,
        hlast.wordsOf_eq]

/-- A compacted text has no blank at either end. -/
theorem trimmed_compacted (cs : List Char) : trimmed (compacted cs) = compacted cs := by
  have hwords : ∀ word ∈ wordsOf cs, IsWord word := fun word hword => isWord_of_mem_wordsOf hword
  rw [compacted]
  generalize wordsOf cs = words at hwords
  refine trimmed_eq_self (fun a ha => ?_) fun a ha => ?_
  · cases words with
    | nil => exact absurd ha (by simp)
    | cons word words =>
      obtain ⟨hword, -⟩ := List.forall_mem_cons.1 hwords
      obtain ⟨b, word, rfl⟩ := List.exists_cons_of_ne_nil hword.ne_nil
      rw [List.intercalate_cons_cons_left, List.head?_cons] at ha
      exact hword.inside a (Option.some.inj ha ▸ List.mem_cons_self)
  · obtain rfl | ⟨words, word, rfl⟩ := List.eq_nil_or_concat' words
    · exact absurd ha (by simp)
    · have hword : IsWord word := hwords word (by simp)
      obtain rfl | ⟨word, b, rfl⟩ := List.eq_nil_or_concat' word
      · exact absurd rfl hword.ne_nil
      · rw [intercalate_concat_append, List.getLast?_concat] at ha
        exact hword.inside a (Option.some.inj ha ▸ by simp)

/-- The only word of a text is the trimmed text. -/
theorem LaidOut.trimmed_eq (h : LaidOut [word] cs) : trimmed cs = word := by
  cases h with
  | @next gap _ rest _ blank isWord _ others =>
    have hrest : ∀ a ∈ rest, isBlank a = true := by
      cases others with
      | nothing blank => exact blank
    have hends : trimmed word = word :=
      trimmed_eq_self (fun a ha => isWord.inside a (List.mem_of_head? ha))
        fun a ha => isWord.inside a (List.mem_of_getLast? ha)
    rw [List.append_assoc, trimmed_append blank, trimmed_append_blanks hrest, hends]

/-! ## Strings -/

section Strings

variable {s t : String}

/-- The texts are laid out from the same words. -/
def SameWords (s t : String) : Prop :=
  ∃ words, LaidOut words s.toList ∧ LaidOut words t.toList

theorem sameWords_iff_wordsOf : SameWords s t ↔ wordsOf s.toList = wordsOf t.toList := by
  constructor
  · rintro ⟨words, hs, ht⟩
    rw [hs.wordsOf_eq, ht.wordsOf_eq]
  · exact fun h => ⟨wordsOf s.toList, laidOut_wordsOf _, h ▸ laidOut_wordsOf _⟩

theorem SameWords.symm (h : SameWords s t) : SameWords t s := by
  obtain ⟨words, hs, ht⟩ := h
  exact ⟨words, ht, hs⟩

theorem SameWords.words_eq (h : SameWords s t) : Text.words s = Text.words t :=
  congrArg (List.map String.ofList) (sameWords_iff_wordsOf.1 h)

/-- Compacted texts are the same just where the texts have the same words. -/
theorem compact_eq_iff : compact s = compact t ↔ SameWords s t := by
  rw [sameWords_iff_wordsOf, ← compacted_eq_iff, compact, compact, String.ofList_inj]

theorem compact_compact (s : String) : compact (compact s) = compact s := by
  rw [compact, compact, String.toList_ofList, compacted_compacted]

theorem trim_compact (s : String) : trim (compact s) = compact s := by
  rw [trim, compact, String.toList_ofList, trimmed_compacted]

/-- Behind a word and a gap there is one space in the compacted text. -/
theorem compact_append {word gap : String} (hword : IsWord word.toList) (hgap : IsGap gap.toList)
    (hrest : wordsOf s.toList ≠ []) : compact (word ++ (gap ++ s)) = word ++ " " ++ compact s := by
  have hne : wordsOf word.toList ≠ [] := by simp [hword.wordsOf_eq]
  have hcompacted : compacted word.toList = word.toList := by
    rw [compacted, hword.wordsOf_eq, List.intercalate_singleton]
  rw [← String.toList_inj]
  simp only [compact, String.toList_append, String.toList_ofList]
  rw [compacted_append hne hgap hrest, hcompacted, List.append_assoc]
  rfl

/-- A trimmed text that has one word is this word. -/
theorem SameWords.eq_of_isWord (h : SameWords s t) (hs : IsWord s.toList) (ht : trim t = t) :
    t = s := by
  obtain ⟨words, hwords, hlaid⟩ := h
  obtain rfl : words = [s.toList] := hwords.wordsOf_eq.symm.trans hs.wordsOf_eq
  rw [← ht, trim, hlaid.trimmed_eq, String.ofList_toList]

end Strings

end Scaffold.Text
