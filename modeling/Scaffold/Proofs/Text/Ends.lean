import Scaffold.Text.Blank

/-!
# The ends of a text

Trimming a text drops the blanks at its two ends and nothing else: the first and the last character
that is not blank stay (`head?_trimmed`, `getLast?_trimmed`), and behind and before them stand the
same characters as before (`trimmed_append_cons`). So a trimmed text has no blank at either end
(`not_isBlank_of_mem_head?_trimmed`, `not_isBlank_of_mem_getLast?_trimmed`), and a text without one
is trimmed (`trim_eq_self`).
-/

namespace Scaffold.Text

/-! ## Dropping characters from the end -/

section DropEnd

variable {p : Char → Bool} {c : Char}

/-- What is dropped from the end of a text satisfies `p`. -/
theorem exists_dropEndWhile_append (p : Char → Bool) (cs : List Char) :
    ∃ dropped, cs = dropEndWhile p cs ++ dropped ∧ ∀ a ∈ dropped, p a = true := by
  refine ⟨(cs.reverse.takeWhile p).reverse, ?_, fun a ha => ?_⟩
  · rw [dropEndWhile, ← List.reverse_append, List.takeWhile_append_dropWhile, List.reverse_reverse]
  · exact List.all_eq_true.1 List.all_takeWhile a (List.mem_reverse.1 ha)

theorem mem_of_mem_dropEndWhile {cs : List Char} (h : c ∈ dropEndWhile p cs) : c ∈ cs := by
  obtain ⟨dropped, hcs, -⟩ := exists_dropEndWhile_append p cs
  rw [hcs]
  exact List.mem_append_left dropped h

theorem mem_of_mem_trimmed {cs : List Char} (h : c ∈ trimmed cs) : c ∈ cs :=
  (List.dropWhile_sublist isBlank).subset (mem_of_mem_dropEndWhile h)

/-- Characters are dropped from the end up to the last one that does not satisfy `p`. -/
theorem dropEndWhile_append_cons (hc : p c = false) (front rest : List Char) :
    dropEndWhile p (front ++ c :: rest) = front ++ c :: dropEndWhile p rest := by
  have hreverse : (front ++ c :: rest).reverse = rest.reverse ++ c :: front.reverse := by simp
  have hdrop : (c :: front.reverse).dropWhile p = c :: front.reverse :=
    List.dropWhile_cons_of_neg (by simp [hc])
  rw [dropEndWhile, dropEndWhile, hreverse, List.dropWhile_append]
  split
  · rename_i hempty
    rw [hdrop, List.isEmpty_iff.1 hempty]
    simp
  · simp

theorem dropEndWhile_append {cs dropped : List Char} (h : ∀ a ∈ dropped, p a = true) :
    dropEndWhile p (cs ++ dropped) = dropEndWhile p cs := by
  rw [dropEndWhile, List.reverse_append,
    List.dropWhile_append_of_pos fun a ha => h a (List.mem_reverse.1 ha)]
  rfl

/-- Nothing is dropped from a text whose last character does not satisfy `p`. -/
theorem dropEndWhile_eq_self {cs : List Char} (h : ∀ a ∈ cs.getLast?, p a = false) :
    dropEndWhile p cs = cs := by
  cases hlast : cs.getLast? with
  | none =>
    rw [List.getLast?_eq_none_iff.1 hlast]
    rfl
  | some a =>
    obtain ⟨front, rfl⟩ := List.getLast?_eq_some_iff.1 hlast
    rw [dropEndWhile_append_cons (h a hlast)]
    rfl

/-- What is left does not end with a character that satisfies `p`. -/
theorem not_mem_getLast?_dropEndWhile {cs : List Char} (h : c ∈ (dropEndWhile p cs).getLast?) :
    p c = false := by
  have hfirst := List.head?_dropWhile_not p cs.reverse
  rw [dropEndWhile, List.getLast?_reverse] at h
  rw [h] at hfirst
  exact hfirst

end DropEnd

/-! ## Trimmed texts -/

section Trimmed

variable {blanks cs : List Char} {c : Char}

/-- Blanks at the front do not count. -/
theorem trimmed_append (h : ∀ a ∈ blanks, isBlank a = true) :
    trimmed (blanks ++ cs) = trimmed cs := by
  rw [trimmed, trimmed, List.dropWhile_append_of_pos h]

/-- A first character that is not blank stays the first. -/
theorem head?_trimmed (hc : isBlank c = false) : (trimmed (c :: cs)).head? = some c := by
  -- Blanks are dropped from the other end and not past `c`.
  have hlast : ((c :: cs).reverse.dropWhile isBlank).getLast? = some c := by
    rw [List.reverse_cons, List.dropWhile_append]
    split
    · simp [hc]
    · simp
  simp only [trimmed, dropEndWhile, List.dropWhile_cons, hc, Bool.false_eq_true, if_false,
    List.head?_reverse]
  exact hlast

/-- A last character that is not blank stays the last. -/
theorem getLast?_trimmed (hc : isBlank c = false) :
    (trimmed (cs ++ [c])).getLast? = some c := by
  have hdrop : (cs ++ [c]).dropWhile isBlank = cs.dropWhile isBlank ++ [c] := by
    rw [List.dropWhile_append]
    split
    · rename_i hempty
      simp [hc, List.isEmpty_iff.1 hempty]
    · rfl
  rw [trimmed, hdrop, dropEndWhile, List.reverse_append, List.reverse_singleton,
    List.singleton_append, List.dropWhile_cons, if_neg (by simp [hc])]
  simp

/-- Where the first character is not blank, trimming takes characters from the end only. -/
theorem trimmed_isPrefix (hc : isBlank c = false) : trimmed (c :: cs) <+: c :: cs := by
  have hfront : (c :: cs).dropWhile isBlank = c :: cs := by
    rw [List.dropWhile_cons, if_neg (by simp [hc])]
  have hsuffix : (c :: cs).reverse.dropWhile isBlank <:+ (c :: cs).reverse :=
    List.dropWhile_suffix isBlank
  rw [trimmed, hfront, dropEndWhile, ← List.reverse_suffix, List.reverse_reverse]
  exact hsuffix

/-- Trimming a text with a character that is not blank trims the two parts around it. -/
theorem trimmed_append_cons (hc : isBlank c = false) (front rest : List Char) :
    trimmed (front ++ c :: rest) = front.dropWhile isBlank ++ c :: dropEndWhile isBlank rest := by
  have hdrop : (c :: rest).dropWhile isBlank = c :: rest :=
    List.dropWhile_cons_of_neg (by simp [hc])
  have hfront : (front ++ c :: rest).dropWhile isBlank = front.dropWhile isBlank ++ c :: rest := by
    rw [List.dropWhile_append]
    split
    · rename_i hempty
      rw [hdrop, List.isEmpty_iff.1 hempty, List.nil_append]
    · rfl
  rw [trimmed, hfront, dropEndWhile_append_cons hc]

/-- A trimmed text does not begin with a blank. -/
theorem not_isBlank_of_mem_head?_trimmed (h : c ∈ (trimmed cs).head?) : isBlank c = false := by
  obtain ⟨dropped, hcs, -⟩ := exists_dropEndWhile_append isBlank (cs.dropWhile isBlank)
  have hhead : (cs.dropWhile isBlank).head? = some c := by
    rw [hcs, List.head?_append]
    exact congrArg (Option.or · dropped.head?) h
  have hfirst := List.head?_dropWhile_not isBlank cs
  rw [hhead] at hfirst
  exact hfirst

/-- A trimmed text does not end with a blank. -/
theorem not_isBlank_of_mem_getLast?_trimmed (h : c ∈ (trimmed cs).getLast?) :
    isBlank c = false :=
  not_mem_getLast?_dropEndWhile h

/-- Blanks at the end do not count. -/
theorem trimmed_append_blanks (h : ∀ a ∈ blanks, isBlank a = true) :
    trimmed (cs ++ blanks) = trimmed cs := by
  have hnil : (blanks ++ []).dropWhile isBlank = [] := List.dropWhile_append_of_pos h
  rw [List.append_nil] at hnil
  rw [trimmed, List.dropWhile_append]
  split
  · rename_i hempty
    rw [hnil, trimmed, List.isEmpty_iff.1 hempty]
  · rw [dropEndWhile_append h]
    rfl

/-- A text without a blank at either end is trimmed. -/
theorem trimmed_eq_self (hfirst : ∀ a ∈ cs.head?, isBlank a = false)
    (hlast : ∀ a ∈ cs.getLast?, isBlank a = false) : trimmed cs = cs := by
  have hfront : cs.dropWhile isBlank = cs := by
    cases cs with
    | nil => rfl
    | cons a cs => exact List.dropWhile_cons_of_neg (by simp [hfirst a rfl])
  rw [trimmed, hfront, dropEndWhile_eq_self hlast]

end Trimmed

/-! ## Strings -/

section Trim

variable {s t : String} {c : Char}

theorem getLast?_append (h : t.toList.getLast? = some c) :
    (s ++ t).toList.getLast? = some c := by
  rw [String.toList_append, List.getLast?_append, h]
  rfl

theorem head?_append (h : s.toList.head? = some c) : (s ++ t).toList.head? = some c := by
  rw [String.toList_append, List.head?_append, h]
  rfl

/-- Texts that begin with different characters, of which the one is not blank, stay different. -/
theorem trim_ne_of_head? (hs : s.toList.head? = some c) (hc : isBlank c = false)
    (ht : t.toList.head? ≠ some c) : trim s ≠ t := by
  obtain ⟨rest, hrest⟩ := List.head?_eq_some_iff.1 hs
  rintro rfl
  rw [trim, String.toList_ofList, hrest, head?_trimmed hc] at ht
  exact ht rfl

/-- Texts that end with different characters, of which the one is not blank, stay different. -/
theorem trim_ne_of_getLast? (hs : s.toList.getLast? = some c) (hc : isBlank c = false)
    (ht : t.toList.getLast? ≠ some c) : trim s ≠ t := by
  obtain ⟨front, hfront⟩ := List.getLast?_eq_some_iff.1 hs
  rintro rfl
  rw [trim, String.toList_ofList, hfront, getLast?_trimmed hc] at ht
  exact ht rfl

/-- A trimmed text begins with what it is, where its first character is not blank. -/
theorem trim_isPrefix (hs : s.toList.head? = some c) (hc : isBlank c = false) :
    (trim s).toList <+: s.toList := by
  obtain ⟨rest, hrest⟩ := List.head?_eq_some_iff.1 hs
  rw [trim, String.toList_ofList, hrest]
  exact trimmed_isPrefix hc

theorem trim_eq_self {d : Char} (hs : s.toList.head? = some c) (hc : isBlank c = false)
    (hl : s.toList.getLast? = some d) (hd : isBlank d = false) : trim s = s := by
  have htrimmed : trimmed s.toList = s.toList := by
    refine trimmed_eq_self (fun a ha => ?_) fun a ha => ?_
    · rw [hs] at ha
      exact Option.some.inj ha ▸ hc
    · rw [hl] at ha
      exact Option.some.inj ha ▸ hd
  rw [trim, htrimmed, String.ofList_toList]

end Trim

end Scaffold.Text
