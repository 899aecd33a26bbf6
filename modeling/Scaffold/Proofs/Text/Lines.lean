import Scaffold.Text.Blank

/-!
# Lines of a text

The lines of a text are its pieces between line feeds. A text without a line feed is plain; plain
lines, each with a line feed after it, make a text with just these lines and an empty one at the end
(`linesOf_join`).
-/

namespace Scaffold.Text

/-- A function that splits a list one element after the other is the library's splitting. -/
theorem eq_splitOnP {α : Type} {p : α → Bool} {split : List α → List (List α)}
    (hnil : split [] = [[]]) (hpos : ∀ a l, p a = true → split (a :: l) = [] :: split l)
    (hneg : ∀ a l piece pieces, p a ≠ true → split l = piece :: pieces →
      split (a :: l) = (a :: piece) :: pieces) (l : List α) : split l = l.splitOnP p := by
  induction l with
  | nil => exact hnil
  | cons a l ih =>
    rw [List.splitOnP_cons_eq_if_modifyHead, ← ih]
    by_cases ha : p a = true
    · rw [if_pos ha, hpos a l ha]
    · obtain ⟨piece, pieces, hpieces⟩ : ∃ piece pieces, split l = piece :: pieces :=
        List.exists_cons_of_ne_nil (ih ▸ List.splitOnP_ne_nil p l)
      rw [if_neg ha, hneg a l piece pieces ha hpieces, hpieces]
      rfl

/-! ## Pieces -/

section Pieces

variable {p : Char → Bool} {cs rest : List Char} {c : Char}

/-- The pieces of a text are those that the library splits a list into. -/
theorem piecesOf_eq_splitOnP (p : Char → Bool) (cs : List Char) : piecesOf p cs = cs.splitOnP p :=
  eq_splitOnP rfl (fun c cs hc => by rw [piecesOf, if_pos hc])
    (fun c cs piece pieces hc hcs => by rw [piecesOf, if_neg hc, hcs]) cs

/-- A separator stands between the pieces before it and the pieces behind it. -/
theorem piecesOf_append (hc : p c = true) (front rest : List Char) :
    piecesOf p (front ++ c :: rest) = piecesOf p front ++ piecesOf p rest := by
  simp only [piecesOf_eq_splitOnP]
  exact List.splitOnP_append_cons front rest hc

/-- A text without a separator is one piece. -/
theorem piecesOf_of_forall (h : ∀ a ∈ cs, p a = false) : piecesOf p cs = [cs] := by
  rw [piecesOf_eq_splitOnP, List.splitOnP_eq_singleton h]

/-- What comes before the first separator is the first piece. -/
theorem piecesOf_append_cons (h : ∀ a ∈ cs, p a = false) (hc : p c = true) :
    piecesOf p (cs ++ c :: rest) = cs :: piecesOf p rest := by
  rw [piecesOf_append hc, piecesOf_of_forall h, List.singleton_append]

theorem beq_eq_false_of_notMem (h : c ∉ cs) : ∀ a ∈ cs, (a == c) = false :=
  fun _ ha => beq_false_of_ne fun hac => h (hac ▸ ha)

theorem piecesOf_of_notMem (h : c ∉ cs) : piecesOf (· == c) cs = [cs] :=
  piecesOf_of_forall (beq_eq_false_of_notMem h)

theorem piecesOf_append_of_notMem (h : c ∉ cs) :
    piecesOf (· == c) (cs ++ c :: rest) = cs :: piecesOf (· == c) rest :=
  piecesOf_append_cons (beq_eq_false_of_notMem h) (beq_self_eq_true c)

/-- Texts without a separator are the pieces of the text that they make with separators between
them. -/
theorem piecesOf_intercalate (hc : p c = true) {l : List (List Char)} (hl : l ≠ [])
    (h : ∀ s ∈ l, ∀ a ∈ s, p a = false) : piecesOf p ([c].intercalate l) = l := by
  induction l with
  | nil => exact absurd rfl hl
  | cons s l ih =>
    obtain ⟨hs, hrest⟩ := List.forall_mem_cons.1 h
    cases l with
    | nil =>
      rw [List.intercalate_singleton]
      exact piecesOf_of_forall hs
    | cons t l =>
      rw [List.intercalate_cons_cons, List.append_assoc, List.singleton_append,
        piecesOf_append_cons hs hc, ih (List.cons_ne_nil t l) hrest]

/-- No piece has a separator. -/
theorem not_separator_of_mem_piecesOf {piece : List Char} (h : piece ∈ piecesOf p cs) {a : Char}
    (ha : a ∈ piece) : p a = false := by
  induction cs generalizing piece with
  | nil =>
    rw [piecesOf, List.mem_singleton] at h
    subst h
    cases ha
  | cons b cs ih =>
    rw [piecesOf] at h
    split at h
    · rcases List.mem_cons.1 h with rfl | h
      · cases ha
      · exact ih h ha
    · rename_i hb
      split at h
      · rename_i hnil
        exact absurd hnil (piecesOf_ne_nil p cs)
      · rename_i first others hcons
        rcases List.mem_cons.1 h with rfl | h
        · rcases List.mem_cons.1 ha with rfl | ha
          · simpa using hb
          · exact ih (hcons ▸ List.mem_cons_self) ha
        · exact ih (hcons ▸ List.mem_cons_of_mem first h) ha

end Pieces

/-! ## The first separator -/

section First

variable {c : Char} {s front rest : String}

theorem splitFirst?_of_notMem (h : c ∉ s.toList) : splitFirst? c s = none := by
  -- The library drops a front, so the text is read as a front without anything behind it.
  have hnothing : s.toList.dropWhile (· != c) = [] := by
    rw [← List.append_nil s.toList, List.dropWhile_append_of_pos, List.dropWhile_nil]
    exact fun a ha => bne_iff_ne.2 fun hac => h (hac ▸ ha)
  rw [splitFirst?, hnothing]

theorem splitFirst?_append (h : c ∉ front.toList) :
    splitFirst? c (front ++ String.singleton c ++ rest) = some (front, rest) := by
  have hfront : ∀ a ∈ front.toList, (a != c) = true :=
    fun a ha => bne_iff_ne.2 fun hac => h (hac ▸ ha)
  have hchars : (front ++ String.singleton c ++ rest).toList =
      front.toList ++ c :: rest.toList := by
    simp
  have hback : (front.toList ++ c :: rest.toList).dropWhile (· != c) = c :: rest.toList := by
    rw [List.dropWhile_append_of_pos hfront, List.dropWhile_cons_of_neg (by simp)]
  have htaken : (front.toList ++ c :: rest.toList).takeWhile (· != c) = front.toList := by
    rw [List.takeWhile_append_of_pos hfront, List.takeWhile_cons_of_neg (by simp), List.append_nil]
  rw [splitFirst?, hchars, hback, htaken, String.ofList_toList]
  show some (front, String.ofList rest.toList) = _
  rw [String.ofList_toList]

/-- A text is split at its first `c`, unless it has none. -/
theorem splitFirst?_cases (c : Char) (s : String) : c ∉ s.toList ∧ splitFirst? c s = none ∨
    ∃ front rest, s = front ++ String.singleton c ++ rest ∧ c ∉ front.toList ∧
      splitFirst? c s = some (front, rest) := by
  by_cases h : c ∈ s.toList
  · obtain ⟨front, rest, hs, hfront⟩ := List.eq_append_cons_of_mem h
    have hsplit : s = String.ofList front ++ String.singleton c ++ String.ofList rest := by
      rw [← String.toList_inj, hs]
      simp
    have hnone : c ∉ (String.ofList front).toList := by rwa [String.toList_ofList]
    exact .inr ⟨_, _, hsplit, hnone, by rw [hsplit, splitFirst?_append hnone]⟩
  · exact .inl ⟨h, splitFirst?_of_notMem h⟩

end First

/-! ## Numerals -/

/-- A numeral consists of digits. -/
theorem isDigit_of_mem_toString {n : Nat} {c : Char} (h : c ∈ (toString n).toList) :
    c.isDigit = true := by
  rw [Nat.toString_eq_ofList_toDigits, String.toList_ofList] at h
  exact Nat.isDigit_of_mem_toDigits (by decide) (Nat.le_refl 10) h

/-! ## Plain texts -/

/-- A text without a line feed. -/
def Plain (s : String) : Prop :=
  '\n' ∉ s.toList

instance : DecidablePred Plain := fun s => inferInstanceAs (Decidable ('\n' ∉ s.toList))

@[simp] theorem plain_append {s t : String} : Plain (s ++ t) ↔ Plain s ∧ Plain t := by
  simp [Plain]

/-- A text of characters that are no line feeds is plain. -/
theorem plain_ofList {cs : List Char} (h : ∀ c ∈ cs, c ≠ '\n') : Plain (String.ofList cs) := by
  rw [Plain, String.toList_ofList]
  exact fun hmem => h '\n' hmem rfl

theorem plain_join {l : List String} (h : ∀ s ∈ l, Plain s) : Plain (String.join l) := by
  rw [Plain, String.toList_join]
  intro hmem
  obtain ⟨s, hs, hmem⟩ := List.mem_flatMap.1 hmem
  exact h s hs hmem

theorem plain_intercalate {separator : String} (hs : Plain separator) {l : List String}
    (h : ∀ s ∈ l, Plain s) : Plain (separator.intercalate l) := by
  induction l with
  | nil => simp [Plain]
  | cons s l ih =>
    obtain ⟨hhead, htail⟩ := List.forall_mem_cons.1 h
    cases l with
    | nil => simpa using hhead
    | cons t l =>
      rw [String.intercalate_cons_cons]
      simp [hs, hhead, ih htail]

theorem plain_toString (n : Nat) : Plain (toString n) := by
  intro hlf
  exact absurd (isDigit_of_mem_toString hlf) (by decide)

/-! ## Lines -/

/-- The lines of a text. -/
def linesOf (s : String) : List String :=
  pieces (· == '\n') s

/-- Plain lines are the lines of the text that they make. -/
theorem linesOf_join {l : List String} (h : ∀ s ∈ l, Plain s) :
    linesOf (String.join (l.map (· ++ "\n"))) = l ++ [""] := by
  induction l with
  | nil => rfl
  | cons s l ih =>
    obtain ⟨hhead, htail⟩ := List.forall_mem_cons.1 h
    have hlf : "\n".toList = ['\n'] := rfl
    rw [List.map_cons, String.join_cons, linesOf, pieces, String.toList_append,
      String.toList_append, hlf, List.append_assoc, List.singleton_append,
      piecesOf_append_of_notMem hhead, List.map_cons, String.ofList_toList, List.cons_append]
    exact congrArg (s :: ·) (ih htail)

end Scaffold.Text
