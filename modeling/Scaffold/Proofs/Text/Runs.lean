import Mathlib.Data.List.Basic
import Mathlib.Data.List.Induction
import Scaffold.Proofs.Text.Lines

/-!
# Maximal runs of characters

The pieces of a text are the parts of it that have no separator inside and cannot be made longer on
either side (`mem_piecesOf_iff`). So splitting a text at all characters without a property finds the
maximal runs of characters with it, and these only (`mem_runsOf_iff`). Blanks at the ends of a text
take no part in its runs (`runsOf_trimmed`).
-/

namespace Scaffold.Text

variable {p q : Char → Bool} {cs front back rest piece run : List Char} {c : Char}

/-! ## Pieces -/

/-- What stands before a text and has no separator stands in its first piece. -/
theorem piecesOf_append_of_forall {first : List Char} {others : List (List Char)}
    (hfront : ∀ a ∈ front, p a = false) (h : piecesOf p cs = first :: others) :
    piecesOf p (front ++ cs) = (front ++ first) :: others := by
  induction front with
  | nil => exact h
  | cons a front ih =>
    obtain ⟨ha, hfront⟩ := List.forall_mem_cons.1 hfront
    rw [List.cons_append, piecesOf, ih hfront, ha]
    rfl

/-- A text has no separator, or it has a first one. -/
theorem exists_first_separator (p : Char → Bool) (cs : List Char) :
    (∀ a ∈ cs, p a = false) ∨
      ∃ first c rest, cs = first ++ c :: rest ∧ (∀ a ∈ first, p a = false) ∧ p c = true := by
  cases h : cs.find? p with
  | none =>
    refine .inl fun a ha => ?_
    simpa using List.find?_eq_none.1 h a ha
  | some c =>
    obtain ⟨hc, first, rest, rfl, hfirst⟩ := List.find?_eq_some_iff_append.1 h
    exact .inr ⟨first, c, rest, rfl, fun a ha => by simpa using hfirst a ha, hc⟩

/-- What is on both sides of a piece: an end of the text or a separator. -/
theorem exists_sides_of_mem_piecesOf (h : piece ∈ piecesOf p cs) :
    ∃ front back, cs = front ++ piece ++ back ∧ (∀ a ∈ front.getLast?, p a = true) ∧
      ∀ a ∈ back.head?, p a = true := by
  -- The pieces behind the first separator are those of a shorter text.
  induction hn : cs.length using Nat.strongRecOn generalizing cs with
  | ind n ih =>
    obtain hnone | ⟨first, c, rest, rfl, hfirst, hc⟩ := exists_first_separator p cs
    · rw [piecesOf_of_forall hnone, List.mem_singleton] at h
      exact ⟨[], [], by simp [h], by simp, by simp⟩
    · rw [piecesOf_append_cons hfirst hc] at h
      obtain rfl | h := List.mem_cons.1 h
      · exact ⟨[], c :: rest, rfl, by simp, by simpa using hc⟩
      · have hlt : rest.length < n := by
          rw [← hn, List.length_append, List.length_cons]
          omega
        obtain ⟨front, back, rfl, hfront, hback⟩ := ih rest.length hlt h rfl
        refine ⟨first ++ c :: front, back, by simp, fun a ha => ?_, hback⟩
        rw [List.getLast?_append, List.getLast?_cons, Option.some_or, Option.mem_some] at ha
        cases hlast : front.getLast? with
        | none =>
          rw [hlast] at ha
          exact ha ▸ hc
        | some b =>
          rw [hlast] at ha
          exact hfront a (hlast.trans (congrArg some ha))

/-- The pieces of a text are its parts without a separator that have an end of the text or a
separator on both sides. -/
theorem mem_piecesOf_iff : piece ∈ piecesOf p cs ↔
    (∀ a ∈ piece, p a = false) ∧ ∃ front back, cs = front ++ piece ++ back ∧
      (∀ a ∈ front.getLast?, p a = true) ∧ ∀ a ∈ back.head?, p a = true := by
  refine ⟨fun h => ⟨fun a ha => not_separator_of_mem_piecesOf h ha,
    exists_sides_of_mem_piecesOf h⟩, ?_⟩
  rintro ⟨hpiece, front, back, rfl, hfront, hback⟩
  have hend : piece ∈ piecesOf p (piece ++ back) := by
    cases back with
    | nil =>
      rw [List.append_nil, piecesOf_of_forall hpiece]
      exact List.mem_singleton_self piece
    | cons b back =>
      rw [piecesOf_append_cons hpiece (hback b rfl)]
      exact List.mem_cons_self
  obtain rfl | ⟨front, a, rfl⟩ := List.eq_nil_or_concat' front
  · exact hend
  · have ha : p a = true := hfront a (by simp)
    rw [List.append_assoc, List.append_assoc, List.singleton_append, piecesOf_append ha]
    exact List.mem_append_right _ hend

/-! ## Runs -/

/-- `run` is a maximal run of characters with the property `q` in a text: it is not empty, all its
characters have the property, and the characters next to it have not. -/
structure IsMaximalRun (q : Char → Bool) (run cs : List Char) : Prop where
  ne_nil : run ≠ []
  inside : ∀ a ∈ run, q a = true
  sides : ∃ front back, cs = front ++ run ++ back ∧ (∀ a ∈ front.getLast?, q a = false) ∧
    ∀ a ∈ back.head?, q a = false

/-- Splitting a text at the characters without a property finds the maximal runs of those with
it. -/
theorem mem_runsOf_iff : run ∈ runsOf (fun a => !q a) cs ↔ IsMaximalRun q run cs := by
  have hpieces : run ∈ piecesOf (fun a => !q a) cs ↔ _ := mem_piecesOf_iff
  simp only [Bool.not_eq_false', Bool.not_eq_true'] at hpieces
  rw [runsOf, List.mem_filter, hpieces, Bool.not_eq_true', List.isEmpty_eq_false_iff]
  constructor
  · rintro ⟨⟨hinside, hsides⟩, hne⟩
    exact ⟨hne, hinside, hsides⟩
  · exact fun h => ⟨⟨h.inside, h.sides⟩, h.ne_nil⟩

/-- A separator at the end changes no run. -/
theorem runsOf_concat_of_pos (hc : p c = true) (cs : List Char) :
    runsOf p (cs ++ [c]) = runsOf p cs := by
  simp [runsOf, piecesOf_append hc, piecesOf]

/-- Dropping separators from the front changes no run. -/
theorem runsOf_dropWhile (h : ∀ a, q a = true → p a = true) (cs : List Char) :
    runsOf p (cs.dropWhile q) = runsOf p cs := by
  induction cs with
  | nil => rfl
  | cons a cs ih =>
    rw [List.dropWhile_cons]
    split
    · rename_i ha
      rw [ih, runsOf_cons_of_pos (h a ha)]
    · rfl

/-- Dropping separators from the end changes no run. -/
theorem runsOf_dropEndWhile (h : ∀ a, q a = true → p a = true) (cs : List Char) :
    runsOf p (dropEndWhile q cs) = runsOf p cs := by
  induction cs using List.reverseRecOn with
  | nil => rfl
  | append_singleton cs a ih =>
    rw [dropEndWhile, List.reverse_append, List.reverse_singleton, List.singleton_append,
      List.dropWhile_cons]
    split
    · rename_i ha
      rw [← dropEndWhile, ih, runsOf_concat_of_pos (h a ha)]
    · rw [List.reverse_cons, List.reverse_reverse]

/-- Where blanks are separators, a text and the trimmed text have the same runs. -/
theorem runsOf_trimmed (h : ∀ a, isBlank a = true → p a = true) (cs : List Char) :
    runsOf p (trimmed cs) = runsOf p cs := by
  rw [trimmed, runsOf_dropEndWhile h, runsOf_dropWhile h]

end Scaffold.Text
