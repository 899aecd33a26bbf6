import Scaffold.Proofs.Path.Ancestors
import Scaffold.Proofs.Text.Runs

/-!
# What a path holds directly

A relative text read from a path that is not empty adds its segments to the components of the path
(`components_join`), however either is spelled; where the text opens with a name, this begins its
first segment (`components_child_append`). A path lies directly in another when that is its
parent, in some spelling; for one that is not empty this is a matter of components: there is exactly
one more (`directlyIn_iff`).
-/

namespace Scaffold.Path

open Text (piecesOf)

/-! ## Reading a text from a path -/

/-- The components that segments stand for, when none of them opens a path. -/
def componentsBehind (cs : List Char) : List Component :=
  (piecesOf isSeparator cs).filterMap componentOf?

/-- A segment of three characters and more is a name. -/
theorem componentOf?_of_length {segment : List Char} (h : 3 ≤ segment.length) :
    componentOf? segment = some (.name (String.ofList segment)) := by
  unfold componentOf?
  split
  · exact absurd h (by decide)
  · exact absurd h (by decide)
  · exact absurd h (by decide)
  · rfl

/-- Behind a separator, a text adds the components of its segments. -/
theorem components_append_separator {front : List Char} (hfront : front ≠ []) (cs : List Char) :
    components ⟨String.ofList (front ++ '/' :: cs)⟩ =
      components ⟨String.ofList front⟩ ++ componentsBehind cs := by
  have hslash : isSeparator '/' = true := rfl
  obtain ⟨c, front, rfl⟩ := List.exists_cons_of_ne_nil hfront
  -- Only the first character says whether the path is absolute, and it is that of the front.
  simp only [components, String.toList_ofList, List.cons_append]
  by_cases hc : isSeparator c = true
  · rw [if_pos hc, if_pos hc, Text.piecesOf_append hslash, List.filterMap_append, List.cons_append]
    rfl
  · have hpieces : piecesOf isSeparator (c :: (front ++ '/' :: cs)) =
        piecesOf isSeparator (c :: front) ++ piecesOf isSeparator cs :=
      Text.piecesOf_append hslash (c :: front) cs
    rw [if_neg hc, if_neg hc, hpieces]
    cases hfirst : piecesOf isSeparator (c :: front) with
    | nil => exact absurd hfirst (Text.piecesOf_ne_nil _ _)
    | cons first rest =>
      simp only [List.cons_append]
      rw [List.filterMap_append, List.append_assoc]
      rfl

/-- Behind the separator that a path ends with, a text adds the components of its segments. -/
theorem components_append_of_separator (front cs : List Char) :
    components ⟨String.ofList (front ++ '/' :: cs)⟩ =
      components ⟨String.ofList (front ++ ['/'])⟩ ++ componentsBehind cs := by
  by_cases hfront : front = []
  · subst hfront
    simp only [components, String.toList_ofList, List.nil_append]
    rfl
  · have hbehind : componentsBehind [] = [] := rfl
    rw [components_append_separator hfront, components_append_separator hfront, hbehind,
      List.append_nil]

/-- A relative path read from one that is not empty adds the components of its segments. -/
theorem components_join {p q : Path} (hp : p.isEmpty = false) (hq : q.isAbsolute = false) :
    (p.join q).components = p.components ++ componentsBehind q.text.toList := by
  have hne : p.text.toList ≠ [] := by
    intro hnil
    rw [isEmpty, String.toList_eq_nil_iff.1 hnil] at hp
    exact Bool.noConfusion hp
  have htext : p = ⟨String.ofList p.text.toList⟩ := by rw [String.ofList_toList]
  obtain ⟨front, c, hsplit⟩ := (List.eq_nil_or_concat' p.text.toList).resolve_left hne
  have hlast : p.text.toList.getLast? = some c := by rw [hsplit, List.getLast?_concat]
  have hrelative : ¬ q.isAbsolute = true := by
    rw [hq]
    exact Bool.false_ne_true
  rw [join, if_neg hrelative, hlast]
  simp only
  -- A separator is put between them unless the path ends with one, which then takes its place.
  by_cases hc : isSeparator c = true
  · obtain rfl : c = '/' := eq_of_beq hc
    have hjoined : p.text ++ q.text = String.ofList (front ++ '/' :: q.text.toList) := by
      rw [← String.toList_inj, String.toList_append, String.toList_ofList, hsplit,
        List.append_assoc]
      rfl
    rw [if_pos hc, hjoined, components_append_of_separator, ← hsplit, ← htext]
  · have hjoined : p.text ++ "/" ++ q.text =
        String.ofList (p.text.toList ++ '/' :: q.text.toList) := by
      have hslash : "/".toList = ['/'] := rfl
      simp only [← String.toList_inj, String.toList_append, String.toList_ofList, hslash,
        List.append_assoc, List.singleton_append]
    rw [if_neg hc, hjoined, components_append_separator hne, ← htext]

/-- A name of three characters and more without a separator, and another text behind it, lie at the
name with the first segment of that text, and then at its other segments. -/
theorem components_child_append {p : Path} {name behind : String} {first : List Char}
    {rest : List (List Char)} (hp : p.isEmpty = false)
    (hname : ∀ a ∈ name.toList, isSeparator a = false) (hlength : 3 ≤ name.toList.length)
    (hbehind : piecesOf isSeparator behind.toList = first :: rest) :
    (p.child (name ++ behind)).components =
      p.components ++ .name (name ++ String.ofList first) :: rest.filterMap componentOf? := by
  have hlist : (name ++ behind).toList = name.toList ++ behind.toList := String.toList_append
  have hrelative : isAbsolute ⟨name ++ behind⟩ = false := by
    rw [isAbsolute, hlist]
    cases hchars : name.toList with
    | nil =>
      rw [hchars] at hlength
      exact absurd hlength (by decide)
    | cons a chars =>
      rw [hchars] at hname
      exact hname a List.mem_cons_self
  have hfirst : componentOf? (name.toList ++ first) =
      some (.name (name ++ String.ofList first)) := by
    have hlong : 3 ≤ (name.toList ++ first).length := by
      rw [List.length_append]
      omega
    rw [componentOf?_of_length hlong, String.ofList_append, String.ofList_toList]
  rw [child, components_join hp hrelative, componentsBehind, hlist,
    Text.piecesOf_append_of_forall hname hbehind, List.filterMap_cons_some hfirst]

/-! ## Parents -/

/-- The first thing that is left of segments has all their components but the last; when nothing is
left, they have none beside those that every path has. -/
theorem Readable.head?_parentsOf {absolute : Bool} {reversed : List (List Char)}
    (h : Readable absolute reversed) :
    match (parentsOf absolute reversed).head? with
    | none => componentsOf absolute reversed = base absolute
    | some a => ∃ x, componentsOf absolute reversed = a.components ++ [x] := by
  induction reversed with
  | nil => rfl
  | cons s before ih =>
    have hbefore : Readable absolute before := h.of_suffix (List.suffix_cons s before)
    have hcomponents : componentsOf absolute (s :: before) =
        componentsOf absolute before ++ contribution absolute s before := rfl
    rw [parentsOf, hcomponents]
    cases hidle : isIdle absolute s before with
    | true =>
      rw [if_pos rfl, contribution_eq_nil_iff.2 hidle, List.append_nil]
      exact ih hbefore
    | false =>
      obtain ⟨x, hx⟩ := exists_contribution hidle
      rw [if_neg Bool.false_ne_true, List.head?_cons, hx]
      exact ⟨x, by rw [hbefore.components_settle]⟩

/-- The path lies directly in another: that is its parent, in some spelling. -/
def DirectlyIn (p directory : Path) : Prop :=
  ∃ parent, p.parent? = some parent ∧ parent.Same directory

/-- A path lies directly in one that is not empty when it has one more component. -/
theorem directlyIn_iff {p directory : Path} (hdirectory : directory.isEmpty = false) :
    p.DirectlyIn directory ↔ ∃ x, p.components = directory.components ++ [x] := by
  have hhead := p.readable_segments.head?_parentsOf
  rw [← parents_eq, ← components_eq] at hhead
  have hne : directory.components ≠ [] := by
    rw [ne_eq, components_eq_nil_iff, hdirectory]
    exact Bool.false_ne_true
  unfold DirectlyIn parent?
  cases hparent : p.parents.head? with
  | none =>
    -- The root and the empty path have at most one component, and a directory has one.
    rw [hparent] at hhead
    refine iff_of_false nofun ?_
    rintro ⟨x, hx⟩
    have hlength : (base p.isAbsolute).length ≤ 1 := by
      unfold base
      split <;> simp
    have hpos := List.length_pos_iff.2 hne
    rw [← hhead, hx, List.length_append, List.length_singleton] at hlength
    omega
  | some a =>
    rw [hparent] at hhead
    obtain ⟨x, hx⟩ := hhead
    simp only [Option.some.injEq, exists_eq_left', hx, Same]
    constructor
    · intro h
      exact ⟨x, by rw [h]⟩
    · rintro ⟨y, hy⟩
      exact (List.append_inj' hy rfl).1

end Scaffold.Path
