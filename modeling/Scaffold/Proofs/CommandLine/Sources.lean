import Mathlib.Data.String.Basic
import Scaffold.CommandLine.Sources
import Scaffold.Proofs.Text.Ends
import Scaffold.Proofs.Text.Lines

/-!
# Reading lists of sources

A text that is put together of two with a separator between them has the sources of both
(`splitSources_append`), and a text that can stand in a list (`IsSource`) is one source. So a list
of such texts is read back from the text that it makes, whatever the separator is, a blank among
others, and nothing else is ever read (`splitSources_readsBack`).
-/

namespace Scaffold

open Text

/-- A text that can stand in a list of sources: it is not empty, it neither begins nor ends with a
blank, and the separator is not in it. -/
structure IsSource (separator : Char) (s : String) : Prop where
  ne_empty : s ≠ ""
  first : ∀ c ∈ s.toList.head?, isBlank c = false
  last : ∀ c ∈ s.toList.getLast?, isBlank c = false
  separator_notMem : separator ∉ s.toList

variable {separator : Char} {s text : String} {p : Path}

theorem isSource_iff : IsSource separator s ↔ s ≠ "" ∧ s.toList.head?.all (!isBlank ·) = true ∧
    s.toList.getLast?.all (!isBlank ·) = true ∧ separator ∉ s.toList := by
  have hall (o : Option Char) : o.all (!isBlank ·) = true ↔ ∀ c ∈ o, isBlank c = false := by
    cases o <;> simp
  rw [hall, hall]
  constructor
  · intro h
    exact ⟨h.ne_empty, h.first, h.last, h.separator_notMem⟩
  · rintro ⟨hne, hfirst, hlast, hnot⟩
    exact ⟨hne, hfirst, hlast, hnot⟩

instance : Decidable (IsSource separator s) :=
  decidable_of_iff _ isSource_iff.symm

/-! ## One source -/

/-- Trimming leaves a source as it is. -/
theorem IsSource.trim_eq (h : IsSource separator s) : trim s = s := by
  have hne : s.toList ≠ [] := fun hnil => h.ne_empty (String.toList_eq_nil_iff.1 hnil)
  have hfirst : s.toList.head? = some (s.toList.head hne) := List.head?_eq_some_head hne
  have hlast : s.toList.getLast? = some (s.toList.getLast hne) := List.getLast?_eq_some_getLast hne
  exact trim_eq_self hfirst (h.first _ hfirst) hlast (h.last _ hlast)

/-- A source has no separator, so it is one piece. -/
theorem IsSource.pieces_eq (h : IsSource separator s) : pieces (· = separator) s = [s] := by
  have hnone : ∀ c ∈ s.toList, decide (c = separator) = false := by
    intro c hc
    have hne : c ≠ separator := fun heq => h.separator_notMem (heq ▸ hc)
    exact decide_eq_false hne
  rw [pieces, piecesOf_of_forall hnone, List.map_singleton, String.ofList_toList]

/-- A source is the only one in its own text. -/
theorem IsSource.splitSources_eq (h : IsSource separator s) : splitSources separator s = [⟨s⟩] := by
  have hkept : s.isEmpty = false := by
    rw [Bool.eq_false_iff, ne_eq, String.isEmpty_iff]
    exact h.ne_empty
  have hfilter : [s].filter (fun s => !s.isEmpty) = [s] := by simp [hkept]
  unfold splitSources
  rw [h.pieces_eq, List.map_singleton, h.trim_eq, hfilter, List.map_singleton]

/-- What is read from a text is a source. -/
theorem isSource_of_mem_splitSources (h : p ∈ splitSources separator text) :
    IsSource separator p.text := by
  unfold splitSources at h
  obtain ⟨s, hs, rfl⟩ := List.mem_map.1 h
  obtain ⟨hs, hkept⟩ := List.mem_filter.1 hs
  obtain ⟨t, ht, rfl⟩ := List.mem_map.1 hs
  obtain ⟨piece, hpiece, rfl⟩ := List.mem_map.1 ht
  have hchars : (trim (String.ofList piece)).toList = trimmed piece := by
    rw [trim, String.toList_ofList, String.toList_ofList]
  refine ⟨?_, ?_, ?_, ?_⟩
  · intro hempty
    have hempty : trim (String.ofList piece) = "" := hempty
    rw [hempty] at hkept
    cases hkept
  · rw [hchars]
    exact fun c hc => not_isBlank_of_mem_head?_trimmed hc
  · rw [hchars]
    exact fun c hc => not_isBlank_of_mem_getLast?_trimmed hc
  · rw [hchars]
    intro hmem
    have hnot := not_separator_of_mem_piecesOf hpiece (mem_of_mem_trimmed hmem)
    exact absurd rfl (of_decide_eq_false hnot)

/-! ## Lists of sources -/

/-- The sources of two texts with a separator between them are those of the one and then those of
the other. -/
theorem splitSources_append (separator : Char) (a b : String) :
    splitSources separator (a ++ String.singleton separator ++ b) =
      splitSources separator a ++ splitSources separator b := by
  have hchars : (a ++ String.singleton separator ++ b).toList =
      a.toList ++ separator :: b.toList := by
    rw [String.toList_append, String.toList_append, String.toList_singleton, List.append_assoc,
      List.singleton_append]
  have hpieces : pieces (· = separator) (a ++ String.singleton separator ++ b) =
      pieces (· = separator) a ++ pieces (· = separator) b := by
    unfold pieces
    rw [hchars, piecesOf_append (decide_eq_true rfl), List.map_append]
  unfold splitSources
  rw [hpieces, List.map_append, List.filter_append, List.map_append]

/-- Sources with separators between them are read back in order. -/
theorem splitSources_intercalate {l : List String} (h : ∀ s ∈ l, IsSource separator s) :
    splitSources separator ((String.singleton separator).intercalate l) = l.map Path.mk := by
  induction l with
  | nil =>
    rw [String.intercalate_nil]
    rfl
  | cons s l ih =>
    obtain ⟨hs, hl⟩ := List.forall_mem_cons.1 h
    cases l with
    | nil => rw [String.intercalate_singleton, hs.splitSources_eq, List.map_singleton]
    | cons t l =>
      rw [String.intercalate_cons_cons, splitSources_append, hs.splitSources_eq, ih hl,
        List.singleton_append]
      rfl

/-- For every separator, a list of texts that are not empty, have no blank at either end and do not
have the separator in them is read back, in order and with its repetitions, from the text that it
makes. A text in two parts around a separator has the sources of the first part and then those of
the second. And no text has a source that is empty, untrimmed or has the separator in it. -/
theorem splitSources_readsBack (separator : Char) :
    (∀ l : List String, (∀ s ∈ l, IsSource separator s) →
      splitSources separator ((String.singleton separator).intercalate l) = l.map Path.mk) ∧
    (∀ a b : String, splitSources separator (a ++ String.singleton separator ++ b) =
      splitSources separator a ++ splitSources separator b) ∧
    ∀ text : String, ∀ p ∈ splitSources separator text, IsSource separator p.text :=
  ⟨fun _ h => splitSources_intercalate h, splitSources_append separator,
    fun _ _ h => isSource_of_mem_splitSources h⟩

/-- Between blanks, with a source that comes twice; and a text with blanks and separators at its
ends, of which no piece but the one is a source. -/
theorem splitSources_readsBack_blanks :
    (∀ s ∈ ["src/A.cs", "B.cs", "src/A.cs"], IsSource ' ' s) ∧
      splitSources ' ' "src/A.cs B.cs src/A.cs" = [⟨"src/A.cs"⟩, ⟨"B.cs"⟩, ⟨"src/A.cs"⟩] ∧
      (∀ p ∈ splitSources '|' "| \t|\n My File.cs ||", IsSource '|' p.text) ∧
      splitSources '|' "| \t|\n My File.cs ||" = [⟨"My File.cs"⟩] := by
  obtain ⟨hback, -, -⟩ := splitSources_readsBack ' '
  obtain ⟨-, -, hsources⟩ := splitSources_readsBack '|'
  have hl : ∀ s ∈ ["src/A.cs", "B.cs", "src/A.cs"], IsSource ' ' s := by decide +kernel
  exact ⟨hl, hback _ hl, hsources _, by decide +kernel⟩

end Scaffold
