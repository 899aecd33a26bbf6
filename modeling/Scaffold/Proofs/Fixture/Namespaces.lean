import Mathlib.Data.String.Basic
import Scaffold.Fixture.Synthesis
import Scaffold.Proofs.Text.Lines

/-!
# The namespaces of fixtures

A namespace path is its segments with dots between them, and no two paths have the same segments
(`segments_injective`). The namespace of a fixture has one segment more than that of its class,
behind the first one (`exists_segments_testNamespace`). So the namespace of the class can be read
off that of the fixture by leaving this segment out. The global namespace, whose path is empty, is
the only one whose fixtures are in a namespace of one segment (`testNamespace_inserts`).
-/

namespace Scaffold.Fixture

/-! ## Segments -/

/-- The segments of a namespace path: the texts between its dots. -/
def segments (path : String) : List String :=
  path.splitToList (· == '.')

theorem segments_eq_pieces (path : String) : segments path = Text.pieces (· == '.') path := by
  rw [segments, String.splitToList_of_valid, Text.pieces, Text.piecesOf_eq_splitOnP]

/-- A path is its segments with dots between them. -/
theorem intercalate_segments (path : String) : ".".intercalate (segments path) = path := by
  have hlists : (segments path).map String.toList = path.toList.splitOn '.' := by
    rw [segments, String.splitToList_of_valid, List.map_map]
    simp [List.splitOn, Function.comp_def]
  rw [← String.toList_inj, String.toList_intercalate, hlists]
  exact List.intercalate_splitOn '.'

theorem segments_injective : Function.Injective segments :=
  Function.LeftInverse.injective intercalate_segments

/-- A path without a dot is its only segment. -/
theorem segments_of_notMem {path : String} (h : '.' ∉ path.toList) : segments path = [path] := by
  rw [segments_eq_pieces, Text.pieces, Text.piecesOf_of_notMem h, List.map_singleton,
    String.ofList_toList]

/-- The first segment goes up to the first dot. -/
theorem segments_append {first : String} (h : '.' ∉ first.toList) (rest : String) :
    segments (first ++ "." ++ rest) = first :: segments rest := by
  have hchars : (first ++ "." ++ rest).toList = first.toList ++ '.' :: rest.toList := by
    simp
  rw [segments_eq_pieces, segments_eq_pieces, Text.pieces, hchars,
    Text.piecesOf_append_of_notMem h, List.map_cons, String.ofList_toList]
  rfl

/-! ## One more segment -/

/-- A path that is not empty has a first segment, and the path for its fixtures has `Tests` behind
it. -/
theorem exists_segments_testNamespace {path : String} (h : path ≠ "") :
    ∃ first rest, segments path = first :: rest ∧
      segments (testNamespace path) = first :: "Tests" :: rest := by
  have htests : '.' ∉ "Tests".toList := by decide
  rw [testNamespace, if_neg h]
  rcases Text.splitFirst?_cases '.' path with ⟨hnone, hsplit⟩ | ⟨first, rest, hpath, hfirst, hsplit⟩
  · refine ⟨path, [], segments_of_notMem hnone, ?_⟩
    rw [hsplit]
    show segments (path ++ "." ++ "Tests") = _
    rw [segments_append hnone, segments_of_notMem htests]
  · have hbehind : first ++ "." ++ "Tests" ++ "." ++ rest =
        first ++ "." ++ ("Tests" ++ "." ++ rest) := by simp only [String.append_assoc]
    have hsegments : segments path = first :: segments rest := by
      rw [hpath]
      exact segments_append hfirst rest
    refine ⟨first, segments rest, hsegments, ?_⟩
    rw [hsplit]
    show segments (first ++ "." ++ "Tests" ++ "." ++ rest) = _
    rw [hbehind, segments_append hfirst, segments_append htests]

/-- No path but the empty one has fixtures in the namespace `Tests`. -/
theorem testNamespace_eq_tests_iff {path : String} : testNamespace path = "Tests" ↔ path = "" := by
  refine ⟨fun h => ?_, fun h => h ▸ rfl⟩
  by_contra hne
  obtain ⟨first, rest, -, hsegments⟩ := exists_segments_testNamespace hne
  have hone : segments "Tests" = ["Tests"] := segments_of_notMem (by decide)
  rw [← h, hsegments] at hone
  exact absurd (congrArg List.length hone) (by simp)

theorem testNamespace_injective : Function.Injective testNamespace := by
  intro path path' h
  by_cases hpath : path = ""
  · rw [hpath] at h ⊢
    exact (testNamespace_eq_tests_iff.1 h.symm).symm
  by_cases hpath' : path' = ""
  · rw [hpath'] at h
    exact absurd (testNamespace_eq_tests_iff.1 h) hpath
  -- Both have a first segment, and `Tests` stands at the same place behind it.
  obtain ⟨first, rest, hsegments, htest⟩ := exists_segments_testNamespace hpath
  obtain ⟨first', rest', hsegments', htest'⟩ := exists_segments_testNamespace hpath'
  rw [h, htest'] at htest
  obtain ⟨rfl, hbehind⟩ := List.cons.inj htest
  obtain ⟨-, rfl⟩ := List.cons.inj hbehind
  exact segments_injective (hsegments.trans hsegments'.symm)

/-- Splitting the namespace of a fixture at its dots gives the segments of the namespace of the
class with `Tests` at position 1, and for the global namespace `Tests` alone. No two namespaces have
their fixtures in one, so that fixtures are in one namespace exactly when their classes are. -/
theorem testNamespace_inserts :
    (∀ path, path ≠ "" →
      segments (testNamespace path) = (segments path).insertIdx 1 "Tests") ∧
      testNamespace "" = "Tests" ∧ Function.Injective testNamespace ∧
      ∀ (s s' : Synthesizer) (c c' : ClassDeclaration),
        (s.synthesize c).fixture.namespacePath = (s'.synthesize c').fixture.namespacePath ↔
          c.namespacePath = c'.namespacePath := by
  refine ⟨fun path hpath => ?_, rfl, testNamespace_injective, fun s s' c c' => ?_⟩
  · obtain ⟨first, rest, hsegments, htest⟩ := exists_segments_testNamespace hpath
    rw [htest, hsegments]
    rfl
  · show testNamespace c.namespacePath = testNamespace c'.namespacePath ↔ _
    exact testNamespace_injective.eq_iff

/-- A path with a dot at each end that has `Tests` in it already. -/
theorem testNamespace_inserts_between_dots :
    ".Tests." ≠ "" ∧ segments ".Tests." = ["", "Tests", ""] ∧
      segments (testNamespace ".Tests.") = ["", "Tests", "Tests", ""] := by
  have hpath : ".Tests." ≠ "" := by decide
  have hsegments : segments ".Tests." = ["", "Tests", ""] := by
    rw [segments_eq_pieces]
    decide
  refine ⟨hpath, hsegments, ?_⟩
  rw [testNamespace_inserts.1 ".Tests." hpath, hsegments]
  rfl

end Scaffold.Fixture
