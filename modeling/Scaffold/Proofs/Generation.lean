import Scaffold.Generation
import Scaffold.Proofs.Fixture.Plain
import Scaffold.Proofs.Fixture.Synthesis

/-!
# From a unit to the text of its fixtures

What goes into a unit comes out of it (`Generated.conserves`): the tests and setups that are
announced in the generated files, with the omissions, are as many as the public methods of all class
nodes and the instance classes. Collecting keeps the methods, synthesis tries each of them once, and
a plain fixture announces in its text just the routines that it has.
-/

namespace Scaffold

open Text (Plain linesOf trim)

/-- The number of lines of a file that are a marker, once they are trimmed. -/
def GeneratedFile.markerCount (marker : String) (f : GeneratedFile) : Nat :=
  (linesOf f.content).countP fun line => trim line = marker

/-- The number of public methods of all class nodes of a unit. -/
def SourceUnit.publicMethodCount (u : SourceUnit) : Nat :=
  total (fun c => c.methods.countP (·.isPublic)) u.nodes

/-- Collecting keeps the public methods. -/
theorem total_publicMethods_collect (u : SourceUnit) :
    total (fun c => c.methods.countP (·.isPublic)) (collect u) = u.publicMethodCount := by
  have hmerge (c part : ClassDeclaration) : (c.merge part).methods.countP (·.isPublic) =
      c.methods.countP (·.isPublic) + part.methods.countP (·.isPublic) :=
    List.countP_append
  have hnodes := congrArg (total (List.countP Method.isPublic)) u.methods_declarations
  rw [total_map, total_map] at hnodes
  exact (total_collect hmerge u).trans hnodes

/-- The file of a plain class announces its tests and its setup. -/
theorem markerCount_ofFixture {s : SynthesisSettings} (hs : Plain s.failureMessage)
    {c : ClassDeclaration} (hc : c.IsPlain) :
    (GeneratedFile.ofFixture s.extension (s.synthesizer.synthesize c).fixture).markerCount
          "[Test]" = (s.synthesizer.synthesize c).fixture.tests.length ∧
      (GeneratedFile.ofFixture s.extension (s.synthesizer.synthesize c).fixture).markerCount
          "[SetUp]" = (s.synthesizer.synthesize c).fixture.setup.toList.length := by
  have hplain : (s.synthesizer.synthesize c).fixture.IsPlain :=
    Fixture.Synthesizer.isPlain_synthesize hc hs
  constructor
  · exact (hplain.countP_render (by decide)).trans (Nat.zero_add _)
  · exact (hplain.countP_render (by decide)).trans (Nat.add_zero _)

/-- From the tree of a unit to the text of its files nothing is lost, when the texts of the unit and
the message of the assertions have no line feed. The lines that announce a test or a setup, with the
omissions, are as many as the public methods of all class nodes and the instance classes. And there
is one file for each class, and one class for each identity, in the order in which the identities
first occur in a walk in preorder. -/
theorem Generated.conserves (s : SynthesisSettings) (u : SourceUnit)
    (hu : ∀ t ∈ u.strings, '\n' ∉ t.toList) (hs : '\n' ∉ s.failureMessage.toList) :
    let g := Generated.ofClasses s (collect u)
    total (GeneratedFile.markerCount "[Test]") g.files +
          total (GeneratedFile.markerCount "[SetUp]") g.files + g.omissions.length =
        u.publicMethodCount + (collect u).countP (fun c => !c.isStatic) ∧
      (collect u).map (·.identity) = (u.declarations.map (·.identity)).eraseDups ∧
      g.files.map (·.name) =
        (collect u).map fun c => Fixture.fixtureName c.simpleName ++ "." ++ s.extension := by
  intro g
  refine ⟨?_, identities_collect u, ?_⟩
  -- The equation holds for each class, and both sides are totals over the classes.
  · let outcome c := s.synthesizer.synthesize c
    have hclass (c : ClassDeclaration) (hc : c ∈ collect u) :
        (GeneratedFile.ofFixture s.extension (outcome c).fixture).markerCount "[Test]" +
            (GeneratedFile.ofFixture s.extension (outcome c).fixture).markerCount "[SetUp]" +
              (outcome c).omissions.length =
          c.methods.countP (·.isPublic) + (!c.isStatic).toNat := by
      obtain ⟨htests, hsetup⟩ := markerCount_ofFixture hs (isPlain_collect u hu c hc)
      rw [htests, hsetup]
      refine (s.synthesizer.synthesize_conserves c).trans ?_
      cases c.isStatic <;> rfl
    have htotal := total_congr hclass
    rw [total_add, total_add, total_add, total_publicMethods_collect, ← countP_eq_total] at htotal
    simp only [g, Generated.ofClasses, total_map, length_flatMap_eq_total]
    exact htotal
  · simp [g, Generated.ofClasses, GeneratedFile.ofFixture, Fixture.Synthesizer.synthesize]

/-- A class in two parts with a nested static class; one of its methods has a parameter that no test
can declare. -/
theorem Generated.conserves_parts :
    let run : Method := ⟨"Run", [], "void", [], false, true⟩
    let take : Method := ⟨"Take", [⟨"x", "var", .byValue⟩], "int", [], false, true⟩
    let unit : SourceUnit := ⟨none, ["System"], some "N", [
      .classNode ⟨"A", false, [run], [], [⟨"B", true, [take], [], []⟩]⟩,
      .classNode ⟨"A", false, [take, run], [], []⟩]⟩
    let s := SynthesisSettings.default
    (∀ t ∈ unit.strings, '\n' ∉ t.toList) ∧ '\n' ∉ s.failureMessage.toList ∧
      total (GeneratedFile.markerCount "[Test]") (Generated.ofClasses s (collect unit)).files +
          total (GeneratedFile.markerCount "[SetUp]") (Generated.ofClasses s (collect unit)).files +
          (Generated.ofClasses s (collect unit)).omissions.length = 4 + 1 := by
  intro run take unit s
  have hunit : ∀ t ∈ unit.strings, '\n' ∉ t.toList := by decide
  have hmessage : '\n' ∉ s.failureMessage.toList := by decide
  exact ⟨hunit, hmessage, (Generated.conserves s unit hunit hmessage).1.trans (by decide)⟩

end Scaffold
