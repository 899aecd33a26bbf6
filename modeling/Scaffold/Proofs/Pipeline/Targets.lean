import Mathlib.Data.List.Forall2
import Scaffold.Pipeline.Machine
import Scaffold.Proofs.CSharp.Identifier
import Scaffold.Proofs.Path.Child
import Scaffold.Settings.Document

/-!
# Where generated files lie

A generated file is called after its class, and its name ends in the extension that the settings
give. An identifier has no separator of paths, so the first segment of the name is the fixture with
what the extension has up to its first separator, and the other segments are those of the extension
(`components_target`). No setting is refused for its extension. So a file lies directly in the
output directory exactly when the extension has nothing behind a separator that names a place
(`targets_directlyIn_iff`).
-/

namespace Scaffold.Pipeline

open CSharp (IsIdentifier)
open Scaffold.Path (componentOf? isSeparator)
open Text (piecesOf)

variable {s : SynthesisSettings} {directory : Path} {c : ClassDeclaration}

/-- The file of a class lies at the name of its fixture, with what the extension has up to its first
separator, and goes on with the other segments of the extension. -/
theorem components_target (hdirectory : directory.isEmpty = false)
    (hclass : IsIdentifier c.simpleName) {first : List Char} {rest : List (List Char)}
    (hextension : piecesOf isSeparator s.extension.toList = first :: rest) :
    ((Plan.ofSettings s directory).target
        (.ofFixture s.extension (s.synthesizer.synthesize c).fixture)).components =
      directory.components ++
        .name (Fixture.fixtureName c.simpleName ++ "." ++ String.ofList first) ::
          rest.filterMap componentOf? := by
  have hlist : (Fixture.fixtureName c.simpleName ++ ".").toList =
      c.simpleName.toList ++ "Tests.".toList := by
    rw [Fixture.fixtureName, String.toList_append, String.toList_append, List.append_assoc]
    rfl
  have hseparator : ∀ a ∈ (Fixture.fixtureName c.simpleName ++ ".").toList,
      isSeparator a = false := by
    intro a ha
    refine beq_eq_false_iff_ne.2 ?_
    rintro rfl
    rw [hlist, List.mem_append] at ha
    exact ha.elim hclass.slash_notMem (by decide)
  have hlength : 3 ≤ (Fixture.fixtureName c.simpleName ++ ".").toList.length := by
    have htests : "Tests.".toList.length = 6 := rfl
    rw [hlist, List.length_append]
    omega
  exact Path.components_child_append hdirectory hseparator hlength hextension

/-- The files of classes that are called by identifiers lie directly in the output directory exactly
when each segment of the extension behind a separator is empty or a single dot. In any case a file
lies below the directory, first in what is called after its class, and goes on with the other
segments of the extension. -/
theorem targets_directlyIn_iff (s : SynthesisSettings) {directory : Path}
    {classes : List ClassDeclaration} (hdirectory : directory.isEmpty = false)
    (hclasses : ∀ c ∈ classes, IsIdentifier c.simpleName) :
    ∃ first rest, piecesOf isSeparator s.extension.toList = first :: rest ∧
      List.Forall₂ (fun c file =>
        let target := (Plan.ofSettings s directory).target file
        target.components = directory.components ++
          .name (Fixture.fixtureName c.simpleName ++ "." ++ String.ofList first) ::
            rest.filterMap componentOf? ∧
        (target.DirectlyIn directory ↔ ∀ segment ∈ rest, segment = [] ∨ segment = ['.']))
      classes (Generated.ofClasses s classes).files := by
  obtain ⟨first, rest, hextension⟩ :=
    List.exists_cons_of_ne_nil (Text.piecesOf_ne_nil isSeparator s.extension.toList)
  refine ⟨first, rest, hextension, ?_⟩
  have hempty : rest.filterMap componentOf? = [] ↔
      ∀ segment ∈ rest, segment = [] ∨ segment = ['.'] := by
    simp only [List.filterMap_eq_nil_iff, Path.componentOf?_eq_none_iff]
  have hfiles : (Generated.ofClasses s classes).files = classes.map fun c =>
      .ofFixture s.extension (s.synthesizer.synthesize c).fixture := List.map_map
  rw [hfiles, List.forall₂_map_right_iff, List.forall₂_same]
  intro c hc target
  have hcomponents := components_target (s := s) hdirectory (hclasses c hc) hextension
  refine ⟨hcomponents, ?_⟩
  rw [Path.directlyIn_iff hdirectory, ← hempty]
  constructor
  · rintro ⟨x, hx⟩
    rw [hcomponents] at hx
    exact (List.cons.inj (List.append_cancel_left hx)).2
  · intro hnone
    rw [hcomponents, hnone]
    exact ⟨_, rfl⟩

/-- The extension may have dots. -/
theorem targets_directlyIn_dots :
    let s : SynthesisSettings := ⟨"todo", "g.cs", none⟩
    let c : ClassDeclaration := ⟨"A", "A", "", false, [], [], []⟩
    (Generated.ofClasses s [c]).files.map (·.name) = ["ATests.g.cs"] ∧
      ∀ file ∈ (Generated.ofClasses s [c]).files,
        ((Plan.ofSettings s ⟨"out"⟩).target file).DirectlyIn ⟨"out"⟩ := by
  intro s c
  have hclasses : ∀ d ∈ [c], IsIdentifier (ClassDeclaration.simpleName d) := by decide +kernel
  have hdirectory : Path.isEmpty ⟨"out"⟩ = false := by decide +kernel
  obtain ⟨first, rest, hextension, htargets⟩ := targets_directlyIn_iff s hdirectory hclasses
  have hpieces : piecesOf isSeparator s.extension.toList = ["g.cs".toList] := by decide +kernel
  obtain ⟨rfl, rfl⟩ := List.cons.inj (hextension.symm.trans hpieces)
  refine ⟨by decide +kernel, ?_⟩
  obtain ⟨htarget, -⟩ := List.forall₂_cons.1 htargets
  exact List.forall_mem_singleton.2 (htarget.2.2 (List.forall_mem_nil _))

/-- Settings that are accepted, and a file that lies in what is called after its class. -/
theorem targets_below :
    let settings : Settings := ⟨.default, ⟨"autogenerated", "g/cs", none⟩⟩
    let c : ClassDeclaration := ⟨"A", "A", "", false, [], [], []⟩
    let target := (Plan.ofSettings settings.synthesis ⟨"out"⟩).target
      (.ofFixture settings.synthesis.extension
        (settings.synthesis.synthesizer.synthesize c).fixture)
    (Settings.ofText "[synthesis]\noutput_extension = \"g/cs\"\n").toOption = some settings ∧
      IsIdentifier c.simpleName ∧ target = ⟨"out/ATests.g/cs"⟩ ∧
      target.parent? = some ⟨"out/ATests.g"⟩ ∧ ¬ target.DirectlyIn ⟨"out"⟩ := by
  intro settings c target
  have hparent : target.parent? = some ⟨"out/ATests.g"⟩ := by decide +kernel
  refine ⟨by decide +kernel, by decide +kernel, by decide +kernel, hparent, ?_⟩
  rintro ⟨parent, hparent', hsame⟩
  obtain rfl := Option.some.inj (hparent.symm.trans hparent')
  revert hsame
  decide +kernel

end Scaffold.Pipeline
