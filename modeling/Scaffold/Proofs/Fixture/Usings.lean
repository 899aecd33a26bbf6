import Scaffold.Proofs.Collection.Scope
import Scaffold.Proofs.Fixture.Strings
import Scaffold.Proofs.Fixture.Writer

/-!
# The usings of a fixture

A fixture begins with its using directives: the standard ones, and behind them what the class adds
to these, each where it first occurs (`usings_eq_eraseDups`, `usings_eq`). No other line reads as a
directive, since a line in a block begins with a space, and what is left is empty, a brace or the
header of the namespace (`not_begins_of_mem_linesBelow`). So where the strings of a fixture have no
line feed, its usings can be read back from its text (`usings_once`).
-/

namespace Scaffold.Fixture

open Text (Plain linesOf begins)

/-! ## The list of usings -/

/-- What the class under test adds to the standard usings: its own and its namespace, unless this is
the global one. -/
def ownUsings (f : Fixture) : List String :=
  f.imports ++ if f.sourceNamespace = "" then [] else [f.sourceNamespace]

theorem firstOccurrences_eq (xs : List String) : firstOccurrences xs = xs.eraseDups := by
  have hmissing : xs.filter (· ∉ ([] : List String)) = xs := List.filter_eq_self.2 (by simp)
  calc firstOccurrences xs = addMissing [] xs := rfl
    _ = [] ++ missingFrom [] xs := addMissing_eq [] xs
    _ = xs.eraseDups := by rw [List.nil_append, missingFrom, hmissing]

theorem usings_eq_eraseDups (f : Fixture) :
    usings f = (standardUsings ++ f.ownUsings).eraseDups := by
  rw [usings, firstOccurrences_eq, List.append_assoc]
  rfl

/-- The standard usings come first, and what the class adds behind them. -/
theorem usings_eq (f : Fixture) :
    usings f = standardUsings ++ missingFrom standardUsings f.ownUsings := by
  have hstandard : addMissing [] standardUsings = standardUsings := by decide
  calc usings f = addMissing [] (standardUsings ++ f.ownUsings) := by
        rw [usings, List.append_assoc]
        rfl
    _ = addMissing standardUsings f.ownUsings := by rw [addMissing_append, hstandard]
    _ = standardUsings ++ missingFrom standardUsings f.ownUsings := addMissing_eq _ _

theorem nodup_usings (f : Fixture) : (usings f).Nodup := by
  rw [usings_eq_eraseDups]
  exact nodup_eraseDups _

/-- What the class adds is there once. -/
theorem count_usings_of_mem {f : Fixture} {name : String} (h : name ∈ f.ownUsings) :
    (usings f).count name = 1 := by
  rw [(nodup_usings f).count, if_pos]
  rw [usings_eq_eraseDups, List.mem_eraseDups]
  exact List.mem_append_right _ h

/-! ## The lines of a fixture -/

/-- The directive for a using. -/
def directive (name : String) : String :=
  "using " ++ name ++ ";"

theorem begins_directive (name : String) : begins (directive name) "using " = true := by
  rw [begins, directive, String.append_assoc, String.toList_append]
  exact List.isPrefixOf_iff_prefix.2 (List.prefix_append _ _)

/-- A text that begins with another letter is no directive. -/
theorem begins_eq_false_of_head? {s : String} {c : Char} (h : s.toList.head? = some c)
    (hc : c ≠ 'u') : begins s "using " = false := by
  obtain ⟨rest, hrest⟩ := List.head?_eq_some_iff.1 h
  rw [begins, hrest]
  exact Bool.and_eq_false_imp.2 fun hu => absurd (eq_of_beq hu).symm hc

theorem Line.body_zero (content : String) : (text 0 content).body = content :=
  String.empty_append

/-- A line that is empty or stands inside a block. -/
def Line.IsInside : Line → Prop
  | .empty => True
  | .text depth _ => 0 < depth

/-- A line inside a block begins with a space. -/
theorem Line.IsInside.not_begins {l : Line} (h : l.IsInside) : begins l.body "using " = false := by
  cases l with
  | empty => decide
  | text depth content =>
    obtain ⟨outer, rfl⟩ := Nat.exists_eq_succ_of_ne_zero (Nat.pos_iff_ne_zero.1 h)
    refine begins_eq_false_of_head? (c := ' ') (Text.head?_append ?_) (by decide)
    rw [List.replicate_succ, String.join_cons]
    exact Text.head?_append rfl

theorem isInside_routine {depth : Nat} (hdepth : 0 < depth) (marker name : String)
    (statements : List Statement) :
    ∀ line ∈ routine depth marker name statements, line.IsInside := by
  rw [routine, List.forall_mem_cons, List.forall_mem_cons]
  exact ⟨hdepth, hdepth, forall_mem_block hdepth hdepth <|
    List.forall_mem_map.2 fun _ _ => Nat.succ_pos depth⟩

/-- All members of a fixture stand inside its blocks. -/
theorem isInside_members (f : Fixture) : ∀ line ∈ spaced (memberGroups f), line.IsInside := by
  refine forall_mem_spaced trivial ?_
  rw [memberGroups_eq, List.forall_mem_append]
  constructor
  · intro group hgroup
    split at hgroup
    · cases hgroup
    · obtain rfl := List.mem_singleton.1 hgroup
      exact List.forall_mem_map.2 fun _ _ => Nat.two_pos
  · exact List.forall_mem_map.2 fun r _ => isInside_routine Nat.two_pos r.marker r.name r.statements

/-- The lines of a fixture below the empty line that follows its directives. -/
def linesBelow (f : Fixture) : List Line :=
  .text 0 ("namespace " ++ f.namespacePath) ::
    block 0 (.text 1 "[TestFixture]" :: .text 1 ("public class " ++ f.name) ::
      block 1 (spaced (memberGroups f)))

/-- None of the lines below the directives reads as one. -/
theorem not_begins_of_mem_linesBelow (f : Fixture) :
    ∀ line ∈ f.linesBelow, begins line.body "using " = false := by
  have hinside : ∀ line ∈ Line.text 1 "[TestFixture]" :: .text 1 ("public class " ++ f.name) ::
      block 1 (spaced (memberGroups f)), line.IsInside := by
    rw [List.forall_mem_cons, List.forall_mem_cons]
    exact ⟨Nat.one_pos, Nat.one_pos, forall_mem_block Nat.one_pos Nat.one_pos (isInside_members f)⟩
  rw [linesBelow, List.forall_mem_cons]
  constructor
  · rw [Line.body_zero]
    exact begins_eq_false_of_head? (c := 'n') (Text.head?_append rfl) (by decide)
  · exact forall_mem_block (by decide) (by decide) fun line hline => (hinside line hline).not_begins

/-- The lines of a fixture are its directives, an empty line and the others. -/
theorem map_body_lines (f : Fixture) : f.lines.map Line.body =
    (usings f).map directive ++ "" :: f.linesBelow.map Line.body := by
  rw [lines, List.map_append, List.map_map]
  rfl

/-- The lines that read as directives are the directives. -/
theorem filter_begins_lines (f : Fixture) :
    (f.lines.map Line.body).filter (begins · "using ") = (usings f).map directive := by
  have hdirectives : ((usings f).map directive).filter (begins · "using ") =
      (usings f).map directive :=
    List.filter_eq_self.2 (List.forall_mem_map.2 fun name _ => begins_directive name)
  have hbelow : (f.linesBelow.map Line.body).filter (begins · "using ") = [] := by
    refine List.filter_eq_nil_iff.2 (List.forall_mem_map.2 fun line hline => ?_)
    simp [not_begins_of_mem_linesBelow f line hline]
  have hempty : begins "" "using " = false := by decide
  rw [map_body_lines, List.filter_append, hdirectives, List.filter_cons, hempty, hbelow]
  simp

/-- The usings of a fixture are the standard ones, those of the class under test and its namespace,
each where it first occurs, so that all are different, the standard ones come first, and whatever
the class adds is there once. In the text of a fixture whose strings have no line feed, the lines
that begin with `using` are the directives for them, in order, and stand before all other lines. -/
theorem usings_once (f : Fixture) :
    usings f = (standardUsings ++ f.ownUsings).eraseDups ∧ (usings f).Nodup ∧
      standardUsings <+: usings f ∧ (∀ name ∈ f.ownUsings, (usings f).count name = 1) ∧
      ((∀ s ∈ f.strings, Plain s) →
        (linesOf (render f)).filter (begins · "using ") = (usings f).map directive ∧
          (usings f).map directive <+: linesOf (render f)) := by
  refine ⟨usings_eq_eraseDups f, nodup_usings f, ?_, fun name => count_usings_of_mem, fun h => ?_⟩
  · rw [usings_eq]
    exact List.prefix_append _ _
  · rw [(isPlain_of_strings h).linesOf_render]
    constructor
    · rw [List.filter_append, filter_begins_lines]
      exact List.append_nil _
    · rw [map_body_lines, List.append_assoc]
      exact List.prefix_append _ _

/-- A fixture whose class imports a standard using and its own namespace, with names that look like
directives. -/
def importer : Fixture where
  name := "using Cart;"
  namespacePath := "using App.Tests;"
  sourceNamespace := "App"
  imports := ["Moq", "App", "Xunit"]
  fields := [⟨"_cart;", "using", false⟩]
  setup := none
  tests := [⟨"Test", [], .expression (.identifier "using App"), [.assertFail "using System;"]⟩]

theorem usings_once_importer :
    (∀ s ∈ importer.strings, Plain s) ∧
      (linesOf (render importer)).filter (begins · "using ") = [
        "using System;", "using System.Collections.Generic;", "using System.Linq;",
        "using System.Text;", "using NUnit.Framework;", "using Moq;", "using App;",
        "using Xunit;"] := by
  have hplain : ∀ s ∈ importer.strings, Plain s := by decide
  obtain ⟨-, -, -, -, htext⟩ := usings_once importer
  refine ⟨hplain, (htext hplain).1.trans ?_⟩
  decide

end Scaffold.Fixture
