import Scaffold.Fixture.Render
import Scaffold.Proofs.Collection
import Scaffold.Proofs.Text.Ends
import Scaffold.Proofs.Text.Lines
import Scaffold.Total

/-!
# Which lines of a fixture are markers

A routine of a fixture is announced by a marker on a line of its own, `[SetUp]` or `[Test]`. No
other line of a fixture looks like a marker, whatever the names and types in it are: it ends with a
semicolon, or it begins with a fixed word (`countP_isMarker_lines`). Names and types that are plain
do not break lines, so the same holds of the lines of the text (`countP_linesOf_render`).
-/

namespace Scaffold.Fixture

open Text (Plain linesOf trim)

/-! ## Markers -/

/-- The markers of routines. -/
def markers : List String := ["[SetUp]", "[Test]"]

namespace Line

/-- A line without its line feed. -/
def body : Line → String
  | empty => ""
  | text depth content => String.join (List.replicate depth "    ") ++ content

theorem render_eq (l : Line) : l.render = l.body ++ "\n" := by
  cases l <;> rfl

/-- Whether a line is a marker, once it is trimmed. -/
def isMarker (marker : String) (l : Line) : Bool :=
  trim l.body = marker

/-- Trimming a line takes its depth away. -/
theorem trim_body (depth : Nat) (content : String) :
    trim (text depth content).body = trim content := by
  -- The depth is a text of spaces only.
  have hblank : ∀ c ∈ (String.join (List.replicate depth "    ")).toList,
      Text.isBlank c = true := by
    intro c hc
    rw [String.toList_join, List.mem_flatMap] at hc
    obtain ⟨s, hs, hc⟩ := hc
    obtain rfl := List.eq_of_mem_replicate hs
    obtain rfl : c = ' ' := by simpa using hc
    decide
  rw [trim, trim, body, String.toList_append, Text.trimmed_append hblank]

end Line

/-- A marker is in brackets. -/
theorem ends_of_marker : ∀ marker ∈ markers,
    marker.toList.head? = some '[' ∧ marker.toList.getLast? = some ']' := by
  decide

namespace Line

variable {marker : String} (hm : marker ∈ markers) (depth : Nat)
include hm

theorem isMarker_empty : empty.isMarker marker = false :=
  decide_eq_false fun h => absurd (h ▸ hm) (by decide)

/-- A line that ends with a semicolon is no marker. -/
theorem isMarker_of_semicolon {content : String} (h : content.toList.getLast? = some ';') :
    (text depth content).isMarker marker = false := by
  rw [isMarker, trim_body, decide_eq_false_iff_not]
  refine Text.trim_ne_of_getLast? h (by decide) ?_
  rw [(ends_of_marker marker hm).2]
  decide

/-- A line that begins with a letter is no marker. -/
theorem isMarker_of_letter {content : String} {c : Char} (h : content.toList.head? = some c)
    (hc : c.isAlpha = true) (hblank : Text.isBlank c = false) :
    (text depth content).isMarker marker = false := by
  rw [isMarker, trim_body, decide_eq_false_iff_not]
  refine Text.trim_ne_of_head? h hblank ?_
  rw [(ends_of_marker marker hm).1]
  rintro h
  obtain rfl := Option.some.inj h
  exact absurd hc (by decide)

/-- A fixed line that is no marker when it is trimmed is no marker. -/
theorem isMarker_of_fixed {content : String} (h : trim content ∉ markers) :
    (text depth content).isMarker marker = false := by
  rw [isMarker, trim_body]
  exact decide_eq_false fun heq => h (heq ▸ hm)

end Line

/-- Every statement ends with a semicolon. -/
theorem Statement.getLast?_render (s : Statement) : s.render.toList.getLast? = some ';' := by
  cases s <;> exact Text.getLast?_append rfl

/-- Every field ends with a semicolon. -/
theorem Field.getLast?_render (f : Field) : f.render.toList.getLast? = some ';' :=
  Text.getLast?_append rfl

/-! ## Counting markers -/

section Counting

variable {marker : String}

/-- Lines that are no markers do not count. -/
theorem countP_isMarker_eq_zero {l : List Line} (h : ∀ line ∈ l, line.isMarker marker = false) :
    l.countP (Line.isMarker marker) = 0 :=
  List.countP_eq_zero.2 fun line hline => by simp [h line hline]

variable (hm : marker ∈ markers)
include hm

/-- A block counts as much as what is inside. -/
theorem countP_block (depth : Nat) (inside : List Line) :
    (block depth inside).countP (Line.isMarker marker) =
      inside.countP (Line.isMarker marker) := by
  have hopen : (Line.text depth "\x7b").isMarker marker = false :=
    Line.isMarker_of_fixed hm depth (by decide)
  have hclose : (Line.text depth "\x7d").isMarker marker = false :=
    Line.isMarker_of_fixed hm depth (by decide)
  simp [block, List.countP_append, hopen, hclose]

/-- A routine has its own marker and no other. -/
theorem countP_routine (depth : Nat) {own : String} (hown : own ∈ markers) (name : String)
    (statements : List Statement) :
    (routine depth own name statements).countP (Line.isMarker marker) =
      if own = marker then 1 else 0 := by
  have hheader : (Line.text depth ("public void " ++ name ++ "()")).isMarker marker = false := by
    refine Line.isMarker_of_letter hm depth (c := 'p') ?_ (by decide) (by decide)
    exact Text.head?_append (Text.head?_append rfl)
  have hstatements : (statements.map fun s => Line.text (depth + 1) s.render).countP
      (Line.isMarker marker) = 0 := by
    refine countP_isMarker_eq_zero fun line hline => ?_
    obtain ⟨s, -, rfl⟩ := List.mem_map.1 hline
    exact Line.isMarker_of_semicolon hm _ s.getLast?_render
  -- What is left is the line of the marker itself.
  have htrim : ∀ own ∈ markers, trim own = own := by decide
  rw [routine, List.countP_cons, List.countP_cons, countP_block hm, hstatements, hheader,
    Line.isMarker, Line.trim_body, htrim own hown]
  simp

/-- Routines with one marker count one each for it. -/
theorem total_routines {α : Type} (depth : Nat) {own : String} (hown : own ∈ markers)
    (name : α → String) (statements : α → List Statement) (l : List α) :
    total (List.countP (Line.isMarker marker))
        (l.map fun a => routine depth own (name a) (statements a)) =
      if own = marker then l.length else 0 := by
  rw [total_map]
  induction l with
  | nil => simp
  | cons a l ih =>
    rw [total_cons, ih, countP_routine hm depth hown]
    split
    · rw [List.length_cons, Nat.add_comm]
    · rfl

/-- Empty lines between groups do not count. -/
theorem countP_spaced (groups : List (List Line)) :
    (spaced groups).countP (Line.isMarker marker) =
      total (List.countP (Line.isMarker marker)) groups := by
  fun_induction spaced groups with
  | case1 => rfl
  | case2 group => simp
  | case3 group groups _ ih =>
    rw [List.countP_append, List.countP_cons, ih, Line.isMarker_empty hm]
    simp

/-- A fixture has one marker for its setup, if it has one, and one for each test. -/
theorem countP_isMarker_lines (f : Fixture) :
    (lines f).countP (Line.isMarker marker) =
      (if marker = "[SetUp]" then f.setup.toList.length else 0) +
        if marker = "[Test]" then f.tests.length else 0 := by
  -- Whatever is not a routine counts nothing.
  have husings : ((usings f).map fun name => Line.text 0 ("using " ++ name ++ ";")).countP
      (Line.isMarker marker) = 0 := by
    refine countP_isMarker_eq_zero fun line hline => ?_
    obtain ⟨name, -, rfl⟩ := List.mem_map.1 hline
    exact Line.isMarker_of_semicolon hm 0 (Text.getLast?_append rfl)
  have hnamespace : (Line.text 0 ("namespace " ++ f.namespacePath)).isMarker marker = false :=
    Line.isMarker_of_letter hm 0 (Text.head?_append rfl) (c := 'n') (by decide) (by decide)
  have hfixture : (Line.text 1 "[TestFixture]").isMarker marker = false :=
    Line.isMarker_of_fixed hm 1 (by decide)
  have hclass : (Line.text 1 ("public class " ++ f.name)).isMarker marker = false :=
    Line.isMarker_of_letter hm 1 (Text.head?_append rfl) (c := 'p') (by decide) (by decide)
  have hfields : total (List.countP (Line.isMarker marker)) (if f.fields.isEmpty then []
      else [f.fields.map fun field => Line.text 2 field.render]) = 0 := by
    split
    · rfl
    · rw [total_cons, total_nil, Nat.add_zero]
      refine countP_isMarker_eq_zero fun line hline => ?_
      obtain ⟨field, -, rfl⟩ := List.mem_map.1 hline
      exact Line.isMarker_of_semicolon hm 2 field.getLast?_render
  rw [lines, List.countP_append, husings, List.countP_cons, Line.isMarker_empty hm,
    List.countP_cons, hnamespace, countP_block hm, List.countP_cons, hfixture, List.countP_cons,
    hclass, countP_block hm, countP_spaced hm, memberGroups, total_append, total_append, hfields,
    total_routines hm 2 (by decide) Setup.name Setup.statements,
    total_routines hm 2 (by decide) Test.name Test.body]
  simp [eq_comm]

end Counting

/-! ## Plain fixtures -/

/-- The names and the statements of a fixture are plain. -/
structure IsPlain (f : Fixture) : Prop where
  name : Plain f.name
  namespacePath : Plain f.namespacePath
  sourceNamespace : Plain f.sourceNamespace
  imports : ∀ name ∈ f.imports, Plain name
  fields : ∀ field ∈ f.fields, Plain field.render
  setup : ∀ s ∈ f.setup, Plain s.name ∧ ∀ statement ∈ s.statements, Plain statement.render
  tests : ∀ t ∈ f.tests, Plain t.name ∧ ∀ statement ∈ t.body, Plain statement.render

/-- A line is plain when its content is. -/
theorem plain_body {depth : Nat} {content : String} (h : Plain content) :
    Plain (Line.text depth content).body := by
  have hdepth : Plain (String.join (List.replicate depth "    ")) := by
    refine Text.plain_join fun s hs => ?_
    obtain rfl := List.eq_of_mem_replicate hs
    decide
  exact Text.plain_append.2 ⟨hdepth, h⟩

/-- What holds of the braces of a block and of all lines inside holds of all its lines. -/
theorem forall_mem_block {P : Line → Prop} {depth : Nat} {inside : List Line}
    (hopen : P (.text depth "\x7b")) (hclose : P (.text depth "\x7d"))
    (h : ∀ line ∈ inside, P line) : ∀ line ∈ block depth inside, P line := by
  rw [block, List.cons_append, List.forall_mem_cons, List.forall_mem_append,
    List.forall_mem_singleton]
  exact ⟨hopen, h, hclose⟩

/-- What holds of an empty line and of all lines of groups holds with empty lines between them. -/
theorem forall_mem_spaced {P : Line → Prop} {groups : List (List Line)} (hempty : P .empty)
    (h : ∀ group ∈ groups, ∀ line ∈ group, P line) : ∀ line ∈ spaced groups, P line := by
  fun_induction spaced groups with
  | case1 => simp
  | case2 group => simpa using h
  | case3 group groups _ ih =>
    obtain ⟨hgroup, hgroups⟩ := List.forall_mem_cons.1 h
    rw [List.forall_mem_append, List.forall_mem_cons]
    exact ⟨hgroup, hempty, ih hgroups⟩

/-- A block is plain when what is inside is. -/
theorem plain_block {depth : Nat} {inside : List Line} (h : ∀ line ∈ inside, Plain line.body) :
    ∀ line ∈ block depth inside, Plain line.body :=
  forall_mem_block (plain_body (by decide)) (plain_body (by decide)) h

/-- A routine is plain when its name and its statements are. -/
theorem plain_routine {depth : Nat} {marker name : String} {statements : List Statement}
    (hm : Plain marker) (hname : Plain name) (h : ∀ s ∈ statements, Plain s.render) :
    ∀ line ∈ routine depth marker name statements, Plain line.body := by
  have hheader : Plain ("public void " ++ name ++ "()") := by
    simp only [Text.plain_append]
    exact ⟨⟨by decide, hname⟩, by decide⟩
  have hinside : ∀ line ∈ statements.map fun s => Line.text (depth + 1) s.render,
      Plain line.body := by
    intro line hline
    obtain ⟨s, hs, rfl⟩ := List.mem_map.1 hline
    exact plain_body (h s hs)
  intro line hline
  rw [routine, List.mem_cons, List.mem_cons] at hline
  rcases hline with rfl | rfl | hline
  · exact plain_body hm
  · exact plain_body hheader
  · exact plain_block hinside line hline

/-- The lines of a plain fixture are plain. -/
theorem IsPlain.lines {f : Fixture} (h : f.IsPlain) : ∀ line ∈ lines f, Plain line.body := by
  have husing : ∀ name ∈ usings f, Plain name := by
    intro name hname
    have hmem : name ∈ addMissing [] _ := hname
    rw [mem_addMissing, List.mem_append, List.mem_append] at hmem
    -- A using is a fixed one, an import of the class or the namespace of the class.
    rcases hmem with hnil | (hname | hname) | hname
    · cases hnil
    · exact (by decide : ∀ name ∈ standardUsings, Plain name) name hname
    · exact h.imports name hname
    · split at hname
      · cases hname
      · exact List.mem_singleton.1 hname ▸ h.sourceNamespace
  have hgroups : ∀ group ∈ memberGroups f, ∀ line ∈ group, Plain line.body := by
    intro group hgroup
    rw [memberGroups, List.mem_append, List.mem_append] at hgroup
    rcases hgroup with (hgroup | hgroup) | hgroup
    · split at hgroup
      · cases hgroup
      · obtain rfl := List.mem_singleton.1 hgroup
        intro line hline
        obtain ⟨field, hfield, rfl⟩ := List.mem_map.1 hline
        exact plain_body (h.fields field hfield)
    · obtain ⟨s, hs, rfl⟩ := List.mem_map.1 hgroup
      obtain ⟨hname, hstatements⟩ := h.setup s (Option.mem_toList.1 hs)
      exact plain_routine (by decide) hname hstatements
    · obtain ⟨t, ht, rfl⟩ := List.mem_map.1 hgroup
      obtain ⟨hname, hstatements⟩ := h.tests t ht
      exact plain_routine (by decide) hname hstatements
  have hinside : ∀ line ∈ Line.text 1 "[TestFixture]" :: .text 1 ("public class " ++ f.name) ::
      block 1 (spaced (memberGroups f)), Plain line.body := by
    rw [List.forall_mem_cons, List.forall_mem_cons]
    have hmembers := forall_mem_spaced (P := fun line => Plain line.body) (by decide) hgroups
    refine ⟨plain_body (by decide), plain_body ?_, plain_block hmembers⟩
    exact Text.plain_append.2 ⟨by decide, h.name⟩
  rw [Fixture.lines, List.forall_mem_append, List.forall_mem_cons, List.forall_mem_cons]
  refine ⟨fun line hline => ?_, by decide, plain_body ?_, plain_block hinside⟩
  · obtain ⟨name, hname, rfl⟩ := List.mem_map.1 hline
    refine plain_body ?_
    simp only [Text.plain_append]
    exact ⟨⟨by decide, husing name hname⟩, by decide⟩
  · exact Text.plain_append.2 ⟨by decide, h.namespacePath⟩

/-- The text of a plain fixture has the lines of the fixture, and an empty one at the end. -/
theorem IsPlain.linesOf_render {f : Fixture} (h : f.IsPlain) :
    linesOf (render f) = (Fixture.lines f).map Line.body ++ [""] := by
  have hrender : (Fixture.lines f).map Line.render =
      ((Fixture.lines f).map Line.body).map (· ++ "\n") := by
    rw [List.map_map]
    exact List.map_congr_left fun line _ => line.render_eq
  have hplain : ∀ s ∈ (Fixture.lines f).map Line.body, Plain s := by
    intro s hs
    obtain ⟨line, hline, rfl⟩ := List.mem_map.1 hs
    exact h.lines line hline
  rw [render, hrender, Text.linesOf_join hplain]

/-- The text of a plain fixture has one marker for the setup, if there is one, and one for each
test. -/
theorem IsPlain.countP_render {f : Fixture} (h : f.IsPlain) {marker : String}
    (hm : marker ∈ markers) :
    (linesOf (render f)).countP (fun line => trim line = marker) =
      (if marker = "[SetUp]" then f.setup.toList.length else 0) +
        if marker = "[Test]" then f.tests.length else 0 := by
  have hempty : [""].countP (fun line => trim line = marker) = 0 := by
    have hline : decide (trim "" = marker) = false := Line.isMarker_empty hm
    rw [List.countP_singleton, hline]
    rfl
  rw [h.linesOf_render, List.countP_append, hempty, List.countP_map, ← countP_isMarker_lines hm]
  rfl

end Scaffold.Fixture
