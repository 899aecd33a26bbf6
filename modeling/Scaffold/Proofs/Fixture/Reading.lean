import Scaffold.Proofs.Fixture.Strings
import Scaffold.Proofs.Fixture.Writer

/-!
# Reading a fixture back

The routines of a fixture can be found again in its text. A line that is the header of a routine
once it is trimmed gives the name, and the lines of the block that begins next give the statements.
Nothing else in a fixture reads as a header or as a brace, whatever the strings in it are, as long
as none has a line feed in it: the other lines end with a semicolon, or begin with a fixed word
(`Quiet`). `readsBack_of_plain` puts this together with the balance of the braces.

`Scans` is the relation that carries the proof: some lines, read with any lines after them, give
some routines, and lead from one depth of braces to another.
-/

namespace Scaffold.Fixture

open Text (Plain linesOf trim)

/-! ## A reader -/

/-- The text without the ending `t`, if it ends with `t`. -/
def dropEnding? (s t : String) : Option String :=
  if t.toList.isSuffixOf s.toList then
    some (String.ofList (s.toList.take (s.length - t.length)))
  else none

/-- The name in a line that is the header of a routine when it is trimmed. -/
def headerName? (line : String) : Option String :=
  (Text.dropBeginning? (trim line) "public void ").bind (dropEnding? · "()")

/-- The lines between the next opening brace and the closing brace after it. -/
def nextBlock (lines : List String) : List String :=
  ((lines.dropWhile (trim · ≠ "\x7b")).drop 1).takeWhile (trim · ≠ "\x7d")

/-- The routines in some lines: the name in each header and the lines of the block after it. -/
def readRoutines : List String → List (String × List String)
  | [] => []
  | line :: rest =>
    match headerName? line with
    | some name => (name, nextBlock rest) :: readRoutines rest
    | none => readRoutines rest

/-- How far a line goes up or down: by a brace that stands alone. -/
def brace (line : String) : Int :=
  if trim line = "\x7b" then 1 else if trim line = "\x7d" then -1 else 0

/-- The depth that the braces of some lines lead to. -/
def nesting : List String → Int
  | [] => 0
  | line :: rest => brace line + nesting rest

theorem nesting_append (before after : List String) :
    nesting (before ++ after) = nesting before + nesting after := by
  induction before with
  | nil => rw [List.nil_append, nesting, Int.zero_add]
  | cons line before ih => rw [List.cons_append, nesting, ih, nesting, Int.add_assoc]

/-- The names are those in the headers. -/
theorem map_fst_readRoutines (lines : List String) :
    (readRoutines lines).map Prod.fst = lines.filterMap headerName? := by
  induction lines with
  | nil => rfl
  | cons line rest ih =>
    rw [readRoutines]
    cases h : headerName? line with
    | none => rw [List.filterMap_cons_none h, ← ih]
    | some name => rw [List.filterMap_cons_some h, ← ih, List.map_cons]

/-! ## Headers -/

theorem dropBeginning?_eq_some_iff {s t rest : String} :
    Text.dropBeginning? s t = some rest ↔ s = t ++ rest := by
  unfold Text.dropBeginning? Text.begins
  constructor
  · intro h
    split at h
    · rename_i hbegins
      obtain ⟨cs, hcs⟩ := List.isPrefixOf_iff_prefix.1 hbegins
      obtain rfl := Option.some.inj h
      rw [← String.toList_inj, String.toList_append, String.toList_ofList, ← hcs,
        ← String.length_toList, List.drop_left]
    · cases h
  · rintro rfl
    rw [if_pos (by simp), String.toList_append, ← String.length_toList, List.drop_left,
      String.ofList_toList]

theorem dropEnding?_eq_some_iff {s t rest : String} :
    dropEnding? s t = some rest ↔ s = rest ++ t := by
  unfold dropEnding?
  constructor
  · intro h
    split at h
    · rename_i hends
      obtain ⟨cs, hcs⟩ := List.isSuffixOf_iff_suffix.1 hends
      obtain rfl := Option.some.inj h
      have hlength : s.length - t.length = cs.length := by
        rw [← String.length_toList, ← String.length_toList, ← hcs, List.length_append]
        omega
      rw [← String.toList_inj, String.toList_append, String.toList_ofList, hlength, ← hcs,
        List.take_left]
    · cases h
  · rintro rfl
    have hlength : (rest ++ t).length - t.length = rest.toList.length := by
      rw [String.length_append, String.length_toList]
      omega
    rw [if_pos (by simp), hlength, String.toList_append, List.take_left, String.ofList_toList]

theorem head?_header (name : String) :
    ("public void " ++ name ++ "()").toList.head? = some 'p' :=
  Text.head?_append (Text.head?_append rfl)

theorem getLast?_header (name : String) :
    ("public void " ++ name ++ "()").toList.getLast? = some ')' :=
  Text.getLast?_append rfl

/-- A header is a line that is `public void X()` when it is trimmed. -/
theorem headerName?_eq_some_iff {line name : String} :
    headerName? line = some name ↔ trim line = "public void " ++ name ++ "()" := by
  rw [headerName?, Option.bind_eq_some_iff]
  constructor
  · rintro ⟨rest, hrest, hname⟩
    rw [dropBeginning?_eq_some_iff.1 hrest, dropEnding?_eq_some_iff.1 hname, String.append_assoc]
  · intro h
    refine ⟨name ++ "()", ?_, dropEnding?_eq_some_iff.2 rfl⟩
    rw [dropBeginning?_eq_some_iff, h, String.append_assoc]

/-- A header is no brace. -/
theorem brace_of_headerName? {line name : String} (h : headerName? line = some name) :
    brace line = 0 := by
  rw [headerName?_eq_some_iff] at h
  have hhead : (trim line).toList.head? = some 'p' := h ▸ head?_header name
  have hopen : trim line ≠ "\x7b" := by
    intro heq
    rw [heq] at hhead
    exact absurd hhead (by decide)
  have hclose : trim line ≠ "\x7d" := by
    intro heq
    rw [heq] at hhead
    exact absurd hhead (by decide)
  rw [brace, if_neg hopen, if_neg hclose]

/-! ## Quiet lines -/

/-- A line that is no header and no brace. -/
structure Quiet (line : String) : Prop where
  header : ∀ name, trim line ≠ "public void " ++ name ++ "()"
  opening : trim line ≠ "\x7b"
  closing : trim line ≠ "\x7d"

namespace Quiet

variable {line : String}

theorem headerName? (h : Quiet line) : headerName? line = none := by
  rw [Option.eq_none_iff_forall_ne_some]
  exact fun name hname => h.header name (headerName?_eq_some_iff.1 hname)

theorem brace (h : Quiet line) : brace line = 0 := by
  rw [Fixture.brace, if_neg h.opening, if_neg h.closing]

theorem empty : Quiet "" where
  header name h := by
    have hhead := head?_header name
    rw [← h] at hhead
    exact absurd hhead (by decide)
  opening := by decide
  closing := by decide

/-- A text that ends with a semicolon is quiet. -/
theorem of_semicolon {content : String} (h : content.toList.getLast? = some ';') :
    Quiet content where
  header name := by
    refine Text.trim_ne_of_getLast? h (by decide) ?_
    rw [getLast?_header]
    decide
  opening := Text.trim_ne_of_getLast? h (by decide) (by decide)
  closing := Text.trim_ne_of_getLast? h (by decide) (by decide)

/-- A text that begins with a character of no header and no brace is quiet. -/
theorem of_head {content : String} {c : Char} (h : content.toList.head? = some c)
    (hblank : Text.isBlank c = false) (hc : c ∉ ['p', '\x7b', '\x7d']) : Quiet content where
  header name := by
    refine Text.trim_ne_of_head? h hblank ?_
    rw [head?_header]
    rintro ⟨⟩
    exact hc (by decide)
  opening := by
    refine Text.trim_ne_of_head? h hblank ?_
    rintro ⟨⟩
    exact hc (by decide)
  closing := by
    refine Text.trim_ne_of_head? h hblank ?_
    rintro ⟨⟩
    exact hc (by decide)

/-- The header of a class is no header of a routine: it begins with other words. -/
theorem of_class (name : String) : Quiet ("public class " ++ name) := by
  have hhead : ("public class " ++ name).toList.head? = some 'p' := Text.head?_append rfl
  refine ⟨fun other h => ?_, Text.trim_ne_of_head? hhead (by decide) (by decide),
    Text.trim_ne_of_head? hhead (by decide) (by decide)⟩
  -- Trimming keeps the beginning, so that the header of a routine would begin it.
  have hprefix := Text.trim_isPrefix hhead (by decide)
  rw [h, String.append_assoc, String.toList_append, String.toList_append (s := "public class ")]
    at hprefix
  have hword : "public void ".toList <+: "public class ".toList ++ name.toList :=
    (List.prefix_append _ _).trans hprefix
  have hlength : "public void ".toList.length ≤ "public class ".toList.length := by decide
  exact absurd (List.prefix_of_prefix_length_le hword (List.prefix_append _ _) hlength)
    (by decide)

/-- Depth does not count. -/
theorem text {content : String} (h : Quiet content) (depth : Nat) :
    Quiet (Line.text depth content).body where
  header name := by
    rw [Line.trim_body]
    exact h.header name
  opening := by
    rw [Line.trim_body]
    exact h.opening
  closing := by
    rw [Line.trim_body]
    exact h.closing

end Quiet

/-! ## Scanning -/

/-- The lines give the routines that are found, with any lines after them, and their braces lead
from depth `d` to depth `e` without going below zero. -/
structure Scans (d : Nat) (ls : List Line) (found : List (String × List String)) (e : Nat) :
    Prop where
  reads : ∀ rest, readRoutines (ls.map Line.body ++ rest) = found ++ readRoutines rest
  leads : d + nesting (ls.map Line.body) = e
  nonneg : ∀ before, before <+: ls.map Line.body → 0 ≤ d + nesting before

theorem trim_opening (depth : Nat) : trim (Line.text depth "\x7b").body = "\x7b" := by
  rw [Line.trim_body]
  decide

theorem trim_closing (depth : Nat) : trim (Line.text depth "\x7d").body = "\x7d" := by
  rw [Line.trim_body]
  decide

namespace Scans

variable {d e k : Nat} {ls more : List Line} {found others : List (String × List String)}

theorem nil (d : Nat) : Scans d [] [] d where
  reads rest := rfl
  leads := by simp [nesting]
  nonneg before h := by
    obtain rfl := List.prefix_nil.1 h
    simp [nesting]

/-- What is found in lines after each other is found one after the other. -/
theorem append (h : Scans d ls found e) (h' : Scans e more others k) :
    Scans d (ls ++ more) (found ++ others) k where
  reads rest := by
    rw [List.map_append, List.append_assoc, h.reads, h'.reads, List.append_assoc]
  leads := by
    rw [List.map_append, nesting_append, ← Int.add_assoc, h.leads, h'.leads]
  nonneg before hbefore := by
    rw [List.map_append] at hbefore
    obtain ⟨after, heq⟩ := hbefore
    -- The lines end before, or somewhere in, those that come second.
    rcases List.append_eq_append_iff.1 heq with ⟨tail, hfirst, -⟩ | ⟨tail, rfl, hsecond⟩
    · exact h.nonneg before ⟨tail, hfirst.symm⟩
    · rw [nesting_append, ← Int.add_assoc, h.leads]
      exact h'.nonneg tail ⟨after, hsecond.symm⟩

/-- A line in front of lines can begin a routine with them; `hreads` says what is found. -/
theorem cons {line : Line} (hbrace : d + brace line.body = e) (h : Scans e ls others k)
    (hreads : ∀ rest, readRoutines (line.body :: (ls.map Line.body ++ rest)) =
      found ++ readRoutines rest) : Scans d (line :: ls) found k where
  reads := hreads
  leads := by
    rw [List.map_cons, nesting, ← Int.add_assoc, hbrace, h.leads]
  nonneg before hbefore := by
    rcases List.prefix_cons_iff.1 hbefore with rfl | ⟨tail, rfl, htail⟩
    · simp [nesting]
    · rw [nesting, ← Int.add_assoc, hbrace]
      exact h.nonneg tail htail

/-- A line that is no header finds nothing. -/
theorem single {line : Line} (hheader : headerName? line.body = none)
    (hbrace : d + brace line.body = e) : Scans d [line] [] e := by
  refine cons hbrace (nil e) fun rest => ?_
  rw [readRoutines, hheader]
  rfl

theorem quiet {line : Line} (h : Quiet line.body) : Scans d [line] [] d :=
  single h.headerName? (by rw [h.brace, Int.add_zero])

theorem blank (d : Nat) : Scans d [.empty] [] d :=
  quiet Quiet.empty

/-- Quiet lines find nothing and stay at their depth. -/
theorem quietAll {α : Type} {line : α → Line} {as : List α}
    (h : ∀ a ∈ as, Quiet (line a).body) : Scans d (as.map line) [] d := by
  induction as with
  | nil => exact nil d
  | cons a as ih =>
    obtain ⟨ha, has⟩ := List.forall_mem_cons.1 h
    exact (quiet ha).append (ih has)

theorem opening (depth : Nat) : Scans d [.text depth "\x7b"] [] (d + 1) := by
  refine single ?_ ?_
  · rw [headerName?, trim_opening]
    decide
  · rw [brace, trim_opening, if_pos rfl]
    rfl

theorem closing (depth : Nat) : Scans (d + 1) [.text depth "\x7d"] [] d := by
  refine single ?_ ?_
  · rw [headerName?, trim_closing]
    decide
  · rw [brace, trim_closing, if_neg (by decide), if_pos rfl]
    omega

/-- A block finds what is inside, and its braces cancel. -/
theorem block (depth : Nat) (h : Scans (d + 1) ls found (d + 1)) :
    Scans d (block depth ls) found d := by
  have hblock := ((opening depth).append h).append (closing (d := d) depth)
  rwa [List.nil_append, List.append_nil] at hblock

end Scans

/-! ## Routines -/

/-- A statement is a quiet line. -/
theorem Statement.quiet (s : Statement) : Quiet s.render :=
  Quiet.of_semicolon s.getLast?_render

/-- The line of a statement in a routine. -/
def Statement.line (s : Statement) : String :=
  "            " ++ s.render

/-- What a routine reads as. -/
def Routine.reading (r : Routine) : String × List String :=
  (r.name, r.statements.map Statement.line)

/-- The header of a routine, once it is trimmed, is as it was written. -/
theorem headerName?_header (depth : Nat) (name : String) :
    headerName? (Line.text depth ("public void " ++ name ++ "()")).body = some name := by
  rw [headerName?_eq_some_iff, Line.trim_body]
  exact Text.trim_eq_self (head?_header name) (by decide) (getLast?_header name) (by decide)

/-- The next block of a block is what is inside, if nothing in it reads as its end. -/
theorem nextBlock_block (depth : Nat) {inside : List Line} (h : ∀ line ∈ inside, Quiet line.body)
    (rest : List String) :
    nextBlock ((block depth inside).map Line.body ++ rest) = inside.map Line.body := by
  have hinside : ∀ line ∈ inside.map Line.body, decide (trim line ≠ "\x7d") = true := by
    rw [List.forall_mem_map]
    exact fun line hline => decide_eq_true (h line hline).closing
  rw [nextBlock, block, List.cons_append, List.map_cons, List.map_append, List.map_singleton,
    List.cons_append, List.append_assoc, List.singleton_append,
    List.dropWhile_cons_of_neg (by simp [trim_opening]), List.drop_one, List.tail_cons,
    List.takeWhile_append_of_pos hinside, List.takeWhile_cons_of_neg (by simp [trim_closing]),
    List.append_nil]

/-- A routine is found by its header, with its statements. -/
theorem Scans.routine {d : Nat} {r : Routine} (hmarker : Quiet r.marker) :
    Scans d r.lines [r.reading] d := by
  have hlines : (r.statements.map fun s => Line.text 3 s.render).map Line.body =
      r.statements.map Statement.line := by
    rw [List.map_map]
    rfl
  have hquiet : ∀ s ∈ r.statements, Quiet (Line.text 3 s.render).body :=
    fun s _ => s.quiet.text 3
  have hblock := Scans.block 2 (Scans.quietAll (d := d + 1) hquiet)
  have hheader := headerName?_header 2 r.name
  have hbrace : d + brace (Line.text 2 ("public void " ++ r.name ++ "()")).body = d := by
    rw [brace_of_headerName? hheader, Int.add_zero]
  refine (Scans.quiet (hmarker.text 2)).append (Scans.cons hbrace hblock fun rest => ?_)
  rw [readRoutines, hheader]
  show (r.name, nextBlock _) :: readRoutines _ = _
  rw [nextBlock_block 2 (List.forall_mem_map.2 hquiet), hblock.reads, hlines]
  rfl

/-! ## Fixtures -/

/-- The markers of routines are quiet. -/
theorem quiet_marker {f : Fixture} : ∀ r ∈ f.routines, Quiet r.marker := by
  have hquiet (marker : String) (h : marker.toList.head? = some '[') : Quiet marker :=
    Quiet.of_head h (by decide) (by decide)
  rw [routines, List.forall_mem_append, List.forall_mem_map, List.forall_mem_map]
  exact ⟨fun s _ => hquiet "[SetUp]" rfl, fun t _ => hquiet "[Test]" rfl⟩

namespace Scans

variable {d : Nat}

/-- Routines behind another member are found one after the other. -/
theorem following {rs : List Routine} (h : ∀ r ∈ rs, Quiet r.marker) :
    Scans d ((rs.map Routine.lines).flatMap (.empty :: ·)) (rs.map Routine.reading) d := by
  induction rs with
  | nil => exact nil d
  | cons r rs ih =>
    obtain ⟨hr, hrs⟩ := List.forall_mem_cons.1 h
    exact ((blank d).append (routine hr)).append (ih hrs)

/-- Among the members of a fixture, just its routines are found. -/
theorem members (f : Fixture) :
    Scans d (spaced (memberGroups f)) (f.routines.map Routine.reading) d := by
  have hmarkers := quiet_marker (f := f)
  rw [memberGroups_eq]
  cases f.fields.isEmpty with
  | true =>
    rw [if_pos rfl, List.nil_append]
    cases hroutines : f.routines with
    | nil => exact nil d
    | cons r rs =>
      rw [hroutines] at hmarkers
      obtain ⟨hr, hrs⟩ := List.forall_mem_cons.1 hmarkers
      rw [List.map_cons, spaced_cons]
      exact (routine hr).append (following hrs)
  | false =>
    have hfields : Scans d (fieldLines f) [] d :=
      quietAll fun field _ => (Quiet.of_semicolon field.getLast?_render).text 2
    rw [if_neg Bool.false_ne_true, List.singleton_append, spaced_cons]
    exact hfields.append (following hmarkers)

/-- In a fixture, just its routines are found, and its braces lead back to where they began. -/
theorem fixture (f : Fixture) : Scans d f.lines (f.routines.map Routine.reading) d := by
  have husings : Scans d ((usings f).map fun name => .text 0 ("using " ++ name ++ ";")) [] d :=
    quietAll fun name _ => (Quiet.of_semicolon (Text.getLast?_append rfl)).text 0
  have hnamespace : Quiet ("namespace " ++ f.namespacePath) :=
    Quiet.of_head (c := 'n') (Text.head?_append rfl) (by decide) (by decide)
  have hfixture : Quiet "[TestFixture]" := Quiet.of_head (c := '[') rfl (by decide) (by decide)
  have hclass := ((quiet (hfixture.text 1)).append (quiet ((Quiet.of_class f.name).text 1))).append
    (block 1 (members (d := d + 1 + 1) f))
  have hbody := (quiet (hnamespace.text 0)).append (block 0 hclass)
  exact husings.append ((blank d).append hbody)

end Scans

/-- The text of a fixture can be read back. -/
structure ReadsBack (f : Fixture) : Prop where
  /-- The headers in the text are those of the setup, if there is one, and of the tests. -/
  names : (linesOf (render f)).filterMap headerName? =
    f.setup.toList.map Setup.name ++ f.tests.map Test.name
  /-- Between the braces after a header stand the statements, a line for each. -/
  bodies : readRoutines (linesOf (render f)) =
    (f.setup.toList.map fun s => (s.name, s.statements.map Statement.line)) ++
      f.tests.map fun t => (t.name, t.body.map Statement.line)
  /-- The depth counted over the braces is never negative. -/
  nonneg : ∀ before, before <+: linesOf (render f) → 0 ≤ nesting before
  /-- The depth counted over the braces ends at zero. -/
  level : nesting (linesOf (render f)) = 0
  /-- The writer gives the text and ends with no block open. -/
  written : Writer.start.run f.moves = ⟨render f, 0⟩
  /-- Where the writer closes a block, one is open. -/
  open_pos : ∀ before after, f.moves = before ++ .closing :: after →
    0 < (Writer.start.run before).depth

/-- The text of a fixture whose strings have no line feed in them can be read back. -/
theorem readsBack_of_plain {f : Fixture} (h : ∀ s ∈ f.strings, Plain s) : f.ReadsBack := by
  have hlines : linesOf (render f) = (f.lines ++ [Line.empty]).map Line.body := by
    rw [(isPlain_of_strings h).linesOf_render, List.map_append]
    rfl
  -- The text ends with a line feed, so that an empty line comes last.
  have hscans := (Scans.fixture (d := 0) f).append (Scans.blank 0)
  rw [List.append_nil] at hscans
  have hbodies : readRoutines (linesOf (render f)) = f.routines.map Routine.reading := by
    have hreads := hscans.reads []
    rwa [List.append_nil, readRoutines, List.append_nil, ← hlines] at hreads
  have hnames : (linesOf (render f)).filterMap headerName? = f.routines.map Routine.name := by
    rw [← map_fst_readRoutines, hbodies, List.map_map]
    rfl
  constructor
  case names =>
    rw [hnames, routines, List.map_append, List.map_map, List.map_map]
    rfl
  case bodies =>
    rw [hbodies, routines, List.map_append, List.map_map, List.map_map]
    rfl
  case nonneg =>
    intro before hbefore
    have hnonneg := hscans.nonneg before (hlines ▸ hbefore)
    rwa [Int.natCast_zero, Int.zero_add] at hnonneg
  case level =>
    have hleads := hscans.leads
    rwa [← hlines, Int.natCast_zero, Int.zero_add] at hleads
  case written => exact run_moves f
  case open_pos => exact fun before after => depth_pos_of_moves

/-- A fixture with names and literals that look like headers and braces. -/
def lookalikes : Fixture where
  name := "Void Load()"
  namespacePath := "\x7b"
  sourceNamespace := "public void Open()"
  imports := ["\x7d"]
  fields := [⟨"Store()", "void", false⟩]
  setup := some ⟨"Before", [
    .assign "\x7d" (.create "public void" [⟨some "out", .mockObject "\x7b"⟩])]⟩
  tests := [⟨" ", [], .expression (.identifier "public void Close()"),
    [.expression (.placeholder (.literal "\x7d")), .assertFail "\x7b"]⟩]

theorem readsBack_of_plain_lookalikes :
    (∀ s ∈ lookalikes.strings, Plain s) ∧
      readRoutines (linesOf (render lookalikes)) = [
        ("Before", ["            \x7d = new public void(out \x7b.Object);"]),
        (" ", ["            public void Close();", "            \x7d;",
          "            Assert.Fail(\"\x7b\");"])] := by
  have hplain : ∀ s ∈ lookalikes.strings, Plain s := by decide
  refine ⟨hplain, (readsBack_of_plain hplain).bodies.trans ?_⟩
  decide

end Scaffold.Fixture
