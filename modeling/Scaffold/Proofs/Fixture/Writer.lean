import Scaffold.Fixture.Render

/-!
# Writing a fixture move by move

The lines of a fixture can be written one after the other by a writer that only keeps the text so
far and the number of open blocks. A block is closed by counting down, and counting down stops at
zero. `run_moves` says that the writer gives the text of the fixture and ends with no block
open, and `depth_pos_of_moves` that it never counts down at zero.

`Writes` is the relation that carries this: some moves, begun with so many blocks open, add some
lines and leave so many blocks open. It composes along `++`.
-/

namespace Scaffold.Fixture

/-! ## Routines -/

/-- The setup or a test, with the marker that announces it. -/
structure Routine where
  marker : String
  name : String
  statements : List Statement

/-- The routines of a fixture, in order. -/
def routines (f : Fixture) : List Routine :=
  (f.setup.toList.map fun s => ⟨"[SetUp]", s.name, s.statements⟩) ++
    f.tests.map fun t => ⟨"[Test]", t.name, t.body⟩

/-- The lines of a routine of a fixture. -/
def Routine.lines (r : Routine) : List Line :=
  routine 2 r.marker r.name r.statements

/-- The lines of the fields of a fixture. -/
def fieldLines (f : Fixture) : List Line :=
  f.fields.map fun field => .text 2 field.render

theorem memberGroups_eq (f : Fixture) :
    memberGroups f =
      (if f.fields.isEmpty then [] else [fieldLines f]) ++ f.routines.map Routine.lines := by
  rw [memberGroups, routines, List.map_append, List.map_map, List.map_map, List.append_assoc]
  rfl

/-! ## Writers -/

/-- What a writer has written, and how many blocks are open. -/
structure Writer where
  text : String
  depth : Nat

/-- A move of a writer. -/
inductive Move where
  /-- A line in the open blocks. -/
  | line (content : String)
  | blank
  /-- A block is opened. -/
  | opening
  /-- A block is closed. -/
  | closing

namespace Writer

/-- A writer that has written nothing. -/
def start : Writer := ⟨"", 0⟩

/-- A line is added. -/
def line (w : Writer) (content : String) : Writer :=
  { w with text := w.text ++ (Line.text w.depth content).render }

/-- The writer after a move. -/
def move (w : Writer) : Move → Writer
  | .line content => w.line content
  | .blank => { w with text := w.text ++ Line.empty.render }
  | .opening => { w.line "\x7b" with depth := w.depth + 1 }
  | .closing => { w with depth := w.depth - 1 }.line "\x7d"

/-- The writer after some moves. -/
def run (w : Writer) (moves : List Move) : Writer :=
  moves.foldl move w

theorem run_append (w : Writer) (before after : List Move) :
    w.run (before ++ after) = (w.run before).run after :=
  List.foldl_append

end Writer

/-! ## The moves of a fixture -/

/-- The moves that write a routine. -/
def Routine.moves (r : Routine) : List Move :=
  .line r.marker :: .line ("public void " ++ r.name ++ "()") :: .opening ::
    (r.statements.map fun s => .line s.render) ++ [.closing]

/-- The moves that write routines, with an empty line before each that is not the first member. -/
def routineMoves : Bool → List Routine → List Move
  | _, [] => []
  | first, r :: rs => (if first then [] else [.blank]) ++ r.moves ++ routineMoves false rs

/-- The moves that write a fixture. -/
def moves (f : Fixture) : List Move :=
  (usings f).map (fun name => .line ("using " ++ name ++ ";")) ++
    [.blank, .line ("namespace " ++ f.namespacePath), .opening, .line "[TestFixture]",
      .line ("public class " ++ f.name), .opening] ++
    f.fields.map (fun field => .line field.render) ++
    routineMoves f.fields.isEmpty f.routines ++ [.closing, .closing]

/-! ## What moves write -/

/-- Begun with `d` blocks open, the moves add the lines, never close a block where none is open,
and leave `e` blocks open. -/
structure Writes (d : Nat) (moves : List Move) (added : List Line) (e : Nat) : Prop where
  run : ∀ text, Writer.run ⟨text, d⟩ moves = ⟨text ++ String.join (added.map Line.render), e⟩
  open_pos : ∀ text before after, moves = before ++ .closing :: after →
    0 < (Writer.run ⟨text, d⟩ before).depth

namespace Writes

variable {d e k : Nat} {first second : List Move} {ls rest : List Line}

theorem nil (d : Nat) : Writes d [] [] d where
  run text := by simp [Writer.run]
  open_pos text before after h := by simp at h

/-- What two runs of moves write is written one after the other. -/
theorem append (h : Writes d first ls e) (h' : Writes e second rest k) :
    Writes d (first ++ second) (ls ++ rest) k where
  run text := by
    rw [Writer.run_append, h.run, h'.run, List.map_append, String.join_append, String.append_assoc]
  open_pos text before after hclose := by
    -- The block is closed among the second moves or among the first.
    obtain ⟨more, rfl, hsecond⟩ | ⟨more, hfirst, hafter⟩ := List.append_eq_append_iff.1 hclose
    · rw [Writer.run_append, h.run]
      exact h'.open_pos _ more after hsecond
    · cases more with
      | nil =>
        rw [List.append_nil] at hfirst
        rw [← hfirst, h.run]
        exact h'.open_pos _ [] after hafter.symm
      | cons m more =>
        obtain ⟨rfl, -⟩ := List.cons.inj hafter
        exact h.open_pos text before more hfirst

/-- A single move closes a block only as the first one. -/
theorem single {m : Move} (hrun : ∀ text, Writer.move ⟨text, d⟩ m =
    ⟨text ++ String.join (ls.map Line.render), e⟩) (hclose : m = .closing → 0 < d) :
    Writes d [m] ls e where
  run := hrun
  open_pos text before after h := by
    cases before with
    | nil =>
      obtain ⟨hm, -⟩ := List.cons.inj h
      exact hclose hm
    | cons m' before => simp at h

theorem line (d : Nat) (content : String) :
    Writes d [.line content] [.text d content] d :=
  single (fun text => by simp [Writer.move, Writer.line]) nofun

theorem blank (d : Nat) : Writes d [.blank] [.empty] d :=
  single (fun text => by simp [Writer.move]) nofun

theorem opening (d : Nat) : Writes d [.opening] [.text d "\x7b"] (d + 1) :=
  single (fun text => by simp [Writer.move, Writer.line]) nofun

theorem closing (d : Nat) : Writes (d + 1) [.closing] [.text d "\x7d"] d :=
  single (fun text => by simp [Writer.move, Writer.line]) fun _ => Nat.succ_pos d

/-- Lines are written one by one. -/
theorem lines {α : Type} (d : Nat) (content : α → String) (as : List α) :
    Writes d (as.map fun a => .line (content a)) (as.map fun a => .text d (content a)) d := by
  induction as with
  | nil => exact nil d
  | cons a as ih => exact (line d (content a)).append ih

/-- A block is written around what is inside. -/
theorem block (h : Writes (d + 1) first ls (d + 1)) :
    Writes d (.opening :: first ++ [.closing]) (block d ls) d :=
  ((opening d).append h).append (closing d)

theorem routine (r : Routine) : Writes 2 r.moves r.lines 2 := by
  have hheader := (line 2 r.marker).append (line 2 ("public void " ++ r.name ++ "()"))
  have hbody := block (lines 3 Statement.render r.statements)
  exact hheader.append hbody

end Writes

/-- Groups after the first stand each behind an empty line. -/
theorem spaced_cons (group : List Line) (groups : List (List Line)) :
    spaced (group :: groups) = group ++ groups.flatMap (.empty :: ·) := by
  induction groups generalizing group with
  | nil => simp [spaced]
  | cons next groups ih =>
    rw [spaced, ih next, List.flatMap_cons, List.cons_append]
    simp

/-- Routines behind another member are written each behind an empty line. -/
theorem Writes.following (rs : List Routine) :
    Writes 2 (routineMoves false rs) ((rs.map Routine.lines).flatMap (.empty :: ·)) 2 := by
  induction rs with
  | nil => exact nil 2
  | cons r rs ih => exact ((blank 2).append (routine r)).append ih

/-- The members of a fixture are written with empty lines between them. -/
theorem Writes.members (f : Fixture) :
    Writes 2 (f.fields.map (fun field => .line field.render) ++
      routineMoves f.fields.isEmpty f.routines) (spaced (memberGroups f)) 2 := by
  rw [memberGroups_eq]
  cases hfields : f.fields with
  | nil =>
    -- Without fields, the first routine has no empty line before it.
    cases hroutines : f.routines with
    | nil => exact nil 2
    | cons r rs =>
      rw [List.isEmpty_nil, if_pos rfl, List.map_cons, List.nil_append, spaced_cons]
      exact (routine r).append (following rs)
  | cons field fields =>
    have hlines : Writes 2 (f.fields.map fun field => .line field.render) (fieldLines f) 2 :=
      lines 2 Field.render f.fields
    rw [List.isEmpty_cons, if_neg Bool.false_ne_true, List.singleton_append, spaced_cons,
      ← hfields]
    exact hlines.append (following f.routines)

/-- The moves of a fixture write its lines, from no open block to no open block. -/
theorem Writes.fixture (f : Fixture) : Writes 0 f.moves f.lines 0 := by
  have husings := lines 0 (fun name => "using " ++ name ++ ";") (usings f)
  have hclass := ((line 1 "[TestFixture]").append (line 1 ("public class " ++ f.name))).append
    (block (members f))
  have hnamespace := (line 0 ("namespace " ++ f.namespacePath)).append (block hclass)
  have hall := husings.append ((blank 0).append hnamespace)
  have hmoves : f.moves = (usings f).map (fun name => .line ("using " ++ name ++ ";")) ++
      ([.blank] ++ ([.line ("namespace " ++ f.namespacePath)] ++ (.opening ::
        ([.line "[TestFixture]"] ++ [.line ("public class " ++ f.name)] ++ (.opening ::
          (f.fields.map (fun field => .line field.render) ++
            routineMoves f.fields.isEmpty f.routines) ++ [.closing])) ++ [.closing]))) := by
    simp [moves]
  rw [hmoves]
  exact hall

/-- The writer gives the text of a fixture and ends with no block open. -/
theorem run_moves (f : Fixture) : Writer.start.run f.moves = ⟨render f, 0⟩ := by
  have hrun := (Writes.fixture f).run ""
  rw [String.empty_append] at hrun
  exact hrun

/-- Where the writer closes a block, one is open. -/
theorem depth_pos_of_moves {f : Fixture} {before after : List Move}
    (h : f.moves = before ++ .closing :: after) : 0 < (Writer.start.run before).depth :=
  (Writes.fixture f).open_pos "" before after h

end Scaffold.Fixture
