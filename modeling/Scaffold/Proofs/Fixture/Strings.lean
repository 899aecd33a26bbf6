import Scaffold.Proofs.Fixture.Plain

/-!
# The strings of a fixture

A fixture is made of strings: names, types, literals and messages, in expressions at any depth of
calls. Where no string has a line feed in it, no part of the text of the fixture has one either
(`isPlain_of_strings`).
-/

namespace Scaffold.Fixture

open Text (Plain)

/-! ## Strings -/

mutual

/-- The strings in an expression. -/
def Expr.strings : Expr → List String
  | .placeholder .typeDefault => []
  | .placeholder (.literal text) => [text]
  | .identifier name => [name]
  | .invoke target method arguments => target :: method :: Argument.stringsAll arguments
  | .create type arguments => type :: Argument.stringsAll arguments
  | .createMock type => [type]
  | .mockObject field => [field]

/-- The strings in an argument. -/
def Argument.strings : Argument → List String
  | ⟨keyword, value⟩ => keyword.toList ++ value.strings

/-- The strings in arguments. -/
def Argument.stringsAll : List Argument → List String
  | [] => []
  | a :: as => a.strings ++ Argument.stringsAll as

end

/-- The strings in a statement. -/
def Statement.strings : Statement → List String
  | declare type name value => type.toList ++ name :: value.strings
  | assign target value => target :: value.strings
  | expression value => value.strings
  | assertEqual actual expected => [actual, expected]
  | assertFail message => [message]

/-- The strings in a field. -/
def Field.strings (f : Field) : List String :=
  [f.name, f.type]

/-- The strings in a setup. -/
def Setup.strings (s : Setup) : List String :=
  s.name :: s.statements.flatMap Statement.strings

/-- The strings in a test. -/
def Test.strings (t : Test) : List String :=
  t.name :: t.body.flatMap Statement.strings

/-- The strings in a fixture. -/
def strings (f : Fixture) : List String :=
  f.name :: f.namespacePath :: f.sourceNamespace :: (f.imports ++
    f.fields.flatMap Field.strings ++ f.setup.toList.flatMap Setup.strings ++
    f.tests.flatMap Test.strings)

/-! ## Plain parts -/

mutual

/-- An expression of plain strings is plain. -/
theorem Expr.plain_render (e : Expr) (h : ∀ s ∈ e.strings, Plain s) : Plain e.render := by
  match e with
  | .placeholder .typeDefault =>
    rw [Expr.render_typeDefault]
    decide
  | .placeholder (.literal text) =>
    rw [Expr.render_literal]
    exact h text (by simp [Expr.strings])
  | .identifier name =>
    rw [Expr.render_identifier]
    exact h name (by simp [Expr.strings])
  | .invoke target method arguments =>
    rw [Expr.strings, List.forall_mem_cons, List.forall_mem_cons] at h
    obtain ⟨htarget, hmethod, harguments⟩ := h
    exact plain_invoke htarget hmethod (Argument.plain_renderAll arguments harguments)
  | .create type arguments =>
    rw [Expr.strings, List.forall_mem_cons] at h
    exact plain_create h.1 (Argument.plain_renderAll arguments h.2)
  | .createMock type => exact plain_createMock (h type (by simp [Expr.strings]))
  | .mockObject field => exact plain_mockObject (h field (by simp [Expr.strings]))

/-- An argument of plain strings is plain. -/
theorem Argument.plain_render (a : Argument) (h : ∀ s ∈ a.strings, Plain s) :
    Plain a.render := by
  match a with
  | ⟨none, value⟩ =>
    rw [Argument.render_none]
    exact Expr.plain_render value fun s hs => h s (by simpa [Argument.strings] using hs)
  | ⟨some keyword, value⟩ =>
    rw [Argument.strings, List.forall_mem_append] at h
    have hkeyword : Plain keyword := h.1 keyword (by simp)
    rw [Argument.render_some, Text.plain_append, Text.plain_append]
    exact ⟨⟨hkeyword, by decide⟩, Expr.plain_render value h.2⟩

/-- Arguments of plain strings are plain. -/
theorem Argument.plain_renderAll (as : List Argument)
    (h : ∀ s ∈ Argument.stringsAll as, Plain s) : ∀ a ∈ as, Plain a.render := by
  match as with
  | [] => simp
  | a :: as =>
    rw [Argument.stringsAll, List.forall_mem_append] at h
    rw [List.forall_mem_cons]
    exact ⟨Argument.plain_render a h.1, Argument.plain_renderAll as h.2⟩

end

/-- A statement of plain strings is plain. -/
theorem Statement.plain_render {s : Statement} (h : ∀ t ∈ s.strings, Plain t) :
    Plain s.render := by
  cases s with
  | declare type name value =>
    rw [strings, List.forall_mem_append, List.forall_mem_cons] at h
    obtain ⟨htype, hname, hvalue⟩ := h
    exact plain_declare (fun t ht => htype t (Option.mem_toList.2 ht)) hname
      (value.plain_render hvalue)
  | assign target value =>
    rw [strings, List.forall_mem_cons] at h
    exact plain_assign h.1 (value.plain_render h.2)
  | expression value => exact Text.plain_append.2 ⟨value.plain_render h, by decide⟩
  | assertEqual actual expected =>
    have hactual : Plain actual := h actual (by simp [strings])
    have hexpected : Plain expected := h expected (by simp [strings])
    simp only [render, Text.plain_append]
    exact ⟨⟨⟨⟨by decide, hactual⟩, by decide⟩, hexpected⟩, by decide⟩
  | assertFail message => exact plain_assertFail (h message (by simp [strings]))

/-- A fixture of plain strings is plain. -/
theorem isPlain_of_strings {f : Fixture} (h : ∀ s ∈ f.strings, Plain s) : f.IsPlain := by
  simp only [strings, List.forall_mem_cons, List.forall_mem_append] at h
  obtain ⟨hname, hnamespace, hsource, ⟨⟨himports, hfields⟩, hsetup⟩, htests⟩ := h
  have hstatements {name : String} {statements : List Statement}
      (h : ∀ t ∈ name :: statements.flatMap Statement.strings, Plain t) :
      Plain name ∧ ∀ s ∈ statements, Plain s.render := by
    rw [List.forall_mem_cons] at h
    refine ⟨h.1, fun s hs => Statement.plain_render fun t ht => ?_⟩
    exact h.2 t (List.mem_flatMap.2 ⟨s, hs, ht⟩)
  have hfield : ∀ field ∈ f.fields, Plain field.render := by
    intro field hfield
    have hstrings : ∀ t ∈ field.strings, Plain t :=
      fun t ht => hfields t (List.mem_flatMap.2 ⟨field, hfield, ht⟩)
    exact plain_field (hstrings field.name (by simp [Field.strings]))
      (hstrings field.type (by simp [Field.strings]))
  have hroutine : ∀ s ∈ f.setup, Plain s.name ∧ ∀ statement ∈ s.statements,
      Plain statement.render := by
    intro s hs
    refine hstatements fun t ht => ?_
    exact hsetup t (List.mem_flatMap.2 ⟨s, Option.mem_toList.2 hs, ht⟩)
  have htest : ∀ t ∈ f.tests, Plain t.name ∧ ∀ statement ∈ t.body, Plain statement.render := by
    intro s hs
    refine hstatements fun t ht => ?_
    exact htests t (List.mem_flatMap.2 ⟨s, hs, ht⟩)
  exact ⟨hname, hnamespace, hsource, himports, hfield, hroutine, htest⟩

end Scaffold.Fixture
