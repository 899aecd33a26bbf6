import Mathlib.Data.List.Forall2
import Scaffold.Fixture.Synthesis

/-!
# When a method has a test

The test of a method declares a variable for each parameter and one for the value that is returned.
When all these types have placeholders there is a test, and it calls the method under test;
otherwise the test is refused for the first type that has none (`test_spec`).
-/

namespace Scaffold

/-! ## Runs that can be refused -/

section Refusal

variable {α β ε : Type} {f : α → Except ε β} {as : List α}

/-- Of the elements of a list, `a` is the first one that is refused, and `e` is the reason. -/
def FirstRefused (f : α → Except ε β) (as : List α) (a : α) (e : ε) : Prop :=
  ∃ before after, as = before ++ a :: after ∧ (∀ x ∈ before, ∃ b, f x = .ok b) ∧ f a = .error e

theorem FirstRefused.cons {x a : α} {b : β} {e : ε} (hx : f x = .ok b)
    (h : FirstRefused f as a e) : FirstRefused f (x :: as) a e := by
  obtain ⟨before, after, rfl, hbefore, ha⟩ := h
  exact ⟨x :: before, after, rfl, List.forall_mem_cons.2 ⟨⟨b, hx⟩, hbefore⟩, ha⟩

/-- When an element is refused, not all have results. -/
theorem FirstRefused.not_forall {a : α} {e : ε} (h : FirstRefused f as a e) :
    ¬ ∀ x ∈ as, ∃ b, f x = .ok b := by
  obtain ⟨before, after, rfl, -, ha⟩ := h
  intro hall
  obtain ⟨b, hb⟩ := hall a (List.mem_append_right before List.mem_cons_self)
  rw [ha] at hb
  cases hb

/-- What comes after a refusal does not matter. -/
theorem FirstRefused.append {a : α} {e : ε} (h : FirstRefused f as a e) (rest : List α) :
    FirstRefused f (as ++ rest) a e := by
  obtain ⟨before, after, rfl, hbefore, ha⟩ := h
  refine ⟨before, after ++ rest, ?_, hbefore, ha⟩
  rw [List.append_assoc, List.cons_append]

/-- A run over a list gives one result for each element, or stops at the first that is refused. -/
theorem mapM_spec (f : α → Except ε β) (as : List α) :
    (∃ bs, as.mapM f = .ok bs ∧ List.Forall₂ (fun a b => f a = .ok b) as bs) ∨
      ∃ a e, as.mapM f = .error e ∧ FirstRefused f as a e := by
  induction as with
  | nil => exact .inl ⟨[], rfl, .nil⟩
  | cons x as ih =>
    rw [List.mapM_cons]
    cases hx : f x with
    | error e => exact .inr ⟨x, e, rfl, [], as, rfl, by simp, hx⟩
    | ok b =>
      rcases ih with ⟨bs, hrun, hbs⟩ | ⟨a, e, hrun, ha⟩
      · exact .inl ⟨b :: bs, by rw [hrun]; rfl, .cons hx hbs⟩
      · exact .inr ⟨a, e, by rw [hrun]; rfl, ha.cons hx⟩

/-- What a run over a list gives came of its elements. -/
theorem exists_of_mapM_ok {bs : List β} (h : as.mapM f = .ok bs) :
    ∀ b ∈ bs, ∃ a ∈ as, f a = .ok b := by
  rcases mapM_spec f as with ⟨results, hrun, hresults⟩ | ⟨a, e, hrun, -⟩
  · obtain rfl : results = bs := Except.ok.inj (hrun.symm.trans h)
    clear h hrun
    induction hresults with
    | nil => simp
    | cons hab _ ih =>
      rw [List.forall_mem_cons]
      refine ⟨⟨_, List.mem_cons_self, hab⟩, fun b hb => ?_⟩
      obtain ⟨a, ha, hf⟩ := ih b hb
      exact ⟨a, List.mem_cons_of_mem _ ha, hf⟩
  · rw [hrun] at h
    cases h

/-- What is related to an element of another list has what the relation says of it. -/
theorem forall_of_forall₂ {R : α → β → Prop} {P : α → Prop} {bs : List β}
    (hR : ∀ a b, R a b → P a) (h : List.Forall₂ R as bs) : ∀ a ∈ as, P a := by
  induction h with
  | nil => simp
  | cons hab _ ih => exact List.forall_mem_cons.2 ⟨hR _ _ hab, ih⟩

end Refusal

/-! ## The types that a test declares -/

/-- The types of the variables in a test of the method: those of the parameters, and the one of the
value that the method returns, if it returns one. -/
def Method.testedTypes (m : Method) : List String :=
  m.parameters.map (·.type) ++ if m.returnsValue then [m.returnType] else []

namespace Fixture

/-- A variable of the type can be declared and has a value to begin with. -/
def Resolves (typeParameters : List String) (type : String) : Prop :=
  ∃ value, placeholder type typeParameters = .ok value

/-- The type is the first one in a test of the method that has no placeholder. -/
def Offends (m : Method) (type : String) (reason : Unresolved) : Prop :=
  FirstRefused (placeholder · m.typeParameters) m.testedTypes type reason

theorem resolves_of_arrange {typeParameters : List String} {p : Parameter} {s : Statement}
    (h : arrange typeParameters p = .ok s) : Resolves typeParameters p.type := by
  unfold arrange at h
  split at h
  · exact ⟨_, ‹_›⟩
  · cases h

theorem arrange_eq_error_iff {typeParameters : List String} {p : Parameter} {type : String}
    {reason : Unresolved} : arrange typeParameters p = .error (type, reason) ↔
      type = p.type ∧ placeholder p.type typeParameters = .error reason := by
  unfold arrange
  split
  · rename_i value hvalue
    simp [hvalue]
  · rename_i reason' hreason
    rw [hreason, Except.error.injEq, Except.error.injEq, Prod.mk.injEq, eq_comm (b := type)]

/-- The locals of a test are made, or refused for the first parameter without a placeholder. -/
theorem arrange_spec (typeParameters : List String) (parameters : List Parameter) :
    (∃ locals, parameters.mapM (arrange typeParameters) = .ok locals ∧
        ∀ type ∈ parameters.map (·.type), Resolves typeParameters type) ∨
      ∃ type reason, parameters.mapM (arrange typeParameters) = .error (type, reason) ∧
        FirstRefused (placeholder · typeParameters) (parameters.map (·.type)) type reason := by
  rcases mapM_spec (arrange typeParameters) parameters with ⟨locals, hrun, hlocals⟩ | h
  · refine .inl ⟨locals, hrun, List.forall_mem_map.2 ?_⟩
    exact forall_of_forall₂ (fun _ _ => resolves_of_arrange) hlocals
  · obtain ⟨p, ⟨type, reason⟩, hrun, before, after, rfl, hbefore, hp⟩ := h
    obtain ⟨rfl, hreason⟩ := arrange_eq_error_iff.1 hp
    refine .inr ⟨p.type, reason, hrun, before.map (·.type), after.map (·.type), ?_, ?_, hreason⟩
    · rw [List.map_append, List.map_cons]
    · refine List.forall_mem_map.2 fun x hx => ?_
      obtain ⟨_, hx⟩ := hbefore x hx
      exact resolves_of_arrange hx

/-- The test has the given name and calls the method under test. -/
structure Tests (name : String) (c : ClassDeclaration) (m : Method) (t : Test) : Prop where
  name : t.name = name
  act : t.act = .expression (call c m) ∨ t.act = .declare none "actual" (call c m)

/-- A method has a test when all types of the test have placeholders, and otherwise the test is
refused for the first type that has none. -/
theorem test_spec (failureMessage name : String) (c : ClassDeclaration) (m : Method) :
    (∃ t, test failureMessage name c m = .ok t ∧ Tests name c m t ∧
        ∀ type ∈ m.testedTypes, Resolves m.typeParameters type) ∨
      ∃ type reason, test failureMessage name c m = .error (type, reason) ∧
        Offends m type reason := by
  unfold test Offends Method.testedTypes
  rcases arrange_spec m.typeParameters m.parameters with
    ⟨locals, hrun, hlocals⟩ | ⟨type, reason, hrun, hfirst⟩
  · rw [hrun]
    simp only [bind, Except.bind]
    split
    · cases hvalue : placeholder m.returnType m.typeParameters with
      | ok value =>
        refine .inl ⟨_, rfl, ⟨rfl, .inr rfl⟩, List.forall_mem_append.2 ⟨hlocals, ?_⟩⟩
        simpa using ⟨value, hvalue⟩
      | error reason =>
        exact .inr ⟨m.returnType, reason, rfl, m.parameters.map (·.type), [], rfl, hlocals, hvalue⟩
    · refine .inl ⟨_, rfl, ⟨rfl, .inl rfl⟩, ?_⟩
      rw [List.append_nil]
      exact hlocals
  · rw [hrun]
    exact .inr ⟨type, reason, rfl, hfirst.append _⟩

end Fixture

end Scaffold
