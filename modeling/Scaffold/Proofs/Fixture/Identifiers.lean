import Scaffold.Proofs.CSharp.Identifier
import Scaffold.Proofs.Fixture.Members
import Scaffold.Proofs.Text.Identifier

/-!
# Which fields are called by identifiers

A field is called after an identifier of the class: an underscore comes in front, the first
character is put in lower case, and a mock that has to be renamed gets an ending. All of this goes
on an identifier, escapes and characters beyond ASCII included (`continues_lowercase`,
`exists_candidate_eq`). But an identifier may be marked by an `@`, which then stands behind the
underscore, where no mark can be (`isIdentifier_candidate_iff`). So the fields of a fixture are
called by identifiers exactly when neither the class nor a mocked parameter is marked
(`Synthesizer.fieldNames_isIdentifier_iff`).
-/

namespace Scaffold.Fixture

open CSharp (IsIdentifier IsPart IsPlain Continues isIdentifier_iff)

/-- The name is marked as an identifier, whatever word follows. -/
def IsMarked (name : String) : Prop :=
  name.toList.head? = some '@'

instance (name : String) : Decidable (IsMarked name) :=
  inferInstanceAs (Decidable (name.toList.head? = some '@'))

/-! ## The names of fields -/

/-- Behind other characters, an identifier that begins in lower case can go on. -/
theorem continues_lowercase {c : Char} {cs : List Char} (h : IsPlain (c :: cs)) :
    Continues (Text.lowercase c ++ cs) := by
  have hescape : Text.lowercase '\\' = ['\\'] := by decide
  generalize htext : c :: cs = text at h
  obtain @⟨_, rest, first, further⟩ := h
  cases first with
  | char allowed =>
    obtain ⟨rfl, rfl⟩ := List.cons.inj htext
    refine .trans (.of_all ?_) further
    rcases Bool.or_eq_true .. ▸ allowed with hunderscore | hstart
    · rw [eq_of_beq hunderscore]
      decide
    · exact List.all_eq_true.2 fun d hd => Text.isIdentifierContinue_of_mem_lowercase hstart hd
  | @short digits length hex =>
    obtain ⟨rfl, rfl⟩ := List.cons.inj htext
    rw [hescape]
    show Continues (('\\' :: 'u' :: digits) ++ rest)
    exact .append (.short length hex) further
  | @long digits length hex =>
    obtain ⟨rfl, rfl⟩ := List.cons.inj htext
    rw [hescape]
    show Continues (('\\' :: 'U' :: digits) ++ rest)
    exact .append (.long length hex) further

/-- The ending of a renamed field goes on an identifier. -/
theorem exists_candidate_eq (wanted : String) (n : Nat) :
    ∃ ending, (candidate wanted n).toList = wanted.toList ++ ending ∧ Continues ending := by
  cases n with
  | zero => exact ⟨[], (List.append_nil _).symm, .nil⟩
  | succ n =>
    obtain ⟨digits, hlist, hdigits⟩ := exists_candidate_succ_eq wanted n
    have hmock : Continues "Mock".toList := .of_all (by decide)
    have hnumber : Continues digits := .of_all <| List.all_eq_true.2 fun d hd => by
      simp [Text.isIdentifierContinue, Char.isAlphanum, hdigits d hd]
    exact ⟨_, hlist, hmock.trans hnumber⟩

theorem toList_camelCase {name : String} {c : Char} {cs : List Char} (h : name.toList = c :: cs) :
    (camelCase name).toList = Text.lowercase c ++ cs := by
  rw [camelCase, h]
  exact String.toList_ofList

/-- Behind the underscore, the name of a field has the identifier in lower case and the ending. -/
theorem exists_candidate_fieldName_eq {identifier : String} {c : Char} {cs : List Char}
    (h : identifier.toList = c :: cs) (n : Nat) : ∃ ending, Continues ending ∧
      (candidate (fieldName identifier) n).toList = '_' :: (Text.lowercase c ++ cs ++ ending) := by
  obtain ⟨ending, hending, hcontinues⟩ := exists_candidate_eq (fieldName identifier) n
  refine ⟨ending, hcontinues, ?_⟩
  rw [hending, fieldName, toList_underscore_append, toList_camelCase h, List.cons_append]

/-- The field for an identifier is called by an identifier, renamed or not, exactly when the
identifier has no mark. -/
theorem isIdentifier_candidate_iff {identifier : String} (h : IsIdentifier identifier) (n : Nat) :
    IsIdentifier (candidate (fieldName identifier) n) ↔ ¬ IsMarked identifier := by
  rcases isIdentifier_iff.1 h with hplain | ⟨cs, hcs, -⟩
  · have hunmarked : ¬ IsMarked identifier := by
      intro hmarked
      obtain ⟨cs, hcs⟩ := List.head?_eq_some_iff.1 hmarked
      exact CSharp.not_isPlain_mark (hcs ▸ hplain)
    refine iff_of_true (isIdentifier_iff.2 (.inl ?_)) hunmarked
    obtain ⟨c, cs, hcs⟩ := hplain.exists_cons
    obtain ⟨ending, hending, heq⟩ := exists_candidate_fieldName_eq hcs n
    rw [heq]
    exact CSharp.isPlain_underscore_iff.2 ((continues_lowercase (hcs ▸ hplain)).trans hending)
  · have hmarked : IsMarked identifier := by
      rw [IsMarked, hcs]
      rfl
    refine iff_of_false ?_ (not_not_intro hmarked)
    obtain ⟨ending, -, heq⟩ := exists_candidate_fieldName_eq hcs n
    have hmark : Text.lowercase '@' = ['@'] := by decide
    rw [hmark] at heq
    rw [isIdentifier_iff, heq]
    rintro (hfield | ⟨_, hfield, -⟩)
    · exact CSharp.not_continues_mark (CSharp.isPlain_underscore_iff.1 hfield)
    · exact absurd (List.cons.inj hfield).1 (by decide)

/-! ## The fields of a fixture -/

/-- Where related elements are alike, the one list has only such as the other has. -/
theorem forall_mem_iff_of_forall₂ {α β : Type} {R : α → β → Prop} {P : α → Prop} {Q : β → Prop}
    (hR : ∀ a b, R a b → (Q b ↔ P a)) {as : List α} {bs : List β} (h : List.Forall₂ R as bs) :
    (∀ b ∈ bs, Q b) ↔ ∀ a ∈ as, P a := by
  induction h with
  | nil => simp
  | cons hab _ ih => rw [List.forall_mem_cons, List.forall_mem_cons, hR _ _ hab, ih]

variable {classifier : Classifier}

/-- The name is one of those that are tried for the field of an identifier. -/
def CalledAfter (identifier name : String) : Prop :=
  ∃ n, name = candidate (fieldName identifier) n

/-- Each mock is called after its parameter. -/
theorem calledAfter_slots (taken : List String) (ps : List Parameter) :
    List.Forall₂ CalledAfter ((classifier.mocked ps).map (·.name))
      ((slots classifier taken ps).filterMap (·.mock)) := by
  induction ps generalizing taken with
  | nil => exact .nil
  | cons p ps ih =>
    cases h : classifier.isAbstraction p.type with
    | true =>
      obtain ⟨n, -, hn⟩ := firstFree_eq_candidate taken (fieldName p.name) 0 taken.length
      rw [slots_cons_of_pos h, Classifier.mocked_cons_of_pos h]
      exact .cons ⟨n, hn⟩ (ih _)
    | false =>
      rw [slots_cons_of_neg h, Classifier.mocked_cons_of_neg h]
      exact ih taken

namespace Synthesizer

/-- Each field is called after its source, in order. -/
theorem calledAfter_fieldNames (s : Synthesizer) (c : ClassDeclaration) :
    List.Forall₂ CalledAfter (s.fieldSources c)
      ((s.synthesize c).fixture.fields.map (·.name)) := by
  unfold fieldSources
  cases hc : c.isStatic with
  | true =>
    rw [s.fields_of_isStatic hc]
    exact .nil
  | false =>
    rw [s.fieldNames_of_not_isStatic hc]
    exact .cons ⟨0, rfl⟩ (calledAfter_slots _ _)

/-- The sources of fields are the class and parameters of one of its constructors. -/
theorem forall_fieldSources {P : String → Prop} (s : Synthesizer) {c : ClassDeclaration}
    (hclass : P c.simpleName) (hparameters : ∀ k ∈ c.constructors, ∀ p ∈ k.parameters, P p.name) :
    ∀ source ∈ s.fieldSources c, P source := by
  have hcreated : ∀ p ∈ c.createdWith, P p.name := by
    rcases c.createdWith_spec with ⟨-, hnone⟩ | ⟨k, hk, hcreated⟩
    · rw [hnone]
      exact fun p hp => absurd hp List.not_mem_nil
    · rw [hcreated]
      exact hparameters k hk.mem
  unfold fieldSources
  split
  · exact fun source h => absurd h List.not_mem_nil
  · refine List.forall_mem_cons.2 ⟨hclass, List.forall_mem_map.2 fun p hp => ?_⟩
    exact hcreated p (List.mem_filter.1 hp).1

/-- Where the class and the parameters of its constructors are called by identifiers, a field is
called by one exactly when what it is called after has no mark, renamed or not. So all fields are
exactly when neither the class, if it is not static, nor a mocked parameter has a mark. -/
theorem fieldNames_isIdentifier_iff (s : Synthesizer) {c : ClassDeclaration}
    (hclass : IsIdentifier c.simpleName)
    (hparameters : ∀ k ∈ c.constructors, ∀ p ∈ k.parameters, IsIdentifier p.name) :
    let names := (s.synthesize c).fixture.fields.map (·.name)
    List.Forall₂ (fun source name => CalledAfter source name ∧
      (IsIdentifier name ↔ ¬ IsMarked source)) (s.fieldSources c) names ∧
    ((∀ name ∈ names, IsIdentifier name) ↔ ∀ source ∈ s.fieldSources c, ¬ IsMarked source) := by
  intro names
  have hsources := s.forall_fieldSources hclass hparameters
  have hpairs : List.Forall₂ (fun source name => CalledAfter source name ∧
      (IsIdentifier name ↔ ¬ IsMarked source)) (s.fieldSources c) names := by
    refine ((List.forall₂_and_left _ _).2 ⟨hsources, s.calledAfter_fieldNames c⟩).imp ?_
    rintro source _ ⟨hsource, n, rfl⟩
    exact ⟨⟨n, rfl⟩, isIdentifier_candidate_iff hsource n⟩
  exact ⟨hpairs, forall_mem_iff_of_forall₂ (fun _ _ h => h.2) hpairs⟩

/-- A mock that has to be renamed, and a marked parameter that is not mocked. -/
theorem fieldNames_isIdentifier_iff_unmarked :
    let k : Constructor := ⟨[⟨"gate", "IGate", .byValue⟩, ⟨"@lock", "int", .byValue⟩]⟩
    let c : ClassDeclaration := ⟨"Gate", "Gate", "App", false, [], [k], []⟩
    let s : Synthesizer := ⟨.interfaceConvention, "todo"⟩
    let names := (s.synthesize c).fixture.fields.map (·.name)
    names = ["_gate", "_gateMock"] ∧ ∀ name ∈ names, IsIdentifier name := by
  intro k c s names
  have hnames : names = ["_gate", "_gateMock"] := by decide +kernel
  have hclass : IsIdentifier c.simpleName := by decide +kernel
  have hparameters : ∀ k ∈ c.constructors, ∀ p ∈ k.parameters, IsIdentifier p.name := by
    decide +kernel
  have hunmarked : ∀ source ∈ s.fieldSources c, ¬ IsMarked source := by decide +kernel
  exact ⟨hnames, (s.fieldNames_isIdentifier_iff hclass hparameters).2.2 hunmarked⟩

/-- The class and its parameter are called by identifiers, and the field of the mock is not. -/
theorem fieldNames_marked :
    let k : Constructor := ⟨[⟨"@lock", "ILock", .byValue⟩]⟩
    let c : ClassDeclaration := ⟨"Gate", "Gate", "App", false, [], [k], []⟩
    let s : Synthesizer := ⟨.interfaceConvention, "todo"⟩
    IsIdentifier c.simpleName ∧ (∀ k ∈ c.constructors, ∀ p ∈ k.parameters, IsIdentifier p.name) ∧
      (s.synthesize c).fixture.fields.map (·.name) = ["_gate", "_@lock"] ∧
      ¬ IsIdentifier "_@lock" := by
  decide +kernel

end Synthesizer

end Scaffold.Fixture
