import Mathlib.Data.List.Nodup
import Mathlib.Data.Nat.Find
import Scaffold.Proofs.Fixture.Members

/-!
# Free names for fields

A field takes the first candidate for its name that no other field has. The candidates are all
different (`candidate_injective`), so when `n` names are taken, one of the first `n + 1` candidates
is free. The search ends with the first free one (`isFirstFree_freeName`), and a search that is
allowed more candidates ends with the same (`find?_candidates`).

The fields of a fixture are named one after the other in this way (`Synthesizer.fieldNames_eq`). One
more field keeps the names apart (`nodup_withField`), so in the end no two fields have one name
(`Synthesizer.fieldNames_unique`).
-/

namespace Scaffold.Fixture

/-! ## Candidates -/

/-- No candidate comes twice. -/
theorem candidate_injective (wanted : String) : Function.Injective (candidate wanted) := by
  intro n n' h
  have hlist := congrArg String.toList h
  have hwanted : (candidate wanted 0).toList = wanted.toList ++ [] := (List.append_nil _).symm
  cases n with
  | zero =>
    cases n' with
    | zero => rfl
    | succ n' =>
      rw [hwanted, toList_candidate_succ] at hlist
      cases List.append_cancel_left hlist
  | succ n =>
    cases n' with
    | zero =>
      rw [hwanted, toList_candidate_succ] at hlist
      cases List.append_cancel_left hlist
    | succ n' =>
      rw [toList_candidate_succ, toList_candidate_succ] at hlist
      have hnumber :=
        overloadDigits_inj (List.append_cancel_left (List.append_cancel_left hlist))
      split at hnumber <;> split at hnumber <;> omega

/-- A sequence without repetitions has a text that is not in a given list, at the latest where the
list is used up. -/
theorem exists_notMem_of_injective {f : Nat → String} (hf : Function.Injective f)
    (taken : List String) : ∃ n ≤ taken.length, f n ∉ taken := by
  by_contra hall
  push Not at hall
  have hnodup : ((List.range (taken.length + 1)).map f).Nodup := List.nodup_range.map hf
  have hsubset : (List.range (taken.length + 1)).map f ⊆ taken := by
    intro x hx
    obtain ⟨n, hn, rfl⟩ := List.mem_map.1 hx
    exact hall n (Nat.lt_succ_iff.1 (List.mem_range.1 hn))
  have hlength := hnodup.length_le_of_subset hsubset
  rw [List.length_map, List.length_range] at hlength
  omega

/-! ## The search -/

/-- The candidate with the number `n` is the first one that is not taken. -/
structure IsFirstFree (taken : List String) (wanted : String) (n : Nat) : Prop where
  free : candidate wanted n ∉ taken
  before : ∀ i < n, candidate wanted i ∈ taken

/-- A search that does not begin behind the first free candidate ends with it, if it may try so
many. -/
theorem firstFree_eq {taken : List String} {wanted : String} {n : Nat}
    (h : IsFirstFree taken wanted n) {start tries : Nat} (hstart : start ≤ n)
    (htries : n ≤ start + tries) : firstFree taken wanted start tries = candidate wanted n := by
  induction tries generalizing start with
  | zero =>
    obtain rfl : start = n := by omega
    rfl
  | succ tries ih =>
    rw [firstFree]
    split
    · rename_i htaken
      -- A taken candidate is not the one that is free.
      have hne : start ≠ n := by
        rintro rfl
        exact h.free htaken
      exact ih (by omega) (by omega)
    · rename_i hfree
      have hge : n ≤ start := by
        by_contra hlt
        exact hfree (h.before start (by omega))
      rw [Nat.le_antisymm hstart hge]

/-- The name for a field is the first free candidate, and no more candidates stand before it than
names are taken. -/
theorem isFirstFree_freeName (taken : List String) (wanted : String) :
    ∃ n ≤ taken.length, IsFirstFree taken wanted n ∧
      freeName taken wanted = candidate wanted n := by
  obtain ⟨m, hm, hfree⟩ := exists_notMem_of_injective (candidate_injective wanted) taken
  have hexists : ∃ n, candidate wanted n ∉ taken := ⟨m, hfree⟩
  have hfirst : IsFirstFree taken wanted (Nat.find hexists) :=
    ⟨Nat.find_spec hexists, fun i hi => not_not.1 (Nat.find_min hexists hi)⟩
  have hle : Nat.find hexists ≤ taken.length := (Nat.find_min' hexists hfree).trans hm
  exact ⟨_, hle, hfirst, firstFree_eq hfirst (Nat.zero_le _) (by omega)⟩

theorem freeName_notMem (taken : List String) (wanted : String) :
    freeName taken wanted ∉ taken := by
  obtain ⟨n, -, hfirst, heq⟩ := isFirstFree_freeName taken wanted
  exact heq ▸ hfirst.free

/-- A search through the first `k` candidates finds the name for the field, if `k` is more than the
number of names taken. -/
theorem find?_candidates (taken : List String) (wanted : String) {k : Nat}
    (hk : taken.length < k) :
    ((List.range k).map (candidate wanted)).find? (· ∉ taken) = some (freeName taken wanted) := by
  obtain ⟨n, hn, hfirst, heq⟩ := isFirstFree_freeName taken wanted
  have hfind : (List.range k).find? ((· ∉ taken) ∘ candidate wanted) = some n := by
    refine List.find?_range_eq_some.2 ⟨?_, List.mem_range.2 (by omega), fun i hi => ?_⟩
    · simpa using hfirst.free
    · simpa using hfirst.before i hi
  rw [List.find?_map, heq]
  exact congrArg (Option.map (candidate wanted)) hfind

/-! ## The fields of a fixture -/

/-- The names with that of one more field, which is called after an identifier. -/
def withField (names : List String) (identifier : String) : List String :=
  names ++ [freeName names (fieldName identifier)]

/-- One more field keeps names apart. -/
theorem nodup_withField {names : List String} (h : names.Nodup) (identifier : String) :
    (withField names identifier).Nodup := by
  refine List.nodup_append.2 ⟨h, List.pairwise_singleton _ _, fun x hx y hy => ?_⟩
  obtain rfl := List.mem_singleton.1 hy
  rintro rfl
  exact freeName_notMem names _ hx

/-- Any number of further fields keeps names apart. -/
theorem nodup_foldl_withField {names : List String} (h : names.Nodup) (identifiers : List String) :
    (identifiers.foldl withField names).Nodup := by
  induction identifiers generalizing names with
  | nil => exact h
  | cons identifier identifiers ih => exact ih (nodup_withField h identifier)

/-- The mocks are fields that are added one after the other. -/
theorem append_mocks_slots (classifier : Classifier) (taken : List String) (ps : List Parameter) :
    taken ++ (slots classifier taken ps).filterMap (·.mock) =
      ((classifier.mocked ps).map (·.name)).foldl withField taken := by
  induction ps generalizing taken with
  | nil => exact List.append_nil taken
  | cons p ps ih =>
    cases h : classifier.isAbstraction p.type with
    | true =>
      rw [slots_cons_of_pos h, Classifier.mocked_cons_of_pos h, List.map_cons, List.foldl_cons,
        withField, ← ih, List.filterMap_cons, List.append_assoc]
      rfl
    | false =>
      rw [slots_cons_of_neg h, Classifier.mocked_cons_of_neg h]
      exact ih taken

namespace Synthesizer

/-- The fields of a fixture are named one after the other. -/
theorem fieldNames_eq (s : Synthesizer) (c : ClassDeclaration) :
    (s.synthesize c).fixture.fields.map (·.name) = (s.fieldSources c).foldl withField [] := by
  unfold fieldSources
  cases hc : c.isStatic with
  | true =>
    rw [s.fields_of_isStatic hc]
    rfl
  | false =>
    rw [s.fieldNames_of_not_isStatic hc, if_neg Bool.false_ne_true, List.foldl_cons]
    exact append_mocks_slots s.classifier [fieldName c.simpleName] c.createdWith

/-- No two fields of a fixture have one name, whatever the class is and whichever parameters are
mocked: the fields are named one after the other, and each takes the first candidate that is free.
When `n` names are taken, this is one of the first `n + 1` candidates, so a search that tests these
ends with it, and so does one that may test more. No search is without a result. -/
theorem fieldNames_unique :
    (∀ (s : Synthesizer) (c : ClassDeclaration),
      let names := (s.synthesize c).fixture.fields.map (·.name)
      names = (s.fieldSources c).foldl withField [] ∧ names.Nodup) ∧
      ∀ (taken : List String) (wanted : String),
        (∃ n ≤ taken.length, IsFirstFree taken wanted n ∧
          freeName taken wanted = candidate wanted n) ∧
        ∀ more, ((List.range (taken.length + 1 + more)).map (candidate wanted)).find? (· ∉ taken) =
          some (freeName taken wanted) := by
  refine ⟨fun s c => ?_, fun taken wanted => ⟨isFirstFree_freeName taken wanted, fun more => ?_⟩⟩
  · intro names
    have hnames : names = (s.fieldSources c).foldl withField [] := s.fieldNames_eq c
    exact ⟨hnames, hnames ▸ nodup_foldl_withField List.nodup_nil _⟩
  · exact find?_candidates taken wanted (by omega)

end Synthesizer

/-- Three candidates are tested where two names are taken that both are candidates. -/
example : ["reader", "readerMock", "Reader"].foldl withField [] =
    ["_reader", "_readerMock", "_readerMock2"] := by
  decide +kernel

end Scaffold.Fixture
