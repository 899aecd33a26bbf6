import Mathlib.Data.List.Induction
import Scaffold.Declaration

/-!
# The constructor that is called

An object of a class is created by the first declared constructor among those with the fewest
parameters (`firstSmallest_of_smallestConstructor?`), or without arguments when the class declares
none.
-/

namespace Scaffold

/-- The constructor is the first one in the list among those with the fewest parameters: the ones
before it have more parameters, and the ones after it have no fewer. -/
def FirstSmallest (constructors : List Constructor) (k : Constructor) : Prop :=
  ∃ before after, constructors = before ++ k :: after ∧
    (∀ b ∈ before, k.arity < b.arity) ∧ ∀ a ∈ after, k.arity ≤ a.arity

theorem FirstSmallest.mem {constructors : List Constructor} {k : Constructor}
    (h : FirstSmallest constructors k) : k ∈ constructors := by
  obtain ⟨before, after, rfl, -, -⟩ := h
  exact List.mem_append_right before List.mem_cons_self

namespace ClassDeclaration

/-- Taking the smaller of two constructors along a list finds the first smallest one. -/
theorem firstSmallest_foldl (first : Constructor) (rest : List Constructor) :
    FirstSmallest (first :: rest) (rest.foldl smaller first) := by
  induction rest using List.reverseRecOn with
  | nil => exact ⟨[], [], rfl, by simp, by simp⟩
  | append_singleton rest last ih =>
    obtain ⟨before, after, hsplit, hbefore, hafter⟩ := ih
    rw [List.foldl_append, List.foldl_cons, List.foldl_nil, ← List.cons_append, hsplit]
    generalize rest.foldl smaller first = k at hbefore hafter
    unfold smaller
    split
    · -- The last one has fewer parameters than `k`, so fewer than all before it.
      rename_i hlast
      refine ⟨before ++ k :: after, [], rfl, ?_, by simp⟩
      rw [List.forall_mem_append, List.forall_mem_cons]
      exact ⟨fun b hb => Nat.lt_trans hlast (hbefore b hb), hlast,
        fun a ha => Nat.lt_of_lt_of_le hlast (hafter a ha)⟩
    · rename_i hlast
      refine ⟨before, after ++ [last], by simp, hbefore, ?_⟩
      rw [List.forall_mem_append]
      exact ⟨hafter, by simpa using Nat.le_of_not_lt hlast⟩

theorem firstSmallest_of_smallestConstructor? {c : ClassDeclaration} {k : Constructor}
    (h : c.smallestConstructor? = some k) : FirstSmallest c.constructors k := by
  unfold smallestConstructor? at h
  split at h
  · cases h
  · rename_i first rest hconstructors
    obtain rfl := Option.some.inj h
    rw [hconstructors]
    exact firstSmallest_foldl first rest

/-- The parameters of the constructor that is called; none when no constructor is declared. -/
def createdWith (c : ClassDeclaration) : List Parameter :=
  (c.smallestConstructor?.map (·.parameters)).getD []

theorem createdWith_spec (c : ClassDeclaration) :
    (c.constructors = [] ∧ c.createdWith = []) ∨
      ∃ k, FirstSmallest c.constructors k ∧ c.createdWith = k.parameters := by
  unfold createdWith
  cases hk : c.smallestConstructor? with
  | none =>
    refine .inl ⟨?_, rfl⟩
    unfold smallestConstructor? at hk
    split at hk
    · assumption
    · cases hk
  | some k => exact .inr ⟨k, firstSmallest_of_smallestConstructor? hk, rfl⟩

end ClassDeclaration

end Scaffold
