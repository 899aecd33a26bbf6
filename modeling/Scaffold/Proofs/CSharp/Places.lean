import Scaffold.Proofs.CSharp.Conformance

/-!
# Places in a tree

A place is a node of a tree with the nodes around it. `Node.found` collects what is picked among the
places of some nodes, in document order; what is picked inside a node depends on the node only
through `Place.inside` (`Node.found_singleton`).
-/

namespace Scaffold.CSharp

/-- A node of a tree with the nodes around it. -/
structure Place where
  /-- The nodes around the node, the outermost first. -/
  around : List Node
  node : Node

/-- The place with one more node around it. -/
def Place.inside (n : Node) (place : Place) : Place :=
  { place with around := n :: place.around }

namespace Node

mutual

/-- The places in a node, in document order: the node itself before its parts. -/
def places : Node → List Place
  | ⟨kind, role, start, text, isFlawed, parts⟩ =>
    ⟨[], ⟨kind, role, start, text, isFlawed, parts⟩⟩ ::
      (placesAmong parts).map (Place.inside ⟨kind, role, start, text, isFlawed, parts⟩)

/-- The places in nodes. -/
def placesAmong : List Node → List Place
  | [] => []
  | n :: ns => n.places ++ placesAmong ns

end

theorem places_eq (n : Node) :
    n.places = ⟨[], n⟩ :: (placesAmong n.parts).map (Place.inside n) := by
  obtain ⟨kind, role, start, text, isFlawed, parts⟩ := n
  rw [places]

theorem placesAmong_append (xs ys : List Node) :
    placesAmong (xs ++ ys) = placesAmong xs ++ placesAmong ys := by
  induction xs with
  | nil => rfl
  | cons x xs ih => rw [List.cons_append, placesAmong, placesAmong, ih, List.append_assoc]

theorem placesAmong_singleton (n : Node) : placesAmong [n] = n.places :=
  List.append_nil _

/-- In a tree that conforms, the tree at every place conforms. -/
theorem Conforms.of_mem_places {n : Node} (h : n.Conforms) :
    ∀ place ∈ n.places, place.node.Conforms := by
  induction h with
  | @intro n isMade parts ih =>
    -- The parts are gone through one by one, so what is shown is about some of them.
    have hparts : ∀ ns : List Node, (∀ m ∈ ns, m ∈ n.parts) →
        ∀ place ∈ placesAmong ns, place.node.Conforms := by
      intro ns
      induction ns with
      | nil => exact fun _ place hplace => absurd hplace List.not_mem_nil
      | cons m ns ihns =>
        intro hns
        rw [placesAmong]
        exact List.forall_mem_append.2 ⟨ih m (hns m List.mem_cons_self),
          ihns fun m' hm' => hns m' (List.mem_cons_of_mem m hm')⟩
    rw [places_eq]
    refine List.forall_mem_cons.2 ⟨.intro isMade parts, List.forall_mem_map.2 ?_⟩
    exact hparts n.parts fun _ hm => hm

/-! ## What is found in a tree -/

section Found

variable {α β : Type} (pick : Place → Option α)

/-- What is picked among the places in nodes. -/
def found (ns : List Node) : List α :=
  (placesAmong ns).filterMap pick

theorem found_nil : found pick [] = [] := rfl

theorem found_append (xs ys : List Node) :
    found pick (xs ++ ys) = found pick xs ++ found pick ys := by
  rw [found, placesAmong_append, List.filterMap_append]
  rfl

/-- In a node there is what is picked at the node and what is picked in it. -/
theorem found_singleton (n : Node) :
    found pick [n] =
      (pick ⟨[], n⟩).toList ++ found (fun place => pick (place.inside n)) n.parts := by
  have hparts : ((placesAmong n.parts).map (Place.inside n)).filterMap pick =
      found (fun place => pick (place.inside n)) n.parts := List.filterMap_map ..
  rw [found, placesAmong_singleton, places_eq, ← hparts]
  cases hpick : pick ⟨[], n⟩ with
  | none => rw [List.filterMap_cons_none hpick]; rfl
  | some a => rw [List.filterMap_cons_some hpick]; rfl

theorem found_eq_nil (hpick : ∀ place, pick place = none) (ns : List Node) : found pick ns = [] :=
  List.filterMap_eq_nil_iff.2 fun place _ => hpick place

theorem found_map (f : α → β) (ns : List Node) :
    found (fun place => (pick place).map f) ns = (found pick ns).map f := by
  rw [found, found, List.map_filterMap]

end Found

end Node

end Scaffold.CSharp
