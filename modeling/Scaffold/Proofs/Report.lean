import Mathlib.Data.List.Forall2
import Mathlib.Data.List.Sort
import Scaffold.Pipeline.Report
import Scaffold.Proofs.Path

/-!
# What a report keeps of the events

A report sorts what was written and what failed, and sorting loses nothing. So what it says about an
operation is what the events say about it, up to their order. And it says nothing else: the same
events in another order make the same report (`Report.Same.ofEvents`). The orders by which it sorts
do not tell apart two spellings of one place, so events and reports are compared by place as well.
-/

namespace Scaffold

/-- The file of a failure of an operation. -/
def Failure.pathOf? (o : Operation) (f : Failure) : Option Path :=
  if f.operation = o then some f.path else none

namespace Event

/-- The source that was generated from. -/
def source? : Event → Option Path
  | generated source _ => some source
  | _ => none

/-- The file on which an operation failed. -/
def failedPath? (o : Operation) (e : Event) : Option Path :=
  e.failure?.bind (Failure.pathOf? o)

end Event

namespace Report

/-- The number of failures of an operation. -/
def failuresOf (r : Report) (o : Operation) : Nat :=
  r.failures.countP fun f => f.operation = o

/-- The files on which an operation failed. -/
def failedPaths (r : Report) (o : Operation) : List Path :=
  r.failures.filterMap (Failure.pathOf? o)

theorem length_failedPaths (r : Report) (o : Operation) :
    (r.failedPaths o).length = r.failuresOf o := by
  rw [failedPaths, List.length_filterMap_eq_countP, failuresOf]
  refine List.countP_congr fun f _ => ?_
  unfold Failure.pathOf?
  split <;> simp [*]

variable (submitted : Nat) (events : List Event)

/-- The written files of a report are those that were told of. -/
theorem written_ofEvents :
    (ofEvents submitted events).written.Perm (events.filterMap Event.written?) :=
  List.mergeSort_perm _ _

/-- The failures of a report are those that were told of. -/
theorem failures_ofEvents :
    (ofEvents submitted events).failures.Perm (events.filterMap Event.failure?) :=
  List.mergeSort_perm _ _

/-- The files on which an operation failed are those that were told of. -/
theorem failedPaths_ofEvents (o : Operation) :
    ((ofEvents submitted events).failedPaths o).Perm (events.filterMap (Event.failedPath? o)) := by
  have hperm := (failures_ofEvents submitted events).filterMap (Failure.pathOf? o)
  rw [List.filterMap_filterMap] at hperm
  exact hperm

/-- A report has as many sources as were told of. -/
theorem generated_ofEvents :
    (ofEvents submitted events).generated = (events.filterMap Event.source?).length := by
  rw [List.length_filterMap_eq_countP]
  refine List.length_filterMap_eq_countP.trans (List.countP_congr fun e _ => ?_)
  cases e <;> simp [Event.classes?, Event.source?]

end Report

/-! ## The order of events -/

section Sorting

variable {α κ : Type} {order : α → α → Ordering} [Std.TransCmp order]

/-- Sorting by an order puts a list in that order. -/
theorem pairwise_mergeSort_order (l : List α) :
    (l.mergeSort fun a b => (order a b).isLE).Pairwise fun a b => (order a b).isLE := by
  have htrans (a b c : α) (hab : (order a b).isLE = true) (hbc : (order b c).isLE = true) :
      (order a c).isLE = true :=
    Std.TransCmp.isLE_trans hab hbc
  have htotal (a b : α) : ((order a b).isLE || (order b a).isLE) = true := by
    have hswap : order b a = (order a b).swap := Std.OrientedCmp.eq_swap
    rw [hswap]
    cases order a b <;> rfl
  exact List.pairwise_mergeSort htrans htotal l

/-- Lists that are sorted by an order have the same keys, in the same order, when they have the same
keys before and the order tells apart exactly what has different keys. -/
theorem map_mergeSort_eq (key : α → κ) (hkey : ∀ a b, order a b = .eq ↔ key a = key b)
    {l l' : List α} (h : (l.map key).Perm (l'.map key)) :
    (l.mergeSort fun a b => (order a b).isLE).map key =
      (l'.mergeSort fun a b => (order a b).isLE).map key := by
  -- One key is below another when something with the one is below something with the other.
  let below (x y : κ) : Prop := ∃ a b, key a = x ∧ key b = y ∧ (order a b).isLE
  have hantisymm (x y : κ) (hxy : below x y) (hyx : below y x) : x = y := by
    obtain ⟨a, b, rfl, rfl, hab⟩ := hxy
    obtain ⟨b', a', hb, ha, hba⟩ := hyx
    -- The witnesses of the two comparisons may differ, but the order does not tell them apart.
    have hba' : (order b a').isLE := by
      rw [Std.TransCmp.congr_left ((hkey b b').2 hb.symm)]
      exact hba
    rw [Std.TransCmp.congr_right ((hkey a' a).2 ha)] at hba'
    exact (hkey a b).1 (Std.OrientedCmp.isLE_antisymm hab hba')
  have hsorted (l : List α) :
      ((l.mergeSort fun a b => (order a b).isLE).map key).Pairwise below := by
    rw [List.pairwise_map]
    exact (pairwise_mergeSort_order l).imp fun hab => ⟨_, _, rfl, rfl, hab⟩
  have hsort (l : List α) : ((l.mergeSort fun a b => (order a b).isLE).map key).Perm (l.map key) :=
    (List.mergeSort_perm l _).map key
  -- Two sorted lists with the same entries are equal where the order is antisymmetric.
  have hperm := (hsort l).trans (h.trans (hsort l').symm)
  exact hperm.eq_of_pairwise (fun x y _ _ => hantisymm x y) (hsorted l) (hsorted l')

end Sorting

/-- The places of a written file. -/
def Written.places (w : Written) : List Path.Component × List Path.Component :=
  (w.source.components, w.output.components)

/-- A failure, with its path by place. -/
def Failure.place (f : Failure) : List Path.Component × Operation × String :=
  (f.path.components, f.operation, f.error)

instance : Std.LawfulEqOrd Operation where
  compare_self {a} := by cases a <;> rfl
  eq_of_compare {a b} h := by
    have hrank : a.rank = b.rank := Std.LawfulEqOrd.eq_of_compare h
    cases a <;> cases b <;> simp_all [Operation.rank]

instance : Std.TransCmp Written.order :=
  inferInstanceAs (Std.TransCmp (compareLex
    (compareOn fun w : Written => w.source.components)
    (compareOn fun w : Written => w.output.components)))

instance : Std.TransCmp Failure.order :=
  inferInstanceAs (Std.TransCmp (compareLex
    (compareLex (compareOn fun f : Failure => f.path.components)
      (compareOn fun f : Failure => f.operation.rank))
    (compareOn fun f : Failure => f.error)))

theorem Written.order_eq_eq (a b : Written) : a.order b = .eq ↔ a.places = b.places := by
  simp [order, places, Ordering.then_eq_eq, Path.order_eq_eq, Path.Same]

theorem Failure.order_eq_eq (a b : Failure) : a.order b = .eq ↔ a.place = b.place := by
  simp [order, place, Ordering.then_eq_eq, Path.order_eq_eq, Path.Same, and_assoc]

namespace Event

/-- Two events say the same: the same numbers and words, and the same paths by place. -/
def Same : Event → Event → Prop
  | generated source n, generated source' n' => source.Same source' ∧ n = n'
  | written source output, written source' output' => source.Same source' ∧ output.Same output'
  | failed f, failed f' => f.place = f'.place
  | _, _ => False

theorem Same.refl (e : Event) : e.Same e := by
  cases e with
  | generated source n => exact ⟨rfl, rfl⟩
  | written source output => exact ⟨rfl, rfl⟩
  | failed f => exact rfl

/-- The events are the same ones in another order, where each may be spelled anew. -/
def Reordered (events events' : List Event) : Prop :=
  ∃ middle, events.Perm middle ∧ List.Forall₂ Same middle events'

variable {events events' : List Event}

/-- The same events in another order. -/
theorem reordered_of_perm (h : events.Perm events') : Reordered events events' :=
  ⟨events', h, List.forall₂_same.2 fun e _ => Same.refl e⟩

/-- What depends on what an event says is the same for reordered events, up to its order. -/
theorem Reordered.filterMap {γ : Type} (h : Reordered events events') {f : Event → Option γ}
    (hf : ∀ e e', Same e e' → f e = f e') : (events.filterMap f).Perm (events'.filterMap f) := by
  obtain ⟨middle, hperm, hsame⟩ := h
  have heq : middle.filterMap f = events'.filterMap f := by
    clear hperm
    induction hsame with
    | nil => rfl
    | cons he _ ih => rw [List.filterMap_cons, List.filterMap_cons, hf _ _ he, ih]
  exact heq ▸ hperm.filterMap f

theorem classes?_congr (e e' : Event) (h : e.Same e') : e.classes? = e'.classes? := by
  cases e <;> cases e' <;> simp_all [Same, classes?]

theorem written?_congr (e e' : Event) (h : e.Same e') :
    e.written?.map Written.places = e'.written?.map Written.places := by
  cases e <;> cases e' <;> simp_all [Same, Path.Same, written?, Written.places]

theorem failure?_congr (e e' : Event) (h : e.Same e') :
    e.failure?.map Failure.place = e'.failure?.map Failure.place := by
  cases e <;> cases e' <;> simp_all [Same, failure?]

end Event

namespace Report

/-- Two reports say the same: the same numbers, and the same written files and failures by place, in
the same order. -/
structure Same (r r' : Report) : Prop where
  submitted : r.submitted = r'.submitted
  generated : r.generated = r'.generated
  classes : r.classes = r'.classes
  written : r.written.map Written.places = r'.written.map Written.places
  failures : r.failures.map Failure.place = r'.failures.map Failure.place

/-- A report does not depend on the order of the events or on the spelling of their paths. -/
theorem Same.ofEvents (submitted : Nat) {events events' : List Event}
    (h : Event.Reordered events events') :
    (Report.ofEvents submitted events).Same (Report.ofEvents submitted events') where
  submitted := rfl
  generated := (h.filterMap Event.classes?_congr).length_eq
  classes := total_perm (h.filterMap Event.classes?_congr)
  written := by
    refine map_mergeSort_eq Written.places Written.order_eq_eq ?_
    rw [List.map_filterMap, List.map_filterMap]
    exact h.filterMap Event.written?_congr
  failures := by
    refine map_mergeSort_eq Failure.place Failure.order_eq_eq ?_
    rw [List.map_filterMap, List.map_filterMap]
    exact h.filterMap Event.failure?_congr

/-- A report says what some events tell, with its lists in order, and nothing else. -/
structure Tells (r : Report) (submitted : Nat) (events : List Event) : Prop where
  submitted : r.submitted = submitted
  generated : r.generated = (events.filterMap Event.source?).length
  classes : r.classes = total id (events.filterMap Event.classes?)
  written : r.written.Perm (events.filterMap Event.written?)
  failures : r.failures.Perm (events.filterMap Event.failure?)
  writtenOrdered : r.written.Pairwise fun a b => (a.order b).isLE
  failuresOrdered : r.failures.Pairwise fun a b => (a.order b).isLE

theorem tells_ofEvents (submitted : Nat) (events : List Event) :
    (ofEvents submitted events).Tells submitted events where
  submitted := rfl
  generated := generated_ofEvents submitted events
  classes := rfl
  written := written_ofEvents submitted events
  failures := failures_ofEvents submitted events
  writtenOrdered := pairwise_mergeSort_order _
  failuresOrdered := pairwise_mergeSort_order _

end Report

end Scaffold
