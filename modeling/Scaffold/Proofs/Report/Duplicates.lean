import Mathlib.Data.Finset.Card
import Mathlib.Data.List.Induction
import Scaffold.Proofs.Report
import Scaffold.Proofs.Store.PathMap

/-!
# Outputs that were written more than once

A report counts how often each output was written, in a map whose keys are places. The map is made
by adding one at a time, and `PathMap.Counts` says what it holds after any number of outputs. So the
outputs that a report lists as duplicates are exactly those that were written more than once, each
under one spelling and with its number (`Report.repeats_duplicateOutputs`), and the written files
are as many as the distinct outputs and the repetitions together
(`Report.card_outputs_add_repeats`).

With the lists of written files and failures this is all that a report says, and all of it is the
same for reordered events (`Report.ofEvents_reordered`).
-/

namespace Scaffold

/-! ## Counting paths by place -/

namespace Path

/-- How often a place occurs among some paths. -/
def timesIn (q : Path) (paths : List Path) : Nat :=
  paths.countP (·.Same q)

variable {p q : Path} {paths : List Path}

theorem timesIn_concat :
    q.timesIn (paths ++ [p]) = q.timesIn paths + if p.Same q then 1 else 0 := by
  simp [timesIn, List.countP_append, List.countP_singleton]

theorem timesIn_pos : 0 < q.timesIn paths ↔ ∃ p ∈ paths, p.Same q := by
  simp [timesIn, List.countP_pos_iff]

theorem timesIn_eq_count : q.timesIn paths = (paths.map components).count q.components := by
  rw [timesIn, List.count, List.countP_map]
  refine List.countP_congr fun p _ => ?_
  rw [decide_eq_true_iff, Function.comp_apply, beq_iff_eq]
  exact Iff.rfl

end Path

namespace PathMap

/-- The map with one more at a place. -/
def tally (m : PathMap Nat) (p : Path) : PathMap Nat :=
  m.alter p fun n => n.getD 0 + 1

/-- Adding one at a place adds one to the total. -/
theorem total_tally (m : PathMap Nat) (p : Path) :
    total (·.2) (m.tally p).entries = total (·.2) m.entries + 1 := by
  obtain ⟨entries⟩ := m
  rw [tally]
  induction entries with
  | nil => rfl
  | cons x rest ih =>
    obtain ⟨r, n⟩ := x
    cases horder : p.order r with
    | lt =>
      rw [alter_cons_of_lt horder, total_cons, Nat.add_comm]
      rfl
    | eq =>
      rw [alter_cons_of_eq horder, total_cons, total_cons]
      simp only [Option.getD_some]
      omega
    | gt =>
      rw [alter_cons_of_gt horder, total_cons, total_cons, ih]
      simp only
      omega

/-- The map has each place that occurs among some paths, with the number of times that it does. -/
structure Counts (m : PathMap Nat) (paths : List Path) : Prop where
  ordered : m.Ordered
  get? : ∀ q, m.get? q = if q.timesIn paths = 0 then none else some (q.timesIn paths)
  total : total (·.2) m.entries = paths.length

theorem Counts.empty : (empty : PathMap Nat).Counts [] :=
  ⟨ordered_empty, fun _ => rfl, rfl⟩

theorem Counts.tally {m : PathMap Nat} {paths : List Path} (h : m.Counts paths) (p : Path) :
    (m.tally p).Counts (paths ++ [p]) where
  ordered := h.ordered.alter p _
  get? q := by
    rw [Path.timesIn_concat]
    by_cases hp : p.Same q
    · rw [PathMap.tally, h.ordered.get?_alter_of_same hp, h.get? q]
      split <;> simp_all
    · rw [PathMap.tally, get?_alter_of_not_same m hp, h.get? q]
      simp [hp]
  total := by
    rw [total_tally, h.total, List.length_append, List.length_singleton]

/-- Tallying paths one after another counts them. -/
theorem counts_foldl_tally (paths : List Path) :
    (paths.foldl PathMap.tally .empty).Counts paths := by
  induction paths using List.reverseRecOn with
  | nil => exact .empty
  | append_singleton paths p ih =>
    rw [List.foldl_append]
    exact ih.tally p

namespace Counts

variable {m : PathMap Nat} {paths : List Path} (h : m.Counts paths)
include h

/-- The entries are the places that occur, with their numbers. -/
theorem mem_iff (q : Path) (n : Nat) :
    (∃ p, p.Same q ∧ (p, n) ∈ m.entries) ↔ 0 < n ∧ q.timesIn paths = n := by
  rw [← h.ordered.get?_eq_some_iff, h.get? q]
  split
  · simp only [reduceCtorEq, false_iff]
    omega
  · simp only [Option.some.injEq]
    omega

/-- There is an entry for each place that occurs. -/
theorem card_places : (paths.map Path.components).toFinset.card = m.entries.length := by
  have hkeys : (paths.map Path.components).toFinset =
      (m.entries.map (·.1.components)).toFinset := by
    ext k
    rw [List.mem_toFinset, List.mem_toFinset, List.mem_map, List.mem_map]
    constructor
    · rintro ⟨q, hq, rfl⟩
      have hpos : 0 < q.timesIn paths := Path.timesIn_pos.2 ⟨q, hq, rfl⟩
      obtain ⟨p, hp, he⟩ := (h.mem_iff q _).2 ⟨hpos, rfl⟩
      exact ⟨_, he, hp⟩
    · rintro ⟨⟨p, n⟩, he, rfl⟩
      obtain ⟨hpos, htimes⟩ := (h.mem_iff p n).1 ⟨p, rfl, he⟩
      exact Path.timesIn_pos.1 (htimes ▸ hpos)
  rw [hkeys, List.toFinset_card_of_nodup h.ordered.nodup_keys, List.length_map]

/-- The paths are as many as their places and the repetitions of places together. -/
theorem length_add_repeats :
    m.entries.length + Scaffold.total (·.2 - 1) (m.entries.filter (1 < ·.2)) = paths.length := by
  have hpos : ∀ e ∈ m.entries, 0 < e.2 := fun e he => ((h.mem_iff e.1 e.2).1 ⟨e.1, rfl, he⟩).1
  rw [← h.total]
  -- A place that occurs once has an entry and no repetition.
  generalize m.entries = entries at hpos
  induction entries with
  | nil => rfl
  | cons e rest ih =>
    obtain ⟨he, hrest⟩ := List.forall_mem_cons.1 hpos
    have ih := ih hrest
    rw [List.filter_cons]
    split
    · simp only [List.length_cons, total_cons]
      omega
    · rename_i hone
      have hone : ¬ 1 < e.2 := by simpa using hone
      simp only [List.length_cons, total_cons]
      omega

end Counts

end PathMap

/-- The list has the places that occur more than once among some paths, each once, in order, with
the number of times that it occurs. -/
structure Repeats (paths : List Path) (listed : List (Path × Nat)) : Prop where
  mem_iff : ∀ q n, (∃ p, p.Same q ∧ (p, n) ∈ listed) ↔ 1 < n ∧ q.timesIn paths = n
  ordered : listed.Pairwise fun a b => a.1.order b.1 = .lt

/-- Which places are repeated does not depend on the order of the paths. -/
theorem Repeats.of_perm {paths paths' : List Path} {listed : List (Path × Nat)}
    (h : Repeats paths listed) (hperm : paths.Perm paths') : Repeats paths' listed where
  mem_iff q n := by
    have htimes : q.timesIn paths' = q.timesIn paths := (hperm.countP_eq _).symm
    rw [htimes]
    exact h.mem_iff q n
  ordered := h.ordered

/-- Lists of repeated places are the same when the places occur equally often. -/
theorem Repeats.same {paths paths' : List Path} {listed listed' : List (Path × Nat)}
    (h : Repeats paths listed) (h' : Repeats paths' listed')
    (htimes : ∀ q : Path, q.timesIn paths = q.timesIn paths') :
    (PathMap.mk listed).Same ⟨listed'⟩ := by
  have hordered : (PathMap.mk listed).Ordered := h.ordered
  have hordered' : (PathMap.mk listed').Ordered := h'.ordered
  refine hordered.same hordered' fun q => Option.ext fun n => ?_
  have hmem := h.mem_iff q n
  have hmem' := h'.mem_iff q n
  rw [htimes q] at hmem
  rw [hordered.get?_eq_some_iff, hordered'.get?_eq_some_iff]
  exact hmem.trans hmem'.symm

/-! ## Duplicates in reports -/

namespace Report

/-- The outputs that were written, one for each time that one was. -/
def outputs (r : Report) : List Path :=
  r.written.map (·.output)

/-- The outputs of a report are those that were told of. -/
theorem outputs_ofEvents (submitted : Nat) (events : List Event) :
    (ofEvents submitted events).outputs.Perm ((events.filterMap Event.written?).map (·.output)) :=
  (written_ofEvents submitted events).map _

/-- A report counts its outputs. -/
theorem counts_writeCounts (r : Report) : r.writeCounts.Counts r.outputs := by
  have hfold : r.writeCounts = r.outputs.foldl PathMap.tally .empty := by
    rw [outputs, List.foldl_map]
    rfl
  rw [hfold]
  exact PathMap.counts_foldl_tally r.outputs

/-- The duplicates of a report are the outputs that were written more than once. -/
theorem repeats_duplicateOutputs (r : Report) : Repeats r.outputs r.duplicateOutputs where
  mem_iff q n := by
    have hcounts := r.counts_writeCounts.mem_iff q n
    constructor
    · rintro ⟨p, hp, hmem⟩
      obtain ⟨he, hn⟩ := List.mem_filter.1 hmem
      exact ⟨of_decide_eq_true hn, (hcounts.1 ⟨p, hp, he⟩).2⟩
    · rintro ⟨hn, htimes⟩
      obtain ⟨p, hp, he⟩ := hcounts.2 ⟨by omega, htimes⟩
      exact ⟨p, hp, List.mem_filter.2 ⟨he, decide_eq_true hn⟩⟩
  ordered := r.counts_writeCounts.ordered.filter _

/-- The written files are as many as the distinct outputs and the repetitions together. -/
theorem card_outputs_add_repeats (r : Report) :
    (r.outputs.map Path.components).toFinset.card + total (·.2 - 1) r.duplicateOutputs =
      r.successCount := by
  have hlength : r.outputs.length = r.successCount := List.length_map _
  rw [r.counts_writeCounts.card_places, ← hlength]
  exact r.counts_writeCounts.length_add_repeats

/-- Reports that say the same list the same duplicates. -/
theorem Same.duplicateOutputs {r r' : Report} (h : r.Same r') :
    (PathMap.mk r.duplicateOutputs).Same ⟨r'.duplicateOutputs⟩ := by
  refine r.repeats_duplicateOutputs.same r'.repeats_duplicateOutputs fun q => ?_
  have hplaces (r : Report) :
      r.outputs.map Path.components = (r.written.map Written.places).map Prod.snd := by
    simp [outputs, Written.places, Function.comp_def]
  rw [Path.timesIn_eq_count, Path.timesIn_eq_count, hplaces, hplaces, h.written]

/-! ## The order of events -/

/-- A report does not depend on the order of the events (`Event.reordered_of_perm`), nor on how
their paths are spelled: it says the same, lists the same duplicates, and says no more and no less
than what the events tell. -/
theorem ofEvents_reordered (submitted : Nat) {events events' : List Event}
    (h : Event.Reordered events events') :
    let r := ofEvents submitted events
    let r' := ofEvents submitted events'
    r.Same r' ∧
      r.duplicateOutputs.map (fun d => (d.1.components, d.2)) =
        r'.duplicateOutputs.map (fun d => (d.1.components, d.2)) ∧
      r.Tells submitted events :=
  ⟨.ofEvents submitted h, (Same.ofEvents submitted h).duplicateOutputs,
    tells_ofEvents submitted events⟩

/-- Two files for one output under three spellings, told of in two orders. -/
theorem ofEvents_reordered_spellings :
    let events : List Event := [
      .written ⟨"b.cs"⟩ ⟨"out/T.cs"⟩, .generated ⟨"a.cs"⟩ 1, .written ⟨"a.cs"⟩ ⟨"out//T.cs"⟩]
    let events' : List Event := [
      .generated ⟨"a.cs"⟩ 1, .written ⟨"a.cs"⟩ ⟨"out/./T.cs"⟩, .written ⟨"b.cs"⟩ ⟨"out/T.cs"⟩]
    Event.Reordered events events' ∧ (ofEvents 2 events).Same (ofEvents 2 events') := by
  intro events events'
  have h : Event.Reordered events events' := by
    refine ⟨[.generated ⟨"a.cs"⟩ 1, .written ⟨"a.cs"⟩ ⟨"out//T.cs"⟩,
      .written ⟨"b.cs"⟩ ⟨"out/T.cs"⟩], by decide, .cons (.refl _) (.cons ⟨rfl, ?_⟩ (.cons (.refl _) .nil))⟩
    show Path.Same ⟨"out//T.cs"⟩ ⟨"out/./T.cs"⟩
    decide
  exact ⟨h, (ofEvents_reordered 2 h).1⟩

end Report

end Scaffold
