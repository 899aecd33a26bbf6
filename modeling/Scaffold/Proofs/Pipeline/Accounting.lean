import Mathlib.Data.List.Flatten
import Scaffold.Proofs.Pipeline.Schedule
import Scaffold.Proofs.Report
import Scaffold.Proofs.Store.Memory

/-!
# The accounts of a run

What the report of a run says adds up (`Plan.run_accounts`). Each deed tells events for what it used
up: a source that was read gives a text or a failure, a text that was generated from gives an output
or a failure, and a file that was written gives an entry or a failure. The ledger says that whatever
one stage made the next one used up, so the accounts of the deeds add up to the accounts of the run.
-/

namespace Scaffold.Pipeline

open scoped List

/-! ## The accounts of deeds -/

namespace Deed

/-- The files on which an operation failed. -/
def failed (o : Operation) (d : Deed) : List Path :=
  d.events.filterMap (Event.failedPath? o)

/-- What each deed has in two parts, all deeds have in two parts. -/
theorem perm_append {γ : Type} {a b c : Deed → List γ} (h : ∀ d, a d = b d ++ c d)
    (deeds : List Deed) : (deeds.flatMap a).Perm (deeds.flatMap b ++ deeds.flatMap c) := by
  rw [show a = fun d => b d ++ c d from funext h]
  exact (List.flatMap_append_perm deeds b c).symm

section Events

variable (o : Operation) (path : Path)

theorem failedPath?_ofFault (o' : Operation) (f : Fault) :
    Event.failedPath? o (.failed (.ofFault path o' f)) = if o' = o then some path else none := rfl

theorem failedPath?_generated (n : Nat) : Event.failedPath? o (.generated path n) = none := rfl

theorem failedPath?_written (target : Path) : Event.failedPath? o (.written path target) = none :=
  rfl

/-- The failures among the events of a generation are its omissions. -/
theorem failedPath?_generationEvents (g : Generated) :
    (generationEvents path g).filterMap (Event.failedPath? o) =
      if o = .synthesize then g.omissions.map fun _ => path else [] := by
  cases o <;>
    simp [generationEvents, List.filterMap_map, Function.comp_def, failedPath?_ofFault,
      failedPath?_generated, List.filterMap_eq_map']

theorem source?_generationEvents (g : Generated) :
    (generationEvents path g).filterMap Event.source? = [path] := by
  simp [generationEvents, Event.source?]

theorem written?_generationEvents (g : Generated) :
    (generationEvents path g).filterMap Event.written? = [] := by
  simp [generationEvents, Event.written?]

end Events

/-! What is told of a deed shows in its answer, so each account is checked for one deed, answer by
answer, and then added up. -/

/-- A source that was read gives a text or a failure. -/
theorem perm_paths (deeds : List Deed) :
    (deeds.filterMap path?).Perm
      ((deeds.flatMap texts).map (·.path) ++
        (deeds.flatMap events).filterMap (Event.failedPath? .read)) := by
  have hone (d : Deed) : d.path?.toList = d.texts.map (·.path) ++ d.failed .read := by
    rcases d with ⟨_, _ | _⟩ | ⟨_, _ | _⟩ | ⟨_, _, _ | _⟩ <;>
      simp [path?, texts, failed, events, failedPath?_generationEvents, failedPath?_ofFault,
        failedPath?_written, List.filterMap_cons]
  rw [List.filterMap_eq_flatMap_toList, List.map_flatMap, List.filterMap_flatMap]
  exact perm_append hone deeds

/-- A text that was generated from gives an output or a failure. -/
theorem perm_generations (deeds : List Deed) :
    ((deeds.filterMap text?).map (·.path)).Perm
      ((deeds.flatMap events).filterMap Event.source? ++
        (deeds.flatMap events).filterMap (Event.failedPath? .parse)) := by
  have hone (d : Deed) :
      d.text?.toList.map (·.path) = d.events.filterMap Event.source? ++ d.failed .parse := by
    rcases d with ⟨_, _ | _⟩ | ⟨_, _ | _⟩ | ⟨_, _, _ | _⟩ <;>
      simp [text?, failed, events, failedPath?_generationEvents, failedPath?_ofFault,
        failedPath?_written, source?_generationEvents, Event.source?, List.filterMap_cons]
  rw [List.filterMap_eq_flatMap_toList, List.map_flatMap, List.filterMap_flatMap,
    List.filterMap_flatMap]
  exact perm_append hone deeds

/-- A file that was to be written gives an entry or a failure. -/
theorem perm_writes (deeds : List Deed) :
    (deeds.filterMap target?).Perm
      (((deeds.flatMap events).filterMap Event.written?).map (·.output) ++
        (deeds.flatMap events).filterMap (Event.failedPath? .write)) := by
  have hone (d : Deed) :
      d.target?.toList = (d.events.filterMap Event.written?).map (·.output) ++ d.failed .write := by
    rcases d with ⟨_, _ | _⟩ | ⟨_, _ | _⟩ | ⟨_, _, _ | _⟩ <;>
      simp [target?, failed, events, failedPath?_generationEvents, failedPath?_ofFault,
        failedPath?_written, written?_generationEvents, Event.written?, List.filterMap_cons]
  rw [List.filterMap_eq_flatMap_toList, List.filterMap_flatMap, List.filterMap_flatMap,
    List.map_flatMap]
  exact perm_append hone deeds

/-- The numbers of classes that are told are the numbers of files of the outputs. -/
theorem classes_eq (deeds : List Deed) :
    (deeds.flatMap events).filterMap Event.classes? =
      (deeds.flatMap outputs).map (·.files.length) := by
  have hone (d : Deed) : d.events.filterMap Event.classes? = d.outputs.map (·.files.length) := by
    rcases d with ⟨_, _ | _⟩ | ⟨_, _ | _⟩ | ⟨_, _, _ | _⟩ <;>
      simp [events, outputs, generationEvents, Event.classes?, List.filterMap_cons]
  rw [List.filterMap_flatMap, List.map_flatMap]
  exact congrArg (deeds.flatMap ·) (funext hone)

/-- The failures to synthesize are the omissions of the outputs. -/
theorem length_failed_synthesize (deeds : List Deed) :
    ((deeds.flatMap events).filterMap (Event.failedPath? .synthesize)).length =
      total (·.omissions.length) (deeds.flatMap outputs) := by
  have hone (d : Deed) :
      (d.failed .synthesize).length = total (·.omissions.length) d.outputs := by
    rcases d with ⟨_, _ | _⟩ | ⟨_, _ | _⟩ | ⟨_, _, _ | _⟩ <;>
      simp [failed, events, outputs, failedPath?_generationEvents, failedPath?_ofFault,
        failedPath?_written, List.filterMap_cons]
  rw [List.filterMap_flatMap, length_flatMap_eq_total, total_flatMap]
  exact total_congr fun d _ => hone d

/-- The files that were generated are those of the outputs. -/
theorem length_items (deeds : List Deed) :
    (deeds.flatMap items).length = total (·.files.length) (deeds.flatMap outputs) := by
  have hone (d : Deed) : d.items.length = total (·.files.length) d.outputs := by
    rcases d with ⟨_, _ | _⟩ | ⟨_, _ | _⟩ | ⟨_, _, _ | _⟩ <;> simp [items, outputs]
  rw [length_flatMap_eq_total, total_flatMap]
  exact total_congr fun d _ => hone d

end Deed

/-! ## The accounts of runs -/

namespace Plan

variable {plan : Plan} {s t : Progress} {deeds : List Deed}

variable (plan) in
/-- What the plan generates from some texts, without those that it refuses. -/
def outputs (texts : List SourceText) : List Generated :=
  texts.filterMap fun text => (plan.generate text).toOption

/-- A run has the outputs that its plan generates from the texts that were generated from. -/
theorem Run.outputs_eq (h : plan.Run s deeds t) :
    deeds.flatMap Deed.outputs = plan.outputs (deeds.filterMap Deed.text?) := by
  rw [outputs, List.filterMap_filterMap, List.filterMap_eq_flatMap_toList]
  refine List.flatMap_congr fun d hd => ?_
  have hplan := h.plans d hd
  rcases d with ⟨_, _⟩ | ⟨text, outcome⟩ | ⟨_, _, _⟩
  · rfl
  · obtain rfl : outcome = plan.generate text := hplan
    cases hg : plan.generate text <;> simp [Deed.outputs, Deed.text?, hg, Except.toOption]
  · rfl

/-- A run writes files to their places. -/
theorem Run.targets_eq (h : plan.Run s deeds t) :
    deeds.filterMap Deed.target? =
      (deeds.filterMap Deed.item?).map fun item => plan.target item.file := by
  rw [List.map_filterMap]
  refine List.filterMap_congr fun d hd => ?_
  have hplan := h.plans d hd
  rcases d with ⟨_, _⟩ | ⟨_, _⟩ | ⟨item, target, answer⟩
  · rfl
  · rfl
  · obtain rfl : target = plan.target item.file := hplan
    rfl

section Ended

variable {pools : Pools} (hp : pools.validate = .ok ()) {sources : List Path}
  (hrun : plan.Run (Progress.start pools sources) deeds t) (hf : t.isFinished = true)
include hp hrun hf

/-- The files on which an operation failed are, in the report as in the deeds. -/
theorem Run.perm_failedPaths (o : Operation) :
    (t.conclusion.report.failedPaths o).Perm
      ((deeds.flatMap Deed.events).filterMap (Event.failedPath? o)) := by
  obtain ⟨-, -, -, hevents⟩ := hrun.settled hp hf
  exact (Report.failedPaths_ofEvents t.submitted t.events o).trans (hevents.filterMap _)

/-- Every source was generated from, or could not be parsed or read. -/
theorem Run.perm_sources :
    (t.events.filterMap Event.source? ++ t.conclusion.report.failedPaths .parse ++
      t.conclusion.report.failedPaths .read).Perm sources := by
  obtain ⟨hpaths, htexts, -, hevents⟩ := hrun.settled hp hf
  have hparse := hrun.perm_failedPaths hp hf .parse
  have hread := hrun.perm_failedPaths hp hf .read
  calc
    _ ~ (deeds.flatMap Deed.events).filterMap Event.source? ++
          (deeds.flatMap Deed.events).filterMap (Event.failedPath? .parse) ++
            (deeds.flatMap Deed.events).filterMap (Event.failedPath? .read) :=
      ((hevents.filterMap _).append hparse).append hread
    _ ~ (deeds.filterMap Deed.text?).map (·.path) ++ _ :=
      (Deed.perm_generations deeds).symm.append_right _
    -- The ledger: the texts that were generated from are those that were read.
    _ ~ (deeds.flatMap Deed.texts).map (·.path) ++ _ := (htexts.map _).append_right _
    _ ~ deeds.filterMap Deed.path? := (Deed.perm_paths deeds).symm
    _ ~ sources := hpaths

/-- Every generated file was written to its place or could not be written there. -/
theorem Run.perm_targets :
    (t.conclusion.report.written.map (·.output) ++
      t.conclusion.report.failedPaths .write).Perm
        ((deeds.flatMap Deed.items).map fun item => plan.target item.file) := by
  obtain ⟨-, -, hitems, hevents⟩ := hrun.settled hp hf
  have hwritten := (Report.written_ofEvents t.submitted t.events).trans (hevents.filterMap _)
  calc
    _ ~ ((deeds.flatMap Deed.events).filterMap Event.written?).map (·.output) ++
          (deeds.flatMap Deed.events).filterMap (Event.failedPath? .write) :=
      (hwritten.map _).append (hrun.perm_failedPaths hp hf .write)
    _ ~ deeds.filterMap Deed.target? := (Deed.perm_writes deeds).symm
    _ ~ (deeds.filterMap Deed.item?).map fun item : WriteItem => plan.target item.file := by
      rw [hrun.targets_eq]
    -- The ledger: the files that were to be written are those that were generated.
    _ ~ (deeds.flatMap Deed.items).map fun item : WriteItem => plan.target item.file :=
      hitems.map _

/-- The outputs of the deeds are those of the texts that were read. -/
theorem Run.perm_outputs :
    (deeds.flatMap Deed.outputs).Perm (plan.outputs (deeds.flatMap Deed.texts)) := by
  obtain ⟨-, htexts, -, -⟩ := hrun.settled hp hf
  rw [hrun.outputs_eq]
  exact htexts.filterMap _

end Ended

/-- The accounts of a run with accepted pools that has ended, whatever failed and in whatever order.
Every source was generated from, or could not be read or parsed, and no source more than once. Every
generated file was written or could not be written, and no file more than once. So the numbers of the
report agree, and the failures to synthesize are the omissions of what was generated. -/
theorem run_accounts (plan : Plan) {pools : Pools} (hp : pools.validate = .ok ())
    {sources : List Path} {deeds : List Deed} {t : Progress}
    (hrun : plan.Run (Progress.start pools sources) deeds t) (hf : t.isFinished = true) :
    let report := t.conclusion.report
    let outputs := plan.outputs (deeds.flatMap Deed.texts)
    report.submitted = sources.length ∧
      report.submitted =
        report.generated + report.failuresOf .read + report.failuresOf .parse ∧
      report.classes = report.written.length + report.failuresOf .write ∧
      report.generated = outputs.length ∧
      report.classes = total (·.files.length) outputs ∧
      report.failuresOf .synthesize = total (·.omissions.length) outputs ∧
      (t.events.filterMap Event.source? ++ report.failedPaths .parse ++
        report.failedPaths .read).Perm sources ∧
      (report.written.map (·.output) ++ report.failedPaths .write).Perm
        ((deeds.flatMap Deed.items).map fun item => plan.target item.file) := by
  intro report outputs
  obtain ⟨-, -, -, hevents⟩ := hrun.settled hp hf
  have hsources : (t.events.filterMap Event.source? ++ report.failedPaths .parse ++
      report.failedPaths .read).Perm sources := hrun.perm_sources hp hf
  have htargets : (report.written.map (·.output) ++ report.failedPaths .write).Perm
      ((deeds.flatMap Deed.items).map fun item => plan.target item.file) :=
    hrun.perm_targets hp hf
  have houtputs := hrun.perm_outputs hp hf
  have hsubmitted : report.submitted = sources.length := hrun.submitted_eq hp hf
  have hgenerated : report.generated = (t.events.filterMap Event.source?).length :=
    Report.generated_ofEvents t.submitted t.events
  have hclasses : report.classes = total (·.files.length) (deeds.flatMap Deed.outputs) := by
    refine (total_perm (hevents.filterMap _)).trans ?_
    rw [Deed.classes_eq, total_map]
    rfl
  refine ⟨hsubmitted, ?_, ?_, ?_, ?_, ?_, hsources, htargets⟩
  -- The first two sums are the lengths of the two lists of paths.
  · have := hsources.length_eq
    rw [List.length_append, List.length_append, Report.length_failedPaths,
      Report.length_failedPaths] at this
    omega
  · have := htargets.length_eq
    rw [List.length_append, Report.length_failedPaths, List.length_map, List.length_map,
      Deed.length_items] at this
    omega
  · have hcount : report.generated = (t.events.filterMap Event.classes?).length := rfl
    rw [hcount, (hevents.filterMap _).length_eq, Deed.classes_eq, List.length_map,
      houtputs.length_eq]
  · rw [hclasses]
    exact total_perm houtputs
  · have hfailed := hrun.perm_failedPaths hp hf .synthesize
    rw [← Report.length_failedPaths, hfailed.length_eq, Deed.length_failed_synthesize]
    exact total_perm houtputs

/-- A source that is missing, one that is listed twice, and a place for only some of the files. -/
theorem run_accounts_mixed :
    let plan : Plan := ⟨fun t => .ok ⟨[⟨"A.cs", t.text⟩, ⟨"B/C.cs", ""⟩], []⟩, ⟨"out"⟩⟩
    let pools : Pools := ⟨2, 1, 3⟩
    let sources : List Path := [⟨"a.cs"⟩, ⟨"b.cs"⟩, ⟨"a.cs"⟩]
    pools.validate = .ok () ∧
      ∃ deeds t,
        plan.Run (Progress.start pools sources) deeds t ∧ t.isFinished = true ∧
          3 = t.conclusion.report.generated + t.conclusion.report.failuresOf .read +
            t.conclusion.report.failuresOf .parse := by
  intro plan pools sources
  have hp : pools.validate = .ok () := rfl
  have hdirectory := Memory.run_makeDirectory (m := Memory.empty.seed ⟨"a.cs"⟩ "a") (p := ⟨"out"⟩)
    (by decide)
  obtain ⟨c, w, -, h⟩ := plan.run_completes hp sources hdirectory
  obtain ⟨w₀, deeds, t, -, hrun, hf, -⟩ := h.exists_runOn
  obtain ⟨hsubmitted, hsum, -⟩ := run_accounts plan hp hrun.run hf
  exact ⟨hp, deeds, t, hrun.run, hf, hsubmitted.symm.trans hsum⟩

end Plan

end Scaffold.Pipeline
