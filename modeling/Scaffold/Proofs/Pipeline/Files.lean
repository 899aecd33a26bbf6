import Mathlib.Data.List.Induction
import Scaffold.Proofs.Pipeline.Accounting
import Scaffold.Proofs.Report.Duplicates

/-!
# What a run leaves in the files

On a file system in memory the files at the end of a run are those at its start with the values that
its deeds put, one after the other (`Plan.RunOn.leaves`). A value is put at the place of each output
that is told of and nowhere else. So a run changes the files at the places of its outputs only, each
of them has the content of the file that was written there last, and its report says where more than
one file was written (`Plan.overwrites_contained`).
-/

namespace Scaffold.Pipeline

/-! ## What deeds put -/

namespace Deed

/-- What is put at which place. -/
def values : Deed → List (Path × String)
  | write item target (.ok ()) => [(target, item.file.content)]
  | _ => []

/-- A deed has the answer that a file system gives. -/
def AnsweredBy (m : Memory) : Deed → Prop
  | read p answer => answer = m.read p
  | generate _ _ => True
  | write _ target answer => answer = m.permits target

/-- A deed that happens on a file system has the answer of it, leaves its directories alone and puts
its values into the files. -/
theorem answeredBy_of_happens {d : Deed} {m m' : Memory} (h : Happens (some d) m m') :
    d.AnsweredBy m ∧ m'.directories = m.directories ∧ m'.files = m.files.putAll d.values := by
  cases d with
  | read p answer =>
    obtain ⟨rfl, rfl⟩ := Prod.mk.inj h
    exact ⟨rfl, rfl, rfl⟩
  | generate text outcome =>
    obtain rfl : m' = m := h
    exact ⟨trivial, rfl, rfl⟩
  | write item target answer =>
    cases hanswer : m.permits target with
    | ok u =>
      obtain ⟨rfl, rfl⟩ := Prod.mk.inj ((Memory.run_write_of_permits hanswer _).symm.trans h)
      exact ⟨hanswer.symm, rfl, rfl⟩
    | error f =>
      obtain ⟨rfl, rfl⟩ := Prod.mk.inj ((Memory.run_write_of_refuses hanswer _).symm.trans h)
      exact ⟨hanswer.symm, rfl, rfl⟩

/-- Values are put where the events tell of outputs. -/
theorem outputs_events (deeds : List Deed) :
    ((deeds.flatMap events).filterMap Event.written?).map (·.output) =
      (deeds.flatMap values).map (·.1) := by
  have hone (d : Deed) :
      (d.events.filterMap Event.written?).map (·.output) = d.values.map (·.1) := by
    rcases d with ⟨_, _ | _⟩ | ⟨_, _ | _⟩ | ⟨_, _, _ | _⟩ <;>
      simp [events, values, written?_generationEvents, Event.written?, List.filterMap_cons]
  rw [List.filterMap_flatMap, List.map_flatMap, List.map_flatMap]
  exact congrArg (deeds.flatMap ·) (funext hone)

/-- Some deeds wrote a file at a place, and none of those after it wrote there. -/
def WroteLast (deeds : List Deed) (item : WriteItem) (q : Path) : Prop :=
  ∃ before target after,
    deeds = before ++ write item target (.ok ()) :: after ∧ target.Same q ∧
      ∀ e ∈ after.flatMap values, ¬ e.1.Same q

section LastWrite

variable {deeds : List Deed} {item : WriteItem} {q : Path}

/-- Where something was put, something was written last. -/
theorem exists_wroteLast (h : ∃ e ∈ deeds.flatMap values, e.1.Same q) :
    ∃ item, WroteLast deeds item q := by
  induction deeds using List.reverseRecOn with
  | nil =>
    obtain ⟨e, he, -⟩ := h
    cases he
  | append_singleton deeds d ih =>
    by_cases hd : ∃ e ∈ d.values, e.1.Same q
    · obtain ⟨e, he, hq⟩ := hd
      -- Only a file that was written puts something.
      rcases d with ⟨_, _⟩ | ⟨_, _⟩ | ⟨item, target, _ | _⟩
      · cases he
      · cases he
      · cases he
      · obtain rfl : e = (target, item.file.content) := List.mem_singleton.1 he
        exact ⟨item, deeds, target, [], rfl, hq, by simp⟩
    · have hnone : ∀ e ∈ d.values, ¬ e.1.Same q := fun e he hq => hd ⟨e, he, hq⟩
      have hdeeds : ∃ e ∈ deeds.flatMap values, e.1.Same q := by
        obtain ⟨e, he, hq⟩ := h
        rw [List.flatMap_append, List.flatMap_singleton, List.mem_append] at he
        exact ⟨e, he.resolve_right fun he => hnone e he hq, hq⟩
      obtain ⟨item, before, target, after, rfl, hq, hafter⟩ := ih hdeeds
      refine ⟨item, before, target, after ++ [d], by simp, hq, fun e he => ?_⟩
      rw [List.flatMap_append, List.flatMap_singleton, List.mem_append] at he
      exact he.elim (hafter e) (hnone e)

/-- The file that was written last is one that was to be written. -/
theorem WroteLast.mem_item? (h : WroteLast deeds item q) : item ∈ deeds.filterMap item? := by
  obtain ⟨before, target, after, rfl, -, -⟩ := h
  exact List.mem_filterMap.2 ⟨_, List.mem_append_right _ List.mem_cons_self, rfl⟩

/-- What was written last is there. -/
theorem WroteLast.get?_putAll (h : WroteLast deeds item q) (files : PathMap String) :
    (files.putAll (deeds.flatMap values)).get? q = some item.file.content := by
  obtain ⟨before, target, after, rfl, hq, hafter⟩ := h
  rw [List.flatMap_append, List.flatMap_cons, PathMap.putAll_append, PathMap.putAll_append,
    PathMap.get?_putAll hafter]
  exact PathMap.get?_put_of_same _ hq _

end LastWrite

end Deed

/-! ## What runs leave -/

namespace Plan

variable {plan : Plan} {s t : Progress} {deeds : List Deed} {m₀ m : Memory}

/-- A run leaves the directories alone and puts the values of its deeds into the files. -/
theorem RunOn.leaves (h : plan.RunOn s m₀ deeds t m) :
    m.directories = m₀.directories ∧ m.files = m₀.files.putAll (deeds.flatMap Deed.values) := by
  induction h with
  | refl => exact ⟨rfl, rfl⟩
  | @tail deeds deed t u v x _ _ hv ih =>
    obtain ⟨hdirectories, hfiles⟩ := ih
    cases deed with
    | none =>
      obtain rfl : x = v := hv
      simpa using ⟨hdirectories, hfiles⟩
    | some d =>
      obtain ⟨-, hdirectories', hfiles'⟩ := Deed.answeredBy_of_happens hv
      refine ⟨hdirectories'.trans hdirectories, ?_⟩
      rw [hfiles', hfiles, ← PathMap.putAll_append, List.flatMap_append, Option.toList_some,
        List.flatMap_singleton]

/-- A run with accepted pools on a file system in memory, from its start to its end, in whatever
order turns were taken and whatever was written over; every completed run is one
(`Completes.exists_runOn`). A file is what it was before, unless it is at the place of an output that
was told of, and then it has the content of the file that was written there last. The report lists
exactly the places of more than one output, with their numbers, and the outputs without these
repetitions are the distinct ones. -/
theorem overwrites_contained (plan : Plan) {pools : Pools} (hp : pools.validate = .ok ())
    {sources : List Path} {m m₀ m₁ : Memory} {deeds : List Deed} {t : Progress}
    (hm : (FileSystem.makeDirectory plan.outputDirectory : StateM Memory _).run m = (.ok (), m₀))
    (hrun : plan.RunOn (Progress.start pools sources) m₀ deeds t m₁) (hf : t.isFinished = true) :
    let outputs := (t.events.filterMap Event.written?).map (·.output)
    let report := t.conclusion.report
    (∀ q, (∀ p ∈ outputs, ¬ p.Same q) → m₁.files.get? q = m.files.get? q) ∧
      (∀ q, (∃ p ∈ outputs, p.Same q) → ∃ item ∈ deeds.flatMap Deed.items,
        Deed.WroteLast deeds item q ∧ m₁.files.get? q = some item.file.content) ∧
      Repeats outputs report.duplicateOutputs ∧
      (outputs.map Path.components).toFinset.card + total (·.2 - 1) report.duplicateOutputs =
        report.successCount := by
  intro outputs report
  obtain ⟨-, -, hitems, hevents⟩ := hrun.run.settled hp hf
  obtain ⟨-, hfiles⟩ := hrun.leaves
  have houtputs : outputs.Perm ((deeds.flatMap Deed.values).map (·.1)) := by
    rw [← Deed.outputs_events]
    exact (hevents.filterMap _).map _
  have hreport : report.outputs.Perm outputs := Report.outputs_ofEvents t.submitted t.events
  refine ⟨fun q hq => ?_, fun q hq => ?_, ?_, ?_⟩
  · -- Nothing was put at the place, and making the output directory changes no file.
    have hvalues : ∀ e ∈ deeds.flatMap Deed.values, ¬ e.1.Same q := fun e he =>
      hq e.1 (houtputs.mem_iff.2 (List.mem_map_of_mem he))
    rw [hfiles, PathMap.get?_putAll hvalues, Memory.files_of_run_makeDirectory hm]
  · obtain ⟨p, hmem, hsame⟩ := hq
    obtain ⟨e, he, rfl⟩ := List.mem_map.1 (houtputs.mem_iff.1 hmem)
    obtain ⟨item, hlast⟩ := Deed.exists_wroteLast ⟨e, he, hsame⟩
    refine ⟨item, hitems.mem_iff.1 hlast.mem_item?, hlast, ?_⟩
    rw [hfiles]
    exact hlast.get?_putAll m₀.files
  · exact report.repeats_duplicateOutputs.of_perm hreport
  · rw [← List.toFinset_eq_of_perm _ _ (hreport.map Path.components)]
    exact report.card_outputs_add_repeats

/-- Two sources whose files have one place under two spellings, and three writers. -/
theorem overwrites_contained_spellings :
    let plan : Plan :=
      ⟨fun t => .ok ⟨[⟨if t.text = "a" then "T.cs" else "./T.cs", t.text⟩], []⟩, ⟨"out"⟩⟩
    let m := (Memory.empty.seed ⟨"a.cs"⟩ "a").seed ⟨"b.cs"⟩ "b"
    let pools : Pools := ⟨2, 1, 3⟩
    let sources : List Path := [⟨"a.cs"⟩, ⟨"b.cs"⟩]
    pools.validate = .ok () ∧
      ∃ m₀ m₁ deeds t,
        (FileSystem.makeDirectory plan.outputDirectory : StateM Memory _).run m = (.ok (), m₀) ∧
          plan.RunOn (Progress.start pools sources) m₀ deeds t m₁ ∧ t.isFinished = true ∧
            Repeats ((t.events.filterMap Event.written?).map (·.output))
              t.conclusion.report.duplicateOutputs := by
  intro plan m pools sources
  have hp : pools.validate = .ok () := rfl
  have hdirectory := Memory.run_makeDirectory (m := m) (p := ⟨"out"⟩) (by decide)
  obtain ⟨c, m₁, -, h⟩ := plan.run_completes hp sources hdirectory
  obtain ⟨m₀, deeds, t, hm, hrun, hf, -⟩ := h.exists_runOn
  obtain ⟨-, -, hrepeats, -⟩ := overwrites_contained plan hp hm hrun hf
  exact ⟨hp, m₀, m₁, deeds, t, hm, hrun, hf, hrepeats⟩

end Plan

end Scaffold.Pipeline
