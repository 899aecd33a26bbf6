import Scaffold.Proofs.Pipeline.Accounting

/-!
# When a run is refused

A run is refused when it cannot start: its pools are not accepted, or its output directory cannot be
made. That is settled before the first turn. From then on a refused operation is an answer that some
worker goes on with, and it ends as a failure in the report.

`Plan.Answers` is what a run can answer, over all orders of turns, and the order that `Plan.run`
takes gives one of these answers (`Plan.answers_run`). On a file system in memory a run that is
refused has changed nothing, and a run that is not refused did every job that there was to do and
reports the failures of these jobs and no others (`Plan.refused_iff`).
-/

namespace Scaffold

/-! ## The failures of jobs -/

namespace Pipeline.Deed

/-- The failures of a job: that of a refused operation, or one for each omission from what was
generated. -/
def failures : Deed → List Failure
  | read _ (.ok _) => []
  | read path (.error f) => [.ofFault path .read f]
  | generate text (.ok g) => g.omissions.map fun o => .ofFault text.path .synthesize o.fault
  | generate text (.error f) => [.ofFault text.path .parse f]
  | write _ _ (.ok ()) => []
  | write _ target (.error f) => [.ofFault target .write f]

/-- The failures that a generation tells of are its omissions. -/
theorem failure?_generationEvents (path : Path) (g : Generated) :
    (generationEvents path g).filterMap Event.failure? =
      g.omissions.map fun o => .ofFault path .synthesize o.fault := by
  have homissions : Event.failure? ∘ (fun o : Fixture.Omission =>
      Event.failed (.ofFault path .synthesize o.fault)) =
        some ∘ fun o => .ofFault path .synthesize o.fault := rfl
  rw [generationEvents, List.filterMap_append, List.filterMap_map, homissions,
    List.filterMap_eq_map]
  exact List.append_nil _

/-- The failures that are told of are those of the jobs. -/
theorem failures_events (deeds : List Deed) :
    (deeds.flatMap events).filterMap Event.failure? = deeds.flatMap failures := by
  have hone (d : Deed) : d.events.filterMap Event.failure? = d.failures := by
    rcases d with ⟨_, _ | _⟩ | ⟨_, _ | _⟩ | ⟨_, _, _ | _⟩
    case generate.ok => exact failure?_generationEvents _ _
    all_goals rfl
  rw [List.filterMap_flatMap]
  exact congrArg (deeds.flatMap ·) (funext hone)

end Pipeline.Deed

/-! ## What a run can answer -/

namespace Pipeline.Plan

section Answers

variable {W : Type} [FileSystem (StateM W)]

/-- What a run can answer and the file system that it can leave, over all orders of turns. -/
inductive Answers (plan : Plan) (pools : Pools) (sources : List Path) (w : W) :
    Except Fault Conclusion → W → Prop where
  /-- The pools are not accepted, and the file system is not asked for anything. -/
  | unacceptable {f : Fault} (hp : pools.validate = .error f) :
    Answers plan pools sources w (.error f) w
  /-- The output directory cannot be made, and no turn is taken. -/
  | unprepared {f : Fault} {w' : W} (hp : pools.validate = .ok ())
      (hm : (FileSystem.makeDirectory plan.outputDirectory : StateM W _).run w = (.error f, w')) :
    Answers plan pools sources w (.error (f.whileDoing preparation)) w'
  | completed {c : Conclusion} {w' : W} (h : plan.Completes pools sources w c w') :
    Answers plan pools sources w (.ok c) w'

variable (plan : Plan) (pools : Pools) (sources : List Path) (w : W)

/-- A run gives an answer that it can give. -/
theorem answers_run :
    plan.Answers pools sources w ((plan.run pools sources : StateM W _).run w).1
      ((plan.run pools sources : StateM W _).run w).2 := by
  cases hp : pools.validate with
  | error f =>
    have hrun : (plan.run pools sources : StateM W _).run w = (.error f, w) := by
      simp only [Plan.run, hp]
      rfl
    rw [hrun]
    exact .unacceptable hp
  | ok u =>
    obtain ⟨answer, w₀, hm⟩ : ∃ answer w₀,
        (FileSystem.makeDirectory plan.outputDirectory : StateM W _).run w = (answer, w₀) :=
      ⟨_, _, rfl⟩
    cases answer with
    | error f =>
      have hrun : (plan.run pools sources : StateM W _).run w =
          (.error (f.whileDoing preparation), w₀) := by
        simp only [Plan.run, hp, StateT.run_bind, hm]
        rfl
      rw [hrun]
      exact .unprepared hp hm
    | ok u =>
      obtain ⟨c, w', hrun, h⟩ := plan.run_completes hp sources hm
      rw [hrun]
      exact .completed h

/-- What a completed run did: all jobs that there were to do, whatever came of those before, and its
report tells of the failures of these jobs and of no others. -/
structure DidAll (deeds : List Deed) (c : Conclusion) (w' : W) : Prop where
  /-- The jobs were done one after the other, from the making of the output directory to the end. -/
  ran : ∃ w₀ t,
    (FileSystem.makeDirectory plan.outputDirectory : StateM W _).run w = (.ok (), w₀) ∧
      plan.RunOn (Progress.start pools sources) w₀ deeds t w' ∧
        t.isFinished = true ∧ t.conclusion = c
  /-- Every source was asked for. -/
  reads : (deeds.filterMap Deed.path?).Perm sources
  /-- Every text that was read was generated from. -/
  generations : (deeds.filterMap Deed.text?).Perm (deeds.flatMap Deed.texts)
  /-- Every file that was generated was to be written. -/
  writes : (deeds.filterMap Deed.item?).Perm (deeds.flatMap Deed.items)
  failures : c.report.failures.Perm (deeds.flatMap Deed.failures)

variable {plan pools sources w}

/-- A completed run did all that there was to do. -/
theorem Completes.didAll {c : Conclusion} {w' : W} (h : plan.Completes pools sources w c w') :
    ∃ deeds, plan.DidAll pools sources w deeds c w' := by
  have hp := h.1
  obtain ⟨w₀, deeds, t, hm, hrun, hf, rfl⟩ := h.exists_runOn
  obtain ⟨hpaths, htexts, hitems, hevents⟩ := hrun.run.settled hp hf
  have hfailures : t.conclusion.report.failures.Perm (deeds.flatMap Deed.failures) := by
    rw [← Deed.failures_events]
    exact (Report.failures_ofEvents t.submitted t.events).trans (hevents.filterMap _)
  exact ⟨deeds, ⟨w₀, t, hm, hrun, hf, rfl⟩, hpaths, htexts, hitems, hfailures⟩

end Answers

/-! ## On a file system in memory -/

variable {plan : Plan} {pools : Pools} {sources : List Path} {m m' : Memory}
  {answer : Except Fault Conclusion}

/-- A run is refused when it cannot start, and then the file system is as it was. -/
theorem Answers.refused (h : plan.Answers pools sources m answer m') :
    ((∃ f, answer = .error f) ↔
        (∃ f, pools.validate = .error f) ∨ ∃ f, m.makeDirectory plan.outputDirectory = .error f) ∧
      ((∃ f, answer = .error f) → m' = m) := by
  cases h with
  | unacceptable hp => exact ⟨iff_of_true ⟨_, rfl⟩ (.inl ⟨_, hp⟩), fun _ => rfl⟩
  | unprepared hp hm =>
    cases hmade : m.makeDirectory plan.outputDirectory with
    | ok m₀ => cases (Memory.run_makeDirectory_of_ok hmade).symm.trans hm
    | error f =>
      obtain ⟨-, rfl⟩ := Prod.mk.inj ((Memory.run_makeDirectory_of_error hmade).symm.trans hm)
      exact ⟨iff_of_true ⟨_, rfl⟩ (.inr ⟨f, rfl⟩), fun _ => rfl⟩
  | @completed c _ h =>
    obtain ⟨hp, w₀, t, hm, -⟩ := h
    have hanswer : ¬ ∃ f, (.ok c : Except Fault Conclusion) = .error f := by
      rintro ⟨f, hf⟩
      cases hf
    have hstarts : ¬ ((∃ f, pools.validate = .error f) ∨
        ∃ f, m.makeDirectory plan.outputDirectory = .error f) := by
      rintro (⟨f, hf⟩ | ⟨f, hf⟩)
      · cases hp.symm.trans hf
      · cases (Memory.run_makeDirectory_of_error hf).symm.trans hm
    exact ⟨iff_of_false hanswer hstarts, fun hf => absurd hf hanswer⟩

/-- A run that cannot start leaves no trace, and nothing else is refused. `run` gives one of the
answers that are possible over all orders of turns, and every order that has begun can go on to
such an answer. Whatever the order, the answer is a refusal exactly when the pools are not
accepted or the output directory cannot be made, and then files and directories are as they were.
Otherwise every job was done that there was to do, and the failures of these jobs, whichever they
are, are the failures in the report. -/
theorem refused_iff (plan : Plan) (pools : Pools) (sources : List Path) (m : Memory) :
    plan.Answers pools sources m ((plan.run pools sources : StateM Memory _).run m).1
        ((plan.run pools sources : StateM Memory _).run m).2 ∧
      (∀ m₀ s v, pools.validate = .ok () → m.makeDirectory plan.outputDirectory = .ok m₀ →
        Relation.ReflTransGen plan.NextOn (Progress.start pools sources, m₀) (s, v) →
          ∃ t m', Relation.ReflTransGen plan.NextOn (s, v) (t, m') ∧
            plan.Answers pools sources m (.ok t.conclusion) m') ∧
      ∀ answer m', plan.Answers pools sources m answer m' →
        ((∃ f, answer = .error f) ↔
          (∃ f, pools.validate = .error f) ∨
            ∃ f, m.makeDirectory plan.outputDirectory = .error f) ∧
        ((∃ f, answer = .error f) → m' = m) ∧
        ∀ c, answer = .ok c → ∃ deeds, plan.DidAll pools sources m deeds c m' := by
  refine ⟨plan.answers_run pools sources m, ?_, ?_⟩
  · intro m₀ s v hp hmade hturns
    obtain ⟨t, m', hmore, hf⟩ := exists_finished hp hturns
    exact ⟨t, m', hmore, .completed ⟨hp, m₀, t, Memory.run_makeDirectory_of_ok hmade,
      hturns.trans hmore, hf, rfl⟩⟩
  · intro answer m' h
    obtain ⟨hrefused, hsame⟩ := h.refused
    refine ⟨hrefused, hsame, ?_⟩
    rintro c rfl
    cases h with
    | completed h => exact h.didAll

/-- An output directory that is a file already, and one that can be made, with one source that is
missing and one whose test file has the place of a directory. -/
theorem refused_iff_directories :
    let plan (directory : Path) : Plan := ⟨fun t => .ok ⟨[⟨"T.cs", t.text⟩], []⟩, directory⟩
    let pools : Pools := ⟨2, 1, 3⟩
    let sources : List Path := [⟨"out/a.cs"⟩, ⟨"b.cs"⟩]
    let m := (Memory.empty.seed ⟨"out/a.cs"⟩ "a").seed ⟨"out/T.cs/c.cs"⟩ "c"
    let outcome (directory : Path) := ((plan directory).run pools sources : StateM Memory _).run m
    ((∃ f, (outcome ⟨"out//a.cs"⟩).1 = .error f) ∧ (outcome ⟨"out//a.cs"⟩).2 = m) ∧
      ∃ c deeds, (outcome ⟨"out"⟩).1 = .ok c ∧
        (plan ⟨"out"⟩).DidAll pools sources m deeds c (outcome ⟨"out"⟩).2 := by
  intro plan pools sources m outcome
  constructor
  · obtain ⟨hanswer, -, hall⟩ := refused_iff (plan ⟨"out//a.cs"⟩) pools sources m
    obtain ⟨hrefused, hsame, -⟩ := hall _ _ hanswer
    have hfile : m.makeDirectory ⟨"out//a.cs"⟩ =
        .error (Memory.refusal "out//a.cs exists and is a file" ⟨"out//a.cs"⟩) := by decide
    have herror := hrefused.2 (.inr ⟨_, hfile⟩)
    exact ⟨herror, hsame herror⟩
  · obtain ⟨hanswer, -, hall⟩ := refused_iff (plan ⟨"out"⟩) pools sources m
    obtain ⟨hrefused, -, hdid⟩ := hall _ _ hanswer
    have hmade := Memory.run_makeDirectory (m := m) (p := ⟨"out"⟩) (by decide)
    cases houtcome : (outcome ⟨"out"⟩).1 with
    | ok c =>
      obtain ⟨deeds, h⟩ := hdid c houtcome
      exact ⟨c, deeds, rfl, h⟩
    | error f =>
      obtain ⟨_, hf⟩ | ⟨_, hf⟩ := hrefused.1 ⟨f, houtcome⟩
      · cases hf
      · cases (Memory.run_makeDirectory_of_error hf).symm.trans hmade

end Pipeline.Plan

end Scaffold
