import Mathlib.Data.List.Flatten
import Scaffold.Proofs.Pipeline.Files

/-!
# The order of turns does not matter

Two completed runs with the same sources, from the same file system in memory, leave the same files
and the same report, whatever their pools and in whatever order turns were taken
(`Plan.completes_same`). It takes two conditions: no file is written to the place of a source, and
files for one place have one content.

A deed is expected (`Plan.Expects`) when its answer is the one of the file system at the start. All
deeds of a run are (`Plan.RunOn.tracks`): the files of the sources do not change, and what may be
written depends on the directories, which do not change either. So the deeds of a completed run are
the expected ones in some order, and neither the files nor the report depend on that order.
-/

namespace Scaffold.Pipeline

open scoped List

/-! ## Expected deeds -/

namespace Deed

/-- Reading a source from a file system. -/
def readOn (m : Memory) (p : Path) : Deed :=
  read p (m.read p)

/-- Generating from a text by a plan. -/
def generateBy (plan : Plan) (text : SourceText) : Deed :=
  generate text (plan.generate text)

/-- Writing a file by a plan on a file system. -/
def writeOn (plan : Plan) (m : Memory) (item : WriteItem) : Deed :=
  write item (plan.target item.file) (m.permits (plan.target item.file))

end Deed

namespace Plan

/-- The texts of those sources that can be read. -/
def textsOn (m : Memory) (sources : List Path) : List SourceText :=
  sources.flatMap fun p => (Deed.readOn m p).texts

/-- The files that a plan generates from some texts. -/
def filesOf (plan : Plan) (texts : List SourceText) : List WriteItem :=
  texts.flatMap fun text => (Deed.generateBy plan text).items

/-- A deed is what a plan does on a file system. -/
def Expects (plan : Plan) (m : Memory) : Deed → Prop
  | .read p answer => answer = m.read p
  | .generate text outcome => outcome = plan.generate text
  | .write item target answer => target = plan.target item.file ∧ answer = m.permits target

variable {plan : Plan} {m : Memory} {deeds : List Deed}

section Expected

variable (h : ∀ d ∈ deeds, plan.Expects m d)
include h

/-- Expected deeds are determined by what they use up. -/
theorem perm_of_expects :
    deeds.Perm ((deeds.filterMap Deed.path?).map (Deed.readOn m) ++
      ((deeds.filterMap Deed.text?).map (Deed.generateBy plan) ++
        (deeds.filterMap Deed.item?).map (Deed.writeOn plan m))) := by
  -- One of the three parts is the deed and the others are empty.
  have hone (d : Deed) (hd : d ∈ deeds) :
      [d] = d.path?.toList.map (Deed.readOn m) ++
        (d.text?.toList.map (Deed.generateBy plan) ++
          d.item?.toList.map (Deed.writeOn plan m)) := by
    have hd := h d hd
    cases d with
    | read p answer =>
      obtain rfl : answer = m.read p := hd
      rfl
    | generate text outcome =>
      obtain rfl : outcome = plan.generate text := hd
      rfl
    | write item target answer =>
      obtain ⟨rfl, rfl⟩ := hd
      rfl
  simp only [List.filterMap_eq_flatMap_toList, List.map_flatMap]
  calc
    deeds ~ deeds.flatMap fun d => [d] := by rw [List.flatMap_singleton']
    _ ~ _ := .of_eq (List.flatMap_congr hone)
    _ ~ _ := (List.flatMap_append_perm deeds _ _).symm
    _ ~ _ := (List.flatMap_append_perm deeds _ _).symm.append_left _

/-- The texts of expected deeds are those of the sources that were read. -/
theorem texts_of_expects :
    deeds.flatMap Deed.texts = textsOn m (deeds.filterMap Deed.path?) := by
  rw [textsOn, List.filterMap_eq_flatMap_toList, List.flatMap_assoc]
  refine List.flatMap_congr fun d hd => ?_
  have hd := h d hd
  cases d with
  | read p answer =>
    obtain rfl : answer = m.read p := hd
    simp [Deed.path?, Deed.readOn]
  | _ => rfl

/-- The files of expected deeds are those of the texts that were generated from. -/
theorem items_of_expects :
    deeds.flatMap Deed.items = plan.filesOf (deeds.filterMap Deed.text?) := by
  rw [filesOf, List.filterMap_eq_flatMap_toList, List.flatMap_assoc]
  refine List.flatMap_congr fun d hd => ?_
  have hd := h d hd
  cases d with
  | generate text outcome =>
    obtain rfl : outcome = plan.generate text := hd
    simp [Deed.text?, Deed.generateBy]
  | _ => rfl

/-- What expected deeds put is the content of files at their places. -/
theorem values_of_expects {e : Path × String} (he : e ∈ deeds.flatMap Deed.values) :
    ∃ item ∈ deeds.filterMap Deed.item?, e = (plan.target item.file, item.file.content) := by
  obtain ⟨d, hd, he⟩ := List.mem_flatMap.1 he
  have hexpects := h d hd
  rcases d with ⟨_, _⟩ | ⟨_, _⟩ | ⟨item, target, _ | _⟩
  · cases he
  · cases he
  · cases he
  · obtain ⟨rfl, -⟩ := hexpects
    exact ⟨item, List.mem_filterMap.2 ⟨_, hd, rfl⟩, List.mem_singleton.1 he⟩

end Expected

/-! ## Runs on a file system in memory -/

/-- What a plan does, and what a file system with the same directories and, at the path that is read,
the same file answers, is what the plan does on the other file system. -/
theorem expects_of_answeredBy {d : Deed} {v : Memory} (hplan : plan.Plans d)
    (hanswer : d.AnsweredBy v) (hdirectories : v.directories = m.directories)
    (hread : ∀ p ∈ d.path?, v.read p = m.read p) : plan.Expects m d := by
  cases d with
  | read p answer => exact Eq.trans hanswer (hread p rfl)
  | generate text outcome => exact hplan
  | write item target answer =>
    exact ⟨hplan, Eq.trans hanswer (Memory.permits_congr hdirectories target)⟩

/-- A file system after some deeds that were expected on another: the files have what the deeds put,
and the directories are the same. -/
structure Tracks (plan : Plan) (m₀ m : Memory) (deeds : List Deed) : Prop where
  expected : ∀ d ∈ deeds, plan.Expects m₀ d
  directories : m.directories = m₀.directories
  files : m.files = m₀.files.putAll (deeds.flatMap Deed.values)

section Runs

variable {m₀ : Memory} {pools : Pools} (hp : pools.validate = .ok ()) {sources : List Path}
  {t : Progress}
include hp

/-- Every file that was to be written was generated from the text of a source. -/
theorem Run.items_subset (h : plan.Run (Progress.start pools sources) deeds t)
    (hexpects : ∀ d ∈ deeds, plan.Expects m d) :
    deeds.filterMap Deed.item? ⊆ plan.filesOf (textsOn m sources) := by
  obtain ⟨hpaths, htexts, hitems⟩ := h.founded hp
  rw [texts_of_expects hexpects] at htexts
  rw [items_of_expects hexpects] at hitems
  have hmono {α β : Type} (f : α → List β) {l l' : List α} (hl : l ⊆ l') :
      l.flatMap f ⊆ l'.flatMap f := by
    intro b hb
    obtain ⟨a, ha, hb⟩ := List.mem_flatMap.1 hb
    exact List.mem_flatMap.2 ⟨a, hl ha, hb⟩
  -- From the sources to the texts to the files, each is among what the one before it gives.
  have htexts' := List.Subset.trans htexts (hmono _ hpaths)
  exact List.Subset.trans hitems (hmono _ htexts')

/-- All deeds of a run are expected on the file system at its start, when no file is written to the
place of a source. -/
theorem RunOn.tracks
    (ha : ∀ item ∈ plan.filesOf (textsOn m₀ sources), ∀ p ∈ sources,
      ¬ (plan.target item.file).Same p)
    (h : plan.RunOn (Progress.start pools sources) m₀ deeds t m) : plan.Tracks m₀ m deeds := by
  obtain ⟨hdirectories, hfiles⟩ := h.leaves
  refine ⟨?_, hdirectories, hfiles⟩
  clear hdirectories hfiles
  induction h with
  | refl => simp
  | @tail deeds deed t u v x h hdoes hv ih =>
    have hrun := (h.tail hdoes hv).run
    obtain ⟨hdirectories, hfiles⟩ := h.leaves
    cases deed with
    | none => simpa using ih
    | some d =>
      -- What was put so far was put at places that are no sources, so a source has its file still.
      have hread : ∀ p ∈ d.path?, v.read p = m₀.read p := by
        intro p hd
        have hsource : p ∈ sources := (hrun.founded hp).1 (by simp [Option.mem_def.1 hd])
        have hget : v.files.get? p = m₀.files.get? p := by
          rw [hfiles]
          refine PathMap.get?_putAll (fun e he => ?_) m₀.files
          obtain ⟨item, hitem, rfl⟩ := values_of_expects ih he
          exact ha item (h.run.items_subset hp ih hitem) p hsource
        simp only [Memory.read, hget]
      obtain ⟨hanswer, -⟩ := Deed.answeredBy_of_happens hv
      have hd := expects_of_answeredBy (hrun.plans d (by simp)) hanswer hdirectories hread
      simpa [or_imp, forall_and] using ⟨ih, hd⟩

/-- The deeds of a completed run are the expected ones, in some order. -/
theorem Run.perm_expected (h : plan.Run (Progress.start pools sources) deeds t)
    (hf : t.isFinished = true) (hexpects : ∀ d ∈ deeds, plan.Expects m d) :
    deeds.Perm (sources.map (Deed.readOn m) ++
      ((textsOn m sources).map (Deed.generateBy plan) ++
        (plan.filesOf (textsOn m sources)).map (Deed.writeOn plan m))) := by
  obtain ⟨hpaths, htexts, hitems, -⟩ := h.settled hp hf
  rw [texts_of_expects hexpects] at htexts
  rw [items_of_expects hexpects] at hitems
  have htexts' := htexts.trans (hpaths.flatMap_right _)
  have hitems' := hitems.trans (htexts'.flatMap_right _)
  exact (perm_of_expects hexpects).trans
    ((hpaths.map _).append ((htexts'.map _).append (hitems'.map _)))

end Runs

/-- Two completed runs of a plan with the same sources, from the same file system in memory, leave
the same files and the same report, with any accepted pools and any orders of turns, when no file is
written to the place of a source and files for one place have one content. -/
theorem completes_same (plan : Plan) {m : Memory} {sources : List Path}
    (ha : ∀ item ∈ plan.filesOf (textsOn m sources), ∀ p ∈ sources,
      ¬ (plan.target item.file).Same p)
    (hb : ∀ item ∈ plan.filesOf (textsOn m sources), ∀ item' ∈ plan.filesOf (textsOn m sources),
      (plan.target item.file).Same (plan.target item'.file) →
        item.file.content = item'.file.content)
    {pools pools' : Pools} {c c' : Conclusion} {m₁ m₂ : Memory}
    (h : plan.Completes pools sources m c m₁) (h' : plan.Completes pools' sources m c' m₂) :
    m₁.files.Same m₂.files ∧ c.report.Same c'.report := by
  obtain ⟨m₀, deeds, t, hm, hrun, hf, rfl⟩ := h.exists_runOn
  obtain ⟨m₀', deeds', t', hm', hrun', hf', rfl⟩ := h'.exists_runOn
  obtain ⟨-, rfl⟩ := Prod.mk.inj (hm.symm.trans hm')
  -- Both runs make the output directory first. It is the same for both and changes no file.
  have htexts : textsOn m sources = textsOn m₀ sources := by
    unfold textsOn Deed.readOn Memory.read
    rw [Memory.files_of_run_makeDirectory hm]
  rw [htexts] at ha hb
  have htracks := hrun.tracks h.1 ha
  have htracks' := hrun'.tracks h'.1 ha
  -- The deeds are those that are expected at the start, for both runs.
  have hperm : deeds.Perm deeds' :=
    (hrun.run.perm_expected h.1 hf htracks.expected).trans
      (hrun'.run.perm_expected h'.1 hf' htracks'.expected).symm
  constructor
  · rw [htracks.files, htracks'.files]
    refine PathMap.Same.putAll (hperm.flatMap_right _) (fun e he e' he' hsame => ?_) m₀.files
    obtain ⟨item, hitem, rfl⟩ := values_of_expects htracks.expected he
    obtain ⟨item', hitem', rfl⟩ := values_of_expects htracks.expected he'
    have hsubset := hrun.run.items_subset h.1 htracks.expected
    exact hb item (hsubset hitem) item' (hsubset hitem') hsame
  · have hevents : t.events.Perm t'.events :=
      (hrun.run.settled h.1 hf).2.2.2.trans
        ((hperm.flatMap_right _).trans (hrun'.run.settled h'.1 hf').2.2.2.symm)
    have hsubmitted : t.submitted = t'.submitted :=
      (hrun.run.submitted_eq h.1 hf).trans (hrun'.run.submitted_eq h'.1 hf').symm
    change (Report.ofEvents t.submitted t.events).Same (Report.ofEvents t'.submitted t'.events)
    rw [hsubmitted]
    exact Report.Same.ofEvents t'.submitted (Event.reordered_of_perm hevents)

/-- Two sources that generate one content for one place under two spellings, with one worker for
each stage and with many. -/
theorem completes_same_spellings :
    let plan : Plan :=
      ⟨fun t => .ok ⟨[⟨if t.text = "a" then "T.cs" else "./T.cs", "test"⟩], []⟩, ⟨"out"⟩⟩
    let m := (Memory.empty.seed ⟨"a.cs"⟩ "a").seed ⟨"b.cs"⟩ "b"
    let sources : List Path := [⟨"a.cs"⟩, ⟨"b.cs"⟩, ⟨"./b.cs"⟩]
    ∃ c c' m₁ m₂,
      plan.Completes ⟨1, 1, 1⟩ sources m c m₁ ∧ plan.Completes ⟨4, 2, 8⟩ sources m c' m₂ ∧
        m₁.files.Same m₂.files ∧ c.report.Same c'.report := by
  intro plan m sources
  have hdirectory := Memory.run_makeDirectory (m := m) (p := ⟨"out"⟩) (by decide)
  have hone : (⟨1, 1, 1⟩ : Pools).validate = .ok () := rfl
  have hmany : (⟨4, 2, 8⟩ : Pools).validate = .ok () := rfl
  obtain ⟨c, m₁, -, h⟩ := plan.run_completes hone sources hdirectory
  obtain ⟨c', m₂, -, h'⟩ := plan.run_completes hmany sources hdirectory
  exact ⟨c, c', m₁, m₂, h, h', completes_same plan (by decide) (by decide) h h'⟩

end Plan

end Scaffold.Pipeline
