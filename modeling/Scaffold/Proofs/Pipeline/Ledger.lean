import Mathlib.Data.List.Perm.Subperm
import Scaffold.Pipeline.Run
import Scaffold.Proofs.Pipeline.Handover

/-!
# What a run does with its sources

`Plan.Run` keeps the jobs of a run, its deeds, with what came of each. The ledger of a run balances
(`Plan.Run.balance`): what its channels and workers hold and what it has told, with what its deeds
used up, is what it was given, with what its deeds made. At the end nothing is held any more. So
every source was read once, every text that was read was generated from once, every file that was
generated was written once, and the events are those of the deeds (`Plan.Run.settled`).

The law of one step is proved by counting each piece. That nobody leaves with a piece in hand is the
invariant of `Handover`.
-/

namespace Scaffold.Pipeline

/-! ## Deeds -/

namespace Deed

/-- The path that was read. -/
def path? : Deed → Option Path
  | read path _ => some path
  | _ => none

/-- The text that was generated from. -/
def text? : Deed → Option SourceText
  | generate text _ => some text
  | _ => none

/-- The file that was to be written. -/
def item? : Deed → Option WriteItem
  | write item _ _ => some item
  | _ => none

/-- The place where it was to be written. -/
def target? : Deed → Option Path
  | write _ target _ => some target
  | _ => none

/-- The text that came of it. -/
def texts : Deed → List SourceText
  | read path (.ok text) => [⟨path, text⟩]
  | _ => []

/-- What was generated. -/
def outputs : Deed → List Generated
  | generate _ (.ok g) => [g]
  | _ => []

/-- The files that came of it. -/
def items : Deed → List WriteItem
  | generate text (.ok g) => g.files.map (WriteItem.mk text.path)
  | _ => []

/-- The events that are told of it. -/
def events : Deed → List Event
  | read _ (.ok _) => []
  | read path (.error f) => [.failed (.ofFault path .read f)]
  | generate text (.ok g) => generationEvents text.path g
  | generate text (.error f) => [.failed (.ofFault text.path .parse f)]
  | write item target (.ok ()) => [.written item.source target]
  | write _ target (.error f) => [.failed (.ofFault target .write f)]

end Deed

namespace Plan

/-- A run leads from one state to another, with its deeds in order. -/
inductive Run (plan : Plan) (s : Progress) : List Deed → Progress → Prop where
  | refl : Run plan s [] s
  | tail {deeds : List Deed} {deed : Option Deed} {t u : Progress} (h : Run plan s deeds t)
      (hdoes : plan.Does t deed u) : Run plan s (deeds ++ deed.toList) u

variable {plan : Plan} {s t : Progress} {deeds : List Deed}

theorem Run.leads (h : plan.Run s deeds t) : plan.Leads s t := by
  induction h with
  | refl => exact .refl
  | tail _ hdoes ih => exact .tail ih ⟨_, hdoes⟩

variable (plan) in
/-- A deed goes by the plan: it generates what the plan generates, or writes a file to its place. -/
def Plans : Deed → Prop
  | .read _ _ => True
  | .generate text outcome => outcome = plan.generate text
  | .write item target _ => target = plan.target item.file

/-- All deeds of a run go by its plan. -/
theorem Run.plans (h : plan.Run s deeds t) : ∀ d ∈ deeds, plan.Plans d := by
  induction h with
  | refl => simp
  | tail _ hdoes ih =>
    intro d hd
    rcases List.mem_append.1 hd with hd | hd
    · exact ih d hd
    · cases hdoes.step with
      | read hw answer =>
        obtain rfl : d = _ := by simpa using hd
        trivial
      | generate hw =>
        obtain rfl : d = _ := by simpa using hd
        rfl
      | write hw answer =>
        obtain rfl : d = _ := by simpa using hd
        rfl
      | _ => simp at hd

end Plan

/-! ## Pieces -/

/-- What a channel or a worker can hold, or a run can tell. -/
inductive Piece where
  | path (p : Path)
  | text (t : SourceText)
  | item (item : WriteItem)
  | event (e : Event)
deriving DecidableEq

namespace Piece

/-- The path that a piece is. -/
def path? : Piece → Option Path
  | path p => some p
  | _ => none

/-- The text that a piece is. -/
def text? : Piece → Option SourceText
  | text t => some t
  | _ => none

/-- The file that a piece is. -/
def item? : Piece → Option WriteItem
  | item i => some i
  | _ => none

/-- The event that a piece is. -/
def event? : Piece → Option Event
  | event e => some e
  | _ => none

end Piece

/-- What a worker holds, when its jobs and its results are the given pieces. -/
def Worker.pieces {α β : Type} (job : α → Piece) (result : β → Piece) : Worker α β → List Piece
  | working a => [job a]
  | passing events results => events.map .event ++ results.map result
  | _ => []

/-- What a station and its channels hold. -/
def Station.pieces {α β : Type} (st : Station α β) (job : α → Piece) (result : β → Piece) :
    List Piece :=
  st.input.queue.map job ++ st.pool.flatMap (Worker.pieces job result) ++ st.output.queue.map result

/-- What a run holds and what it has told. -/
def Progress.pieces (s : Progress) : List Piece :=
  s.pending.map .path ++ s.paths.queue.map .path ++ s.readers.flatMap (Worker.pieces .path .text) ++
    s.texts.queue.map .text ++ s.generators.flatMap (Worker.pieces .text .item) ++
    s.items.queue.map .item ++ s.writers.flatMap (Worker.pieces .item Empty.elim) ++
    s.events.map .event

/-- What a deed uses up. -/
def Deed.used : Deed → Piece
  | read path _ => .path path
  | generate text _ => .text text
  | write item _ _ => .item item

/-- What a deed makes. -/
def Deed.made (d : Deed) : List Piece :=
  d.events.map .event ++ d.texts.map .text ++ d.items.map .item

/-- Putting a worker in the place of another adds what the one holds and takes what the other held.
-/
theorem count_pieces_set {α β : Type} (job : α → Piece) (result : β → Piece) (x : Piece)
    {pool : List (Worker α β)} {i : Nat} {w : Worker α β} (hw : pool[i]? = some w)
    (w' : Worker α β) :
    ((pool.set i w').flatMap (Worker.pieces job result)).count x +
        (w.pieces job result).count x =
      (pool.flatMap (Worker.pieces job result)).count x + (w'.pieces job result).count x := by
  simp only [List.count, countP_flatMap]
  exact total_set (fun w => (w.pieces job result).countP (· == x)) hw w'

/-- A move of a station keeps its pieces, with the events that it tells, where its results are
taken. -/
theorem Station.Moves.count_pieces {α β : Type} (job : α → Piece) (result : β → Piece) (x : Piece)
    {st st' : Station α β} {i : Nat} {events : List Event} (h : st.Moves i st' events)
    (ho : β → 0 < st.output.receivers) :
    (st'.pieces job result).count x + (events.map .event).count x =
      (st.pieces job result).count x := by
  have hset {w : Worker α β} (hw : st.pool[i]? = some w) :=
    count_pieces_set job result x hw
  -- Each move takes a piece from a queue or a worker and gives it to another or tells it. Only the
  -- last loses one, and it is ruled out where results are taken.
  cases h with
  | @take a _ hw hq =>
    have := hset hw (.working a)
    simp only [Station.pieces, Worker.pieces, hq, List.count_append, List.map_cons, List.map_nil,
      List.count_cons, List.count_nil] at this ⊢
    omega
  | finish hw =>
    have := hset hw .gone
    simp only [Station.pieces, Worker.pieces, leave, Channel.dropReceiver, Channel.dropSender,
      List.count_append, List.map_nil, List.count_nil] at this ⊢
    omega
  | @tell e events results hw =>
    have := hset hw (.passing events results)
    simp only [Station.pieces, Worker.pieces, List.count_append, List.map_cons, List.map_nil,
      List.count_cons, List.count_nil] at this ⊢
    omega
  | rest hw =>
    have := hset hw .waiting
    simp only [Station.pieces, Worker.pieces, List.count_append, List.map_nil,
      List.count_nil] at this ⊢
    omega
  | @hand r results hw =>
    have := hset hw (.passing [] results)
    simp only [Station.pieces, Worker.pieces, List.count_append, List.map_append, List.map_cons,
      List.map_nil, List.count_cons, List.count_nil] at this ⊢
    omega
  | @quit r _ _ hr => exact absurd hr (ho r).ne'

theorem Reader.pieces_after (path : Path) (answer : Except Fault String) :
    (Reader.after path answer).pieces .path .text = (Deed.read path answer).made := by
  cases answer <;> rfl

theorem Generator.pieces_after (text : SourceText) (outcome : Except Fault Generated) :
    (Generator.after text.path outcome).pieces .text .item = (Deed.generate text outcome).made := by
  cases outcome <;> simp [Generator.after, Worker.pieces, Deed.made, Deed.events, Deed.texts,
    Deed.items]

theorem Writer.pieces_after (item : WriteItem) (target : Path) (answer : Except Fault Unit) :
    (Writer.after item.source target answer).pieces .item Empty.elim =
      (Deed.write item target answer).made := by
  cases answer <;> rfl

/-! ## The balance -/

namespace Plan

variable {plan : Plan} {s t : Progress} {deeds : List Deed}

/-- A step of an orderly run exchanges what its deed uses up for what its deed makes. -/
theorem Step.count_pieces {deed : Option Deed} (h : plan.Step s deed t) (hs : s.Orderly)
    (x : Piece) :
    t.pieces.count x + (deed.toList.map Deed.used).count x =
      s.pieces.count x + (deed.toList.flatMap Deed.made).count x := by
  cases h with
  | submit _ hp =>
    simp only [Progress.pieces, hp, List.count_append, List.map_append, List.map_cons, List.map_nil,
      List.count_cons, List.count_nil, Option.toList_none, List.flatMap_nil]
    omega
  | abandon _ hp hr =>
    -- The submitter does not give up a source, since there is a reader for it.
    have := hs.readers_pos (by simp [hp])
    rw [hs.pathReceivers] at hr
    omega
  | stop => rfl
  | reader hm =>
    have hgenerator := hs.generators_pos hm.present_pos
    rw [← hs.textReceivers] at hgenerator
    have := hm.count_pieces .path .text x (fun _ => hgenerator)
    simp only [Station.pieces, Progress.reading, Progress.pieces, Progress.withReading,
      List.count_append, List.map_append, List.map_nil, List.count_nil, Option.toList_none,
      List.flatMap_nil] at this ⊢
    omega
  | @read i path hw answer =>
    have := count_pieces_set .path .text x hw (Reader.after path answer)
    rw [Reader.pieces_after] at this
    simp only [Progress.pieces, Progress.afterRead, Progress.note, Worker.pieces, List.count_append,
      Option.toList_some, List.map_cons, List.map_nil, List.flatMap_cons, List.flatMap_nil,
      Deed.used, List.append_nil] at this ⊢
    omega
  | generator hm =>
    have hwriter := hs.writers_pos hm.present_pos
    rw [← hs.itemReceivers] at hwriter
    have := hm.count_pieces .text .item x (fun _ => hwriter)
    simp only [Station.pieces, Progress.generating, Progress.pieces, Progress.withGenerating,
      List.count_append, List.map_append, List.map_nil, List.count_nil, Option.toList_none,
      List.flatMap_nil] at this ⊢
    omega
  | @generate i text hw =>
    have := count_pieces_set .text .item x hw (Generator.after text.path (plan.generate text))
    rw [Generator.pieces_after] at this
    simp only [Progress.pieces, Progress.afterGeneration, Progress.note, Worker.pieces,
      List.count_append, Option.toList_some, List.map_cons, List.map_nil, List.flatMap_cons,
      List.flatMap_nil, Deed.used, List.append_nil] at this ⊢
    omega
  | @writer i st events hm =>
    -- The output of the last station has no entries, since there are no results to put there.
    have hnone : st.output.queue = [] := List.eq_nil_iff_forall_not_mem.2 fun r => r.elim
    have := hm.count_pieces .item Empty.elim x (fun r => r.elim)
    simp only [Station.pieces, Progress.writing, Progress.pieces, Progress.withWriting, hnone,
      List.count_append, List.map_append, List.map_nil, List.count_nil, Option.toList_none,
      List.flatMap_nil] at this ⊢
    omega
  | @write i item hw answer =>
    have := count_pieces_set .item Empty.elim x hw
      (Writer.after item.source (plan.target item.file) answer)
    rw [Writer.pieces_after] at this
    simp only [Progress.pieces, Progress.afterWrite, Progress.note, Worker.pieces,
      List.count_append, Option.toList_some, List.map_cons, List.map_nil, List.flatMap_cons,
      List.flatMap_nil, Deed.used, List.append_nil] at this ⊢
    omega

/-- A run with accepted pools stays orderly. -/
theorem Run.orderly {pools : Pools} (hp : pools.validate = .ok ()) {sources : List Path}
    (h : plan.Run (Progress.start pools sources) deeds t) : t.Orderly :=
  (h.leads.orderly hp).1

/-- A run that has ended has handed over every source. -/
theorem Run.submitted_eq {pools : Pools} (hp : pools.validate = .ok ()) {sources : List Path}
    (h : plan.Run (Progress.start pools sources) deeds t) (hf : t.isFinished = true) :
    t.submitted = sources.length := by
  obtain ⟨horderly, hcount⟩ := h.leads.orderly hp
  rw [(horderly.drained hf).1] at hcount
  exact hcount

theorem pieces_start (pools : Pools) (sources : List Path) :
    (Progress.start pools sources).pieces = sources.map .path := by
  simp [Progress.pieces, Progress.start, Channel.ofCapacity, Channel.share, Channel.dropSender,
    Channel.dropReceiver, List.flatMap_replicate, Worker.pieces]

/-- The ledger of a run balances. -/
theorem Run.balance {pools : Pools} (hp : pools.validate = .ok ()) {sources : List Path}
    (h : plan.Run (Progress.start pools sources) deeds t) :
    (t.pieces ++ deeds.map Deed.used).Perm (sources.map .path ++ deeds.flatMap Deed.made) := by
  -- Each piece is counted, and the counts are added up along the run. The law of a step holds of
  -- orderly states only, so the induction is on a run that begins at the start.
  rw [List.perm_iff_count]
  intro x
  rw [List.count_append, List.count_append]
  induction h with
  | refl => rw [pieces_start]; rfl
  | tail h hdoes ih =>
    have hstep := hdoes.step.count_pieces (h.orderly hp) x
    rw [List.map_append, List.flatMap_append, List.count_append, List.count_append]
    omega

/-! ## What the balance says -/

section Projections

variable {pools : Pools} (hp : pools.validate = .ok ()) {sources : List Path}
  (h : plan.Run (Progress.start pools sources) deeds t)
include hp h

/-- The balance for the pieces that `view` picks. -/
theorem Run.balance_filterMap {γ : Type} (view : Piece → Option γ) {used : Deed → Option γ}
    {made : Deed → List γ} (hused : ∀ d, view d.used = used d)
    (hmade : ∀ d, d.made.filterMap view = made d) :
    (t.pieces.filterMap view ++ deeds.filterMap used).Perm
      (sources.filterMap (view ∘ .path) ++ deeds.flatMap made) := by
  have hbalance := (h.balance hp).filterMap view
  rw [List.filterMap_append, List.filterMap_append, List.filterMap_map, List.filterMap_map,
    List.filterMap_flatMap] at hbalance
  rw [show used = view ∘ Deed.used from funext fun d => (hused d).symm,
    show made = fun d => d.made.filterMap view from funext fun d => (hmade d).symm]
  exact hbalance

/-- Every source is held as a path or was read. -/
theorem Run.balance_paths :
    (t.pieces.filterMap Piece.path? ++ deeds.filterMap Deed.path?).Perm sources := by
  have hused (d : Deed) : d.used.path? = d.path? := by cases d <;> rfl
  have hmade (d : Deed) : d.made.filterMap Piece.path? = [] := by
    simp [Deed.made, Piece.path?]
  have hnone : deeds.flatMap (fun _ => ([] : List Path)) = [] :=
    List.flatMap_eq_nil_iff.2 fun _ _ => rfl
  simpa [Function.comp_def, Piece.path?, hnone] using
    h.balance_filterMap hp Piece.path? hused hmade

/-- Every text that was read is held or was generated from. -/
theorem Run.balance_texts :
    (t.pieces.filterMap Piece.text? ++ deeds.filterMap Deed.text?).Perm
      (deeds.flatMap Deed.texts) := by
  have hused (d : Deed) : d.used.text? = d.text? := by cases d <;> rfl
  have hmade (d : Deed) : d.made.filterMap Piece.text? = d.texts := by
    simp [Deed.made, Piece.text?, List.filterMap_map, Function.comp_def]
  simpa [Function.comp_def, Piece.text?] using h.balance_filterMap hp Piece.text? hused hmade

/-- Every file that was generated is held or was written. -/
theorem Run.balance_items :
    (t.pieces.filterMap Piece.item? ++ deeds.filterMap Deed.item?).Perm
      (deeds.flatMap Deed.items) := by
  have hused (d : Deed) : d.used.item? = d.item? := by cases d <;> rfl
  have hmade (d : Deed) : d.made.filterMap Piece.item? = d.items := by
    simp [Deed.made, Piece.item?, List.filterMap_map, Function.comp_def]
  simpa [Function.comp_def, Piece.item?] using h.balance_filterMap hp Piece.item? hused hmade

/-- The events that are told or will be are those of the deeds. -/
theorem Run.balance_events :
    (t.pieces.filterMap Piece.event?).Perm (deeds.flatMap Deed.events) := by
  have hused (d : Deed) : d.used.event? = none := by cases d <;> rfl
  have hmade (d : Deed) : d.made.filterMap Piece.event? = d.events := by
    simp [Deed.made, Piece.event?, List.filterMap_map, Function.comp_def]
  simpa [Function.comp_def, Piece.event?] using h.balance_filterMap hp Piece.event? hused hmade

/-- Nothing was read that is no source, nothing generated from that was not read, and nothing
written that was not generated. -/
theorem Run.founded :
    deeds.filterMap Deed.path? ⊆ sources ∧
      deeds.filterMap Deed.text? ⊆ deeds.flatMap Deed.texts ∧
      deeds.filterMap Deed.item? ⊆ deeds.flatMap Deed.items :=
  ⟨fun _ hd => (h.balance_paths hp).subset (List.mem_append_right _ hd),
    fun _ hd => (h.balance_texts hp).subset (List.mem_append_right _ hd),
    fun _ hd => (h.balance_items hp).subset (List.mem_append_right _ hd)⟩

/-- At the end nothing is held, and what was told is all there is. -/
theorem Run.pieces_eq (hf : t.isFinished = true) : t.pieces = t.events.map .event := by
  obtain ⟨hpending, hpaths, htexts, hitems⟩ := (h.orderly hp).drained hf
  -- Whoever has left holds nothing.
  have hgone {α β : Type} (job : α → Piece) (result : β → Piece) {pool : List (Worker α β)}
      (hpool : Worker.present pool = 0) : pool.flatMap (Worker.pieces job result) = [] := by
    rw [Worker.present_eq_zero, List.all_eq_true] at hpool
    rw [List.flatMap_eq_nil_iff]
    intro w hw
    have := hpool w hw
    cases w with
    | gone => rfl
    | _ => simp [Worker.isGone] at this
  obtain ⟨-, hr, hg, hw⟩ := Progress.isFinished_iff.1 hf
  simp [Progress.pieces, hpending, hpaths, htexts, hitems, hgone _ _ hr, hgone _ _ hg,
    hgone _ _ hw]

/-- At the end every source was read once, every text that was read was generated from once, every
file that was generated was written once, and the events of the deeds were told once. -/
theorem Run.settled (hf : t.isFinished = true) :
    (deeds.filterMap Deed.path?).Perm sources ∧
      (deeds.filterMap Deed.text?).Perm (deeds.flatMap Deed.texts) ∧
      (deeds.filterMap Deed.item?).Perm (deeds.flatMap Deed.items) ∧
      t.events.Perm (deeds.flatMap Deed.events) := by
  have hpieces := h.pieces_eq hp hf
  refine ⟨?_, ?_, ?_, ?_⟩
  · simpa [hpieces, Piece.path?, Function.comp_def] using h.balance_paths hp
  · simpa [hpieces, Piece.text?, Function.comp_def] using h.balance_texts hp
  · simpa [hpieces, Piece.item?, Function.comp_def] using h.balance_items hp
  · simpa [hpieces, Piece.event?, Function.comp_def] using h.balance_events hp

end Projections

end Plan

end Scaffold.Pipeline
