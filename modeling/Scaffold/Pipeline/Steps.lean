import Scaffold.Pipeline.Machine

/-!
# The steps of a run

What a turn can do, rule by rule. `Station.Moves` has the rules of a worker at any station, and
`Plan.Step` those of a run, in which a rule of a station counts for each of the three. They are what
the machine does (`Station.moves_iff`, `Plan.does_iff`), so a proof about turns goes by the rules
and never through the machine.
-/

namespace Scaffold.Pipeline

namespace Channel

variable {α : Type} {c c' : Channel α} {a : α}

theorem receive_eq_done :
    c.receive = .done (a, c') ↔ ∃ rest, c.queue = a :: rest ∧ c' = { c with queue := rest } := by
  unfold receive
  split
  · rename_i b rest hq
    simp only [Attempt.done.injEq, Prod.mk.injEq, hq, List.cons.injEq]
    constructor
    · rintro ⟨rfl, rfl⟩
      exact ⟨rest, ⟨rfl, rfl⟩, rfl⟩
    · rintro ⟨_, ⟨rfl, rfl⟩, rfl⟩
      exact ⟨rfl, rfl⟩
  · rename_i hq
    split <;> simp [hq]

theorem receive_eq_closed : c.receive = .closed ↔ c.queue = [] ∧ c.senders = 0 := by
  unfold receive
  split
  · rename_i hq
    simp [hq]
  · rename_i hq
    split <;> simp [*]

theorem send_eq_done :
    c.send a = .done c' ↔
      0 < c.receivers ∧ c.queue.length < c.capacity ∧ c' = { c with queue := c.queue ++ [a] } := by
  unfold send
  split
  · simp only [reduceCtorEq, false_iff]
    omega
  · split
    · simp only [reduceCtorEq, false_iff]
      omega
    · simp only [Attempt.done.injEq, eq_comm (a := c')]
      constructor
      · exact fun h => ⟨by omega, by omega, h⟩
      · exact fun h => h.2.2

theorem send_eq_closed : c.send a = .closed ↔ c.receivers = 0 := by
  unfold send
  split
  · simp [*]
  · split <;> simp [*]

end Channel

namespace Station

variable {α β : Type} {st st' : Station α β} {i : Nat} {events : List Event}

/-- Worker `i` moves without doing a job: the station becomes another one, and events are told. -/
inductive Moves (st : Station α β) (i : Nat) : Station α β → List Event → Prop where
  /-- Receives a job. -/
  | take {job : α} {rest : List α} (hw : st.pool[i]? = some .waiting)
      (hq : st.input.queue = job :: rest) :
    Moves st i
      { st with input := { st.input with queue := rest }, pool := st.pool.set i (.working job) } []
  /-- Leaves, since no job will come. -/
  | finish (hw : st.pool[i]? = some .waiting) (hq : st.input.queue = [])
      (hs : st.input.senders = 0) :
    Moves st i (st.leave i) []
  /-- Tells an event. -/
  | tell {e : Event} {events : List Event} {results : List β}
      (hw : st.pool[i]? = some (.passing (e :: events) results)) :
    Moves st i { st with pool := st.pool.set i (.passing events results) } [e]
  /-- Waits again. -/
  | rest (hw : st.pool[i]? = some (.passing [] [])) :
    Moves st i { st with pool := st.pool.set i .waiting } []
  /-- Hands on a result. -/
  | hand {r : β} {results : List β} (hw : st.pool[i]? = some (.passing [] (r :: results)))
      (hr : 0 < st.output.receivers) (hroom : st.output.queue.length < st.output.capacity) :
    Moves st i
      { st with
        pool := st.pool.set i (.passing [] results)
        output := { st.output with queue := st.output.queue ++ [r] } } []
  /-- Leaves with a result, since nobody will take it. -/
  | quit {r : β} {results : List β} (hw : st.pool[i]? = some (.passing [] (r :: results)))
      (hr : st.output.receivers = 0) :
    Moves st i (st.leave i) []

/-- The rules are the moves without a job. -/
theorem moves_iff : st.Moves i st' events ↔ st.move? i = some (.step st' events) := by
  constructor
  · rintro (⟨hw, hq⟩ | ⟨hw, hq, hs⟩ | hw | hw | ⟨hw, hr, hroom⟩ | ⟨hw, hr⟩)
    · simp [move?, hw, Channel.receive_eq_done.2 ⟨_, hq, rfl⟩]
    · simp [move?, hw, Channel.receive_eq_closed.2 ⟨hq, hs⟩]
    · simp [move?, hw]
    · simp [move?, hw]
    · simp [move?, hw, Channel.send_eq_done.2 ⟨hr, hroom, rfl⟩]
    · simp [move?, hw, Channel.send_eq_closed.2 hr]
  · intro h
    unfold move? at h
    split at h
    · cases h
    · cases h
    -- A worker that waits can move when there is a job for it, or when none will come.
    · rename_i hw
      split at h <;> cases h
      · rename_i hr
        obtain ⟨_, hq, rfl⟩ := Channel.receive_eq_done.1 hr
        exact .take hw hq
      · rename_i hr
        obtain ⟨hq, hs⟩ := Channel.receive_eq_closed.1 hr
        exact .finish hw hq hs
    · cases h
    · rename_i hw
      cases h
      exact .tell hw
    · rename_i hw
      cases h
      exact .rest hw
    -- A worker with a result can move when there is room for it, or when nobody will take it.
    · rename_i hw
      split at h <;> cases h
      · rename_i hs
        obtain ⟨hr, hroom, rfl⟩ := Channel.send_eq_done.1 hs
        exact .hand hw hr hroom
      · rename_i hs
        exact .quit hw (Channel.send_eq_closed.1 hs)

/-- A worker does a job exactly when it has one. -/
theorem move?_eq_work {job : α} :
    st.move? i = some (.work job) ↔ st.pool[i]? = some (.working job) := by
  constructor
  · intro h
    unfold move? at h
    split at h
    · cases h
    · cases h
    · split at h <;> cases h
    · rename_i hw
      cases h
      exact hw
    · cases h
    · cases h
    · split at h <;> cases h
  · intro hw
    simp [move?, hw]

end Station

namespace Plan

variable {plan : Plan} {s t : Progress} {deed : Option Deed}

/-- A run goes from one state to another and does the job that is given, if any. -/
inductive Step (plan : Plan) (s : Progress) : Option Deed → Progress → Prop where
  /-- The submitter hands over a source. -/
  | submit {p : Path} {rest : List Path} (hs : s.submitting = true) (hp : s.pending = p :: rest)
      (hr : 0 < s.paths.receivers) (hroom : s.paths.queue.length < s.paths.capacity) :
    Step plan s none
      { s with
        pending := rest
        submitted := s.submitted + 1
        paths := { s.paths with queue := s.paths.queue ++ [p] } }
  /-- The submitter leaves with a source, since nobody will take it. -/
  | abandon {p : Path} {rest : List Path} (hs : s.submitting = true) (hp : s.pending = p :: rest)
      (hr : s.paths.receivers = 0) :
    Step plan s none s.stopSubmitting
  /-- The submitter leaves after the last source. -/
  | stop (hs : s.submitting = true) (hp : s.pending = []) : Step plan s none s.stopSubmitting
  | reader {i : Nat} {st : Station Path SourceText} {events : List Event}
      (h : s.reading.Moves i st events) :
    Step plan s none (s.withReading st events)
  | read {i : Nat} {path : Path} (hw : s.readers[i]? = some (.working path))
      (answer : Except Fault String) :
    Step plan s (some (.read path answer)) (s.afterRead i path answer)
  | generator {i : Nat} {st : Station SourceText WriteItem} {events : List Event}
      (h : s.generating.Moves i st events) :
    Step plan s none (s.withGenerating st events)
  | generate {i : Nat} {text : SourceText} (hw : s.generators[i]? = some (.working text)) :
    Step plan s (some (.generate text (plan.generate text)))
      (s.afterGeneration i text.path (plan.generate text))
  | writer {i : Nat} {st : Station WriteItem Empty} {events : List Event}
      (h : s.writing.Moves i st events) :
    Step plan s none (s.withWriting st events)
  | write {i : Nat} {item : WriteItem} (hw : s.writers[i]? = some (.working item))
      (answer : Except Fault Unit) :
    Step plan s (some (.write item (plan.target item.file) answer))
      (s.afterWrite i item.source (plan.target item.file) answer)

/-- Whatever a turn does, a rule allows. -/
theorem Does.step (h : plan.Does s deed t) : plan.Step s deed t := by
  obtain ⟨actor, turn, h, ht⟩ := h
  cases actor with
  | submitter =>
    simp only [turn?, submitterTurn?] at h
    split at h
    · cases h
    · rename_i hs
      have hs : s.submitting = true := by simpa using hs
      split at h
      · rename_i hp
        cases h
        cases ht
        exact .stop hs hp
      · rename_i hp
        split at h <;> cases h <;> cases ht
        · rename_i hsend
          obtain ⟨hr, hroom, rfl⟩ := Channel.send_eq_done.1 hsend
          exact .submit hs hp hr hroom
        · rename_i hsend
          exact .abandon hs hp (Channel.send_eq_closed.1 hsend)
  | reader i =>
    obtain ⟨move, hm, rfl⟩ := Option.map_eq_some_iff.1 h
    cases move with
    | step st events =>
      cases ht
      exact .reader (Station.moves_iff.2 hm)
    | work path =>
      cases ht
      exact .read (Station.move?_eq_work.1 hm) _
  | generator i =>
    obtain ⟨move, hm, rfl⟩ := Option.map_eq_some_iff.1 h
    cases move with
    | step st events =>
      cases ht
      exact .generator (Station.moves_iff.2 hm)
    | work text =>
      cases ht
      exact .generate (Station.move?_eq_work.1 hm)
  | writer i =>
    obtain ⟨move, hm, rfl⟩ := Option.map_eq_some_iff.1 h
    cases move with
    | step st events =>
      cases ht
      exact .writer (Station.moves_iff.2 hm)
    | work item =>
      cases ht
      exact .write (Station.move?_eq_work.1 hm) _

/-- Whatever a rule allows, some turn does. -/
theorem Step.does (h : plan.Step s deed t) : plan.Does s deed t := by
  cases h with
  | submit hs hp hr hroom =>
    exact ⟨.submitter, _,
      by simp [turn?, submitterTurn?, hs, hp, Channel.send_eq_done.2 ⟨hr, hroom, rfl⟩], .step _⟩
  | abandon hs hp hr =>
    exact ⟨.submitter, _,
      by simp [turn?, submitterTurn?, hs, hp, Channel.send_eq_closed.2 hr], .step _⟩
  | stop hs hp => exact ⟨.submitter, _, by simp [turn?, submitterTurn?, hs, hp], .step _⟩
  | @reader i _ _ h =>
    exact ⟨.reader i, _, by simp [turn?, readerTurn?, Station.moves_iff.1 h], .step _⟩
  | @read i path hw answer =>
    have hm : s.reading.move? i = some (.work path) := Station.move?_eq_work.2 hw
    exact ⟨.reader i, _, by simp [turn?, readerTurn?, hm], .read _ _ answer⟩
  | @generator i _ _ h =>
    exact ⟨.generator i, _, by simp [turn?, generatorTurn?, Station.moves_iff.1 h], .step _⟩
  | @generate i text hw =>
    have hm : s.generating.move? i = some (.work text) := Station.move?_eq_work.2 hw
    exact ⟨.generator i, _, by simp [turn?, generatorTurn?, hm], .generate _ _ _⟩
  | @writer i _ _ h =>
    exact ⟨.writer i, _, by simp [turn?, writerTurn?, Station.moves_iff.1 h], .step _⟩
  | @write i item hw answer =>
    have hm : s.writing.move? i = some (.work item) := Station.move?_eq_work.2 hw
    exact ⟨.writer i, _, by simp [turn?, writerTurn?, hm], .write _ _ _ answer⟩

/-- The rules are what turns do. -/
theorem does_iff : plan.Does s deed t ↔ plan.Step s deed t :=
  ⟨Does.step, Step.does⟩

end Plan

end Scaffold.Pipeline
