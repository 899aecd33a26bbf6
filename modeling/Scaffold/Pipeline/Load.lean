import Scaffold.Pipeline.Steps
import Scaffold.Total

/-!
# The load of a run

How much work is left, stage by stage. The load of a station has two parts: the jobs that are queued
and where its workers are with theirs, and what its workers have in their hands. Telling an event or
handing on a result lowers the second part and leaves the first alone, and every other move lowers
the first. Whatever a step adds to the stations after its own, it lowers the load of its own and
leaves those before it alone. So the loads fall lexicographically (`Plan.Next.lowers`), and every
run ends.
-/

namespace Scaffold.Pipeline

/-! ## Stations -/

/-- Where a worker is with its job. -/
def Worker.load {α β : Type} : Worker α β → Nat
  | gone => 0
  | waiting => 1
  | passing _ _ => 2
  | working _ => 3

/-- The number of events and results in the hands of a worker. -/
def Worker.holding {α β : Type} : Worker α β → Nat
  | passing events results => events.length + results.length
  | _ => 0

namespace Station

variable {α β : Type}

/-- The load of a station. -/
def load (st : Station α β) : Nat × Nat :=
  (3 * st.input.queue.length + total Worker.load st.pool, total Worker.holding st.pool)

/-- The load of one station is lexicographically below that of another. -/
def Lighter (st' st : Station α β) : Prop :=
  Prod.Lex (· < ·) (· < ·) st'.load st.load

variable {st st' : Station α β} {i : Nat} {events : List Event}

theorem Lighter.ofJobs
    (h : 3 * st'.input.queue.length + total Worker.load st'.pool <
      3 * st.input.queue.length + total Worker.load st.pool) : st'.Lighter st :=
  .left _ _ h

theorem Lighter.ofHands
    (hj : 3 * st'.input.queue.length + total Worker.load st'.pool =
      3 * st.input.queue.length + total Worker.load st.pool)
    (h : total Worker.holding st'.pool < total Worker.holding st.pool) : st'.Lighter st := by
  unfold Lighter load
  rw [hj]
  exact .right _ h

/-- Every move takes from the load of its station. -/
theorem Moves.lighter (h : st.Moves i st' events) : st'.Lighter st := by
  cases h with
  | @take job rest hw hq =>
    have hl := total_set Worker.load hw (.working job)
    refine .ofJobs ?_
    simp only [Worker.load, hq, List.length_cons] at hl ⊢
    omega
  | finish hw hq hs =>
    have hl := total_set Worker.load hw .gone
    refine .ofJobs ?_
    simp only [leave, Channel.dropReceiver, Worker.load] at hl ⊢
    omega
  | @tell e events results hw =>
    have hl := total_set Worker.load hw (.passing events results)
    have hh := total_set Worker.holding hw (.passing events results)
    simp only [Worker.load, Worker.holding, List.length_cons] at hl hh
    refine .ofHands ?_ ?_ <;> dsimp only <;> omega
  | rest hw =>
    have hl := total_set Worker.load hw .waiting
    refine .ofJobs ?_
    simp only [Worker.load] at hl ⊢
    omega
  | @hand r results hw hr hroom =>
    have hl := total_set Worker.load hw (.passing [] results)
    have hh := total_set Worker.holding hw (.passing [] results)
    simp only [Worker.load, Worker.holding, List.length_cons] at hl hh
    refine .ofHands ?_ ?_ <;> dsimp only <;> omega
  | quit hw hr =>
    have hl := total_set Worker.load hw .gone
    refine .ofJobs ?_
    simp only [leave, Channel.dropReceiver, Worker.load] at hl ⊢
    omega

/-- Doing a job takes from the load of its station, whatever comes of it. -/
theorem lighter_of_working (st : Station α β) {job : α} {w : Worker α β}
    (hw : st.pool[i]? = some (.working job)) (h : w.load < 3) :
    { st with pool := st.pool.set i w }.Lighter st := by
  have hl := total_set Worker.load hw w
  rw [show (Worker.working job : Worker α β).load = 3 from rfl] at hl
  refine .ofJobs ?_
  dsimp only
  omega

end Station

theorem Reader.load_after (path : Path) (answer : Except Fault String) :
    (Reader.after path answer).load = 2 := by
  cases answer <;> rfl

theorem Generator.load_after (path : Path) (outcome : Except Fault Generated) :
    (Generator.after path outcome).load = 2 := by
  cases outcome <;> rfl

theorem Writer.load_after (source target : Path) (answer : Except Fault Unit) :
    (Writer.after source target answer).load = 2 := by
  cases answer <;> rfl

/-! ## Runs -/

namespace Progress

/-- The load of the submitter. -/
def submittingLoad (s : Progress) : Nat :=
  s.pending.length + s.submitting.toNat

/-- The loads of the stages, first stage first. -/
def load (s : Progress) : Nat × (Nat × Nat) × (Nat × Nat) × (Nat × Nat) :=
  (s.submittingLoad, s.reading.load, s.generating.load, s.writing.load)

/-- The load of one state is lexicographically below that of another. -/
def Lighter (t s : Progress) : Prop :=
  Prod.Lex (· < ·)
    (Prod.Lex (Prod.Lex (· < ·) (· < ·))
      (Prod.Lex (Prod.Lex (· < ·) (· < ·)) (Prod.Lex (· < ·) (· < ·)))) t.load s.load

/-- No sequence of states gets lighter for ever. -/
theorem lighter_wellFounded : WellFounded Lighter :=
  InvImage.wf load WellFoundedRelation.wf

variable {s t : Progress}

theorem Lighter.ofSubmitting (h : t.submittingLoad < s.submittingLoad) : t.Lighter s :=
  .left _ _ h

theorem Lighter.ofReading (hs : t.submittingLoad = s.submittingLoad)
    (h : t.reading.Lighter s.reading) : t.Lighter s := by
  unfold Lighter load
  rw [hs]
  exact .right _ (.left _ _ h)

theorem Lighter.ofGenerating (hs : t.submittingLoad = s.submittingLoad)
    (hr : t.reading.load = s.reading.load) (h : t.generating.Lighter s.generating) :
    t.Lighter s := by
  unfold Lighter load
  rw [hs, hr]
  exact .right _ (.right _ (.left _ _ h))

theorem Lighter.ofWriting (hs : t.submittingLoad = s.submittingLoad)
    (hr : t.reading.load = s.reading.load) (hg : t.generating.load = s.generating.load)
    (h : t.writing.Lighter s.writing) : t.Lighter s := by
  unfold Lighter load
  rw [hs, hr, hg]
  exact .right _ (.right _ (.right _ h))

end Progress

namespace Plan

variable {plan : Plan} {s t : Progress} {deed : Option Deed}

/-- Every step takes from the load of a run, whatever the file system answers. -/
theorem Step.lighter (h : plan.Step s deed t) : t.Lighter s := by
  cases h with
  | submit hs hp hr hroom => exact .ofSubmitting (by simp [Progress.submittingLoad, hp])
  | abandon hs hp hr =>
    exact .ofSubmitting (by simp [Progress.submittingLoad, Progress.stopSubmitting, hs])
  | stop hs hp =>
    exact .ofSubmitting (by simp [Progress.submittingLoad, Progress.stopSubmitting, hs])
  | reader h => exact .ofReading rfl h.lighter
  | read hw answer =>
    exact .ofReading rfl (s.reading.lighter_of_working hw (by simp [Reader.load_after]))
  | generator h => exact .ofGenerating rfl rfl h.lighter
  | generate hw =>
    exact .ofGenerating rfl rfl
      (s.generating.lighter_of_working hw (by simp [Generator.load_after]))
  | writer h => exact .ofWriting rfl rfl rfl h.lighter
  | write hw answer =>
    exact .ofWriting rfl rfl rfl (s.writing.lighter_of_working hw (by simp [Writer.load_after]))

/-- Every turn of every actor takes from the load of a run. -/
theorem Next.lowers (h : plan.Next s t) : t.Lighter s := by
  obtain ⟨deed, h⟩ := h
  exact h.step.lighter

end Plan

end Scaffold.Pipeline
