import Scaffold.Proofs.Pipeline.Ledger

/-!
# Runs on a file system

On a file system an order of turns decides everything else: a turn asks for one thing and goes on
with the answer (`Plan.NextOn`). `Plan.Completes` says what a completed run leaves behind, under
some order of turns. The order that `Plan.run` takes is one of them, and it comes to an end
(`Plan.run_completes`).

A run on a file system is a run with deeds that happen there (`Plan.RunOn`), so the ledger holds of
it.
-/

namespace Scaffold.Pipeline

variable {W : Type} [FileSystem (StateM W)]

/-! ## Turns on a file system -/

namespace Plan

variable (plan : Plan)

/-- Some actor takes a turn on a file system. -/
def NextOn (a b : Progress × W) : Prop :=
  ∃ actor turn, plan.turn? a.1 actor = some turn ∧
    (turn.perform : StateM W Progress).run a.2 = b

/-- A run, under some order of turns, makes the output directory, goes on until everybody has left,
and ends with a conclusion and a file system. -/
def Completes (pools : Pools) (sources : List Path) (w : W) (c : Conclusion) (w' : W) : Prop :=
  pools.validate = .ok () ∧
    ∃ w₀ t,
      (FileSystem.makeDirectory plan.outputDirectory : StateM W _).run w = (.ok (), w₀) ∧
        Relation.ReflTransGen plan.NextOn (Progress.start pools sources, w₀) (t, w') ∧
          t.isFinished = true ∧ t.conclusion = c

end Plan

/-- A deed, if any, happens on a file system. -/
def Deed.Happens : Option Deed → W → W → Prop
  | some (.read path answer), w, w' =>
    (FileSystem.read path : StateM W _).run w = (answer, w')
  | some (.write item target answer), w, w' =>
    (FileSystem.write target item.file.content : StateM W _).run w = (answer, w')
  | some (.generate _ _), w, w' => w' = w
  | none, w, w' => w' = w

/-- A turn that is taken on a file system is a turn with a deed that happens there. -/
theorem Turn.exists_deed {σ : Type} (turn : Turn σ) (w : W) :
    ∃ deed, turn.LeadsTo deed ((turn.perform : StateM W σ).run w).1 ∧
      Deed.Happens deed w ((turn.perform : StateM W σ).run w).2 := by
  cases turn with
  | step next => exact ⟨none, .step next, rfl⟩
  | read path next => exact ⟨some (.read path _), .read path next _, rfl⟩
  | generate text outcome next => exact ⟨some (.generate text outcome), .generate .., rfl⟩
  | write item target next =>
    exact ⟨some (.write item target _), .write item target next _, rfl⟩

namespace Plan

/-- A run on a file system leads from one state to another, with its deeds in order. -/
inductive RunOn (plan : Plan) (s : Progress) (w : W) : List Deed → Progress → W → Prop where
  | refl : RunOn plan s w [] s w
  | tail {deeds : List Deed} {deed : Option Deed} {t u : Progress} {v x : W}
      (h : RunOn plan s w deeds t v) (hdoes : plan.Does t deed u) (hv : Deed.Happens deed v x) :
    RunOn plan s w (deeds ++ deed.toList) u x

variable {plan : Plan} {s t : Progress} {w w' : W} {deeds : List Deed}

theorem RunOn.run (h : plan.RunOn s w deeds t w') : plan.Run s deeds t := by
  induction h with
  | refl => exact .refl
  | tail _ hdoes _ ih => exact .tail ih hdoes

/-- An order of turns on a file system is a run there. -/
theorem exists_runOn (h : Relation.ReflTransGen plan.NextOn (s, w) (t, w')) :
    ∃ deeds, plan.RunOn s w deeds t w' := by
  -- The end of the path is a pair; the induction needs it as one variable.
  suffices hgen : ∀ b, Relation.ReflTransGen plan.NextOn (s, w) b →
      ∃ deeds, plan.RunOn s w deeds b.1 b.2 from hgen (t, w') h
  intro b hb
  induction hb with
  | refl => exact ⟨[], .refl⟩
  | tail _ hnext ih =>
    obtain ⟨deeds, hrun⟩ := ih
    obtain ⟨actor, turn, hturn, rfl⟩ := hnext
    obtain ⟨deed, hleads, hhappens⟩ := turn.exists_deed (_ : W)
    exact ⟨deeds ++ deed.toList, hrun.tail ⟨actor, turn, hturn, hleads⟩ hhappens⟩

/-- A completed run is a run from its start to an end. -/
theorem Completes.exists_runOn {pools : Pools} {sources : List Path} {c : Conclusion}
    (h : plan.Completes pools sources w c w') :
    ∃ w₀ deeds t,
      (FileSystem.makeDirectory plan.outputDirectory : StateM W _).run w = (.ok (), w₀) ∧
        plan.RunOn (Progress.start pools sources) w₀ deeds t w' ∧
          t.isFinished = true ∧ t.conclusion = c := by
  obtain ⟨-, w₀, t, hm, hturns, hf, hc⟩ := h
  obtain ⟨deeds, hrun⟩ := Plan.exists_runOn hturns
  exact ⟨w₀, deeds, t, hm, hrun, hf, hc⟩

/-! ## The order that a run takes -/

/-- Whoever can move is an actor of the run. -/
theorem mem_actors {actor : Actor} {turn : Turn Progress} (h : plan.turn? s actor = some turn) :
    actor ∈ s.actors := by
  have hworker {α β : Type} {st : Station α β} {i : Nat} {move : Move α β}
      (hm : st.move? i = some move) : i < st.pool.length := by
    by_contra hi
    simp [Station.move?, List.getElem?_eq_none (Nat.le_of_not_lt hi)] at hm
  cases actor with
  | submitter => simp [Progress.actors]
  | reader i =>
    obtain ⟨move, hm, -⟩ := Option.map_eq_some_iff.1 h
    have hi : i < s.readers.length := hworker hm
    simpa [Progress.actors] using hi
  | generator i =>
    obtain ⟨move, hm, -⟩ := Option.map_eq_some_iff.1 h
    have hi : i < s.generators.length := hworker hm
    simpa [Progress.actors] using hi
  | writer i =>
    obtain ⟨move, hm, -⟩ := Option.map_eq_some_iff.1 h
    have hi : i < s.writers.length := hworker hm
    simpa [Progress.actors] using hi

/-- Nobody can move when there is no next turn. -/
theorem not_next_of_nextTurn? (h : plan.nextTurn? s = none) : ¬ plan.Next s t := by
  rintro ⟨deed, actor, turn, hturn, -⟩
  have hnone := List.findSome?_eq_none_iff.1 h actor (mem_actors hturn)
  simp [hturn] at hnone

/-- A run takes the next turn first and then goes on. -/
theorem drain_run {turn : Turn Progress} (h : plan.nextTurn? s = some turn) (w : W) :
    (plan.drain s : StateM W Progress).run w =
      (plan.drain ((turn.perform : StateM W Progress).run w).1 : StateM W Progress).run
        ((turn.perform : StateM W Progress).run w).2 := by
  rw [drain]
  split
  · simp_all
  all_goals
    rename_i h'
    obtain rfl := Option.some.inj (h.symm.trans h')
    rfl

/-- A run without a next turn ends. -/
theorem drain_run_of_none (h : plan.nextTurn? s = none) (w : W) :
    (plan.drain s : StateM W Progress).run w = (s, w) := by
  rw [drain]
  split
  · rfl
  all_goals simp_all

/-- A run goes on until nobody can move. -/
theorem drain_spec (plan : Plan) (s : Progress) (w : W) :
    Relation.ReflTransGen plan.NextOn (s, w) ((plan.drain s : StateM W Progress).run w) ∧
      plan.nextTurn? ((plan.drain s : StateM W Progress).run w).1 = none := by
  -- By induction on the load, as the recursion of `drain` goes: every turn makes the state lighter.
  induction s using Progress.lighter_wellFounded.induction generalizing w with
  | _ s ih =>
    cases h : plan.nextTurn? s with
    | none =>
      rw [drain_run_of_none h]
      exact ⟨.refl, h⟩
    | some turn =>
      obtain ⟨deed, hleads, -⟩ := turn.exists_deed w
      obtain ⟨actor, -, hturn⟩ := List.exists_of_findSome?_eq_some h
      obtain ⟨hturns, hnone⟩ := ih _ (plan.next_of_nextTurn? h hleads).lowers
        ((turn.perform : StateM W Progress).run w).2
      rw [drain_run h]
      exact ⟨.head ⟨actor, turn, hturn, rfl⟩ hturns, hnone⟩

/-- Turns that have come to an end have come to the end of the run. -/
theorem isFinished_of_turns {pools : Pools} (hp : pools.validate = .ok ()) {sources : List Path}
    {w₀ : W} (hturns : Relation.ReflTransGen plan.NextOn (Progress.start pools sources, w₀) (t, w'))
    (hnone : plan.nextTurn? t = none) : t.isFinished = true := by
  obtain ⟨deeds, hrun⟩ := exists_runOn hturns
  -- Nobody can move at the end. In an orderly state that means that all have left.
  by_contra hf
  obtain ⟨deed, u, hstep⟩ := (hrun.run.orderly hp).exists_step (by simpa using hf) plan
  exact not_next_of_nextTurn? hnone ⟨deed, hstep.does⟩

/-- A run with accepted pools can go on to its end from wherever an order of turns has led it. -/
theorem exists_finished {pools : Pools} (hp : pools.validate = .ok ()) {sources : List Path}
    {w₀ : W}
    (hturns : Relation.ReflTransGen plan.NextOn (Progress.start pools sources, w₀) (s, w)) :
    ∃ t w', Relation.ReflTransGen plan.NextOn (s, w) (t, w') ∧ t.isFinished = true := by
  obtain ⟨hmore, hnone⟩ := plan.drain_spec s w
  exact ⟨_, _, hmore, isFinished_of_turns hp (hturns.trans hmore) hnone⟩

/-- A run with accepted pools whose output directory is made completes. -/
theorem run_completes (plan : Plan) {pools : Pools} (hp : pools.validate = .ok ())
    (sources : List Path) {w w₀ : W}
    (hm : (FileSystem.makeDirectory plan.outputDirectory : StateM W _).run w = (.ok (), w₀)) :
    ∃ c w', (plan.run pools sources : StateM W _).run w = (.ok c, w') ∧
      plan.Completes pools sources w c w' := by
  obtain ⟨hturns, hnone⟩ := plan.drain_spec (Progress.start pools sources) w₀
  refine ⟨_, _, ?_, hp, w₀, _, hm, hturns, isFinished_of_turns hp hturns hnone, rfl⟩
  simp only [Plan.run, hp, StateT.run_bind, hm]
  rfl

end Plan

end Scaffold.Pipeline
