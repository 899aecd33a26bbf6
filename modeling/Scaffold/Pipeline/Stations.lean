import Scaffold.Generation
import Scaffold.Pipeline.Report

/-!
# Workers and channels

The pieces of a run. A channel is a queue with a bound; it counts the ends by which it is held. A
sender waits while the queue is full and a receiver waits while it is empty, unless nobody holds an
end of the other side: then the channel is closed to them.

A station is a pool of workers between two channels. Each worker holds a receiving end of the one
and a sending end of the other. It receives a job, works on it, tells what happened, and hands on
its results one by one. When one of its channels is closed to it, it drops its ends and is gone for
good.
-/

namespace Scaffold.Pipeline

/-- The text of a source on its way to generation. -/
structure SourceText where
  path : Path
  text : String
deriving DecidableEq, Repr

/-- A generated file on its way to its place. -/
structure WriteItem where
  source : Path
  file : GeneratedFile
deriving DecidableEq, Repr

/-! ## Channels -/

/-- A queue with a bound. -/
structure Channel (α : Type) where
  queue : List α
  capacity : Nat
  /-- The number of sending ends that somebody holds. -/
  senders : Nat
  /-- The number of receiving ends that somebody holds. -/
  receivers : Nat
deriving Repr

/-- What comes of using an end of a channel. -/
inductive Attempt (γ : Type) where
  | done (result : γ)
  /-- Nobody holds an end of the other side. -/
  | closed
  | blocked

namespace Channel

variable {α : Type}

/-- A new channel. Its maker holds one end of each side. -/
def ofCapacity (capacity : Nat) : Channel α := ⟨[], capacity, 1, 1⟩

/-- The channel with more sending and receiving ends in other hands. -/
def share (c : Channel α) (senders receivers : Nat) : Channel α :=
  { c with senders := c.senders + senders, receivers := c.receivers + receivers }

/-- The channel with one sending end less. -/
def dropSender (c : Channel α) : Channel α :=
  { c with senders := c.senders - 1 }

/-- The channel with one receiving end less. -/
def dropReceiver (c : Channel α) : Channel α :=
  { c with receivers := c.receivers - 1 }

/-- Takes the first entry. -/
def receive (c : Channel α) : Attempt (α × Channel α) :=
  match c.queue with
  | a :: rest => .done (a, { c with queue := rest })
  | [] => if c.senders = 0 then .closed else .blocked

/-- Puts an entry at the end. -/
def send (c : Channel α) (a : α) : Attempt (Channel α) :=
  if c.receivers = 0 then .closed
  else if c.capacity ≤ c.queue.length then .blocked
  else .done { c with queue := c.queue ++ [a] }

end Channel

/-! ## Workers -/

/-- What a worker with jobs from `α` and results in `β` is at. -/
inductive Worker (α β : Type) where
  /-- Waits for a job. -/
  | waiting
  | working (job : α)
  /-- Has done a job: tells the events that are left, then hands on the results that are left. -/
  | passing (events : List Event) (results : List β)
  | gone
deriving Repr

namespace Worker

variable {α β : Type}

/-- Whether a worker has left. -/
def isGone : Worker α β → Bool
  | gone => true
  | _ => false

/-- The number of workers of a pool that have not left. -/
def present (pool : List (Worker α β)) : Nat :=
  pool.countP fun w => !w.isGone

end Worker

/-- A worker that reads sources. -/
abbrev Reader := Worker Path SourceText

/-- A worker that generates test files. -/
abbrev Generator := Worker SourceText WriteItem

/-- A worker that writes test files; it has no results to hand on. -/
abbrev Writer := Worker WriteItem Empty

/-! ## Stations -/

/-- A pool of workers between the channel of their jobs and the channel of their results. -/
structure Station (α β : Type) where
  input : Channel α
  pool : List (Worker α β)
  output : Channel β
deriving Repr

/-- What a worker does next. -/
inductive Move (α β : Type) where
  /-- Leads to another state of the station and tells events. -/
  | step (next : Station α β) (events : List Event)
  /-- Does its job. -/
  | work (job : α)

namespace Station

variable {α β : Type}

/-- The station after worker `i` has left and dropped its ends. -/
def leave (st : Station α β) (i : Nat) : Station α β :=
  { input := st.input.dropReceiver, pool := st.pool.set i .gone, output := st.output.dropSender }

/-- What worker `i` does next; nothing while it is blocked or after it has left. -/
def move? (st : Station α β) (i : Nat) : Option (Move α β) :=
  match st.pool[i]? with
  | none | some .gone => none
  | some .waiting =>
    match st.input.receive with
    | .done (job, input) =>
      some (.step { st with input, pool := st.pool.set i (.working job) } [])
    | .closed => some (.step (st.leave i) [])
    | .blocked => none
  | some (.working job) => some (.work job)
  | some (.passing (e :: events) results) =>
    some (.step { st with pool := st.pool.set i (.passing events results) } [e])
  | some (.passing [] []) => some (.step { st with pool := st.pool.set i .waiting } [])
  | some (.passing [] (r :: results)) =>
    match st.output.send r with
    | .done output =>
      some (.step { st with pool := st.pool.set i (.passing [] results), output } [])
    | .closed => some (.step (st.leave i) [])
    | .blocked => none

end Station

end Scaffold.Pipeline
