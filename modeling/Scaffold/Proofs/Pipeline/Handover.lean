import Mathlib.Logic.Relation
import Mathlib.Order.WellFounded
import Scaffold.Pipeline.Load
import Scaffold.Proofs.Settings.Pools

/-!
# Every run ends with its work done

Three things could go wrong with workers that are joined by bounded channels: all of them wait for
each other, they go on for ever, or one of them finds nobody to take what it holds and leaves with
it. None of them happens (`Plan.never_stuck`), whatever the file system answers and in whatever
order turns are taken.

The invariant is `Progress.Orderly`. It counts the ends of every channel by the actors that are
there, and says that a stage is deserted only when nothing is left for it and the stage before it is
deserted too. So as long as somebody holds something, somebody stands at the stage after. A state in
which nobody can move is then found from the end of the line: if the writers are idle their channel
is empty, so a generator is there and has room to hand on, and so on up to the submitter.
-/

namespace Scaffold.Pipeline

/-! ## Who is there -/

namespace Worker

variable {α β : Type} {pool : List (Worker α β)} {i : Nat} {w w' : Worker α β}

/-- Nobody is there exactly when all have left. -/
theorem present_eq_zero : present pool = 0 ↔ pool.all isGone = true := by
  simp [present, List.countP_eq_zero]

/-- A worker that has not left is there. -/
theorem present_pos (hw : pool[i]? = some w) (h : w.isGone = false) : 0 < present pool :=
  List.countP_pos_iff.2 ⟨w, List.mem_of_getElem? hw, by simp [h]⟩

/-- Somebody of a pool is there. -/
theorem exists_of_present_pos (h : 0 < present pool) :
    ∃ (i : Nat) (w : Worker α β), pool[i]? = some w ∧ w.isGone = false := by
  obtain ⟨w, hw, h⟩ := List.countP_pos_iff.1 h
  obtain ⟨i, hi⟩ := List.getElem?_of_mem hw
  exact ⟨i, w, hi, by simpa using h⟩

/-- The number of workers counts each that is there once. -/
theorem present_eq_total (pool : List (Worker α β)) :
    present pool = total (fun w => (!w.isGone).toNat) pool :=
  countP_eq_total _ _

/-- A worker that goes on leaves the number of workers as it is. -/
theorem present_set (hw : pool[i]? = some w) (h : w.isGone = false) (h' : w'.isGone = false) :
    present (pool.set i w') = present pool := by
  have := total_set (fun w => (!w.isGone).toNat) hw w'
  rw [← present_eq_total, ← present_eq_total, h, h'] at this
  simpa using this

/-- A worker that leaves lowers the number of workers by one. -/
theorem present_set_gone (hw : pool[i]? = some w) (h : w.isGone = false) :
    present (pool.set i gone) = present pool - 1 := by
  have := total_set (fun w => (!w.isGone).toNat) hw gone
  rw [← present_eq_total, ← present_eq_total, h] at this
  simp [isGone] at this
  omega

end Worker

theorem Reader.isGone_after (path : Path) (answer : Except Fault String) :
    (Reader.after path answer).isGone = false := by
  cases answer <;> rfl

theorem Generator.isGone_after (path : Path) (outcome : Except Fault Generated) :
    (Generator.after path outcome).isGone = false := by
  cases outcome <;> rfl

theorem Writer.isGone_after (source target : Path) (answer : Except Fault Unit) :
    (Writer.after source target answer).isGone = false := by
  cases answer <;> rfl

/-! ## Moves of a station -/

namespace Station

open Worker (present)

variable {α β : Type} {st st' : Station α β} {i : Nat} {events : List Event}

/-- Whoever moves is there. -/
theorem Moves.present_pos (h : st.Moves i st' events) : 0 < present st.pool := by
  cases h with
  | take hw | finish hw | tell hw | rest hw | hand hw | quit hw => exact Worker.present_pos hw rfl

/-- A move keeps the count of the receiving ends of the input. -/
theorem Moves.receivers (h : st.Moves i st' events) (hr : st.input.receivers = present st.pool) :
    st'.input.receivers = present st'.pool := by
  cases h with
  | take hw | tell hw | rest hw | hand hw => rw [Worker.present_set hw rfl rfl]; exact hr
  | finish hw | quit hw =>
    simp only [leave, Channel.dropReceiver]
    rw [Worker.present_set_gone hw rfl, hr]

/-- A move keeps the count of the sending ends of the output. -/
theorem Moves.senders (h : st.Moves i st' events) (hs : st.output.senders = present st.pool) :
    st'.output.senders = present st'.pool := by
  cases h with
  | take hw | tell hw | rest hw | hand hw => rw [Worker.present_set hw rfl rfl]; exact hs
  | finish hw | quit hw =>
    simp only [leave, Channel.dropSender]
    rw [Worker.present_set_gone hw rfl, hs]

/-- A move leaves the ends of other actors and the bounds alone. -/
theorem Moves.frame (h : st.Moves i st' events) :
    st'.input.senders = st.input.senders ∧ st'.output.receivers = st.output.receivers ∧
      st'.input.capacity = st.input.capacity ∧ st'.output.capacity = st.output.capacity := by
  cases h <;> exact ⟨rfl, rfl, rfl, rfl⟩

/-- Where results are taken, the last worker leaves only when no job is left and none will come. -/
theorem Moves.deserted (h : st.Moves i st' events) (ho : β → 0 < st.output.receivers)
    (hd : present st'.pool = 0) : st'.input.queue = [] ∧ st.input.senders = 0 := by
  have hp := h.present_pos
  cases h with
  | take hw | tell hw | rest hw | hand hw =>
    dsimp only at hd
    rw [Worker.present_set hw rfl rfl] at hd
    omega
  | finish hw hq hs => exact ⟨hq, hs⟩
  | @quit r _ _ hr =>
    have := ho r
    omega

/-- Where somebody is there, somebody moves or has a job to do, unless jobs are waited for or the
results find no room. -/
theorem moves_or_waits (st : Station α β) (hp : 0 < present st.pool) :
    (∃ i st' events, st.Moves i st' events) ∨
      (∃ (i : Nat) (job : α), st.pool[i]? = some (.working job)) ∨
      (st.input.queue = [] ∧ 0 < st.input.senders) ∨
      (Nonempty β ∧ st.output.capacity ≤ st.output.queue.length) := by
  obtain ⟨i, w, hw, hgone⟩ := Worker.exists_of_present_pos hp
  -- Only a worker that waits for a job or that has a result to hand on can be held up.
  cases w with
  | waiting =>
    cases hq : st.input.queue with
    | cons job rest => exact .inl ⟨i, _, _, .take hw hq⟩
    | nil =>
      rcases Nat.eq_zero_or_pos st.input.senders with hs | hs
      · exact .inl ⟨i, _, _, .finish hw hq hs⟩
      · exact .inr (.inr (.inl ⟨rfl, hs⟩))
  | working job => exact .inr (.inl ⟨i, job, hw⟩)
  | passing events results =>
    cases events with
    | cons e events => exact .inl ⟨i, _, _, .tell hw⟩
    | nil =>
      cases results with
      | nil => exact .inl ⟨i, _, _, .rest hw⟩
      | cons r results =>
        rcases Nat.eq_zero_or_pos st.output.receivers with hr | hr
        · exact .inl ⟨i, _, _, .quit hw hr⟩
        · rcases Nat.lt_or_ge st.output.queue.length st.output.capacity with hroom | hfull
          · exact .inl ⟨i, _, _, .hand hw hr hroom⟩
          · exact .inr (.inr (.inr ⟨⟨r⟩, hfull⟩))
  | gone => simp [Worker.isGone] at hgone

end Station

/-! ## The invariant -/

open Worker (present)

/-- The ends of every channel are held by the actors that are there, and no actor leaves before its
work is done. -/
structure Progress.Orderly (s : Progress) : Prop where
  pathSenders : s.paths.senders = s.submitting.toNat
  pathReceivers : s.paths.receivers = present s.readers
  textSenders : s.texts.senders = present s.readers
  textReceivers : s.texts.receivers = present s.generators
  itemSenders : s.items.senders = present s.generators
  itemReceivers : s.items.receivers = present s.writers
  pathRoom : 0 < s.paths.capacity
  textRoom : 0 < s.texts.capacity
  itemRoom : 0 < s.items.capacity
  /-- The submitter leaves after the last source. -/
  submitted : s.submitting = false → s.pending = []
  /-- The readers leave after the last source is read. -/
  read : present s.readers = 0 → s.pending = [] ∧ s.paths.queue = []
  /-- The generators leave after the readers. -/
  generated : present s.generators = 0 → present s.readers = 0 ∧ s.texts.queue = []
  /-- The writers leave after the generators. -/
  written : present s.writers = 0 → present s.generators = 0 ∧ s.items.queue = []

namespace Progress

/-- A run with accepted pools begins orderly. -/
theorem Orderly.start {pools : Pools} (hp : pools.validate = .ok ()) (sources : List Path) :
    (Progress.start pools sources).Orderly := by
  have hsize := Pools.validate_eq_ok.1 hp
  have hreading : 1 ≤ pools.reading := (hsize .reading).1
  have hprocessing : 1 ≤ pools.processing := (hsize .processing).1
  have hwriting : 1 ≤ pools.writing := (hsize .writing).1
  have hpresent {α β : Type} (n : Nat) :
      present (List.replicate n (.waiting : Worker α β)) = n := by
    simp [present, List.countP_replicate, Worker.isGone]
  -- The pools of readers and generators have nobody in them only when there are no sources.
  have hnone : min pools.reading sources.length = 0 → sources = [] := by
    intro h
    exact List.eq_nil_of_length_eq_zero (by omega)
  constructor <;> simp only [Progress.start, Channel.ofCapacity, Channel.share, Channel.dropSender,
    Channel.dropReceiver, hpresent]
  case read => exact fun h => ⟨hnone h, trivial⟩
  case generated => exact fun h => ⟨by omega, trivial⟩
  case written => exact fun h => by omega
  case pathSenders => rfl
  case submitted => exact fun h => by simp at h
  all_goals omega

variable {s t : Progress}

/-- As long as a reader is there, so is a generator. -/
theorem Orderly.generators_pos (h : s.Orderly) (hr : 0 < present s.readers) :
    0 < present s.generators := by
  by_contra hg
  have := (h.generated (by omega)).1
  omega

/-- As long as a generator is there, so is a writer. -/
theorem Orderly.writers_pos (h : s.Orderly) (hg : 0 < present s.generators) :
    0 < present s.writers := by
  by_contra hw
  have := (h.written (by omega)).1
  omega

/-- As long as there is a source to hand over, there is a reader. -/
theorem Orderly.readers_pos (h : s.Orderly) (hp : s.pending ≠ []) : 0 < present s.readers := by
  by_contra hr
  exact hp (h.read (by omega)).1

/-- A move of a reader keeps a run orderly. -/
theorem Orderly.withReading (h : s.Orderly) {i : Nat} {st : Station Path SourceText}
    {events : List Event} (hm : s.reading.Moves i st events) :
    (s.withReading st events).Orderly := by
  obtain ⟨hsenders, hreceivers, hcapIn, hcapOut⟩ := hm.frame
  have hreader : 0 < present s.readers := hm.present_pos
  have hgenerator := h.generators_pos hreader
  exact {
    h with
    pathSenders := hsenders.trans h.pathSenders
    pathReceivers := hm.receivers h.pathReceivers
    textSenders := hm.senders h.textSenders
    textReceivers := hreceivers.trans h.textReceivers
    pathRoom := hcapIn ▸ h.pathRoom
    textRoom := hcapOut ▸ h.textRoom
    -- The last reader leaves on an empty channel without senders, so the submitter left before.
    read := fun hd => by
      have hheard : 0 < s.texts.receivers := by rw [h.textReceivers]; exact hgenerator
      obtain ⟨hq, hs⟩ := hm.deserted (fun _ => hheard) hd
      have hstopped : s.submitting = false := by
        have := h.pathSenders.symm.trans hs
        simpa using this
      exact ⟨h.submitted hstopped, hq⟩
    -- The generators are there, since the reader was.
    generated := fun hd => absurd hd hgenerator.ne' }

/-- A move of a generator keeps a run orderly. -/
theorem Orderly.withGenerating (h : s.Orderly) {i : Nat} {st : Station SourceText WriteItem}
    {events : List Event} (hm : s.generating.Moves i st events) :
    (s.withGenerating st events).Orderly := by
  obtain ⟨hsenders, hreceivers, hcapIn, hcapOut⟩ := hm.frame
  have hgenerator : 0 < present s.generators := hm.present_pos
  have hwriter := h.writers_pos hgenerator
  exact {
    h with
    textSenders := hsenders.trans h.textSenders
    textReceivers := hm.receivers h.textReceivers
    itemSenders := hm.senders h.itemSenders
    itemReceivers := hreceivers.trans h.itemReceivers
    textRoom := hcapIn ▸ h.textRoom
    itemRoom := hcapOut ▸ h.itemRoom
    generated := fun hd => by
      have hheard : 0 < s.items.receivers := by rw [h.itemReceivers]; exact hwriter
      obtain ⟨hq, hs⟩ := hm.deserted (fun _ => hheard) hd
      exact ⟨h.textSenders.symm.trans hs, hq⟩
    written := fun hd => absurd hd hwriter.ne' }

/-- A move of a writer keeps a run orderly. -/
theorem Orderly.withWriting (h : s.Orderly) {i : Nat} {st : Station WriteItem Empty}
    {events : List Event} (hm : s.writing.Moves i st events) :
    (s.withWriting st events).Orderly := by
  obtain ⟨hsenders, -, hcapIn, -⟩ := hm.frame
  exact {
    h with
    itemSenders := hsenders.trans h.itemSenders
    itemReceivers := hm.receivers h.itemReceivers
    itemRoom := hcapIn ▸ h.itemRoom
    written := fun hd => by
      obtain ⟨hq, hs⟩ := hm.deserted (fun r => r.elim) hd
      exact ⟨h.itemSenders.symm.trans hs, hq⟩ }

/-- Every step keeps a run orderly. -/
theorem Orderly.step (h : s.Orderly) {plan : Plan} {deed : Option Deed}
    (hstep : plan.Step s deed t) : t.Orderly := by
  cases hstep with
  | submit hs hp hr hroom =>
    exact {
      h with
      submitted := fun hd => absurd (hs.symm.trans hd) (by simp)
      read := fun hd => by
        rw [h.pathReceivers] at hr
        exact absurd hd hr.ne' }
  | abandon hs hp hr =>
    -- With a source in hand there is a reader, so its end of the channel is there too.
    have := h.readers_pos (by simp [hp])
    rw [h.pathReceivers] at hr
    omega
  | stop hs hp =>
    have hsender := h.pathSenders
    rw [hs] at hsender
    exact {
      h with
      pathSenders := by simp [stopSubmitting, Channel.dropSender, hsender]
      submitted := fun _ => hp }
  | reader hm => exact h.withReading hm
  | @read i path hw answer =>
    have hsame := Worker.present_set hw rfl (Reader.isGone_after path answer)
    exact {
      h with
      pathReceivers := h.pathReceivers.trans hsame.symm
      textSenders := h.textSenders.trans hsame.symm
      read := fun hd => h.read (hsame.symm.trans hd)
      generated := fun hd => ⟨hsame.trans (h.generated hd).1, (h.generated hd).2⟩ }
  | generator hm => exact h.withGenerating hm
  | @generate i text hw =>
    have hsame := Worker.present_set hw rfl (Generator.isGone_after text.path (plan.generate text))
    exact {
      h with
      textReceivers := h.textReceivers.trans hsame.symm
      itemSenders := h.itemSenders.trans hsame.symm
      generated := fun hd => h.generated (hsame.symm.trans hd)
      written := fun hd => ⟨hsame.trans (h.written hd).1, (h.written hd).2⟩ }
  | writer hm => exact h.withWriting hm
  | @write i item hw answer =>
    have hsame := Worker.present_set hw rfl
      (Writer.isGone_after item.source (plan.target item.file) answer)
    exact {
      h with
      itemReceivers := h.itemReceivers.trans hsame.symm
      written := fun hd => h.written (hsame.symm.trans hd) }

end Progress

/-! ## Progress -/

namespace Progress

variable {s t : Progress}

/-- Everybody has left exactly when the submitter has and no pool has anybody. -/
theorem isFinished_iff : s.isFinished = true ↔
    s.submitting = false ∧ present s.readers = 0 ∧ present s.generators = 0 ∧
      present s.writers = 0 := by
  simp [isFinished, Worker.present_eq_zero, and_assoc]

/-- As long as somebody is there, some rule applies. -/
theorem Orderly.exists_step (h : s.Orderly) (hf : s.isFinished = false) (plan : Plan) :
    ∃ deed t, plan.Step s deed t := by
  -- From one stage back to the other: a stage with an empty channel behind it can be held up only by
  -- an empty channel before it, as long as somebody is there who can send to that channel.
  -- The submitter can move whenever it is there and the first channel is empty.
  have hsubmit (hs : s.submitting = true) (hq : s.paths.queue = []) :
      ∃ deed t, plan.Step s deed t := by
    cases hp : s.pending with
    | nil => exact ⟨_, _, .stop hs hp⟩
    | cons p rest =>
      have hreader := h.readers_pos (by simp [hp])
      refine ⟨_, _, .submit hs hp (by rw [h.pathReceivers]; exact hreader) ?_⟩
      rw [hq]
      exact h.pathRoom
  have hread (hr : 0 < present s.readers) (hq : s.texts.queue = []) :
      ∃ deed t, plan.Step s deed t := by
    rcases s.reading.moves_or_waits hr with
      ⟨i, st, events, hm⟩ | ⟨i, path, hw⟩ | ⟨hq', hs⟩ | ⟨-, hc⟩
    · exact ⟨_, _, .reader hm⟩
    · exact ⟨_, _, .read hw (.ok "")⟩
    · refine hsubmit ?_ hq'
      have hs : 0 < s.paths.senders := hs
      rw [h.pathSenders] at hs
      exact Bool.of_not_eq_false (fun hfalse => by simp [hfalse] at hs)
    · have hc : s.texts.capacity ≤ s.texts.queue.length := hc
      have := h.textRoom
      rw [hq, List.length_nil] at hc
      omega
  have hgenerate (hg : 0 < present s.generators) (hq : s.items.queue = []) :
      ∃ deed t, plan.Step s deed t := by
    rcases s.generating.moves_or_waits hg with
      ⟨i, st, events, hm⟩ | ⟨i, text, hw⟩ | ⟨hq', hs⟩ | ⟨-, hc⟩
    · exact ⟨_, _, .generator hm⟩
    · exact ⟨_, _, .generate hw⟩
    · refine hread ?_ hq'
      rw [← h.textSenders]
      exact hs
    · have hc : s.items.capacity ≤ s.items.queue.length := hc
      have := h.itemRoom
      rw [hq, List.length_nil] at hc
      omega
  rcases Nat.eq_zero_or_pos (present s.writers) with hw | hw
  · -- Without writers everybody but the submitter has left.
    obtain ⟨hg, -⟩ := h.written hw
    obtain ⟨hr, -⟩ := h.generated hg
    obtain ⟨-, hq⟩ := h.read hr
    refine hsubmit ?_ hq
    by_contra hs
    exact absurd (isFinished_iff.2 ⟨by simpa using hs, hr, hg, hw⟩) (by simp [hf])
  · rcases s.writing.moves_or_waits hw with ⟨i, st, events, hm⟩ | ⟨i, item, hw⟩ | ⟨hq, hs⟩ | ⟨hr, -⟩
    · exact ⟨_, _, .writer hm⟩
    · exact ⟨_, _, .write hw (.ok ())⟩
    · refine hgenerate ?_ hq
      rw [← h.itemSenders]
      exact hs
    · exact hr.elim Empty.elim

/-- Nothing is left when everybody has left. -/
theorem Orderly.drained (h : s.Orderly) (hf : s.isFinished = true) :
    s.pending = [] ∧ s.paths.queue = [] ∧ s.texts.queue = [] ∧ s.items.queue = [] := by
  obtain ⟨-, hr, hg, hw⟩ := isFinished_iff.1 hf
  exact ⟨(h.read hr).1, (h.read hr).2, (h.generated hg).2, (h.written hw).2⟩

/-- No actor that has something to send finds the receivers gone: the submitter with its sources, a
reader with a text, a generator with a file. -/
structure Heard (s : Progress) : Prop where
  submitter : ∀ p ∈ s.pending, s.paths.send p ≠ .closed
  readers : ∀ events texts, .passing events texts ∈ s.readers →
    ∀ t ∈ texts, s.texts.send t ≠ .closed
  generators : ∀ events items, .passing events items ∈ s.generators →
    ∀ item ∈ items, s.items.send item ≠ .closed

theorem Orderly.heard (h : s.Orderly) : s.Heard where
  submitter p hp := by
    have hreader := h.readers_pos (List.ne_nil_of_mem hp)
    rw [ne_eq, Channel.send_eq_closed, h.pathReceivers]
    exact hreader.ne'
  readers events texts hw t _ := by
    obtain ⟨i, hi⟩ := List.getElem?_of_mem hw
    have hgenerator := h.generators_pos (Worker.present_pos hi rfl)
    rw [ne_eq, Channel.send_eq_closed, h.textReceivers]
    exact hgenerator.ne'
  generators events items hw item _ := by
    obtain ⟨i, hi⟩ := List.getElem?_of_mem hw
    have hwriter := h.writers_pos (Worker.present_pos hi rfl)
    rw [ne_eq, Channel.send_eq_closed, h.itemReceivers]
    exact hwriter.ne'

end Progress

namespace Plan

variable {plan : Plan} {s t : Progress}

/-- A step hands over a source or leaves the sources alone. -/
theorem Step.submitted_add_pending {deed : Option Deed} (h : plan.Step s deed t) :
    t.submitted + t.pending.length = s.submitted + s.pending.length := by
  cases h with
  | submit hs hp hr hroom =>
    simp only [hp, List.length_cons]
    omega
  | _ => rfl

variable (plan) in
/-- A run leads from one state to the other. -/
def Leads (s t : Progress) : Prop :=
  Relation.ReflTransGen plan.Next s t

/-- A run with accepted pools stays orderly, and every source is pending or handed over. -/
theorem Leads.orderly {pools : Pools} (hp : pools.validate = .ok ()) {sources : List Path}
    (h : plan.Leads (Progress.start pools sources) s) :
    s.Orderly ∧ s.submitted + s.pending.length = sources.length := by
  -- By induction on the turns; both parts are kept by every step.
  induction h with
  | refl => exact ⟨.start hp sources, Nat.zero_add _⟩
  | tail _ hnext ih =>
    obtain ⟨deed, hdoes⟩ := hnext
    exact ⟨ih.1.step hdoes.step, hdoes.step.submitted_add_pending.trans ih.2⟩

/-- A run with accepted pools never gets stuck and never drops work. In every state that it can
reach, some actor can move unless all have left, and no actor finds the receivers of what it sends
gone. When all have left, every source was handed over and nothing is left in a channel. And no
order of turns goes on for ever. -/
theorem never_stuck (plan : Plan) {pools : Pools} (hp : pools.validate = .ok ())
    (sources : List Path) :
    (∀ s, plan.Leads (Progress.start pools sources) s →
      (s.isFinished = false → ∃ t, plan.Next s t) ∧ s.Heard ∧
        (s.isFinished = true →
          s.submitted = sources.length ∧
            s.pending = [] ∧ s.paths.queue = [] ∧ s.texts.queue = [] ∧ s.items.queue = [])) ∧
      ∀ states : ℕ → Progress, states 0 = Progress.start pools sources →
        ¬ ∀ n, plan.Next (states n) (states (n + 1)) := by
  constructor
  · intro s hs
    obtain ⟨horderly, hcount⟩ := hs.orderly hp
    refine ⟨fun hf => ?_, horderly.heard, fun hf => ?_⟩
    · obtain ⟨deed, t, hstep⟩ := horderly.exists_step hf plan
      exact ⟨t, deed, hstep.does⟩
    · have hdrained := horderly.drained hf
      rw [hdrained.1] at hcount
      exact ⟨hcount, hdrained⟩
  · -- The loads of the states would fall for ever.
    intro states _ hnext
    exact (wellFounded_iff_isEmpty_descending_chain.1 Progress.lighter_wellFounded).elim
      ⟨states, fun n => (hnext n).lowers⟩

/-- Two sources with more readers than sources, one generator, and a room for fewer files than it
generates. -/
theorem never_stuck_uneven :
    let plan : Plan := ⟨fun t => .ok ⟨.replicate 5 ⟨t.text, t.text⟩, []⟩, ⟨"out"⟩⟩
    let pools : Pools := ⟨7, 1, 3⟩
    pools.validate = .ok () ∧
      ∀ s, plan.Leads (Progress.start pools [⟨"a.cs"⟩, ⟨"b.cs"⟩]) s → s.isFinished = false →
        ∃ t, plan.Next s t :=
  ⟨rfl, fun s hs => ((never_stuck _ rfl _).1 s hs).1⟩

end Plan

end Scaffold.Pipeline
