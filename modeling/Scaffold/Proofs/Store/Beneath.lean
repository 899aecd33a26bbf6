import Mathlib.Data.List.Induction
import Scaffold.Proofs.Store.Closed
import Scaffold.Proofs.Store.Disk

/-!
# Directories beneath files

A file is not written where there is a directory, and no directory is made where there is a file.
But making a directory records all that is above it, and nothing asks whether a file is there. So a
place has both a file and a directory exactly when a directory was made beneath a file, and so has a
file something beneath it (`Memory.clashes_iff_makesBeneathFile`). A disk refuses such a directory
(`Memory.clash_beneath_file`).
-/

namespace Scaffold.Memory

/-! ## Files and directories at one place -/

/-- Some place has a file and a directory. -/
def Clashes (m : Memory) : Prop :=
  ∃ p, m.files.has p = true ∧ m.directories.has p = true

/-- Some file has a file or a directory beneath it. The empty path, which is above all relative
ones, does not count. -/
def HasEntryBeneathFile (m : Memory) : Prop :=
  ∃ file entry : Path, file.isEmpty = false ∧ m.files.has file = true ∧ file.Above entry ∧
    (m.files.has entry = true ∨ m.directories.has entry = true)

/-- One of some calls, made on the empty file system one after the other, makes a directory beneath
what is a file at that time, and is not refused. -/
def MakesBeneathFile (calls : List Call) : Prop :=
  ∃ before p after, calls = before ++ .makeDirectory p :: after ∧
    let m := (empty.performAll before).2
    (Call.perform m (.makeDirectory p)).1 = .ok () ∧
      ∃ file : Path, file.isEmpty = false ∧ m.files.has file = true ∧ file.Above p

/-- Whether a call stores a file without asking for its directory. -/
def Call.isSeed : Call → Bool
  | .seed .. => true
  | _ => false

variable {m m' : Memory} {p q : Path} {call : Call} {calls : List Call}
  {answer : Except Fault Unit}

/-! ## What calls keep -/

theorem performAll_append (m : Memory) (calls calls' : List Call) :
    (m.performAll (calls ++ calls')).2 = ((m.performAll calls).2.performAll calls').2 := by
  induction calls generalizing m with
  | nil => rfl
  | cons call rest ih => exact ih (call.perform m).2

/-- A call leaves every file where it is. -/
theorem Performs.has_file (h : Performs m call (answer, m')) (hp : m.files.has p = true) :
    m'.files.has p = true := by
  cases h with
  | seed q content => exact PathMap.has_put_iff.2 (.inr hp)
  | write content hfree hparent => exact PathMap.has_put_iff.2 (.inr hp)
  | refuseWrite content f hrefused => exact hp
  | makeDirectory hfree => exact hp
  | refuseDirectory f hrefused => exact hp

/-- A call leaves every directory where it is. -/
theorem Performs.has_directory (h : Performs m call (answer, m'))
    (hp : m.directories.has p = true) : m'.directories.has p = true := by
  cases h with
  | seed q content =>
    unfold Memory.seed
    cases q.parent? with
    | none => exact hp
    | some parent => exact has_addDirectories_iff.2 (.inl hp)
  | write content hfree hparent => exact hp
  | refuseWrite content f hrefused => exact hp
  | makeDirectory hfree => exact has_addDirectories_iff.2 (.inl hp)
  | refuseDirectory f hrefused => exact hp

theorem has_file_performAll (calls : List Call) (hp : m.files.has p = true) :
    (m.performAll calls).2.files.has p = true :=
  performAll_keeps (fun h hrule => hrule.has_file h) calls hp

theorem has_directory_performAll (calls : List Call) (hp : m.directories.has p = true) :
    (m.performAll calls).2.directories.has p = true :=
  performAll_keeps (fun h hrule => hrule.has_directory h) calls hp

/-! ## Where clashes come from -/

/-- A call that makes a clash makes a directory beneath a file. -/
theorem Performs.exists_file_above (h : Performs m call (answer, m')) (hseed : call.isSeed = false)
    (hclear : ¬ m.Clashes) (hclash : m'.Clashes) :
    ∃ p, call = .makeDirectory p ∧ answer = .ok () ∧
      ∃ file : Path, file.isEmpty = false ∧ m.files.has file = true ∧ file.Above p := by
  obtain ⟨q, hfile, hdirectory⟩ := hclash
  cases h with
  | seed p content => cases hseed
  | @write p content hfree hparent =>
    -- The new file is where there is no directory, and the others are where they were.
    rcases PathMap.has_put_iff.1 hfile with hsame | hfile
    · have hdirectory : m.directories.has q = true := hdirectory
      rw [← PathMap.has_congr m.directories hsame, hfree] at hdirectory
      cases hdirectory
    · exact absurd ⟨q, hfile, hdirectory⟩ hclear
  | refuseWrite content f hrefused => exact absurd ⟨q, hfile, hdirectory⟩ hclear
  | @makeDirectory p hfree =>
    have hfile : m.files.has q = true := hfile
    rcases has_addDirectories_iff.1 hdirectory with hdirectory | ⟨hq, hinit⟩
    · exact absurd ⟨q, hfile, hdirectory⟩ hclear
    · have hne : ¬ q.Same p := by
        intro hsame
        rw [PathMap.has_congr m.files hsame, hfree] at hfile
        cases hfile
      exact ⟨p, rfl, rfl, q, hq, hfile, (Path.above_iff hq).2 ⟨hinit, hne⟩⟩
  | refuseDirectory f hrefused => exact absurd ⟨q, hfile, hdirectory⟩ hclear

/-- Where calls without seeds led to a clash, one of them made a directory beneath a file. -/
theorem makesBeneathFile_of_clashes (hseeds : ∀ call ∈ calls, call.isSeed = false)
    (hclash : (empty.performAll calls).2.Clashes) : MakesBeneathFile calls := by
  -- By induction on the calls from the last one: there was a clash before it, or it made one.
  induction calls using List.reverseRecOn with
  | nil =>
    obtain ⟨p, hfile, -⟩ := hclash
    cases hfile
  | append_singleton calls last ih =>
    have hcalls : ∀ call ∈ calls, call.isSeed = false := fun call hcall =>
      hseeds call (List.mem_append_left _ hcall)
    by_cases hbefore : (empty.performAll calls).2.Clashes
    · obtain ⟨before, p, after, rfl, haccepted, hfile⟩ := ih hcalls hbefore
      exact ⟨before, p, after ++ [last], by simp, haccepted, hfile⟩
    · have hrule := last.performs (empty.performAll calls).2
      have hlast : last.isSeed = false :=
        hseeds last (List.mem_append_right _ (List.mem_singleton_self last))
      rw [performAll_append] at hclash
      obtain ⟨p, rfl, haccepted, hfile⟩ := hrule.exists_file_above hlast hbefore hclash
      exact ⟨calls, p, [], rfl, haccepted, hfile⟩

/-- A directory that was made is there, unless its path is empty. -/
theorem Performs.has_made (h : Performs m (.makeDirectory p) (.ok (), m'))
    (hp : p.isEmpty = false) : m'.directories.has p = true := by
  cases h with
  | makeDirectory hfree => exact has_addDirectories_iff.2 (.inr ⟨hp, List.prefix_rfl⟩)

/-- A directory that was made beneath a file is there at the end, and so is the file. -/
theorem MakesBeneathFile.hasEntryBeneathFile (h : MakesBeneathFile calls) :
    (empty.performAll calls).2.HasEntryBeneathFile := by
  obtain ⟨before, p, after, rfl, haccepted, file, hne, hfile, habove⟩ := h
  have hp : p.isEmpty = false :=
    Path.isEmpty_eq_false_of_isPrefix hne ((Path.above_iff hne).1 habove).1
  have hrule := (Call.makeDirectory p).performs (empty.performAll before).2
  have hend : (empty.performAll (before ++ .makeDirectory p :: after)).2 =
      (((Call.makeDirectory p).perform (empty.performAll before).2).2.performAll after).2 :=
    performAll_append empty before (.makeDirectory p :: after)
  rw [hend]
  generalize (Call.makeDirectory p).perform (empty.performAll before).2 = outcome
    at hrule haccepted
  obtain ⟨answer, v⟩ := outcome
  obtain rfl : answer = .ok () := haccepted
  exact ⟨file, p, hne, has_file_performAll after (hrule.has_file hfile), habove,
    .inr (has_directory_performAll after (hrule.has_made hp))⟩

/-- In a closed file system, a file with something beneath it is at the place of a directory. -/
theorem Closed.clashes (h : m.Closed) (hentry : m.HasEntryBeneathFile) : m.Clashes := by
  obtain ⟨file, entry, hne, hfile, habove, hentry | hentry⟩ := hentry
  · exact ⟨file, hfile, h.files entry hentry file hne habove⟩
  · exact ⟨file, hfile, h.directories entry hentry file hne habove⟩

/-- Calls on the empty file system that write files and make directories, refused or not, leave a
place with both a file and a directory exactly when one of them makes a directory beneath what is a
file at that time and is not refused. The same calls are the ones after which some file has
something beneath it. -/
theorem clashes_iff_makesBeneathFile (calls : List Call)
    (hseeds : ∀ call ∈ calls, call.isSeed = false) :
    let m := (empty.performAll calls).2
    (m.Clashes ↔ MakesBeneathFile calls) ∧ (m.HasEntryBeneathFile ↔ MakesBeneathFile calls) := by
  intro m
  have hclosed : m.Closed := closed_empty.performAll calls
  have hmakes : m.Clashes → MakesBeneathFile calls := makesBeneathFile_of_clashes hseeds
  have hentry : MakesBeneathFile calls → m.HasEntryBeneathFile := fun h => h.hasEntryBeneathFile
  constructor
  · exact ⟨hmakes, fun h => hclosed.clashes (hentry h)⟩
  · exact ⟨fun h => hmakes (hclosed.clashes h), hentry⟩

/-- Directories that are made above a file and at its place, of which the latter is refused. -/
theorem clashes_iff_makesBeneathFile_refused :
    let calls : List Call := [.makeDirectory ⟨"out/a"⟩, .write ⟨"out//T.cs"⟩ "test",
      .makeDirectory ⟨"out/./T.cs"⟩, .write ⟨"out/a"⟩ "test"]
    let m := (empty.performAll calls).2
    (∀ call ∈ calls, call.isSeed = false) ∧ m.files.has ⟨"out/T.cs"⟩ = true ∧
      m.directories.has ⟨"out/a"⟩ = true ∧ ¬ m.Clashes ∧ ¬ m.HasEntryBeneathFile := by
  intro calls m
  have hseeds : ∀ call ∈ calls, call.isSeed = false := by decide
  obtain ⟨hclashes, hentry⟩ := clashes_iff_makesBeneathFile calls hseeds
  have hmakes : ¬ MakesBeneathFile calls := by
    -- The first directory is made where there is no file at all, and the second is refused.
    rintro ⟨before, p, after, hsplit, haccepted, file, -, hfile, -⟩
    rcases before with _ | ⟨first, _ | ⟨second, _ | ⟨third, _ | ⟨fourth, before⟩⟩⟩⟩
    · cases hfile
    · simp [calls] at hsplit
    · simp only [calls, List.cons_append, List.nil_append, List.cons.injEq,
        Call.makeDirectory.injEq] at hsplit
      obtain ⟨rfl, rfl, rfl, rfl⟩ := hsplit
      cases haccepted
    · simp [calls] at hsplit
    · simp [calls] at hsplit
  exact ⟨hseeds, by decide, by decide, mt hclashes.1 hmakes, mt hentry.1 hmakes⟩

/-- A directory that is made beneath a file, in a file system in memory and on a disk. The first
makes it, and then there is a directory in the place of the file; the other refuses it. -/
theorem clash_beneath_file :
    let calls : List Call := [.write ⟨"a"⟩ "x", .makeDirectory ⟨"a/b"⟩]
    let m := (empty.performAll calls).2
    let d : Disk := ⟨[(["a"], .file "x".toUTF8)], []⟩
    (∀ call ∈ calls, call.isSeed = false) ∧
      (empty.performAll calls).1.map (·.2) = [.ok (), .ok ()] ∧
      m.files.has ⟨"a"⟩ = true ∧ m.directories.has ⟨"a"⟩ = true ∧
      (d.makeDirectory ⟨"a/b"⟩).1 = .error .notDirectory := by
  intro calls m d
  have hlast : (Disk.names ⟨"a/b"⟩).getLast? = some "b" := by decide
  -- On the disk the way to the new directory leads through the file.
  have hrefused : d.makeDirectory ⟨"a/b"⟩ = (.error .notDirectory, d) :=
    Disk.makeDirectory_of_walk_error (by decide) (by decide) (by decide) hlast (by decide)
      (by decide)
  refine ⟨by decide, by decide, by decide, by decide, ?_⟩
  rw [hrefused]

end Scaffold.Memory
