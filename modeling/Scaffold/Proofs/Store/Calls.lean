import Scaffold.Proofs.Store.Memory

/-!
# A file system in memory after any calls

A file system in memory is used by calls that make or replace files and that make directories. Some
of them are refused, and a refused call changes nothing (`Memory.Call.unchanged_of_refused`). What
the others stored, one after the other, is all that the files are (`Memory.files_performAll`). So
the file system is a map from places: at a place there is what was stored last, under whatever
spelling, and there are as many files as places (`Memory.performAll_refines`).
-/

namespace Scaffold.Memory

open Scaffold.PathMap (LastFor)

/-! ## Calls -/

/-- A call that may change a file system. -/
inductive Call where
  /-- Stores a file with the directories that it is in. -/
  | seed (p : Path) (content : String)
  | write (p : Path) (content : String)
  | makeDirectory (p : Path)
deriving DecidableEq

/-- What a call answers, and the file system after it. -/
def Call.perform (m : Memory) : Call → Except Fault Unit × Memory
  | seed p content => (.ok (), m.seed p content)
  | write p content => (FileSystem.write p content : StateM Memory _).run m
  | makeDirectory p => (FileSystem.makeDirectory p : StateM Memory _).run m

/-- A call with its answer. -/
abbrev Answered := Call × Except Fault Unit

/-- The calls with their answers, and the file system after them. -/
def performAll (m : Memory) : List Call → List Answered × Memory
  | [] => ([], m)
  | call :: rest =>
    let (answer, m') := call.perform m
    let (log, m'') := performAll m' rest
    ((call, answer) :: log, m'')

/-- What a call stored at which path, if it was to store something and was not refused. -/
def Answered.stored? : Answered → Option (Path × String)
  | (.seed p content, .ok ()) => some (p, content)
  | (.write p content, .ok ()) => some (p, content)
  | _ => none

/-- What a call can do, rule by rule: it is carried out where it may be, and refused elsewhere. -/
inductive Performs (m : Memory) : Call → Except Fault Unit × Memory → Prop where
  | seed (p : Path) (content : String) :
    Performs m (.seed p content) (.ok (), m.seed p content)
  | write {p : Path} (content : String) (hfree : m.directories.has p = false)
      (hparent : m.hasParent p = true) :
    Performs m (.write p content) (.ok (), { m with files := m.files.put p content })
  | refuseWrite {p : Path} (content : String) (f : Fault)
      (h : m.directories.has p = true ∨ m.hasParent p = false) :
    Performs m (.write p content) (.error f, m)
  | makeDirectory {p : Path} (hfree : m.files.has p = false) :
    Performs m (.makeDirectory p)
      (.ok (), { m with directories := addDirectories m.directories p })
  | refuseDirectory {p : Path} (f : Fault) (h : m.files.has p = true) :
    Performs m (.makeDirectory p) (.error f, m)

variable {m m' : Memory}

/-- Whatever a call does, a rule allows. -/
theorem Call.performs (m : Memory) (call : Call) : Performs m call (call.perform m) := by
  cases call with
  | seed p content => exact .seed p content
  | write p content =>
    have hrun : Call.perform m (.write p content) = m.outcome (m.write p content) := rfl
    rw [hrun, Memory.write]
    cases hfree : m.directories.has p with
    | true => exact .refuseWrite content _ (.inl hfree)
    | false =>
      cases hparent : m.hasParent p with
      | true => exact .write content hfree hparent
      | false => exact .refuseWrite content _ (.inr hparent)
  | makeDirectory p =>
    have hrun : Call.perform m (.makeDirectory p) = m.outcome (m.makeDirectory p) := rfl
    rw [hrun, Memory.makeDirectory]
    cases hfree : m.files.has p with
    | true => exact .refuseDirectory _ hfree
    | false => exact .makeDirectory hfree

/-- A refused call changes nothing. -/
theorem Call.unchanged_of_refused {call : Call} {f : Fault}
    (h : call.perform m = (.error f, m')) : m' = m := by
  have hrule := call.performs m
  rw [h] at hrule
  cases hrule with
  | refuseWrite content f h => rfl
  | refuseDirectory f h => rfl

/-- A call puts what it stored into the files. -/
theorem Call.files_perform (m : Memory) (call : Call) :
    (call.perform m).2.files =
      m.files.putAll (Answered.stored? (call, (call.perform m).1)).toList := by
  have hrule := call.performs m
  generalize call.perform m = outcome at hrule ⊢
  cases hrule <;> rfl

/-! ## Many calls -/

/-- What every call keeps, many calls keep. -/
theorem performAll_keeps {P : Memory → Prop}
    (hstep : ∀ {v v' : Memory} {call : Call} {answer : Except Fault Unit},
      P v → Performs v call (answer, v') → P v')
    (calls : List Call) (h : P m) : P (m.performAll calls).2 := by
  induction calls generalizing m with
  | nil => exact h
  | cons call rest ih => exact ih (hstep h (call.performs m))

/-- Calls are answered in their order. -/
theorem map_fst_performAll (m : Memory) (calls : List Call) :
    (m.performAll calls).1.map (·.1) = calls := by
  induction calls generalizing m with
  | nil => rfl
  | cons call rest ih => exact congrArg (call :: ·) (ih _)

/-- The files after calls have what these stored, one after the other. -/
theorem files_performAll (m : Memory) (calls : List Call) :
    (m.performAll calls).2.files =
      m.files.putAll ((m.performAll calls).1.filterMap Answered.stored?) := by
  induction calls generalizing m with
  | nil => rfl
  | cons call rest ih =>
    have hone := Call.files_perform m call
    have hrest := ih (call.perform m).2
    have hsplit : ((m.performAll (call :: rest)).1.filterMap Answered.stored?) =
        (Answered.stored? (call, (call.perform m).1)).toList ++
          (((call.perform m).2.performAll rest).1.filterMap Answered.stored?) := by
      change List.filterMap Answered.stored? ((call, (call.perform m).1) :: _) = _
      rw [List.filterMap_cons]
      cases Answered.stored? (call, (call.perform m).1) <;> rfl
    rw [hsplit, PathMap.putAll_append, ← hone]
    exact hrest

/-- After any calls on the empty file system, it is a map from places. What is read at a path is
what was stored last at its place, and nothing can be read where nothing was stored. There is a file
exactly where something can be read, and there are as many files as places at which something was
stored. A refused call, wherever it comes, leaves the file system as it was. -/
theorem performAll_refines (calls : List Call) (p : Path) :
    let log := (empty.performAll calls).1
    let m := (empty.performAll calls).2
    let stored := log.filterMap Answered.stored?
    log.map (·.1) = calls ∧
      (∀ content, m.read p = .ok content ↔ LastFor stored p content) ∧
      ((∃ f, m.read p = .error f) ↔ ∀ e ∈ stored, ¬ e.1.Same p) ∧
      (m.isFile p = true ↔ ∃ content, m.read p = .ok content) ∧
      m.fileCount = (stored.map (·.1.components)).toFinset.card ∧
      ∀ (v v' : Memory) (call : Call) (f : Fault), call.perform v = (.error f, v') →
        v'.files = v.files ∧ v'.directories = v.directories := by
  intro log m stored
  have hfiles : m.files = PathMap.empty.putAll stored := files_performAll empty calls
  refine ⟨map_fst_performAll empty calls, fun content => ?_, ?_, ?_, ?_, ?_⟩
  · rw [← PathMap.get?_putAll_eq_some_iff, ← hfiles, Memory.read]
    cases m.files.get? p <;> simp
  · rw [← PathMap.get?_putAll_eq_none_iff, ← hfiles, Memory.read]
    cases m.files.get? p <;> simp
  · have hfile : m.isFile p = (m.files.get? p).isSome := PathMap.has_eq_isSome m.files p
    rw [hfile, Memory.read]
    cases m.files.get? p <;> simp
  · rw [← PathMap.size_putAll, ← hfiles]
    rfl
  · intro v v' call f hrefused
    obtain rfl := Call.unchanged_of_refused hrefused
    exact ⟨rfl, rfl⟩

end Scaffold.Memory
