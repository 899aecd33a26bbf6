import Scaffold.Proofs.Path.Ancestors
import Scaffold.Proofs.Store.Calls

/-!
# The directories of a file system in memory

Making a directory records the places above it (`Memory.has_addDirectories_iff`), and a file is made
only where the directory that it is in is recorded. So whatever calls are made, everything above a
directory or a file is a recorded directory, the empty path apart (`Memory.Closed`). Beside a file
another one may therefore be written wherever there is no directory
(`Memory.closed_after_calls`).
-/

namespace Scaffold

/-- The two paths have the same place for a parent, or neither has a parent. -/
def Path.Beside (p q : Path) : Prop :=
  Option.Rel Path.Same p.parent? q.parent?

namespace Memory

variable {m m' : Memory} {p q : Path}

/-! ## Adding directories -/

theorem has_foldl_put_iff (paths : List Path) (directories : PathMap Unit) :
    (paths.foldl (fun ds a => ds.put a ()) directories).has q = true ↔
      directories.has q = true ∨ ∃ a ∈ paths, a.Same q := by
  induction paths generalizing directories with
  | nil => simp
  | cons a rest ih =>
    rw [List.foldl_cons, ih, PathMap.has_put_iff]
    simp only [List.mem_cons, exists_eq_or_imp]
    tauto

/-- The directories that are added for a path are those at and above its place, except the empty
path. -/
theorem has_addDirectories_iff {directories : PathMap Unit} :
    (addDirectories directories p).has q = true ↔
      directories.has q = true ∨ q.isEmpty = false ∧ q.components <+: p.components := by
  rw [addDirectories, has_foldl_put_iff, Path.exists_mem_takeWhile_ancestors_iff]

/-! ## Closed file systems -/

/-- All that is above a directory or a file is a recorded directory, except the empty path. -/
structure Closed (m : Memory) : Prop where
  directories : ∀ d, m.directories.has d = true → ∀ a : Path, a.isEmpty = false → a.Above d →
    m.directories.has a = true
  files : ∀ f, m.files.has f = true → ∀ a : Path, a.isEmpty = false → a.Above f →
    m.directories.has a = true

/-- In a closed file system the directories at and above a directory are recorded. -/
theorem Closed.has_of_isPrefix (h : m.Closed) (hp : m.directories.has p = true)
    (hq : q.isEmpty = false) (hinit : q.components <+: p.components) :
    m.directories.has q = true := by
  by_cases hsame : q.Same p
  · rw [PathMap.has_congr m.directories hsame]
    exact hp
  · exact h.directories p hp q hq ((Path.above_iff hq).2 ⟨hinit, hsame⟩)

theorem closed_empty : empty.Closed where
  directories _ h := by cases h
  files _ h := by cases h

/-- Directories that are added with all that is above them leave a file system closed. -/
theorem Closed.addDirectories (h : m.Closed) (p : Path) :
    Closed { m with directories := addDirectories m.directories p } where
  directories d hd a ha habove := by
    rw [has_addDirectories_iff] at hd ⊢
    obtain ⟨hinit, -⟩ := (Path.above_iff ha).1 habove
    rcases hd with hd | ⟨-, hdp⟩
    · exact .inl (h.directories d hd a ha habove)
    · exact .inr ⟨ha, hinit.trans hdp⟩
  files f hf a ha habove := by
    rw [has_addDirectories_iff]
    exact .inl (h.files f hf a ha habove)

/-- A file leaves a file system closed, where all that is above it is recorded. -/
theorem Closed.putFile (h : m.Closed) (content : String)
    (habove : ∀ a : Path, a.isEmpty = false → a.Above p → m.directories.has a = true) :
    Closed { m with files := m.files.put p content } where
  directories := h.directories
  files f hf a ha haf := by
    rcases PathMap.has_put_iff.1 hf with hsame | hf
    · refine habove a ha ?_
      rw [Path.above_iff ha] at haf ⊢
      have hcomponents : p.components = f.components := hsame
      rw [hcomponents]
      exact ⟨haf.1, fun hap => haf.2 (Eq.trans hap hcomponents)⟩
    · exact h.files f hf a ha haf

/-- What is above a path is at or above its parent. -/
theorem prefix_parent_of_above (h : q.Above p) :
    ∃ parent, p.parent? = some parent ∧ q.components <+: parent.components := by
  obtain ⟨a, ha, hsame⟩ := h
  have hcomponents : a.components = q.components := hsame
  have hpairwise := (List.pairwise_cons.1 p.pairwise_ancestors).2
  cases hparents : p.parents with
  | nil =>
    rw [hparents] at ha
    cases ha
  | cons parent rest =>
    refine ⟨parent, by rw [Path.parent?, hparents]; rfl, ?_⟩
    rw [hparents] at ha hpairwise
    rw [← hcomponents]
    rcases List.mem_cons.1 ha with rfl | ha
    · exact List.prefix_rfl
    · exact (List.pairwise_cons.1 hpairwise).1 a ha

/-- Where a file may be written in a closed file system, all that is above it is recorded. -/
theorem Closed.has_of_above (h : m.Closed) (hparent : m.hasParent p = true) (hq : q.isEmpty = false)
    (habove : q.Above p) : m.directories.has q = true := by
  obtain ⟨parent, hsome, hinit⟩ := prefix_parent_of_above habove
  have hrecorded : (parent.isEmpty || m.directories.has parent) = true := by
    rw [hasParent, hsome] at hparent
    exact hparent
  -- The parent has the components of what is above it, so it is not the empty path.
  have hne : parent.isEmpty = false := Path.isEmpty_eq_false_of_isPrefix hq hinit
  rw [hne, Bool.false_or] at hrecorded
  exact h.has_of_isPrefix hrecorded hq hinit

/-- A file that is stored with the directories that it is in leaves a file system closed. -/
theorem Closed.seed (h : m.Closed) (p : Path) (content : String) : (m.seed p content).Closed := by
  cases hparent : p.parent? with
  | none =>
    have hseed : m.seed p content = { m with files := m.files.put p content } := by
      rw [Memory.seed, hparent]
    rw [hseed]
    refine h.putFile content fun a ha habove => ?_
    obtain ⟨parent, hsome, -⟩ := prefix_parent_of_above habove
    rw [hparent] at hsome
    cases hsome
  | some parent =>
    have hseed : m.seed p content =
        { files := m.files.put p content
          directories := Memory.addDirectories m.directories parent } := by
      rw [Memory.seed, hparent]
    rw [hseed]
    refine (h.addDirectories parent).putFile content fun a ha habove => ?_
    obtain ⟨parent', hsome, hinit⟩ := prefix_parent_of_above habove
    obtain rfl := Option.some.inj (hparent.symm.trans hsome)
    exact has_addDirectories_iff.2 (.inr ⟨ha, hinit⟩)

/-- Every call leaves a closed file system closed. -/
theorem Closed.performs (h : m.Closed) {call : Call} {answer : Except Fault Unit}
    (hrule : Performs m call (answer, m')) : m'.Closed := by
  cases hrule with
  | seed p content => exact h.seed p content
  | write content hfree hparent =>
    exact h.putFile content fun a ha habove => h.has_of_above hparent ha habove
  | refuseWrite content f hrefused => exact h
  | makeDirectory hfree => exact h.addDirectories _
  | refuseDirectory f hrefused => exact h

/-- Calls leave a closed file system closed. -/
theorem Closed.performAll (h : m.Closed) (calls : List Call) : (m.performAll calls).2.Closed :=
  performAll_keeps (fun h hrule => h.performs hrule) calls h

/-! ## Writing beside a file -/

/-- Whether a file can be written beside the directories depends on the parent of its path only. -/
theorem hasParent_congr (m : Memory) (h : p.Beside q) : m.hasParent p = m.hasParent q := by
  unfold Path.Beside at h
  unfold hasParent
  cases hp : p.parent? with
  | none =>
    cases hq : q.parent? with
    | none => rfl
    | some parent => rw [hp, hq] at h; cases h
  | some parent =>
    cases hq : q.parent? with
    | none => rw [hp, hq] at h; cases h
    | some parent' =>
      rw [hp, hq] at h
      obtain ⟨hsame⟩ := h
      show (parent.isEmpty || m.directories.has parent) =
        (parent'.isEmpty || m.directories.has parent')
      rw [Path.isEmpty_congr hsame, PathMap.has_congr m.directories hsame]

/-- The parent of a path is above it. -/
theorem above_of_parent? {parent : Path} (h : p.parent? = some parent) : parent.Above p :=
  ⟨parent, List.mem_of_head? h, rfl⟩

/-- In a closed file system a file is where a file can be written. -/
theorem Closed.hasParent_of_file (h : m.Closed) (hp : m.files.has p = true) :
    m.hasParent p = true := by
  unfold hasParent
  cases hparent : p.parent? with
  | none => rfl
  | some parent =>
    show (parent.isEmpty || m.directories.has parent) = true
    cases hempty : parent.isEmpty with
    | true => rfl
    | false => exact h.files p hp parent hempty (above_of_parent? hparent)

/-- Where a file can be written beside the directories, it is written unless there is a directory in
its place. -/
theorem Call.perform_write (content : String) (hparent : m.hasParent p = true) :
    (Call.write p content).perform m =
      if m.directories.has p then (.error (refusal (p.text ++ " is a directory") p), m)
      else (.ok (), { m with files := m.files.put p content }) := by
  show m.outcome (m.write p content) = _
  unfold Memory.write
  rw [hparent]
  cases m.directories.has p with
  | true => rfl
  | false => rfl

/-- After any calls on the empty file system, refused or not, every ancestor of a recorded directory
is recorded and so is the parent of every file, the empty path apart. So a file can be written in
every place that has the same parent as a file, unless there is a directory in that place. -/
theorem closed_after_calls (calls : List Call) :
    let m := (empty.performAll calls).2
    (∀ d a : Path, m.directories.has d = true → a ∈ d.ancestors → a.isEmpty = false →
      m.directories.has a = true) ∧
    (∀ f parent : Path, m.files.has f = true → f.parent? = some parent → parent.isEmpty = false →
      m.directories.has parent = true) ∧
    ∀ (f p : Path) (content : String), m.files.has f = true → p.Beside f →
      (Call.write p content).perform m =
        if m.directories.has p then (.error (refusal (p.text ++ " is a directory") p), m)
        else (.ok (), { m with files := m.files.put p content }) := by
  intro m
  have hclosed : m.Closed := closed_empty.performAll calls
  refine ⟨fun d a hd ha hempty => ?_, fun f parent hf hparent hempty => ?_,
    fun f p content hf hbeside => ?_⟩
  · rcases List.mem_cons.1 ha with rfl | ha
    · exact hd
    · exact hclosed.directories d hd a hempty ⟨a, ha, rfl⟩
  · exact hclosed.files f hf parent hempty (above_of_parent? hparent)
  · apply Call.perform_write
    rw [hasParent_congr m hbeside]
    exact hclosed.hasParent_of_file hf

/-- A file system with a file that was seeded, directories in several spellings, and a write that
was refused. Beside the file a directory is in the way of one write and nothing in that of another. -/
theorem closed_after_calls_spellings :
    let calls : List Call := [.seed ⟨"/src/./app/A.cs"⟩ "class A { }", .write ⟨"src/B.cs"⟩ "lost",
      .makeDirectory ⟨"./out//gen"⟩, .makeDirectory ⟨"/src/app/B.cs/"⟩]
    let m := (empty.performAll calls).2
    m.directories.has ⟨"./out/gen/."⟩ = true ∧ ⟨"."⟩ ∈ (⟨"./out/gen/."⟩ : Path).ancestors ∧
      m.directories.has ⟨"."⟩ = true ∧
      m.files.has ⟨"/src/app/A.cs"⟩ = true ∧ m.directories.has ⟨"/src/app"⟩ = true ∧
      (⟨"//src/app/./B.cs"⟩ : Path).Beside ⟨"/src/app/A.cs"⟩ ∧
      (Call.write ⟨"//src/app/./B.cs"⟩ "x").perform m =
        (.error (refusal "//src/app/./B.cs is a directory" ⟨"//src/app/./B.cs"⟩), m) ∧
      (⟨"/src//app/C.cs"⟩ : Path).Beside ⟨"/src/app/A.cs"⟩ ∧
      (Call.write ⟨"/src//app/C.cs"⟩ "x").perform m =
        (.ok (), { m with files := m.files.put ⟨"/src//app/C.cs"⟩ "x" }) := by
  intro calls m
  obtain ⟨hdirectories, hfiles, hwrites⟩ := closed_after_calls calls
  have hgen : m.directories.has ⟨"./out/gen/."⟩ = true := by decide
  have hdot : (⟨"."⟩ : Path) ∈ (⟨"./out/gen/."⟩ : Path).ancestors := by decide
  have hfile : m.files.has ⟨"/src/app/A.cs"⟩ = true := by decide
  have hparent : (⟨"/src/app/A.cs"⟩ : Path).parent? = some ⟨"/src/app"⟩ := by decide
  have htaken : (⟨"//src/app/./B.cs"⟩ : Path).Beside ⟨"/src/app/A.cs"⟩ := .some (by decide)
  have hfree : (⟨"/src//app/C.cs"⟩ : Path).Beside ⟨"/src/app/A.cs"⟩ := .some (by decide)
  refine ⟨hgen, hdot, hdirectories _ _ hgen hdot (by decide), hfile,
    hfiles _ _ hfile hparent (by decide), htaken, ?_, hfree, ?_⟩
  · rw [hwrites _ _ "x" hfile htaken]
    exact if_pos (by decide)
  · rw [hwrites _ _ "x" hfile hfree]
    exact if_neg (by decide)

end Memory

end Scaffold
