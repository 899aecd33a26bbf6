import Mathlib.Data.List.Basic
import Scaffold.Proofs.Store.Disk
import Scaffold.Settings.Loading

/-!
# Which settings a directory has

The settings for a directory are those of the first usable file among the candidates, or the default
(`loadNear_run`). A file that cannot be used is passed over, though the journal says that defaults
are used in its stead. So the settings are those that the nearest file calls for in all cases but
one: when that file cannot be used and one farther up can, with other settings than the default
(`loadNear_eq_nearest_iff`).
-/

namespace Scaffold.Settings

variable {W : Type} [System (StateM W)]

/-! ## What files say -/

/-- On a system, reading gives answers that depend on the path alone, and changes nothing. -/
def ReadsAs (w : W) (answer : Path → Except Refusal String) : Prop :=
  ∀ p, (System.read p : StateM W _).run w = (answer p, w)

/-- Whether there is a file, by the answer of the system. -/
def isThere : Except Refusal String → Bool
  | .error .noEntry => false
  | _ => true

/-- The settings in a file that can be used: it is readable and says nothing wrong. -/
def settingsIn? : Except Refusal String → Option Settings
  | .ok text => (ofText text).toOption
  | .error _ => none

section Answers

variable (answer : Path → Except Refusal String) (start : Path)

/-- The nearest settings file for a directory. -/
def nearestFile? : Option Path :=
  (candidates start).find? fun p => isThere (answer p)

/-- The settings that the nearest file calls for: its own, if it can be used, and the default if it
cannot or if there is no file. -/
def nearest : Settings :=
  ((nearestFile? answer start).bind fun p => settingsIn? (answer p)).getD default

/-- The settings in the nearest file that can be used. -/
def firstUsable? : Option Settings :=
  (candidates start).findSome? fun p => settingsIn? (answer p)

end Answers

variable {w : W} {answer : Path → Except Refusal String}

/-- A file that can be used is there. -/
theorem isThere_of_settingsIn? {a : Except Refusal String} {s : Settings}
    (h : settingsIn? a = some s) : isThere a = true := by
  cases a with
  | ok text => rfl
  | error refusal => cases h

/-- Looking at a file finds the settings in it. -/
theorem found_look (p : Path) (a : Except Refusal String) : (look p a).found = settingsIn? a := by
  cases a with
  | ok text =>
    simp only [look, settingsIn?]
    cases ofText text <;> rfl
  | error refusal => cases refusal <;> rfl

/-! ## The nearest file -/

section Candidates

variable {start p : Path}

/-- No file before the nearest one can be used. -/
theorem candidates_split (h : nearestFile? answer start = some p) :
    ∃ before after, candidates start = before ++ p :: after ∧
      ∀ q ∈ before, settingsIn? (answer q) = none := by
  obtain ⟨-, before, after, hsplit, hbefore⟩ := List.find?_eq_some_iff_append.1 h
  refine ⟨before, after, hsplit, fun q hq => ?_⟩
  have hmissing := hbefore q hq
  cases hs : settingsIn? (answer q) with
  | none => rfl
  | some s => simp [isThere_of_settingsIn? hs] at hmissing

/-- The nearest file is the first that can be used, if it can be used. -/
theorem firstUsable?_of_nearestFile? {s : Settings} (h : nearestFile? answer start = some p)
    (hs : settingsIn? (answer p) = some s) : firstUsable? answer start = some s := by
  obtain ⟨before, after, hsplit, hbefore⟩ := candidates_split h
  have hnone : before.findSome? (fun q => settingsIn? (answer q)) = none :=
    List.findSome?_eq_none_iff.2 hbefore
  rw [firstUsable?, hsplit, List.findSome?_append, hnone, Option.none_or, List.findSome?_cons, hs]

/-- Where there is no file, none can be used. -/
theorem firstUsable?_of_nearestFile?_eq_none (h : nearestFile? answer start = none) :
    firstUsable? answer start = none := by
  refine List.findSome?_eq_none_iff.2 fun p hp => ?_
  have hmissing := List.find?_eq_none.1 h p hp
  cases hs : settingsIn? (answer p) with
  | none => rfl
  | some s => exact absurd (isThere_of_settingsIn? hs) hmissing

/-- The first settings that can be used are those that the nearest file calls for, unless that file
cannot be used and the first settings that can be are not the default. -/
theorem firstUsable?_eq_nearest_iff :
    (firstUsable? answer start).getD default = nearest answer start ↔
      ∀ p, nearestFile? answer start = some p → settingsIn? (answer p) = none →
        (firstUsable? answer start).getD default = default := by
  cases hfile : nearestFile? answer start with
  | none =>
    have hnone := firstUsable?_of_nearestFile?_eq_none hfile
    simp [nearest, hfile, hnone]
  | some p =>
    cases hs : settingsIn? (answer p) with
    | none => simp [nearest, hfile, hs]
    | some s =>
      have hsome := firstUsable?_of_nearestFile? hfile hs
      simp [nearest, hfile, hs, hsome]

end Candidates

/-! ## What is loaded -/

section Loading

variable (h : ReadsAs w answer)
include h

/-- A search looks at the first file and, if that cannot be used, at the others. -/
theorem search_run_cons (p : Path) (rest : List Path) :
    (search (p :: rest) : StateM W Search).run w =
      match (look p (answer p)).found with
      | some _ => (look p (answer p), w)
      | none =>
        let later := (search rest : StateM W Search).run w
        (⟨later.1.found, (look p (answer p)).journal ++ later.1.journal⟩, later.2) := by
  have hread : (System.read p : StateM W _).run w = pure (answer p, w) := h p
  rw [search, StateT.run_bind, hread, pure_bind]
  dsimp only
  cases (look p (answer p)).found with
  | some s => rfl
  | none => rfl

/-- A search finds the first settings that can be used and changes nothing. -/
theorem search_run (paths : List Path) :
    ((search paths : StateM W Search).run w).1.found =
        paths.findSome? (fun p => settingsIn? (answer p)) ∧
      ((search paths : StateM W Search).run w).2 = w := by
  induction paths with
  | nil => exact ⟨rfl, rfl⟩
  | cons p rest ih =>
    rw [search_run_cons h, List.findSome?_cons, ← found_look p]
    cases hfound : (look p (answer p)).found with
    | some s => exact ⟨hfound, rfl⟩
    | none => exact ih

/-- What is to be said of a file is in the journal of a search, when no file before it can be
used. -/
theorem journal_look_subset (before : List Path) (p : Path) (after : List Path)
    (hbefore : ∀ q ∈ before, settingsIn? (answer q) = none) :
    (look p (answer p)).journal ⊆
      ((search (before ++ p :: after) : StateM W Search).run w).1.journal := by
  induction before with
  | nil =>
    rw [List.nil_append, search_run_cons h]
    split
    · exact List.Subset.refl _
    · exact List.subset_append_left _ _
  | cons q before ih =>
    obtain ⟨hq, hbefore⟩ := List.forall_mem_cons.1 hbefore
    rw [← found_look q] at hq
    rw [List.cons_append, search_run_cons h, hq]
    exact List.Subset.trans (ih hbefore) (List.subset_append_right _ _)

/-- What is loaded are the first settings that can be used, or the default. -/
theorem loadNear_run (start : Path) :
    ((loadNear start : StateM W _).run w).1.1 = (firstUsable? answer start).getD default ∧
      ((search (candidates start) : StateM W Search).run w).1.journal ⊆
        ((loadNear start : StateM W _).run w).1.2 ∧
      ((loadNear start : StateM W _).run w).2 = w := by
  obtain ⟨hfound, hstate⟩ := search_run h (candidates start)
  rw [loadNear, StateT.run_bind, firstUsable?, ← hfound]
  generalize (search (candidates start) : StateM W Search).run w = outcome at hstate
  obtain ⟨⟨found, journal⟩, w'⟩ := outcome
  obtain rfl : w' = w := hstate
  cases found with
  | some s => exact ⟨rfl, List.Subset.refl _, rfl⟩
  | none => exact ⟨rfl, List.subset_append_left _ _, rfl⟩

end Loading

/-- The settings for a directory are those in the nearest file that can be used, or the default.
These are the ones that the nearest file calls for exactly when that file can be used or nothing but
the default is found instead. The journal says in any case that the default is used instead of what
is wrong in the nearest file. -/
theorem loadNear_eq_nearest_iff {w : W} {answer : Path → Except Refusal String}
    (h : ReadsAs w answer) (start : Path) :
    let outcome := (loadNear start : StateM W _).run w
    outcome.1.1 = (firstUsable? answer start).getD default ∧
      outcome.2 = w ∧
      (∀ p text f, nearestFile? answer start = some p → answer p = .ok text →
        ofText text = .error f →
          .plain .warn component (f.message ++ " (" ++ p.text ++ "). Using defaults.") ∈
            outcome.1.2) ∧
      (outcome.1.1 = nearest answer start ↔
        ∀ p, nearestFile? answer start = some p → settingsIn? (answer p) = none →
          (firstUsable? answer start).getD default = default) := by
  intro outcome
  obtain ⟨hsettings, hjournal, hstate⟩ := loadNear_run h start
  refine ⟨hsettings, hstate, fun p text f hfile htext hwrong => hjournal ?_, ?_⟩
  · obtain ⟨before, after, hsplit, hbefore⟩ := candidates_split hfile
    rw [hsplit]
    refine journal_look_subset h before p after hbefore ?_
    rw [htext, look, hwrong]
    exact List.mem_singleton_self _
  · have houtcome : outcome.1.1 = (firstUsable? answer start).getD default := hsettings
    rw [houtcome]
    exact firstUsable?_eq_nearest_iff

/-- A directory without a settings file, below one that has a file. -/
theorem loadNear_eq_nearest_above :
    let d : Disk := ⟨[(["a"], .directory),
      ([".testgen.toml"], .file "[synthesis]\noutput_extension = \"g.cs\"\n".toUTF8)], []⟩
    ReadsAs d d.read ∧
      ((loadNear ⟨"a"⟩ : StateM Disk _).run d).1.1 = nearest d.read ⟨"a"⟩ := by
  intro d
  have h : ReadsAs d d.read := fun _ => rfl
  have hcandidates : candidates ⟨"a"⟩ = [⟨"a/.testgen.toml"⟩, ⟨".testgen.toml"⟩] := by
    decide +kernel
  have hmissing : d.read ⟨"a/.testgen.toml"⟩ = .error .noEntry :=
    Disk.read_of_walk_none (by decide) (by decide) (by decide) rfl rfl
  have htext : d.read ⟨".testgen.toml"⟩ = .ok "[synthesis]\noutput_extension = \"g.cs\"\n" :=
    Disk.read_of_walk (by decide) (by decide) (by decide) rfl rfl
  refine ⟨h, (loadNear_eq_nearest_iff h ⟨"a"⟩).2.2.2.2 fun p hfile hunusable => ?_⟩
  -- The nearest file is the one above, and that can be used.
  have hnearest : nearestFile? d.read ⟨"a"⟩ = some ⟨".testgen.toml"⟩ := by
    rw [nearestFile?, hcandidates]
    simp [hmissing, htext, isThere]
  obtain rfl := Option.some.inj (hnearest.symm.trans hfile)
  rw [htext] at hunusable
  exact absurd hunusable (by decide +kernel)

/-- A directory whose settings file asks for no writers, below one that has a file. The journal says
that the default is used, and the settings of the file above are. -/
theorem loadNear_passes_over :
    let d : Disk := ⟨[(["a"], .directory),
      (["a", ".testgen.toml"], .file "[pipeline]\nmax_writing_tasks = 0\n".toUTF8),
      ([".testgen.toml"], .file "[synthesis]\noutput_extension = \"g.cs\"\n".toUTF8)], []⟩
    let outcome := (loadNear ⟨"a"⟩ : StateM Disk _).run d
    outcome.1.1 = ⟨.default, ⟨"autogenerated", "g.cs", none⟩⟩ ∧
      nearest d.read ⟨"a"⟩ = default ∧
      outcome.1.1 ≠ nearest d.read ⟨"a"⟩ ∧
      ∃ f : Fault,
        .plain .warn component (f.message ++ " (" ++ "a/.testgen.toml" ++ "). Using defaults.") ∈
          outcome.1.2 := by
  intro d outcome
  have h : ReadsAs d d.read := fun _ => rfl
  have hcandidates : candidates ⟨"a"⟩ = [⟨"a/.testgen.toml"⟩, ⟨".testgen.toml"⟩] := by
    decide +kernel
  have hnear : d.read ⟨"a/.testgen.toml"⟩ = .ok "[pipeline]\nmax_writing_tasks = 0\n" :=
    Disk.read_of_walk (by decide) (by decide) (by decide) rfl rfl
  have habove : d.read ⟨".testgen.toml"⟩ = .ok "[synthesis]\noutput_extension = \"g.cs\"\n" :=
    Disk.read_of_walk (by decide) (by decide) (by decide) rfl rfl
  have hunusable : settingsIn? (.ok "[pipeline]\nmax_writing_tasks = 0\n") = none := by
    decide +kernel
  have husable : settingsIn? (.ok "[synthesis]\noutput_extension = \"g.cs\"\n") =
      some ⟨.default, ⟨"autogenerated", "g.cs", none⟩⟩ := by
    decide +kernel
  obtain ⟨hsettings, hjournal, -⟩ := loadNear_run h ⟨"a"⟩
  have houtcome : outcome.1.1 = ⟨.default, ⟨"autogenerated", "g.cs", none⟩⟩ := by
    refine hsettings.trans ?_
    rw [firstUsable?, hcandidates]
    simp [hnear, habove, hunusable, husable]
  have hnearest : nearest d.read ⟨"a"⟩ = default := by
    rw [nearest, nearestFile?, hcandidates]
    simp [hnear, isThere, hunusable]
  refine ⟨houtcome, hnearest, ?_, ?_⟩
  · rw [houtcome, hnearest]
    decide
  · cases hwrong : ofText "[pipeline]\nmax_writing_tasks = 0\n" with
    | ok s =>
      rw [settingsIn?, hwrong] at hunusable
      cases hunusable
    | error f =>
      refine ⟨f, hjournal ?_⟩
      rw [hcandidates]
      refine journal_look_subset h [] ⟨"a/.testgen.toml"⟩ [⟨".testgen.toml"⟩] (by simp) ?_
      rw [hnear, look, hwrong]
      exact List.mem_singleton_self _

end Scaffold.Settings
