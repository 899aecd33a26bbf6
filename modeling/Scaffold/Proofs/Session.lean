import Scaffold.Proofs.Settings.Pools
import Scaffold.Proofs.Settings.Nearest
import Scaffold.Session

/-!
# The settings of a session

Wherever settings come from, their pools are accepted: a text is checked when it is read, a file
that cannot be used is passed over, and the default needs no check (`Session.loadSettings_valid`).
The command line changes the sizes that it asks for, all into their range, and nothing else. So a
session that has settings has pools that a run accepts (`Session.resolveSettings_valid`).
-/

namespace Scaffold

open CommandLine (Options)

/-- The number of workers that a command line asks for, for a stage. -/
def CommandLine.Options.asked (o : Options) : Stage → Option Nat :=
  Pools.asked o.reading o.processing o.writing

variable {W : Type} [System (StateM W)]

namespace Settings

/-! ## Settings that are loaded -/

/-- The default is in range. -/
theorem validate_default : default.validate = .ok () := rfl

/-- The settings that a text gives are in their ranges. -/
theorem validate_of_ofText {text : String} {s : Settings} (h : ofText text = .ok s) :
    s.validate = .ok () := by
  unfold ofText at h
  split at h
  · cases h
  · rename_i s' hread
    cases hvalid : s'.validate with
    | error f =>
      rw [hvalid] at h
      cases h
    | ok u =>
      rw [hvalid] at h
      cases h
      exact hvalid

/-- The settings in a file that can be used are in their ranges. -/
theorem validate_of_settingsIn? {a : Except Refusal String} {s : Settings}
    (h : settingsIn? a = some s) : s.validate = .ok () := by
  cases a with
  | error refusal => cases h
  | ok text =>
    have htext : (ofText text).toOption = some s := h
    cases hof : ofText text with
    | error f =>
      rw [hof] at htext
      cases htext
    | ok s' =>
      rw [hof] at htext
      cases htext
      exact validate_of_ofText hof

/-- The settings in a named file are in their ranges. -/
theorem validate_of_load {p : Path} {s : Settings} {w : W}
    (h : ((load p : StateM W _).run w).1 = .ok s) : s.validate = .ok () := by
  rw [load, StateT.run_bind] at h
  generalize (System.read p : StateM W _).run w = answer at h
  obtain ⟨answer, w'⟩ := answer
  cases answer with
  | error refusal => cases h
  | ok text =>
    have htext : (ofText text).mapError (Fault.whileDoing p.text) = .ok s := h
    cases hof : ofText text with
    | error f =>
      rw [hof] at htext
      cases htext
    | ok s' =>
      rw [hof] at htext
      cases htext
      exact validate_of_ofText hof

/-- A search finds what is in the first file, or else what it finds in the others. -/
theorem found_search_cons (p : Path) (rest : List Path) (w : W) :
    ∃ answer w', ((search (p :: rest) : StateM W Search).run w).1.found =
      (settingsIn? answer).or ((search rest : StateM W Search).run w').1.found := by
  obtain ⟨answer, w', hread⟩ :
      ∃ answer w', (System.read p : StateM W _).run w = pure (answer, w') := ⟨_, _, rfl⟩
  refine ⟨answer, w', ?_⟩
  rw [search, StateT.run_bind, hread, pure_bind, ← found_look p]
  dsimp only
  cases hfound : (look p answer).found with
  | some s => exact hfound
  | none => rfl

/-- The settings that a search finds are in their ranges, whatever the system answers. -/
theorem validate_of_search {paths : List Path} {s : Settings} {w : W}
    (h : ((search paths : StateM W Search).run w).1.found = some s) : s.validate = .ok () := by
  induction paths generalizing w with
  | nil => cases h
  | cons p rest ih =>
    obtain ⟨answer, w', hfound⟩ := found_search_cons p rest w
    rw [hfound, Option.or_eq_some_iff] at h
    rcases h with h | ⟨-, h⟩
    · exact validate_of_settingsIn? h
    · exact ih h

/-- The settings for a directory are in their ranges. -/
theorem validate_loadNear (start : Path) (w : W) :
    ((loadNear start : StateM W _).run w).1.1.validate = .ok () := by
  have hsearch (s : Settings)
      (h : ((search (candidates start) : StateM W Search).run w).1.found = some s) :
      s.validate = .ok () :=
    validate_of_search h
  rw [loadNear, StateT.run_bind]
  generalize (search (candidates start) : StateM W Search).run w = outcome at hsearch
  obtain ⟨⟨found, journal⟩, w'⟩ := outcome
  cases found with
  | some s => exact hsearch s rfl
  | none => exact validate_default

end Settings

namespace Session

/-- The settings of a session, before the command line is applied, are in their ranges. -/
theorem loadSettings_valid {o : Options} {workingDirectory : Except String Path} {w : W}
    {s : Settings} {journal : Journal}
    (h : ((loadSettings o workingDirectory : StateM W _).run w).1 = .ok (s, journal)) :
    s.validate = .ok () := by
  unfold loadSettings at h
  cases hconfig : o.config with
  | some p =>
    rw [hconfig] at h
    have hload : ((Settings.load p : StateM W _).run w).1.map (fun s => (s, ([] : Journal))) =
        .ok (s, journal) := h
    cases hs : ((Settings.load p : StateM W _).run w).1 with
    | error f =>
      rw [hs] at hload
      cases hload
    | ok s' =>
      rw [hs] at hload
      cases hload
      exact Settings.validate_of_load hs
  | none =>
    rw [hconfig] at h
    cases workingDirectory with
    | ok directory =>
      have hnear : .ok ((Settings.loadNear directory : StateM W _).run w).1 =
          (.ok (s, journal) : Except Fault _) := h
      have hs : ((Settings.loadNear directory : StateM W _).run w).1 = (s, journal) :=
        Except.ok.inj hnear
      have hvalid := Settings.validate_loadNear directory w
      rw [hs] at hvalid
      exact hvalid
    | error problem =>
      cases h
      exact Settings.validate_default

/-- What is resolved are the settings that are loaded, with the sizes that the command line asks
for. -/
theorem resolveSettings_run (o : Options) (workingDirectory : Except String Path) (w : W) :
    ((resolveSettings o workingDirectory : StateM W _).run w).1 =
      ((loadSettings o workingDirectory : StateM W _).run w).1.map fun (loaded, journal) =>
        let s := applyRequests o loaded
        (s, journal ++ ([o.reading, o.processing, o.writing].filterMap id).filterMap clampRecord? ++
          [record .info "resolved configuration" [("pipeline", poolsText s.pools)]]) := by
  rw [resolveSettings, StateT.run_bind]
  generalize (loadSettings o workingDirectory : StateM W _).run w = loading
  obtain ⟨_ | ⟨loaded, journal⟩, w'⟩ := loading
  · rfl
  · rfl

section Requests

variable (o : Options) (loaded : Settings)

/-- A stage has the size that the command line asks for, and its own if it asks for none. -/
theorem size_applyRequests (stage : Stage) :
    (applyRequests o loaded).pools.size stage =
      ((o.asked stage).map Pools.requested).getD (loaded.pools.size stage) :=
  Pools.size_request loaded.pools o.reading o.processing o.writing stage

/-- A stage for which the command line has a number has the size that the number asks for. -/
theorem size_applyRequests_of_asked {stage : Stage} {n : Nat} (h : o.asked stage = some n) :
    (applyRequests o loaded).pools.size stage =
      if n = 0 then 5 else if 256 < n then 256 else n := by
  rw [size_applyRequests, h, Option.map_some, Option.getD_some]
  exact Pools.requested_eq n

/-- A stage for which the command line has no number keeps its size. -/
theorem size_applyRequests_of_not_asked {stage : Stage} (h : o.asked stage = none) :
    (applyRequests o loaded).pools.size stage = loaded.pools.size stage := by
  rw [size_applyRequests, h]
  rfl

end Requests

/-- A session resolves its settings exactly when it can load them, on any system and with any
numbers on the command line. A run accepts their pools. Each stage for which the command line has a
number has the size 5 if that is zero, 256 if it is greater than 256, and the number itself
otherwise; the other stages and the settings of synthesis are as they were loaded. -/
theorem resolveSettings_valid (o : Options) (workingDirectory : Except String Path) (w : W) :
    let loading := ((loadSettings o workingDirectory : StateM W _).run w).1
    let resolved := ((resolveSettings o workingDirectory : StateM W _).run w).1
    (∀ f, resolved = .error f ↔ loading = .error f) ∧
      ∀ s journal, resolved = .ok (s, journal) →
        s.pools.validate = .ok () ∧
          ∃ loaded notes, loading = .ok (loaded, notes) ∧
            (∀ stage n, o.asked stage = some n →
              s.pools.size stage = if n = 0 then 5 else if 256 < n then 256 else n) ∧
            (∀ stage, o.asked stage = none → s.pools.size stage = loaded.pools.size stage) ∧
            s.synthesis = loaded.synthesis := by
  intro loading resolved
  have hresolved : resolved = loading.map _ := resolveSettings_run o workingDirectory w
  rw [hresolved]
  cases hloading : loading with
  | error f =>
    refine ⟨fun f' => Iff.rfl, fun s journal h => ?_⟩
    cases h
  | ok found =>
    obtain ⟨loaded, notes⟩ := found
    refine ⟨fun f => ⟨nofun, nofun⟩, fun s journal h => ?_⟩
    obtain ⟨rfl, -⟩ := Prod.mk.inj (Except.ok.inj h)
    have hvalid : loaded.pools.validate = .ok () := loadSettings_valid hloading
    refine ⟨Pools.validate_request hvalid o.reading o.processing o.writing, loaded, notes, rfl,
      ?_, ?_, rfl⟩
    · intro stage n hasked
      exact size_applyRequests_of_asked o loaded hasked
    · intro stage hasked
      exact size_applyRequests_of_not_asked o loaded hasked

/-- A directory whose settings file has seven writers, with zero readers and the greatest number of
generators on the command line. -/
theorem resolveSettings_valid_extremes :
    let d : Disk := ⟨[(["a"], .directory),
      (["a", ".testgen.toml"], .file "[pipeline]\nmax_writing_tasks = 7\n".toUTF8)], []⟩
    let o : Options := ⟨"A.cs", ⟨"out"⟩, some 0, some (2 ^ 64 - 1), none, '|', none, 0⟩
    ∃ s journal,
      ((resolveSettings o (.ok ⟨"a"⟩) : StateM Disk _).run d).1 = .ok (s, journal) ∧
        s.pools.validate = .ok () ∧ s.pools = ⟨5, 256, 7⟩ ∧ s.synthesis = .default := by
  intro d o
  have hcandidates : Settings.candidates ⟨"a"⟩ = [⟨"a/.testgen.toml"⟩, ⟨".testgen.toml"⟩] := by
    decide +kernel
  have htext : d.read ⟨"a/.testgen.toml"⟩ = .ok "[pipeline]\nmax_writing_tasks = 7\n" :=
    Disk.read_of_walk (by decide) (by decide) (by decide) rfl rfl
  have husable : Settings.settingsIn? (.ok "[pipeline]\nmax_writing_tasks = 7\n") =
      some ⟨⟨5, 5, 7⟩, .default⟩ := by
    decide +kernel
  have hloaded : ((Settings.loadNear ⟨"a"⟩ : StateM Disk _).run d).1.1 =
      ⟨⟨5, 5, 7⟩, .default⟩ := by
    have hreads : Settings.ReadsAs d d.read := fun _ => rfl
    rw [(Settings.loadNear_run hreads ⟨"a"⟩).1, Settings.firstUsable?, hcandidates]
    simp [htext, husable]
  obtain ⟨hfails, hsucceeds⟩ := resolveSettings_valid o (.ok ⟨"a"⟩) d
  cases hresolved : ((resolveSettings o (.ok ⟨"a"⟩) : StateM Disk _).run d).1 with
  | error f => cases (hfails f).1 hresolved
  | ok found =>
    obtain ⟨s, journal⟩ := found
    obtain ⟨hvalid, loaded, notes, hloading, hasked, hkept, hsynthesis⟩ :=
      hsucceeds s journal hresolved
    have hpair : ((Settings.loadNear ⟨"a"⟩ : StateM Disk _).run d).1 = (loaded, notes) :=
      Except.ok.inj hloading
    obtain rfl : loaded = ⟨⟨5, 5, 7⟩, .default⟩ := by
      rw [← hloaded, hpair]
    have hreading : s.pools.reading = 5 := hasked .reading 0 rfl
    have hprocessing : s.pools.processing = 256 := hasked .processing (2 ^ 64 - 1) rfl
    have hwriting : s.pools.writing = 7 := hkept .writing rfl
    refine ⟨s, journal, rfl, hvalid, ?_, hsynthesis⟩
    calc s.pools = ⟨s.pools.reading, s.pools.processing, s.pools.writing⟩ := rfl
      _ = ⟨5, 256, 7⟩ := by rw [hreading, hprocessing, hwriting]

end Session

end Scaffold
