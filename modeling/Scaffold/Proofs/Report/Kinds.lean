import Scaffold.Pipeline.Failure
import Scaffold.Proofs.Text.Lines
import Scaffold.Proofs.Text.Occurrence

/-!
# The kinds of failures by what their wording quotes

A summary files a failure under the kind that its wording tells of (`filesUnder_ofFailures`), and it
looks for the phrases of file faults first, anywhere in the wording. A wording quotes texts of the
source, such as its path or the names in it. What a wording has around its quotations never makes
one of those phrases, nor does a quotation together with what is around it
(`Fault.mentions_message_iff`). So a fault of a source is filed under its own kind unless a single
text that it quotes has such a phrase, and then under the kind of that phrase
(`filesUnder_ofFault`).
-/

namespace Scaffold

/-! ## The wording of a fault -/

/-- The phrases that tell of a fault of the file itself. -/
def filePhrases : List String := ["Permission denied", "No such file", "not found"]

namespace Fault

/-- The kind of a fault that lies in a source: it has no clean parse, or a type in it has no
placeholder value. -/
def kind? : Fault → Option String
  | parse .. => some "Parse error"
  | unresolvedDefault .. => some "Unresolved default"
  | _ => none

/-- The texts that the wording of a fault of a source quotes. -/
def quotes : Fault → List String
  | parse file _ _ text => [file.text, text]
  | unresolvedDefault className member type => [type, className, member]
  | _ => []

/-- A text that the wording quotes has the phrase. -/
def Quotes (f : Fault) (phrase : String) : Prop :=
  ∃ q ∈ f.quotes, phrase.toList <:+: q.toList

instance (f : Fault) (phrase : String) : Decidable (f.Quotes phrase) :=
  inferInstanceAs (Decidable (∃ q ∈ f.quotes, phrase.toList <:+: q.toList))

/-- Where a fault of the kind is filed: a phrase of a file fault in a quotation comes first. -/
def filedUnder (f : Fault) (kind : String) : String :=
  if f.Quotes "Permission denied" then "Permission denied"
  else if f.Quotes "No such file" ∨ f.Quotes "not found" then "File not found"
  else kind

end Fault

/-- A numeral has no phrase with a character that is no digit. -/
theorem not_infix_toString {t : List Char} {c : Char} (hc : c ∈ t) (hdigit : c.isDigit = false)
    (n : Nat) : ¬ t <:+: (toString n).toList := by
  intro h
  rw [Text.isDigit_of_mem_toString (h.subset hc)] at hdigit
  exact Bool.noConfusion hdigit

namespace Fault

theorem toList_message_parse (file : Path) (line column : Nat) (text : String) :
    (parse file line column text).message.toList =
      "Parse error in ".toList ++ file.text.toList ++ ':' :: ((toString line).toList ++
        ':' :: ((toString column).toList ++ ':' :: (" ".toList ++ text.toList))) := by
  have hcolon : ":".toList = [':'] := rfl
  have hlast : ": ".toList = ':' :: " ".toList := rfl
  show ("Parse error in " ++ file.text ++ ":" ++ toString line ++ ":" ++ toString column ++ ": " ++
    text).toList = _
  simp only [String.toList_append, hcolon, hlast, List.append_assoc, List.cons_append,
    List.nil_append]

theorem toList_message_unresolvedDefault (className member type : String) :
    (unresolvedDefault className member type).message.toList =
      "No default value for ".toList ++ '`' :: (type.toList ++
        '`' :: (" in ".toList ++ className.toList ++ '.' :: member.toList)) := by
  have hopen : "No default value for `".toList = "No default value for ".toList ++ ['`'] := rfl
  have hclose : "` in ".toList = '`' :: " in ".toList := rfl
  have hdot : ".".toList = ['.'] := rfl
  show ("No default value for `" ++ type ++ "` in " ++ className ++ "." ++ member).toList = _
  simp only [String.toList_append, hopen, hclose, hdot, List.append_assoc, List.cons_append,
    List.nil_append]

/-- A fault that lies in a source is one of two, and its kind says which. -/
theorem cases_of_kind? {f : Fault} {kind : String} (hkind : f.kind? = some kind) :
    (∃ file line column text, f = parse file line column text ∧ kind = "Parse error") ∨
      ∃ className member type, f = unresolvedDefault className member type ∧
        kind = "Unresolved default" := by
  cases f with
  | parse file line column text => exact .inl ⟨_, _, _, _, rfl, (Option.some.inj hkind).symm⟩
  | unresolvedDefault className member type =>
    exact .inr ⟨_, _, _, rfl, (Option.some.inj hkind).symm⟩
  | fileSystem | configuration | validation | during | external | system => cases hkind

/-- A phrase of a file fault is in the wording of a fault of a source exactly when a text that the
wording quotes has it. -/
theorem mentions_message_iff {f : Fault} {kind phrase : String} (hkind : f.kind? = some kind)
    (hphrase : phrase ∈ filePhrases) :
    Text.mentions f.message phrase = true ↔ f.Quotes phrase := by
  -- What the phrases have in common: no delimiter of a quotation, a blank, and that what stands
  -- before a quotation neither has one nor begins one.
  have hclean : ∀ phrase ∈ filePhrases,
      (':' ∉ phrase.toList ∧ '`' ∉ phrase.toList ∧ '.' ∉ phrase.toList ∧ ' ' ∈ phrase.toList) ∧
      (Text.BeginsNowhereIn phrase.toList "Parse error in ".toList ∧
        Text.BeginsNowhereIn phrase.toList " ".toList ∧
        Text.BeginsNowhereIn phrase.toList " in ".toList) ∧
      ¬ phrase.toList <:+: "No default value for ".toList := by decide +kernel
  obtain ⟨⟨hcolon, hquote, hdot, hblank⟩, ⟨hlead, hspace, hin⟩, hlabel⟩ := hclean phrase hphrase
  have hnumeral := not_infix_toString hblank (by decide)
  rw [Text.mentions_iff]
  obtain ⟨file, line, column, text, rfl, -⟩ | ⟨className, member, type, rfl, -⟩ :=
    cases_of_kind? hkind
  · rw [toList_message_parse, Text.infix_append_cons_iff hcolon, Text.infix_append_cons_iff hcolon,
      Text.infix_append_cons_iff hcolon, Text.infix_append_iff_of_begins_nowhere hlead,
      Text.infix_append_iff_of_begins_nowhere hspace, or_iff_right (hnumeral line),
      or_iff_right (hnumeral column)]
    simp only [Quotes, quotes, List.mem_cons, List.not_mem_nil, or_false, exists_eq_or_imp,
      exists_eq_left]
  · rw [toList_message_unresolvedDefault, Text.infix_append_cons_iff hquote,
      Text.infix_append_cons_iff hquote, Text.infix_append_cons_iff hdot,
      Text.infix_append_iff_of_begins_nowhere hin, or_iff_right hlabel]
    simp only [Quotes, quotes, List.mem_cons, List.not_mem_nil, or_false, exists_eq_or_imp,
      exists_eq_left]

/-- A fault of a source is told by the phrases that its wording quotes, and else by how the wording
begins. -/
theorem errorKind_message {f : Fault} {kind : String} (hkind : f.kind? = some kind) :
    errorKind f.message = f.filedUnder kind := by
  have hmentions (phrase : String) (h : phrase ∈ filePhrases) := mentions_message_iff hkind h
  have hbegins : (if Text.begins f.message "Parse error" then "Parse error"
      else if Text.begins f.message "No default value" then "Unresolved default"
      else (Text.firstLine? f.message).getD "Unknown error") = kind := by
    obtain ⟨file, line, column, text, rfl, rfl⟩ | ⟨className, member, type, rfl, rfl⟩ :=
      cases_of_kind? hkind
    · rw [Text.begins, toList_message_parse]
      rfl
    · rw [Text.begins, Text.begins, toList_message_unresolvedDefault]
      rfl
  simp only [errorKind, filedUnder, hbegins, Bool.or_eq_true,
    hmentions "Permission denied" (by decide), hmentions "No such file" (by decide),
    hmentions "not found" (by decide)]

/-- It is filed under its own kind exactly when no phrase of a file fault is quoted. -/
theorem filedUnder_eq_iff {f : Fault} {kind : String} (hkind : f.kind? = some kind) :
    f.filedUnder kind = kind ↔ ∀ phrase ∈ filePhrases, ¬ f.Quotes phrase := by
  have hother : "Permission denied" ≠ kind ∧ "File not found" ≠ kind := by
    obtain ⟨_, _, _, _, -, rfl⟩ | ⟨_, _, _, -, rfl⟩ := cases_of_kind? hkind <;> decide
  rw [filedUnder]
  by_cases hdenied : f.Quotes "Permission denied"
  · rw [if_pos hdenied]
    exact iff_of_false hother.1 fun hnone => hnone "Permission denied" (by decide) hdenied
  · rw [if_neg hdenied]
    by_cases hmissing : f.Quotes "No such file" ∨ f.Quotes "not found"
    · rw [if_pos hmissing]
      refine iff_of_false hother.2 fun hnone => ?_
      exact hmissing.elim (hnone "No such file" (by decide)) (hnone "not found" (by decide))
    · rw [if_neg hmissing]
      simpa [filePhrases, hdenied] using hmissing

end Fault

/-! ## Where a summary files a failure -/

namespace FailureSummary

/-- The files that a summary has under a kind. -/
def filesUnder (s : FailureSummary) (kind : String) : List Path :=
  (s.byKind.lookup kind).getD []

theorem mem_kinds {kind : String} {failures : List Failure} :
    kind ∈ kinds failures ↔ ∃ f ∈ failures, errorKind f.error = kind := by
  rw [kinds, List.mem_mergeSort, List.mem_eraseDups, List.mem_map]

theorem lookup_map_pair {κ β : Type} [DecidableEq κ] (value : κ → β) (key : κ) (keys : List κ) :
    (keys.map fun k => (k, value k)).lookup key =
      if key ∈ keys then some (value key) else none := by
  induction keys with
  | nil => rfl
  | cons k keys ih =>
    rw [List.map_cons, List.lookup_cons, ih]
    by_cases h : key = k
    · subst h
      simp
    · rw [beq_false_of_ne h]
      simp [h]

/-- Under a kind are the files of the failures of that kind, in the order of the failures. -/
theorem filesUnder_ofFailures (failures : List Failure) (kind : String) :
    (ofFailures failures).filesUnder kind =
      (failures.filter fun f => errorKind f.error = kind).map (·.path) := by
  rw [filesUnder, ofFailures, lookup_map_pair]
  split_ifs with h
  · rfl
  · have hnone : (failures.filter fun f => errorKind f.error = kind) = [] :=
      List.filter_eq_nil_iff.2 fun f hf hkind => h (mem_kinds.2 ⟨f, hf, of_decide_eq_true hkind⟩)
    rw [hnone]
    rfl

/-- A fault of a source adds its file once, under the kind of the phrase of a file fault that it
quotes, and under its own kind exactly when it quotes none. -/
theorem filesUnder_ofFault {f : Fault} {kind : String} (hkind : f.kind? = some kind) (path : Path)
    (operation : Operation) (before after : List Failure) :
    (∀ k, (ofFailures (before ++ .ofFault path operation f :: after)).filesUnder k =
      (ofFailures before).filesUnder k ++ (if f.filedUnder kind = k then [path] else []) ++
        (ofFailures after).filesUnder k) ∧
    (f.filedUnder kind = kind ↔ ∀ phrase ∈ filePhrases, ¬ f.Quotes phrase) := by
  refine ⟨fun k => ?_, Fault.filedUnder_eq_iff hkind⟩
  have hfiled : errorKind (Failure.ofFault path operation f).error = f.filedUnder kind :=
    Fault.errorKind_message hkind
  simp only [filesUnder_ofFailures, List.filter_append, List.map_append, List.filter_cons, hfiled,
    decide_eq_true_eq]
  split_ifs <;> simp [Failure.ofFault]

/-- A text with no clean parse is filed as one. -/
theorem filesUnder_ofFault_unexpected :
    let f : Fault := .parse ⟨"src/Widget.cs"⟩ 3 14 "unexpected token"
    f.kind? = some "Parse error" ∧ f.filedUnder "Parse error" = "Parse error" ∧
      (ofFailures [.ofFault ⟨"src/Widget.cs"⟩ .parse f]).filesUnder "Parse error" =
        [⟨"src/Widget.cs"⟩] := by
  intro f
  have hkind : f.kind? = some "Parse error" := rfl
  obtain ⟨hfiles, hown⟩ := filesUnder_ofFault hkind ⟨"src/Widget.cs"⟩ .parse [] []
  have hunder : f.filedUnder "Parse error" = "Parse error" := hown.2 (by decide +kernel)
  refine ⟨hkind, hunder, ?_⟩
  rw [← List.nil_append [_], hfiles "Parse error", if_pos hunder, filesUnder_ofFailures]
  rfl

/-- A text with no clean parse is filed as a file that was not found, for the name of its file, and
so is a type without a placeholder, for its own. -/
theorem filesUnder_quoted_phrase :
    let path : Path := ⟨"src/not found.cs"⟩
    let unparsed := ofFailures [.ofFault path .parse (.parse path 1 1 "unexpected token")]
    let unresolved := ofFailures
      [.ofFault ⟨"A.cs"⟩ .synthesize (.unresolvedDefault "A" "Get" "(int, T /* not found */)")]
    unparsed.filesUnder "Parse error" = [] ∧ unparsed.filesUnder "File not found" = [path] ∧
      unresolved.filesUnder "Unresolved default" = [] ∧
      unresolved.filesUnder "File not found" = [⟨"A.cs"⟩] := by
  simp only [filesUnder_ofFailures]
  decide +kernel

end FailureSummary

end Scaffold
