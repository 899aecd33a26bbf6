import Mathlib.Data.List.Forall2
import Mathlib.Data.String.Basic
import Scaffold.Proofs.Collection
import Scaffold.Proofs.Report
import Scaffold.Proofs.Report.Kinds
import Scaffold.Total

/-!
# What a summary of failures accounts for

A summary is what becomes of filing the failures one after the other, each under its operation and
under its kind (`FailureSummary.ofFailures_eq_foldl`). Each failure that is filed adds one to the
number of an operation and one file to a kind, so the numbers of the operations and of the files of
the kinds both add up to the number of failures. A report lists some of the files of a kind and says
how many more there are, and that is all of them (`FailureSummary.report_eq`).
-/

namespace Scaffold

/-! ## Entries in the order of their keys -/

section Entries

variable {κ α : Type} [Ord κ]

/-- The entries with the value `f old` under a key, where `old` is the value under it, if any. -/
def alterUnder (key : κ) (f : Option α → α) : List (κ × α) → List (κ × α)
  | [] => [(key, f none)]
  | (k, a) :: rest =>
    match compare key k with
    | .lt => (key, f none) :: (k, a) :: rest
    | .eq => (k, f (some a)) :: rest
    | .gt => (k, a) :: alterUnder key f rest

/-- The keys of the entries are in their order, and no two are the same. -/
def KeysOrdered (entries : List (κ × α)) : Prop :=
  entries.Pairwise fun e e' => compare e.1 e'.1 = .lt

variable {key k : κ} {a : α} {f : Option α → α} {e : κ × α} {entries rest : List (κ × α)}

theorem alterUnder_cons_of_lt (h : compare key k = .lt) :
    alterUnder key f ((k, a) :: rest) = (key, f none) :: (k, a) :: rest := by
  rw [alterUnder, h]

theorem alterUnder_cons_of_eq (h : compare key k = .eq) :
    alterUnder key f ((k, a) :: rest) = (k, f (some a)) :: rest := by
  rw [alterUnder, h]

theorem alterUnder_cons_of_gt (h : compare key k = .gt) :
    alterUnder key f ((k, a) :: rest) = (k, a) :: alterUnder key f rest := by
  rw [alterUnder, h]

/-- If every new value weighs one more than the old one, the entries weigh one more together. -/
theorem total_alterUnder (weight : α → Nat) (hnone : weight (f none) = 1)
    (hsome : ∀ a, weight (f (some a)) = weight a + 1) (entries : List (κ × α)) :
    total (weight ·.2) (alterUnder key f entries) = total (weight ·.2) entries + 1 := by
  induction entries with
  | nil => rw [alterUnder, total_cons, hnone, total_nil]
  | cons e rest ih =>
    obtain ⟨k, a⟩ := e
    cases h : compare key k with
    | lt =>
      rw [alterUnder_cons_of_lt h, total_cons, hnone]
      omega
    | eq =>
      rw [alterUnder_cons_of_eq h, total_cons, total_cons, hsome, Nat.add_right_comm]
    | gt =>
      rw [alterUnder_cons_of_gt h, total_cons, total_cons, ih]
      omega

theorem ne_of_compare_ne [Std.LawfulEqOrd κ] (h : compare key k ≠ .eq) : key ≠ k := by
  rintro rfl
  exact h Std.ReflCmp.compare_self

variable [Std.TransOrd κ]

/-- Behind a key that is not before `key` there are only other keys. -/
theorem KeysOrdered.ne_of_mem (h : KeysOrdered ((k, a) :: rest)) (hkey : compare key k ≠ .gt)
    (he : e ∈ rest) : e.1 ≠ key := by
  have hlt : compare k e.1 = .lt := (List.pairwise_cons.1 h).1 e he
  intro heq
  rw [heq] at hlt
  exact hkey (Std.OrientedCmp.gt_of_lt hlt)

variable [Std.LawfulEqOrd κ]

/-- The entries after a value is altered are those under other keys, and the new value. -/
theorem mem_alterUnder_iff [BEq κ] [LawfulBEq κ] (h : KeysOrdered entries) :
    e ∈ alterUnder key f entries ↔
      e ∈ entries ∧ e.1 ≠ key ∨ e = (key, f (entries.lookup key)) := by
  -- Without the order there could be a second entry under the key, which stays as it is.
  induction entries with
  | nil => simp [alterUnder]
  | cons e' rest ih =>
    obtain ⟨k, a⟩ := e'
    have hrest : KeysOrdered rest := (List.pairwise_cons.1 h).2
    cases hkey : compare key k with
    | lt =>
      have hne : key ≠ k := ne_of_compare_ne (by rw [hkey]; decide)
      have hall : ∀ e ∈ (k, a) :: rest, e.1 ≠ key := by
        refine List.forall_mem_cons.2 ⟨hne.symm, fun e he => ?_⟩
        exact h.ne_of_mem (by rw [hkey]; decide) he
      have hlookup : ((k, a) :: rest).lookup key = none :=
        List.lookup_eq_none_iff.2 fun e he => by simpa using (hall e he).symm
      rw [alterUnder_cons_of_lt hkey, hlookup, List.mem_cons]
      constructor
      · rintro (rfl | he)
        · exact .inr rfl
        · exact .inl ⟨he, hall e he⟩
      · rintro (⟨he, -⟩ | rfl)
        · exact .inr he
        · exact .inl rfl
    | eq =>
      obtain rfl : key = k := Std.LawfulEqOrd.eq_of_compare hkey
      have hall : ∀ e ∈ rest, e.1 ≠ key := fun e he =>
        h.ne_of_mem (by rw [hkey]; decide) he
      rw [alterUnder_cons_of_eq hkey, List.lookup_cons_self, List.mem_cons, List.mem_cons]
      constructor
      · rintro (rfl | he)
        · exact .inr rfl
        · exact .inl ⟨.inr he, hall e he⟩
      · rintro (⟨rfl | he, hne⟩ | rfl)
        · exact absurd rfl hne
        · exact .inr he
        · exact .inl rfl
    | gt =>
      have hne : key ≠ k := ne_of_compare_ne (by rw [hkey]; decide)
      have hlookup : ((k, a) :: rest).lookup key = rest.lookup key := by
        rw [List.lookup_cons, beq_false_of_ne hne]
      rw [alterUnder_cons_of_gt hkey, hlookup, List.mem_cons, List.mem_cons, ih hrest]
      constructor
      · rintro (rfl | ⟨he, hother⟩ | rfl)
        · exact .inl ⟨.inl rfl, hne.symm⟩
        · exact .inl ⟨.inr he, hother⟩
        · exact .inr rfl
      · rintro (⟨rfl | he, hother⟩ | rfl)
        · exact .inl rfl
        · exact .inr (.inl ⟨he, hother⟩)
        · exact .inr (.inr rfl)

/-- Altering a value keeps the keys in order. -/
theorem KeysOrdered.alterUnder [BEq κ] [LawfulBEq κ] (h : KeysOrdered entries) :
    KeysOrdered (alterUnder key f entries) := by
  induction entries with
  | nil => exact List.pairwise_singleton _ _
  | cons e rest ih =>
    obtain ⟨k, a⟩ := e
    obtain ⟨hk, hrest⟩ := List.pairwise_cons.1 h
    cases hkey : compare key k with
    | lt =>
      rw [alterUnder_cons_of_lt hkey]
      refine List.pairwise_cons.2 ⟨List.forall_mem_cons.2 ⟨hkey, fun e he => ?_⟩, h⟩
      exact Std.TransCmp.lt_trans hkey (hk e he)
    | eq =>
      rw [alterUnder_cons_of_eq hkey]
      exact List.pairwise_cons.2 ⟨hk, hrest⟩
    | gt =>
      rw [alterUnder_cons_of_gt hkey]
      refine List.pairwise_cons.2 ⟨fun e he => ?_, ih hrest⟩
      rcases (mem_alterUnder_iff hrest).1 he with ⟨he, -⟩ | rfl
      · exact hk e he
      · exact Std.OrientedCmp.lt_of_gt hkey

/-- Entries in the order of their keys are determined by what entries there are. -/
theorem KeysOrdered.eq_of_mem_iff {entries' : List (κ × α)} (h : KeysOrdered entries)
    (h' : KeysOrdered entries') (hmem : ∀ e, e ∈ entries ↔ e ∈ entries') : entries = entries' := by
  have hnodup {l : List (κ × α)} (hl : KeysOrdered l) : l.Nodup := by
    refine List.Pairwise.imp (fun {e e'} hlt heq => ?_) hl
    exact ne_of_compare_ne (by rw [hlt]; decide) (congrArg Prod.fst heq)
  have hperm : entries.Perm entries' :=
    (List.perm_ext_iff_of_nodup (hnodup h) (hnodup h')).2 hmem
  refine hperm.eq_of_pairwise (fun e e' _ _ hlt hgt => ?_) h h'
  rw [Std.OrientedCmp.gt_of_lt hlt] at hgt
  cases hgt

/-- Entries that are in the order of their keys are those after a value is altered, if the entries
under other keys are the same and the one under the key is the new one. -/
theorem KeysOrdered.eq_alterUnder [BEq κ] [LawfulBEq κ] {entries' : List (κ × α)}
    (h : KeysOrdered entries) (h' : KeysOrdered entries')
    (hother : ∀ e : κ × α, e.1 ≠ key → (e ∈ entries' ↔ e ∈ entries))
    (hkey : ∀ a, (key, a) ∈ entries' ↔ a = f (entries.lookup key)) :
    entries' = Scaffold.alterUnder key f entries := by
  refine h'.eq_of_mem_iff h.alterUnder fun (k, a) => ?_
  rw [mem_alterUnder_iff h, Prod.mk.injEq]
  by_cases hk : k = key
  · subst hk
    rw [hkey]
    simp
  · rw [hother _ hk]
    simp [hk]

end Entries

/-! ## Filing failures one after the other -/

instance : Std.TransOrd Operation :=
  inferInstanceAs (Std.TransCmp (compareOn Operation.rank))

namespace FailureSummary

/-- The summary of no failures. -/
def empty : FailureSummary := ⟨0, [], []⟩

/-- The summary with one more failure, filed under its operation and its kind. -/
def file (s : FailureSummary) (f : Failure) : FailureSummary where
  total := s.total + 1
  byOperation := alterUnder f.operation (fun old => old.getD 0 + 1) s.byOperation
  byKind := alterUnder (errorKind f.error) (fun old => old.getD [] ++ [f.path]) s.byKind

/-- The files of the failures of a kind, in the order of the failures. -/
def pathsOf (kind : String) (failures : List Failure) : List Path :=
  (failures.filter fun f => errorKind f.error = kind).map (·.path)

variable {o : Operation} {n : Nat} {kind : String} {paths : List Path} {failures : List Failure}

theorem pathsOf_concat (kind : String) (failures : List Failure) (f : Failure) :
    pathsOf kind (failures ++ [f]) =
      pathsOf kind failures ++ if errorKind f.error = kind then [f.path] else [] := by
  unfold pathsOf
  rw [List.filter_append, List.map_append]
  split_ifs with h
  · rw [List.filter_cons_of_pos (by simpa using h), List.filter_nil, List.map_singleton]
  · rw [List.filter_cons_of_neg (by simpa using h), List.filter_nil, List.map_nil]

theorem pathsOf_ne_nil_iff : pathsOf kind failures ≠ [] ↔ kind ∈ kinds failures := by
  unfold pathsOf
  rw [mem_kinds, ne_eq, List.map_eq_nil_iff, List.filter_eq_nil_iff]
  simp

/-- A summary has a number for each operation that failed, and it is that of its failures. -/
theorem mem_byOperation_iff : (o, n) ∈ (ofFailures failures).byOperation ↔
    n = failures.countP (·.operation = o) ∧ 0 < n := by
  have hall : o ∈ Operation.all := by cases o <;> decide
  unfold ofFailures
  rw [List.mem_filter, List.mem_map]
  constructor
  · rintro ⟨⟨_, -, heq⟩, hne⟩
    obtain ⟨rfl, rfl⟩ := Prod.mk.inj heq
    exact ⟨rfl, Nat.pos_of_ne_zero (of_decide_eq_true hne)⟩
  · rintro ⟨rfl, hpos⟩
    exact ⟨⟨o, hall, rfl⟩, decide_eq_true (Nat.ne_of_gt hpos)⟩

/-- A summary has the files of each kind that there is, and these are those of its failures. -/
theorem mem_byKind_iff : (kind, paths) ∈ (ofFailures failures).byKind ↔
    paths = pathsOf kind failures ∧ paths ≠ [] := by
  unfold ofFailures
  rw [List.mem_map]
  constructor
  · rintro ⟨_, hkind, heq⟩
    obtain ⟨rfl, rfl⟩ := Prod.mk.inj heq
    exact ⟨rfl, pathsOf_ne_nil_iff.2 hkind⟩
  · rintro ⟨rfl, hne⟩
    exact ⟨kind, pathsOf_ne_nil_iff.1 hne, rfl⟩

/-- The number that a summary has for an operation. -/
theorem numberOf_ofFailures (o : Operation) (failures : List Failure) :
    ((ofFailures failures).byOperation.lookup o).getD 0 = failures.countP (·.operation = o) := by
  have hall : o ∈ Operation.all := by cases o <;> decide
  unfold ofFailures
  rw [List.filter_map, lookup_map_pair]
  split_ifs with h
  · rfl
  · have hzero : ¬ failures.countP (·.operation = o) ≠ 0 := fun hne =>
      h (List.mem_filter.2 ⟨hall, decide_eq_true hne⟩)
    exact (not_not.1 hzero).symm

/-- The operations of a summary are in their order. -/
theorem keysOrdered_byOperation (failures : List Failure) :
    KeysOrdered (ofFailures failures).byOperation := by
  have hall : Operation.all.Pairwise fun o o' => compare o o' = .lt := by decide
  unfold ofFailures KeysOrdered
  apply List.Pairwise.filter
  rw [List.pairwise_map]
  exact hall

/-- The kinds of a summary are in the order of their names. -/
theorem keysOrdered_byKind (failures : List Failure) :
    KeysOrdered (ofFailures failures).byKind := by
  -- The kinds are sorted and without repetitions, so each is before the next.
  have hsorted : (kinds failures).Pairwise fun a b => (!decide (b < a)) = true := by
    refine List.pairwise_mergeSort (fun a b c hab hbc => ?_) (fun a b => ?_) _
    · simp only [Bool.not_eq_true', decide_eq_false_iff_not, not_lt] at hab hbc ⊢
      exact le_trans hab hbc
    · simp only [Bool.or_eq_true, Bool.not_eq_true', decide_eq_false_iff_not, not_lt]
      exact le_total a b
  have hnodup : (kinds failures).Nodup :=
    (List.mergeSort_perm _ _).nodup_iff.2 (nodup_eraseDups _)
  have hstrict : (kinds failures).Pairwise fun a b => compare a b = .lt := by
    refine (hsorted.and hnodup).imp fun {a b} ⟨hle, hne⟩ => ?_
    simp only [Bool.not_eq_true', decide_eq_false_iff_not, not_lt] at hle
    exact compare_lt_iff_lt.2 (lt_of_le_of_ne hle hne)
  unfold ofFailures KeysOrdered
  rw [List.pairwise_map]
  exact hstrict

/-- One more failure is filed under its operation and its kind, and nothing else changes. -/
theorem ofFailures_concat (failures : List Failure) (f : Failure) :
    ofFailures (failures ++ [f]) = (ofFailures failures).file f := by
  -- The summary reads all failures at once. Its entries are known one by one, though, and their
  -- order does the rest.
  have hpaths (kind : String) : ((ofFailures failures).byKind.lookup kind).getD [] =
      pathsOf kind failures := filesUnder_ofFailures failures kind
  have hoperation : (ofFailures (failures ++ [f])).byOperation =
      alterUnder f.operation (fun old => old.getD 0 + 1) (ofFailures failures).byOperation := by
    apply (keysOrdered_byOperation failures).eq_alterUnder (keysOrdered_byOperation _)
    · intro (o, n) hne
      have hother : (decide (f.operation = o)) = false := decide_eq_false fun heq => hne heq.symm
      rw [mem_byOperation_iff, mem_byOperation_iff, List.countP_append, List.countP_singleton,
        hother]
      rfl
    · intro n
      rw [mem_byOperation_iff, numberOf_ofFailures, List.countP_append, List.countP_singleton,
        if_pos (decide_eq_true rfl)]
      exact and_iff_left_of_imp fun hn => hn ▸ Nat.succ_pos _
  have hkind : (ofFailures (failures ++ [f])).byKind =
      alterUnder (errorKind f.error) (fun old => old.getD [] ++ [f.path])
        (ofFailures failures).byKind := by
    apply (keysOrdered_byKind failures).eq_alterUnder (keysOrdered_byKind _)
    · intro (kind, paths) hne
      have hother : errorKind f.error ≠ kind := fun heq => hne heq.symm
      rw [mem_byKind_iff, mem_byKind_iff, pathsOf_concat, if_neg hother, List.append_nil]
    · intro paths
      rw [mem_byKind_iff, hpaths, pathsOf_concat, if_pos rfl]
      exact and_iff_left_of_imp fun h => h ▸ List.append_ne_nil_of_right_ne_nil _ (by simp)
  have htotal : (ofFailures (failures ++ [f])).total = (ofFailures failures).total + 1 :=
    List.length_append
  unfold file
  rw [← hoperation, ← hkind, ← htotal]

/-- A summary is what becomes of filing its failures one after the other. -/
theorem ofFailures_eq_foldl (failures : List Failure) :
    ofFailures failures = failures.foldl file empty := by
  induction failures using List.reverseRecOn with
  | nil => simp [ofFailures, kinds, Operation.all, empty]
  | append_singleton failures f ih =>
    rw [ofFailures_concat, ih, List.foldl_append, List.foldl_cons, List.foldl_nil]

/-! ## What the numbers add up to -/

/-- The three counts of a summary, of failures, by operation and by kind, are all `n`. -/
structure Balanced (s : FailureSummary) (n : Nat) : Prop where
  total_eq : s.total = n
  operations : Scaffold.total (·.2) s.byOperation = n
  kinds : Scaffold.total (·.2.length) s.byKind = n

/-- A failure that is filed adds one to every count. -/
theorem Balanced.file {s : FailureSummary} (h : s.Balanced n) (f : Failure) :
    (s.file f).Balanced (n + 1) where
  total_eq := congrArg (· + 1) h.total_eq
  operations := by
    show Scaffold.total (·.2) (alterUnder f.operation (fun old => old.getD 0 + 1) s.byOperation) = _
    rw [total_alterUnder (fun n : Nat => n) rfl (fun _ => rfl), h.operations]
  kinds := by
    have hsome (paths : List Path) : ((some paths).getD [] ++ [f.path]).length = paths.length + 1 :=
      List.length_append
    show Scaffold.total (·.2.length)
      (alterUnder (errorKind f.error) (fun old => old.getD [] ++ [f.path]) s.byKind) = _
    rw [total_alterUnder List.length rfl hsome, h.kinds]

/-- Every count of a summary is the number of its failures. -/
theorem balanced_ofFailures (failures : List Failure) :
    (ofFailures failures).Balanced failures.length := by
  induction failures using List.reverseRecOn with
  | nil =>
    rw [ofFailures_eq_foldl]
    exact ⟨rfl, rfl, rfl⟩
  | append_singleton failures f ih =>
    rw [ofFailures_concat, List.length_append, List.length_singleton]
    exact ih.file f

/-! ## What a report lists -/

/-- What a report says of a kind of failure. -/
structure KindReport where
  kind : String
  /-- How many files are announced. -/
  announced : Nat
  listed : List Path
  /-- How many more files there are, if a line says so. -/
  further? : Option Nat

namespace KindReport

/-- The lines of a report on a kind. -/
def lines (r : KindReport) : List String :=
  ("  " ++ r.kind ++ ": " ++ toString r.announced ++ " file(s)\n") ::
    r.listed.map (fun p => "    - " ++ p.text ++ "\n") ++
    (r.further?.map fun k => "    ... and " ++ toString k ++ " more\n").toList

/-- What is said of a kind accounts for its files: the first of them are listed, the others are
counted, and together they are as many as announced. The others are counted only if there are more
files than a report lists. -/
structure Covers (r : KindReport) (kind : String) (paths : List Path) : Prop where
  kind_eq : r.kind = kind
  announced_eq : r.announced = paths.length
  listed_isPrefix : r.listed <+: paths
  listed_add_further : r.listed.length + r.further?.getD 0 = r.announced
  further_pos : ∀ k ∈ r.further?, 0 < k ∧ listedPaths + k = r.announced

/-- What a report says of a kind with some files. -/
def ofFiles (kind : String) (paths : List Path) : KindReport where
  kind := kind
  announced := paths.length
  listed := paths.take listedPaths
  further? := if listedPaths < paths.length then some (paths.length - listedPaths) else none

theorem lines_ofFiles (kind : String) (paths : List Path) :
    (ofFiles kind paths).lines = kindLines kind paths := by
  unfold lines ofFiles kindLines
  split_ifs <;> rfl

theorem covers_ofFiles (kind : String) (paths : List Path) :
    (ofFiles kind paths).Covers kind paths := by
  have hlisted : (ofFiles kind paths).listed.length = min listedPaths paths.length :=
    List.length_take
  by_cases hmore : listedPaths < paths.length
  · have hfurther : (ofFiles kind paths).further? = some (paths.length - listedPaths) :=
      if_pos hmore
    refine ⟨rfl, rfl, List.take_prefix _ _, ?_, fun k hk => ?_⟩
    · rw [hlisted, hfurther, Option.getD_some]
      show _ = paths.length
      omega
    · rw [hfurther, Option.mem_some] at hk
      show 0 < k ∧ listedPaths + k = paths.length
      omega
  · have hfurther : (ofFiles kind paths).further? = none := if_neg hmore
    refine ⟨rfl, rfl, List.take_prefix _ _, ?_, fun k hk => ?_⟩
    · rw [hlisted, hfurther, Option.getD_none]
      show _ = paths.length
      omega
    · rw [hfurther] at hk
      cases hk

end KindReport

/-- The line of a report on an operation. -/
def operationLine (entry : Operation × Nat) : String :=
  "  " ++ entry.1.title ++ ": " ++ toString entry.2 ++ "\n"

/-- The report of a summary is made of the numbers of its operations and of what is said of its
kinds, in their order, and that accounts for all their files. -/
theorem report_eq (s : FailureSummary) : ∃ reports : List KindReport,
    List.Forall₂ (fun entry r => r.Covers entry.1 entry.2) s.byKind reports ∧
      s.report = String.join ("\nFailure breakdown:\n" :: s.byOperation.map operationLine ++
        "\nError categories:\n" :: reports.flatMap KindReport.lines) := by
  refine ⟨s.byKind.map fun entry => .ofFiles entry.1 entry.2, ?_, ?_⟩
  · rw [List.forall₂_map_right_iff, List.forall₂_same]
    exact fun entry _ => KindReport.covers_ofFiles entry.1 entry.2
  · rw [List.flatMap_map]
    simp only [KindReport.lines_ofFiles]
    rfl

/-- A summary of failures loses none of them. It is what becomes of filing them one after the other.
The number of failures is the sum of the numbers of the operations, and of the numbers of files of
the kinds. Every operation that failed is there once, with the number of its failures, and every
kind once, with the files of its failures in the order of the failures. And for every kind the
files that the report lists and those that it counts are as many as it announces. -/
theorem ofFailures_accounts (failures : List Failure) :
    let s := ofFailures failures
    s = failures.foldl file empty ∧ s.Balanced failures.length ∧
      KeysOrdered s.byOperation ∧ KeysOrdered s.byKind ∧
      (∀ o n, (o, n) ∈ s.byOperation ↔ n = failures.countP (·.operation = o) ∧ 0 < n) ∧
      (∀ kind paths, (kind, paths) ∈ s.byKind ↔ paths = pathsOf kind failures ∧ paths ≠ []) ∧
      ∃ reports : List KindReport,
        List.Forall₂ (fun entry r => r.Covers entry.1 entry.2) s.byKind reports ∧
          s.report = String.join ("\nFailure breakdown:\n" :: s.byOperation.map operationLine ++
            "\nError categories:\n" :: reports.flatMap KindReport.lines) :=
  ⟨ofFailures_eq_foldl failures, balanced_ofFailures failures, keysOrdered_byOperation failures,
    keysOrdered_byKind failures, fun _ _ => mem_byOperation_iff, fun _ _ => mem_byKind_iff,
    report_eq _⟩

end FailureSummary

end Scaffold
