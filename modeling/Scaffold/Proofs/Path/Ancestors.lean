import Mathlib.Data.List.Basic
import Scaffold.Proofs.Path
import Scaffold.Proofs.Text.Lines

/-!
# What is above a path

A path is written with segments, of which some are idle and each of the others stands for one
component. So every ancestor of a path has the components of the path without some at the end, and
every such list of components is that of an ancestor, as long as it keeps the root
(`Path.exists_mem_parents_iff`). What is above what is therefore a matter of places and not of
spellings: a path that is not empty is above another exactly when its components are a proper prefix
of those of the other (`Path.above_iff`).
-/

namespace Scaffold.Path

open Text (piecesOf)

/-! ## Segments and their components -/

/-- The components of a segment, with the segments before it. The one that opens a relative path may
stand for a `.`. -/
def contribution (absolute : Bool) (s : List Char) (before : List (List Char)) : List Component :=
  if absolute = false ∧ before = [] then openingOf s else (componentOf? s).toList

/-- The components that every path has of the absolute or the relative ones. -/
def base (absolute : Bool) : List Component :=
  if absolute then [.root] else []

/-- The components of segments, which are given last first. -/
def componentsOf (absolute : Bool) : List (List Char) → List Component
  | [] => base absolute
  | s :: before => componentsOf absolute before ++ contribution absolute s before

section Segments

variable {absolute : Bool} {s : List Char} {before reversed : List (List Char)}

/-- Only the empty segment and the single dot stand for no component. -/
theorem componentOf?_eq_none_iff : componentOf? s = none ↔ s = [] ∨ s = ['.'] := by
  unfold componentOf?
  split <;> simp_all

/-- A segment is idle exactly when it stands for nothing. -/
theorem contribution_eq_nil_iff :
    contribution absolute s before = [] ↔ isIdle absolute s before = true := by
  unfold contribution openingOf isIdle
  by_cases hopening : absolute = false ∧ before = []
  · obtain ⟨rfl, rfl⟩ := hopening
    by_cases hdot : s = ['.']
    · simp [hdot]
    · simp [hdot, componentOf?_eq_none_iff]
  · have hbefore : absolute = true ∨ before ≠ [] := by
      cases absolute
      · exact .inr fun h => hopening ⟨rfl, h⟩
      · exact .inl rfl
    rw [if_neg hopening]
    simp [componentOf?_eq_none_iff, hbefore]

/-- A segment that is not idle stands for one component. -/
theorem exists_contribution (h : isIdle absolute s before = false) :
    ∃ x, contribution absolute s before = [x] := by
  have hne : contribution absolute s before ≠ [] := by
    rw [ne_eq, contribution_eq_nil_iff, h]
    exact Bool.false_ne_true
  have hlength : (contribution absolute s before).length ≤ 1 := by
    unfold contribution openingOf
    split_ifs
    · exact Nat.le_refl 1
    · cases componentOf? s <;> simp
    · cases componentOf? s <;> simp
  exact List.length_eq_one_iff.1
    (Nat.le_antisymm hlength (List.length_pos_iff.2 hne))

theorem componentsOf_true (reversed : List (List Char)) :
    componentsOf true reversed = .root :: reversed.reverse.filterMap componentOf? := by
  induction reversed with
  | nil => rfl
  | cons s before ih =>
    rw [componentsOf, ih, List.reverse_cons, List.filterMap_append, List.cons_append]
    cases h : componentOf? s <;> simp [contribution, h]

theorem componentsOf_false {first : List Char} {rest : List (List Char)}
    (h : reversed.reverse = first :: rest) :
    componentsOf false reversed = openingOf first ++ rest.filterMap componentOf? := by
  induction reversed generalizing rest with
  | nil => cases h
  | cons s before ih =>
    rw [List.reverse_cons] at h
    cases hbefore : before.reverse with
    | nil =>
      obtain rfl := List.reverse_eq_nil_iff.1 hbefore
      obtain ⟨rfl, rfl⟩ := List.cons.inj h
      simp [componentsOf, base, contribution]
    | cons first' rest' =>
      rw [hbefore, List.cons_append] at h
      obtain ⟨rfl, rfl⟩ := List.cons.inj h
      have hne : before ≠ [] := by
        rintro rfl
        cases hbefore
      rw [componentsOf, ih hbefore, contribution, if_neg (fun hopening => hne hopening.2),
        List.filterMap_append, List.append_assoc]
      cases h : componentOf? s <;> simp [h]

/-- Dropping idle segments at the end drops no component. -/
theorem componentsOf_settle (reversed : List (List Char)) :
    componentsOf absolute (settle absolute reversed) = componentsOf absolute reversed := by
  induction reversed with
  | nil => rfl
  | cons s before ih =>
    rw [settle]
    split
    · rename_i hidle
      rw [ih, componentsOf, contribution_eq_nil_iff.2 hidle, List.append_nil]
    · rfl

theorem settle_suffix (reversed : List (List Char)) :
    settle absolute reversed <:+ reversed := by
  induction reversed with
  | nil => exact List.suffix_rfl
  | cons s before ih =>
    rw [settle]
    split
    · exact ih.trans (List.suffix_cons s before)
    · exact List.suffix_rfl

end Segments

/-! ## Writing segments -/

/-- Segments, last first, that are read again as they are when they are written: none has a
separator, and a relative path does not open with an empty one. -/
structure Readable (absolute : Bool) (reversed : List (List Char)) : Prop where
  plain : ∀ s ∈ reversed, ∀ c ∈ s, isSeparator c = false
  opening : absolute = false → reversed.getLast? ≠ some []

section Readable

variable {absolute : Bool} {reversed reversed' : List (List Char)}

theorem Readable.of_suffix (h : Readable absolute reversed) (hsuffix : reversed' <:+ reversed) :
    Readable absolute reversed' := by
  refine ⟨fun s hs => h.plain s (hsuffix.subset hs), fun hrelative hlast => ?_⟩
  obtain ⟨front, rfl⟩ := hsuffix
  have hopening := h.opening hrelative
  rw [List.getLast?_append, hlast] at hopening
  exact hopening rfl

/-- The path written with segments has their components. -/
theorem Readable.components_ofSegments (h : Readable absolute reversed) :
    (ofSegments absolute reversed).components = componentsOf absolute reversed := by
  have hslash : isSeparator '/' = true := rfl
  have hplain : ∀ s ∈ reversed.reverse, ∀ c ∈ s, isSeparator c = false := fun s hs =>
    h.plain s (List.mem_reverse.1 hs)
  have hpieces (hne : reversed.reverse ≠ []) :
      piecesOf isSeparator (['/'].intercalate reversed.reverse) = reversed.reverse :=
    Text.piecesOf_intercalate hslash hne hplain
  cases absolute with
  | true =>
    have htext : (ofSegments true reversed).text.toList =
        '/' :: ['/'].intercalate reversed.reverse := by
      simp [ofSegments]
    rw [components, htext]
    simp only [hslash, if_true]
    rw [componentsOf_true]
    cases hreverse : reversed.reverse with
    | nil => rfl
    | cons first rest =>
      rw [hreverse] at hpieces
      rw [hpieces (List.cons_ne_nil first rest)]
  | false =>
    have htext : (ofSegments false reversed).text.toList =
        ['/'].intercalate reversed.reverse := by
      simp [ofSegments]
    rw [components, htext]
    cases hreverse : reversed.reverse with
    | nil =>
      obtain rfl := List.reverse_eq_nil_iff.1 hreverse
      rfl
    | cons first rest =>
      rw [hreverse] at hpieces hplain
      have hfirst : first ≠ [] := by
        have hopening := h.opening rfl
        rw [← List.head?_reverse, hreverse, List.head?_cons] at hopening
        exact fun hnil => hopening (congrArg some hnil)
      -- The text begins with the first character of the first segment, which is no separator.
      obtain ⟨c, cs, rfl⟩ := List.exists_cons_of_ne_nil hfirst
      have hc : isSeparator c = false := hplain _ List.mem_cons_self c List.mem_cons_self
      have hbody : ∃ tail, ['/'].intercalate ((c :: cs) :: rest) = c :: tail := by
        cases rest with
        | nil => exact ⟨cs, List.intercalate_singleton⟩
        | cons t rest => exact ⟨_, List.intercalate_cons_cons⟩
      obtain ⟨tail, htail⟩ := hbody
      have hpieces := hpieces (List.cons_ne_nil (c :: cs) rest)
      rw [htail] at hpieces ⊢
      simp only [hc, Bool.false_eq_true, if_false, hpieces]
      exact (componentsOf_false hreverse).symm

/-! ## Dropping segments -/

/-- Segments of a path have a component, if there are any. -/
theorem Readable.componentsOf_ne_nil (h : Readable absolute reversed) (hne : reversed ≠ []) :
    componentsOf absolute reversed ≠ [] := by
  induction reversed with
  | nil => exact absurd rfl hne
  | cons s before ih =>
    have hcomponents : componentsOf absolute (s :: before) =
        componentsOf absolute before ++ contribution absolute s before := rfl
    rw [hcomponents, ne_eq, List.append_eq_nil_iff]
    rintro ⟨hbefore, hcontribution⟩
    cases before with
    | cons t rest =>
      exact ih (h.of_suffix (List.suffix_cons s (t :: rest))) (List.cons_ne_nil t rest) hbefore
    | nil =>
      -- The only segment is that of a relative path, and so it is not empty.
      rw [contribution_eq_nil_iff] at hcontribution
      cases absolute with
      | true => cases hbefore
      | false =>
        have hopening := h.opening rfl
        simp [isIdle] at hcontribution
        simp [hcontribution] at hopening

/-- What is left of segments has the components of those that are left. -/
theorem Readable.components_settle (h : Readable absolute reversed) :
    (ofSegments absolute (settle absolute reversed)).components =
      componentsOf absolute reversed := by
  rw [(h.of_suffix (settle_suffix reversed)).components_ofSegments, componentsOf_settle]

/-- The components that are left whatever is dropped come first. -/
theorem base_isPrefix (absolute : Bool) (reversed : List (List Char)) :
    base absolute <+: componentsOf absolute reversed := by
  induction reversed with
  | nil => exact List.prefix_rfl
  | cons s before ih => exact ih.trans (List.prefix_append _ _)

/-- What is left after segments are dropped has a proper prefix of their components, and every
proper prefix that keeps the root is left at some time. -/
theorem Readable.exists_mem_parentsOf_iff (h : Readable absolute reversed) {k : List Component} :
    (∃ a ∈ parentsOf absolute reversed, a.components = k) ↔
      base absolute <+: k ∧ k <+: componentsOf absolute reversed ∧
        k ≠ componentsOf absolute reversed := by
  induction reversed with
  | nil =>
    constructor
    · rintro ⟨a, ha, -⟩
      cases ha
    · rintro ⟨hbase, hinit, hne⟩
      exact absurd (hinit.eq_of_length (Nat.le_antisymm hinit.length_le hbase.length_le)) hne
  | cons s before ih =>
    have hbefore : Readable absolute before := h.of_suffix (List.suffix_cons s before)
    have ih := ih hbefore
    have hcomponents : componentsOf absolute (s :: before) =
        componentsOf absolute before ++ contribution absolute s before := rfl
    rw [parentsOf, hcomponents]
    cases hidle : isIdle absolute s before with
    | true =>
      rw [if_pos rfl, contribution_eq_nil_iff.2 hidle, List.append_nil]
      exact ih
    | false =>
      -- The nearest ancestor has all components but the last, and its ancestors follow.
      obtain ⟨x, hx⟩ := exists_contribution hidle
      have hne : componentsOf absolute before ≠ componentsOf absolute before ++ [x] := by simp
      rw [if_neg Bool.false_ne_true, hx]
      simp only [List.mem_cons, exists_eq_or_imp, ih, hbefore.components_settle,
        List.prefix_concat_iff]
      constructor
      · rintro (rfl | ⟨hbase, hinit, -⟩)
        · exact ⟨base_isPrefix absolute before, .inr List.prefix_rfl, hne⟩
        · refine ⟨hbase, .inr hinit, ?_⟩
          rintro rfl
          have hlength := hinit.length_le
          rw [List.length_append, List.length_singleton] at hlength
          omega
      · rintro ⟨hbase, rfl | hinit, hne'⟩
        · exact absurd rfl hne'
        · by_cases hk : componentsOf absolute before = k
          · exact .inl hk
          · exact .inr ⟨hbase, hinit, fun h => hk h.symm⟩

/-- Of two things that are left, the later one is a prefix of the other. -/
theorem Readable.pairwise_parentsOf (h : Readable absolute reversed) :
    (parentsOf absolute reversed).Pairwise fun a b => b.components <+: a.components := by
  induction reversed with
  | nil => exact List.Pairwise.nil
  | cons s before ih =>
    have hbefore : Readable absolute before := h.of_suffix (List.suffix_cons s before)
    rw [parentsOf]
    split
    · exact ih hbefore
    · refine List.pairwise_cons.2 ⟨fun b hb => ?_, ih hbefore⟩
      have hb := hbefore.exists_mem_parentsOf_iff.1 ⟨b, hb, rfl⟩
      rw [hbefore.components_settle]
      exact hb.2.1

end Readable

/-! ## The segments of a path -/

variable {p q r : Path}

/-- The segments of a path, last first. -/
def segments (p : Path) : List (List Char) :=
  match p.text.toList with
  | [] => []
  | c :: cs =>
    (piecesOf isSeparator (if isSeparator c then cs else c :: cs)).reverse

theorem components_eq (p : Path) : p.components = componentsOf p.isAbsolute p.segments := by
  unfold components isAbsolute segments
  cases p.text.toList with
  | nil => rfl
  | cons c cs =>
    cases hc : isSeparator c with
    | true => simp [hc, componentsOf_true]
    | false =>
      simp only [hc, Bool.false_eq_true, if_false, List.head?_cons, Option.any_some]
      cases hpieces : piecesOf isSeparator (c :: cs) with
      | nil => exact absurd hpieces (Text.piecesOf_ne_nil _ _)
      | cons first rest =>
        exact (componentsOf_false (List.reverse_reverse _)).symm

theorem parents_eq (p : Path) : p.parents = parentsOf p.isAbsolute p.segments := by
  unfold parents isAbsolute segments
  cases p.text.toList with
  | nil => rfl
  | cons c cs =>
    cases hc : isSeparator c with
    | true => simp [hc]
    | false => simp [hc]

/-- A relative path that is not empty does not open with a separator. -/
theorem readable_segments (p : Path) : Readable p.isAbsolute p.segments := by
  unfold isAbsolute segments
  cases p.text.toList with
  | nil => exact ⟨nofun, fun _ => nofun⟩
  | cons c cs =>
    constructor
    · intro s hs a ha
      exact Text.not_separator_of_mem_piecesOf (List.mem_reverse.1 hs) ha
    · intro hrelative
      have hc : isSeparator c = false := hrelative
      simp only [hc, Bool.false_eq_true, if_false, List.getLast?_reverse, piecesOf]
      split <;> simp

/-- Only the empty path has no component. -/
theorem components_eq_nil_iff : p.components = [] ↔ p.isEmpty = true := by
  have hempty : p.isEmpty = true ↔ p.text.toList = [] := by
    rw [isEmpty, String.isEmpty_iff, String.toList_eq_nil_iff]
  rw [hempty]
  constructor
  · intro hnil
    by_contra hne
    obtain ⟨c, cs, htext⟩ := List.exists_cons_of_ne_nil hne
    have hsegments : p.segments ≠ [] := by
      simp [segments, htext, Text.piecesOf_ne_nil]
    rw [components_eq] at hnil
    exact p.readable_segments.componentsOf_ne_nil hsegments hnil
  · intro htext
    rw [components, htext]

/-! ## Ancestors -/

/-- The ancestors of a path are, by components, its proper prefixes that keep the root. -/
theorem exists_mem_parents_iff {k : List Component} :
    (∃ a ∈ p.parents, a.components = k) ↔
      base p.isAbsolute <+: k ∧ k <+: p.components ∧ k ≠ p.components := by
  rw [parents_eq, components_eq]
  exact p.readable_segments.exists_mem_parentsOf_iff

/-- A path is above another: it is one of its proper ancestors, in some spelling. -/
def Above (p q : Path) : Prop :=
  ∃ a ∈ q.parents, a.Same p

/-- A path that is not empty is above those of which its components are a proper prefix. -/
theorem above_iff (hp : p.isEmpty = false) :
    p.Above q ↔ p.components <+: q.components ∧ ¬ p.Same q := by
  have hne : p.components ≠ [] := by
    rw [ne_eq, components_eq_nil_iff, hp]
    exact Bool.false_ne_true
  have habove : p.Above q ↔ _ := exists_mem_parents_iff
  rw [habove]
  refine ⟨fun h => h.2, fun h => ⟨?_, h⟩⟩
  -- What is a prefix and not empty begins with the root, if the other path does.
  have hbase : base q.isAbsolute <+: q.components := by
    rw [components_eq]
    exact base_isPrefix _ _
  obtain ⟨hinit, -⟩ := h
  refine List.prefix_of_prefix_length_le hbase hinit ?_
  have hpos : 0 < p.components.length := List.length_pos_iff.2 hne
  have hlength : (base q.isAbsolute).length ≤ 1 := by
    unfold base
    split <;> simp
  omega

/-- Whether a path is empty depends on its place only. -/
theorem isEmpty_congr (h : p.Same q) : p.isEmpty = q.isEmpty := by
  have hcomponents : p.components = q.components := h
  rw [Bool.eq_iff_iff, ← components_eq_nil_iff, ← components_eq_nil_iff, hcomponents]

/-- A path with a prefix that is not empty is not empty. -/
theorem isEmpty_eq_false_of_isPrefix (hp : p.isEmpty = false)
    (hinit : p.components <+: q.components) : q.isEmpty = false := by
  by_contra hempty
  have hnil : q.components = [] := components_eq_nil_iff.2 (by simpa using hempty)
  rw [hnil, List.prefix_nil, components_eq_nil_iff, hp] at hinit
  cases hinit

/-- Later ancestors are prefixes of earlier ones. -/
theorem pairwise_ancestors (p : Path) :
    p.ancestors.Pairwise fun a b => b.components <+: a.components := by
  refine List.pairwise_cons.2 ⟨fun a ha => ?_, ?_⟩
  · exact (exists_mem_parents_iff.1 ⟨a, ha, rfl⟩).2.1
  · rw [parents_eq]
    exact p.readable_segments.pairwise_parentsOf

/-- Where a test that fails once fails ever after, the entries up to the first failure are those
that pass. -/
theorem mem_takeWhile_iff_of_pairwise {α : Type} {f : α → Bool} {l : List α}
    (h : l.Pairwise fun a b => f b = true → f a = true) {a : α} :
    a ∈ l.takeWhile f ↔ a ∈ l ∧ f a = true := by
  induction l with
  | nil => simp
  | cons b l ih =>
    obtain ⟨hb, hl⟩ := List.pairwise_cons.1 h
    rw [List.takeWhile_cons]
    cases hfb : f b with
    | true =>
      rw [if_pos rfl, List.mem_cons, List.mem_cons, ih hl]
      constructor
      · rintro (rfl | ⟨ha, hfa⟩)
        · exact ⟨.inl rfl, hfb⟩
        · exact ⟨.inr ha, hfa⟩
      · rintro ⟨rfl | ha, hfa⟩
        · exact .inl rfl
        · exact .inr ⟨ha, hfa⟩
    | false =>
      rw [if_neg Bool.false_ne_true]
      refine ⟨nofun, fun ⟨ha, hfa⟩ => ?_⟩
      rcases List.mem_cons.1 ha with rfl | ha
      · exact absurd hfa (by simp [hfb])
      · exact absurd (hb a ha hfa) (by simp [hfb])

/-- The places of a path and its ancestors up to the first empty one are the prefixes of its place
that are not empty. -/
theorem exists_mem_takeWhile_ancestors_iff :
    (∃ a ∈ p.ancestors.takeWhile (fun a => !a.isEmpty), a.Same q) ↔
      q.isEmpty = false ∧ q.components <+: p.components := by
  have hempty : p.ancestors.Pairwise fun a b => (!b.isEmpty) = true → (!a.isEmpty) = true := by
    refine p.pairwise_ancestors.imp fun {a b} hinit hb => ?_
    rw [Bool.not_eq_true'] at hb ⊢
    exact isEmpty_eq_false_of_isPrefix hb hinit
  simp only [mem_takeWhile_iff_of_pairwise hempty, Bool.not_eq_true']
  constructor
  · rintro ⟨a, ⟨ha, hne⟩, hsame⟩
    have hcomponents : a.components = q.components := hsame
    refine ⟨by rw [← isEmpty_congr hsame, hne], ?_⟩
    rw [← hcomponents]
    rcases List.mem_cons.1 ha with rfl | ha
    · exact List.prefix_rfl
    · exact (exists_mem_parents_iff.1 ⟨a, ha, rfl⟩).2.1
  · rintro ⟨hne, hinit⟩
    by_cases hsame : q.Same p
    · exact ⟨p, ⟨List.mem_cons_self, by rw [← isEmpty_congr hsame, hne]⟩, hsame.symm⟩
    · obtain ⟨a, ha, haq⟩ := (above_iff hne).2 ⟨hinit, hsame⟩
      exact ⟨a, ⟨List.mem_cons_of_mem p ha, by rw [isEmpty_congr haq, hne]⟩, haq⟩

end Scaffold.Path
