import Mathlib.Data.List.Infix
import Scaffold.Text.Pieces

/-!
# Where a phrase occurs

A phrase occurs in a text when it is an infix of it (`occursIn_iff`). In a text that was put
together a phrase may also occur over a joint; it does not where a character stands that the phrase
does not have (`infix_append_cons_iff`), nor at the end of a lead that no occurrence can begin in
(`infix_append_iff_of_begins_nowhere`).
-/

namespace Scaffold.Text

/-- The search is for infixes. -/
theorem occursIn_iff {t s : List Char} : occursIn t s = true ↔ t <:+: s := by
  induction s with
  | nil => rw [occursIn, List.isEmpty_iff, List.infix_nil]
  | cons c s ih =>
    rw [occursIn, Bool.or_eq_true, List.isPrefixOf_iff_prefix, ih, List.infix_cons_iff]

theorem mentions_iff {s t : String} : mentions s t = true ↔ t.toList <:+: s.toList :=
  occursIn_iff

variable {α : Type} {c : α} {t front back : List α}

/-- What has not the character `c` begins a text before it or not at all. -/
theorem prefix_append_cons_iff (h : c ∉ t) : t <+: front ++ c :: back ↔ t <+: front := by
  refine ⟨fun hprefix => ?_, fun hprefix => hprefix.trans (List.prefix_append _ _)⟩
  rcases List.prefix_or_prefix_of_prefix hprefix (List.prefix_append front (c :: back)) with
    hshort | ⟨rest, rfl⟩
  · exact hshort
  · -- What goes on behind the front begins with `c`.
    rw [List.prefix_append_right_inj] at hprefix
    cases rest with
    | nil => rw [List.append_nil]
    | cons d rest =>
      obtain rfl := (List.cons_prefix_cons.1 hprefix).1
      exact absurd (List.mem_append_right front List.mem_cons_self) h

/-- What has not the character `c` occurs on one side of it. -/
theorem infix_append_cons_iff (h : c ∉ t) :
    t <:+: front ++ c :: back ↔ t <:+: front ∨ t <:+: back := by
  induction front with
  | nil =>
    have hbegins : t <+: [] ++ c :: back ↔ t <+: [] := prefix_append_cons_iff h
    rw [List.nil_append] at hbegins ⊢
    rw [List.infix_cons_iff, hbegins, List.infix_nil, List.prefix_nil]
  | cons d front ih =>
    have hbegins : t <+: (d :: front) ++ c :: back ↔ t <+: d :: front := prefix_append_cons_iff h
    rw [List.cons_append] at hbegins ⊢
    rw [List.infix_cons_iff, hbegins, ih, List.infix_cons_iff, or_assoc]

/-- No occurrence of `t` can begin in `lead`: wherever it would begin, the two differ before either
ends. -/
def BeginsNowhereIn (t lead : List α) : Prop :=
  ∀ u ∈ lead.tails, u ≠ [] → ¬ t <+: u ∧ ¬ u <+: t

instance [DecidableEq α] (t lead : List α) : Decidable (BeginsNowhereIn t lead) :=
  inferInstanceAs (Decidable (∀ u ∈ lead.tails, u ≠ [] → ¬ t <+: u ∧ ¬ u <+: t))

/-- Behind such a lead nothing new occurs. -/
theorem infix_append_iff_of_begins_nowhere {lead : List α} (h : BeginsNowhereIn t lead) :
    t <:+: lead ++ back ↔ t <:+: back := by
  induction lead with
  | nil => rw [List.nil_append]
  | cons d lead ih =>
    have hhere : ¬ t <+: (d :: lead) ++ back := by
      have htail : d :: lead ∈ (d :: lead).tails := (List.mem_tails _ _).2 List.suffix_rfl
      obtain ⟨hlong, hshort⟩ := h (d :: lead) htail (List.cons_ne_nil d lead)
      intro hprefix
      exact (List.prefix_or_prefix_of_prefix hprefix (List.prefix_append _ back)).elim hlong hshort
    have hrest : BeginsNowhereIn t lead := fun u hu =>
      h u ((List.mem_tails _ _).2 (((List.mem_tails _ _).1 hu).trans (List.suffix_cons d lead)))
    rw [List.cons_append] at hhere ⊢
    rw [List.infix_cons_iff, or_iff_right hhere, ih hrest]

end Scaffold.Text
