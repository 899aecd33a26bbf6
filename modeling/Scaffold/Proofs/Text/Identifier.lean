import Mathlib.Data.List.Sort
import Mathlib.Data.List.TakeWhile
import Scaffold.Text.Identifier
import Scaffold.Text.Lowercase

/-!
# Characters of identifiers in lower case

What begins an identifier also continues one (`isIdentifierContinue_of_start`), and so does its
lower case, character for character (`isIdentifierContinue_of_mem_lowercase`). Not every lower case
does: that of a letter in a circle continues no identifier. But such a letter begins none either.

Both rest on tables of ranges that are too long to compare every range with all others. They are in
order, so one walk through both drops the ranges that lie in others (`Ranges.remaining`).
-/

namespace Scaffold.Text

namespace Ranges

theorem has_iff {r : Ranges} {c : Char} :
    r.has c = true ↔ ∃ w ∈ r, w.1 ≤ c.toNat ∧ c.toNat ≤ w.2 := by
  simp only [has, List.any_eq_true, Bool.and_eq_true, decide_eq_true_eq]

/-- What remains of some ranges when each of the others drops those from the front that lie in
it. -/
def remaining (wide narrow : Ranges) : Ranges :=
  wide.foldl (fun rest w => rest.dropWhile fun n => Nat.ble w.1 n.1 && Nat.ble n.2 w.2) narrow

/-- Where nothing remains, each range lies in one of the others. -/
theorem exists_within {wide narrow : Ranges} (h : remaining wide narrow = []) :
    ∀ n ∈ narrow, ∃ w ∈ wide, w.1 ≤ n.1 ∧ n.2 ≤ w.2 := by
  induction wide generalizing narrow with
  | nil =>
    obtain rfl : narrow = [] := h
    exact fun n hn => absurd hn List.not_mem_nil
  | cons w wide ih =>
    intro n hn
    have hsplit := List.takeWhile_append_dropWhile
      (p := fun n : Nat × Nat => Nat.ble w.1 n.1 && Nat.ble n.2 w.2) (l := narrow)
    rw [← hsplit, List.mem_append] at hn
    rcases hn with hdropped | hkept
    · have hin := List.mem_takeWhile_imp hdropped
      rw [Bool.and_eq_true, Nat.ble_eq, Nat.ble_eq] at hin
      exact ⟨w, List.mem_cons_self, hin⟩
    · obtain ⟨w', hw', hin⟩ := ih h n hkept
      exact ⟨w', List.mem_cons_of_mem w hw', hin⟩

end Ranges

/-! ## Characters that begin and continue an identifier -/

/-- The ranges below ASCII's end say the same as the test for ASCII characters. -/
theorem continue_ascii : ∀ w ∈ identifierContinueRanges, w.1 < 0x80 →
    ∀ n < 0x80, w.1 ≤ n → n ≤ w.2 →
      ((Char.ofNat n).isAlphanum || Char.ofNat n == '_') = true := by
  decide +kernel

theorem isIdentifierContinue_of_has {c : Char} (h : identifierContinueRanges.has c = true) :
    isIdentifierContinue c = true := by
  by_cases hc : 0x80 ≤ c.toNat
  · simp [isIdentifierContinue, hc, h]
  · obtain ⟨w, hw, hlo, hhi⟩ := Ranges.has_iff.1 h
    have hascii := continue_ascii w hw (by omega) c.toNat (by omega) hlo hhi
    rw [Char.ofNat_toNat] at hascii
    rw [isIdentifierContinue, hascii, Bool.true_or]

theorem start_within_continue :
    Ranges.remaining identifierContinueRanges identifierStartRanges = [] := by
  decide +kernel

theorem toNat_lt_of_isAlpha {c : Char} (h : c.isAlpha = true) : c.toNat < 0x80 := by
  unfold Char.isAlpha Char.isUpper Char.isLower at h
  simp only [ge_iff_le, UInt32.le_iff_toNat_le, Bool.or_eq_true, Bool.and_eq_true,
    decide_eq_true_eq] at h
  have hcode : c.toNat = c.val.toNat := rfl
  have hupper : 'Z'.val.toNat = 0x5A := rfl
  have hlower : 'z'.val.toNat = 0x7A := rfl
  omega

/-- Beyond ASCII, what begins an identifier stands in the table. -/
theorem has_of_start {c : Char} (h : isIdentifierStart c = true) (hc : ¬ c.toNat < 0x80) :
    identifierStartRanges.has c = true := by
  rw [isIdentifierStart, Bool.or_eq_true, Bool.and_eq_true] at h
  rcases h with halpha | ⟨-, hhas⟩
  · exact absurd (toNat_lt_of_isAlpha halpha) hc
  · exact hhas

/-- What begins an identifier continues one. -/
theorem isIdentifierContinue_of_start {c : Char} (h : isIdentifierStart c = true) :
    isIdentifierContinue c = true := by
  rw [isIdentifierStart, Bool.or_eq_true, Bool.and_eq_true] at h
  rcases h with halpha | ⟨-, hhas⟩
  · simp [isIdentifierContinue, Char.isAlphanum, halpha]
  · obtain ⟨n, hn, hlo, hhi⟩ := Ranges.has_iff.1 hhas
    obtain ⟨w, hw, hlow, hhigh⟩ := Ranges.exists_within start_within_continue n hn
    exact isIdentifierContinue_of_has (Ranges.has_iff.2 ⟨w, hw, by omega, by omega⟩)

/-! ## Lower case -/

/-- The code points that a run of mappings leads to. -/
def CaseRun.target (r : CaseRun) : Nat × Nat :=
  ((r.first + r.shift).toNat, (r.last + r.shift).toNat)

/-- The run of the letters in circles. -/
def circled : CaseRun := ⟨0x24B6, 0x24CF, 1, 26⟩

theorem targets_within_continue : Ranges.remaining identifierContinueRanges
    (((lowercaseRuns.filter (·.first ≠ circled.first)).map CaseRun.target).insertionSort
      fun a b => a.1 ≤ b.1) = [] := by
  decide +kernel

theorem circled_not_start : ∀ w ∈ identifierStartRanges,
    w.2 < circled.first ∨ circled.last < w.1 := by
  decide +kernel

theorem last_eq_of_circled : ∀ r ∈ lowercaseRuns, r.first = circled.first →
    r.last = circled.last := by
  decide +kernel

theorem range_valid : ∀ w ∈ identifierContinueRanges,
    w.2 < 0xD800 ∨ 0xDFFF < w.1 ∧ w.2 < 0x110000 := by
  decide +kernel

/-- A number in a range of the characters that continue an identifier stands for one of them. -/
theorem isIdentifierContinue_ofNat {w : Nat × Nat} {n : Nat} (hw : w ∈ identifierContinueRanges)
    (hlo : w.1 ≤ n) (hhi : n ≤ w.2) : isIdentifierContinue (Char.ofNat n) = true := by
  have hvalid : n.isValidChar := by
    have hrange := range_valid w hw
    unfold Nat.isValidChar
    omega
  have hcode : (Char.ofNat n).toNat = n := by
    rw [Char.ofNat, dif_pos hvalid]
    rfl
  exact isIdentifierContinue_of_has (Ranges.has_iff.2 ⟨w, hw, by omega, by omega⟩)

/-- A run that a character of the beginning of an identifier stands in leads to characters that
continue one. -/
theorem isIdentifierContinue_of_run {c : Char} {r : CaseRun}
    (hc : identifierStartRanges.has c = true) (hr : r ∈ lowercaseRuns)
    (hfirst : r.first ≤ c.toNat) (hlast : c.toNat ≤ r.last) :
    isIdentifierContinue (Char.ofNat (c.toNat + r.shift).toNat) = true := by
  -- The one run that leads elsewhere begins no identifier.
  have hother : r.first ≠ circled.first := by
    intro hcircled
    obtain ⟨n, hn, hlo, hhi⟩ := Ranges.has_iff.1 hc
    have happart := circled_not_start n hn
    have hsame := last_eq_of_circled r hr hcircled
    omega
  have htarget : r.target ∈ ((lowercaseRuns.filter (·.first ≠ circled.first)).map
      CaseRun.target).insertionSort fun a b => a.1 ≤ b.1 :=
    (List.mem_insertionSort _).2
      (List.mem_map_of_mem (List.mem_filter.2 ⟨hr, decide_eq_true hother⟩))
  obtain ⟨w, hw, hlo, hhi⟩ := Ranges.exists_within targets_within_continue r.target htarget
  simp only [CaseRun.target] at hlo hhi
  exact isIdentifierContinue_ofNat hw (by omega) (by omega)

theorem toLower_alpha : ∀ n < 0x80, (Char.ofNat n).isAlpha = true →
    (Char.ofNat n).toLower.isAlphanum = true := by
  decide +kernel

/-- The lower case of what begins an identifier continues one. -/
theorem isIdentifierContinue_of_mem_lowercase {c d : Char} (hc : isIdentifierStart c = true)
    (hd : d ∈ lowercase c) : isIdentifierContinue d = true := by
  rcases mem_lowercase_cases hd with
    ⟨hascii, rfl⟩ | rfl | rfl | ⟨hascii, r, hr, hfirst, hlast, rfl⟩ | rfl
  · have halpha : c.isAlpha = true := by
      simpa [isIdentifierStart, Nat.not_le.2 hascii] using hc
    have hlower := toLower_alpha c.toNat hascii (by rwa [Char.ofNat_toNat])
    rw [Char.ofNat_toNat] at hlower
    simp [isIdentifierContinue, hlower]
  · decide +kernel
  · decide +kernel
  · exact isIdentifierContinue_of_run (has_of_start hc hascii) hr hfirst hlast
  · exact isIdentifierContinue_of_start hc

end Scaffold.Text
