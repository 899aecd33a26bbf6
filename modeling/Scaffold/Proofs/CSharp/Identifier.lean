import Mathlib.Data.List.TakeWhile
import Scaffold.CSharp.Lexeme

/-!
# Identifiers

A name is an identifier when the token of an identifier reaches from its one end to the other
(`IsIdentifier`). The token is read greedily, part by part, where a part is a character or an escape
for one. No part begins like another that is longer, so the reading is no more than a decomposition
into parts: one that may begin an identifier, and further ones (`isIdentifier_iff`). Names can
therefore be put together, and no identifier has a separator of paths in it
(`IsIdentifier.slash_notMem`).
-/

namespace Scaffold.CSharp

/-- The name is an identifier from its one end to the other. -/
def IsIdentifier (name : String) : Prop :=
  name ≠ "" ∧ identifierLength name.toList = name.toList.length

instance (name : String) : Decidable (IsIdentifier name) :=
  inferInstanceAs (Decidable (name ≠ "" ∧ identifierLength name.toList = name.toList.length))

/-! ## Parts of identifiers -/

/-- A part of an identifier: a character that `p` allows, or an escape for a character. -/
inductive IsPart (p : Char → Bool) : List Char → Prop
  | char {c : Char} (allowed : p c = true) : IsPart p [c]
  | short {digits : List Char} (length : digits.length = 4)
      (hex : ∀ d ∈ digits, isHexDigit d = true) : IsPart p ('\\' :: 'u' :: digits)
  | long {digits : List Char} (length : digits.length = 8)
      (hex : ∀ d ∈ digits, isHexDigit d = true) : IsPart p ('\\' :: 'U' :: digits)

/-- The characters that begin an identifier without a mark. -/
def isOpening (c : Char) : Bool :=
  c == '_' || Text.isIdentifierStart c

/-- The length of a part at the front of a text, or zero. -/
def partLength (p : Char → Bool) (cs : List Char) : Nat :=
  match cs with
  | [] => 0
  | c :: _ => if p c then 1 else codePointLength cs

theorem identifierStartLength_eq (cs : List Char) :
    identifierStartLength cs = partLength isOpening cs := by
  cases cs <;> rfl

theorem identifierContinueLength_eq (cs : List Char) :
    identifierContinueLength cs = partLength Text.isIdentifierContinue cs := by
  cases cs <;> rfl

section Parts

variable {p : Char → Bool} {cs digits part rest : List Char} {n : Nat}

/-- The first `n` characters are all of a kind exactly when the text goes on behind `n` such. -/
theorem span_take_eq_iff : span p (cs.take n) = n ↔
    ∃ digits rest, cs = digits ++ rest ∧ digits.length = n ∧ ∀ d ∈ digits, p d = true := by
  constructor
  · -- A run of this kind that is as long as all `n` characters is all of them.
    intro h
    have hprefix : (cs.take n).takeWhile p <+: cs.take n := List.takeWhile_prefix p
    have hlength : (cs.take n).length ≤ n := List.length_take_le n cs
    have hall : (cs.take n).takeWhile p = cs.take n :=
      hprefix.eq_of_length_le (le_trans hlength (le_of_eq h.symm))
    refine ⟨cs.take n, cs.drop n, (List.take_append_drop n cs).symm, ?_,
      List.takeWhile_eq_self_iff.1 hall⟩
    rw [← hall]
    exact h
  · rintro ⟨digits, rest, rfl, rfl, hall⟩
    rw [List.take_left, span, List.takeWhile_eq_self_iff.2 hall]

/-- A part is read to its end, whatever follows. -/
theorem IsPart.length_eq (hp : p '\\' = false) (h : IsPart p part) (rest : List Char) :
    partLength p (part ++ rest) = part.length := by
  cases h with
  | char allowed => exact if_pos allowed
  | @short digits length hex =>
    have hspan : span isHexDigit ((digits ++ rest).take 4) = 4 :=
      span_take_eq_iff.2 ⟨digits, rest, rfl, length, hex⟩
    rw [List.length_cons, List.length_cons, length]
    exact (if_neg (Bool.eq_false_iff.1 hp)).trans (if_pos hspan)
  | @long digits length hex =>
    have hspan : span isHexDigit ((digits ++ rest).take 8) = 8 :=
      span_take_eq_iff.2 ⟨digits, rest, rfl, length, hex⟩
    rw [List.length_cons, List.length_cons, length]
    exact (if_neg (Bool.eq_false_iff.1 hp)).trans (if_pos hspan)

theorem IsPart.length_pos (h : IsPart p part) : 0 < part.length := by
  cases h <;> exact Nat.succ_pos _

/-- An escape that is read is a part. -/
theorem exists_isPart_of_codePointLength (p : Char → Bool) (h : codePointLength cs ≠ 0) :
    ∃ part rest, cs = part ++ rest ∧ IsPart p part ∧ part.length = codePointLength cs := by
  unfold codePointLength at h ⊢
  split at h
  · rename_i cs
    obtain ⟨hspan, -⟩ := ite_ne_right_iff.1 h
    obtain ⟨digits, rest, rfl, hlength, hex⟩ := span_take_eq_iff.1 hspan
    refine ⟨'\\' :: 'u' :: digits, rest, rfl, .short hlength hex, ?_⟩
    rw [List.length_cons, List.length_cons, hlength]
    exact (if_pos hspan).symm
  · rename_i cs
    obtain ⟨hspan, -⟩ := ite_ne_right_iff.1 h
    obtain ⟨digits, rest, rfl, hlength, hex⟩ := span_take_eq_iff.1 hspan
    refine ⟨'\\' :: 'U' :: digits, rest, rfl, .long hlength hex, ?_⟩
    rw [List.length_cons, List.length_cons, hlength]
    exact (if_pos hspan).symm
  · exact absurd rfl h

/-- What is read is a part. -/
theorem exists_isPart (h : partLength p cs ≠ 0) :
    ∃ part rest, cs = part ++ rest ∧ IsPart p part ∧ part.length = partLength p cs := by
  cases cs with
  | nil => exact absurd rfl h
  | cons c cs =>
    by_cases hc : p c = true
    · exact ⟨[c], cs, rfl, .char hc, (if_pos hc).symm⟩
    · have hescape : partLength p (c :: cs) = codePointLength (c :: cs) := if_neg hc
      rw [hescape] at h ⊢
      exact exists_isPart_of_codePointLength p h

theorem IsPart.slash_notMem (hp : p '/' = false) (h : IsPart p part) : '/' ∉ part := by
  have hhex : ∀ {digits : List Char}, (∀ d ∈ digits, isHexDigit d = true) → '/' ∉ digits :=
    fun hex hmem => absurd (hex '/' hmem) (by decide)
  cases h with
  | char allowed =>
    intro hmem
    rw [← List.mem_singleton.1 hmem, hp] at allowed
    exact Bool.noConfusion allowed
  | short _ hex => simpa using hhex hex
  | long _ hex => simpa using hhex hex

end Parts

/-! ## Identifiers as lists of parts -/

/-- The text goes on an identifier. -/
inductive Continues : List Char → Prop
  | nil : Continues []
  | append {part rest : List Char} (first : IsPart Text.isIdentifierContinue part)
      (further : Continues rest) : Continues (part ++ rest)

/-- The text is an identifier without a mark before it. -/
inductive IsPlain : List Char → Prop
  | mk {part rest : List Char} (first : IsPart isOpening part) (further : Continues rest) :
      IsPlain (part ++ rest)

variable {cs cs' : List Char}

theorem Continues.trans (h : Continues cs) (h' : Continues cs') : Continues (cs ++ cs') := by
  induction h with
  | nil => exact h'
  | append first _ ih =>
    rw [List.append_assoc]
    exact .append first ih

theorem Continues.of_all (h : cs.all Text.isIdentifierContinue = true) : Continues cs := by
  induction cs with
  | nil => exact .nil
  | cons c cs ih =>
    rw [List.all_cons, Bool.and_eq_true] at h
    exact .append (.char h.1) (ih h.2)

/-- Parts can be taken away again. -/
theorem Continues.of_append {part rest : List Char} (first : IsPart Text.isIdentifierContinue part)
    (h : Continues (part ++ rest)) : Continues rest := by
  -- Both ways to take a first part away are read alike, so they take equally much.
  have hlength := first.length_eq (by decide) rest
  generalize hcs : part ++ rest = cs at h hlength
  cases h with
  | nil =>
    have hpos := first.length_pos
    rw [(List.append_eq_nil_iff.1 hcs).1] at hpos
    exact absurd hpos (Nat.lt_irrefl 0)
  | @append part' rest' first' further =>
    rw [first'.length_eq (by decide)] at hlength
    obtain ⟨-, rfl⟩ := List.append_inj hcs hlength.symm
    exact further

/-- A text is read to its end exactly when it goes on an identifier. -/
theorem runLength_eq_length_iff {fuel : Nat} (hfuel : cs.length ≤ fuel) :
    runLength identifierContinueLength fuel cs = cs.length ↔ Continues cs := by
  induction fuel generalizing cs with
  | zero =>
    obtain rfl := List.eq_nil_of_length_eq_zero (Nat.le_zero.1 hfuel)
    exact iff_of_true rfl .nil
  | succ fuel ih =>
    rw [runLength, identifierContinueLength_eq]
    cases hstep : partLength Text.isIdentifierContinue cs with
    | zero =>
      -- Nothing can be read here, so the text must be at its end.
      refine ⟨fun h => ?_, fun h => ?_⟩
      · rw [List.eq_nil_of_length_eq_zero h.symm]
        exact .nil
      · cases h with
        | nil => rfl
        | append first _ =>
          rw [first.length_eq (by decide)] at hstep
          exact absurd hstep (Nat.ne_of_gt first.length_pos)
    | succ k =>
      have hread : partLength Text.isIdentifierContinue cs ≠ 0 := by
        rw [hstep]
        exact Nat.succ_ne_zero k
      obtain ⟨part, rest, rfl, first, hlength⟩ := exists_isPart hread
      rw [hstep] at hlength
      have hdrop : (part ++ rest).drop (k + 1) = rest := by rw [← hlength, List.drop_left]
      have hrest : rest.length ≤ fuel := by
        rw [List.length_append] at hfuel
        omega
      simp only [hdrop]
      rw [List.length_append, hlength, Nat.add_left_cancel_iff, ih hrest]
      exact ⟨.append first, .of_append first⟩

/-- Behind its first part, an identifier is read as far as the text goes on. -/
theorem plainIdentifierLength_append {part : List Char} (first : IsPart isOpening part)
    (rest : List Char) :
    plainIdentifierLength (part ++ rest) = part.length + run identifierContinueLength rest := by
  rw [plainIdentifierLength, identifierStartLength_eq, first.length_eq (by decide)]
  cases hlength : part.length with
  | zero => exact absurd hlength (Nat.ne_of_gt first.length_pos)
  | succ k =>
    show k + 1 + run identifierContinueLength ((part ++ rest).drop (k + 1)) = _
    rw [← hlength, List.drop_left]

theorem plainIdentifierLength_eq_length_iff :
    cs ≠ [] ∧ plainIdentifierLength cs = cs.length ↔ IsPlain cs := by
  have hrest {part rest : List Char} (first : IsPart isOpening part) :
      plainIdentifierLength (part ++ rest) = (part ++ rest).length ↔ Continues rest := by
    rw [plainIdentifierLength_append first, List.length_append, Nat.add_left_cancel_iff]
    exact runLength_eq_length_iff (Nat.le_refl _)
  constructor
  · rintro ⟨hne, hread⟩
    have hstart : partLength isOpening cs ≠ 0 := by
      intro h
      rw [plainIdentifierLength, identifierStartLength_eq, h] at hread
      exact hne (List.eq_nil_of_length_eq_zero hread.symm)
    obtain ⟨part, rest, rfl, first, -⟩ := exists_isPart hstart
    exact .mk first ((hrest first).1 hread)
  · rintro ⟨first, further⟩
    refine ⟨fun h => ?_, (hrest first).2 further⟩
    have hpos := first.length_pos
    rw [(List.append_eq_nil_iff.1 h).1] at hpos
    exact absurd hpos (Nat.lt_irrefl 0)

/-- No part begins with the mark of an identifier. -/
theorem not_isPart_mark {p : Char → Bool} (hp : p '@' = false) {part rest cs : List Char}
    (h : part ++ rest = '@' :: cs) : ¬ IsPart p part := by
  intro hpart
  cases hpart with
  | char allowed =>
    obtain ⟨rfl, -⟩ := List.cons.inj h
    rw [hp] at allowed
    exact Bool.noConfusion allowed
  | short | long => exact absurd (List.cons.inj h).1 (by decide)

theorem not_isPlain_mark : ¬ IsPlain ('@' :: cs) := by
  intro h
  generalize htext : '@' :: cs = text at h
  obtain ⟨first, -⟩ := h
  exact not_isPart_mark (by decide) htext.symm first

theorem not_continues_mark : ¬ Continues ('@' :: cs) := by
  intro h
  generalize htext : '@' :: cs = text at h
  cases h with
  | nil => exact List.cons_ne_nil _ _ htext
  | append first _ => exact not_isPart_mark (by decide) htext.symm first

theorem IsPlain.exists_cons (h : IsPlain cs) : ∃ c rest, cs = c :: rest :=
  List.exists_cons_of_ne_nil (plainIdentifierLength_eq_length_iff.2 h).1

/-- An underscore begins an identifier. -/
theorem isPlain_underscore_iff : IsPlain ('_' :: cs) ↔ Continues cs := by
  have hunderscore : IsPart isOpening ['_'] := .char rfl
  refine ⟨fun h => ?_, .mk hunderscore⟩
  have hread := (plainIdentifierLength_eq_length_iff.2 h).2
  rw [← List.singleton_append, plainIdentifierLength_append hunderscore, List.length_append,
    Nat.add_left_cancel_iff] at hread
  exact (runLength_eq_length_iff (Nat.le_refl _)).1 hread

theorem identifierLength_eq_length_iff : cs ≠ [] ∧ identifierLength cs = cs.length ↔
    IsPlain cs ∨ ∃ rest, cs = '@' :: rest ∧ IsPlain rest := by
  unfold identifierLength
  split
  · rename_i rest
    have hmarked : (∃ rest', '@' :: rest = '@' :: rest' ∧ IsPlain rest') ↔ IsPlain rest := by
      simp only [List.cons.injEq, true_and, exists_eq_left']
    rw [or_iff_right not_isPlain_mark, hmarked, ← plainIdentifierLength_eq_length_iff,
      and_iff_right (List.cons_ne_nil '@' rest), List.length_cons]
    cases hlength : plainIdentifierLength rest with
    | zero =>
      have hempty : rest ≠ [] → 0 ≠ rest.length := fun hne h =>
        hne (List.eq_nil_of_length_eq_zero h.symm)
      exact iff_of_false (Nat.succ_ne_zero _).symm fun h => hempty h.1 h.2
    | succ k =>
      have hne : k + 1 = rest.length → rest ≠ [] := by
        rintro h rfl
        exact Nat.succ_ne_zero k h
      exact ⟨fun h => have h := Nat.succ.inj h; ⟨hne h, h⟩, fun h => congrArg (· + 1) h.2⟩
  · rename_i hplain
    have hunmarked : ¬ ∃ rest, cs = '@' :: rest ∧ IsPlain rest := by
      rintro ⟨rest, rfl, -⟩
      exact hplain rest rfl
    rw [or_iff_left hunmarked, plainIdentifierLength_eq_length_iff]

/-- A name is an identifier exactly when it is one without a mark, or with a mark before it. -/
theorem isIdentifier_iff {name : String} :
    IsIdentifier name ↔ IsPlain name.toList ∨ ∃ cs, name.toList = '@' :: cs ∧ IsPlain cs := by
  have hempty : name ≠ "" ↔ name.toList ≠ [] := by
    rw [ne_eq, ne_eq, ← String.toList_inj]
    rfl
  rw [IsIdentifier, hempty, identifierLength_eq_length_iff]

/-! ## What identifiers are made of -/

theorem Continues.slash_notMem (h : Continues cs) : '/' ∉ cs := by
  induction h with
  | nil => exact List.not_mem_nil
  | append first _ ih =>
    rw [List.mem_append, not_or]
    exact ⟨first.slash_notMem (by decide), ih⟩

theorem IsPlain.slash_notMem (h : IsPlain cs) : '/' ∉ cs := by
  obtain ⟨first, further⟩ := h
  rw [List.mem_append, not_or]
  exact ⟨first.slash_notMem (by decide), further.slash_notMem⟩

/-- No identifier has a separator of paths in it. -/
theorem IsIdentifier.slash_notMem {name : String} (h : IsIdentifier name) :
    '/' ∉ name.toList := by
  rcases isIdentifier_iff.1 h with hplain | ⟨cs, hcs, hplain⟩
  · exact hplain.slash_notMem
  · rw [hcs, List.mem_cons, not_or]
    exact ⟨by decide, hplain.slash_notMem⟩

end Scaffold.CSharp
