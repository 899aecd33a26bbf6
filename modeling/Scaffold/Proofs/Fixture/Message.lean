import Scaffold.CSharp.Lexeme
import Scaffold.Generation
import Scaffold.Proofs.Fixture.Body
import Scaffold.Toml.Scalar

/-!
# The message in its literal

The message of the assertion that ends a test is written into a string literal of C#. The value of a
literal is a sequence of UTF-16 code units (`decode?`), and no two texts have the same code units
(`utf16_injective`). The quotes and backslashes of a message are escaped, so its literal ends where
it should and its escapes give back the message, whatever the message is; but a line terminator is
written as it stands, where none may stand. So the literal is one exactly when the message has no
line terminator (`message_literal_iff`).
-/

namespace Scaffold.Fixture

open CSharp (isHexDigit)
open Toml (numeral)

/-! ## Code units -/

/-- The code units of a code point in UTF-16. -/
def codeUnits (n : Nat) : List Nat :=
  if n < 0x10000 then [n]
  else [0xD800 + (n - 0x10000) / 0x400, 0xDC00 + (n - 0x10000) % 0x400]

/-- The code units of a text in UTF-16. -/
def utf16 (cs : List Char) : List Nat :=
  cs.flatMap fun c => codeUnits c.toNat

theorem utf16_cons (c : Char) (cs : List Char) :
    utf16 (c :: cs) = codeUnits c.toNat ++ utf16 cs :=
  List.flatMap_cons

theorem codeUnits_ne_nil (n : Nat) : codeUnits n ≠ [] := by
  unfold codeUnits
  split <;> exact List.cons_ne_nil _ _

/-- Code units tell where the first character ends: no character has a surrogate as its code
point. -/
theorem codeUnits_append_inj {c d : Char} {rest rest' : List Nat}
    (h : codeUnits c.toNat ++ rest = codeUnits d.toNat ++ rest') : c = d ∧ rest = rest' := by
  have hc : c.toNat < 0xD800 ∨ 0xDFFF < c.toNat ∧ c.toNat < 0x110000 := c.valid
  have hd : d.toNat < 0xD800 ∨ 0xDFFF < d.toNat ∧ d.toNat < 0x110000 := d.valid
  rw [← Char.toNat_inj]
  unfold codeUnits at h
  -- A text of one code unit and one of two differ in the first: surrogates are no characters.
  split at h <;> split at h <;>
    simp only [List.cons_append, List.nil_append, List.cons.injEq] at h
  · exact h
  · omega
  · omega
  · obtain ⟨hhigh, hlow, hrest⟩ := h
    exact ⟨by omega, hrest⟩

theorem utf16_injective : Function.Injective utf16 := by
  intro cs
  induction cs with
  | nil =>
    rintro (_ | ⟨d, ds⟩) h
    · rfl
    · rw [utf16_cons] at h
      exact absurd (List.append_eq_nil_iff.1 h.symm).1 (codeUnits_ne_nil _)
  | cons c cs ih =>
    rintro (_ | ⟨d, ds⟩) h
    · rw [utf16_cons] at h
      exact absurd (List.append_eq_nil_iff.1 h).1 (codeUnits_ne_nil _)
    · rw [utf16_cons, utf16_cons] at h
      obtain ⟨rfl, hrest⟩ := codeUnits_append_inj h
      rw [ih hrest]

/-! ## Literals -/

/-- The code unit that a character stands for behind a backslash. -/
def simpleEscape? : Char → Option Nat
  | '\'' => some 0x27
  | '"' => some 0x22
  | '\\' => some 0x5C
  | '0' => some 0x00
  | 'a' => some 0x07
  | 'b' => some 0x08
  | 'e' => some 0x1B
  | 'f' => some 0x0C
  | 'n' => some 0x0A
  | 'r' => some 0x0D
  | 't' => some 0x09
  | 'v' => some 0x0B
  | _ => none

/-- The hexadecimal digits at the front of a text, as many as there are but not more than `most`. -/
def hexDigits (most : Nat) (cs : List Char) : List Char :=
  (cs.take most).takeWhile isHexDigit

/-- The code units that stand for an escape behind its backslash, and the number of characters of
the escape. -/
def escape? : List Char → Option (List Nat × Nat)
  | [] => none
  | 'x' :: rest =>
    let digits := hexDigits 4 rest
    if digits.isEmpty then none else some ([numeral 16 digits], digits.length + 1)
  | 'u' :: rest =>
    let digits := hexDigits 4 rest
    if digits.length = 4 then some ([numeral 16 digits], 5) else none
  | 'U' :: rest =>
    let digits := hexDigits 8 rest
    if digits.length = 8 && numeral 16 digits ≤ 0x10FFFF then
      some (codeUnits (numeral 16 digits), 9)
    else none
  | c :: _ => (simpleEscape? c).map fun unit => ([unit], 1)

/-- The code units that the body of a literal stands for when no escape begins within its first
`skipped` characters, which are left out. There are none if something in it is no escape behind a
backslash, or one of the characters that have to be escaped. -/
def decodeFrom (isExcluded : Char → Bool) : Nat → List Char → Option (List Nat)
  | _, [] => some []
  | skipped + 1, _ :: cs => decodeFrom isExcluded skipped cs
  | 0, c :: cs =>
    if c = '\\' then
      (escape? cs).bind fun (units, length) =>
        (decodeFrom isExcluded length cs).map (units ++ ·)
    else if isExcluded c then none
    else (decodeFrom isExcluded 0 cs).map (codeUnits c.toNat ++ ·)

/-- The characters that end a line of C#. -/
def lineTerminators : List Char := ['\n', '\r', '\u0085', '\u2028', '\u2029']

/-- The code units that a text with escapes stands for, up to a quote that is not escaped. -/
def unescape? (text : String) : Option (List Nat) :=
  decodeFrom (· = '"') 0 text.toList

/-- The value of a regular string literal with the given text between its quotes; none if the text
is not the body of a literal. -/
def literalValue? (body : String) : Option (List Nat) :=
  decodeFrom (fun c => c = '"' || c ∈ lineTerminators) 0 body.toList

/-! ## Escaped texts -/

variable {isExcluded : Char → Bool}

theorem escapeChar_of_ne {c : Char} (hslash : c ≠ '\\') (hquote : c ≠ '"') : escapeChar c = [c] := by
  unfold escapeChar
  split
  · exact absurd rfl hslash
  · exact absurd rfl hquote
  · rfl

/-- An escaped character stands for itself, unless it is written as it is and is excluded. -/
theorem decodeFrom_escapeChar (c : Char) (rest : List Char) :
    decodeFrom isExcluded 0 (escapeChar c ++ rest) =
      if isExcluded c && c != '"' && c != '\\' then none
      else (decodeFrom isExcluded 0 rest).map (codeUnits c.toNat ++ ·) := by
  by_cases hslash : c = '\\'
  · subst hslash
    rw [if_neg (by simp)]
    rfl
  by_cases hquote : c = '"'
  · subst hquote
    rw [if_neg (by simp)]
    rfl
  · rw [escapeChar_of_ne hslash hquote, List.singleton_append, decodeFrom, if_neg hslash]
    simp [hslash, hquote]

/-- An escaped text stands for itself, unless one of its characters is written as it is and is
excluded. -/
theorem decodeFrom_escape (cs : List Char) :
    decodeFrom isExcluded 0 (cs.flatMap escapeChar) =
      if cs.any fun c => isExcluded c && c != '"' && c != '\\' then none
      else some (utf16 cs) := by
  induction cs with
  | nil => rfl
  | cons c cs ih =>
    rw [List.flatMap_cons, decodeFrom_escapeChar, ih, List.any_cons, utf16_cons]
    cases isExcluded c && c != '"' && c != '\\' with
    | true => rfl
    | false =>
      rw [Bool.false_or, if_neg Bool.false_ne_true]
      split <;> rfl

/-- No quote is left in an escaped text that is not escaped itself. -/
theorem unescape?_escape (text : String) : unescape? (escape text) = some (utf16 text.toList) := by
  have hquote : (text.toList.any fun c => decide (c = '"') && c != '"' && c != '\\') = false := by
    simp
  rw [unescape?, escape, Text.expand, String.toList_ofList, decodeFrom_escape, hquote,
    if_neg Bool.false_ne_true]

/-- An escaped text is the body of a literal unless it has a line terminator. -/
theorem literalValue?_escape (text : String) : literalValue? (escape text) =
    if text.toList.any (· ∈ lineTerminators) then none else some (utf16 text.toList) := by
  have hne {c : Char} (hc : c ∈ lineTerminators) : c ≠ '"' ∧ c ≠ '\\' := by
    constructor <;> rintro rfl <;> exact absurd hc (by decide)
  -- Quotes are escaped, so of the excluded characters only the line terminators stay.
  have hexcluded : (fun c => (decide (c = '"') || decide (c ∈ lineTerminators)) &&
      c != '"' && c != '\\') = fun c => decide (c ∈ lineTerminators) := by
    funext c
    by_cases hc : c ∈ lineTerminators
    · simp [hc, hne hc]
    · simp [hc]
  rw [literalValue?, escape, Text.expand, String.toList_ofList, decodeFrom_escape, hexcluded]

/-! ## The message of a test -/

/-- Every test ends with the assertion of the message in the settings. Whatever the message is, the
quotes around it in the text of this assertion are the only ones that are not escaped, and the
message is the only text for which the escapes between them stand. What is between them is the body
of a literal, with the message as its value, exactly when the message has no line terminator. -/
theorem message_literal_iff (settings : SynthesisSettings) :
    (∀ c, ∀ t ∈ (settings.synthesizer.synthesize c).fixture.tests,
        ∃ front, t.body = front ++ [.assertFail settings.failureMessage]) ∧
      ∃ body : String,
        (Statement.assertFail settings.failureMessage).render = "Assert.Fail(\"" ++ body ++ "\");" ∧
        (∀ text : String, unescape? body = some (utf16 text.toList) ↔
          text = settings.failureMessage) ∧
        (literalValue? body = some (utf16 settings.failureMessage.toList) ↔
          ∀ c ∈ settings.failureMessage.toList, c ∉ lineTerminators) ∧
        (literalValue? body = none ↔ ∃ c ∈ settings.failureMessage.toList, c ∈ lineTerminators) := by
  refine ⟨fun c t ht => ?_, escape settings.failureMessage, rfl, fun text => ?_, ?_⟩
  · obtain ⟨outcome, houtcome, hmade⟩ := List.mem_filterMap.1 ht
    obtain ⟨p, -, hattempt⟩ := List.mem_map.1 houtcome
    cases outcome with
    | error o => cases hmade
    | ok t' =>
      obtain rfl := Option.some.inj hmade
      obtain ⟨front, hbody, -⟩ := (Synthesizer.shaped_of_attempt hattempt).marker
      exact ⟨front, hbody⟩
  · rw [unescape?_escape, Option.some.injEq, utf16_injective.eq_iff, String.toList_inj, eq_comm]
  · rw [literalValue?_escape]
    cases hany : settings.failureMessage.toList.any (· ∈ lineTerminators) with
    | true =>
      obtain ⟨c, hc, hmem⟩ := List.any_eq_true.1 hany
      have hterminator := of_decide_eq_true hmem
      rw [if_pos rfl]
      exact ⟨iff_of_false nofun fun hall => hall c hc hterminator,
        iff_of_true rfl ⟨c, hc, hterminator⟩⟩
    | false =>
      have hnone : ∀ c ∈ settings.failureMessage.toList, c ∉ lineTerminators :=
        fun c hc => of_decide_eq_false (by simpa using List.any_eq_false.1 hany c hc)
      rw [if_neg Bool.false_ne_true]
      exact ⟨iff_of_true rfl hnone, iff_of_false nofun fun ⟨c, hc, hmem⟩ => hnone c hc hmem⟩

/-- A message on two lines is written on two lines, and is no literal. -/
theorem message_over_lines :
    (Statement.assertFail "one\ntwo").render = "Assert.Fail(\"one\ntwo\");" ∧
      literalValue? "one\ntwo" = none ∧ literalValue? "one\\ntwo" = some (utf16 "one\ntwo".toList) := by
  decide

end Scaffold.Fixture
