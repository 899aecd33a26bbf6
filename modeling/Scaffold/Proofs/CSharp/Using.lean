import Scaffold.CSharp.Outline
import Scaffold.Proofs.Text.Words

/-!
# Using directives

A using directive is its keywords, its target and a semicolon, with blanks between them
(`UsingDirective`). The outline drops the semicolon and the keywords from the compacted text of a
directive, and what is left is the compacted target, whatever the target begins with
(`UsingDirective.usingTarget_text`).
-/

namespace Scaffold.CSharp

open Text

/-- A using directive as it is written. -/
structure UsingDirective where
  /-- The blanks behind the word `global`, in a directive that begins with it. -/
  behindGlobal : Option String
  behindUsing : String
  target : String
  behindTarget : String
  global_isGap : ∀ gap ∈ behindGlobal, IsGap gap.toList
  using_isGap : IsGap behindUsing.toList
  hasWord : ∃ a ∈ target.toList, isBlank a = false
  notClosed : ∀ a ∈ target.toList.getLast?, a ≠ ';'
  blank : ∀ a ∈ behindTarget.toList, isBlank a = true

namespace UsingDirective

/-- The word `global` and the blanks behind it, if the directive begins with it. -/
def opening (d : UsingDirective) : String :=
  match d.behindGlobal with
  | some gap => "global" ++ gap
  | none => ""

/-- The directive up to the end of its target. -/
def body (d : UsingDirective) : String :=
  d.opening ++ ("using" ++ (d.behindUsing ++ d.target))

/-- The text of the directive. -/
def text (d : UsingDirective) : String :=
  d.body ++ d.behindTarget ++ ";"

end UsingDirective

/-! ## What is dropped -/

/-- A semicolon at the end is dropped from the compacted text, and a space before it. -/
theorem trimmed_dropEndWhile_compacted {cs : List Char} (hwords : wordsOf cs ≠ [])
    (hlast : ∀ a ∈ cs.getLast?, a ≠ ';') :
    trimmed (dropEndWhile (· == ';') (compacted (cs ++ [';']))) = compacted cs := by
  have hmark : isBlank ';' = false := by decide
  obtain rfl | ⟨cs, a, rfl⟩ := List.eq_nil_or_concat' cs
  · exact absurd rfl hwords
  have ha : a ≠ ';' := hlast a (by simp)
  obtain ⟨front, hfront, hcases⟩ := compacted_concat hmark (cs ++ [a])
  have hdrop (h : ∀ b ∈ front.getLast?, b ≠ ';') :
      dropEndWhile (· == ';') (front ++ [';']) = front := by
    rw [dropEndWhile_append (by simp)]
    exact dropEndWhile_eq_self fun b hb => beq_false_of_ne (h b hb)
  rw [hfront]
  by_cases hblank : isBlank a = true
  · obtain rfl : front = compacted (cs ++ [a]) ++ [' '] := by
      rw [hcases a (by simp) hwords, if_pos hblank]
    have hspace : ∀ b ∈ [' '], isBlank b = true := List.forall_mem_singleton.2 (by decide)
    rw [hdrop (by simp), trimmed_append_blanks hspace, trimmed_compacted]
  · obtain rfl : front = compacted (cs ++ [a]) := by
      rw [hcases a (by simp) hwords, if_neg hblank]
    obtain ⟨before, hbefore, -⟩ := compacted_concat (by simpa using hblank) cs
    rw [hdrop (by simp [hbefore, ha]), trimmed_compacted]

theorem without_append (beginning rest : String) :
    Node.without beginning (beginning ++ rest) = rest := by
  have hbegins : begins (beginning ++ rest) beginning = true := by
    rw [begins, String.toList_append]
    exact List.isPrefixOf_iff_prefix.2 (List.prefix_append _ _)
  rw [Node.without, dropBeginning?, if_pos hbegins, Option.getD_some, String.toList_append,
    ← String.length_toList, List.drop_left, String.ofList_toList]

/-- Text that begins otherwise stays as it is. -/
theorem without_of_not_begins {beginning s : String} (h : begins s beginning = false) :
    Node.without beginning s = s := by
  rw [Node.without, dropBeginning?, if_neg (by simp [h])]
  rfl

namespace UsingDirective

variable (d : UsingDirective)

theorem isWord_using : IsWord "using".toList := by
  decide

theorem isWord_global : IsWord "global".toList := by
  decide

theorem wordsOf_target_ne_nil : wordsOf d.target.toList ≠ [] := by
  obtain ⟨a, hmem, ha⟩ := d.hasWord
  exact wordsOf_ne_nil hmem ha

/-- The compacted text of a directive up to the end of its target. -/
theorem compact_body : compact d.body =
    (if d.behindGlobal.isSome then "global " else "") ++ ("using " ++ compact d.target) := by
  have husing : compact ("using" ++ (d.behindUsing ++ d.target)) = "using " ++ compact d.target :=
    compact_append isWord_using d.using_isGap d.wordsOf_target_ne_nil
  rw [body, opening]
  cases hglobal : d.behindGlobal with
  | none => exact (congrArg compact String.empty_append).trans (husing.trans String.empty_append.symm)
  | some gap =>
    have hrest : wordsOf ("using" ++ (d.behindUsing ++ d.target)).toList ≠ [] :=
      wordsOf_ne_nil (c := 'u') (by simp) (by decide)
    show compact ("global" ++ gap ++ _) = "global " ++ _
    rw [String.append_assoc, compact_append isWord_global (d.global_isGap gap hglobal) hrest, husing]
    rfl

/-- Without the semicolon and the blanks before it, the compacted text is that of the body. -/
theorem trim_dropEndWhile_compact_text :
    trim (String.ofList (dropEndWhile (· == ';') (compact d.text).toList)) = compact d.body := by
  have hwords : wordsOf (d.body ++ d.behindTarget).toList ≠ [] := by
    obtain ⟨a, hmem, ha⟩ := d.hasWord
    exact wordsOf_ne_nil (by simp [body, hmem]) ha
  -- The last character is a blank behind the target or the last one of the target.
  have hlast : ∀ a ∈ (d.body ++ d.behindTarget).toList.getLast?, a ≠ ';' := by
    intro a ha
    rw [String.toList_append, List.getLast?_append] at ha
    cases hbehind : d.behindTarget.toList.getLast? with
    | some b =>
      rw [hbehind] at ha
      obtain rfl : b = a := Option.some.inj ha
      rintro rfl
      exact absurd (d.blank ';' (List.mem_of_getLast? hbehind)) (by decide)
    | none =>
      obtain ⟨b, hmem, -⟩ := d.hasWord
      obtain ⟨c, hc⟩ : ∃ c, d.target.toList.getLast? = some c :=
        Option.isSome_iff_exists.1 (List.getLast?_isSome.2 (List.ne_nil_of_mem hmem))
      simp only [hbehind, body, String.toList_append, List.getLast?_append, hc, Option.some_or,
        Option.none_or] at ha
      exact Option.some.inj ha ▸ d.notClosed c hc
  have hchars : d.text.toList = (d.body ++ d.behindTarget).toList ++ [';'] := by
    rw [text, String.toList_append]
    rfl
  rw [trim, compact, String.toList_ofList, String.toList_ofList, hchars,
    trimmed_dropEndWhile_compacted hwords hlast, String.toList_append,
    compacted_append_blanks d.blank]
  rfl

/-- What the outline takes from a using directive is its target, compacted. -/
theorem usingTarget_text : Node.usingTarget d.text = compact d.target := by
  have hglobal : Node.without "global " (compact d.body) = "using " ++ compact d.target := by
    rw [compact_body]
    cases d.behindGlobal.isSome with
    | true => exact without_append _ _
    | false =>
      have hbegins : begins ("using " ++ compact d.target) "global " = false := by
        rw [begins, String.toList_append]
        rfl
      exact (congrArg _ String.empty_append).trans (without_of_not_begins hbegins)
  calc Node.usingTarget d.text
      = trim (Node.without "using " (Node.without "global " (compact d.body))) := by
        rw [Node.usingTarget, trim_dropEndWhile_compact_text]
    _ = compact d.target := by rw [hglobal, without_append, trim_compact]

end UsingDirective

end Scaffold.CSharp
