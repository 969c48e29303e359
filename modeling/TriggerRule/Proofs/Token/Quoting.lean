import TriggerRule.Proofs.Rule.Rendering
import TriggerRule.Proofs.Token.Halt

/-!
# The text of a literal in quotes again

A text between two marks, with a backslash before each mark in it, is one literal with that text,
unless it ends in a backslash: that one guards the closing mark, so that the literal is never closed
(`ofText_enclose_of_endsInBackslash`). No text that was scanned as a literal ends so, whichever mark
it was written with and whatever is wrong with the rest (`not_endsInBackslash_of_mem_scan`). Main
statement: `ofText_doubleQuoted_of_mem_scan`.
-/

namespace TriggerRule

open Token

namespace QuoteMark

variable {mark : QuoteMark} {text : List Char}

/-- A backslash at the end of a text guards the mark that should close it. -/
theorem body?_protect_eq_none (h : text.getLast? = some '\\') :
    mark.body? (mark.protect text ++ [mark.char]) = none := by
  induction text with
  | nil => simp at h
  | cons c cs ih =>
    cases cs with
    | nil =>
      obtain rfl : c = '\\' := by simpa using h
      rw [protect_cons (Ne.symm mark.char_ne_backslash)]
      exact body?_escaped mark []
    | cons d ds =>
      have hnone := ih (by rwa [List.getLast?_cons_cons] at h)
      by_cases hc : c = mark.char
      · subst hc
        rw [protect_char, List.cons_append, List.cons_append, body?_escaped, hnone]
        rfl
      · rw [protect_cons hc, List.cons_append,
          body?_cons hc fun _ => mark.head?_protect_append_ne d ds [mark.char], hnone]
        rfl

end QuoteMark

namespace Token

variable {text : String}

theorem ofText_enclose_of_not_endsInBackslash (mark : QuoteMark)
    (h : ¬Text.EndsInBackslash text) :
    ofText (mark.enclose text) = .ok [⟨mark.literalKind, text⟩, endToken] := by
  have hneutral : Neutral [⟨mark.literalKind, text⟩] :=
    Grammar.neutral_of_isLiteral mark.literalKind_isLiteral
  exact ofText_of_laid (laid_enclose mark h) hneutral.balanced

theorem ofText_enclose_of_endsInBackslash (mark : QuoteMark) (h : Text.EndsInBackslash text) :
    ofText (mark.enclose text) =
      .error (.unclosedLiteral mark (mark.enclose text).length) := by
  have hhalt : Halts 0 0 (mark.char :: (mark.protect text.toList ++ [mark.char])) _ _ _ :=
    .unended (QuoteMark.body?_protect_eq_none h)
  have htext : (mark.enclose text).toList =
      [] ++ mark.char :: (mark.protect text.toList ++ [mark.char]) := by
    rw [QuoteMark.enclose, String.toList_ofList]
    rfl
  have hlength : (mark.enclose text).length =
      0 + 1 + (mark.protect text.toList ++ [mark.char]).length := by
    rw [← String.length_toList, htext]
    simp [Nat.add_comm]
  rw [ofText, scan_of_halts htext (.blanks Text.allBlank_nil) .nil hhalt, hlength]
  rfl

theorem not_endsInBackslash_of_mem_scan {token : Token} (ht : token ∈ (scan text).tokens)
    (hl : token.isLiteral = true) : ¬Text.EndsInBackslash token.text := by
  obtain ⟨tokens, front, -, hlaid, hscan, -⟩ := exists_laid_of_scan text
  have hmem : token ∈ tokens := by
    rcases hscan with hscan | hscan
    · rwa [hscan] at ht
    · rw [hscan, List.mem_append, List.mem_singleton] at ht
      rcases ht with ht | rfl
      · exact ht
      · cases hl
  exact hlaid.not_endsInBackslash token hmem hl

/-- **The text of a literal can be quoted again**: whatever is wrong with the text that it was
scanned from, and whichever mark it was written with, it ends in no backslash and is read back
between double quotes as one literal. A text that does end in a backslash is not, for then the
literal runs to the end of the text. -/
theorem ofText_doubleQuoted_of_mem_scan :
    (∀ text, ∀ token ∈ (scan text).tokens, token.isLiteral = true →
      ¬Text.EndsInBackslash token.text ∧
        ofText (doubleQuoted token.text) = .ok [⟨.doubleQuoted, token.text⟩, endToken]) ∧
    ∀ text, Text.EndsInBackslash text →
      ofText (doubleQuoted text) =
        .error (.unclosedLiteral .double (doubleQuoted text).length) := by
  refine ⟨?_, fun text h => ofText_enclose_of_endsInBackslash .double h⟩
  intro text token ht hl
  have hend := not_endsInBackslash_of_mem_scan ht hl
  exact ⟨hend, ofText_enclose_of_not_endsInBackslash .double hend⟩

/-- A literal with a double quote behind two backslashes, in a text with an error. -/
theorem ofText_doubleQuoted_of_mem_scan_backslashes :
    scan "'\\\\\"' #" = ⟨[⟨.singleQuoted, "\\\\\""⟩], [.strayCharacter '#' 6]⟩ ∧
      ofText (doubleQuoted "\\\\\"") = .ok [⟨.doubleQuoted, "\\\\\""⟩, endToken] ∧
      ofText (doubleQuoted "\\\\\"\\") = .error (.unclosedLiteral .double 7) := by
  have hscan : scan "'\\\\\"' #" =
      ⟨[⟨.singleQuoted, "\\\\\""⟩], [.strayCharacter '#' 6]⟩ := by cbv
  have hmem : ⟨.singleQuoted, "\\\\\""⟩ ∈ (scan "'\\\\\"' #").tokens := by
    rw [hscan]
    exact List.mem_singleton_self _
  obtain ⟨hquoted, hguarded⟩ := ofText_doubleQuoted_of_mem_scan
  exact ⟨hscan, (hquoted _ _ hmem rfl).2, hguarded "\\\\\"\\" (by decide)⟩

end Token

end TriggerRule
