import Mathlib.Data.List.Basic
import TriggerRule.Command
import TriggerRule.Proofs.Text.Literal
import TriggerRule.Proofs.Token.Layout

/-!
# A listing shows the tokens whole

The line of a token holds one tab, between the label and the literal, and no line feed, since a
literal holds neither. So a listing is split into its lines at the line feeds, each line into a
label and a literal at its tab, and a label and a literal belong to one kind and one text. Which
characters a literal spells out by number does not matter. Main statement: `listing_lossless`.
-/

namespace TriggerRule

/-- The tokens of a text are printed as their listing, whatever compiles patterns. -/
theorem Command.run_tokens (compile : String → Except String Unit) {text : String}
    {tokens : List Token} (h : Token.ofText text = .ok tokens) :
    (Command.tokens text).run compile = ⟨0, Token.listing tokens ++ "\n", ""⟩ := by
  obtain ⟨hnone, rfl⟩ := Token.ofText_eq_ok_iff_scan.1 h
  simp only [run, output, hnone]

namespace Token

/-! ## One line -/

theorem Kind.label_injective {kind other : Kind} (h : kind.label = other.label) : kind = other := by
  cases kind <;> cases other <;> first | rfl | exact absurd h (by decide)

theorem Kind.notMem_label {x : Char} (hx : x = '\t' ∨ x = '\n') (kind : Kind) :
    x ∉ kind.label.toList := by
  rcases hx with rfl | rfl <;> cases kind <;> decide

variable (unprintable : Char → Bool)

theorem toList_lineWith (token : Token) : (lineWith unprintable token).toList =
    token.kind.label.toList ++ '\t' :: (Text.literalWith unprintable token.text).toList := by
  simp [lineWith]

theorem newLine_notMem_lineWith (token : Token) : '\n' ∉ (lineWith unprintable token).toList := by
  rw [toList_lineWith, List.mem_append, List.mem_cons]
  rintro (h | h | h)
  · exact Kind.notMem_label (.inr rfl) _ h
  · exact absurd h (by decide)
  · exact Text.notMem_literalWith unprintable (.inr rfl) _ h

theorem count_tab_lineWith (token : Token) :
    (lineWith unprintable token).toList.count '\t' = 1 := by
  have hlabel := List.count_eq_zero_of_not_mem (Kind.notMem_label (.inl rfl) token.kind)
  have hliteral := List.count_eq_zero_of_not_mem
    (Text.notMem_literalWith unprintable (.inl rfl) token.text)
  rw [toList_lineWith, List.count_append, List.count_cons_self, hlabel, hliteral]

theorem lineWith_injective {token other : Token}
    (h : lineWith unprintable token = lineWith unprintable other) : token = other := by
  have hlists := congrArg String.toList h
  rw [toList_lineWith, toList_lineWith, List.append_cons_inj_of_notMem
    (Kind.notMem_label (.inl rfl) _) (Text.notMem_literalWith unprintable (.inl rfl) _)] at hlists
  obtain ⟨hlabel, -, hliteral⟩ := hlists
  obtain ⟨kind, text⟩ := token
  obtain ⟨kind', text'⟩ := other
  obtain rfl : kind = kind' := Kind.label_injective (String.toList_inj.1 hlabel)
  obtain rfl : text = text' := Text.literalWith_injective unprintable (String.toList_inj.1 hliteral)
  rfl

/-! ## All lines -/

/-- The lines of a listing are those of its tokens. -/
theorem splitOn_listingWith {tokens : List Token} (h : tokens ≠ []) :
    (listingWith unprintable tokens).toList.splitOn '\n' =
      tokens.map fun token => (lineWith unprintable token).toList := by
  have hlines : (listingWith unprintable tokens).toList =
      ['\n'].intercalate (tokens.map fun token => (lineWith unprintable token).toList) := by
    rw [listingWith, String.toList_intercalate, List.map_map]
    rfl
  rw [hlines, List.splitOn_intercalate '\n']
  · intro line hline
    obtain ⟨token, -, rfl⟩ := List.mem_map.1 hline
    exact newLine_notMem_lineWith unprintable token
  · simpa using h

theorem listingWith_injective {tokens others : List Token} (h : tokens ≠ []) (hothers : others ≠ [])
    (heq : listingWith unprintable tokens = listingWith unprintable others) : tokens = others := by
  have hlines : tokens.map (fun token => (lineWith unprintable token).toList) =
      others.map fun token => (lineWith unprintable token).toList := by
    rw [← splitOn_listingWith unprintable h, ← splitOn_listingWith unprintable hothers, heq]
  refine List.map_injective_iff.2 ?_ hlines
  intro token other hline
  exact lineWith_injective unprintable (String.toList_inj.1 hline)

theorem ne_nil_of_ofText {text : String} {tokens : List Token} (h : ofText text = .ok tokens) :
    tokens ≠ [] := by
  obtain ⟨body, rfl, -⟩ := exists_laid_of_ofText h
  simp

/-- **A listing loses nothing.** What the program prints for a text that can be split into tokens
has one line for each token, and each line one tab, whatever characters the literals hold; and two
texts for which it prints the same have the same tokens. This holds whichever characters a listing
spells out by number, those that the program takes for unprintable among others, and whatever
compiles patterns, which no listing asks for. -/
theorem listing_lossless (compile : String → Except String Unit) {text other : String}
    {tokens others : List Token} (h : ofText text = .ok tokens)
    (hother : ofText other = .ok others) :
    (Command.tokens text).run compile =
        ⟨0, listingWith Text.isUnprintable tokens ++ "\n", ""⟩ ∧
      (listingWith unprintable tokens).toList.splitOn '\n' =
        tokens.map (fun token => (lineWith unprintable token).toList) ∧
      (∀ token ∈ tokens, (lineWith unprintable token).toList.count '\t' = 1) ∧
      (listingWith unprintable tokens = listingWith unprintable others → tokens = others) ∧
      (((Command.tokens text).run compile).stdout = ((Command.tokens other).run compile).stdout →
        tokens = others) := by
  have hne := ne_nil_of_ofText h
  have hneOther := ne_nil_of_ofText hother
  refine ⟨Command.run_tokens compile h, splitOn_listingWith unprintable hne,
    fun token _ => count_tab_lineWith unprintable token,
    listingWith_injective unprintable hne hneOther, fun hstdout => ?_⟩
  rw [Command.run_tokens compile h, Command.run_tokens compile hother] at hstdout
  exact listingWith_injective _ hne hneOther ((String.append_left_inj _).1 hstdout)

/-- Two literals that hold the same characters in another order: a tab, a line feed, quotation
marks, a backslash and a character that leaves no mark. Any pattern is taken. -/
theorem listing_lossless_hardTexts :
    ofText "'\t\n\"\\\u200b'" = .ok [⟨.singleQuoted, "\t\n\"\\\u200b"⟩, endToken] ∧
      ofText "'\\\n\t\u200b\"'" = .ok [⟨.singleQuoted, "\\\n\t\u200b\""⟩, endToken] ∧
      ((Command.tokens "'\t\n\"\\\u200b'").run fun _ => .ok ()).stdout ≠
        ((Command.tokens "'\\\n\t\u200b\"'").run fun _ => .ok ()).stdout := by
  have hfirst : ofText "'\t\n\"\\\u200b'" =
      .ok [⟨.singleQuoted, "\t\n\"\\\u200b"⟩, endToken] := by cbv
  have hsecond : ofText "'\\\n\t\u200b\"'" =
      .ok [⟨.singleQuoted, "\\\n\t\u200b\""⟩, endToken] := by cbv
  refine ⟨hfirst, hsecond, fun hstdout => ?_⟩
  have htokens := (listing_lossless Text.isUnprintable _ hfirst hsecond).2.2.2.2 hstdout
  exact absurd htokens (by decide)

end Token

end TriggerRule
