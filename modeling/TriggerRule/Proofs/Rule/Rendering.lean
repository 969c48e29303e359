import TriggerRule.Proofs.Rule.Shape

/-!
# The tokens of a rendered rule

`Rule.tokens` are the tokens that the text of a rule is written with. They are so laid out in the
text unless a literal ends in a backslash (`laid_render`), and they derive the rule back as an
operand in which `Rule.nesting` groups are open at once, if the rule is branched and no name is
empty (`derived_tokens`).
-/

namespace TriggerRule

namespace Token

/-- The token of a kind with a spelling. -/
def word (kind : Kind) : Token := ⟨kind, String.ofList kind.spelling⟩

/-- A literal between double quotes. -/
def literal (text : String) : Token := ⟨.doubleQuoted, text⟩

end Token

open Token

/-- The tokens of a match. -/
def Match.tokens (condition : Match) : List Token :=
  literal condition.parameter.render :: match condition.test with
    | .value text => [word .equals, literal text]
    | .regex pattern => [word .matchesRegex, literal pattern]
    | .sha1 secret =>
      [word .equals, word .sha1, word .openParen, literal Source.payload.name, word .comma,
        literal secret, word .closeParen]

namespace Rule

/-- Tokens between parentheses. -/
def enclosed (body : List Token) : List Token := word .openParen :: body ++ [word .closeParen]

mutual

/-- The tokens of a rule without the parentheses that make it a group. -/
def body : Rule → List Token
  | leaf condition => condition.tokens
  | all parts => joinedTokens .and parts
  | any parts => joinedTokens .or parts
  | not part => word .not :: enclosed part.body

/-- The tokens of the parts with the operator between each two. -/
def joinedTokens (operator : Kind) : List Rule → List Token
  | [] => []
  | [part] => if part.isGroup then enclosed part.body else part.body
  | part :: parts =>
    (if part.isGroup then enclosed part.body else part.body) ++
      word operator :: joinedTokens operator parts

end

/-- The tokens of a rule. -/
def tokens (rule : Rule) : List Token :=
  if rule.isGroup then enclosed rule.body else rule.body

theorem joinedTokens_singleton (operator : Kind) (part : Rule) :
    joinedTokens operator [part] = part.tokens := by
  rw [joinedTokens, tokens]

theorem joinedTokens_cons {operator : Kind} {part : Rule} {parts : List Rule} (h : parts ≠ []) :
    joinedTokens operator (part :: parts) =
      part.tokens ++ word operator :: joinedTokens operator parts := by
  rw [joinedTokens, tokens]
  exact h

end Rule

/-! ## The text is a layout of the tokens -/

namespace Token

variable {ts us : List Token} {cs ds : List Char}

theorem Laid.append_blanks {ws : List Char} (hw : Text.AllBlank ws) (h : Laid ts cs) :
    Laid ts (ws ++ cs) := by
  cases h with
  | blanks hv => exact .blanks (hw.append hv)
  | token hv hs h =>
    rw [← List.append_assoc, ← List.append_assoc]
    exact .token (hw.append hv) hs h

theorem Laid.append (h : Laid ts cs) (hu : Laid us ds) : Laid (ts ++ us) (cs ++ ds) := by
  induction h with
  | blanks hw => exact hu.append_blanks hw
  | token hw hs h ih =>
    rw [List.append_assoc]
    exact .token hw hs ih

theorem laid_of_spelled {t : Token} (h : Spelled t cs) : Laid [t] cs := by
  have hl : Laid [t] ([] ++ cs ++ []) := .token Text.allBlank_nil h (.blanks Text.allBlank_nil)
  rw [List.nil_append, List.append_nil] at hl
  exact hl

theorem laid_blank : Laid [] [' '] := by
  apply Laid.blanks
  intro c hc
  rw [List.mem_singleton.1 hc]
  decide

theorem laid_word {kind : Kind} (h : kind.spelling ≠ []) : Laid [word kind] kind.spelling := by
  by_cases hk : kind ∈ exactKinds
  · have hs := Spelled.fixed (mem_fixedSpellings_of_mem_exactKinds hk)
    rw [String.toList_ofList] at hs
    exact laid_of_spelled hs
  · have hsha : kind = .sha1 := by
      revert h hk
      cases kind <;> decide
    rw [hsha]
    exact laid_of_spelled (.sha1 rfl)

theorem laid_spaced {kind : Kind} (h : kind.spelling ≠ []) :
    Laid [word kind] (' ' :: kind.spelling ++ [' ']) :=
  (laid_blank.append (laid_word h)).append laid_blank

theorem laid_enclose (mark : QuoteMark) {text : String} (h : ¬Text.EndsInBackslash text) :
    Laid [⟨mark.literalKind, text⟩] (mark.enclose text).toList := by
  have hs := Spelled.literal mark h
  rw [String.ofList_toList] at hs
  rw [QuoteMark.enclose, String.toList_ofList]
  exact laid_of_spelled hs

theorem laid_literal {text : String} (h : ¬Text.EndsInBackslash text) :
    Laid [literal text] (doubleQuoted text).toList := laid_enclose .double h

end Token

theorem Match.laid_render {condition : Match} (h : condition.Unguarded) :
    Laid condition.tokens condition.render.toList := by
  obtain ⟨parameter, test⟩ := condition
  have hparameter : Laid [literal parameter.render] (doubleQuoted parameter.render).toList :=
    laid_literal fun hend => h.name ((Reference.getLast?_render (by decide) parameter).1 hend)
  rw [Match.render, String.toList_append]
  refine Laid.append hparameter ?_
  cases test with
  | value text =>
    rw [String.toList_append]
    exact (laid_spaced (by decide)).append (laid_literal h.literal)
  | regex pattern =>
    rw [String.toList_append]
    exact (laid_spaced (by decide)).append (laid_literal h.literal)
  | sha1 secret =>
    have hcall : Laid ([word .equals] ++ [word .sha1] ++ [word .openParen]) " == sha1(".toList :=
      ((laid_spaced (by decide)).append (laid_word (by decide))).append (laid_word (by decide))
    have hcomma : Laid [word .comma] ", ".toList := (laid_word (by decide)).append laid_blank
    have hclose : Laid [word .closeParen] ")".toList := laid_word (by decide)
    have hpayload : Laid [literal Source.payload.name] (doubleQuoted Source.payload.name).toList :=
      laid_literal (by decide)
    rw [String.toList_append, String.toList_append, String.toList_append, String.toList_append]
    exact (((hcall.append hpayload).append hcomma).append (laid_literal h.literal)).append hclose

namespace Rule

theorem laid_joined {operator : Kind} {separator : String} {parts : List Rule}
    (hs : Laid [word operator] separator.toList)
    (h : ∀ part ∈ parts, Laid part.tokens part.render.toList) :
    Laid (joinedTokens operator parts) (renderList separator parts).toList := by
  induction parts with
  | nil => exact .blanks Text.allBlank_nil
  | cons part parts ih =>
    have hpart := h part (List.mem_cons_self ..)
    by_cases hne : parts = []
    · subst hne
      rw [joinedTokens_singleton, renderList]
      exact hpart
    · have hparts := ih fun p hp => h p (List.mem_cons_of_mem _ hp)
      rw [joinedTokens_cons hne, renderList, String.toList_append, String.toList_append,
        List.append_cons]
      · exact (hpart.append hs).append hparts
      · exact hne

theorem laid_enclosed {body : List Token} {text : String} (h : Laid body text.toList) :
    Laid (enclosed body) ("(" ++ text ++ ")").toList := by
  have hopen : Laid [word .openParen] "(".toList := laid_word (by decide)
  have hclose : Laid [word .closeParen] ")".toList := laid_word (by decide)
  rw [String.toList_append, String.toList_append]
  exact (hopen.append h).append hclose

theorem laid_negation {body : List Token} {text : String} (h : Laid body text.toList) :
    Laid (word .not :: enclosed body) ("!(" ++ text ++ ")").toList := by
  have hnot : Laid [word .not] "!".toList := laid_word (by decide)
  have htext : "!(" ++ text ++ ")" = "!" ++ ("(" ++ text ++ ")") := by
    rw [← String.append_assoc, ← String.append_assoc]
    rfl
  rw [htext, String.toList_append]
  exact hnot.append (laid_enclosed h)

/-- The text of a rule without literals that end in a backslash is a layout of its tokens. -/
theorem laid_render {rule : Rule} (h : ∀ m ∈ rule.leaves, m.Unguarded) :
    Laid rule.tokens rule.render.toList := by
  induction rule using induction_parts with
  | leaf m =>
    rw [render]
    exact Match.laid_render (h m (List.mem_singleton.2 rfl))
  | all parts ih =>
    have hparts : ∀ part ∈ parts, Laid part.tokens part.render.toList :=
      fun part hp => ih part hp (forall_leaves_of_mem h hp)
    have hand : Laid [word .and] " && ".toList := laid_spaced (by decide)
    rw [render]
    exact laid_enclosed (laid_joined hand hparts)
  | any parts ih =>
    have hparts : ∀ part ∈ parts, Laid part.tokens part.render.toList :=
      fun part hp => ih part hp (forall_leaves_of_mem h hp)
    have hor : Laid [word .or] " || ".toList := laid_spaced (by decide)
    rw [render]
    exact laid_enclosed (laid_joined hor hparts)
  | not part ih =>
    have hpart := ih h
    have htokens : (not part).tokens = word .not :: enclosed part.body := by
      rw [tokens, body]
      rfl
    rw [render, htokens]
    split
    · next hg =>
      rw [tokens, if_pos hg] at hpart
      have hnot : Laid [word .not] "!".toList := laid_word (by decide)
      rw [String.toList_append]
      exact hnot.append hpart
    · next hg =>
      rw [tokens, if_neg hg] at hpart
      exact laid_negation hpart

end Rule

/-! ## The tokens derive the rule -/

open Grammar

theorem Match.operand_tokens {condition : Match} (h : condition.parameter.name ≠ "")
    (Inner : List Token → Rule → Prop) : Operand Inner condition.tokens (.leaf condition) := by
  obtain ⟨parameter, test⟩ := condition
  have hp : Reference.parse (literal parameter.render).text = .ok parameter :=
    Reference.parse_render h
  cases test with
  | value text => exact .value (.value rfl rfl rfl) hp
  | regex pattern => exact .regex (.regex rfl rfl rfl) hp
  | sha1 secret => exact .hash (.hash rfl rfl rfl rfl rfl rfl rfl rfl) (.inl rfl) hp

namespace Rule

theorem operand_enclosed {Inner : List Token → Rule → Prop} {body : List Token} {rule : Rule}
    (h : Inner body rule) : Operand Inner (enclosed body) rule :=
  .group (.group rfl) h (.close rfl)

theorem operand_negation {Inner : List Token → Rule → Prop} {body : List Token} {rule : Rule}
    (h : Inner body rule) : Operand Inner (word .not :: enclosed body) rule.not :=
  .negation (.negation rfl rfl) h (.close rfl)

theorem joined_tokens {operator : Kind} {Form : List Token → Rule → Prop} {parts : List Rule}
    (hne : parts ≠ []) (h : ∀ part ∈ parts, Form part.tokens part) :
    Joined operator Form (joinedTokens operator parts) parts := by
  induction parts with
  | nil => exact absurd rfl hne
  | cons part parts ih =>
    have hpart := h part (List.mem_cons_self ..)
    by_cases hparts : parts = []
    · subst hparts
      rw [joinedTokens_singleton]
      exact .one hpart
    · rw [joinedTokens_cons hparts]
      exact Joined.cons hpart rfl (ih hparts fun p hp => h p (List.mem_cons_of_mem _ hp))

/-- The tokens of the rule are an operand, and its body may stand in a group: either leaves room for
exactly the groups that nest in the rule. -/
structure Derived (rule : Rule) : Prop where
  operand : Operand (Inside rule.nesting) rule.tokens rule
  inside : Inside rule.not.nesting rule.body rule

theorem derived_of_inside {rule : Rule} (hg : rule.isGroup = true)
    (h : Inside rule.nesting rule.body rule) : rule.Derived := by
  refine ⟨?_, ?_⟩
  · rw [tokens, if_pos hg]
    exact operand_enclosed h
  · rw [nesting, if_pos hg]
    exact h

theorem derived_of_operand {rule : Rule} (hg : rule.isGroup = false)
    (h : Operand (Inside rule.nesting) rule.body rule) : rule.Derived := by
  have hng : ¬rule.isGroup = true := by simp [hg]
  refine ⟨?_, ?_⟩
  · rw [tokens, if_neg hng]
    exact h
  · rw [nesting, if_neg hng]
    exact Level.of_operand h

/-- A branched rule without empty names is derived by its tokens. -/
theorem derived_tokens {rule : Rule} (hb : rule.Branched)
    (hn : ∀ m ∈ rule.leaves, m.parameter.name ≠ "") : rule.Derived := by
  have hjoined : ∀ {parts : List Rule}, (∀ part ∈ parts, part.Derived) →
      ∀ part ∈ parts, Operand (Inside (nestingList parts)) part.tokens part := by
    intro parts h part hp
    refine (h part hp).operand.imp ?_
    intro ts r hr
    exact hr.mono (nesting_le_nestingList hp)
  induction rule using induction_parts with
  | leaf m =>
    exact derived_of_operand rfl (Match.operand_tokens (hn m (List.mem_singleton.2 rfl)) _)
  | all parts ih =>
    obtain ⟨hlength, hparts⟩ := branched_all_iff.1 hb
    have hne : parts ≠ [] := List.ne_nil_of_length_pos (by omega)
    have hderived : ∀ part ∈ parts, part.Derived := fun part hp =>
      ih part hp (hparts part hp) (forall_leaves_of_mem hn hp)
    apply derived_of_inside rfl
    rw [nesting, body]
    exact Level.single (.one (.all (joined_tokens hne (hjoined hderived)) hlength))
  | any parts ih =>
    obtain ⟨hlength, hparts⟩ := branched_any_iff.1 hb
    have hne : parts ≠ [] := List.ne_nil_of_length_pos (by omega)
    have hderived : ∀ part ∈ parts, part.Derived := fun part hp =>
      ih part hp (hparts part hp) (forall_leaves_of_mem hn hp)
    have hrun : ∀ part ∈ parts, Run (Inside (nestingList parts)) part.tokens part :=
      fun part hp => .single (.one (hjoined hderived part hp))
    apply derived_of_inside rfl
    rw [nesting, body]
    exact Level.any (joined_tokens hne hrun) hlength
  | not part ih =>
    rw [Branched] at hb
    apply derived_of_operand rfl
    rw [body]
    exact operand_negation (ih hb hn).inside

end Rule

end TriggerRule
