import TriggerRule.Text.Literal
import TriggerRule.Token

/-!
# Token listings

A listing shows one token a line: the label of its kind, a tab, and its text as a literal. Which
characters a literal spells out by number is a parameter of `lineWith` and `listingWith`; a listing
takes `Text.isUnprintable`.
-/

namespace TriggerRule.Token

/-- A token as a line of a listing. -/
def lineWith (unprintable : Char → Bool) (token : Token) : String :=
  token.kind.label ++ "\t" ++ Text.literalWith unprintable token.text

/-- The lines of tokens, with a line feed between each two. -/
def listingWith (unprintable : Char → Bool) (tokens : List Token) : String :=
  "\n".intercalate (tokens.map (lineWith unprintable))

def listing (tokens : List Token) : String := listingWith Text.isUnprintable tokens

end TriggerRule.Token
