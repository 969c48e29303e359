import TriggerRule.Failure

/-!
# Lists of references

A list of references is written as literals with a comma between each two of them. There is at least
one, and no comma stands at either end.
-/

namespace TriggerRule.Reference

/-- Reads the tokens from an index on as the rest of a list; `due` says that a reference has to come
next, otherwise a comma or the end has to. -/
def listFrom (index : Nat) (due : Bool) : List Token → Except (Failure Site) (List Reference)
  | [] => .error (.raised .missingReference ⟨index, 1⟩)
  | token :: rest =>
    match token.kind with
    | .singleQuoted | .doubleQuoted =>
      if due then
        match parse token.text with
        | .error refusal => .error (.raised (.badReference refusal) ⟨index, 1⟩)
        | .ok reference => (listFrom (index + 1) false rest).map (reference :: ·)
      else .error (.raised .missingComma ⟨index, 1⟩)
    | .comma =>
      if due then .error (.raised .unexpectedToken ⟨index, 1⟩) else listFrom (index + 1) true rest
    | .endOfText =>
      if due then .error (.raised .missingReference ⟨index, 1⟩) else .ok []
    | _ => .error (.raised .unexpectedToken ⟨index, 1⟩)

/-- Reads a token sequence as a list of references, with failures by site. -/
def listSites (tokens : List Token) : Except (Failure Site) (List Reference) :=
  listFrom 0 true tokens

def listOf (tokens : List Token) : Except (Failure Anchor) (List Reference) :=
  (listSites tokens).mapError (Failure.anchored tokens)

end TriggerRule.Reference
