import TriggerRule.Rule.Operands
import TriggerRule.Rule.Phrase

/-!
# Reading a rule from its tokens

The phrases of a rule are read one after the other into a nest of levels: the innermost is the one
being read, and each of the others waits for the group that was opened in it. `step` reads one
phrase, `readAll` a sequence of them, and `finish` ends the rule where the phrases do, which has to
be at the end of the text and outside every group.

Failures are stated by the site of a token. How deep levels may nest is a parameter of the reader,
so that readers with different limits can be compared; `Rule.parse` takes `depthLimit`.
-/

namespace TriggerRule

/-- A level that waits while a group opened in it is read. -/
structure Frame where
  enclosure : Enclosure
  /-- The index of the token that opened it. -/
  index : Nat
  operands : Operands

/-- What a closed group stands for in the level around it. -/
def Enclosure.apply : Enclosure → Rule → Rule
  | .group, rule => rule
  | .negation, rule => .not rule

/-- The levels of a rule that is being read. -/
structure Nest where
  /-- The waiting levels, the innermost first. -/
  waiting : List Frame
  operands : Operands

namespace Nest

def start : Nest := ⟨[], .empty⟩

/-- The level being read, counted from one. -/
def depth (nest : Nest) : Nat := nest.waiting.length + 1

/-- The groups that are open in waiting levels, from the outside inwards. -/
def openGroups : List Frame → List (Enclosure × Site)
  | [] => []
  | frame :: outer =>
    openGroups outer ++ [(frame.enclosure, ⟨frame.index, outer.length + 1⟩)]

/-- The failure of a token at the level being read, inside the groups that are open. -/
def fail (nest : Nest) (cause : Cause) (index : Nat) : Failure Site :=
  Failure.wrap (openGroups nest.waiting) cause ⟨index, nest.depth⟩

def push (nest : Nest) (operand : Rule) : Nest :=
  { nest with operands := nest.operands.add operand }

/-- Opens a level, unless the limit is reached. -/
def openLevel (limit : Nat) (nest : Nest) (enclosure : Enclosure) (index : Nat) :
    Except (Failure Site) Nest :=
  if limit ≤ nest.depth then .error (nest.fail .nestingTooDeep index)
  else .ok ⟨⟨enclosure, index, nest.operands⟩ :: nest.waiting, .empty⟩

/-- Closes the level being read and hands its rule to the level that waits for it. -/
def closeLevel (nest : Nest) (index : Nat) : Except (Failure Site) Nest :=
  match nest.waiting with
  | [] => .error (nest.fail .unexpectedToken index)
  | frame :: outer =>
    match nest.operands.close with
    | .error cause => .error (nest.fail cause index)
    | .ok rule => .ok ⟨outer, frame.operands.add (frame.enclosure.apply rule)⟩

/-- Reads a match whose parameter is the literal at an index. -/
def pushMatch (nest : Nest) (parameter : String) (test : Test) (index : Nat) :
    Except (Failure Site) Nest :=
  match Reference.parse parameter with
  | .error refusal => .error (nest.fail (.badReference refusal) index)
  | .ok reference => .ok (nest.push (.leaf ⟨reference, test⟩))

/-- Whether a hash over the target is a hash over the payload: the bare word, or a reference into
it. -/
def isPayload (target : String) : Bool :=
  target == Source.payload.name || match Reference.parse target with
    | .ok reference => reference.source == .payload
    | .error _ => false

/-- Reads an operand, or opens the level of one. In a hash, the target is looked at before the
parameter. -/
def readOperand (limit : Nat) (nest : Nest) (index : Nat) :
    Phrase.Operand → Except (Failure Site) Nest
  | .group => nest.openLevel limit .group index
  | .negation => nest.openLevel limit .negation index
  | .value parameter value => nest.pushMatch parameter (.value value) index
  | .regex parameter pattern => nest.pushMatch parameter (.regex pattern) index
  | .hash parameter target secret =>
    if isPayload target then nest.pushMatch parameter (.sha1 secret) index
    else .error (nest.fail .badHashTarget (index + 4))

/-- Reads one phrase, which starts at the token of an index. -/
def step (limit : Nat) (nest : Nest) (index : Nat) : Phrase → Except (Failure Site) Nest
  | .and =>
    if nest.operands.takesOperator then .ok { nest with operands := nest.operands.addAnd }
    else .error (nest.fail .unexpectedToken index)
  | .or =>
    if nest.operands.takesOperator then .ok { nest with operands := nest.operands.addOr }
    else .error (nest.fail .unexpectedToken index)
  | .close => nest.closeLevel index
  | .operand start =>
    if nest.operands.takesOperand then nest.readOperand limit index start
    else .error (nest.fail .unexpectedToken index)

/-- Reads phrases one after the other, the first of which starts at the token of an index, and gives
the index after the last. -/
def readAll (limit : Nat) (nest : Nest) (index : Nat) :
    List Phrase → Except (Failure Site) (Nest × Nat)
  | [] => .ok (nest, index)
  | phrase :: phrases =>
    match nest.step limit index phrase with
    | .error failure => .error failure
    | .ok next => next.readAll limit (index + phrase.width) phrases

/-- Ends a rule before the tokens that are left over, the first of which has an index. -/
def finish (nest : Nest) (index : Nat) (rest : List Token) : Except (Failure Site) Rule :=
  if rest.head?.map Token.kind = some .endOfText ∧ nest.waiting.isEmpty then
    nest.operands.close.mapError fun cause => nest.fail cause index
  else .error (nest.fail .unexpectedToken index)

end Nest

namespace Rule

/-- Reads a token sequence as a rule whose levels nest no deeper than the limit, with failures by
site. -/
def parseWithin (limit : Nat) (tokens : List Token) : Except (Failure Site) Rule :=
  let (phrases, rest) := Phrase.split tokens
  match Nest.start.readAll limit 0 phrases with
  | .error failure => .error failure
  | .ok (nest, index) => nest.finish index rest

def parseSites (tokens : List Token) : Except (Failure Site) Rule := parseWithin depthLimit tokens

def parse (tokens : List Token) : Except (Failure Anchor) Rule :=
  (parseSites tokens).mapError (Failure.anchored tokens)

end Rule

end TriggerRule
