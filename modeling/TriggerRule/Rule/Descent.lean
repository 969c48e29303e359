import TriggerRule.Rule.Nest

/-!
# Reading a rule by descent

A `Nest` keeps the levels that wait in a list. Here each level is read by a loop of its own instead,
which for a group calls the loop of the level inside and goes on behind it. All loops share one
index, that of the next token. `Point.iterate` is an iteration of the loop up to the call it may
make, `Returns` is what a level that comes to its end is read to, and `Visits` are the points that a
run passes through.
-/

namespace TriggerRule

namespace Descent

/-- Where the loop of a level stands between two iterations. -/
structure Point where
  /-- The level, counted from one. -/
  depth : Nat
  operands : Operands
  /-- The index of the next token. -/
  index : Nat

/-- What an iteration comes to. -/
inductive Iteration where
  /-- The level goes on. -/
  | goes (next : Point)
  /-- The level of a group is read, and then the level goes on behind it. -/
  | enters (enclosure : Enclosure) (inner : Point)
  /-- The level ends at the token of an index, and another index is the next behind it. -/
  | ends (stop next : Nat)
  | fails (failure : Failure Site)

/-- What a level is read to: its rule and the index behind it, or a failure. -/
abbrev Outcome := Except (Failure Site) (Rule × Nat)

namespace Point

def start : Point := ⟨1, .empty, 0⟩

def site (point : Point) : Site := ⟨point.index, point.depth⟩

def fail (point : Point) (cause : Cause) (index : Nat) : Iteration :=
  .fails (.raised cause ⟨index, point.depth⟩)

/-- Enters the level of a group, unless the limit is reached. -/
def descend (limit : Nat) (point : Point) (enclosure : Enclosure) (width : Nat) : Iteration :=
  if limit ≤ point.depth then point.fail .nestingTooDeep point.index
  else .enters enclosure ⟨point.depth + 1, .empty, point.index + width⟩

/-- Reads a match whose parameter is the literal at the index. -/
def readMatch (point : Point) (parameter : String) (test : Test) (width : Nat) : Iteration :=
  match Reference.parse parameter with
  | .error refusal => point.fail (.badReference refusal) point.index
  | .ok reference =>
    .goes ⟨point.depth, point.operands.add (.leaf ⟨reference, test⟩), point.index + width⟩

def readOperand (limit : Nat) (point : Point) (start : Phrase.Operand) : Iteration :=
  match start with
  | .group => point.descend limit .group start.width
  | .negation => point.descend limit .negation start.width
  | .value parameter value => point.readMatch parameter (.value value) start.width
  | .regex parameter pattern => point.readMatch parameter (.regex pattern) start.width
  | .hash parameter target secret =>
    if Nest.isPayload target then point.readMatch parameter (.sha1 secret) start.width
    else point.fail .badHashTarget (point.index + 4)

/-- One iteration, up to the call that reads the level of a group. -/
def iterate (limit : Nat) (tokens : List Token) (point : Point) : Iteration :=
  match Phrase.read? (tokens.drop point.index) with
  | none =>
    if tokens[point.index]?.map Token.kind = some .endOfText ∧ point.depth = 1 then
      .ends point.index point.index
    else point.fail .unexpectedToken point.index
  | some .and =>
    if point.operands.takesOperator then
      .goes ⟨point.depth, point.operands.addAnd, point.index + 1⟩
    else point.fail .unexpectedToken point.index
  | some .or =>
    if point.operands.takesOperator then
      .goes ⟨point.depth, point.operands.addOr, point.index + 1⟩
    else point.fail .unexpectedToken point.index
  | some .close =>
    if point.depth = 1 then point.fail .unexpectedToken point.index
    else .ends point.index (point.index + 1)
  | some (.operand start) =>
    if point.operands.takesOperand then point.readOperand limit start
    else point.fail .unexpectedToken point.index

/-- The level goes on behind a group that has been read. -/
def resume (point : Point) (enclosure : Enclosure) (rule : Rule) (next : Nat) : Point :=
  ⟨point.depth, point.operands.add (enclosure.apply rule), next⟩

/-- What the level is read to where it ends. -/
def close (point : Point) (stop next : Nat) : Outcome :=
  match point.operands.close with
  | .ok rule => .ok (rule, next)
  | .error cause => .error (.raised cause ⟨stop, point.depth⟩)

end Point

/-- The loop comes to its end from a point on, with an outcome. -/
inductive Returns (limit : Nat) (tokens : List Token) : Point → Outcome → Prop
  | goes {point next : Point} {outcome : Outcome}
    (hi : point.iterate limit tokens = .goes next) (hr : Returns limit tokens next outcome) :
    Returns limit tokens point outcome
  | resumes {point inner : Point} {enclosure : Enclosure} {rule : Rule} {next : Nat}
    {outcome : Outcome} (hi : point.iterate limit tokens = .enters enclosure inner)
    (hinner : Returns limit tokens inner (.ok (rule, next)))
    (hr : Returns limit tokens (point.resume enclosure rule next) outcome) :
    Returns limit tokens point outcome
  /-- A failure inside a group is wrapped in a link for the group. -/
  | inside {point inner : Point} {enclosure : Enclosure} {failure : Failure Site}
    (hi : point.iterate limit tokens = .enters enclosure inner)
    (hinner : Returns limit tokens inner (.error failure)) :
    Returns limit tokens point (.error (.within enclosure point.site failure))
  | ends {point : Point} {stop next : Nat} (hi : point.iterate limit tokens = .ends stop next) :
    Returns limit tokens point (point.close stop next)
  | fails {point : Point} {failure : Failure Site}
    (hi : point.iterate limit tokens = .fails failure) :
    Returns limit tokens point (.error failure)

/-- An iteration, with the call it may make, takes the loop of a level from one point to the next. -/
inductive Turns (limit : Nat) (tokens : List Token) (point : Point) : Point → Prop
  | goes {next : Point} (hi : point.iterate limit tokens = .goes next) :
    Turns limit tokens point next
  | resumes {inner : Point} {enclosure : Enclosure} {rule : Rule} {next : Nat}
    (hi : point.iterate limit tokens = .enters enclosure inner)
    (hinner : Returns limit tokens inner (.ok (rule, next))) :
    Turns limit tokens point (point.resume enclosure rule next)

/-- A run passes through the point, with a number of loops that have begun and not yet ended. -/
inductive Visits (limit : Nat) (tokens : List Token) : Nat → Point → Prop
  | start : Visits limit tokens 1 .start
  | turn {loops : Nat} {point next : Point} (h : Visits limit tokens loops point)
    (ht : Turns limit tokens point next) : Visits limit tokens loops next
  | call {loops : Nat} {point inner : Point} {enclosure : Enclosure}
    (h : Visits limit tokens loops point)
    (hi : point.iterate limit tokens = .enters enclosure inner) :
    Visits limit tokens (loops + 1) inner

end Descent

end TriggerRule
