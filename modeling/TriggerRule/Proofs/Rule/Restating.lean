import TriggerRule.Proofs.Json.Entries
import TriggerRule.Proofs.Rule.Loading

/-!
# Other documents of a rule

A rule can be stated by other documents than the one that is written for it: in the objects of its
matches and parameters the keys may come in any order and among others, and a match, a parameter and
a source have a second form each (`Rule.Restated`). From all of these, in any layout, the same rule
is loaded, unless too many brackets are open at once. A document is refused, wherever it has the
fault, if a match or a parameter misses one of its keys or repeats it, or if the object of a rule
has any other number of keys than one (`Rule.Miskeyed`). Main statement:
`load?_of_restated_or_miskeyed`.
-/

namespace TriggerRule

open Json (Mingled)

/-! ## The documents that state a rule -/

/-- A source is stated by its name, or by an object with the name as its only key and `null` under
it. -/
inductive Source.Restated (source : Source) : Json → Prop
  | name : Restated source (.string source.name)
  | key : Restated source (.object [(source.name, .null)])

/-- A parameter is stated by an object or by an array of two. What an object has under other keys
takes no more brackets than there is room for. -/
inductive Reference.Restated (room : Nat) (reference : Reference) : Json → Prop
  | object {source : Json} {entries : List (String × Json)}
    (hs : reference.source.Restated source)
    (h : Mingled room [("source", source), ("name", .string reference.name)] entries) :
    Restated room reference (.object entries)
  | array {source : Json} (hs : reference.source.Restated source) :
    Restated room reference (.array [source, .string reference.name])

/-- A match is stated by an object or by an array of three. -/
inductive Match.Restated (room : Nat) (condition : Match) : Json → Prop
  | object {parameter : Json} {entries : List (String × Json)}
    (hp : condition.parameter.Restated room parameter)
    (h : Mingled room [("type", .string condition.test.tag), ("parameter", parameter),
      (condition.test.key, .string condition.test.literal)] entries) :
    Restated room condition (.object entries)
  | array {parameter : Json} (hp : condition.parameter.Restated room parameter) :
    Restated room condition
      (.array [.string condition.test.tag, parameter, .string condition.test.literal])

namespace Rule

mutual

/-- A rule is stated as it is written, but for its matches. -/
inductive Restated (room : Nat) : Rule → Json → Prop
  | leaf {condition : Match} {document : Json} (h : condition.Restated room document) :
    Restated room (.leaf condition) (.object [("match", document)])
  | all {parts : List Rule} {items : List Json} (h : RestatedList room parts items) :
    Restated room (.all parts) (.object [("and", .array items)])
  | any {parts : List Rule} {items : List Json} (h : RestatedList room parts items) :
    Restated room (.any parts) (.object [("or", .array items)])
  | not {part : Rule} {document : Json} (h : Restated room part document) :
    Restated room (.not part) (.object [("not", document)])

/-- Each part is stated by an item. -/
inductive RestatedList (room : Nat) : List Rule → List Json → Prop
  | nil : RestatedList room [] []
  | cons {part : Rule} {parts : List Rule} {item : Json} {items : List Json}
    (hp : Restated room part item) (h : RestatedList room parts items) :
    RestatedList room (part :: parts) (item :: items)

end

end Rule

/-! ## The document that is written -/

theorem Reference.restated_toJson (room : Nat) (reference : Reference) :
    reference.Restated room reference.toJson := .object .name (.refl room _)

theorem Match.restated_toJson (room : Nat) (condition : Match) :
    condition.Restated room condition.toJson :=
  .object (condition.parameter.restated_toJson room) (.refl room _)

namespace Rule

mutual

theorem restated_toJson (room : Nat) : ∀ rule : Rule, Restated room rule rule.toJson
  | leaf condition => .leaf (condition.restated_toJson room)
  | all parts => .all (restatedList_listToJson room parts)
  | any parts => .any (restatedList_listToJson room parts)
  | not part => .not (restated_toJson room part)

theorem restatedList_listToJson (room : Nat) : ∀ parts : List Rule,
    RestatedList room parts (listToJson parts)
  | [] => .nil
  | part :: parts => .cons (restated_toJson room part) (restatedList_listToJson room parts)

end

end Rule

/-! ## They are read as the rule -/

theorem Source.Restated.ofJson? {isNothing : Json → Bool} (hn : isNothing .null = true)
    {source : Source} {document : Json} (h : source.Restated document) :
    Source.ofJson? isNothing document = some source := by
  cases h with
  | name => simp [Source.ofJson?, Source.ofName?_name]
  | key => simp [Source.ofJson?, hn, Source.ofName?_name]

theorem Reference.Restated.ofJson? {isNothing : Json → Bool} (hn : isNothing .null = true)
    {room : Nat} {reference : Reference} {document : Json} (h : reference.Restated room document) :
    Reference.ofJson? isNothing document = some reference := by
  cases h with
  | object hs h =>
    rw [Reference.ofJson?, h.once?_eq (by simp), h.once?_eq (by simp)]
    simp [Json.once?, Reference.ofParts?, hs.ofJson? hn, Json.text?]
  | array hs => simp [Reference.ofJson?, Reference.ofParts?, hs.ofJson? hn, Json.text?]

/-- The tag of a test leads back to the tests of its kind. -/
theorem Test.exists_ofTag? (test : Test) : ∃ make, Test.ofTag? test.tag = some make ∧
    make test.literal = test ∧ (make "").key = test.key := by
  cases test with
  | value text => exact ⟨.value, rfl, rfl, rfl⟩
  | regex pattern => exact ⟨.regex, rfl, rfl, rfl⟩
  | sha1 secret => exact ⟨.sha1, rfl, rfl, rfl⟩

namespace Match

variable {room : Nat} {condition : Match}

/-- The keys of a match are found among others. -/
theorem once?_of_mingled {parameter : Json} {entries : List (String × Json)}
    (h : Mingled room [("type", .string condition.test.tag), ("parameter", parameter),
      (condition.test.key, .string condition.test.literal)] entries) :
    Json.once? "type" entries = some (.string condition.test.tag) ∧
      Json.once? "parameter" entries = some parameter ∧
      Json.once? condition.test.key entries = some (.string condition.test.literal) := by
  rw [h.once?_eq (by simp), h.once?_eq (by simp), h.once?_eq (by simp)]
  cases condition.test <;> simp [Json.once?, Test.key]

theorem Restated.ofJson? {document : Json} (h : condition.Restated room document) :
    Match.ofJson? document = some condition := by
  obtain ⟨make, htag, hmake, hkey⟩ := condition.test.exists_ofTag?
  have hparts : ∀ {parameter : Json}, condition.parameter.Restated room parameter →
      ofParts? make parameter (.string condition.test.literal) = some condition := by
    intro parameter hp
    have hread := hp.ofJson? (show isNothing .null = true from rfl)
    simp [ofParts?, hread, Json.text?, hmake]
  cases h with
  | object hp h =>
    obtain ⟨htype, hparameter, hliteral⟩ := once?_of_mingled h
    simp only [Match.ofJson?, htype, Option.bind_some, Json.text?, htag, hparameter, hkey,
      hliteral]
    exact hparts hp
  | array hp =>
    rw [Match.ofJson?, htag]
    exact hparts hp

end Match

namespace Rule

variable {room : Nat}

mutual

theorem Restated.ofJson? : ∀ {rule : Rule} {document : Json}, Restated room rule document →
    Rule.ofJson? document = some rule
  | _, _, .leaf h => by simp [Rule.ofJson?, h.ofJson?]
  | _, _, .all h => by simp [Rule.ofJson?, partsOfJson?, h.listOfJson?]
  | _, _, .any h => by simp [Rule.ofJson?, partsOfJson?, h.listOfJson?]
  | _, _, .not h => by simp [Rule.ofJson?, h.ofJson?]

theorem RestatedList.listOfJson? : ∀ {parts : List Rule} {items : List Json},
    RestatedList room parts items → Rule.listOfJson? items = some parts
  | _, _, .nil => rfl
  | _, _, .cons hp h => by simp [Rule.listOfJson?, hp.ofJson?, h.listOfJson?]

end

end Rule

/-! ## They are plain, and take few more brackets -/

theorem Source.Restated.plain {source : Source} {document : Json} (h : source.Restated document) :
    document.Plain := by
  cases h with
  | name => trivial
  | key => exact ⟨trivial, trivial⟩

theorem Source.Restated.depth_le {source : Source} {document : Json}
    (h : source.Restated document) : document.depth ≤ 1 := by
  cases h with
  | name => exact Nat.zero_le 1
  | key => exact Nat.le_refl 1

theorem Reference.Restated.plain {room : Nat} {reference : Reference} {document : Json}
    (h : reference.Restated room document) : document.Plain := by
  cases h with
  | object hs h =>
    apply h.plain
    simp [hs.plain, Json.Plain]
  | array hs => exact ⟨hs.plain, trivial, trivial⟩

theorem Reference.Restated.depth_le {room : Nat} {reference : Reference} {document : Json}
    (h : reference.Restated room document) : document.depth ≤ room + 2 := by
  cases h with
  | object hs h =>
    have hsource := hs.depth_le
    refine h.depth_le ?_ (Nat.le_succ room)
    simp only [List.forall_mem_cons, Json.depth]
    refine ⟨by omega, by omega, by simp⟩
  | array hs =>
    have hsource := hs.depth_le
    simp only [Json.depth, Json.itemsDepth]
    omega

theorem Match.Restated.plain {room : Nat} {condition : Match} {document : Json}
    (h : condition.Restated room document) : document.Plain := by
  cases h with
  | object hp h =>
    apply h.plain
    simp [hp.plain, Json.Plain]
  | array hp => exact ⟨trivial, hp.plain, trivial, trivial⟩

theorem Match.Restated.depth_le {room : Nat} {condition : Match} {document : Json}
    (h : condition.Restated room document) : document.depth ≤ room + 3 := by
  cases h with
  | object hp h =>
    have hparameter := hp.depth_le
    refine h.depth_le ?_ (Nat.le_add_right room 2)
    simp only [List.forall_mem_cons, Json.depth]
    refine ⟨by omega, hparameter, by omega, by simp⟩
  | array hp =>
    have hparameter := hp.depth_le
    simp only [Json.depth, Json.itemsDepth]
    omega

namespace Rule

variable {room : Nat}

mutual

theorem Restated.plain : ∀ {rule : Rule} {document : Json}, Restated room rule document →
    document.Plain
  | _, _, .leaf h => ⟨h.plain, trivial⟩
  | _, _, .all h => ⟨h.plain, trivial⟩
  | _, _, .any h => ⟨h.plain, trivial⟩
  | _, _, .not h => ⟨h.plain, trivial⟩

theorem RestatedList.plain : ∀ {parts : List Rule} {items : List Json},
    RestatedList room parts items → Json.PlainItems items
  | _, _, .nil => trivial
  | _, _, .cons hp h => ⟨hp.plain, h.plain⟩

end

mutual

/-- Another form of a source takes a bracket more than its name, and what is passed over takes the
brackets that there is room for. -/
theorem Restated.depth_le : ∀ {rule : Rule} {document : Json}, Restated room rule document →
    document.depth ≤ rule.brackets + room + 1
  | _, _, .leaf h => by
    have hmatch := h.depth_le
    simp only [Json.depth, Json.entriesDepth, brackets]
    omega
  | _, _, .all h => by
    have hparts := h.itemsDepth_le
    simp only [Json.depth, Json.entriesDepth, brackets]
    omega
  | _, _, .any h => by
    have hparts := h.itemsDepth_le
    simp only [Json.depth, Json.entriesDepth, brackets]
    omega
  | _, _, .not h => by
    have hpart := h.depth_le
    simp only [Json.depth, Json.entriesDepth, brackets]
    omega

theorem RestatedList.itemsDepth_le : ∀ {parts : List Rule} {items : List Json},
    RestatedList room parts items → Json.itemsDepth items ≤ bracketsList parts + room + 1
  | _, _, .nil => Nat.zero_le _
  | _, _, .cons hp h => by
    have hpart := hp.depth_le
    have hparts := h.itemsDepth_le
    simp only [Json.itemsDepth, bracketsList]
    omega

end

/-- A document that states a rule is loaded as the rule, in any layout. -/
theorem Restated.load?_eq {rule : Rule} {document : Json} {text : String}
    (h : Restated room rule document) (ht : Json.Lexeme.Laid document.lexemes text.toList) :
    load? text = if document.depth < 128 then some rule else none := by
  rw [load?, Json.read?_of_laid ht, Option.bind_some, h.ofJson?]
  by_cases hd : document.depth < 128
  · rw [if_pos hd, if_pos ((Json.isReadable_iff h.plain).2 hd)]
  · rw [if_neg hd, if_neg fun hr => hd ((Json.isReadable_iff h.plain).1 hr)]

end Rule

/-! ## The documents that are refused -/

/-- In the object of a parameter a key is missing or repeated. -/
inductive Reference.Miskeyed : Json → Prop
  | key {key : String} {entries : List (String × Json)} (hk : key = "source" ∨ key = "name")
    (hc : (entries.map Prod.fst).count key ≠ 1) : Miskeyed (.object entries)

/-- In the object of a match a key is missing or repeated, or the match has such a parameter. Which
key the literal has depends on the tag. -/
inductive Match.Miskeyed : Json → Prop
  | key {key : String} {entries : List (String × Json)} (hk : key = "type" ∨ key = "parameter")
    (hc : (entries.map Prod.fst).count key ≠ 1) : Miskeyed (.object entries)
  | literal {test : Test} {entries : List (String × Json)}
    (ht : ("type", .string test.tag) ∈ entries)
    (hc : (entries.map Prod.fst).count test.key ≠ 1) : Miskeyed (.object entries)
  | parameter {parameter : Json} {entries : List (String × Json)}
    (hp : ("parameter", parameter) ∈ entries) (h : Reference.Miskeyed parameter) :
    Miskeyed (.object entries)
  | item {tag parameter literal : Json} (h : Reference.Miskeyed parameter) :
    Miskeyed (.array [tag, parameter, literal])

/-- The object of a rule has no key or several, or there is such a match or part. -/
inductive Rule.Miskeyed : Json → Prop
  | keys {entries : List (String × Json)} (h : entries.length ≠ 1) : Miskeyed (.object entries)
  | leaf {document : Json} (h : Match.Miskeyed document) : Miskeyed (.object [("match", document)])
  | all {item : Json} {items : List Json} (hi : item ∈ items) (h : Miskeyed item) :
    Miskeyed (.object [("and", .array items)])
  | any {item : Json} {items : List Json} (hi : item ∈ items) (h : Miskeyed item) :
    Miskeyed (.object [("or", .array items)])
  | not {document : Json} (h : Miskeyed document) : Miskeyed (.object [("not", document)])

theorem Reference.Miskeyed.ofJson?_eq_none {isNothing : Json → Bool} {document : Json}
    (h : Miskeyed document) : Reference.ofJson? isNothing document = none := by
  cases h with
  | key hk hc =>
    have hnone := Json.once?_eq_none_of_count_ne hc
    rcases hk with rfl | rfl
    · simp [Reference.ofJson?, hnone]
    · simp [Reference.ofJson?, hnone]

namespace Match

theorem exists_of_ofParts? {make : String → Test} {parameter literal : Json} {condition : Match}
    (h : ofParts? make parameter literal = some condition) :
    Reference.ofJson? isNothing parameter = some condition.parameter ∧
      ∃ text, condition.test = make text := by
  unfold ofParts? at h
  split at h
  · next hp hl =>
    obtain rfl := Option.some.inj h
    exact ⟨hp, _, rfl⟩
  · cases h

theorem tag_of_ofTag? {tag : String} {make : String → Test} (h : Test.ofTag? tag = some make)
    (text : String) : (make text).tag = tag ∧ (make text).key = (make "").key := by
  unfold Test.ofTag? at h
  split_ifs at h with hvalue hregex hsha1
  · obtain rfl := Option.some.inj h
    exact ⟨hvalue.symm, rfl⟩
  · obtain rfl := Option.some.inj h
    exact ⟨hregex.symm, rfl⟩
  · obtain rfl := Option.some.inj h
    exact ⟨hsha1.symm, rfl⟩

/-- An object that is read as a match has each of its keys once. -/
theorem once?_of_ofJson? {entries : List (String × Json)} {condition : Match}
    (h : Match.ofJson? (.object entries) = some condition) :
    Json.once? "type" entries = some (.string condition.test.tag) ∧
      (∃ literal, Json.once? condition.test.key entries = some literal) ∧
      ∃ parameter, Json.once? "parameter" entries = some parameter ∧
        Reference.ofJson? isNothing parameter = some condition.parameter := by
  simp only [Match.ofJson?] at h
  split at h
  · next tag htype =>
    split at h
    · next make parameter htag hparameter =>
      split at h
      · next literal hliteral =>
        obtain ⟨hp, text, htest⟩ := exists_of_ofParts? h
        obtain ⟨ht, hk⟩ := tag_of_ofTag? htag text
        obtain ⟨document, honce, htext⟩ := Option.bind_eq_some_iff.1 htype
        obtain rfl : document = .string tag := by
          cases document <;> simp_all [Json.text?]
        rw [htest, ht, hk]
        exact ⟨honce, ⟨literal, hliteral⟩, parameter, hparameter, hp⟩
      · cases h
    · cases h
  · cases h

theorem Miskeyed.ofJson?_eq_none {document : Json} (h : Miskeyed document) :
    Match.ofJson? document = none := by
  rw [Option.eq_none_iff_forall_ne_some]
  intro condition hsome
  cases h with
  | key hk hc =>
    have hnone := Json.once?_eq_none_of_count_ne hc
    obtain ⟨htype, -, parameter, hparameter, -⟩ := once?_of_ofJson? hsome
    rcases hk with rfl | rfl
    · simp [hnone] at htype
    · simp [hnone] at hparameter
  | @literal test entries ht hc =>
    have hnone := Json.once?_eq_none_of_count_ne hc
    obtain ⟨htype, ⟨literal, hliteral⟩, -⟩ := once?_of_ofJson? hsome
    have htag := Json.eq_of_once?_of_mem htype ht
    have hkey : test.key = condition.test.key := by
      revert htag
      cases test <;> cases condition.test <;> simp [Test.tag, Test.key]
    simp [← hkey, hnone] at hliteral
  | parameter hp h =>
    obtain ⟨-, -, parameter, hparameter, href⟩ := once?_of_ofJson? hsome
    obtain rfl := Json.eq_of_once?_of_mem hparameter hp
    simp [h.ofJson?_eq_none] at href
  | @item tag parameter literal h =>
    unfold Match.ofJson? at hsome
    split at hsome
    · next heq =>
      obtain ⟨rfl, rfl, rfl⟩ : tag = _ ∧ parameter = _ ∧ literal = _ := by simpa using heq
      split at hsome
      · have href := (exists_of_ofParts? hsome).1
        simp [h.ofJson?_eq_none] at href
      · cases hsome
    · next heq => cases heq
    · cases hsome

end Match

namespace Rule

theorem listOfJson?_eq_none_of_mem {item : Json} {items : List Json} (hi : item ∈ items)
    (h : Rule.ofJson? item = none) : listOfJson? items = none := by
  induction items with
  | nil => cases hi
  | cons first items ih =>
    rcases List.mem_cons.1 hi with rfl | hi
    · simp [listOfJson?, h]
    · simp [listOfJson?, ih hi]

theorem Miskeyed.ofJson?_eq_none {document : Json} (h : Miskeyed document) :
    Rule.ofJson? document = none := by
  induction h with
  | @keys entries h =>
    rcases entries with _ | ⟨first, _ | ⟨second, entries⟩⟩
    · rfl
    · exact absurd rfl h
    · simp [Rule.ofJson?]
  | leaf h => simp [Rule.ofJson?, h.ofJson?_eq_none]
  | all hi h ih => simp [Rule.ofJson?, partsOfJson?, listOfJson?_eq_none_of_mem hi ih]
  | any hi h ih => simp [Rule.ofJson?, partsOfJson?, listOfJson?_eq_none_of_mem hi ih]
  | not h ih => simp [Rule.ofJson?, ih]

theorem Miskeyed.load?_eq_none {document : Json} {text : String} (h : Miskeyed document)
    (ht : Json.read? text = some document) : load? text = none := by
  rw [load?, ht, Option.bind_some, h.ofJson?_eq_none, ite_self]

/-! ## Loading a rule from any document -/

/-- **The layout of a document makes no difference to what is loaded from it**: in whatever way a
document states a rule and is laid out, the rule is loaded, as long as fewer than 128 brackets are
open at once. The document that is written for a rule is one of these, and the others take at most
one bracket more than it does, and those of what is passed over. But a document in which a match or
a parameter misses or repeats a key, or a rule has no key or several, is refused. -/
theorem load?_of_restated_or_miskeyed :
    (∀ (room : Nat) (rule : Rule), Restated room rule rule.toJson) ∧
    (∀ (room : Nat) (rule : Rule) (document : Json) (text : String),
      Restated room rule document → Json.Lexeme.Laid document.lexemes text.toList →
        load? text = (if document.depth < 128 then some rule else none) ∧
        (rule.brackets + room + 1 < 128 → load? text = some rule)) ∧
    ∀ (document : Json) (text : String), Miskeyed document → Json.read? text = some document →
      load? text = none := by
  refine ⟨restated_toJson, ?_, fun document text h ht => h.load?_eq_none ht⟩
  intro room rule document text h ht
  refine ⟨h.load?_eq ht, fun hroom => ?_⟩
  have hdepth := h.depth_le
  rw [h.load?_eq ht, if_pos (by omega)]

/-- A match with its keys in the opposite order, a key added twice, and other forms of its parameter
and source. -/
def sampleRestated : Json :=
  .object [("match", .object [("note", .bool true), ("note", .array [.object []]),
    ("value", .string "1"), ("parameter", .array [.object [("query", .null)], .string "a"]),
    ("type", .string "value")])]

theorem restated_sampleRestated : Restated 2 (.leaf sampleMatch) sampleRestated := by
  refine .leaf (.object (.array .key)
    ⟨[("note", .array [.object []]), ("note", .bool true)], ?_, ?_⟩)
  · exact .trans (.of_eq (by rfl)) (List.reverse_perm _)
  · simp [sampleMatch, Test.key, Json.Plain, Json.PlainItems, Json.PlainEntries, Json.depth,
      Json.itemsDepth, Json.entriesDepth]

/-- A match with a key repeated. -/
def sampleMiskeyed : Json :=
  .object [("match", .object [("type", .string "value"), ("type", .string "value"),
    ("parameter", .array [.string "query", .string "a"]), ("value", .string "1")])]

theorem miskeyed_sampleMiskeyed : Miskeyed sampleMiskeyed :=
  .leaf (.key (.inl rfl) (by simp))

/-- The match is loaded from the first document over several lines, and not from the second. -/
theorem load?_restated_and_miskeyed_sample :
    load? sampleRestated.indented = some (.leaf sampleMatch) ∧
      load? sampleMiskeyed.compact = none := by
  obtain ⟨-, hload, hrefuse⟩ := load?_of_restated_or_miskeyed
  have hl := Json.laid_indentedAt 0 restated_sampleRestated.plain
  have hplain : sampleMiskeyed.Plain := by
    simp [sampleMiskeyed, Json.Plain, Json.PlainItems, Json.PlainEntries]
  exact ⟨(hload 2 _ _ _ restated_sampleRestated hl).2 (by decide),
    hrefuse _ _ miskeyed_sampleMiskeyed (Json.read?_compact hplain)⟩

end Rule

end TriggerRule
