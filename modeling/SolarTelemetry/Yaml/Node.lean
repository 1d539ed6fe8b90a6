import SolarTelemetry.Yaml.Token.Lexer

/-!
# Documents as trees

A document is a scalar, a sequence or a mapping, down to its scalars. The tree is built from the
tokens with a stack of the collections that are still open; where a token shows that a node was left
out, an empty plain scalar takes its place.
-/

namespace SolarTelemetry.Yaml

inductive Node where
  | scalar (text : String) (plain : Bool)
  | sequence (items : List Node)
  | mapping (entries : List (Node × Node))
  deriving Repr, Inhabited

/-- What stands where nothing was written. -/
def Node.empty : Node := .scalar "" true

/-- Where the reading of a mapping stands. -/
inductive Slot where
  /-- Before an entry. -/
  | entry
  | key
  /-- After a key. -/
  | colon (key : Node)
  | value (key : Node)
  deriving Repr

inductive Frame where
  /-- Before the document, whether or not it has been announced. -/
  | start (announced : Bool)
  | done (root : Node) (ended : Bool)
  /-- A block sequence, before or after the dash of an item. -/
  | blockSequence (items : List Node) (dash : Bool)
  /-- A block sequence as deep as the mapping that holds it. -/
  | levelSequence (items : List Node) (dash : Bool)
  | blockMapping (entries : List (Node × Node)) (slot : Slot)
  /-- A flow sequence, before or after an item. -/
  | flowSequence (items : List Node) (filled : Bool)
  | flowMapping (entries : List (Node × Node)) (slot : Slot)
  /-- A flow mapping before the key of an entry that has no value. -/
  | lone (entries : List (Node × Node))
  /-- A flow mapping after an entry. -/
  | filled (entries : List (Node × Node))
  /-- An item of a flow sequence that is an entry of a mapping. -/
  | pair (slot : Slot)
  | paired (key value : Node)
  deriving Repr

abbrev Stack := List Frame

namespace Stack

/-- Puts a finished node where the innermost collection has room for it. -/
def give (node : Node) : Stack → Option Stack
  | .start _ :: below => some (.done node false :: below)
  | .blockSequence items true :: below => some (.blockSequence (items ++ [node]) false :: below)
  | .levelSequence items true :: below => some (.levelSequence (items ++ [node]) false :: below)
  | .blockMapping entries .key :: below => some (.blockMapping entries (.colon node) :: below)
  | .blockMapping entries (.value key) :: below =>
    some (.blockMapping (entries ++ [(key, node)]) .entry :: below)
  | .flowSequence items false :: below => some (.flowSequence (items ++ [node]) true :: below)
  | .flowMapping entries .key :: below => some (.flowMapping entries (.colon node) :: below)
  | .flowMapping entries (.value key) :: below => some (.filled (entries ++ [(key, node)]) :: below)
  | .lone entries :: below => some (.filled (entries ++ [(node, .empty)]) :: below)
  | .pair .key :: below => some (.pair (.colon node) :: below)
  | .pair (.value key) :: below => some (.paired key node :: below)
  | _ => none

theorem length_of_give {node : Node} {stack after : Stack} (h : give node stack = some after) :
    after.length = stack.length := by
  unfold give at h
  split at h <;> cases h <;> rfl

/-- Begins a node. -/
def begin (t : Token) (stack : Stack) : Option Stack :=
  match t with
  | .scalar text plain => give (.scalar text plain) stack
  | .blockSequenceStart => some (.blockSequence [] false :: stack)
  | .blockMappingStart => some (.blockMapping [] .entry :: stack)
  | .flowSequenceStart => some (.flowSequence [] false :: stack)
  | .flowMappingStart => some (.flowMapping [] .entry :: stack)
  | _ => none

/-- Begins a node where a sequence need not be indented. -/
def beginLevel (t : Token) (stack : Stack) : Option Stack :=
  if t = .blockEntry then some (.levelSequence [] true :: stack) else begin t stack

def takeBlockSequence (t : Token) (items : List Node) (dash : Bool) (below : Stack) :
    Option Stack :=
  match dash, t with
  | false, .blockEntry => some (.blockSequence items true :: below)
  | false, .blockEnd => give (.sequence items) below
  | false, _ => none
  | true, .blockEntry => some (.blockSequence (items ++ [.empty]) true :: below)
  | true, .blockEnd => give (.sequence (items ++ [.empty])) below
  | true, t => begin t (.blockSequence items true :: below)

def takeBlockMapping (t : Token) (entries : List (Node × Node)) (slot : Slot) (below : Stack) :
    Option Stack :=
  match slot, t with
  | .entry, .key => some (.blockMapping entries .key :: below)
  | .entry, .blockEnd => give (.mapping entries) below
  | .entry, _ => none
  | .key, .key => some (.blockMapping (entries ++ [(.empty, .empty)]) .key :: below)
  | .key, .value => some (.blockMapping entries (.value .empty) :: below)
  | .key, .blockEnd => give (.mapping (entries ++ [(.empty, .empty)])) below
  | .key, t => beginLevel t (.blockMapping entries .key :: below)
  | .colon key, .value => some (.blockMapping entries (.value key) :: below)
  | .colon key, .key => some (.blockMapping (entries ++ [(key, .empty)]) .key :: below)
  | .colon key, .blockEnd => give (.mapping (entries ++ [(key, .empty)])) below
  | .colon _, _ => none
  | .value key, .key => some (.blockMapping (entries ++ [(key, .empty)]) .key :: below)
  | .value _, .value => none
  | .value key, .blockEnd => give (.mapping (entries ++ [(key, .empty)])) below
  | .value key, t => beginLevel t (.blockMapping entries (.value key) :: below)

def takeFlowMapping (t : Token) (entries : List (Node × Node)) (slot : Slot) (below : Stack) :
    Option Stack :=
  match slot, t with
  | .entry, .key => some (.flowMapping entries .key :: below)
  | .entry, .flowMappingEnd => give (.mapping entries) below
  | .entry, t => begin t (.lone entries :: below)
  | .key, .value => some (.flowMapping entries (.value .empty) :: below)
  | .key, .flowEntry => some (.flowMapping (entries ++ [(.empty, .empty)]) .entry :: below)
  | .key, .flowMappingEnd => give (.mapping (entries ++ [(.empty, .empty)])) below
  | .key, t => begin t (.flowMapping entries .key :: below)
  | .colon key, .value => some (.flowMapping entries (.value key) :: below)
  | .colon key, .flowEntry => some (.flowMapping (entries ++ [(key, .empty)]) .entry :: below)
  | .colon key, .flowMappingEnd => give (.mapping (entries ++ [(key, .empty)])) below
  | .colon _, _ => none
  | .value key, .flowEntry => some (.flowMapping (entries ++ [(key, .empty)]) .entry :: below)
  | .value key, .flowMappingEnd => give (.mapping (entries ++ [(key, .empty)])) below
  | .value key, t => begin t (.flowMapping entries (.value key) :: below)

/-- Takes a token; one that ends a collection without belonging to it is taken again below. -/
def take (t : Token) (stack : Stack) : Option Stack :=
  match stack with
  | [] => none
  | .start announced :: below =>
    match t with
    | .documentStart => if announced then none else some (.start true :: below)
    | .documentEnd => if announced then some (.done .empty true :: below) else none
    | t => begin t stack
  | .done root _ :: below => if t = .documentEnd then some (.done root true :: below) else none
  | .blockSequence items dash :: below => takeBlockSequence t items dash below
  | .levelSequence items dash :: below =>
    if t = .blockEntry then
      some (.levelSequence (if dash then items ++ [.empty] else items) true :: below)
    else if dash ∧ t ≠ .key ∧ t ≠ .value ∧ t ≠ .blockEnd then begin t stack
    else
      match _given : give (.sequence (if dash then items ++ [.empty] else items)) below with
      | none => none
      | some below => take t below
  | .blockMapping entries slot :: below => takeBlockMapping t entries slot below
  | .flowSequence items filled :: below =>
    match filled, t with
    | _, .flowSequenceEnd => give (.sequence items) below
    | true, .flowEntry => some (.flowSequence items false :: below)
    | true, _ => none
    | false, .key => some (.pair .key :: stack)
    | false, t => begin t stack
  | .flowMapping entries slot :: below => takeFlowMapping t entries slot below
  | .lone _ :: _ => none
  | .filled entries :: below =>
    match t with
    | .flowEntry => some (.flowMapping entries .entry :: below)
    | .flowMappingEnd => give (.mapping entries) below
    | _ => none
  | .pair slot :: below =>
    let ends := t = .flowEntry ∨ t = .flowSequenceEnd
    match slot with
    | .entry => none
    | .key =>
      if t = .value ∨ ends then some (.pair (.colon .empty) :: below) else begin t stack
    | .colon key =>
      if t = .value then some (.pair (.value key) :: below)
      else
        match _given : give (.mapping [(key, .empty)]) below with
        | none => none
        | some below => take t below
    | .value key =>
      if ends then
        match _given : give (.mapping [(key, .empty)]) below with
        | none => none
        | some below => take t below
      else begin t stack
  | .paired key value :: below =>
    match _given : give (.mapping [(key, value)]) below with
    | none => none
    | some below => take t below
termination_by stack.length
decreasing_by
  all_goals
    have := length_of_give _given
    simp only [List.length_cons]
    omega

def takeAll (stack : Stack) : List Token → Option Stack
  | [] => some stack
  | t :: rest => do (← stack.take t).takeAll rest

end Stack

/-- The one document of a row of tokens. -/
def Node.ofTokens? (tokens : List Token) : Option Node := do
  match ← Stack.takeAll [.start false] tokens with
  | [.done root _] => some root
  | [.start true] => some .empty
  | _ => none

/-- The document that a text holds, if it is well formed and there is just one. -/
def Node.ofText? (text : String) : Option Node := do Node.ofTokens? (← Token.ofText? text)

end SolarTelemetry.Yaml
