import ProjectFiles.Yaml.Token

/-!
# Nodes of YAML documents

A document holds one node, which is a scalar or a collection of nodes.  A text
that is read here holds one document at most.  Readers take the tokens from the
front of what remains, with fuel that is more than the number of tokens.
-/

namespace ProjectFiles.Yaml

/-- A scalar with its tag.  A scalar that is not there is plain and empty. -/
structure Scalar where
  tag : Option TagText := none
  style : ScalarStyle := .plain
  text : String := ""
  deriving DecidableEq, Repr, Inhabited

/-- A node of a document. -/
inductive Node where
  | scalar (scalar : Scalar)
  | sequence (items : List Node)
  | mapping (entries : List (Node × Node))
  /-- A reference to a marked node, by its number. -/
  | reference (number : Nat)

/-- A node that is not there. -/
def Node.empty : Node :=
  .scalar {}

/-- The nodes of a document that anchors mark.  An anchor gives its node the
number of names known before, also when the name itself is known.  A name that
is used again can so share its number with a later one, and the last node with a
number is the one that is meant. -/
structure Anchors where
  /-- The number of each name. -/
  numbers : List (String × Nat) := []
  /-- The numbered nodes, latest first; of a node its scalar matters, if it is
  one. -/
  nodes : List (Nat × Option Scalar) := []

namespace Anchors

/-- Let a name stand for a node. -/
def mark (anchors : Anchors) (name : String) (scalar : Option Scalar) : Anchors :=
  let number := anchors.numbers.length
  { numbers := (name, number) :: anchors.numbers.filter (·.1 ≠ name)
    nodes := (number, scalar) :: anchors.nodes }

/-- The number of a name. -/
def number? (anchors : Anchors) (name : String) : Option Nat :=
  anchors.numbers.lookup name

/-- The scalar with a number. -/
def scalar? (anchors : Anchors) (number : Nat) : Option Scalar :=
  (anchors.nodes.lookup number).join

end Anchors

/-- The tokens that remain, and what the text before them has given names to. -/
structure Remainder where
  tokens : List Token
  /-- The expansions of tag handles. -/
  handles : List (String × TagText)
  anchors : Anchors

namespace Remainder

/-- The next token. -/
def peek (remainder : Remainder) : Option Token :=
  remainder.tokens.head?

/-- Whether the next token is one of several. -/
def nextIn (remainder : Remainder) (tokens : List Token) : Bool :=
  remainder.peek.any tokens.contains

/-- Drop the next token. -/
def next (remainder : Remainder) : Remainder :=
  { remainder with tokens := remainder.tokens.drop 1 }

/-- Drop the next token, which has to be a given one. -/
def expect? (remainder : Remainder) (token : Token) : Option Remainder :=
  if remainder.nextIn [token] then some remainder.next else none

/-- What a tag stands for. -/
def expandTag? (remainder : Remainder) (tag : Tag) : Option TagText :=
  if tag.handle.isEmpty then some tag.suffix
  else (remainder.handles.lookup tag.handle).map fun expansion => expansion.append tag.suffix

end Remainder

/-- What stands before a node. -/
structure Properties where
  anchor : Option String := none
  tag : Option Tag := none

namespace Properties

/-- Whether nothing stands before a node. -/
def isEmpty (properties : Properties) : Bool :=
  properties.anchor.isNone && properties.tag.isNone

/-- Read an anchor and a tag in either order. -/
def read (remainder : Remainder) : Properties × Remainder :=
  match remainder.tokens with
  | .anchor name :: .tag tag :: rest => (⟨some name, some tag⟩, { remainder with tokens := rest })
  | .tag tag :: .anchor name :: rest => (⟨some name, some tag⟩, { remainder with tokens := rest })
  | .anchor name :: rest => (⟨some name, none⟩, { remainder with tokens := rest })
  | .tag tag :: rest => (⟨none, some tag⟩, { remainder with tokens := rest })
  | _ => ({}, remainder)

/-- Let the anchor stand for a node. -/
def bind (properties : Properties) (scalar : Option Scalar) (remainder : Remainder) : Remainder :=
  match properties.anchor with
  | some name => { remainder with anchors := remainder.anchors.mark name scalar }
  | none => remainder

end Properties

/-- Where a node stands. -/
structure Place where
  /-- Whether block collections are allowed. -/
  block : Bool
  /-- Whether a sequence may be indented no deeper than the mapping around it. -/
  flush : Bool

mutual

/-- Read a node.  An anchor or a tag with nothing behind it stands before an empty
scalar. -/
def node? (place : Place) : Nat → Remainder → Option (Node × Remainder)
  | 0, _ => none
  | fuel + 1, remainder =>
      match remainder.peek with
      | some (.reference name) =>
          (remainder.anchors.number? name).map fun number => (.reference number, remainder.next)
      | _ => do
          let (properties, remainder) := Properties.read remainder
          let tag ← properties.tag.mapM remainder.expandTag?
          let missing : Scalar := { tag := tag }
          let absent :=
            if properties.isEmpty then none
            else some (Node.scalar missing, properties.bind missing remainder)
          match remainder.peek with
          | some (.scalar style text) =>
              let scalar : Scalar := ⟨tag, style, text⟩
              some (.scalar scalar, properties.bind scalar remainder.next)
          | some token =>
              (collection? place fuel token (properties.bind none remainder)).getD absent
          | none => absent

/-- Read a collection that starts with a token.  The outer answer says whether
the token starts one here, the inner one whether it can be read. -/
def collection? (place : Place) :
    Nat → Token → Remainder → Option (Option (Node × Remainder))
  | 0, _, _ => none
  | fuel + 1, token, remainder =>
      let sequence (answer : Option (List Node × Remainder)) : Option (Node × Remainder) :=
        answer.map fun (items, remainder) => (.sequence items, remainder)
      let mapping (answer : Option (List (Node × Node) × Remainder)) : Option (Node × Remainder) :=
        answer.map fun (entries, remainder) => (.mapping entries, remainder)
      match token with
      | .blockEntry => if place.flush then some (sequence (flushItems? fuel remainder)) else none
      | .flowSequence => some (sequence (flowItems? true fuel remainder.next))
      | .flowMapping => some (mapping (flowEntries? true fuel remainder.next))
      | .blockSequence =>
          if place.block then some (sequence (blockItems? fuel remainder.next)) else none
      | .blockMapping =>
          if place.block then some (mapping (blockEntries? fuel remainder.next)) else none
      | _ => none

/-- Read a node unless one of several tokens shows that there is none. -/
def nodeUnless? (place : Place) (absent : List Token) :
    Nat → Remainder → Option (Node × Remainder)
  | 0, _ => none
  | fuel + 1, remainder =>
      if remainder.nextIn absent then some (.empty, remainder) else node? place fuel remainder

/-- Read the rest of a block sequence. -/
def blockItems? : Nat → Remainder → Option (List Node × Remainder)
  | 0, _ => none
  | fuel + 1, remainder =>
      match remainder.peek with
      | some .blockEntry => do
          let (item, remainder) ←
            nodeUnless? ⟨true, false⟩ [.blockEntry, .blockEnd] fuel remainder.next
          let (items, remainder) ← blockItems? fuel remainder
          some (item :: items, remainder)
      | some .blockEnd => some ([], remainder.next)
      | _ => none

/-- Read the rest of a block sequence that is indented as the mapping around
it. -/
def flushItems? : Nat → Remainder → Option (List Node × Remainder)
  | 0, _ => none
  | fuel + 1, remainder =>
      match remainder.peek with
      | some .blockEntry => do
          let (item, remainder) ←
            nodeUnless? ⟨true, false⟩ [.blockEntry, .key, .value, .blockEnd] fuel remainder.next
          let (items, remainder) ← flushItems? fuel remainder
          some (item :: items, remainder)
      | _ => some ([], remainder)

/-- Read the rest of a block mapping. -/
def blockEntries? : Nat → Remainder → Option (List (Node × Node) × Remainder)
  | 0, _ => none
  | fuel + 1, remainder =>
      match remainder.peek with
      | some .key => do
          let (key, remainder) ←
            nodeUnless? ⟨true, true⟩ [.key, .value, .blockEnd] fuel remainder.next
          let (value, remainder) ← value? ⟨true, true⟩ [.key, .value, .blockEnd] fuel remainder
          let (entries, remainder) ← blockEntries? fuel remainder
          some ((key, value) :: entries, remainder)
      | some .blockEnd => some ([], remainder.next)
      | _ => none

/-- Read the value of an entry, which may be missing. -/
def value? (place : Place) (absent : List Token) : Nat → Remainder → Option (Node × Remainder)
  | 0, _ => none
  | fuel + 1, remainder =>
      if remainder.nextIn [.value] then nodeUnless? place absent fuel remainder.next
      else some (.empty, remainder)

/-- Read the rest of a flow sequence.  An entry that is written as a key with a
value is a mapping of its own. -/
def flowItems? (first : Bool) : Nat → Remainder → Option (List Node × Remainder)
  | 0, _ => none
  | fuel + 1, remainder =>
      if remainder.nextIn [.flowSequenceEnd] then
        some ([], remainder.next)
      else do
        let remainder ← if first then some remainder else remainder.expect? .flowEntry
        match remainder.peek with
        | some .flowSequenceEnd => some ([], remainder.next)
        | some .key =>
            let (key, remainder) ← flowItemKey? fuel remainder.next
            let (value, remainder) ←
              value? ⟨false, false⟩ [.flowEntry, .flowSequenceEnd] fuel remainder
            let (items, remainder) ← flowItems? false fuel remainder
            some (.mapping [(key, value)] :: items, remainder)
        | _ =>
            let (item, remainder) ← node? ⟨false, false⟩ fuel remainder
            let (items, remainder) ← flowItems? false fuel remainder
            some (item :: items, remainder)

/-- Read the key of a mapping that is an entry of a flow sequence.  The token
behind a key that is not there is dropped. -/
def flowItemKey? : Nat → Remainder → Option (Node × Remainder)
  | 0, _ => none
  | fuel + 1, remainder =>
      if remainder.nextIn [.value, .flowEntry, .flowSequenceEnd] then some (.empty, remainder.next)
      else node? ⟨false, false⟩ fuel remainder

/-- Read the rest of a flow mapping. -/
def flowEntries? (first : Bool) : Nat → Remainder → Option (List (Node × Node) × Remainder)
  | 0, _ => none
  | fuel + 1, remainder =>
      if remainder.nextIn [.flowMappingEnd] then
        some ([], remainder.next)
      else do
        let remainder ← if first then some remainder else remainder.expect? .flowEntry
        match remainder.peek with
        | some .flowMappingEnd => some ([], remainder.next)
        | some .key =>
            let (key, remainder) ←
              nodeUnless? ⟨false, false⟩ [.value, .flowEntry, .flowMappingEnd] fuel remainder.next
            let (value, remainder) ←
              value? ⟨false, false⟩ [.flowEntry, .flowMappingEnd] fuel remainder
            let (entries, remainder) ← flowEntries? false fuel remainder
            some ((key, value) :: entries, remainder)
        | _ =>
            let (key, remainder) ← node? ⟨false, false⟩ fuel remainder
            let (entries, remainder) ← flowEntries? false fuel remainder
            some ((key, .empty) :: entries, remainder)

end

/-! ## Documents -/

/-- The tag handles that need no directive. -/
def standardHandles : List (String × TagText) :=
  [("!", .readable "!"), ("!!", .readable "tag:yaml.org,2002:")]

/-- Read the directives before a document.  There is one version at most, which
has to be a known one, and a handle is explained once. -/
def directives? : Bool → List (String × TagText) → List Token →
    Option (List (String × TagText) × List Token)
  | versioned, handles, .directive (.version major minor) :: rest =>
      if versioned || major ≠ 1 || (minor ≠ 1 && minor ≠ 2) then none
      else directives? true handles rest
  | versioned, handles, .directive (.handle name expansion) :: rest =>
      if (handles.lookup name).isSome then none
      else directives? versioned ((name, expansion) :: handles) rest
  | _, handles, rest => some (handles, rest)

/-- A text with at most one node outside all others. -/
structure Document where
  root : Option Node
  anchors : Anchors := {}

namespace Document

/-- The scalar that a node is or refers to. -/
def scalar? (document : Document) : Node → Option Scalar
  | .scalar content => some content
  | .reference number => document.anchors.scalar? number
  | _ => none

/-- Read the only document from the tokens of a text. -/
def ofTokens? (tokens : List Token) : Option Document := do
  if tokens.isEmpty then
    some { root := none }
  else
    let (handles, content) ← directives? false [] tokens
    let marked := content.head? == some .documentStart
    if content.length < tokens.length && !marked then none
    else
      let remainder : Remainder :=
        ⟨if marked then content.drop 1 else content, handles ++ standardHandles, {}⟩
      let absent := marked && (remainder.tokens.isEmpty ||
        remainder.nextIn [.documentStart, .documentEnd] ||
        remainder.tokens.head? matches some (.directive _))
      let (node, remainder) ←
        if absent then some (.empty, remainder)
        else node? ⟨true, false⟩ (4 * tokens.length + 4) remainder
      if remainder.tokens.all (· == .documentEnd) then some ⟨some node, remainder.anchors⟩
      else none

/-- Read the only document of a text. -/
def ofText? (text : String) : Option Document :=
  (tokens? text).bind ofTokens?

end Document

end ProjectFiles.Yaml
