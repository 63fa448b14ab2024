import Inquiry.Yaml.Token

/-!
# YAML nodes

A document is a tree of nodes.  A node may carry a tag and an anchor; a
reference stands for the node that has its anchor, which must be complete.

Nodes that are left out, such as the value of a lone key, are empty scalars.
-/

namespace Inquiry.Yaml

/-- A node of a document. -/
inductive Node where
  /-- A scalar.  What a plain one without a tag means depends on its content. -/
  | scalar (tag : Option Text) (plain : Bool) (content : Text)
  | sequence (tag : Option Text) (items : List Node)
  | mapping (tag : Option Text) (entries : List (Node × Node))
  deriving Inhabited

/-- The node that stands where none is written. -/
def Node.empty : Node :=
  .scalar none true []

/-- Where a node stands. -/
inductive Place where
  /-- In the document itself or in a block sequence. -/
  | block
  /-- In a block mapping, where a sequence need not be indented. -/
  | entry
  /-- Inside brackets. -/
  | flow
  deriving Repr, DecidableEq

/-- The tag that stands for no tag in particular. -/
def openTag : Text := "!"

/-- What is written before a node. -/
structure Properties where
  anchor : Option Text := none
  tag : Option Text := none
  deriving Repr, DecidableEq

namespace Properties

/-- Nothing is written. -/
def isEmpty (properties : Properties) : Bool :=
  properties.anchor.isNone && properties.tag.isNone

/-- The tag, if it is one in particular. -/
def ownTag (properties : Properties) : Option Text :=
  properties.tag.filter (· != openTag)

/-- A scalar with the properties.  Under the open tag a scalar counts as plain. -/
def scalar (properties : Properties) (plain : Bool) (content : Text) : Node :=
  .scalar properties.ownTag (plain || properties.tag == some openTag) content

end Properties

/-- The tokens that are still to be read, and what the tokens before them
declared. -/
structure Remainder where
  tokens : List Token
  /-- The beginnings of tags that handles stand for. -/
  handles : List (Text × Text)
  /-- The anchors so far; a node that is not complete has none to offer. -/
  anchors : List (Text × Option Node) := []

namespace Remainder

/-- The full tag that a handle and a suffix make. -/
def fullTag? (remainder : Remainder) (handle : Option Text) (suffix : Text) :
    Option Text :=
  match handle with
  | none => some suffix
  | some name => (remainder.handles.lookup name).map (· ++ suffix)

/-- The properties of a node: an anchor and a tag, in either order. -/
def properties? (remainder : Remainder) : Option (Properties × Remainder) :=
  match remainder.tokens with
  | .anchor name :: .tag handle suffix :: tokens
  | .tag handle suffix :: .anchor name :: tokens => do
      let tag ← remainder.fullTag? handle suffix
      some ({ anchor := some name, tag }, { remainder with tokens })
  | .anchor name :: tokens => some ({ anchor := some name }, { remainder with tokens })
  | .tag handle suffix :: tokens => do
      let tag ← remainder.fullTag? handle suffix
      some ({ tag }, { remainder with tokens })
  | _ => some ({}, remainder)

/-- Declares an anchor, which must be new; its node is not complete yet. -/
def declare? (anchor : Option Text) (remainder : Remainder) : Option Remainder :=
  match anchor with
  | none => some remainder
  | some name =>
      if (remainder.anchors.lookup name).isSome then none
      else some { remainder with anchors := (name, none) :: remainder.anchors }

/-- Gives an anchor its node. -/
def complete (anchor : Option Text) (node : Node) (remainder : Remainder) : Remainder :=
  match anchor with
  | none => remainder
  | some name =>
      { remainder with anchors := (name, some node) :: remainder.anchors }

/-- The next token is one of the given ones. -/
def isAt (tokens : List Token) (remainder : Remainder) : Bool :=
  remainder.tokens.head?.any tokens.contains

/-- Moves past the comma before every item but the first. -/
def skipComma? (first : Bool) (remainder : Remainder) : Option Remainder :=
  match first, remainder.tokens with
  | true, _ => some remainder
  | false, .flowEntry :: tokens => some { remainder with tokens }
  | false, _ => none

mutual

/-- A node. -/
def node? (place : Place) : (fuel : Nat) → Remainder → Option (Node × Remainder)
  | 0, _ => none
  | fuel + 1, remainder =>
      match remainder.tokens with
      | .reference name :: tokens => do
          let node ← (← remainder.anchors.lookup name)
          some (node, { remainder with tokens })
      | _ => do
          let (properties, remainder) ← remainder.properties?
          let remainder ← remainder.declare? properties.anchor
          let (node, remainder) ← content? place properties fuel remainder
          some (node, remainder.complete properties.anchor node)

/-- A node after its properties. -/
def content? (place : Place) (properties : Properties) :
    (fuel : Nat) → Remainder → Option (Node × Remainder)
  | 0, _ => none
  | fuel + 1, remainder =>
      let block := place != .flow
      match remainder.tokens with
      | .scalar plain content :: tokens =>
          some (properties.scalar plain content, { remainder with tokens })
      | .flowSequenceStart :: tokens => do
          let (items, remainder) ← flowItems? true fuel { remainder with tokens }
          some (.sequence properties.ownTag items, remainder)
      | .flowMappingStart :: tokens => do
          let (entries, remainder) ← flowEntries? true fuel { remainder with tokens }
          some (.mapping properties.ownTag entries, remainder)
      | first :: tokens =>
          if first = .blockEntry ∧ place = .entry then do
            let (items, remainder) ← looseItems? fuel remainder
            some (.sequence properties.ownTag items, remainder)
          else if first = .blockSequenceStart ∧ block then do
            let (items, remainder) ← blockItems? fuel { remainder with tokens }
            some (.sequence properties.ownTag items, remainder)
          else if first = .blockMappingStart ∧ block then do
            let (entries, remainder) ← blockEntries? fuel { remainder with tokens }
            some (.mapping properties.ownTag entries, remainder)
          else if properties.isEmpty then none
          else some (properties.scalar true [], remainder)
      | [] =>
          if properties.isEmpty then none else some (properties.scalar true [], remainder)

/-- A node, or the empty node before one of the given tokens. -/
def nodeBefore? (place : Place) (stops : List Token) :
    (fuel : Nat) → Remainder → Option (Node × Remainder)
  | 0, _ => none
  | fuel + 1, remainder =>
      if remainder.isAt stops then some (.empty, remainder)
      else node? place fuel remainder

/-- A key and its value, the mark of the key being read. -/
def pair? (place : Place) (stops : List Token) :
    (fuel : Nat) → Remainder → Option ((Node × Node) × Remainder)
  | 0, _ => none
  | fuel + 1, remainder => do
      let (key, remainder) ← nodeBefore? place (.value :: stops) fuel remainder
      match remainder.tokens with
      | .value :: tokens =>
          let (value, remainder) ←
            nodeBefore? place stops fuel { remainder with tokens }
          some ((key, value), remainder)
      | _ => some ((key, .empty), remainder)

/-- The items of a block sequence up to its end. -/
def blockItems? : (fuel : Nat) → Remainder → Option (List Node × Remainder)
  | 0, _ => none
  | fuel + 1, remainder =>
      match remainder.tokens with
      | .blockEntry :: tokens => do
          let (item, remainder) ←
            nodeBefore? .block [.blockEntry, .blockEnd] fuel { remainder with tokens }
          let (items, remainder) ← blockItems? fuel remainder
          some (item :: items, remainder)
      | .blockEnd :: tokens => some ([], { remainder with tokens })
      | _ => none

/-- The items of a sequence that is not indented; nothing marks its end. -/
def looseItems? : (fuel : Nat) → Remainder → Option (List Node × Remainder)
  | 0, _ => none
  | fuel + 1, remainder =>
      match remainder.tokens with
      | .blockEntry :: tokens => do
          let (item, remainder) ←
            nodeBefore? .block [.blockEntry, .key, .value, .blockEnd] fuel
              { remainder with tokens }
          let (items, remainder) ← looseItems? fuel remainder
          some (item :: items, remainder)
      | _ => some ([], remainder)

/-- The entries of a block mapping up to its end. -/
def blockEntries? : (fuel : Nat) → Remainder → Option (List (Node × Node) × Remainder)
  | 0, _ => none
  | fuel + 1, remainder =>
      match remainder.tokens with
      | .key :: tokens => do
          let (entry, remainder) ←
            pair? .entry [.key, .blockEnd] fuel { remainder with tokens }
          let (entries, remainder) ← blockEntries? fuel remainder
          some (entry :: entries, remainder)
      | .blockEnd :: tokens => some ([], { remainder with tokens })
      | _ => none

/-- The items inside square brackets.  A pair is a mapping of its own. -/
def flowItems? (first : Bool) :
    (fuel : Nat) → Remainder → Option (List Node × Remainder)
  | 0, _ => none
  | fuel + 1, remainder =>
      match remainder.tokens with
      | .flowSequenceEnd :: tokens => some ([], { remainder with tokens })
      | _ => do
          let remainder ← remainder.skipComma? first
          match remainder.tokens with
          | .flowSequenceEnd :: tokens => some ([], { remainder with tokens })
          | .key :: tokens =>
              let (entry, remainder) ←
                pair? .flow [.flowEntry, .flowSequenceEnd] fuel { remainder with tokens }
              let (items, remainder) ← flowItems? false fuel remainder
              some (.mapping none [entry] :: items, remainder)
          | _ =>
              let (item, remainder) ← node? .flow fuel remainder
              let (items, remainder) ← flowItems? false fuel remainder
              some (item :: items, remainder)

/-- The entries inside curly brackets. -/
def flowEntries? (first : Bool) :
    (fuel : Nat) → Remainder → Option (List (Node × Node) × Remainder)
  | 0, _ => none
  | fuel + 1, remainder =>
      match remainder.tokens with
      | .flowMappingEnd :: tokens => some ([], { remainder with tokens })
      | _ => do
          let remainder ← remainder.skipComma? first
          match remainder.tokens with
          | .flowMappingEnd :: tokens => some ([], { remainder with tokens })
          | .key :: tokens =>
              let (entry, remainder) ←
                pair? .flow [.flowEntry, .flowMappingEnd] fuel { remainder with tokens }
              let (entries, remainder) ← flowEntries? false fuel remainder
              some (entry :: entries, remainder)
          | _ =>
              let (key, remainder) ← node? .flow fuel remainder
              let (entries, remainder) ← flowEntries? false fuel remainder
              some ((key, .empty) :: entries, remainder)

end

/-- The most calls that reading the tokens takes: at most five between one token
and the next. -/
def enoughFuel (remainder : Remainder) : Nat :=
  6 * remainder.tokens.length + 6

end Remainder

/-- The handles that need no declaration. -/
def commonHandles : List (Text × Text) :=
  [("!", "!"), ("!!", "tag:yaml.org,2002:")]

/-- The directives before a document: the handles that they declare, each only
once, and at most one version, which must be a version 1. -/
def directives? (versionSeen : Bool) :
    List Token → Option (List (Text × Text) × List Token)
  | .version major :: tokens =>
      if versionSeen || major != 1 then none else directives? true tokens
  | .handle name beginning :: tokens => do
      let (handles, tokens) ← directives? versionSeen tokens
      if (handles.lookup name).isSome then none
      else some ((name, beginning) :: handles, tokens)
  | .otherDirective :: tokens => directives? versionSeen tokens
  | tokens => some ([], tokens)

/-- A directive or a mark between documents. -/
def Token.endsDocument : Token → Bool
  | .version _ | .handle _ _ | .otherDirective | .documentStart | .documentEnd => true
  | _ => false

/-- The root of a document and the tokens after it. -/
def root? (handles : List (Text × Text)) (tokens : List Token) :
    Option (Node × List Token) := do
  let remainder : Remainder := { tokens, handles := handles ++ commonHandles }
  if tokens.head?.all Token.endsDocument then some (.empty, tokens)
  else
    let (node, remainder) ← remainder.node? .block remainder.enoughFuel
    some (node, remainder.tokens)

/-- The only document of a text: its root, or none if the text is empty.  A mark
is needed before a document with directives. -/
def document? (tokens : List Token) : Option (Option Node) := do
  if tokens.isEmpty then some none
  else
    let (handles, rest) ← directives? false tokens
    let (root, rest) ←
      match rest with
      | .documentStart :: rest => root? handles rest
      | _ =>
          if rest.length < tokens.length || rest.head?.any Token.endsDocument then none
          else root? [] tokens
    if (rest.dropWhile (· == .documentEnd)).isEmpty then some (some root) else none

end Inquiry.Yaml
