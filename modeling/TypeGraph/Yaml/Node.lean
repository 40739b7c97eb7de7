import TypeGraph.Yaml.Token

/-! The nodes of a YAML document: what its tokens say before aliases are replaced. -/
namespace TypeGraph.Yaml

/-- What may stand before a node. -/
structure Properties where
  anchor : Option String := none
  /-- A whole tag, its handle replaced. -/
  tag : Option Tag := none

/-- On a scalar the lone mark stands for no tag. -/
def Properties.ofScalar (properties : Properties) : Properties :=
  { properties with tag := properties.tag.filter (· ≠ .ofString "!") }

inductive Node where
  | aliasOf (name : String)
  | scalar (properties : Properties) (style : ScalarStyle) (text : String)
  | seq (properties : Properties) (items : List Node)
  | map (properties : Properties) (entries : List (Node × Node))
  deriving Inhabited

namespace Node

/-- A node left out. -/
def empty : Node := scalar {} .plain ""

/-- Tag handles and what they stand for. -/
abbrev Handles := List (String × Tag)

/-- The handles that need no directive. -/
def Handles.standard : Handles := [("!", .ofString "!"), ("!!", .ofString "tag:yaml.org,2002:")]

/-- The tag of a handle and a suffix; a verbatim tag has no handle. -/
def Handles.tag? (handles : Handles) (handle : String) (suffix : Tag) : Option Tag :=
  if handle = "" then some suffix
  else (handles.lookup handle).map fun start => ⟨start.octets ++ suffix.octets⟩

/-- An anchor, a tag, or both in either order, and the tokens left. -/
def properties (handles : Handles) (tokens : List Token) : Option (Properties × List Token) :=
  match tokens with
  | .anchor anchor :: .tag handle suffix :: rest | .tag handle suffix :: .anchor anchor :: rest =>
    (handles.tag? handle suffix).map fun tag => (⟨anchor, tag⟩, rest)
  | .anchor anchor :: rest => some (⟨anchor, none⟩, rest)
  | .tag handle suffix :: rest =>
    (handles.tag? handle suffix).map fun tag => (⟨none, tag⟩, rest)
  | _ => some ({}, tokens)

/-- Where a node may stand. -/
inductive Position where
  /-- In brackets. -/
  | flow
  /-- In a block sequence, or a document's only node. -/
  | block
  /-- In a block mapping, where a sequence needs no indentation of its own. -/
  | member
  deriving DecidableEq

private def endsEntry : List Token → Bool
  | .blockEntry :: _ | .blockEnd :: _ => true
  | _ => false

private def endsMember : List Token → Bool
  | .key :: _ | .value :: _ | .blockEnd :: _ => true
  | _ => false

private def endsFlow (closing : Token) : List Token → Bool
  | [] => true
  | token :: _ => token = .flowEntry || token = closing

private def seesValue : List Token → Bool
  | .value :: _ => true
  | _ => false

mutual

/-- The node ahead, and the tokens left. -/
def parse (handles : Handles) (position : Position) (fuel : Nat) (tokens : List Token) :
    Option (Node × List Token) :=
  match fuel with
  | 0 => none
  | fuel + 1 =>
    match tokens with
    | .aliasOf name :: rest => some (aliasOf name, rest)
    | _ => do
      let (properties, tokens) ← properties handles tokens
      match position, tokens with
      | _, .scalar style text :: rest => return (scalar properties.ofScalar style text, rest)
      | _, .flowSequenceStart :: rest =>
        let (items, rest) ← flowItems handles true fuel rest
        return (seq properties items, rest)
      | _, .flowMappingStart :: rest =>
        let (entries, rest) ← flowEntries handles true fuel rest
        return (map properties entries, rest)
      | .block, .blockSequenceStart :: rest | .member, .blockSequenceStart :: rest =>
        let (items, rest) ← blockItems handles fuel rest
        return (seq properties items, rest)
      | .block, .blockMappingStart :: rest | .member, .blockMappingStart :: rest =>
        let (entries, rest) ← blockEntries handles fuel rest
        return (map properties entries, rest)
      | .member, .blockEntry :: _ =>
        let (items, rest) ← memberItems handles fuel tokens
        return (seq properties items, rest)
      | _, _ =>
        if properties.anchor.isSome || properties.tag.isSome then
          return (scalar properties .plain "", tokens)
        else none

/-- A node, or an empty one where nothing stands. -/
def parseOr (handles : Handles) (position : Position) (absent : Bool) (fuel : Nat)
    (tokens : List Token) : Option (Node × List Token) :=
  match fuel with
  | 0 => none
  | fuel + 1 =>
    if absent then some (empty, tokens) else parse handles position fuel tokens

/-- The items of a block sequence and its end. -/
def blockItems (handles : Handles) (fuel : Nat) (tokens : List Token) :
    Option (List Node × List Token) :=
  match fuel with
  | 0 => none
  | fuel + 1 =>
    match tokens with
    | .blockEntry :: rest => do
      let (item, rest) ← parseOr handles .block (endsEntry rest) fuel rest
      let (items, rest) ← blockItems handles fuel rest
      return (item :: items, rest)
    | .blockEnd :: rest => some ([], rest)
    | _ => none

/-- The items of a sequence that ends with the member it stands in. -/
def memberItems (handles : Handles) (fuel : Nat) (tokens : List Token) :
    Option (List Node × List Token) :=
  match fuel with
  | 0 => none
  | fuel + 1 =>
    match tokens with
    | .blockEntry :: rest => do
      let absent := endsEntry rest || endsMember rest
      let (item, rest) ← parseOr handles .block absent fuel rest
      let (items, rest) ← memberItems handles fuel rest
      return (item :: items, rest)
    | _ => some ([], tokens)

/-- The entries of a block mapping and its end. -/
def blockEntries (handles : Handles) (fuel : Nat) (tokens : List Token) :
    Option (List (Node × Node) × List Token) :=
  match fuel with
  | 0 => none
  | fuel + 1 =>
    match tokens with
    | .key :: rest => do
      let (key, rest) ← parseOr handles .member (endsMember rest) fuel rest
      let (value, rest) ← memberValue handles fuel rest
      let (entries, rest) ← blockEntries handles fuel rest
      return ((key, value) :: entries, rest)
    | .blockEnd :: rest => some ([], rest)
    | _ => none

/-- The value behind a key of a block mapping. -/
def memberValue (handles : Handles) (fuel : Nat) (tokens : List Token) :
    Option (Node × List Token) :=
  match fuel with
  | 0 => none
  | fuel + 1 =>
    match tokens with
    | .value :: rest => parseOr handles .member (endsMember rest) fuel rest
    | _ => some (empty, tokens)

/-- The items of a sequence in brackets and its end. A comma stands before all but the first, and
may stand after the last. An item with a colon is a mapping of one entry; when its key is left out,
the token after the indicator goes with it. -/
def flowItems (handles : Handles) (first : Bool) (fuel : Nat) (tokens : List Token) :
    Option (List Node × List Token) :=
  match fuel with
  | 0 => none
  | fuel + 1 =>
    match first, tokens with
    | _, .flowSequenceEnd :: rest => some ([], rest)
    | true, tokens | false, .flowEntry :: tokens =>
      match tokens with
      | .flowSequenceEnd :: rest => some ([], rest)
      | .key :: rest => do
        let absent := seesValue rest || endsFlow .flowSequenceEnd rest
        let (key, rest) ← parseOr handles .flow absent fuel (if absent then rest.drop 1 else rest)
        let (value, rest) ← flowValue handles .flowSequenceEnd fuel rest
        let (items, rest) ← flowItems handles false fuel rest
        return (map {} [(key, value)] :: items, rest)
      | _ => do
        let (item, rest) ← parse handles .flow fuel tokens
        let (items, rest) ← flowItems handles false fuel rest
        return (item :: items, rest)
    | false, _ => none

/-- The entries of a mapping in braces and its end; an entry may be a key alone. -/
def flowEntries (handles : Handles) (first : Bool) (fuel : Nat) (tokens : List Token) :
    Option (List (Node × Node) × List Token) :=
  match fuel with
  | 0 => none
  | fuel + 1 =>
    match first, tokens with
    | _, .flowMappingEnd :: rest => some ([], rest)
    | true, tokens | false, .flowEntry :: tokens =>
      match tokens with
      | .flowMappingEnd :: rest => some ([], rest)
      | .key :: rest => do
        let absent := seesValue rest || endsFlow .flowMappingEnd rest
        let (key, rest) ← parseOr handles .flow absent fuel rest
        let (value, rest) ← flowValue handles .flowMappingEnd fuel rest
        let (entries, rest) ← flowEntries handles false fuel rest
        return ((key, value) :: entries, rest)
      | _ => do
        let (key, rest) ← parse handles .flow fuel tokens
        let (entries, rest) ← flowEntries handles false fuel rest
        return ((key, empty) :: entries, rest)
    | false, _ => none

/-- The value behind a key in brackets. -/
def flowValue (handles : Handles) (closing : Token) (fuel : Nat) (tokens : List Token) :
    Option (Node × List Token) :=
  match fuel with
  | 0 => none
  | fuel + 1 =>
    match tokens with
    | .value :: rest => parseOr handles .flow (endsFlow closing rest) fuel rest
    | _ => some (empty, tokens)

end

/-- The directives ahead of a document. Each handle is declared once, the standard ones too, and
there is one version at most. -/
def directives (version : Bool) (handles : Handles) : List Token → Option (Handles × List Token)
  | .versionDirective major minor :: rest =>
    if version || major ≠ 1 || (minor ≠ 1 && minor ≠ 2) then none
    else directives true handles rest
  | .tagDirective handle start :: rest =>
    if (handles.lookup handle).isSome then none
    else directives version (handles ++ [(handle, start)]) rest
  | tokens => some (handles ++ Handles.standard, tokens)

private def endsDocument : List Token → Bool
  | .versionDirective _ _ :: _ | .tagDirective _ _ :: _ => true
  | .documentStart :: _ | .documentEnd :: _ | .streamEnd :: _ => true
  | _ => false

/-- Nothing but document ends may follow a document. -/
private def isOver : List Token → Bool
  | .documentEnd :: rest => isOver rest
  | .streamEnd :: _ => true
  | _ => false

/-- The only document of a text, which may be empty. -/
def ofTokens? (tokens : List Token) : Option Node :=
  let fuel := 4 * tokens.length + 4
  match tokens with
  | .streamEnd :: _ => some empty
  | _ => do
    let explicit := endsDocument tokens && tokens.head? ≠ some .documentEnd
    let (node, rest) ←
      if explicit then do
        let (handles, rest) ← directives false [] tokens
        match rest with
        | .documentStart :: rest => parseOr handles .block (endsDocument rest) fuel rest
        | _ => none
      else parse .standard .block fuel tokens
    if isOver rest then some node else none

end Node
end TypeGraph.Yaml
