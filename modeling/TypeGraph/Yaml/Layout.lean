import TypeGraph.Yaml.Token.Block
import TypeGraph.Yaml.Token.Plain
import TypeGraph.Yaml.Token.Property

/-! The tokens of a whole YAML text. Indentation opens and closes the block collections. A value
turns out to be a key only when its colon is met; its key token is then put where the value began. -/
namespace TypeGraph.Yaml

/-- Where a value began that a colon would make a key. -/
structure KeyPlace where
  /-- Nothing but a key can stand here. -/
  required : Bool
  /-- Tokens before it. -/
  position : Nat
  start : Cursor

/-- A key stands on one line and is no longer than 1024 octets. -/
def KeyPlace.expired (place : KeyPlace) (cursor : Cursor) : Bool :=
  place.start.line < cursor.line || place.start.index + 1024 < cursor.index

/-- What was found so far, and what the meaning of the text ahead depends on. -/
structure Layout where
  cursor : Cursor
  /-- Tokens in reverse. -/
  tokens : List Token := []
  /-- How many tokens there are. -/
  count : Nat := 0
  /-- Columns of the open block collections, the innermost first. -/
  columns : List Nat := []
  /-- The possible key of every open flow collection, the innermost first, and last that of the
  blocks around them. -/
  keys : List (Option KeyPlace) := [none]
  /-- Whether a key may begin here. -/
  keyAllowed : Bool := true

namespace Layout

def context (layout : Layout) : Context :=
  match layout.keys with
  | _ :: _ :: _ => .flow
  | _ => .block

/-- The column of the innermost block collection, left of all text when there is none. -/
def indent (layout : Layout) : Int := layout.columns.head?.elim (-1) Int.ofNat

/-- Put a token where `position` tokens stand before it. -/
def insert (token : Token) (position : Nat) (layout : Layout) : Layout :=
  let later := layout.count - position
  { layout with
    tokens := layout.tokens.take later ++ token :: layout.tokens.drop later
    count := layout.count + 1 }

/-- Take a token that ends at `cursor`. -/
def push (token : Token) (cursor : Cursor) (keyAllowed : Bool) (layout : Layout) : Layout :=
  { layout with tokens := token :: layout.tokens, count := layout.count + 1, cursor, keyAllowed }

/-- Go over blanks, comments and line ends. A tab is no blank where a block could begin, and a byte
order mark is one where a line begins. -/
def toNextToken (fuel : Nat) (layout : Layout) : Layout :=
  match fuel with
  | 0 => layout
  | fuel + 1 =>
    let tabs := layout.context = .flow || !layout.keyAllowed
    let cursor := layout.cursor
    let cursor := if cursor.column = 0 && cursor.sees '\ufeff' then cursor.step else cursor
    let cursor := cursor.skipWhile fun c => c = ' ' || (tabs && c = '\t')
    let cursor := if cursor.sees '#' then cursor.skipWhile (!isBreak ·) else cursor
    if cursor.seesAny isBreak then
      let keyAllowed := layout.keyAllowed || layout.context = .block
      toNextToken fuel { layout with cursor := cursor.step, keyAllowed }
    else { layout with cursor }

/-- Open a block collection, unless one is open at its column or right of it. -/
def openBlock (token : Token) (position column : Nat) (layout : Layout) : Layout :=
  if layout.context = .block && layout.indent < column then
    { layout with columns := column :: layout.columns }.insert token position
  else layout

/-- Close the block collections right of `column`. -/
def closeBlocks (column : Int) (layout : Layout) : Layout :=
  match layout.context with
  | .flow => layout
  | .block =>
    let closed := (layout.columns.takeWhile fun start : Nat => column < Int.ofNat start).length
    { layout with
      columns := layout.columns.drop closed
      tokens := List.replicate closed .blockEnd ++ layout.tokens
      count := layout.count + closed }

/-- Give up the keys that can be none any more; one that had to be a key is an error. -/
def expireKeys (layout : Layout) : Option Layout := do
  let keep := fun key : Option KeyPlace =>
    match key with
    | some place =>
      if !place.expired layout.cursor then some (some place)
      else if place.required then none
      else some none
    | none => some none
  return { layout with keys := ← layout.keys.mapM keep }

/-- Give up the innermost possible key. -/
def dropKey (layout : Layout) : Option Layout :=
  match layout.keys with
  | some place :: outer => if place.required then none else some { layout with keys := none :: outer }
  | _ => some layout

/-- What begins here may be a key. It has to be one where a block mapping goes on. -/
def markKey (layout : Layout) : Option Layout :=
  if !layout.keyAllowed then some layout
  else do
    let layout ← layout.dropKey
    let place : KeyPlace := {
      required := layout.context = .block && layout.indent = layout.cursor.column
      position := layout.count
      start := layout.cursor }
    return { layout with keys := some place :: layout.keys.drop 1 }

/-- A line that belongs to no document closes all blocks. -/
def betweenDocuments (token : Token) (cursor : Cursor) (layout : Layout) : Option Layout := do
  let layout ← (layout.closeBlocks (-1)).dropKey
  return layout.push token cursor false

def openFlow (token : Token) (layout : Layout) : Option Layout := do
  let layout ← layout.markKey
  let layout := layout.push token layout.cursor.step true
  return { layout with keys := none :: layout.keys }

def closeFlow (token : Token) (layout : Layout) : Option Layout := do
  let layout ← layout.dropKey
  let layout := layout.push token layout.cursor.step false
  return { layout with keys := if layout.context = .flow then layout.keys.drop 1 else layout.keys }

/-- In a block, an entry or a key may begin only where a collection can; it opens one if need be. -/
def beginBlock (start : Token) (layout : Layout) : Option Layout :=
  match layout.context with
  | .flow => some layout
  | .block =>
    if layout.keyAllowed then
      some (layout.openBlock start layout.count layout.cursor.column)
    else none

def blockEntry (layout : Layout) : Option Layout := do
  let layout ← (← layout.beginBlock .blockSequenceStart).dropKey
  return layout.push .blockEntry layout.cursor.step true

def explicitKey (layout : Layout) : Option Layout := do
  let layout ← (← layout.beginBlock .blockMappingStart).dropKey
  return layout.push .key layout.cursor.step (layout.context = .block)

/-- A colon: the possible key before it is one, or else the value belongs to an explicit key. -/
def value (layout : Layout) : Option Layout :=
  match layout.keys with
  | some place :: outer =>
    let layout := (layout.insert .key place.position).openBlock .blockMappingStart
      place.position place.start.column
    some ({ layout with keys := none :: outer }.push .value layout.cursor.step false)
  | _ => do
    let layout ← layout.beginBlock .blockMappingStart
    return layout.push .value layout.cursor.step (layout.context = .block)

/-- A token that a key may begin with. -/
def keyPart (scan : Cursor → Option (Token × Cursor)) (layout : Layout) : Option Layout := do
  let layout ← layout.markKey
  let (token, cursor) ← scan layout.cursor
  return layout.push token cursor false

/-- An anchor or an alias. -/
def named (make : String → Token) (layout : Layout) : Option Layout :=
  layout.keyPart fun cursor => do
    let (name, cursor) ← Property.scanName cursor
    return (make name, cursor)

def plain (layout : Layout) : Option Layout := do
  let layout ← layout.markKey
  let found ← Plain.scan layout.context (layout.indent + 1) layout.cursor
  return layout.push (.scalar .plain found.text) found.cursor found.endsLine

def quoted (single : Bool) (layout : Layout) : Option Layout :=
  layout.keyPart fun cursor => do
    let (text, cursor) ← Quoted.scan single cursor
    return (.scalar .quoted text, cursor)

def block (literal : Bool) (layout : Layout) : Option Layout := do
  let layout ← layout.dropKey
  let (text, cursor) ← Block.scan literal layout.indent layout.cursor
  return layout.push (.scalar (if literal then .literal else .quoted) text) cursor true

/-- Indicators that cannot begin a plain scalar. -/
private def isIndicator (c : Char) : Bool := "-?:,[]\x7b\x7d#&*!|>'\"%@\x60".toList.contains c

/-- Whether a plain scalar begins here. Some indicators can begin one if no gap follows them. -/
def seesPlain (layout : Layout) : Bool :=
  let cursor := layout.cursor
  (!cursor.gapAfter 0 && !cursor.seesAny isIndicator)
    || (cursor.sees '-' && !cursor.blankAfter 1)
    || (layout.context = .block && (cursor.sees '?' || cursor.sees ':') && !cursor.gapAfter 1)

/-- Take the token ahead. -/
def next (layout : Layout) : Option Layout :=
  let cursor := layout.cursor
  let flow := layout.context = .flow
  if cursor.column = 0 && cursor.sees '%' then do
    let (token, cursor) ← Property.scanDirective cursor
    layout.betweenDocuments token cursor
  else if cursor.seesMarker '-' then layout.betweenDocuments .documentStart (cursor.skip 3)
  else if cursor.seesMarker '.' then layout.betweenDocuments .documentEnd (cursor.skip 3)
  else if cursor.sees '[' then layout.openFlow .flowSequenceStart
  else if cursor.sees '\x7b' then layout.openFlow .flowMappingStart
  else if cursor.sees ']' then layout.closeFlow .flowSequenceEnd
  else if cursor.sees '\x7d' then layout.closeFlow .flowMappingEnd
  else if cursor.sees ',' then do
    return (← layout.dropKey).push .flowEntry cursor.step true
  else if cursor.sees '-' && cursor.gapAfter 1 then layout.blockEntry
  else if cursor.sees '?' && (flow || cursor.gapAfter 1) then layout.explicitKey
  else if cursor.sees ':' && (flow || cursor.gapAfter 1) then layout.value
  else if cursor.sees '*' then layout.named .aliasOf
  else if cursor.sees '&' then layout.named .anchor
  else if cursor.sees '!' then layout.keyPart (Property.scanTag layout.context)
  else if cursor.sees '|' && !flow then layout.block true
  else if cursor.sees '>' && !flow then layout.block false
  else if cursor.sees '\'' then layout.quoted true
  else if cursor.sees '"' then layout.quoted false
  else if layout.seesPlain then layout.plain
  else none

/-- All tokens from here on, after those found before. Every token has a character of its own, so
that `fuel` is enough when it exceeds their number. -/
def finish (fuel : Nat) (layout : Layout) : Option (List Token) :=
  match fuel with
  | 0 => none
  | fuel + 1 => do
    let layout := layout.toNextToken (layout.cursor.ahead + 1)
    let layout ← layout.expireKeys
    let layout := layout.closeBlocks layout.cursor.column
    if layout.cursor.atEnd then
      let layout ← (layout.closeBlocks (-1)).dropKey
      return (Token.streamEnd :: layout.tokens).reverse
    else finish fuel (← layout.next)

end Layout

/-- The tokens of a text whose line ends are line feeds. -/
def Token.scan (cs : List Char) : Option (List Token) :=
  Layout.finish (cs.length + 1) { cursor := .ofChars cs }

end TypeGraph.Yaml
