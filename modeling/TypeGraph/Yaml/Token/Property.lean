import TypeGraph.Yaml.Token
import TypeGraph.Yaml.Token.Quoted

/-! Anchors, aliases, tags and directives. -/
namespace TypeGraph.Yaml.Property

/-- The name behind an anchor's or alias's indicator. A gap or a mark has to follow it. -/
def scanName (cursor : Cursor) : Option (String × Cursor) :=
  let (name, after) := cursor.step.span isWord
  let mark := fun c => ['?', ':', ',', ']', '\x7d', '%', '@', '\x60'].contains c
  if !name.isEmpty && (after.gapAfter 0 || after.seesAny mark) then
    some (String.ofList name, after)
  else none

/-- The percent-encoded octets ahead, as many as the first of them announces. They need not be those
of a character. -/
def scanOctets (cursor : Cursor) : Option (List UInt8 × Cursor) := do
  let octet := fun (cursor : Cursor) =>
    if cursor.sees '%' then Quoted.hexNumber? 2 (cursor.rest.drop 1) else none
  let first ← octet cursor
  let width ←
    if first < 0x80 then some 1
    else if 0xC0 ≤ first ∧ first < 0xE0 then some 2
    else if 0xE0 ≤ first ∧ first < 0xF0 then some 3
    else if 0xF0 ≤ first ∧ first < 0xF8 then some 4
    else none
  let later ← (List.range (width - 1)).mapM fun i => do
    let next ← octet (cursor.skip (3 * (i + 1)))
    if 0x80 ≤ next ∧ next < 0xC0 then some next.toUInt8 else none
  return (first.toUInt8 :: later, cursor.skip (3 * width))

private def isUri (verbatim : Bool) (c : Char) : Bool :=
  isWord c || ";/?:@&=+$.!~*'()".toList.contains c || (verbatim && ",[]".toList.contains c)

/-- The octets of a tag; flow marks are among them only where the tag is delimited otherwise. -/
def scanUri (verbatim : Bool) (fuel : Nat) (before : List UInt8) (cursor : Cursor) :
    Option (List UInt8 × Cursor) :=
  match fuel, cursor.rest with
  | 0, _ | _, [] => some (before.reverse, cursor)
  | fuel + 1, c :: _ =>
    if c = '%' then do
      let (octets, after) ← scanOctets cursor
      scanUri verbatim fuel (octets.reverse ++ before) after
    else if isUri verbatim c then scanUri verbatim fuel (c.toUInt8 :: before) cursor.step
    else some (before.reverse, cursor)

private def uri (verbatim : Bool) (cursor : Cursor) : Option (List UInt8 × Cursor) :=
  scanUri verbatim (cursor.ahead + 1) [] cursor

/-- The tag that octets spell: those up to the first zero. -/
def tagOf (octets : List UInt8) : Tag := ⟨octets.takeWhile (· ≠ 0)⟩

/-- An exclamation mark, a word, and perhaps a second mark. -/
def scanHandle (cursor : Cursor) : Option (List Char × Cursor) :=
  if !cursor.sees '!' then none
  else
    let (word, after) := cursor.step.span isWord
    if after.sees '!' then some ('!' :: word ++ ['!'], after.step)
    else some ('!' :: word, after)

/-- A tag: one between angle brackets, one with a handle, or a local one. The lone mark is a tag of
its own. -/
def scanTag (context : Context) (cursor : Cursor) : Option (Token × Cursor) := do
  let (token, after) ←
    if cursor.rest.drop 1 |>.head? |> (· = some '<') then do
      let (octets, after) ← uri true (cursor.skip 2)
      if octets.isEmpty || !after.sees '>' then none
      else some (Token.tag "" (tagOf octets), after.step)
    else do
      let (handle, after) ← scanHandle cursor
      if handle.length > 1 && handle.getLast? = some '!' then do
        let (octets, after) ← uri false after
        if octets.isEmpty then none
        else some (.tag (String.ofList handle) (tagOf octets), after)
      else do
        let (octets, after) ← uri false after
        let suffix := tagOf ((handle.drop 1).map Char.toUInt8 ++ octets)
        if suffix.octets.isEmpty then some (.tag "" (.ofString "!"), after)
        else some (.tag "!" suffix, after)
  if after.gapAfter 0 || (context = .flow && after.sees ',') then some (token, after) else none

/-- A number of at most nine digits. -/
def scanNumber (cursor : Cursor) : Option (Nat × Cursor) :=
  let (digits, after) := cursor.span Char.isDigit
  if digits.isEmpty || digits.length > 9 then none
  else some (digits.foldl (fun n c => n * 10 + (c.toNat - '0'.toNat)) 0, after)

/-- The handle that a directive declares is one mark or a word between two. -/
private def isDirectiveHandle (handle : List Char) : Bool :=
  handle = ['!'] || handle.getLast? = some '!'

/-- A directive, with the rest of its line. Only versions and tag handles can be declared. -/
def scanDirective (cursor : Cursor) : Option (Token × Cursor) := do
  let (name, after) := cursor.step.span isWord
  if !after.gapAfter 0 then none
  let after := after.skipWhile isBlank
  let (token, after) ←
    if name = "YAML".toList then do
      let (major, after) ← scanNumber after
      if !after.sees '.' then none
      let (minor, after) ← scanNumber after.step
      some (Token.versionDirective major minor, after)
    else if name = "TAG".toList then do
      let (handle, after) ← scanHandle after
      if !isDirectiveHandle handle || !after.seesAny isBlank then none
      let (start, after) ← uri true (after.skipWhile isBlank)
      if start.isEmpty || !after.gapAfter 0 then none
      some (.tagDirective (String.ofList handle) (tagOf start), after)
    else none
  return (token, ← after.finishLine)

end TypeGraph.Yaml.Property
