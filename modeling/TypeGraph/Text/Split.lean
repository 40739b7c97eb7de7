/-! Cutting texts at a character. -/
namespace TypeGraph.Text

/-- The stretches between separators. There is always one more of them than separators. -/
def cut (separator : Char) : List Char → List (List Char)
  | [] => [[]]
  | c :: rest =>
    if c = separator then [] :: cut separator rest
    else
      match cut separator rest with
      | [] => [[c]]
      | first :: others => (c :: first) :: others

/-- The parts of a text between separators. -/
def split (separator : Char) (text : String) : List String :=
  (cut separator text.toList).map String.ofList

private def dropReturn (line : List Char) : List Char :=
  if line.getLast? = some '\r' then line.dropLast else line

/-- The lines of a text without their ends, which are line feeds, with or without a carriage return.
Behind the last line end there is a line only if there is text. -/
def lines (text : String) : List String :=
  let parts := cut '\n' text.toList
  let ended := parts.dropLast.map dropReturn
  let last := (parts.getLast?.filter (!·.isEmpty)).toList
  (ended ++ last).map String.ofList

end TypeGraph.Text
