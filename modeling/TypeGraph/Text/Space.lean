/-! Characters that count as white space. -/
namespace TypeGraph.Text

/-- Code points with the White_Space property, as ranges with both ends included. -/
def spaceRanges : List (Nat × Nat) :=
  [(0x09, 0x0D), (0x20, 0x20), (0x85, 0x85), (0xA0, 0xA0), (0x1680, 0x1680), (0x2000, 0x200A),
    (0x2028, 0x2029), (0x202F, 0x202F), (0x205F, 0x205F), (0x3000, 0x3000)]

def isSpace (c : Char) : Bool :=
  spaceRanges.any fun range => range.1 ≤ c.toNat && c.toNat ≤ range.2

/-- Whether a text is empty or white space only. -/
def isBlank (text : String) : Bool := text.toList.all isSpace

end TypeGraph.Text
