import ScentedGrid.Text.Digits

/-! Places in a text, as an offset in UTF-8 bytes and as a line and a column, both counted
from one. Only a line feed ends a line, and a column is a character. -/

namespace ScentedGrid.Text

structure Location where
  offset : Nat
  line : Nat
  column : Nat
  deriving DecidableEq

def byteLength (text : List Char) : Nat := text.foldr (fun c length => c.utf8Size + length) 0

namespace Location

/-- Moves past every character that starts before `offset`. -/
def walk (line column : Nat) : List Char → Nat → Nat × Nat
  | [], _ => (line, column)
  | c :: rest, offset =>
    if offset = 0 then (line, column)
    else if c = '\n' then walk (line + 1) 1 rest (offset - c.utf8Size)
    else walk line (column + 1) rest (offset - c.utf8Size)

/-- An offset inside a character counts that character, and one past the end counts the whole
text. -/
def ofOffset (text : List Char) (offset : Nat) : Location :=
  let (line, column) := walk 1 1 text offset
  ⟨offset, line, column⟩

/-- Where `rest` begins, if it is an end of `text`. -/
def ofRest (text rest : List Char) : Location := ofOffset text (byteLength text - byteLength rest)

def describe (location : Location) : String :=
  "line " ++ decimal location.line ++ ", column " ++ decimal location.column

end Location
end ScentedGrid.Text
