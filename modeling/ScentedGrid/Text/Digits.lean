/-! Numbers as text: decimal and hexadecimal digits, most significant first, and the padding
that columns need. -/

namespace ScentedGrid.Text

/-- The digits of a number. Zero has one digit, and a base below two leaves the number whole. -/
def digits (base number : Nat) : List Nat :=
  if base < 2 ∨ number < base then [number]
  else digits base (number / base) ++ [number % base]
termination_by number
decreasing_by exact Nat.div_lt_self (by omega) (by omega)

/-- The digit of a value below 16; `ten` is the letter that stands for the value ten. -/
def digitChar (ten : Char) (value : Nat) : Char :=
  if value < 10 then Char.ofNat ('0'.toNat + value) else Char.ofNat (ten.toNat + (value - 10))

def decimal (number : Nat) : String := String.ofList ((digits 10 number).map (digitChar 'a'))

/-- A negative number has a minus sign before its digits. -/
def signed (number : Int) : String :=
  if number < 0 then "-" ++ decimal number.natAbs else decimal number.natAbs

/-- At least `width` characters, filled up with zeros at the left. -/
def zeroPadded (width : Nat) (characters : List Char) : List Char :=
  List.replicate (width - characters.length) '0' ++ characters

/-- Hexadecimal with small letters and at least `width` digits. -/
def hexSmall (width number : Nat) : String :=
  String.ofList (zeroPadded width ((digits 16 number).map (digitChar 'a')))

/-- Hexadecimal with capital letters and at least `width` digits. -/
def hexCapital (width number : Nat) : String :=
  String.ofList (zeroPadded width ((digits 16 number).map (digitChar 'A')))

/-- At least `width` characters, filled up with spaces at the right. -/
def column (width : Nat) (text : String) : String :=
  text ++ String.ofList (List.replicate (width - text.length) ' ')

theorem digits_ne_nil (base number : Nat) : digits base number ≠ [] := by
  rw [digits]
  split <;> simp

end ScentedGrid.Text
