/-! Text as UTF-8 bytes. Reading goes from one character or ill-formed part to the next, where
an ill-formed part is the longest run of bytes that begins some character, and at least one byte. -/

namespace ScentedGrid.Text.Utf8

def encode (text : String) : List UInt8 := text.toList.flatMap String.utf8EncodeChar

theorem encode_append (first second : String) :
    encode (first ++ second) = encode first ++ encode second := by
  simp only [encode, String.toList_append, List.flatMap_append]

/-- What the first byte of a longer character promises: its own bits of the character's number,
the range of the byte that follows, and how many more follow that one. -/
structure Lead where
  bits : Nat
  low : Nat
  high : Nat
  more : Nat

/-- Overlong forms, surrogates and numbers past `10FFFF` are shut out by the range of the
second byte. -/
def lead? (first : Nat) : Option Lead :=
  if 0xC2 ≤ first ∧ first ≤ 0xDF then some ⟨first - 0xC0, 0x80, 0xBF, 0⟩
  else if first = 0xE0 then some ⟨0, 0xA0, 0xBF, 1⟩
  else if first = 0xED then some ⟨0xD, 0x80, 0x9F, 1⟩
  else if 0xE1 ≤ first ∧ first ≤ 0xEF then some ⟨first - 0xE0, 0x80, 0xBF, 1⟩
  else if first = 0xF0 then some ⟨0, 0x90, 0xBF, 2⟩
  else if 0xF1 ≤ first ∧ first ≤ 0xF3 then some ⟨first - 0xF0, 0x80, 0xBF, 2⟩
  else if first = 0xF4 then some ⟨4, 0x80, 0x8F, 2⟩
  else none

/-- Adds the bits of `count` further bytes, or stops before the first byte that does not continue
a character. -/
def continued (bits : Nat) : Nat → List UInt8 → Option Nat × List UInt8
  | 0, bytes => (some bits, bytes)
  | _ + 1, [] => (none, [])
  | count + 1, byte :: rest =>
    if 0x80 ≤ byte.toNat ∧ byte.toNat ≤ 0xBF then
      continued (bits * 64 + byte.toNat % 64) count rest
    else (none, byte :: rest)

/-- The character that starts with `first`, or `none` for an ill-formed part, and what follows. -/
def character (first : UInt8) (rest : List UInt8) : Option Char × List UInt8 :=
  if first.toNat < 0x80 then (some (Char.ofNat first.toNat), rest)
  else
    match lead? first.toNat, rest with
    | some lead, second :: after =>
      if lead.low ≤ second.toNat ∧ second.toNat ≤ lead.high then
        let (number, after) := continued (lead.bits * 64 + second.toNat % 64) lead.more after
        (number.map Char.ofNat, after)
      else (none, rest)
    | _, _ => (none, rest)

theorem continued_length (bits count : Nat) (bytes : List UInt8) :
    (continued bits count bytes).2.length ≤ bytes.length := by
  induction count generalizing bits bytes with
  | zero => simp [continued]
  | succ count shorter =>
    cases bytes with
    | nil => simp [continued]
    | cons byte rest =>
      unfold continued
      split
      · exact Nat.le_succ_of_le (shorter _ rest)
      · simp

theorem character_length (first : UInt8) (rest : List UInt8) :
    (character first rest).2.length ≤ rest.length := by
  unfold character
  split
  · simp
  · split
    · split
      · exact Nat.le_succ_of_le (continued_length _ _ _)
      · simp
    · simp

/-- The characters in order, after those already read, which stand in reverse. -/
def charactersAfter (read : List (Option Char)) : List UInt8 → List (Option Char)
  | [] => read.reverse
  | first :: rest => charactersAfter ((character first rest).1 :: read) (character first rest).2
termination_by bytes => bytes.length
decreasing_by
  have := character_length first rest
  simp only [List.length_cons]
  omega

/-- The characters in order, with `none` for each ill-formed part. -/
def characters (bytes : List UInt8) : List (Option Char) := charactersAfter [] bytes

theorem charactersAfter_append (read : List (Option Char)) :
    (bytes : List UInt8) → charactersAfter read bytes = read.reverse ++ characters bytes
  | [] => by simp [characters, charactersAfter]
  | first :: rest => by
    have shorter := character_length first rest
    rw [characters, charactersAfter, charactersAfter,
      charactersAfter_append (_ :: read) (character first rest).2,
      charactersAfter_append [_] (character first rest).2]
    simp
termination_by bytes => bytes.length

theorem characters_nil : characters [] = [] := by
  simp [characters, charactersAfter]

theorem characters_cons (first : UInt8) (rest : List UInt8) :
    characters (first :: rest) =
      (character first rest).1 :: characters (character first rest).2 := by
  rw [characters, charactersAfter, charactersAfter_append]
  rfl

/-- Text, if no part is ill-formed. -/
def decode? (bytes : List UInt8) : Option String :=
  if (characters bytes).all Option.isSome then
    some (String.ofList ((characters bytes).filterMap id))
  else none

/-- Text with the replacement character in place of each ill-formed part. -/
def repair (bytes : List UInt8) : String :=
  String.ofList ((characters bytes).map fun part => part.getD '\uFFFD')

end ScentedGrid.Text.Utf8
