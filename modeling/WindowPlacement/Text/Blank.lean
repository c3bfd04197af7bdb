/-!
# Blank characters

A character is blank exactly when Unicode gives it the property White_Space.
The table lists every such character, the ones beyond ASCII included.

Splitting and trimming are stated on lists of characters, so that what they keep
can be read off by induction on the text.
-/

namespace WindowPlacement.Text

/-- The first and the last code point of each run of blank characters, in
ascending order. -/
def blankRuns : List (Nat × Nat) :=
  [(0x09, 0x0D), (0x20, 0x20), (0x85, 0x85), (0xA0, 0xA0), (0x1680, 0x1680), (0x2000, 0x200A),
    (0x2028, 0x2029), (0x202F, 0x202F), (0x205F, 0x205F), (0x3000, 0x3000)]

/-- True exactly at the characters of the table. -/
def isBlank (character : Char) : Bool :=
  blankRuns.any fun run => run.1 ≤ character.toNat && character.toNat ≤ run.2

/-- What is left of a text without the blank characters at its two ends. -/
def trim (text : List Char) : List Char :=
  ((text.dropWhile isBlank).reverse.dropWhile isBlank).reverse

/-- The pieces between the separators, empty ones included: there is always one
piece more than there are separators. -/
def pieces (separator : Char) : List Char → List (List Char)
  | [] => [[]]
  | character :: rest =>
    if character = separator then [] :: pieces separator rest
    else match pieces separator rest with
      | [] => [[character]]
      | piece :: others => (character :: piece) :: others

end WindowPlacement.Text
