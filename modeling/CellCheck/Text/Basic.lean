/-!
# Reading texts

Cells and files are read from the front, and what has been read is taken away.  A reader that always
uses up a part of its input can be called again on what is left, and the recursion ends: the type
`Fewer xs` carries this evidence along with the rest of the input.

Blanks separate the tokens of a cell, surround type names and may stand between the parts of a
date-time.  They are the characters with the Unicode property `White_Space`: twenty-five characters,
the same in every version of the standard since 6.3.  The blanks of a JSON file are others.
-/

namespace CellCheck

/-! ## Shorter lists -/

/-- A list with fewer elements than `xs`. -/
abbrev Fewer {α : Type} (xs : List α) : Type := { rest : List α // rest.length < xs.length }

namespace Fewer

variable {α : Type} {xs : List α}

/-- What is left after the first element. -/
def tail (x : α) (xs : List α) : Fewer (x :: xs) := ⟨xs, Nat.lt_succ_self _⟩

/-- A list that is shorter than a shorter one. -/
def trans (rest : Fewer xs) (last : Fewer rest.val) : Fewer xs :=
  ⟨last.val, Nat.lt_trans last.property rest.property⟩

/-- A list that is not longer than a shorter one. -/
def ofLe (rest : Fewer xs) (last : List α) (notLonger : last.length ≤ rest.val.length) : Fewer xs :=
  ⟨last, Nat.lt_of_le_of_lt notLonger rest.property⟩

/-- A list that is shorter than `xs`, beside one more element. -/
def cons (x : α) (rest : Fewer xs) : Fewer (x :: xs) := ⟨rest.val, Nat.lt_succ_of_lt rest.property⟩

end Fewer

/-! ## Blank characters -/

namespace Text

/-- The ranges of the blank characters, ascending, both ends included. -/
def blankRanges : List (Nat × Nat) :=
  [ (0x9, 0xD), (0x20, 0x20), (0x85, 0x85), (0xA0, 0xA0), (0x1680, 0x1680), (0x2000, 0x200A),
    (0x2028, 0x2029), (0x202F, 0x202F), (0x205F, 0x205F), (0x3000, 0x3000) ]

def isBlank (c : Char) : Bool :=
  blankRanges.any fun range => range.1 ≤ c.toNat && c.toNat ≤ range.2

def dropBlanks (cs : List Char) : List Char :=
  cs.dropWhile isBlank

/-- A list of characters without the blanks at its two ends. -/
def trimChars (cs : List Char) : List Char :=
  (dropBlanks (dropBlanks cs).reverse).reverse

/-- A text without the blanks at its two ends. -/
def trim (text : String) : String :=
  String.ofList (trimChars text.toList)

end Text
end CellCheck
