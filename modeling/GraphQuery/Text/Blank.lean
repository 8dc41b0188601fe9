import GraphQuery.Text.CodeTable

/-!
# Blanks and words

A blank is any Unicode white space, the separators U+001C to U+001F included.  Words are the longest
runs without a blank.  The texts of numbers, integers included, are trimmed of the narrower class `isSpace`.
-/

namespace GraphQuery
namespace Text

/-- The changes of the class of blanks. -/
def blankChanges : List Nat :=
  [0x9, 0xe, 0x1c, 0x21, 0x85, 0x86, 0xa0, 0xa1, 0x1680, 0x1681, 0x2000, 0x200b, 0x2028, 0x202a,
   0x202f, 0x2030, 0x205f, 0x2060, 0x3000, 0x3001]

def isBlank (c : Char) : Bool := insideChanges blankChanges c.toNat

/-- Splits at every blank; blanks in a row leave empty pieces, which `words` drops. -/
def splitBlanks : List Char → List (List Char)
  | [] => [[]]
  | c :: rest =>
    match splitBlanks rest with
    | [] => [[c]]
    | piece :: pieces => if isBlank c then [] :: piece :: pieces else (c :: piece) :: pieces

/-- The words of a text, in order. -/
def wordLists (s : List Char) : List (List Char) :=
  (splitBlanks s).filter (fun piece => !piece.isEmpty)

/-- The words of a text, in order. -/
def words (s : String) : List String :=
  (wordLists s.toList).map String.ofList

/-- Drops the characters of a class from both ends. -/
def trimBy (p : Char → Bool) (s : List Char) : List Char :=
  ((s.dropWhile p).reverse.dropWhile p).reverse

/-- A character with the Unicode property White_Space, which the separators U+001C to U+001F lack. -/
def isSpace (c : Char) : Bool := isBlank c && !(0x1c ≤ c.toNat && c.toNat ≤ 0x1f)

def trimSpace (s : List Char) : List Char := trimBy isSpace s

end Text
end GraphQuery
