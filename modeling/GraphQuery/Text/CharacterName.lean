import GraphQuery.Text.CharacterName.Alias
import GraphQuery.Text.CharacterName.AncientScripts
import GraphQuery.Text.CharacterName.EasternScripts
import GraphQuery.Text.CharacterName.Hieroglyphs
import GraphQuery.Text.CharacterName.Letters
import GraphQuery.Text.CharacterName.Notation
import GraphQuery.Text.CharacterName.Pictographs
import GraphQuery.Text.CharacterName.Presentation
import GraphQuery.Text.CharacterName.SouthernScripts
import GraphQuery.Text.CharacterName.Symbols
import GraphQuery.Text.CodeTable

/-!
# Characters by name

`characterNamed?` finds a character by its name in the Unicode character database, version 14.  Most
names are listed; those of ideographs and of Korean syllables are made up by rule.

A table lists names by ascending code point, in words.  A word after a small letter begins a name: the
letter tells how many words of the name before it are kept (`a` none, `b` one, and so on), and a code
point in front of the letter is given unless it is the next one.  The words that follow belong to the
name.  A plus sign and a number stand for that many names more, the last word counting up.
-/

namespace GraphQuery
namespace Text

/-! ## Listed names -/

/-- How far a table of names has been read.  Words and the characters of a word are listed latest
first. -/
structure NameScan where
  word : List Char
  name : List (List Char)
  code : Nat
  found : Option Nat

namespace NameScan

def start : NameScan := ⟨[], [], 0, none⟩

/-- The next word of a series: its last digit or letter counts up, a nine carrying on. -/
def successor : List Char → List Char
  | [] => []
  | '9' :: earlier => '0' :: successor earlier
  | c :: earlier => Char.ofNat (c.toNat + 1) :: earlier

/-- Takes note of the name that has been read if it is the one looked for. -/
def settle (wanted : List (List Char)) (scan : NameScan) : NameScan :=
  if scan.found.isNone && scan.name == wanted then { scan with found := some scan.code } else scan

/-- Goes on with a series of names. -/
def series (wanted : List (List Char)) : Nat → NameScan → NameScan
  | 0, scan => scan
  | n + 1, scan =>
    let scan := scan.settle wanted
    match scan.name with
    | [] => scan
    | word :: earlier =>
      series wanted n { scan with name := successor word :: earlier, code := scan.code + 1 }

/-- The number that digits write, in a base up to sixteen. -/
def numeral (base : Nat) (digits : List Char) : Nat :=
  digits.foldl
    (fun n c => n * base + (if c.isDigit then c.toNat - 0x30 else c.toNat - 0x41 + 10)) 0

/-- Takes in the word that has been read. -/
def endWord (wanted : List (List Char)) (scan : NameScan) : NameScan :=
  let letters := scan.word
  let scan := { scan with word := [] }
  match letters.reverse with
  | [] => scan
  | '+' :: digits => scan.series wanted (numeral 10 digits)
  | word =>
    match word.dropWhile (!·.isLower) with
    | [] => { scan with name := letters :: scan.name }
    | kept :: first =>
      let scan := scan.settle wanted
      let code := word.takeWhile (!·.isLower)
      { scan with
        name := first.reverse :: scan.name.drop (scan.name.length - (kept.toNat - 0x61))
        code := if code.isEmpty then scan.code + 1 else numeral 16 code }

/-- Reads one character of a table. -/
def step (wanted : List (List Char)) (scan : NameScan) (c : Char) : NameScan :=
  if c = ' ' || c = '\n' then scan.endWord wanted else { scan with word := c :: scan.word }

end NameScan

/-- The words of a text between single spaces, and the characters of each, latest first. -/
def wordsReversed : List Char → List (List Char) :=
  List.foldl (fun words c =>
    match words with
    | word :: earlier => if c = ' ' then [] :: words else (c :: word) :: earlier
    | [] => []) [[]]

/-- The code point that has the name in a table. -/
def listedUnder? (table : String) (name : List Char) : Option Nat :=
  let wanted := wordsReversed name
  (((table.foldl (NameScan.step wanted) .start).endWord wanted).settle wanted).found

/-! ## Names made by rule -/

/-- What follows a word in front of a text. -/
def afterWord? (word : String) (s : List Char) : Option (List Char) :=
  if word.toList.isPrefixOf s then some (s.drop word.length) else none

/-- The longest of the listed texts that a text begins with, by its index, and what follows it. -/
def longestStart (texts : List String) (s : List Char) : Option (Nat × List Char) :=
  let fitting := texts.zipIdx.filter fun (t, _) => t.toList.isPrefixOf s
  let longest? := fitting.foldl (fun best? (t, i) =>
    match best? with
    | some (u, j) => if t.length ≤ u.length then some (u, j) else some (t, i)
    | none => some (t, i)) none
  longest?.map fun (t, i) => (i, s.drop t.length)

def leadingSounds : List String :=
  ["G", "GG", "N", "D", "DD", "R", "M", "B", "BB", "S", "SS", "", "J", "JJ", "C", "K", "T", "P", "H"]

def vowelSounds : List String :=
  ["A", "AE", "YA", "YAE", "EO", "E", "YEO", "YE", "O", "WA", "WAE", "OE", "YO", "U", "WEO", "WE",
   "WI", "YU", "EU", "YI", "I"]

def finalSounds : List String :=
  ["", "G", "GG", "GS", "N", "NJ", "NH", "D", "L", "LG", "LM", "LB", "LS", "LT", "LP", "LH", "M",
   "B", "BS", "S", "SS", "NG", "J", "C", "K", "T", "P", "H"]

/-- The Korean syllable of the given sounds. -/
def syllable? (s : List Char) : Option Nat :=
  match longestStart leadingSounds s with
  | none => none
  | some (lead, s) =>
    match longestStart vowelSounds s with
    | none => none
    | some (vowel, s) =>
      match longestStart finalSounds s with
      | some (final, []) => some (0xac00 + (lead * 21 + vowel) * 28 + final)
      | _ => none

def ideographChanges : List Nat :=
  [0x3400, 0x4dc0, 0x4e00, 0xa000, 0x20000, 0x2a6e0, 0x2a700, 0x2b739, 0x2b740, 0x2b81e, 0x2b820,
   0x2cea2, 0x2ceb0, 0x2ebe1, 0x30000, 0x3134b]

/-- The names that end in the code point itself, and the classes of points that have them. -/
def numberedNames : List (String × List Nat) :=
  [("CJK COMPATIBILITY IDEOGRAPH-", [0xf900, 0xfa6e, 0xfa70, 0xfada, 0x2f800, 0x2fa1e]),
   ("KHITAN SMALL SCRIPT CHARACTER-", [0x18b00, 0x18cd6]),
   ("NUSHU CHARACTER-", [0x1b170, 0x1b2fc])]

/-- The code point of a class that four or five hexadecimal digits write. -/
def numbered? (changes : List Nat) (digits : List Char) : Option Nat :=
  if (digits.length = 4 || digits.length = 5) &&
      digits.all fun c => c.isDigit || 'A' ≤ c && c ≤ 'F' then
    let n := NameScan.numeral 16 digits
    if insideChanges changes n then some n else none
  else none

/-! ## All names -/

/-- The code point of a character by its name.  Listed names may be written in small letters too. -/
def characterNamed? (name : String) : Option Nat :=
  let name := name.toList
  match afterWord? "HANGUL SYLLABLE " name, afterWord? "CJK UNIFIED IDEOGRAPH-" name with
  | some sounds, _ => syllable? sounds
  | none, some digits => numbered? ideographChanges digits
  | none, none =>
    let name := name.map Char.toUpper
    let byNumber := numberedNames.findSome? fun (word, changes) =>
      (afterWord? word name).bind fun digits =>
        -- The shorter form of a number has no zero in front.
        if digits.head? = some '0' then none else numbered? changes digits
    byNumber.or
      ([lettersNames, symbolsNames, aliasNames, pictographsNames, easternScriptsNames,
        southernScriptsNames, presentationNames, notationNames, ancientScriptsNames,
        hieroglyphsNames].findSome? (listedUnder? · name))

end Text
end GraphQuery
