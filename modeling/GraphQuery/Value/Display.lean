import GraphQuery.Text.Integer
import GraphQuery.Text.Quoted
import GraphQuery.Value.Order

/-!
# Texts of values

`Value.display` is the text that searching and text criteria see, and `Value.quoted` the form a value
has inside another one and in messages.  The two differ for texts and dates only.

Both write integers of any length.  Integers with very many digits are not converted to texts, though, and
`Value.hasLongInteger` finds the values that therefore have no text.
-/

namespace GraphQuery
namespace Value

/-- Joins quoted items by a comma and a blank. -/
def joinItems (items : List String) : String := ", ".intercalate items

mutual

/-- The form of a value inside another value. -/
def quoted : Value → String
  | null => "None"
  | bool b => if b then "True" else "False"
  | int n => Number.intText n
  | float x => Number.binary64Text x
  | text s => Text.quoted s
  | date d =>
    "datetime.date(" ++ Number.intText d.year ++ ", " ++ Number.intText d.month ++ ", " ++
      Number.intText d.day ++ ")"
  | list items => "[" ++ joinItems (quotedItems items) ++ "]"
  | tuple items =>
    match quotedItems items with
    | [x] => "(" ++ x ++ ",)"
    | shown => "(" ++ joinItems shown ++ ")"
  | set frozen items =>
    let body := if items.isEmpty then "" else "\x7b" ++ joinItems (quotedItems items) ++ "\x7d"
    if frozen then "frozenset(" ++ body ++ ")"
    else if items.isEmpty then "set()" else body
  | mapping entries => "\x7b" ++ joinItems (quotedEntries entries) ++ "\x7d"
  | table rows => "\x7b" ++ joinItems (quotedRows rows) ++ "\x7d"
  | record attributes => "namespace(" ++ joinItems (quotedAttributes attributes) ++ ")"
  | test _ => "<function>"

def quotedItems : List Value → List String
  | [] => []
  | x :: xs => quoted x :: quotedItems xs

def quotedEntries : List (String × Value) → List String
  | [] => []
  | (key, x) :: xs => (Text.quoted key ++ ": " ++ quoted x) :: quotedEntries xs

def quotedRows : List (Value × Value) → List String
  | [] => []
  | (key, x) :: xs => (quoted key ++ ": " ++ quoted x) :: quotedRows xs

/-- Attributes with their names; one without a name is not shown. -/
def quotedAttributes : List (String × Value) → List String
  | [] => []
  | (key, x) :: xs =>
    if key = "" then quotedAttributes xs else (key ++ "=" ++ quoted x) :: quotedAttributes xs

end

/-- The text of a value on its own: texts stand for themselves and dates are written `YYYY-MM-DD`. -/
def display : Value → String
  | text s => s
  | date d => d.text
  | v => quoted v

mutual

/-- Whether an integer that a text of the value would show has more digits than are converted. -/
def hasLongInteger : Value → Bool
  | int n => Text.integerDigitLimit < (Number.natDigits n.natAbs).length
  | list items => anyLongInteger items
  | tuple items => anyLongInteger items
  | set _ items => anyLongInteger items
  | mapping entries => entriesHaveLongInteger entries
  | table rows => rowsHaveLongInteger rows
  | record attributes => attributesHaveLongInteger attributes
  | null => false
  | bool _ => false
  | float _ => false
  | text _ => false
  | date _ => false
  | test _ => false

def anyLongInteger : List Value → Bool
  | [] => false
  | x :: xs => hasLongInteger x || anyLongInteger xs

def entriesHaveLongInteger : List (String × Value) → Bool
  | [] => false
  | (_, x) :: xs => hasLongInteger x || entriesHaveLongInteger xs

def rowsHaveLongInteger : List (Value × Value) → Bool
  | [] => false
  | (key, x) :: xs => hasLongInteger key || hasLongInteger x || rowsHaveLongInteger xs

def attributesHaveLongInteger : List (String × Value) → Bool
  | [] => false
  | (key, x) :: xs => (key ≠ "" && hasLongInteger x) || attributesHaveLongInteger xs

end

end Value
end GraphQuery
