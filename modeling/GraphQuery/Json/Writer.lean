import GraphQuery.Text.Integer
import GraphQuery.Text.Quoted
import GraphQuery.Value.Basic

/-!
# Writing JSON

A `Style` says how a JSON text is laid out: on one line with a blank after commas and colons, or with
one item a line, indented; and whether characters beyond the basic ones are escaped.  Values that JSON
has no form for are not written, nor are integers of very many digits.
-/

namespace GraphQuery
namespace Json

/-- Why a value is not written. -/
inductive Refusal where
  /-- JSON has no form for a part of it. -/
  | noForm
  /-- An integer in it has more digits than are converted. -/
  | longInteger
deriving DecidableEq, Repr

structure Style where
  /-- Blanks per level; none for a text on one line. -/
  indent : Option Nat
  /-- Whether only basic printable characters are written as they are. -/
  basicOnly : Bool
deriving DecidableEq, Repr

namespace Style

/-- One line, basic characters only. -/
def line : Style := ⟨none, true⟩

/-- One item a line, basic characters only. -/
def stored : Style := ⟨some 2, true⟩

/-- One item a line, all characters. -/
def readable : Style := ⟨some 2, false⟩

/-- What starts a new line at a depth. -/
def newLine (style : Style) (depth : Nat) : List Char :=
  match style.indent with
  | none => []
  | some n => '\n' :: List.replicate (n * depth) ' '

/-- What separates two items at a depth. -/
def separator (style : Style) (depth : Nat) : List Char :=
  match style.indent with
  | none => [',', ' ']
  | some _ => ',' :: style.newLine depth

end Style

def unitEscape (unit : Nat) : List Char := '\\' :: 'u' :: Text.hexDigits 4 unit

/-- A character inside a string. -/
def escapedChar (basicOnly : Bool) (c : Char) : List Char :=
  if c = '"' then ['\\', '"']
  else if c = '\\' then ['\\', '\\']
  else if c = '\n' then ['\\', 'n']
  else if c = '\r' then ['\\', 'r']
  else if c = '\t' then ['\\', 't']
  else if c.toNat = 8 then ['\\', 'b']
  else if c.toNat = 12 then ['\\', 'f']
  else if c.toNat < 0x20 then unitEscape c.toNat
  else if c.toNat < 0x7f || !basicOnly then [c]
  else if c.toNat < 0x10000 then unitEscape c.toNat
  else
    let n := c.toNat - 0x10000
    unitEscape (0xd800 + n / 0x400) ++ unitEscape (0xdc00 + n % 0x400)

def stringText (basicOnly : Bool) (s : String) : List Char :=
  '"' :: s.toList.flatMap (escapedChar basicOnly) ++ ['"']

def binary64Text (x : Binary64) : List Char :=
  match x with
  | .nan => "NaN".toList
  | .infinite true => "-Infinity".toList
  | .infinite false => "Infinity".toList
  | x => (Number.binary64Text x).toList

/-- The digits of an integer, unless they are too many. -/
def integerText (n : Int) : Except Refusal String :=
  if Text.integerDigitLimit < (Number.natDigits n.natAbs).length then .error .longInteger
  else .ok (Number.intText n)

/-- The name under which a value that is a key is written. -/
def keyName : Value → Except Refusal String
  | .text s => .ok s
  | .int n => integerText n
  | .float x => .ok (String.ofList (binary64Text x))
  | .bool b => .ok (if b then "true" else "false")
  | .null => .ok "null"
  | _ => .error .noForm

/-- The name of a key; none for keys that are not written. -/
def keyName? (key : Value) : Option String := (keyName key).toOption

/-- Parts between brackets, one a line where the style says so. -/
def bracketed (style : Style) (depth : Nat) (opening closing : Char) (parts : List (List Char)) :
    List Char :=
  if parts.isEmpty then [opening, closing]
  else
    opening :: style.newLine (depth + 1) ++
      (style.separator (depth + 1)).intercalate parts ++ style.newLine depth ++ [closing]

mutual

/-- The text of a value at a depth. -/
def chars (style : Style) (depth : Nat) : Value → Except Refusal (List Char)
  | .null => .ok "null".toList
  | .bool b => .ok (if b then "true".toList else "false".toList)
  | .int n => (integerText n).map String.toList
  | .float x => .ok (binary64Text x)
  | .text s => .ok (stringText style.basicOnly s)
  | .list xs => (itemChars style (depth + 1) xs).map (bracketed style depth '[' ']')
  | .tuple xs => (itemChars style (depth + 1) xs).map (bracketed style depth '[' ']')
  | .mapping xs => (memberChars style (depth + 1) xs).map (bracketed style depth '\x7b' '\x7d')
  | .table xs => (rowChars style (depth + 1) xs).map (bracketed style depth '\x7b' '\x7d')
  | .date _ => .error .noForm
  | .set _ _ => .error .noForm
  | .record _ => .error .noForm
  | .test _ => .error .noForm

def itemChars (style : Style) (depth : Nat) : List Value → Except Refusal (List (List Char))
  | [] => .ok []
  | x :: xs => do
    let y ← chars style depth x
    return y :: (← itemChars style depth xs)

def memberChars (style : Style) (depth : Nat) :
    List (String × Value) → Except Refusal (List (List Char))
  | [] => .ok []
  | (name, x) :: xs => do
    let y ← chars style depth x
    return (stringText style.basicOnly name ++ ':' :: ' ' :: y) :: (← memberChars style depth xs)

def rowChars (style : Style) (depth : Nat) :
    List (Value × Value) → Except Refusal (List (List Char))
  | [] => .ok []
  | (key, x) :: xs => do
    let name ← keyName key
    let y ← chars style depth x
    return (stringText style.basicOnly name ++ ':' :: ' ' :: y) :: (← rowChars style depth xs)

end

/-- Whether a value has parts of its own on the lines below it. -/
def hasParts : Value → Bool
  | .list _ | .mapping _ => true
  | _ => false

mutual

/-- What has been written of a value with texts as keys when writing stops at an integer in it.  An item of a list
is written together with what stands before it, the value of a key after the key. -/
def begun (style : Style) (depth : Nat) : Value → List Char
  | .list xs => begunItems style (depth + 1) ('[' :: style.newLine (depth + 1)) xs
  | .mapping xs => '\x7b' :: style.newLine (depth + 1) ++ begunMembers style (depth + 1) [] xs
  | _ => []

/-- `lead` is what stands before the first item. -/
def begunItems (style : Style) (depth : Nat) (lead : List Char) : List Value → List Char
  | [] => []
  | x :: xs =>
    match chars style depth x with
    | .ok y => lead ++ y ++ begunItems style depth (style.separator depth) xs
    | .error _ => if hasParts x then lead ++ begun style depth x else []

def begunMembers (style : Style) (depth : Nat) (lead : List Char) : List (String × Value) → List Char
  | [] => []
  | (name, x) :: xs =>
    let front := lead ++ stringText style.basicOnly name ++ [':', ' ']
    match chars style depth x with
    | .ok y => front ++ y ++ begunMembers style depth (style.separator depth) xs
    | .error _ => front ++ begun style depth x

end

/-- Writes a value. -/
def write (style : Style) (v : Value) : Except Refusal String := (chars style 0 v).map String.ofList

/-- The text of a value; none for values that are not written. -/
def write? (style : Style) (v : Value) : Option String := (write style v).toOption

end Json
end GraphQuery
