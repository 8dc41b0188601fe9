import GraphQuery.Text.Quoted
import GraphQuery.Number.Shortest

/-!
# Wrong use of the command line

What can be wrong with the words of a command line, as causes, with their wording.
-/

namespace GraphQuery

/-- Why a word is no value of a parameter. -/
inductive WordFault where
  | notInteger (word : String)
  | notDepth (word : String)
  | negativeDepth (depth : Int)
  | notListed (word : String) (choices : List String)
  | absentPath (word : String)
  | malformedJson
  | notObject
deriving DecidableEq, Repr

namespace WordFault

def message : WordFault → String
  | notInteger word => Text.quoted word ++ " is not a valid integer."
  | notDepth word => Text.quoted word ++ " is not a whole number or 'all'"
  | negativeDepth depth => Number.intText depth ++ " is negative"
  | notListed word choices =>
    Text.quoted word ++ " is not one of " ++ ", ".intercalate (choices.map Text.quoted) ++ "."
  | absentPath word => "Path " ++ Text.quoted word ++ " does not exist."
  | malformedJson => "not valid JSON"
  | notObject => "must be a JSON object"

end WordFault

/-- Why a command line is not understood. -/
inductive UsageFault where
  /-- Nothing was asked for, so the usage is shown. -/
  | nothingAsked
  | missingCommand
  | noSuchCommand (name : String)
  | noSuchOption (spelling : String)
  | needsValue (spelling : String)
  | takesNoValue (spelling : String)
  | missingArgument (name : String)
  | unexpected (words : List String)
  /-- A word does not fit its parameter; `parameter` is how messages call it. -/
  | badWord (parameter : String) (fault : WordFault)
  | needsStore
deriving DecidableEq, Repr

namespace UsageFault

/-- The wording of a fault; showing the usage has none of its own. -/
def message? : UsageFault → Option String
  | nothingAsked => none
  | missingCommand => some "Missing command."
  | noSuchCommand name => some ("No such command " ++ Text.quoted name ++ ".")
  | noSuchOption spelling => some ("No such option " ++ Text.quoted spelling ++ ".")
  | needsValue spelling => some ("Option " ++ Text.quoted spelling ++ " requires an argument.")
  | takesNoValue spelling => some ("Option " ++ Text.quoted spelling ++ " does not take a value.")
  | missingArgument name => some ("Missing argument '" ++ name ++ "'.")
  | unexpected words =>
    let plural := if words.length = 1 then "" else "s"
    some ("Got unexpected extra argument" ++ plural ++ " (" ++ " ".intercalate words ++ ")")
  | badWord parameter fault =>
    some ("Invalid value for " ++ parameter ++ ": " ++ fault.message)
  | needsStore => some "Filter sets need --store to persist."

end UsageFault
end GraphQuery
