import GraphQuery.Criteria.Operator
import GraphQuery.Json.Writer
import GraphQuery.Value.Display

/-!
# Failures

What can go wrong, as causes.  `Failure.message?` is the wording of the causes that carry one; the
others are told apart by their kind alone.
-/

namespace GraphQuery

/-- A criterion that does not fit what it is used for. -/
inductive CriteriaFault where
  | needsList (op : Operator) (got : Value)
  | needsPair (got : Value)
  | badPattern (pattern : Value)
  | textNeedsValue
  | degreeNeedsMapping (got : Value)
  | testFailed

namespace CriteriaFault

def message : CriteriaFault → String
  | needsList op got =>
    "Operator " ++ Text.quoted op.name ++ " needs a list of values, got: " ++ got.kindName
  | needsPair got => "Operator 'between' needs a [min, max] pair, got: " ++ got.quoted
  | badPattern pattern => "Invalid regex " ++ pattern.quoted
  | textNeedsValue => "Text filter needs a 'value'"
  | degreeNeedsMapping got => "Degree filter must be a mapping, got: " ++ got.quoted
  | testFailed => "predicate failed"

end CriteriaFault

/-- A stored or exported text that is not what it should be. -/
inductive PayloadFault where
  | filterSets
  | filterSetsNotObject
  | filterSetEntry (name : String)
  | savedSearches
deriving DecidableEq, Repr

namespace PayloadFault

def message : PayloadFault → String
  | filterSets => "Invalid filter configuration JSON"
  | filterSetsNotObject => "Invalid filter configuration JSON: expected an object"
  | filterSetEntry name => "Invalid filter configuration JSON: entry " ++ Text.quoted name
  | savedSearches => "Invalid saved searches payload"

end PayloadFault

/-- A name under which nothing is kept. -/
inductive MissingName where
  | filterSet (name : Value)
  | savedSearch (name : Value)

namespace MissingName

def message : MissingName → String
  | filterSet name => "Filter set '" ++ name.display ++ "' not found"
  | savedSearch name => "Saved search '" ++ name.display ++ "' not found"

end MissingName

/-- An argument outside its range. -/
inductive ArgumentFault where
  | direction (got : Value)
  | scope (got : Value)
  | capacity (got : Value)
  | evictFraction (got : Value)
  | historySize
  | testFailed
  | graphNotObject (kind : String)
  | nullInPath (path : String)
  | nullInBase
  | outsideBase (path base : String)
  | versionMissing (database : String)
  | versionUnknown (version database : String)
  | longInteger (digits : Nat)
  | longIntegerText
  | pairLength (index length : Nat)
  | clashingFlags
  | nestedTooFar

namespace ArgumentFault

def message : ArgumentFault → String
  | direction got => "direction must be 'out', 'in', or 'both', got: " ++ got.quoted
  | scope got => "scope must be 'all', 'nodes', or 'edges', got: " ++ got.quoted
  | capacity got => "capacity must be at least 1, got: " ++ got.display
  | evictFraction got => "evict_fraction must be in (0, 1], got: " ++ got.display
  | historySize => "maxlen must be non-negative"
  | testFailed => "predicate failed"
  | graphNotObject kind => "Graph data must be an object, got: " ++ kind
  | nullInPath path => "Invalid path (contains null bytes): " ++ Text.quoted path
  | nullInBase => "lstat: embedded null character in path"
  | outsideBase path base =>
    "Path traversal detected: " ++ path ++ " is outside base directory " ++ base
  | versionMissing database =>
    "Database has meta table but no schema_version key. The database at '" ++ database ++
      "' may be corrupted."
  | versionUnknown version database =>
    "Unsupported schema version '" ++ version ++ "' in database '" ++ database ++
      "'. Expected version 1."
  | longInteger digits =>
    "Exceeds the limit (4300 digits) for integer string conversion: value has " ++
      Number.intText digits ++
      " digits; use sys.set_int_max_str_digits() to increase the limit"
  | longIntegerText =>
    "Exceeds the limit (4300 digits) for integer string conversion; use " ++
      "sys.set_int_max_str_digits() to increase the limit"
  | pairLength index length =>
    "dictionary update sequence element #" ++ Number.intText index ++ " has length " ++
      Number.intText length ++ "; 2 is required"
  | clashingFlags => "ASCII and UNICODE flags are incompatible"
  | nestedTooFar => "Maximum serialization depth exceeded"

end ArgumentFault

/-- The rule of a field that a value breaks. -/
inductive FieldRule where
  | required
  | object
  | mapping
  | list
  | text
  | integer
  | wholeNumber
  | finiteNumber
  | integerText
  | integerSize
  | number
  | numberText
  | atLeast
  | above
  | atMost
  | listed
  | time
  | timeText
  | timeValue
deriving DecidableEq, Repr

namespace FieldRule

/-- The code by which a broken rule is reported. -/
def code : FieldRule → String
  | required => "missing"
  | object => "model_type"
  | mapping => "dict_type"
  | list => "list_type"
  | text => "string_type"
  | integer => "int_type"
  | wholeNumber => "int_from_float"
  | finiteNumber => "finite_number"
  | integerText => "int_parsing"
  | integerSize => "int_parsing_size"
  | number => "float_type"
  | numberText => "float_parsing"
  | atLeast => "greater_than_equal"
  | above => "greater_than"
  | atMost => "less_than_equal"
  | listed => "literal_error"
  | time => "datetime_type"
  | timeText => "datetime_from_date_parsing"
  | timeValue => "datetime_parsing"

end FieldRule

/-- A step from an object or list to one of its parts. -/
inductive PathStep where
  | field (name : String)
  | index (i : Int)
deriving DecidableEq, Repr

/-- A broken rule and where it is broken, from the outermost object inwards. -/
structure FieldFault where
  rule : FieldRule
  path : List PathStep
deriving DecidableEq, Repr

namespace FieldFault

/-- The fault as seen from the object or list that holds the part. -/
def under (step : PathStep) (fault : FieldFault) : FieldFault :=
  { fault with path := step :: fault.path }

end FieldFault

inductive Failure where
  | criteria (fault : CriteriaFault)
  | missing (name : MissingName)
  | payload (fault : PayloadFault)
  | argument (fault : ArgumentFault)
  /-- The graph is read from elsewhere and cannot be replaced. -/
  | boundElsewhere
  /-- No graph is being served. -/
  | notStarted
  /-- The store does not take what is written to it. -/
  | storeFull
  | fields (faults : List FieldFault)
  /-- Values of kinds that an operation does not take. -/
  | mismatch
  /-- Something that has no part or operation of the name. -/
  | noSuchPart
  /-- A mapping that has no entry of the key. -/
  | noSuchKey
  | malformedJson
  | noSuchFile
  | isDirectory
  | notDirectory
  /-- A directory is wanted where a file is. -/
  | fileInPlace
  /-- A file whose content is no text. -/
  | notText
  | notStore
  /-- A place at which no store can be opened. -/
  | noStorePlace
  | closedStore
  | overflow
  /-- A text whose parts are nested deeper than texts are read. -/
  | nestedTooDeep
  /-- A pattern that looks too far behind a place. -/
  | patternTooWide
  /-- A match whose groups are not in order. -/
  | tangledMatch
  /-- A value that a dump of a graph has no form for. -/
  | unwritable

/-- An answer, or why there is none. -/
abbrev Outcome (α : Type) := Except Failure α

namespace Failure

/-- The wording of a failure, for the causes that carry one. -/
def message? : Failure → Option String
  | criteria fault => some fault.message
  | missing name => some name.message
  | payload fault => some fault.message
  | argument fault => some fault.message
  | boundElsewhere => some "Engine is bound to an external state accessor"
  | notStarted => some "graphsift engine is not initialized"
  | storeFull => some "disk full"
  | patternTooWide => some "invalid SRE code"
  | _ => none

/-- The name of the kind of a failure, as reports give it. -/
def kindName : Failure → String
  | criteria _ => "InvalidCriteriaError"
  | missing _ => "NotFoundError"
  | payload _ => "ConfigurationError"
  | argument _ => "ValueError"
  | boundElsewhere | notStarted | patternTooWide => "RuntimeError"
  | storeFull => "OSError"
  | fields _ => "ValidationError"
  | mismatch => "TypeError"
  | noSuchPart => "AttributeError"
  | noSuchKey => "KeyError"
  | malformedJson => "JSONDecodeError"
  | noSuchFile => "FileNotFoundError"
  | isDirectory => "IsADirectoryError"
  | notDirectory => "NotADirectoryError"
  | fileInPlace => "FileExistsError"
  | notText => "UnicodeDecodeError"
  | notStore => "DatabaseError"
  | noStorePlace => "OperationalError"
  | closedStore => "ProgrammingError"
  | overflow => "OverflowError"
  | nestedTooDeep => "RecursionError"
  | tangledMatch => "SystemError"
  | unwritable => "PydanticSerializationError"

/-- The failure of an operation whose text is not written; `noForm` stands for a part without a form. -/
def ofRefusal (noForm : Failure) : Json.Refusal → Failure
  | .noForm => noForm
  | .longInteger => argument .longIntegerText

/-- Whether a criterion that fails this way counts as not met. -/
def countsAsUnmet : Failure → Bool
  | criteria _ | mismatch => true
  | _ => false

end Failure
end GraphQuery
