/-!
# Substrings and subsequences

Tests on lists of characters.  A text is matched exactly when the query is a contiguous part of it, and
loosely when the query's characters occur in it in order.  The loose test is one greedy scan: each
character of the text that equals the next wanted one consumes it.
-/

namespace GraphQuery
namespace Text

/-! ## Contiguous parts -/

/-- Whether `part` occurs in the text as a contiguous part. -/
def hasPart (part : List Char) : List Char → Bool
  | [] => part.isEmpty
  | c :: rest => part.isPrefixOf (c :: rest) || hasPart part rest

/-- Whether `part` occurs in `text`. -/
def contains (text part : String) : Bool := hasPart part.toList text.toList

def startsWith (text part : String) : Bool := part.toList.isPrefixOf text.toList

def endsWith (text part : String) : Bool := part.toList.isSuffixOf text.toList

theorem hasPart_iff {part text : List Char} : hasPart part text = true ↔ part <:+: text := by
  induction text with
  | nil => simp [hasPart]
  | cons c rest ih => simp [hasPart, ih, List.infix_cons_iff]

/-! ## Scattered parts -/

/-- What is left of the query once the text has been scanned: a character equal to the next wanted
one consumes it. -/
def unmatched : List Char → List Char → List Char
  | query, [] => query
  | [], _ :: _ => []
  | wanted :: query, c :: text =>
    if c = wanted then unmatched query text else unmatched (wanted :: query) text

/-- Whether the characters of `query` occur in `text` in order. -/
def isScattered (text query : String) : Bool := (unmatched query.toList text.toList).isEmpty

@[simp] theorem unmatched_nil_left (text : List Char) : unmatched [] text = [] := by
  cases text <;> rfl

end Text
end GraphQuery
