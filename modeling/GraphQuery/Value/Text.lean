import GraphQuery.Failure

/-!
# Writing values

`Value.toText` is the text of a value where it has one.  What shows a value in a message has to write it as well:
`Failure.showing` is the failure that such a message ends in.

How deep values are nested does not matter here: the stack is taken to suffice for writing them.
-/

namespace GraphQuery

/-- The failure to write an integer of very many digits. -/
def Failure.longIntegerText : Failure := .argument .longIntegerText

/-- The text of a value on its own, if all integers in it are converted. -/
def Value.toText (v : Value) : Outcome String :=
  if v.hasLongInteger then .error .longIntegerText else .ok v.display

/-- Whether a value has a text. -/
abbrev Value.HasText (v : Value) : Prop := v.hasLongInteger = false

/-- A failure whose message shows a value; without a text of the value the message cannot be made. -/
def Failure.showing (v : Value) (e : Failure) : Failure :=
  if v.hasLongInteger then .longIntegerText else e

namespace Value

@[simp] theorem toText_text (s : String) : (text s).toText = .ok s :=
  rfl

theorem HasText.toText {v : Value} (h : v.HasText) : v.toText = .ok v.display := by
  rw [Value.toText, h, if_neg Bool.false_ne_true]

end Value

theorem Value.HasText.showing {v : Value} (h : v.HasText) (e : Failure) : Failure.showing v e = e := by
  rw [Failure.showing, h, if_neg Bool.false_ne_true]

end GraphQuery
