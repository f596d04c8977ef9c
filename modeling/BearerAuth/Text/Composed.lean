/-!
# Composed values

How values are shown that are made of others: an optional value, a list, and a record of named
fields.
-/

namespace BearerAuth.Text

/-- A truth value. -/
def flag (b : Bool) : String :=
  if b then "true" else "false"

/-- A value that may be absent. -/
def optional {α : Type} (shown : α → String) : Option α → String
  | none => "None"
  | some x => "Some(" ++ shown x ++ ")"

/-- Values between square brackets. -/
def listed (items : List String) : String :=
  "[" ++ ", ".intercalate items ++ "]"

/-- Named fields between braces, after the name of the record. -/
def composed (name : String) (fields : List (String × String)) : String :=
  name ++ " \x7b " ++ ", ".intercalate (fields.map fun (field, text) => field ++ ": " ++ text)
    ++ " \x7d"

end BearerAuth.Text
