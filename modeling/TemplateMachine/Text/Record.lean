/-!
# Records in diagnostics

The notation that diagnostics use for composite data: a title with named fields in braces, and
sequences in square brackets. Two dots stand for fields that are not shown.
-/

namespace TemplateMachine

/-- A titled group of named fields. -/
def recordText (title : String) (fields : List (String × String)) (openEnded : Bool) : String :=
  let shown := fields.map (fun field => field.1 ++ ": " ++ field.2) ++
    (if openEnded then [".."] else [])
  if shown.isEmpty then title else title ++ " \x7b " ++ ", ".intercalate shown ++ " \x7d"

/-- Texts in square brackets. -/
def bracketed (items : List String) : String :=
  "[" ++ ", ".intercalate items ++ "]"

end TemplateMachine
