/-! # Items on a console

What is shown to people: lines of text, panels and tables, with their markup. -/

namespace RouteAudit

/-- Something that a console shows. -/
inductive ConsoleItem where
  | text (s : String)
  | panel (title : Option String) (s : String)
  | table (title : String) (columns : List String) (rows : List (List String))
deriving DecidableEq, Repr

namespace ConsoleItem

/-- Text in a style. -/
def styled (style s : String) : String := "[" ++ style ++ "]" ++ s ++ "[/" ++ style ++ "]"

end ConsoleItem

end RouteAudit
