import RouteAudit.Report.Format

/-! # Items as plain text

`ConsoleItem.plain` writes an item without its markup: a title on a line of its own, and the cells
of a row between bars. -/

namespace RouteAudit

/-- The styles that markup uses. -/
def markupStyles : List String :=
  ["bold", "bold red", "bold cyan", "red", "yellow", "cyan", "dim", "green", "blue", "magenta"]

/-- The tags that open and close a style. -/
def markupTags : List (List Char) :=
  markupStyles.flatMap fun s => [("[" ++ s ++ "]").toList, ("[/" ++ s ++ "]").toList]

/-- Text without the tags of styles; `skip` characters of a tag are still to be left out. -/
def withoutMarkup : (skip : Nat) → List Char → List Char
  | _, [] => []
  | n + 1, _ :: rest => withoutMarkup n rest
  | 0, c :: rest =>
    match markupTags.find? fun tag => tag.isPrefixOf (c :: rest) with
    | some tag => withoutMarkup (tag.length - 1) rest
    | none => c :: withoutMarkup 0 rest

def plainText (s : String) : String := String.ofList (withoutMarkup 0 s.toList)

namespace ConsoleItem

/-- A row of a table. -/
def plainRow (cells : List String) : String := Text.join " | " (cells.map plainText)

def plain : ConsoleItem → String
  | text s => plainText s ++ "\n"
  | panel title s => ((title.map (· ++ "\n")).getD "") ++ plainText s ++ "\n"
  | table title columns rows =>
    Text.join "\n" ([title, plainRow columns] ++ rows.map plainRow) ++ "\n"

end ConsoleItem

/-- A report as it is put into a file. -/
def Report.plain : Report → String
  | .items is => Text.join "" (is.map ConsoleItem.plain)
  | .text s => s

end RouteAudit
