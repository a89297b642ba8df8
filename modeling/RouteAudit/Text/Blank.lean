import RouteAudit.Text.Range

/-! # Blank characters

The characters that count as white space: the ones of Unicode, with the four separators U+001C to
U+001F. -/

namespace RouteAudit.Text

/-- Ranges of the white space characters. -/
def blankRanges : List CodeRange :=
  [(0x9, 0xd), (0x1c, 0x20), (0x85, 0x85), (0xa0, 0xa0), (0x1680, 0x1680), (0x2000, 0x200a),
   (0x2028, 0x2029), (0x202f, 0x202f), (0x205f, 0x205f), (0x3000, 0x3000)]

/-- White space, which trimming removes. -/
def isBlank (c : Char) : Bool := inRanges blankRanges c.toNat

theorem isBlank_slash : isBlank '/' = false := by decide

end RouteAudit.Text
