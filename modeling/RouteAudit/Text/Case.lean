import RouteAudit.Text.CaseTable

/-! # Lower and upper case

`lower` and `upper` are the full case maps of Unicode on whole texts: a character may become
several, and capital sigma becomes the final form at the end of a word. On ASCII they are the usual
maps. -/

namespace RouteAudit.Text

/-- The lower case of one character, the two forms of sigma apart. -/
def lowerChar (c : Char) : List Char :=
  if c.toNat < 0x80 then [c.toLower]
  else if c.toNat = 0x130 then ['i', Char.ofNat 0x307]
  else match lowerRuns.findSome? (·.map? c.toNat) with
    | some n => [Char.ofNat n]
    | none => [c]

/-- The first character that counts in deciding case is a cased one. -/
def nextIsCased (s : List Char) : Bool :=
  match s.dropWhile (fun c => inRanges caseIgnorable c.toNat) with
  | [] => false
  | c :: _ => inRanges finalCased c.toNat

/-- Sigma takes its final form after a cased character and before none. -/
def isFinalSigma (before after : List Char) : Bool := nextIsCased before && !nextIsCased after

/-- Lower case of a text; `before` holds the characters before it, the nearest first. -/
def lowerFrom (before : List Char) : List Char → List Char
  | [] => []
  | c :: rest =>
    (if c.toNat = 0x3A3 then [Char.ofNat (if isFinalSigma before rest then 0x3C2 else 0x3C3)]
     else lowerChar c) ++ lowerFrom (c :: before) rest

def lower (s : String) : String := String.ofList (lowerFrom [] s.toList)

/-- The upper case of one character. -/
def upperChar (c : Char) : List Char :=
  if c.toNat < 0x80 then [c.toUpper]
  else match upperLong.lookup c.toNat with
    | some ns => ns.map Char.ofNat
    | none => match upperRuns.findSome? (·.map? c.toNat) with
      | some n => [Char.ofNat n]
      | none => [c]

theorem upperChar_ascii {c : Char} (h : c.toNat < 0x80) : upperChar c = [c.toUpper] := by
  simp [upperChar, h]

def upper (s : String) : String := String.ofList (s.toList.flatMap upperChar)

@[simp] theorem toList_lower (s : String) : (lower s).toList = lowerFrom [] s.toList := by
  simp [lower]

@[simp] theorem toList_upper (s : String) : (upper s).toList = s.toList.flatMap upperChar := by
  simp [upper]

end RouteAudit.Text
