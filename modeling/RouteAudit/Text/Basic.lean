/-! # Text as lists of characters

Searching, trimming, cutting and joining of strings, each through the list of characters: `occurs`,
`dropEndWhile`, `cutAt`, `splitAt` work on lists, and `contains`, `startsWith`, `endsWith`,
`trimStart`, `trimEnd`, `join` are the same operations on strings. -/

namespace RouteAudit.Text

/-! ### Searching -/

/-- The needle stands somewhere in the text as a block. -/
def occurs (needle : List Char) : List Char → Bool
  | [] => needle.isEmpty
  | c :: rest => needle.isPrefixOf (c :: rest) || occurs needle rest

/-- A character occurs exactly when it is a member. -/
theorem occurs_singleton (c : Char) (s : List Char) : occurs [c] s = s.contains c := by
  induction s with
  | nil => rfl
  | cons d r ih => simp [occurs, ih, List.isPrefixOf]; rfl

def contains (text needle : String) : Bool := occurs needle.toList text.toList

def startsWith (text start : String) : Bool := start.toList.isPrefixOf text.toList

def endsWith (text stop : String) : Bool := stop.toList.isSuffixOf text.toList

/-! ### Trimming -/

/-- Drop the longest end part whose characters all satisfy `p`. -/
def dropEndWhile (p : Char → Bool) (s : List Char) : List Char := (s.reverse.dropWhile p).reverse

@[simp] theorem dropEndWhile_nil (p : Char → Bool) : dropEndWhile p [] = [] := rfl

theorem dropEndWhile_concat (p : Char → Bool) (s : List Char) (c : Char) :
    dropEndWhile p (s ++ [c]) = if p c then dropEndWhile p s else s ++ [c] := by
  simp only [dropEndWhile, List.reverse_append, List.reverse_cons, List.reverse_nil,
    List.nil_append, List.singleton_append, List.dropWhile_cons]
  split <;> simp

def trimStart (p : Char → Bool) (s : String) : String := String.ofList (s.toList.dropWhile p)

def trimEnd (p : Char → Bool) (s : String) : String := String.ofList (dropEndWhile p s.toList)

/-- Drop the characters that satisfy `p` from both ends. -/
def trim (p : Char → Bool) (s : String) : String :=
  String.ofList (dropEndWhile p (s.toList.dropWhile p))

@[simp] theorem toList_trimStart (p : Char → Bool) (s : String) :
    (trimStart p s).toList = s.toList.dropWhile p := by simp [trimStart]

@[simp] theorem toList_trimEnd (p : Char → Bool) (s : String) :
    (trimEnd p s).toList = dropEndWhile p s.toList := by simp [trimEnd]

@[simp] theorem toList_trim (p : Char → Bool) (s : String) :
    (trim p s).toList = dropEndWhile p (s.toList.dropWhile p) := by simp [trim]

/-! ### Cutting -/

/-- The parts between the separators, one more than there are separators. -/
def splitAt (sep : Char) : List Char → List (List Char)
  | [] => [[]]
  | c :: rest =>
    if c = sep then [] :: splitAt sep rest
    else match splitAt sep rest with
      | [] => [[c]]
      | part :: parts => (c :: part) :: parts

theorem splitAt_ne_nil (sep : Char) (s : List Char) : splitAt sep s ≠ [] := by
  cases s with
  | nil => simp [splitAt]
  | cons c r => simp only [splitAt]; split <;> (try split) <;> simp

def split (sep : Char) (s : String) : List String := (splitAt sep s.toList).map String.ofList

/-- The text before and after the first separator, when there is one. -/
def cutAt (sep : Char) : List Char → Option (List Char × List Char)
  | [] => none
  | c :: rest =>
    if c = sep then some ([], rest) else (cutAt sep rest).map fun p => (c :: p.1, p.2)

/-! ### Joining -/

/-- The parts with the separator between them. -/
def join (sep : String) (parts : List String) : String :=
  String.ofList (List.intercalate sep.toList (parts.map String.toList))

@[simp] theorem join_nil (sep : String) : join sep [] = "" := by simp [join]

/-- The first `n` characters. -/
def take (n : Nat) (s : String) : String := String.ofList (s.toList.take n)

/-- The text without its first `n` characters. -/
def drop (n : Nat) (s : String) : String := String.ofList (s.toList.drop n)

end RouteAudit.Text
