import RouteAudit.Pattern.Regex.Basic

/-! # Matching regular expressions

`Regex.run` tries the ways in which an expression can match at a place, in order of preference, and
hands each to what is to match after it; the first that succeeds wins. `Regex.search` holds when an
expression matches somewhere in a text. -/

namespace RouteAudit.Regex

/-- A place in a text with what the groups have captured. -/
structure Place where
  /-- The characters before the place, the nearest first. -/
  before : List Char
  after : List Char
  groups : List (Nat × List Char) := []

/-- Match here and go on with what follows. -/
abbrev Matcher := Place → (Place → Option Place) → Option Place

namespace Place

def position (p : Place) : Nat := p.before.length

/-- The place after one more character. -/
def forward (p : Place) : Option (Char × Place) :=
  match p.after with
  | [] => none
  | c :: rest => some (c, { p with before := c :: p.before, after := rest })

/-- The place some characters earlier. -/
def back (p : Place) (n : Nat) : Option Place :=
  if n ≤ p.before.length then
    some { p with before := p.before.drop n, after := (p.before.take n).reverse ++ p.after }
  else none

/-- The place with a group's text noted. -/
def capture (p : Place) (number : Nat) (text : List Char) : Place :=
  { p with groups := (number, text) :: p.groups.filter fun g => g.1 != number }

end Place

/-! ### Anchors -/

/-- The place lies between a word and something else. -/
def atBoundary (ascii : Bool) (p : Place) : Bool :=
  let isWordAt (c : Option Char) : Bool := (c.map (isWord ascii)).getD false
  isWordAt p.before.head? != isWordAt p.after.head?

def Anchor.holds (p : Place) (multiline ascii : Bool) : Anchor → Bool
  | lineStart => p.before.isEmpty || (multiline && p.before.head? == some '\n')
  | lineEnd =>
    p.after.isEmpty || (if multiline then p.after.head? == some '\n' else p.after == ['\n'])
  | textStart => p.before.isEmpty
  | textEnd => p.after.isEmpty
  | boundary => !(p.before.isEmpty && p.after.isEmpty) && atBoundary ascii p
  | noBoundary => !(p.before.isEmpty && p.after.isEmpty) && !atBoundary ascii p

/-! ### Repetition -/

/-- Some further round is allowed. -/
def mayRepeat (count : Nat) : Option Nat → Bool
  | some high => count < high
  | none => true

/-- As many rounds as possible, then fewer. A round that took nothing is the last. `last` is where
the round before started. -/
def greedyRounds (body : Matcher) (low : Nat) (high : Option Nat) :
    (bound count : Nat) → (last : Option Nat) → Matcher
  | 0, _, _, p, k => k p
  | bound + 1, count, last, p, k =>
    if count < low then
      body p fun q => greedyRounds body low high bound (count + 1) last q k
    else if mayRepeat count high && last != some p.position then
      match body p fun q =>
        greedyRounds body low high bound (count + 1) (some p.position) q k with
      | some q => some q
      | none => k p
    else k p

/-- As few rounds as possible, then more. -/
def reluctantRounds (body : Matcher) (low : Nat) (high : Option Nat) :
    (bound count : Nat) → (last : Option Nat) → Matcher
  | 0, _, _, p, k => k p
  | bound + 1, count, last, p, k =>
    if count < low then
      body p fun q => reluctantRounds body low high bound (count + 1) last q k
    else
      match k p with
      | some q => some q
      | none =>
        if mayRepeat count high && last != some p.position then
          body p fun q => reluctantRounds body low high bound (count + 1) (some p.position) q k
        else none

/-- As many rounds as possible, each in its first way, and no fewer. -/
def possessiveRounds (body : Matcher) (low : Nat) (high : Option Nat) :
    (bound count : Nat) → (last : Option Nat) → Place → Option Place
  | 0, _, _, p => some p
  | bound + 1, count, last, p =>
    if count < low then
      match body p some with
      | some q => possessiveRounds body low high bound (count + 1) last q
      | none => none
    else if mayRepeat count high && last != some p.position then
      match body p some with
      | some q => possessiveRounds body low high bound (count + 1) (some p.position) q
      | none => some p
    else some p

/-- The rounds of a repetition. -/
def rounds (greed : Greed) (body : Matcher) (low : Nat) (high : Option Nat) : Matcher := fun p k =>
  let bound := low + p.after.length + 2
  match greed with
  | .greedy => greedyRounds body low high bound 0 none p k
  | .reluctant => reluctantRounds body low high bound 0 none p k
  | .possessive => (possessiveRounds body low high bound 0 none p).bind k

/-! ### Expressions -/

/-- The same characters, possibly in another case. -/
def sameText (ignoreCase ascii : Bool) (a b : Char) : Bool :=
  if ignoreCase then lowerCode ascii a.toNat == lowerCode ascii b.toNat else a == b

/-- The captured text stands after the place. -/
def readBack (ignoreCase ascii : Bool) : List Char → Place → Option Place
  | [], p => some p
  | c :: rest, p =>
    match p.forward with
    | some (d, q) => if sameText ignoreCase ascii c d then readBack ignoreCase ascii rest q else none
    | none => none

mutual

/-- Match an expression at a place. -/
def run : Regex → Matcher
  | sequence parts => runAll parts
  | choice branches => runAny branches
  | one set => fun p k =>
    match p.forward with
    | some (c, q) => if set.holds c then k q else none
    | none => none
  | any dotAll => fun p k =>
    match p.forward with
    | some (c, q) => if dotAll || c != '\n' then k q else none
    | none => none
  | anchor a multiline ascii => fun p k => if a.holds p multiline ascii then k p else none
  | group none inner => run inner
  | group (some number) inner => fun p k =>
    run inner p fun q => k (q.capture number (p.after.take (q.position - p.position)))
  | repeated low high greed inner => rounds greed (run inner) low high
  | look behind negated inner => fun p k =>
    let start := match behind with
      | some n => p.back n
      | none => some p
    let found := start.bind fun s => run inner s some
    match found, negated with
    | some q, false => k { p with groups := q.groups }
    | none, true => k p
    | _, _ => none
  | atomic inner => fun p k => (run inner p some).bind k
  | reference number ignoreCase ascii => fun p k =>
    match p.groups.lookup number with
    | some text => (readBack ignoreCase ascii text p).bind k
    | none => none
  | conditional number yes no => fun p k =>
    if (p.groups.lookup number).isSome then run yes p k else run no p k

/-- Match expressions one after the other. -/
def runAll : List Regex → Matcher
  | [] => fun p k => k p
  | r :: rest => fun p k => run r p fun q => runAll rest q k

/-- Match the first of the expressions that leads to success. -/
def runAny : List Regex → Matcher
  | [] => fun _ _ => none
  | r :: rest => fun p k =>
    match run r p k with
    | some q => some q
    | none => runAny rest p k

end

/-- The expression matches at some place of a text. -/
def searchFrom (r : Regex) (before : List Char) : List Char → Bool
  | [] => (run r ⟨before, [], []⟩ some).isSome
  | c :: rest =>
    (run r ⟨before, c :: rest, []⟩ some).isSome || searchFrom r (c :: before) rest

def search (r : Regex) (text : String) : Bool := searchFrom r [] text.toList

/-- What the groups capture where the expression matches at the start of a text. -/
def groups? (r : Regex) (text : String) : Option (List (Nat × List Char)) :=
  (run r ⟨[], text.toList, []⟩ some).map Place.groups

end RouteAudit.Regex
