import RouteAudit.Number.Binary64

/-! # Structured values

`Value` is what a configuration text denotes: scalars, lists, and mappings whose entries keep the
order in which their keys were first given. `insert` and `get?` are the operations on a mapping's
entries. -/

namespace RouteAudit

/-- A day of the calendar. -/
structure Date where
  year : Nat
  month : Nat
  day : Nat
deriving DecidableEq, Repr

/-- A time of a day; `offset` is the distance from universal time in seconds. -/
structure Moment where
  date : Date
  hour : Nat
  minute : Nat
  second : Nat
  micro : Nat
  offset : Option Int
deriving DecidableEq, Repr

/-- A structured value. -/
inductive Value where
  | null
  | bool (b : Bool)
  | int (n : Int)
  | float (x : Binary64)
  | text (s : String)
  | date (d : Date)
  | moment (t : Moment)
  | list (items : List Value)
  | map (entries : List (Value × Value))
deriving Repr

namespace Value

/-- A value counts as set unless it is null, false, zero or empty. -/
def isSet : Value → Bool
  | null => false
  | bool b => b
  | int n => n != 0
  | float x => !x.isZero
  | text s => !s.isEmpty
  | date _ => true
  | moment _ => true
  | list items => !items.isEmpty
  | map entries => !entries.isEmpty

/-- The integer that a scalar equals, as numbers are compared across their kinds. -/
def asInteger? : Value → Option Int
  | bool b => some (if b then 1 else 0)
  | int n => some n
  | float (.finite negative m e) =>
    let r := Binary64.ratio m e
    if r.1 % r.2 = 0 then
      some (if negative then -((r.1 / r.2 : Nat) : Int) else ((r.1 / r.2 : Nat) : Int))
    else none
  | _ => none

/-- Two scalars are one key of a mapping: numbers by their value, everything else by kind. -/
def sameKey (a b : Value) : Bool :=
  match asInteger? a, asInteger? b with
  | some m, some n => m == n
  | some _, none => false
  | none, some _ => false
  | none, none =>
    match a, b with
    | null, null => true
    | text s, text t => s == t
    | float (.infinite p), float (.infinite q) => p == q
    | float (.finite p m e), float (.finite q m' e') => p == q && m == m' && e == e'
    | date d, date d' => d == d'
    | moment t, moment t' => t == t'
    | _, _ => false

/-- Set a key: a known key keeps its place and takes the new value, a new one goes to the end. -/
def insert (key value : Value) : List (Value × Value) → List (Value × Value)
  | [] => [(key, value)]
  | (k, v) :: rest =>
    if sameKey k key then (k, value) :: rest else (k, v) :: insert key value rest

/-- Entries in the order of first appearance, each with its last value. -/
def entriesOf (pairs : List (Value × Value)) : List (Value × Value) :=
  pairs.foldl (fun entries p => insert p.1 p.2 entries) []

/-- The value under a textual key. -/
def lookup (key : String) : List (Value × Value) → Option Value
  | [] => none
  | (k, v) :: rest => if sameKey k (text key) then some v else lookup key rest

/-- The value under a textual key of a mapping. -/
def get? (key : String) : Value → Option Value
  | map entries => lookup key entries
  | _ => none

/-- A mapping with textual keys. -/
def object (fields : List (String × Value)) : Value := map (fields.map fun f => (text f.1, f.2))

/-- A natural number. -/
def nat (n : Nat) : Value := int n

/-- A list of texts. -/
def texts (items : List String) : Value := list (items.map text)

end Value

end RouteAudit
