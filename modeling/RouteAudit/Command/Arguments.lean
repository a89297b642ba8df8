import RouteAudit.Text.Basic
import RouteAudit.Text.Digit
import RouteAudit.Text.Quoted

/-! # Reading arguments

Arguments are read against a list of options. An option has one or more names; a long name may be
cut short as long as it stays clear, its value follows or stands after an equals sign, and the value
of a short name may follow at once. Short names of switches can be joined. After two dashes nothing
is an option. `readArguments` applies the options in order and yields the arguments left over. -/

namespace RouteAudit.Command

/-- Why reading ends early. -/
inductive Stop where
  /-- The arguments are wrong. -/
  | usage (message : String)
  /-- Help was asked for. -/
  | help
  /-- The version was asked for. -/
  | version
deriving DecidableEq, Repr

/-- What an option does to the arguments read so far. -/
inductive Effect (A : Type) where
  | switch (set : A → A)
  /-- The option takes a value, which it may refuse with a message. -/
  | value (set : String → A → Except String A)
  | leave (reason : Stop)

/-- An option with its names. -/
structure Opt (A : Type) where
  names : List String
  effect : Effect A

variable {A : Type}

namespace Opt

def takesValue (o : Opt A) : Bool :=
  match o.effect with
  | .value _ => true
  | _ => false

/-- A complaint about an option. -/
def complaint (o : Opt A) (message : String) : Stop :=
  .usage ("argument " ++ Text.join "/" o.names ++ ": " ++ message)

/-- The complaint about a value that a switch was given. -/
def ignored (o : Opt A) (value : List Char) : Stop :=
  o.complaint ("ignored explicit argument " ++ Text.quoted (String.ofList value))

/-- Apply an option with its value. -/
def apply (o : Opt A) (value : String) (a : A) : Except Stop A :=
  match o.effect with
  | .switch set => .ok (set a)
  | .value set => (set value a).mapError o.complaint
  | .leave reason => .error reason

end Opt

/-! ### What an argument is -/

/-- A value in the same argument as its option. -/
inductive Attached where
  | nothing
  /-- Directly after a short name. -/
  | joined (value : List Char)
  | afterEquals (value : List Char)
deriving DecidableEq, Repr

/-- What an argument is taken for. -/
inductive Mark (A : Type) where
  | dashes
  | argument
  | option (o : Opt A) (name : String) (value : Attached)
  | unknownOption

/-- The names of all options, in order, with their options. -/
def namesOf (options : List (Opt A)) : List (String × Opt A) :=
  options.flatMap fun o => o.names.map fun n => (n, o)

/-- A text up to the first equals sign, and what follows that. -/
def cutEquals (text : String) : String × Attached :=
  match Text.cutAt '=' text.toList with
  | some (before, after) => (String.ofList before, .afterEquals after)
  | none => (text, .nothing)

/-- The options that a text with one or two dashes can mean by a part of their names. -/
def candidates (options : List (Opt A)) (text : String) : List (String × Opt A × Attached) :=
  if Text.startsWith text "--" then
    let (start, value) := cutEquals text
    (namesOf options).filterMap fun n =>
      if Text.startsWith n.1 start then some (n.1, n.2, value) else none
  else
    (namesOf options).filterMap fun n =>
      if n.1 == Text.take 2 text then some (n.1, n.2, .joined (text.toList.drop 2))
      else if Text.startsWith n.1 text then some (n.1, n.2, .nothing)
      else none

/-- A dash and a number. A line break may follow. -/
def isNegativeNumber (text : String) : Bool :=
  match text.toList with
  | '-' :: rest =>
    let body := if rest.getLast? == some '\n' then rest.dropLast else rest
    let whole := body.takeWhile Text.isDecimal
    match body.dropWhile Text.isDecimal with
    | [] => !whole.isEmpty
    | '.' :: places => !places.isEmpty && places.all Text.isDecimal
    | _ => false
  | _ => false

/-- What an argument before any double dash is. -/
def markOf (options : List (Opt A)) (text : String) : Except Stop (Mark A) :=
  if !Text.startsWith text "-" then .ok .argument
  else match (namesOf options).lookup text with
    | some o => .ok (.option o text .nothing)
    | none =>
      if text == "-" then .ok .argument
      else
        let (name, value) := cutEquals text
        match value, (namesOf options).lookup name with
        | .afterEquals v, some o => .ok (.option o name (.afterEquals v))
        | _, _ =>
          match candidates options text with
          | [(n, o, v)] => .ok (.option o n v)
          | [] =>
            .ok (if isNegativeNumber text || text.toList.contains ' ' then .argument
              else .unknownOption)
          | several =>
            .error (.usage ("ambiguous option: " ++ text ++ " could match " ++
              Text.join ", " (several.map (·.1))))

/-- What each argument is; after two dashes all are plain. -/
def marksOf (options : List (Opt A)) : List String → Except Stop (List (String × Mark A))
  | [] => .ok []
  | "--" :: rest => .ok (("--", .dashes) :: rest.map fun a => (a, .argument))
  | a :: rest => do
    let m ← markOf options a
    return (a, m) :: (← marksOf options rest)

/-! ### Options -/

/-- How a cluster of short names ends. -/
inductive ClusterEnd (A : Type) where
  | complete
  /-- The last option looks for its value in the next argument. -/
  | waiting (o : Opt A)
  /-- A name that is no option. -/
  | leftOver (text : String)

/-- A value that was given to an option after an equals sign. -/
def givenValue (o : Opt A) (value : List Char) : Except Stop (Opt A × String) :=
  if o.takesValue then .ok (o, String.ofList value) else .error (o.ignored value)

/-- Read what is joined to a short name: a value, or further names. -/
def cluster (options : List (Opt A)) (o : Opt A) (done : List (Opt A × String)) :
    List Char → Except Stop (List (Opt A × String) × ClusterEnd A)
  | [] => .ok (done, .waiting o)
  | c :: rest =>
    if o.takesValue then .ok (done ++ [(o, String.ofList (c :: rest))], .complete)
    else if c == '-' then .error (o.ignored (c :: rest))
    else match (namesOf options).lookup (String.ofList ['-', c]) with
      | none => .ok (done ++ [(o, "")], .leftOver (String.ofList ('-' :: c :: rest)))
      | some next =>
        match rest with
        | '=' :: value => do
          return (done ++ [(o, ""), ← givenValue next value], .complete)
        | more => cluster options next (done ++ [(o, "")]) more

/-- The value of an option in the arguments that follow it. -/
def followingValue (o : Opt A) (rest : List (String × Mark A)) :
    Except Stop (String × List (String × Mark A)) :=
  if o.takesValue then
    match rest with
    | (value, .argument) :: after => .ok (value, after)
    | _ => .error (o.complaint "expected one argument")
  else .ok ("", rest)

/-- The options that stand in one argument with their values, and how it ends. -/
def optionsIn (options : List (Opt A)) (o : Opt A) :
    Attached → Except Stop (List (Opt A × String) × ClusterEnd A)
  | .nothing => .ok ([], .waiting o)
  | .afterEquals v => do return ([← givenValue o v], .complete)
  | .joined v => cluster options o [] v

/-- The options that one argument stands for with their values, the arguments after it, and what is
left over of it. -/
def optionsAt (options : List (Opt A)) (o : Opt A) (value : Attached)
    (rest : List (String × Mark A)) :
    Except Stop (List (Opt A × String) × List (String × Mark A) × List String) := do
  let (found, ending) ← optionsIn options o value
  match ending with
  | .complete => return (found, rest, [])
  | .leftOver text => return (found, rest, [text])
  | .waiting last =>
    let (v, after) ← followingValue last rest
    return (found ++ [(last, v)], after, [])

/-! ### All arguments -/

/-- What reading has come to. -/
structure Progress (A : Type) where
  value : A
  /-- What to do with the plain argument that is still expected. -/
  positional : Option (String → A → A)
  /-- The arguments that belong to nothing, in order. -/
  extras : List String := []

def isOption : Mark A → Bool
  | .option .. => true
  | .unknownOption => true
  | _ => false

/-- The arguments past two dashes in front. -/
def skipDashes : List (String × Mark A) → List (String × Mark A)
  | (_, .dashes) :: rest => rest
  | other => other

/-- Give plain arguments to what expects one: the first of them, past two dashes. -/
def takePositional (p : Progress A) (plain : List (String × Mark A)) :
    Progress A × List (String × Mark A) :=
  match p.positional with
  | none => (p, plain)
  | some set =>
    match skipDashes plain with
    | (text, .argument) :: rest =>
      ({ p with value := set text p.value, positional := none }, skipDashes rest)
    | other => ({ p with positional := none }, other)

/-- Read plain arguments: up to the next option if there is one, and else all of them. -/
def readPlain (p : Progress A) (plain : List (String × Mark A)) :
    Progress A × List (String × Mark A) :=
  let (q, rest) := takePositional p plain
  if plain.any fun m => isOption m.2 then
    if p.positional.isSome then (q, rest)
    else
      let between := plain.takeWhile fun m => !isOption m.2
      ({ p with extras := p.extras ++ between.map (·.1) }, plain.drop between.length)
  else ({ q with extras := q.extras ++ rest.map (·.1) }, [])

/-- Read arguments in rounds, an option or some plain ones in each. -/
def readOnto (options : List (Opt A)) :
    (bound : Nat) → Progress A → List (String × Mark A) → Except Stop (Progress A)
  | 0, p, _ => .ok p
  | n + 1, p, marks =>
    match marks with
    | [] => .ok p
    | (_, .option o _ value) :: rest => do
      let (found, after, extra) ← optionsAt options o value rest
      let a ← found.foldlM (fun a f => f.1.apply f.2 a) p.value
      readOnto options n { p with value := a, extras := p.extras ++ extra } after
    | (text, .unknownOption) :: rest =>
      readOnto options n { p with extras := p.extras ++ [text] } rest
    | plain =>
      let (q, rest) := readPlain p plain
      readOnto options n q rest

/-- Read arguments against options and an optional plain argument. -/
def readArguments (options : List (Opt A)) (positional : Option (String → A → A)) (start : A)
    (args : List String) : Except Stop (A × List String) := do
  let marks ← marksOf options args
  let p ← readOnto options (marks.length + 1) { value := start, positional } marks
  return (p.value, p.extras)

end RouteAudit.Command
