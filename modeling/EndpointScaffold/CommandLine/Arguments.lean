import EndpointScaffold.CommandLine.Grammar
import EndpointScaffold.Text.Quoted

/-!
# Arguments

The arguments of a command line are told apart first: what looks like an option is matched with the
names of the grammar, where the start of a long name will do if no other name starts with it. Then
options take the arguments that follow them, and operands take those between.

* `Misuse` what can be wrong with a command line;
* `Grammar.classify` the role of one argument;
* `Grammar.read` what the arguments say, with those that the grammar has no place for.
-/

namespace EndpointScaffold.CommandLine

open Text

/-- what is wrong with a command line -/
inductive Misuse where
  | ambiguous (option : String) (names : List String)
  | noArgument (p : Parameter)
  | ignoredArgument (p : Parameter) (argument : String)
  | noChoice (p : Parameter) (argument : String)
  | required (names : List String)
  | unknown (arguments : List String)

/-- what a parameter lacks -/
def Arity.demand : Arity → String
  | .atLeastOne => "expected at least one argument"
  | .atMostOne => "expected at most one argument"
  | _ => "expected one argument"

def Misuse.message : Misuse → String
  | .ambiguous option names =>
    "ambiguous option: " ++ option ++ " could match " ++ join ", " names
  | .noArgument p => "argument " ++ p.name ++ ": " ++ p.arity.demand
  | .ignoredArgument p argument =>
    "argument " ++ p.name ++ ": ignored explicit argument " ++ quoted argument
  | .noChoice p argument => "argument " ++ p.name ++ ": invalid choice: " ++ quoted argument
      ++ " (choose from " ++ join ", " (p.choices.map quoted) ++ ")"
  | .required names => "the following arguments are required: " ++ join ", " names
  | .unknown arguments => "unrecognized arguments: " ++ join " " arguments

/-- why a command line is not followed -/
inductive Stop where
  | misuse (g : Grammar) (m : Misuse)
  /-- the help was asked for -/
  | help (g : Grammar)
  /-- the version was asked for -/
  | version

/-! ### Roles -/

/-- an argument as an option: its name, and what stands in the same argument after the name -/
structure Match where
  parameter : Parameter
  name : String
  attached : Option String := none

inductive Role where
  | option (m : Match)
  /-- something like an option that the grammar does not know -/
  | unknownOption
  | plain
  /-- the sign after which nothing is an option -/
  | divider

/-- a number below zero, which is no option -/
def isNegativeNumber (s : String) : Bool :=
  match s.toList with
  | '-' :: cs =>
    let cs := dropFinalLineFeed cs
    let whole := cs.takeWhile isDecimalDigit
    match cs.dropWhile isDecimalDigit with
    | [] => !whole.isEmpty
    | '.' :: places => !places.isEmpty && places.all isDecimalDigit
    | _ => false
  | _ => false

/-- a text up to its first equals sign, and what follows the sign -/
def splitAtSign (s : String) : String × Option String :=
  let name := s.toList.takeWhile (· != '=')
  (String.ofList name, ((s.toList.drop name.length).tail?).map String.ofList)

/-- options that an argument may stand for -/
def Grammar.candidates (g : Grammar) (s : String) : List Match :=
  if beginsWith s "--" then
    let (start, attached) := splitAtSign s
    g.optionNames.filterMap fun (name, p) =>
      if beginsWith name start then some ⟨p, name, attached⟩ else none
  else
    g.optionNames.filterMap fun (name, p) =>
      if name.toList == s.toList.take 2 then
        some ⟨p, name, some (String.ofList (s.toList.drop 2))⟩
      else if beginsWith name s then some ⟨p, name, none⟩
      else none

/-- the option that an argument names in full -/
def Grammar.exact? (g : Grammar) (s : String) : Option Match :=
  match g.optionNames.lookup s with
  | some p => some ⟨p, s, none⟩
  | none =>
    match splitAtSign s with
    | (name, some attached) =>
      (g.optionNames.lookup name).map fun p => ⟨p, name, some attached⟩
    | _ => none

def Grammar.classify (g : Grammar) (s : String) : Except Misuse Role :=
  if s.toList.head? != some '-' || s.length == 1 then .ok .plain
  else
    match g.exact? s with
    | some m => .ok (.option m)
    | none =>
      match g.candidates s with
      | [m] => .ok (.option m)
      | [] =>
        if isNegativeNumber s || s.toList.contains ' ' then .ok .plain else .ok .unknownOption
      | ms => .error (.ambiguous s (ms.map (·.name)))

/-- arguments with their roles -/
def Grammar.classifyAll (g : Grammar) : List String → Except Misuse (List (String × Role))
  | [] => .ok []
  | s :: rest =>
    if s == "--" then .ok ((s, .divider) :: rest.map fun r => (r, .plain))
    else do
      let role ← g.classify s
      .ok ((s, role) :: (← g.classifyAll rest))

/-! ### Taking arguments -/

/-- a parameter with the arguments it takes -/
abbrev Saying := Parameter × List String

abbrev Roled := List (String × Role)

def isPlain : String × Role → Bool
  | (_, .plain) => true
  | _ => false

def isDivider : String × Role → Bool
  | (_, .divider) => true
  | _ => false

def isOptionLike : String × Role → Bool
  | (_, .option _) => true
  | (_, .unknownOption) => true
  | _ => false

/-- number of arguments that an option takes from those that follow it -/
def Parameter.taken? (p : Parameter) (rest : Roled) : Option Nat :=
  let n := (rest.takeWhile isPlain).length
  match p.arity with
  | .none => some 0
  | .atMostOne => some (min n 1)
  | .one => if n == 0 then none else some 1
  | _ => if n == 0 then none else some n

/-- what is said by the options in one argument, and the arguments that follow and are not taken.
Short options without arguments may share an argument, so what is attached to one must go on with
another; `fuel` bounds their number. The divider says nothing where it is attached to an option. -/
def Grammar.readOption (g : Grammar) (fuel : Nat) (m : Match) (rest : Roled) :
    Except Misuse (List Saying × Roled) :=
  match fuel with
  | 0 => .ok ([], rest)
  | n + 1 =>
    let p := m.parameter
    match m.attached with
    | none =>
      match p.taken? rest with
      | none => .error (.noArgument p)
      | some k => .ok ([(p, (rest.take k).map (·.1))], rest.drop k)
    | some attached =>
      if p.arity != .none then .ok ([(p, [attached].erase "--")], rest)
      else
        match beginsWith m.name "--", attached.toList with
        | false, c :: more =>
          let name := String.ofList ['-', c]
          match g.optionNames.lookup name with
          | none => .error (.ignoredArgument p attached)
          | some q => do
            let next : Match := ⟨q, name, if more.isEmpty then none else some (String.ofList more)⟩
            let (sayings, left) ← g.readOption n next rest
            .ok ((p, []) :: sayings, left)
        | _, _ => .error (.ignoredArgument p attached)

/-- arguments that an operand takes, and those that are left; none if it cannot take any -/
def Parameter.takeOperand? (p : Parameter) (rest : Roled) : Option (List String × Roled) :=
  let dividers := rest.takeWhile isDivider
  let after := rest.drop dividers.length
  match p.arity with
  | .rest => if after.head?.any isPlain then some (rest.map (·.1), []) else none
  | _ =>
    let own := (after.take 1).takeWhile isPlain
    let tail := (after.drop own.length).takeWhile isDivider
    let taken := dividers ++ own ++ tail
    some ((taken.map (·.1)).erase "--", rest.drop taken.length)

/-- refuses arguments that are no choices, and stops where the help or the version is asked for -/
def Grammar.accept (g : Grammar) (s : Saying) : Except Stop Unit :=
  let checked := if s.1.arity == .rest then s.2.take 1 else s.2
  match checked.find? fun a => !s.1.choices.isEmpty && !s.1.choices.contains a with
  | some a => .error (.misuse g (.noChoice s.1 a))
  | none =>
    match s.1.key with
    | .help => .error (.help g)
    | .version => .error .version
    | _ => .ok ()

/-- what has been read: what was said, and the arguments that have no place -/
structure Reading where
  sayings : List Saying := []
  unknown : List String := []

def Grammar.acceptAll (g : Grammar) (r : Reading) : List Saying → Except Stop Reading
  | [] => .ok r
  | s :: rest => do
    g.accept s
    g.acceptAll { r with sayings := r.sayings ++ [s] } rest

def Grammar.readLast (g : Grammar) (r : Reading) (operands : List Parameter) (rest : Roled) :
    Except Stop Reading :=
  match operands with
  | [] => .ok { r with unknown := r.unknown ++ rest.map (·.1) }
  | p :: ps =>
    match p.takeOperand? rest with
    | some (arguments, left) => do g.readLast (← g.acceptAll r [(p, arguments)]) ps left
    | none => .ok { r with unknown := r.unknown ++ rest.map (·.1) }

/-- reads arguments that have roles; `fuel` bounds their number -/
def Grammar.readRoled (g : Grammar) (fuel : Nat) (r : Reading) (operands : List Parameter)
    (rest : Roled) : Except Stop Reading :=
  match fuel with
  | 0 => .ok r
  | n + 1 =>
    if !rest.any isOptionLike then g.readLast r operands rest
    else
      match rest with
      | [] => .ok r
      | (_, .option m) :: more =>
        match g.readOption (m.name.length + (m.attached.getD "").length + 1) m more with
        | .error misuse => .error (.misuse g misuse)
        | .ok (sayings, left) => do g.readRoled n (← g.acceptAll r sayings) operands left
      | (s, .unknownOption) :: more =>
        g.readRoled n { r with unknown := r.unknown ++ [s] } operands more
      | rest =>
        let before := rest.takeWhile fun a => !isOptionLike a
        match operands with
        | p :: ps =>
          match p.takeOperand? rest with
          | some (arguments, left) => do
            g.readRoled n (← g.acceptAll r [(p, arguments)]) ps left
          | none =>
            g.readRoled n { r with unknown := r.unknown ++ before.map (·.1) } operands
              (rest.drop before.length)
        | [] =>
          g.readRoled n { r with unknown := r.unknown ++ before.map (·.1) } []
            (rest.drop before.length)

/-- names of operands that are required and were not said -/
def Grammar.unsaid (g : Grammar) (r : Reading) : List String :=
  (g.operands.filter fun p => p.arity == .rest && !r.sayings.any fun s => s.1.key == p.key).map
    (·.name)

def Grammar.read (g : Grammar) (arguments : List String) : Except Stop Reading := do
  let roled ← (g.classifyAll arguments).mapError (Stop.misuse g)
  let r ← g.readRoled (2 * arguments.length + 2) {} g.operands roled
  let unsaid := g.unsaid r
  if unsaid.isEmpty then .ok r else .error (.misuse g (.required unsaid))

/-! ### What was said -/

/-- the arguments of the last saying of a parameter -/
def Reading.last? (r : Reading) (k : Key) : Option (List String) :=
  (r.sayings.reverse.find? fun s => s.1.key == k).map (·.2)

/-- the single argument of a parameter -/
def Reading.argument? (r : Reading) (k : Key) : Option String := (r.last? k).bind List.head?

def Reading.count (r : Reading) (k : Key) : Nat := r.sayings.countP fun s => s.1.key == k

def Reading.has (r : Reading) (k : Key) : Bool := r.count k != 0

end EndpointScaffold.CommandLine
