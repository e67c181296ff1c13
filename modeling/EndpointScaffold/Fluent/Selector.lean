import EndpointScaffold.Text.Trim

/-!
# Selectors

A selector is a lambda that picks members of its parameter: `x => x.Total` picks one, and
`x => new { x.OrderId, x.LineNo }` picks several. The parameter may stand in parentheses, and blanks
may stand between all tokens.

* `memberOf? e` the one member that `e` picks;
* `membersOf e` all members that `e` picks, none if any part is not of this form.
-/

namespace EndpointScaffold.Fluent

open Text

def isNameStart (c : Char) : Bool := isAsciiLetter c || c == '_'

/-- a name at the start of a text, and what follows it -/
def takeName : List Char → Option (List Char × List Char)
  | [] => none
  | c :: cs =>
    if isNameStart c then some (c :: cs.takeWhile isWordChar, cs.dropWhile isWordChar) else none

def skipBlanks (cs : List Char) : List Char := cs.dropWhile isBlank

/-- the parameter of a lambda, with or without parentheses, and what follows it -/
def takeParameter (cs : List Char) : Option (List Char × List Char) :=
  match skipBlanks cs with
  | '(' :: rest => do
    let (name, rest) ← takeName (skipBlanks rest)
    match skipBlanks rest with
    | ')' :: rest => some (name, rest)
    | _ => none
  | rest => takeName rest

/-- parameter and body of a lambda -/
def lambdaParts? (cs : List Char) : Option (List Char × List Char) := do
  let (name, rest) ← takeParameter cs
  match skipBlanks rest with
  | '=' :: '>' :: body => some (name, dropAround isBlank body)
  | _ => none

/-- the rest of a text after `start` -/
def dropStart? : List Char → List Char → Option (List Char)
  | [], cs => some cs
  | _ :: _, [] => none
  | a :: start, c :: cs => if a = c then dropStart? start cs else none

/-- a name that may follow an `@`, as a whole text -/
def wholeName? (cs : List Char) : Option (List Char) :=
  let (at?, rest) := match cs with
    | '@' :: rest => (['@'], rest)
    | rest => ([], rest)
  match takeName rest with
  | some (name, []) => some (at? ++ name)
  | _ => none

/-- the member in `x.Member`, where `x` is the parameter -/
def accessedMember? (parameter access : List Char) : Option (List Char) := do
  let rest ← dropStart? parameter (dropAround isBlank access)
  match skipBlanks rest with
  | '.' :: rest => wholeName? (skipBlanks rest)
  | _ => none

/-- what stands between the braces of `new { … }` -/
def anonymousObject? (body : List Char) : Option (List Char) := do
  let rest ← dropStart? ['n', 'e', 'w'] body
  match skipBlanks rest with
  | '{' :: rest => if rest.getLast? = some '}' then some rest.dropLast else none
  | _ => none

/-- members of all parts, if every part is an access -/
def accessedMembers? (parameter : List Char) (parts : List (List Char)) :
    Option (List (List Char)) :=
  parts.mapM (accessedMember? parameter)

def memberOf? (expression : String) : Option String := do
  let (parameter, body) ← lambdaParts? expression.toList
  (accessedMember? parameter body).map String.ofList

def membersOf (expression : String) : List String :=
  match lambdaParts? expression.toList with
  | none => []
  | some (parameter, body) =>
    match accessedMember? parameter body with
    | some m => [String.ofList m]
    | none =>
      match anonymousObject? body with
      | none => []
      | some inside =>
        let parts := (splitChars ',' inside).filter fun part => !part.all isBlank
        ((accessedMembers? parameter parts).getD []).map String.ofList

end EndpointScaffold.Fluent
