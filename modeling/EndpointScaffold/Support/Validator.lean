import EndpointScaffold.Decimal.Reading
import EndpointScaffold.Entity.Basic
import EndpointScaffold.Support.Contracts
import EndpointScaffold.Text.Trim

/-!
# Rules of fields and validators

What a validator asks of a field, read from the tokens of its property: that it is there, and how
long it may be. Tokens are read in order and a later one overrides an earlier one of its kind.

* `isRequiredToken` `Required`, `RequiredAttribute`, either with arguments, or `IsRequired()`;
* `isOptionalToken` `IsRequired(false)`;
* `lengthDigits?` the digits that a length token starts its arguments with.
-/

namespace EndpointScaffold.Support

open Decimal Text

/-! ### Tokens -/

def dropWord? (word : String) (cs : List Char) : Option (List Char) :=
  if word.toList.isPrefixOf cs then some (cs.drop word.length) else none

def skipBlanks (cs : List Char) : List Char := cs.dropWhile isBlank

/-- what follows an opening parenthesis after blanks -/
def afterOpening? (cs : List Char) : Option (List Char) :=
  match skipBlanks cs with
  | '(' :: rest => some rest
  | _ => none

def isClosing (cs : List Char) : Bool := cs == [')']

/-- whether `cs` is nothing, or a parenthesis after blanks that is closed at the very end -/
def isArgumentList (cs : List Char) : Bool :=
  cs.isEmpty ||
    match afterOpening? cs with
    | some rest => rest.getLast? == some ')'
    | none => false

def isCallWith (word : String) (cs : List Char) : Bool :=
  match afterOpening? cs with
  | some rest =>
    match dropWord? word (skipBlanks rest) with
    | some more => isClosing (skipBlanks more)
    | none => false
  | none => false

/-- whether a token without blanks around it makes the field required -/
def isRequiredToken (cs : List Char) : Bool :=
  (match dropWord? "Required" cs with
    | some rest => isArgumentList rest || (dropWord? "Attribute" rest).any isArgumentList
    | none => false)
  || (dropWord? "IsRequired" cs).any fun rest => isCallWith "true" rest || isCallWith "" rest

/-- whether a token without blanks around it makes the field optional -/
def isOptionalToken (cs : List Char) : Bool :=
  (dropWord? "IsRequired" cs).any (isCallWith "false")

/-- digits that the arguments of a length token start with -/
def lengthDigits? (cs : List Char) : Option (List Char) :=
  ["MaxLength", "StringLength", "HasMaxLength"].findSome? fun word => do
    let rest ← dropWord? word cs
    let arguments ← afterOpening? rest
    let digits := (skipBlanks arguments).takeWhile isDecimalDigit
    if digits.isEmpty then none else some digits

/-! ### Rules -/

structure FieldRules where
  required : Bool
  maxLength : Option Nat
  deriving DecidableEq, Repr

def FieldRules.isEmpty (r : FieldRules) : Bool := !r.required && r.maxLength.isNone

def FieldRules.read (r : FieldRules) (token : String) : Except LongNumber FieldRules :=
  let cs := dropAround isBlank token.toList
  if isOptionalToken cs then .ok { r with required := false }
  else if isRequiredToken cs then .ok { r with required := true }
  else
    match lengthDigits? cs with
    | none => .ok r
    | some digits =>
      if digitLimit < digits.length then .error ⟨digits.length⟩
      else .ok { r with maxLength := some (digitsValue 10 digits) }

def FieldRules.ofTokens (tokens : List String) : Except LongNumber FieldRules :=
  tokens.foldlM FieldRules.read ⟨false, none⟩

end EndpointScaffold.Support

/-!
## Validators

A validator holds a line for every member of a request that is required or has a greatest length.
Only texts have lengths.
-/

namespace EndpointScaffold.Support

open Text

def ruleCalls (type : String) (r : FieldRules) : List String :=
  (if r.required then [".NotEmpty()"] else [])
  ++ match r.maxLength with
    | some n =>
      if isTextType (trimEndOf '?' type) then [".MaximumLength(" ++ toString n ++ ")"] else []
    | none => []

/-- line of one property; none if there is nothing to state -/
def ruleLine? (p : Entity.Property) : Except Decimal.LongNumber (Option String) :=
  (FieldRules.ofTokens p.attributes).map fun r =>
    match ruleCalls p.type r with
    | [] => none
    | calls => some ("RuleFor(x => x." ++ p.name ++ ")" ++ String.join calls ++ ";")

def ruleLines (ps : List Entity.Property) : Except Decimal.LongNumber (List String) :=
  (ps.mapM ruleLine?).map fun lines => lines.filterMap id

def validatorText (c : Config) (e : Entity) (request : Contract) : Except Decimal.LongNumber String :=
  (ruleLines request.members).map fun rules =>
    ofLines (header ["FastEndpoints", "FluentValidation", entityNamespace c e]
        (validatorNamespace c e)
      ++ ["public sealed class " ++ request.name ++ "Validator : Validator<" ++ request.name ++ ">",
        "\x7b", "    public " ++ request.name ++ "Validator()", "    \x7b"]
      ++ indented 2 rules
      ++ ["    \x7d", "\x7d", ""])

end EndpointScaffold.Support
