import EndpointScaffold.Text.Trim

/-!
# Configured entities

A class configures the entity that its base type `IEntityTypeConfiguration<T>` names. The base type
may be qualified with points. Of its type arguments the text up to the first comma counts.
-/

namespace EndpointScaffold.Fluent

open Text

def configurationInterface : List Char := "IEntityTypeConfiguration".toList

/-- name and type arguments of a generic type, without its qualifier -/
def genericParts? (cs : List Char) : Option (List Char × List Char) :=
  let cs := dropAround isBlank cs
  let left := dropEndWhile isBlank (cs.takeWhile (· != '<'))
  match cs.dropWhile (· != '<') with
  | _ :: inside =>
    let name := (left.reverse.takeWhile isWordChar).reverse
    let qualifier := left.take (left.length - name.length)
    if inside.getLast? = some '>' && !name.isEmpty
        && left.all (fun c => isWordChar c || c == '.') && qualifier.length != 1 then
      some (name, inside.dropLast)
    else none
  | [] => none

def configuredEntity? (bases : List String) : Option String :=
  match (bases.filterMap fun b => genericParts? b.toList).find? (·.1 == configurationInterface) with
  | none => none
  | some (_, arguments) =>
    let entity := dropAround isBlank (arguments.takeWhile (· != ','))
    if entity.isEmpty then none else some (String.ofList entity)

end EndpointScaffold.Fluent
