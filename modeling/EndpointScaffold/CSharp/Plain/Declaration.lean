import EndpointScaffold.CSharp.Plain.Expression

/-!
# Declarations of plain source

Plain source has directives for the use of namespaces, then a namespace for the whole file or
namespaces in braces, and classes. A plain class has properties, methods and classes in it; the body
of a plain method is a list of calls.

* `tree?` the tree of a plain text; none if the text is not plain.
-/

namespace EndpointScaffold.CSharp.Plain

/-! ### Headers -/

/-- a name with points, from the part before the next point on -/
def dotted : Nat → Part → Reads Part
  | 0, _ => failure
  | fuel + 1, left => do
    if ← isMarkNext "." then
      let dot ← mark "."
      let member ← name
      dotted fuel (.node .other [left, dot, member.as .name])
    else pure left

def dottedName (fuel : Nat) : Reads Part := do
  let first ← name
  dotted fuel first

def attributeArguments (fuel : Nat) : Reads Part :=
  parenthesized (do pure (.node .other [← literal])) fuel

def attributeList (fuel : Nat) : Reads Part := do
  let left ← mark "["
  let n ← name
  let arguments ← if ← isMarkNext "(" then pure [← attributeArguments fuel] else pure []
  let right ← mark "]"
  pure (.node .attributeList [left, .node .attribute (n.as .name :: arguments), right])

def plainModifiers : List String := [
  "public", "private", "protected", "internal", "static", "abstract", "sealed", "virtual",
  "override"]

def modifier : Reads Part := do
  pure (.node .modifier [(← token .word plainModifiers.contains).leaf .mark])

/-- attributes and modifiers before a declaration -/
def header (fuel : Nat) : Reads (List Part) := do
  let attributes ← repeated (isMarkNext "[") (attributeList fuel) fuel
  let modifiers ← repeated (isNext .word plainModifiers.contains) modifier fuel
  pure (attributes ++ modifiers)

/-! ### Members -/

def isAccessor (w : String) : Bool := w == "get" || w == "set" || w == "init"

def accessor : Reads Part := do
  let keyword := (← token .word isAccessor).leaf .mark
  pure (.node .other [keyword.as .name, ← mark ";"])

/-- the accessors of a property, and its value if it has one -/
def propertyRest (fuel : Nat) : Reads (List Part) := do
  let left ← mark "\x7b"
  let first ← accessor
  let more ← repeated (isNext .word isAccessor) accessor fuel
  let right ← mark "\x7d"
  let accessors : Part := .node .other (left :: first :: more ++ [right])
  if ← isMarkNext "=" then
    let equals ← mark "="
    let value ← literal
    pure [accessors, equals, value, ← mark ";"]
  else pure [accessors]

def parameter (fuel : Nat) : Reads Part := do
  let t ← type fuel
  let n ← name
  pure (.node .other [t.as .type, n.as .name])

def parameters (fuel : Nat) : Reads Part := parenthesized (parameter fuel) fuel

def isCall (p : Part) : Bool := p.tree.hasKind .invocation

def statement (fuel : Nat) : Reads Part := do
  let call ← guarded isCall (chain fuel)
  pure (.node .other [call, ← mark ";"])

def block (fuel : Nat) : Reads Part := do
  pure (.node .block (← braced (isNext .word isName) (statement fuel) fuel))

/-- a property or a method behind its attributes and modifiers -/
def memberRest (fuel : Nat) (front : List Part) : Reads Part := do
  let t ← type fuel
  let n ← name
  if ← isMarkNext "(" then
    let ps ← parameters fuel
    let body ← block fuel
    pure (.node .methodDeclaration (front ++ [t, n.as .name, ps, body.as .body]))
  else
    pure (.node .propertyDeclaration (front ++ t.as .type :: n.as .name :: (← propertyRest fuel)))

/-! ### Classes and namespaces -/

def omittedSemicolon : Part := ⟨[], .leaf none .hidden "" ""⟩

/-- the base types of a class -/
def baseList (fuel : Nat) : Reads (List Part) := do
  if ← isMarkNext ":" then
    let colon ← mark ":"
    pure [.node .baseList (colon :: (← listed (type fuel) fuel))]
  else pure []

/-- whether the braces around declarations go on -/
def isOpen : Reads Bool := do pure (!(← isMarkNext "\x7d"))

mutual
/-- a class behind its attributes and modifiers -/
def classRest : Nat → List Part → Reads Part
  | 0, _ => failure
  | fuel + 1, front => do
    let keyword ← word "class"
    let n ← name
    let bases ← baseList fuel
    let body : Part := .node .other (← braced isOpen (member fuel) fuel)
    pure (.node .classDeclaration
      (front ++ keyword :: n.as .name :: bases ++ [body.as .body, omittedSemicolon]))

def member : Nat → Reads Part
  | 0 => failure
  | fuel + 1 => do
    let front ← header fuel
    if ← isWordNext "class" then classRest fuel front else memberRest fuel front
end

/-- a class, or a namespace in braces -/
def declaration : Nat → Reads Part
  | 0 => failure
  | fuel + 1 => do
    if ← isWordNext "namespace" then
      let keyword ← word "namespace"
      let n ← dottedName fuel
      let body : Part := .node .other (← braced isOpen (declaration fuel) fuel)
      pure (.node .namespaceDeclaration [keyword, n.as .name, body.as .body, omittedSemicolon])
    else
      let front ← header fuel
      classRest fuel front

/-! ### Whole texts -/

def usingDirective (fuel : Nat) : Reads Part := do
  let keyword ← word "using"
  let n ← dottedName fuel
  pure (.node .other [keyword, n, ← mark ";"])

/-- whether the file has one namespace: a name and a semicolon follow the word -/
def declaresFileNamespace : List Token → Bool
  | t :: ts =>
    t.kind == .word && t.text == "namespace" &&
      (ts.find? fun u => u.kind == .mark && u.text != ".").any (·.text == ";")
  | [] => false

def fileNamespace (fuel : Nat) : Reads (List Part) := do
  if declaresFileNamespace (← get) then
    let keyword ← word "namespace"
    let n ← dottedName fuel
    pure [.node .fileNamespace [keyword, n.as .name, ← mark ";"]]
  else pure []

def isAtEnd : Reads Bool := isNext .stop fun _ => true

def unit (fuel : Nat) : Reads (List Part) := do
  let usings ← repeated (isWordNext "using") (usingDirective fuel) fuel
  let space ← fileNamespace fuel
  let declarations ← repeated (do pure (!(← isAtEnd))) (declaration fuel) fuel
  let stop := (← token .stop fun _ => true).leaf .hidden
  pure (usings ++ space ++ declarations ++ [stop])

/-- the tree of a plain text -/
def tree? (source : String) : Option Tree := do
  let ts ← tokens? source.toList
  let (parts, _) ← unit (ts.length + 1) ts
  if parts.length = 1 then none else some (.node none .other (Part.trees parts))

end EndpointScaffold.CSharp.Plain
