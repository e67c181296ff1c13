import EndpointScaffold.CSharp.Tree

/-!
# Classes, properties and methods

`Tree.classes` lists every class that has a name and a body, an outer class before the classes
inside it, wherever they stand: in namespaces, in other types, in conditional parts and in damaged
text. Records are no classes.

The namespace of a class is the one of the innermost namespace around it, else the one that the file
declares for all of it.

Nothing is interpreted: names, types and attributes are kept as they are written.
-/

namespace EndpointScaffold.CSharp

structure PropertyDeclaration where
  name : String
  type : String
  modifiers : List String
  attributes : List String
  deriving DecidableEq, Repr

def PropertyDeclaration.isPublic (p : PropertyDeclaration) : Bool := p.modifiers.contains "public"

structure ClassDeclaration where
  name : String
  modifiers : List String
  bases : List String
  namespaceName : Option String
  body : Tree
  named : ¬ name.isEmpty

/-- nothing for an empty text -/
def nonEmpty? (s : String) : Option String := if s.isEmpty then none else some s

namespace Tree

/-! ### Parts of declarations -/

def modifiers (t : Tree) : List String := t.textsOf .modifier

/-- attributes without their brackets -/
def attributes (t : Tree) : List String :=
  (t.parts.filter (hasKind .attributeList)).flatMap (textsOf .attribute)

/-- the base types of a class, as entries of its base list; comments are none -/
def bases (t : Tree) : List String :=
  match t.parts.find? (hasKind .baseList) with
  | none => []
  | some list =>
    (list.parts.filter fun b => b.kind.isNamed && !b.hasKind .comment).map text

/-- the property that a tree declares, if it has a name and a type -/
def property? (t : Tree) : Option PropertyDeclaration :=
  if t.kind != .propertyDeclaration then none
  else
    match t.part? .type, t.part? .name with
    | some type, some name => some ⟨name.text, type.text, t.modifiers, t.attributes⟩
    | _, _ => none

/-- the class that a tree declares in a namespace, if it has a name and a body -/
def class? (space : Option String) (t : Tree) : Option ClassDeclaration :=
  if t.kind != .classDeclaration then none
  else if named : (t.partText .name).isEmpty then none
  else (t.part? .body).map fun body => ⟨t.partText .name, t.modifiers, t.bases, space, body, named⟩

/-! ### Namespaces -/

/-- the name of a namespace; none if the text lacks it -/
def namespaceName? (t : Tree) : Option String := nonEmpty? (t.partText .name)

mutual
def fileNamespaces : Tree → List Tree
  | node l k ps =>
    let inner := fileNamespacesOfAll ps
    if k = .fileNamespace then node l k ps :: inner else inner
  | _ => []

def fileNamespacesOfAll : List Tree → List Tree
  | [] => []
  | t :: ts => fileNamespaces t ++ fileNamespacesOfAll ts
end

def fileNamespace? (t : Tree) : Option String := t.fileNamespaces.head?.bind namespaceName?

/-! ### Classes -/

mutual
/-- declarations of classes with the namespaces around them; `space` is the one around the tree -/
def classTrees (space : Option String) : Tree → List (Option String × Tree)
  | node l k ps =>
    let t := node l k ps
    let inner := classTreesOfAll (if k.isNamespace then t.namespaceName? else space) ps
    if k = .classDeclaration then (space, t) :: inner else inner
  | _ => []

def classTreesOfAll (space : Option String) : List Tree → List (Option String × Tree)
  | [] => []
  | t :: ts => classTrees space t ++ classTreesOfAll space ts
end

/-- declarations of classes in source order, with their namespaces -/
def declaredClasses (t : Tree) : List (Option String × Tree) := classTrees t.fileNamespace? t

def classes (t : Tree) : List ClassDeclaration :=
  t.declaredClasses.filterMap fun c => c.2.class? c.1

/-- names of the classes that lack a name or a body, in source order -/
def incompleteClasses (t : Tree) : List String :=
  (t.declaredClasses.filter fun c => (c.2.class? c.1).isNone).map fun c => c.2.partText .name

end Tree

namespace ClassDeclaration

def isAbstract (c : ClassDeclaration) : Bool := c.modifiers.contains "abstract"

/-- properties declared directly in the class, in source order -/
def properties (c : ClassDeclaration) : List PropertyDeclaration :=
  c.body.members.filterMap Tree.property?

def methods (c : ClassDeclaration) : List Tree :=
  c.body.members.filter (Tree.hasKind .methodDeclaration)

/-- body of the first method called `name` that has one -/
def methodBody? (c : ClassDeclaration) (name : String) : Option Tree :=
  (c.methods.filter fun m => m.partText .name == name).findSome? fun m =>
    m.parts.find? fun p => p.kind.isMethodBody

end ClassDeclaration

end EndpointScaffold.CSharp
