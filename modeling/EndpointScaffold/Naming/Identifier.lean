import EndpointScaffold.Text.Trim

/-!
# Identifiers and namespaces of C#

An identifier is an ASCII letter or an underscore followed by ASCII letters, digits and underscores,
after an optional `@`. Without the `@` it must not be a reserved word. One line feed at the very end
is overlooked by the shape, and then belongs to the word that is compared with the reserved ones.
-/

namespace EndpointScaffold.Naming

open Text

/-- words that name something only after an `@` -/
def reservedWords : List String := [
  "abstract", "as", "base", "bool", "break", "byte", "case", "catch", "char", "checked", "class",
  "const", "continue", "decimal", "default", "delegate", "do", "double", "else", "enum", "event",
  "explicit", "extern", "false", "finally", "fixed", "float", "for", "foreach", "goto", "if",
  "implicit", "in", "int", "interface", "internal", "is", "lock", "long", "namespace", "new",
  "null", "object", "operator", "out", "override", "params", "private", "protected", "public",
  "readonly", "ref", "return", "sbyte", "sealed", "short", "sizeof", "stackalloc", "static",
  "string", "struct", "switch", "this", "throw", "true", "try", "typeof", "uint", "ulong",
  "unchecked", "unsafe", "ushort", "using", "virtual", "void", "volatile", "while"]

def isIdentifierStart (c : Char) : Bool := isAsciiLetter c || c == '_'

def isIdentifierPart (c : Char) : Bool := isIdentifierStart c || isAsciiDigit c

/-- a start character followed by part characters -/
def isPlainWord : List Char → Bool
  | [] => false
  | c :: cs => isIdentifierStart c && cs.all isIdentifierPart

/-- a plain word, possibly after an `@` -/
def hasIdentifierShape : List Char → Bool
  | '@' :: cs => isPlainWord cs
  | cs => isPlainWord cs

/-- whether `name` can name a type, a member or a part of a namespace -/
def isIdentifier (name : String) : Bool :=
  hasIdentifierShape (dropFinalLineFeed name.toList)
    && (name.toList.head? == some '@' || !reservedWords.contains name)

/-- whether `name` is a sequence of identifiers with points between them -/
def isNamespace (name : String) : Bool :=
  !name.isEmpty && (split '.' name).all isIdentifier

end EndpointScaffold.Naming
