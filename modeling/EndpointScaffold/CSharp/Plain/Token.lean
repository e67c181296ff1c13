import EndpointScaffold.CSharp.Lexeme
import EndpointScaffold.CSharp.Rulebook
import EndpointScaffold.CSharp.Tree

/-!
# Tokens of plain source

Most source is plain: declarations of classes with simple members, written with words, decimal
numbers, simple strings and a few marks. Such source is read directly, without the table of the
grammar. Here are its tokens.

* `tokens?` the tokens of a text, each with the comments before it; none if the text is not plain.

Nothing is guessed: where a character could belong to a token that is not plain, there are no tokens
at all.
-/

namespace EndpointScaffold.CSharp.Plain

open Text

inductive TokenKind where
  | word
  | integer
  /-- a string in quotes -/
  | quoted
  | mark
  /-- the end of the text -/
  | stop
  deriving DecidableEq, Repr

structure Token where
  /-- comments before it -/
  lead : List Tree
  /-- blanks before it -/
  gap : String
  kind : TokenKind
  /-- what it is made of; of a string what stands between its quotes -/
  text : String
  deriving Repr

/-! ### Words -/

/-- words that have a meaning somewhere, so that they are no plain names. Marks of the encoding of a
string are not among them: they have one only behind a string, where no name of plain source
stands. -/
def reservedWords : List String := predefinedTypes ++ [
  "_", "__makeref", "__reftype", "__refvalue", "abstract", "add", "alias", "and", "annotations",
  "as", "ascending", "assembly", "async", "await", "base", "break", "by", "case", "catch",
  "checked", "checksum", "class", "const", "continue", "default", "delegate", "descending",
  "disable", "do", "else", "enable", "enum", "equals", "event", "explicit", "extern", "false",
  "field", "file", "finally", "fixed", "for", "foreach", "from", "get", "global", "goto", "group",
  "hidden", "if", "implicit", "in", "init", "interface", "internal", "into", "is", "join", "let",
  "lock", "managed", "method", "module", "namespace", "new", "not", "notnull", "null", "on",
  "operator", "or", "orderby", "out", "override", "param", "params", "partial", "private",
  "property", "protected", "public", "readonly", "record", "ref", "remove", "required", "restore",
  "return", "scoped", "sealed", "select", "set", "sizeof", "stackalloc", "static", "struct",
  "switch", "this", "throw", "true", "try", "type", "typeof", "typevar", "unchecked", "unmanaged",
  "unsafe", "using", "var", "virtual", "volatile", "warning", "warnings", "when", "where", "while",
  "with", "yield"]

def isName (word : String) : Bool := !reservedWords.contains word

def isWordStart (c : Char) : Bool := isAsciiLetter c || c == '_'

def isWordPart (c : Char) : Bool := isAsciiLetter c || c == '_' || isAsciiDigit c

/-! ### Single tokens -/

def marks : List Char := ['{', '}', '(', ')', '[', ']', ';', ',', '.', '<', '>', '=', '?', ':', '-']

/-- whether a mark and a character after it could belong together -/
def joins (c d : Char) : Bool :=
  match c with
  | '.' => d == '.' || isAsciiDigit d
  | '?' => d == '.' || d == '?' || d == '['
  | ':' => d == ':'
  | '<' => d == '<' || d == '='
  | '>' | '=' => d == '='
  | '-' => d == '-' || d == '=' || d == '>'
  | _ => false

/-- characters of a plain string -/
def isQuotable (c : Char) : Bool := c != '"' && c != '\\' && c != '\n' && c != '\x00'

/-- the token that a text begins with, and the rest -/
def splitToken? : List Char → Option (TokenKind × List Char × List Char)
  | [] => none
  | '"' :: cs =>
    match cs.dropWhile isQuotable with
    | '"' :: rest =>
      if rest.head?.any isWordStart then none
      else some (.quoted, cs.takeWhile isQuotable, rest)
    | _ => none
  | '=' :: '>' :: cs => some (.mark, ['=', '>'], cs)
  | c :: cs =>
    if isWordStart c then
      some (.word, c :: cs.takeWhile isWordPart, cs.dropWhile isWordPart)
    else if isAsciiDigit c then
      let rest := cs.dropWhile isAsciiDigit
      if rest.head?.any fun d => isWordPart d || d == '.' then none
      else some (.integer, c :: cs.takeWhile isAsciiDigit, rest)
    else if marks.contains c && !cs.head?.any (joins c) then some (.mark, [c], cs)
    else none

/-! ### Comments -/

def isInLine (c : Char) : Bool := c != '\n' && c != '\r' && c != '\x00'

/-- splits a text after the first `*/` -/
def splitComment? : List Char → Option (List Char × List Char)
  | '*' :: '/' :: cs => some (['*', '/'], cs)
  | '\x00' :: _ => none
  | c :: cs => (splitComment? cs).map fun r => (c :: r.1, r.2)
  | [] => none

def comment (gap text : List Char) : Tree :=
  .leaf none .comment (String.ofList gap) (String.ofList text)

/-! ### Whole texts -/

/-- the tokens of a text; `lead` are the comments just before it -/
def tokensFrom? : Nat → List Tree → List Char → Option (List Token)
  | 0, _, _ => none
  | fuel + 1, lead, cs =>
    let gap := cs.takeWhile isSpace
    match cs.dropWhile isSpace with
    | [] => some [⟨lead, String.ofList gap, .stop, ""⟩]
    | '/' :: '/' :: rest =>
      tokensFrom? fuel (lead ++ [comment gap ('/' :: '/' :: rest.takeWhile isInLine)])
        (rest.dropWhile isInLine)
    | '/' :: '*' :: rest =>
      (splitComment? rest).bind fun r =>
        tokensFrom? fuel (lead ++ [comment gap ('/' :: '*' :: r.1)]) r.2
    | rest =>
      (splitToken? rest).bind fun r =>
        (tokensFrom? fuel [] r.2.2).map
          (⟨lead, String.ofList gap, r.1, String.ofList r.2.1⟩ :: ·)

def tokens? (cs : List Char) : Option (List Token) := tokensFrom? (cs.length + 1) [] cs

end EndpointScaffold.CSharp.Plain
