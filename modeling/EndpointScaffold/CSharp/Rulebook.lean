import EndpointScaffold.CSharp.Rules.Declarations
import EndpointScaffold.CSharp.Rules.Statements
import EndpointScaffold.CSharp.Rules.Expressions
import EndpointScaffold.CSharp.Rules.Types
import EndpointScaffold.Grammar.Table

/-!
# The grammar of C#

All rules together, with the tokens that need more than a pattern (a semicolon that may be left out,
and the parts of interpolated and raw strings), and with what may stand anywhere.
-/

namespace EndpointScaffold.CSharp

open Grammar Rules

/-- tokens found by `Interpolation.scan`, and whether they are hidden -/
def specialTokens : List (String × Bool) := [
  ("optionalSemi", true), ("interpolationRegularStart", false),
  ("interpolationVerbatimStart", false), ("interpolationRawStart", false),
  ("interpolationStartQuote", false), ("interpolationEndQuote", false),
  ("interpolationOpenBrace", false), ("interpolationCloseBrace", false),
  ("interpolationStringContent", false), ("rawStringStart", false), ("rawStringEnd", false),
  ("rawStringContent", false)]

/-- names of the types that the language itself has -/
def predefinedTypes : List String := [
  "bool", "byte", "char", "decimal", "double", "float", "int", "long", "object", "sbyte", "short",
  "string", "uint", "ulong", "ushort", "nint", "nuint", "void"]

/-- marks of the encoding of a string, which stand behind it -/
def stringEncodings : List String := ["u8", "U8"]

def rulebook : Rulebook where
  definitions := declarations ++ types ++ statements ++ patterns ++ expressions ++ literals
    ++ conditionals ++ directives
  special := specialTokens
  extras := [
    "comment", "regionDirective", "endregionDirective", "lineDirective", "pragmaDirective",
    "nullableDirective", "errorDirective", "warningDirective", "defineDirective",
    "undefDirective"]
  inlined := [
    "namespaceMemberDeclaration", "nullableBaseType", "parameterTypeWithModifiers",
    "topLevelItemNoStatement"]
  word := "word"
  wordPatterns := [
    ("predefinedType", predefinedTypes), ("stringLiteralEncoding", stringEncodings)]
  preferences := [
    ("anonymousObjectMemberDeclarator", "simpleName"), ("block", "initializerExpression")]

end EndpointScaffold.CSharp

/-!
## Tokens that can be confused

States of the automaton are merged only where no token comes to be expected beside one that it could
be confused with. That is so where the text of the one can begin with the other and go on with what
may follow it, as in `>=` and `>`, and for all tokens whose text is nearly free.
-/

namespace EndpointScaffold.CSharp

open Grammar

/-- patterns whose tokens must join no other token -/
def separatePatterns : List String :=
  ["formatText", "characterLiteralContent", "stringContent", "lineEnd", "directiveText"]

/-- patterns that match nearly any text, whose tokens no other token must join -/
def freePatterns : List String := ["formatText", "characterLiteralContent", "directiveText"]

/-- pairs of tokens of which the first must not join the second -/
def overlaps : List (String × String) := [
  ("word", "escapeSequence"), ("assembly", "as"), ("interface", "in"),
  ("interface", "predefinedType"), ("async", "as"), ("internal", "in"),
  ("internal", "predefinedType"), ("notnull", "not"), ("++", "+"), ("--", "-"), (">>", ">"),
  (">>>", ">"), ("!=", "!"), (">=", ">"), ("init", "in"), ("::", ":"), ("predefinedType", "in"),
  ("predefinedType", "do"), ("predefinedType", "by"), ("*=", "*"), (">>=", ">"), (">>>=", ">"),
  ("??=", "?"), ("&&", "&"), ("??", "?"), ("into", "in"), ("into", "predefinedType"),
  ("orderby", "or"), ("ascending", "as"), ("realLiteral", "integerLiteral"), ("comment", "/")]

/-- plain tokens of the given texts and patterns -/
def tokensNamed (l : Language) (names : List String) : List Nat :=
  (List.range l.plainEnd).filter fun n =>
    (l.entry n).form.any fun f => names.contains f.name

/-- pairs of tokens of which the first must not join the second -/
def overlappingTokens (l : Language) : List (Nat × Nat) :=
  let plain := (List.range l.plainEnd).drop 1
  let others := fun a : Nat => plain.filter (· != a)
  (overlaps.flatMap fun p =>
    (tokensNamed l [p.1]).flatMap fun a => (tokensNamed l [p.2]).map fun b => (a, b))
  ++ ((tokensNamed l separatePatterns).flatMap fun a => (others a).map fun b => (a, b))
  ++ (tokensNamed l freePatterns).flatMap fun b => (others b).map fun a => (a, b)

/-- the table of a grammar of C# -/
def tableOf (b : Rulebook) : Table :=
  let l := Language.ofRulebook b
  Table.ofAutomaton (Automaton.ofLanguage l 200000) (Table.clashesOf l (overlappingTokens l))

end EndpointScaffold.CSharp
