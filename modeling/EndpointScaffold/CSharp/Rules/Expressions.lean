import EndpointScaffold.CSharp.Rules.Forms

/-!
# Literals and expressions of C#
-/

namespace EndpointScaffold.CSharp.Rules

open Grammar Grammar.Rule

/-! ### Literals, comments and identifiers of C#

Reserved words that C# reserves only in places are identifiers elsewhere.
-/

/-- rules of literals, comments and identifiers -/
def literals : List Definition := [
  defineHidden "literal" (choice [
    ref "nullLiteral", ref "characterLiteral", ref "integerLiteral", ref "realLiteral",
    ref "booleanLiteral", ref "stringLiteral", ref "verbatimStringLiteral",
    ref "rawStringLiteral"]),
  define "nullLiteral" "null",
  define "characterLiteral" (seq [
    "'", choice [ref "characterLiteralContent", ref "escapeSequence"], "'"]),
  define "characterLiteralContent" (pattern "characterLiteralContent"),
  define "integerLiteral" (pattern "integerLiteral"),
  define "realLiteral" (pattern "realLiteral"),
  define "booleanLiteral" (choice ["true", "false"]),
  define "stringLiteral" (seq [
    "\"", any (choice [ref "stringLiteralContent", ref "escapeSequence"]), "\"",
    optional (ref "stringLiteralEncoding")]),
  define "stringLiteralContent" (pattern "stringContent"),
  define "escapeSequence" (pattern "escapeSequence"),
  define "stringLiteralEncoding" (pattern "stringLiteralEncoding"),
  define "verbatimStringLiteral" (pattern "verbatimStringLiteral"),
  define "rawStringLiteral" (seq [
    ref "rawStringStart", ref "rawStringContent", ref "rawStringEnd",
    optional (ref "stringLiteralEncoding")]),
  define "comment" (pattern "comment"),
  define "identifier" (choice [ref "word", ref "reservedIdentifier"]),
  defineHidden "word" (pattern "word"),
  defineHidden "reservedIdentifier" (choice [
    "alias", "ascending", "by", "descending", "equals", "file", "from", "global", "group", "into",
    "join", "let", "notnull", "on", "orderby", "scoped", "select", "unmanaged", "var", "when",
    "where", "yield"])]

/-! ### Expressions of C#

An expression is a place that can be assigned to or not; the two kinds are kept apart because a
parenthesis around a place is a place again.
-/

def binaryOperators : List (String × Int) := [
  ("&&", Rank.and), ("||", Rank.or), (">>", Rank.shift), (">>>", Rank.shift), ("<<", Rank.shift),
  ("&", Rank.bitAnd), ("^", Rank.bitXor), ("|", Rank.bitOr), ("+", Rank.sum), ("-", Rank.sum),
  ("*", Rank.product), ("/", Rank.product), ("%", Rank.product), ("<", Rank.comparison),
  ("<=", Rank.comparison), ("==", Rank.equality), ("!=", Rank.equality), (">=", Rank.comparison),
  (">", Rank.comparison)]

def expressions : List Definition := [
  defineHidden "expression" (choice [ref "nonLvalueExpression", ref "lvalueExpression"]),
  defineHidden "nonLvalueExpression" (choice [
    "base", ref "binaryExpression", ref "interpolatedStringExpression",
    ref "conditionalExpression", ref "conditionalAccessExpression", ref "literal",
    ref "statementExpression", ref "isExpression", ref "isPatternExpression", ref "asExpression",
    ref "castExpression", ref "checkedExpression", ref "switchExpression", ref "throwExpression",
    ref "defaultExpression", ref "lambdaExpression", ref "withExpression", ref "sizeofExpression",
    ref "typeofExpression", ref "makerefExpression", ref "refExpression", ref "reftypeExpression",
    ref "refvalueExpression", ref "stackallocExpression", ref "rangeExpression",
    ref "arrayCreationExpression", ref "anonymousMethodExpression",
    ref "anonymousObjectCreationExpression", ref "implicitArrayCreationExpression",
    ref "implicitObjectCreationExpression", ref "implicitStackallocExpression",
    ref "initializerExpression", ref "queryExpression",
    as "ifDirective" (ref "ifDirectiveInExpression")]),
  defineHidden "lvalueExpression" (choice [
    "this", ref "memberAccessExpression", ref "tupleExpression", ref "simpleName",
    ref "elementAccessExpression", as "elementBindingExpression" (ref "bracketedArgumentList"),
    as "prefixUnaryExpression" (ref "pointerIndirection"),
    as "parenthesizedExpression" (ref "parenthesizedLvalue")]),
  defineHidden "statementExpression" (choice [
    ref "assignmentExpression", ref "invocationExpression", ref "postfixUnaryExpression",
    ref "prefixUnaryExpression", ref "awaitExpression", ref "objectCreationExpression",
    ref "parenthesizedExpression"]),
  define "assignmentExpression" (rankRight Rank.assignment (seq [
    labelled "left" (ref "lvalueExpression"),
    labelled "operator" (choice [
      "=", "+=", "-=", "*=", "/=", "%=", "&=", "^=", "|=", "<<=", ">>=", ">>>=", "??="]),
    labelled "right" (ref "expression")])),
  define "binaryExpression" (choice (
    binaryOperators.map (fun o => binary "expression" o.2 o.1)
      ++ [rankRight Rank.coalescing (operation "expression" "??")])),
  define "postfixUnaryExpression" (rank Rank.postfixed (choice [
    seq [ref "expression", "++"], seq [ref "expression", "--"], seq [ref "expression", "!"]])),
  define "prefixUnaryExpression" (rank Rank.unary (choice [
    seq ["++", ref "expression"], seq ["--", ref "expression"], seq ["+", ref "expression"],
    seq ["-", ref "expression"], seq ["!", ref "expression"], seq ["~", ref "expression"],
    seq ["&", ref "expression"], seq ["^", ref "expression"]])),
  defineHidden "pointerIndirection" (rankRight Rank.unary (seq ["*", ref "lvalueExpression"])),
  define "queryExpression" (seq [ref "fromClause", ref "queryBody"]),
  define "fromClause" (seq [
    "from", labelled "type" (optional (ref "type")), labelled "name" (ref "identifier"), "in",
    ref "expression"]),
  defineHidden "queryBody" (rankRight 0 (seq [
    any (ref "queryClause"), ref "selectOrGroupClause", optional (ref "queryContinuation")])),
  defineHidden "queryClause" (choice [
    ref "fromClause", ref "joinClause", ref "letClause", ref "orderByClause", ref "whereClause"]),
  define "joinClause" (seq [
    "join", optional (ref "type"), ref "identifier", "in", ref "expression", "on",
    ref "expression", "equals", ref "expression", optional (ref "joinIntoClause")]),
  define "joinIntoClause" (seq ["into", ref "identifier"]),
  define "letClause" (seq ["let", ref "identifier", "=", ref "expression"]),
  define "orderByClause" (seq ["orderby", listed (ref "ordering")]),
  defineHidden "ordering" (seq [ref "expression", optional (choice ["ascending", "descending"])]),
  define "whereClause" (seq ["where", ref "expression"]),
  defineHidden "selectOrGroupClause" (choice [ref "groupClause", ref "selectClause"]),
  define "groupClause" (rankRight Rank.select (seq [
    "group", ref "expression", "by", ref "expression"])),
  define "selectClause" (rankRight Rank.select (seq ["select", ref "expression"])),
  defineHidden "queryContinuation" (seq ["into", ref "identifier", ref "queryBody"]),
  define "conditionalExpression" (rankRight Rank.conditional (seq [
    labelled "condition" (ref "expression"), "?", labelled "consequence" (ref "expression"), ":",
    labelled "alternative" (ref "expression")])),
  define "conditionalAccessExpression" (rankRight Rank.conditional (seq [
    labelled "condition" (ref "expression"), "?",
    choice [
      ref "memberBindingExpression", as "elementBindingExpression" (ref "bracketedArgumentList")]])),
  define "memberBindingExpression" (seq [".", labelled "name" (ref "simpleName")]),
  define "asExpression" (rankLeft Rank.equality (seq [
    labelled "left" (ref "expression"), labelled "operator" "as", labelled "right" (ref "type")])),
  define "isExpression" (rankLeft Rank.equality (seq [
    labelled "left" (ref "expression"), labelled "operator" "is", labelled "right" (ref "type")])),
  define "isPatternExpression" (rankLeft Rank.equality (seq [
    labelled "expression" (ref "expression"), "is", labelled "pattern" (ref "pattern")])),
  define "castExpression" (rank Rank.cast (favoured 1 (seq [
    "(", labelled "type" (ref "type"), ")", labelled "value" (ref "expression")]))),
  define "checkedExpression" (seq [choice ["checked", "unchecked"], "(", ref "expression", ")"]),
  define "invocationExpression" (rank Rank.invocation (seq [
    labelled "function" (ref "expression"), labelled "arguments" (ref "argumentList")])),
  define "switchExpression" (rank Rank.switch (seq [
    ref "expression", "switch", ref "switchExpressionBody"])),
  defineHidden "switchExpressionBody" (seq [
    "\x7b", optionalListed (ref "switchExpressionArm"), optional ",", "\x7d"]),
  define "switchExpressionArm" (seq [
    ref "pattern", optional (ref "whenClause"), "=>", ref "expression"]),
  define "awaitExpression" (rankRight Rank.unary (seq ["await", ref "expression"])),
  define "throwExpression" (seq ["throw", ref "expression"]),
  define "elementAccessExpression" (rank Rank.postfixed (seq [
    labelled "expression" (ref "expression"), labelled "subscript" (ref "bracketedArgumentList")])),
  define "interpolatedStringExpression" (choice [
    seq [
      as "interpolationStart" (ref "interpolationRegularStart"),
      shown "\"" false (ref "interpolationStartQuote"), any (ref "interpolatedStringContent"),
      shown "\"" false (ref "interpolationEndQuote")],
    seq [
      as "interpolationStart" (ref "interpolationVerbatimStart"),
      shown "\"" false (ref "interpolationStartQuote"),
      any (ref "interpolatedVerbatimStringContent"),
      shown "\"" false (ref "interpolationEndQuote")],
    seq [
      as "interpolationStart" (ref "interpolationRawStart"),
      as "interpolationQuote" (ref "interpolationStartQuote"),
      any (ref "interpolatedRawStringContent"),
      as "interpolationQuote" (ref "interpolationEndQuote")]]),
  defineHidden "interpolatedStringContent" (choice [
    as "stringContent" (ref "interpolationStringContent"), ref "escapeSequence",
    ref "interpolation"]),
  defineHidden "interpolatedVerbatimStringContent" (choice [
    as "stringContent" (ref "interpolationStringContent"), ref "interpolation"]),
  defineHidden "interpolatedRawStringContent" (choice [
    as "stringContent" (ref "interpolationStringContent"), ref "interpolation"]),
  define "interpolation" (seq [
    as "interpolationBrace" (ref "interpolationOpenBrace"), ref "expression",
    optional (ref "interpolationAlignmentClause"), optional (ref "interpolationFormatClause"),
    as "interpolationBrace" (ref "interpolationCloseBrace")]),
  define "interpolationAlignmentClause" (seq [",", ref "expression"]),
  define "interpolationFormatClause" (seq [":", pattern "formatText"]),
  define "memberAccessExpression" (rank Rank.dot (seq [
    labelled "expression" (choice [ref "expression", ref "predefinedType", ref "name"]),
    choice [".", "->"], labelled "name" (ref "simpleName")])),
  define "rangeExpression" (rankRight Rank.range (seq [
    optional (ref "expression"), "..", optional (ref "expression")])),
  define "anonymousMethodExpression" (seq [
    any (rank (-1) (as "modifier" (choice ["static", "async"]))), "delegate",
    labelled "parameters" (optional (ref "parameterList")), ref "block"]),
  define "lambdaExpression" (rank (-1) (seq [
    ref "lambdaHeader", "=>", labelled "body" (choice [ref "block", ref "expression"])])),
  defineHidden "lambdaHeader" (rank (-1) (seq [
    any (ref "attributeSection"), any (rank (-1) (as "modifier" (choice ["static", "async"]))),
    labelled "type" (optional (ref "type")), labelled "parameters" (ref "lambdaParameters")])),
  defineHidden "lambdaParameters" (rank (-1) (choice [
    ref "parameterList", as "implicitParameter" (ref "identifier")])),
  define "arrayCreationExpression" (favoured Rank.unary (seq [
    "new", labelled "type" (ref "arrayType"), optional (ref "initializerExpression")])),
  define "initializerExpression" (seq [
    "\x7b", optionalListed (ref "expression"), optional ",", "\x7d"]),
  define "anonymousObjectCreationExpression" (seq [
    "new", "\x7b", optionalListed (ref "anonymousObjectMemberDeclarator"), optional ",", "\x7d"]),
  defineHidden "anonymousObjectMemberDeclarator" (favoured Rank.assignment (choice [
    seq [ref "identifier", "=", ref "expression"], ref "expression"])),
  define "implicitArrayCreationExpression" (seq [
    "new", "[", any ",", "]", ref "initializerExpression"]),
  define "implicitObjectCreationExpression" (rankRight 0 (seq [
    "new", ref "argumentList", optional (ref "initializerExpression")])),
  define "objectCreationExpression" (rankRight 0 (seq [
    "new", labelled "type" (ref "type"), labelled "arguments" (optional (ref "argumentList")),
    labelled "initializer" (optional (ref "initializerExpression"))])),
  define "stackallocExpression" (rankLeft 0 (seq [
    "stackalloc", labelled "type" (ref "arrayType"), optional (ref "initializerExpression")])),
  define "implicitStackallocExpression" (seq [
    "stackalloc", "[", "]", ref "initializerExpression"]),
  define "parenthesizedExpression" (seq ["(", ref "nonLvalueExpression", ")"]),
  defineHidden "parenthesizedLvalue" (seq ["(", ref "lvalueExpression", ")"]),
  define "withExpression" (rankLeft Rank.withs (seq [
    ref "expression", "with", "\x7b", optionalListed (ref "withInitializer"), optional ",",
    "\x7d"])),
  define "withInitializer" (seq [ref "identifier", "=", ref "expression"]),
  define "declarationExpression" (favoured 1 (seq [
    labelled "type" (ref "type"), labelled "name" (ref "identifier")])),
  define "defaultExpression" (rankRight 0 (seq [
    "default", optional (seq ["(", labelled "type" (ref "type"), ")"])])),
  define "tupleExpression" (seq ["(", ref "argument", many (seq [",", ref "argument"]), ")"]),
  define "typeofExpression" (seq ["typeof", "(", labelled "type" (ref "type"), ")"]),
  define "sizeofExpression" (seq ["sizeof", "(", labelled "type" (ref "type"), ")"]),
  define "makerefExpression" (seq ["__makeref", "(", ref "expression", ")"]),
  define "refExpression" (seq ["ref", ref "expression"]),
  define "reftypeExpression" (seq ["__reftype", "(", ref "expression", ")"]),
  define "refvalueExpression" (seq [
    "__refvalue", "(", labelled "value" (ref "expression"), ",", labelled "type" (ref "type"),
    ")"])]

end EndpointScaffold.CSharp.Rules
