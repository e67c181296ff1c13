import EndpointScaffold.CSharp.Rules.Forms

/-!
# Statements and directives of C#
-/

namespace EndpointScaffold.CSharp.Rules

open Grammar Grammar.Rule

def statements : List Definition := [
  defineHidden "statement" (choice [
    ref "block", ref "breakStatement", ref "checkedStatement", ref "continueStatement",
    ref "doStatement", ref "emptyStatement", ref "expressionStatement", ref "fixedStatement",
    ref "forStatement", ref "returnStatement", ref "lockStatement", ref "yieldStatement",
    ref "switchStatement", ref "throwStatement", ref "tryStatement", ref "unsafeStatement",
    ref "usingStatement", ref "foreachStatement", ref "gotoStatement", ref "labeledStatement",
    ref "ifStatement", ref "whileStatement", ref "localDeclarationStatement",
    ref "localFunctionStatement", as "ifDirective" (ref "ifDirectiveInTopLevel")]),
  define "breakStatement" (seq ["break", ";"]),
  define "checkedStatement" (seq [choice ["checked", "unchecked"], ref "block"]),
  define "continueStatement" (seq ["continue", ";"]),
  define "doStatement" (seq [
    "do", labelled "body" (ref "statement"), "while", "(",
    labelled "condition" (ref "expression"), ")", ";"]),
  define "emptyStatement" ";",
  define "expressionStatement" (seq [ref "statementExpression", ";"]),
  define "fixedStatement" (seq ["fixed", "(", ref "variableDeclaration", ")", ref "statement"]),
  define "forStatement" (seq [ref "forHeader", labelled "body" (ref "statement")]),
  defineHidden "forHeader" (seq [
    "for", "(",
    labelled "initializer" (optional (choice [
      ref "variableDeclaration", listed (ref "expression")])),
    ";", labelled "condition" (optional (ref "expression")), ";",
    labelled "update" (optional (listed (ref "expression"))), ")"]),
  define "returnStatement" (seq ["return", optional (ref "expression"), ";"]),
  define "lockStatement" (seq ["lock", "(", ref "expression", ")", ref "statement"]),
  define "yieldStatement" (seq ["yield", choice [seq ["return", ref "expression"], "break"], ";"]),
  define "switchStatement" (seq [
    "switch",
    choice [
      seq ["(", labelled "value" (ref "expression"), ")"],
      labelled "value" (ref "tupleExpression")],
    labelled "body" (ref "switchBody")]),
  define "switchBody" (seq ["\x7b", any (ref "switchSection"), "\x7d"]),
  define "switchSection" (rankLeft 0 (seq [
    choice [
      seq ["case", choice [ref "expression", seq [ref "pattern", optional (ref "whenClause")]]],
      "default"],
    ":", any (ref "statement")])),
  define "throwStatement" (seq ["throw", optional (ref "expression"), ";"]),
  define "tryStatement" (seq [
    "try", labelled "body" (ref "block"), any (ref "catchClause"), optional (ref "finallyClause")]),
  define "catchClause" (seq [
    "catch", any (choice [ref "catchDeclaration", ref "catchFilterClause"]),
    labelled "body" (ref "block")]),
  define "catchDeclaration" (seq [
    "(", labelled "type" (ref "type"), labelled "name" (optional (ref "identifier")), ")"]),
  define "catchFilterClause" (seq ["when", "(", ref "expression", ")"]),
  define "finallyClause" (seq ["finally", ref "block"]),
  define "unsafeStatement" (seq ["unsafe", ref "block"]),
  define "usingStatement" (seq [
    optional "await", "using", "(",
    choice [as "variableDeclaration" (ref "usingVariableDeclaration"), ref "expression"], ")",
    labelled "body" (ref "statement")]),
  define "foreachStatement" (seq [ref "foreachHeader", labelled "body" (ref "statement")]),
  defineHidden "foreachHeader" (seq [
    optional "await", "foreach", "(",
    choice [
      seq [
        labelled "type" (ref "type"),
        labelled "left" (choice [ref "identifier", ref "tuplePattern"])],
      labelled "left" (ref "expression")],
    "in", labelled "right" (ref "expression"), ")"]),
  define "gotoStatement" (seq [
    "goto", choice [ref "identifier", seq ["case", ref "expression"], "default"], ";"]),
  define "labeledStatement" (seq [ref "identifier", ":", ref "statement"]),
  define "ifStatement" (rankRight 0 (seq [
    "if", "(", labelled "condition" (ref "expression"), ")",
    labelled "consequence" (ref "statement"),
    optional (seq ["else", labelled "alternative" (ref "statement")])])),
  define "whileStatement" (seq [
    "while", "(", labelled "condition" (ref "expression"), ")", labelled "body" (ref "statement")]),
  define "localDeclarationStatement" (seq [
    optional "await", optional "using", any (ref "modifier"), ref "variableDeclaration", ";"]),
  define "localFunctionStatement" (seq [ref "localFunctionHeader", ref "functionBody"]),
  defineHidden "localFunctionHeader" (seq [
    any (ref "attributeSection"), any (ref "modifier"), labelled "type" (ref "type"),
    labelled "name" (ref "identifier"),
    labelled "typeParameters" (optional (ref "typeParameterList")),
    labelled "parameters" (ref "parameterList"), any (ref "typeParameterConstraintsClause")])]

end EndpointScaffold.CSharp.Rules

/-!
## Directives of C#

Conditional directives hold whole declarations, statements, attributes or expressions and have rules
of their own for each place. The other directives may stand between any two tokens.
-/

namespace EndpointScaffold.CSharp.Rules

open Grammar Grammar.Rule

/-- a branch after the first one; `place` names the place of the directive -/
def otherBranch (place : String) : Rule :=
  if place.isEmpty then choice [ref "elseDirective", ref "elifDirective"]
  else choice [as "elseDirective" (ref ("elseDirective" ++ place)),
    as "elifDirective" (ref ("elifDirective" ++ place))]

/-- the three rules of conditional directives in one place -/
def conditional (place : String) (level : Int) (body : Rule) : List Definition := [
  define ("ifDirective" ++ place) (rank level (seq [
    directiveMark "if", labelled "condition" (ref "directiveCondition"), pattern "lineEnd", body,
    labelled "alternative" (optional (otherBranch place)), directiveMark "endif"])),
  define ("elseDirective" ++ place) (rank level (seq [directiveMark "else", body])),
  define ("elifDirective" ++ place) (rank level (seq [
    directiveMark "elif", labelled "condition" (ref "directiveCondition"), pattern "lineEnd", body,
    labelled "alternative" (optional (otherBranch place))]))]

/-- rules of conditional directives -/
def conditionals : List Definition :=
  conditional "" 0 (any (ref "declaration"))
  ++ conditional "InTopLevel" 0 (any (choice [ref "topLevelItemNoStatement", ref "statement"]))
  ++ conditional "InExpression" (-2) (optional (ref "expression"))
  ++ conditional "InEnumMemberDeclaration" 0 (optional (ref "enumMemberDeclaration"))
  ++ conditional "InAttributeList" (-1) (optional (ref "attributeList"))

def directives : List Definition := [
  define "directiveText" (pattern "directiveText"),
  defineHidden "directiveCondition" (choice [
    ref "identifier", ref "booleanLiteral", ref "integerLiteral", ref "characterLiteral",
    as "unaryExpression" (ref "directiveUnaryExpression"),
    as "binaryExpression" (ref "directiveBinaryExpression"),
    as "parenthesizedExpression" (ref "directiveParenthesizedExpression")]),
  define "directiveParenthesizedExpression" (seq ["(", ref "directiveCondition", ")"]),
  define "directiveUnaryExpression" (rankLeft Rank.unary (seq [
    labelled "operator" "!", labelled "argument" (ref "directiveCondition")])),
  define "directiveBinaryExpression" (choice [
    binary "directiveCondition" Rank.or "||", binary "directiveCondition" Rank.and "&&",
    binary "directiveCondition" Rank.equality "==", binary "directiveCondition" Rank.equality "!="]),
  define "regionDirective" (seq [
    directiveMark "region", labelled "content" (optional (ref "directiveText")),
    pattern "lineEnd"]),
  define "endregionDirective" (seq [
    directiveMark "endregion", labelled "content" (optional (ref "directiveText")),
    pattern "lineEnd"]),
  define "lineDirective" (seq [
    directiveMark "line",
    choice [
      "default", "hidden", seq [ref "integerLiteral", optional (ref "stringLiteral")],
      seq [
        "(", ref "integerLiteral", ",", ref "integerLiteral", ")", "-", "(", ref "integerLiteral",
        ",", ref "integerLiteral", ")", optional (ref "integerLiteral"), ref "stringLiteral"]],
    pattern "lineEnd"]),
  define "pragmaDirective" (seq [
    directiveMark "pragma",
    choice [
      seq [
        "warning", choice ["disable", "restore"],
        optionalListed (choice [ref "identifier", ref "integerLiteral"])],
      seq ["checksum", ref "stringLiteral", ref "stringLiteral", ref "stringLiteral"]],
    pattern "lineEnd"]),
  define "nullableDirective" (seq [
    directiveMark "nullable", choice ["enable", "disable", "restore"],
    optional (choice ["annotations", "warnings"]), pattern "lineEnd"]),
  define "errorDirective" (seq [directiveMark "error", ref "directiveText", pattern "lineEnd"]),
  define "warningDirective" (seq [
    directiveMark "warning", ref "directiveText", pattern "lineEnd"]),
  define "defineDirective" (seq [directiveMark "define", ref "directiveText", pattern "lineEnd"]),
  define "undefDirective" (seq [directiveMark "undef", ref "directiveText", pattern "lineEnd"]),
  define "shebangDirective" (pattern "shebangDirective")]

end EndpointScaffold.CSharp.Rules
