import EndpointScaffold.CSharp.Rules.Forms

/-!
# Names, types and patterns of C#
-/

namespace EndpointScaffold.CSharp.Rules

open Grammar Grammar.Rule

/-! ### Names and types of C# -/

/-- rules of names and types -/
def types : List Definition := [
  defineHidden "name" (choice [ref "aliasQualifiedName", ref "qualifiedName", ref "simpleName"]),
  define "aliasQualifiedName" (seq [
    labelled "alias" (ref "identifier"), "::", labelled "name" (ref "simpleName")]),
  defineHidden "simpleName" (choice [ref "identifier", ref "genericName"]),
  define "qualifiedName" (rank Rank.dot (seq [
    labelled "qualifier" (ref "name"), ".", labelled "name" (ref "simpleName")])),
  define "genericName" (seq [ref "identifier", ref "typeArgumentList"]),
  define "typeArgumentList" (seq ["<", choice [any ",", listed (ref "type")], ">"]),
  defineHidden "type" (choice [
    ref "implicitType", ref "arrayType", ref "name", ref "nullableType", ref "pointerType",
    ref "functionPointerType", ref "predefinedType", ref "tupleType", ref "refType",
    ref "scopedType"]),
  define "implicitType" (favoured 1 "var"),
  define "arrayType" (seq [
    labelled "type" (ref "arrayBaseType"), labelled "rank" (ref "arrayRankSpecifier")]),
  defineHidden "arrayBaseType" (choice [
    ref "arrayType", ref "name", ref "nullableType", ref "pointerType", ref "functionPointerType",
    ref "predefinedType", ref "tupleType"]),
  define "arrayRankSpecifier" (seq [
    "[", choice [optionalListed (ref "expression"), many ","], "]"]),
  define "nullableType" (seq [labelled "type" (ref "nullableBaseType"), "?"]),
  defineHidden "nullableBaseType" (choice [
    ref "arrayType", ref "name", ref "predefinedType", ref "tupleType"]),
  define "pointerType" (seq [labelled "type" (ref "pointerBaseType"), "*"]),
  defineHidden "pointerBaseType" (choice [
    ref "name", ref "nullableType", ref "pointerType", ref "functionPointerType",
    ref "predefinedType", ref "tupleType"]),
  define "functionPointerType" (seq [
    "delegate", "*", optional (ref "callingConvention"), "<",
    any (seq [ref "functionPointerParameter", ","]), labelled "returns" (ref "type"), ">"]),
  define "callingConvention" (choice [
    "managed",
    seq [
      "unmanaged",
      optional (seq [
        "[", listed (choice ["Cdecl", "Stdcall", "Thiscall", "Fastcall", ref "identifier"]), "]"])]]),
  define "functionPointerParameter" (seq [
    optional (choice ["ref", "out", "in"]), labelled "type" (ref "refBaseType")]),
  define "predefinedType" (pattern "predefinedType"),
  define "refType" (seq ["ref", optional "readonly", labelled "type" (ref "type")]),
  defineHidden "refBaseType" (choice [
    ref "implicitType", ref "name", ref "nullableType", ref "arrayType", ref "pointerType",
    ref "functionPointerType", ref "predefinedType", ref "tupleType"]),
  define "scopedType" (seq ["scoped", labelled "type" (ref "scopedBaseType")]),
  defineHidden "scopedBaseType" (choice [ref "name", ref "refType"]),
  define "tupleType" (seq ["(", ref "tupleElement", ",", listed (ref "tupleElement"), ")"]),
  define "tupleElement" (seq [
    labelled "type" (ref "type"), labelled "name" (optional (ref "identifier"))])]

/-! ### Patterns of C# -/

def patterns : List Definition := [
  defineHidden "pattern" (choice [
    ref "constantPattern", ref "declarationPattern", ref "discard", ref "recursivePattern",
    ref "varPattern", ref "negatedPattern", ref "parenthesizedPattern", ref "relationalPattern",
    ref "orPattern", ref "andPattern", ref "listPattern", ref "typePattern"]),
  define "constantPattern" (choice [
    ref "binaryExpression", ref "defaultExpression", ref "interpolatedStringExpression",
    ref "parenthesizedExpression", ref "postfixUnaryExpression", ref "prefixUnaryExpression",
    ref "sizeofExpression", ref "tupleExpression", ref "typeofExpression",
    ref "memberAccessExpression", ref "invocationExpression", ref "castExpression",
    ref "simpleName", ref "literal"]),
  define "discard" "_",
  define "parenthesizedPattern" (rankLeft 0 (seq [
    "(", ref "pattern", ")", optional (ref "variableDesignation")])),
  define "varPattern" (seq ["var", ref "variableDesignation"]),
  define "typePattern" (labelled "type" (ref "type")),
  define "listPattern" (rankLeft 0 (seq [
    "[", optional (seq [listed (choice [ref "pattern", ".."]), optional ","]), "]",
    optional (ref "variableDesignation")])),
  define "recursivePattern" (rankLeft Rank.comparison (seq [
    optional (labelled "type" (ref "type")),
    choice [
      seq [ref "positionalPatternClause", optional (ref "propertyPatternClause")],
      ref "propertyPatternClause"],
    optional (ref "variableDesignation")])),
  define "positionalPatternClause" (rank 1 (seq [
    "(", optional (seq [ref "subpattern", ",", listed (ref "subpattern")]), ")"])),
  define "propertyPatternClause" (rank 1 (seq [
    "\x7b", optionalListed (ref "subpattern"), optional ",", "\x7d"])),
  define "subpattern" (seq [optional (seq [ref "expression", ":"]), ref "pattern"]),
  define "relationalPattern" (choice (["<", "<=", ">", ">="].map fun op : String =>
    rankLeft Rank.comparison (seq [op, ref "expression"]))),
  define "negatedPattern" (seq ["not", ref "pattern"]),
  define "andPattern" (rankLeft Rank.bitAnd (seq [
    labelled "left" (ref "pattern"), labelled "operator" "and", labelled "right" (ref "pattern")])),
  define "orPattern" (rankLeft Rank.bitOr (seq [
    labelled "left" (ref "pattern"), labelled "operator" "or", labelled "right" (ref "pattern")])),
  define "declarationPattern" (seq [labelled "type" (ref "type"), ref "variableDesignation"]),
  defineHidden "variableDesignation" (rank 1 (choice [
    ref "discard", ref "parenthesizedVariableDesignation", labelled "name" (ref "identifier")])),
  define "parenthesizedVariableDesignation" (seq [
    "(", optionalListed (ref "variableDesignation"), ")"]),
  define "whenClause" (seq ["when", ref "expression"])]

end EndpointScaffold.CSharp.Rules
