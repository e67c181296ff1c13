import EndpointScaffold.CSharp.Rules.Forms

/-!
# Declarations of C#

Source files, namespaces, types and their members, attributes and parameters.
-/

namespace EndpointScaffold.CSharp.Rules

open Grammar Grammar.Rule

def declarations : List Definition := [
  define "compilationUnit" (seq [optional (ref "shebangDirective"), any (ref "topLevelItem")]),
  defineHidden "topLevelItem" (rank 2 (choice [
    ref "topLevelItemNoStatement", ref "globalStatement"])),
  defineHidden "topLevelItemNoStatement" (choice [
    ref "externAliasDirective", ref "usingDirective", ref "globalAttribute",
    as "ifDirective" (ref "ifDirectiveInTopLevel"), ref "namespaceMemberDeclaration",
    ref "fileScopedNamespaceDeclaration"]),
  define "globalStatement" (rank 1 (ref "statement")),
  define "externAliasDirective" (seq ["extern", "alias", labelled "name" (ref "identifier"), ";"]),
  define "usingDirective" (seq [
    optional "global", "using",
    choice [
      seq [optional "unsafe", labelled "name" (ref "identifier"), "=", ref "type"],
      seq [any (choice ["static", "unsafe"]), ref "name"]],
    ";"]),
  define "globalAttribute" (seq [
    "[", choice ["assembly", "module"], ":", optionalListed (ref "attribute"), optional ",", "]"]),
  define "attribute" (seq [labelled "name" (ref "name"), optional (ref "attributeArgumentList")]),
  define "attributeArgumentList" (seq ["(", optionalListed (ref "attributeArgument"), ")"]),
  define "attributeArgument" (rank (-1) (seq [
    optional (seq [ref "identifier", choice [":", "="]]), ref "expression"])),
  define "attributeList" (seq [
    "[", optional (ref "attributeTargetSpecifier"), listed (ref "attribute"), optional ",", "]"]),
  defineHidden "attributeSection" (choice [
    ref "attributeList", as "ifDirective" (ref "ifDirectiveInAttributeList")]),
  define "attributeTargetSpecifier" (seq [
    choice ["field", "event", "method", "param", "property", "return", "type", "typevar"], ":"]),
  defineHidden "namespaceMemberDeclaration" (choice [
    ref "namespaceDeclaration", ref "typeDeclaration"]),
  define "namespaceDeclaration" (seq [
    "namespace", labelled "name" (ref "name"), labelled "body" (ref "declarationList"),
    ref "optionalSemi"]),
  define "fileScopedNamespaceDeclaration" (seq ["namespace", labelled "name" (ref "name"), ";"]),
  defineHidden "typeDeclaration" (choice [
    ref "classDeclaration", ref "structDeclaration", ref "enumDeclaration",
    ref "interfaceDeclaration", ref "delegateDeclaration", ref "recordDeclaration"]),
  define "classDeclaration" (seq [ref "classHeader", typeBody]),
  defineHidden "classHeader" (seq [
    any (ref "attributeSection"), any (ref "modifier"), "class",
    labelled "name" (ref "identifier"),
    any (choice [ref "typeParameterList", ref "parameterList", ref "baseList"]),
    any (ref "typeParameterConstraintsClause")]),
  define "structDeclaration" (seq [ref "structHeader", typeBody]),
  defineHidden "structHeader" (seq [
    any (ref "attributeSection"), any (ref "modifier"), optional "ref", "struct",
    labelled "name" (ref "identifier"),
    any (choice [ref "typeParameterList", ref "parameterList", ref "baseList"]),
    any (ref "typeParameterConstraintsClause")]),
  define "enumDeclaration" (seq [
    ref "enumHeader",
    choice [
      seq [labelled "body" (ref "enumMemberDeclarationList"), ref "optionalSemi"], ";"]]),
  defineHidden "enumHeader" (seq [
    any (ref "attributeSection"), any (ref "modifier"), "enum",
    labelled "name" (ref "identifier"), optional (ref "baseList")]),
  define "enumMemberDeclarationList" (seq [
    "\x7b",
    optionalListed (choice [
      ref "enumMemberDeclaration", as "ifDirective" (ref "ifDirectiveInEnumMemberDeclaration")]),
    optional ",", "\x7d"]),
  define "enumMemberDeclaration" (seq [
    any (ref "attributeSection"), labelled "name" (ref "identifier"),
    optional (seq ["=", labelled "value" (ref "expression")])]),
  define "interfaceDeclaration" (seq [ref "interfaceHeader", typeBody]),
  defineHidden "interfaceHeader" (seq [
    any (ref "attributeSection"), any (ref "modifier"), "interface",
    labelled "name" (ref "identifier"),
    labelled "typeParameters" (optional (ref "typeParameterList")), optional (ref "baseList"),
    any (ref "typeParameterConstraintsClause")]),
  define "delegateDeclaration" (seq [ref "delegateHeader", ";"]),
  defineHidden "delegateHeader" (seq [
    any (ref "attributeSection"), any (ref "modifier"), "delegate", labelled "type" (ref "type"),
    labelled "name" (ref "identifier"),
    labelled "typeParameters" (optional (ref "typeParameterList")),
    labelled "parameters" (ref "parameterList"), any (ref "typeParameterConstraintsClause")]),
  define "recordDeclaration" (seq [ref "recordHeader", typeBody]),
  defineHidden "recordHeader" (seq [
    any (ref "attributeSection"), any (ref "modifier"), "record",
    optional (choice ["class", "struct"]), labelled "name" (ref "identifier"),
    any (choice [ref "typeParameterList", ref "parameterList"]),
    optional (as "baseList" (ref "recordBase")), any (ref "typeParameterConstraintsClause")]),
  define "recordBase" (choice [
    seq [":", listed (ref "name")],
    seq [":", ref "primaryConstructorBaseType", optional (seq [",", listed (ref "name")])]]),
  define "primaryConstructorBaseType" (seq [labelled "type" (ref "name"), ref "argumentList"]),
  define "modifier" (rankRight 0 (choice [
    "abstract", "async", "const", "extern", "file", "fixed", "internal", "new", "override",
    "partial", "private", "protected", "public", "readonly", "required", "sealed", "static",
    "unsafe", "virtual", "volatile"])),
  define "typeParameterList" (seq ["<", listed (ref "typeParameter"), ">"]),
  define "typeParameter" (seq [
    any (ref "attributeSection"), optional (choice ["in", "out"]),
    labelled "name" (ref "identifier")]),
  define "baseList" (seq [":", listed (seq [ref "type", optional (ref "argumentList")])]),
  define "typeParameterConstraintsClause" (seq [
    "where", ref "identifier", ":", listed (ref "typeParameterConstraint")]),
  define "typeParameterConstraint" (choice [
    seq ["class", optional "?"], "struct", "notnull", "unmanaged", ref "constructorConstraint",
    labelled "type" (ref "type")]),
  define "constructorConstraint" (seq ["new", "(", ")"]),
  define "operatorDeclaration" (seq [
    any (ref "attributeSection"), any (ref "modifier"), labelled "type" (ref "type"),
    optional (ref "explicitInterfaceSpecifier"), "operator", optional "checked",
    labelled "operator" (choice [
      "!", "~", "++", "--", "true", "false", "+", "-", "*", "/", "%", "^", "|", "&", "<<", ">>",
      ">>>", "==", "!=", ">", "<", ">=", "<="]),
    labelled "parameters" (ref "parameterList"), ref "functionBody"]),
  define "conversionOperatorDeclaration" (seq [
    any (ref "attributeSection"), any (ref "modifier"), choice ["implicit", "explicit"],
    optional (ref "explicitInterfaceSpecifier"), optional "checked", "operator", optional "checked",
    labelled "type" (ref "type"), labelled "parameters" (ref "parameterList"), ref "functionBody"]),
  define "declarationList" (seq ["\x7b", any (ref "declaration"), "\x7d"]),
  defineHidden "declaration" (choice [
    ref "classDeclaration", ref "structDeclaration", ref "enumDeclaration",
    ref "delegateDeclaration", ref "fieldDeclaration", ref "methodDeclaration",
    ref "eventDeclaration", ref "eventFieldDeclaration", ref "recordDeclaration",
    ref "constructorDeclaration", ref "destructorDeclaration", ref "indexerDeclaration",
    ref "interfaceDeclaration", ref "namespaceDeclaration", ref "operatorDeclaration",
    ref "conversionOperatorDeclaration", ref "propertyDeclaration", ref "usingDirective",
    ref "ifDirective"]),
  define "fieldDeclaration" (seq [
    any (ref "attributeSection"), any (ref "modifier"), ref "variableDeclaration", ";"]),
  define "constructorDeclaration" (seq [ref "constructorHeader", ref "functionBody"]),
  defineHidden "constructorHeader" (seq [
    any (ref "attributeSection"), any (ref "modifier"), labelled "name" (ref "identifier"),
    labelled "parameters" (ref "parameterList"), optional (ref "constructorInitializer")]),
  define "destructorDeclaration" (seq [
    any (ref "attributeSection"), optional "extern", "~", labelled "name" (ref "identifier"),
    labelled "parameters" (ref "parameterList"), ref "functionBody"]),
  define "methodDeclaration" (seq [
    any (ref "attributeSection"), any (ref "modifier"), labelled "returns" (ref "type"),
    optional (ref "explicitInterfaceSpecifier"), labelled "name" (ref "identifier"),
    labelled "typeParameters" (optional (ref "typeParameterList")),
    labelled "parameters" (ref "parameterList"), any (ref "typeParameterConstraintsClause"),
    ref "functionBody"]),
  define "eventDeclaration" (seq [
    any (ref "attributeSection"), any (ref "modifier"), "event", labelled "type" (ref "type"),
    optional (ref "explicitInterfaceSpecifier"), labelled "name" (ref "identifier"),
    choice [labelled "accessors" (ref "accessorList"), ";"]]),
  define "eventFieldDeclaration" (favoured 1 (seq [
    any (ref "attributeSection"), any (ref "modifier"), "event", ref "variableDeclaration", ";"])),
  define "accessorList" (seq ["\x7b", any (ref "accessorDeclaration"), "\x7d"]),
  define "accessorDeclaration" (seq [
    any (ref "attributeSection"), any (ref "modifier"),
    labelled "name" (choice ["get", "set", "add", "remove", "init", ref "identifier"]),
    ref "functionBody"]),
  define "indexerDeclaration" (seq [
    any (ref "attributeSection"), any (ref "modifier"), labelled "type" (ref "type"),
    optional (ref "explicitInterfaceSpecifier"), "this",
    labelled "parameters" (ref "bracketedParameterList"),
    choice [
      labelled "accessors" (ref "accessorList"), seq [labelled "value" (ref "arrowClause"), ";"]]]),
  define "bracketedParameterList" (seq [
    "[", optionalListed (choice [ref "parameter", ref "parameterArray"]), "]"]),
  define "propertyDeclaration" (seq [
    any (ref "attributeSection"), any (ref "modifier"), labelled "type" (ref "type"),
    optional (ref "explicitInterfaceSpecifier"), labelled "name" (ref "identifier"),
    choice [
      seq [
        labelled "accessors" (ref "accessorList"),
        optional (seq ["=", labelled "value" (ref "expression"), ";"])],
      seq [labelled "value" (ref "arrowClause"), ";"]]]),
  define "explicitInterfaceSpecifier" (rank Rank.dot (seq [ref "name", "."])),
  define "parameterList" (seq [
    "(", optionalListed (choice [ref "parameter", ref "parameterArray"]), ")"]),
  defineHidden "parameterTypeWithModifiers" (seq [
    any (rankLeft 0 (as "modifier" (choice ["this", "scoped", "ref", "out", "in", "readonly"]))),
    labelled "type" (ref "type")]),
  define "parameter" (seq [
    any (ref "attributeSection"), optional (ref "parameterTypeWithModifiers"),
    labelled "name" (ref "identifier"), optional (seq ["=", ref "expression"])]),
  defineHidden "parameterArray" (seq [
    any (ref "attributeSection"), "params", labelled "type" (ref "type"),
    labelled "name" (ref "identifier")]),
  define "constructorInitializer" (seq [":", choice ["base", "this"], ref "argumentList"]),
  define "argumentList" (seq ["(", optionalListed (ref "argument"), ")"]),
  define "tuplePattern" (seq [
    "(", listed (choice [labelled "name" (ref "identifier"), ref "discard", ref "tuplePattern"]),
    ")"]),
  define "argument" (rank 1 (seq [
    optional (seq [labelled "name" (ref "identifier"), ":"]),
    optional (choice ["ref", "out", "in"]),
    choice [ref "expression", ref "declarationExpression"]])),
  define "block" (seq ["\x7b", any (ref "statement"), "\x7d"]),
  define "arrowClause" (seq ["=>", ref "expression"]),
  defineHidden "functionBody" (choice [
    labelled "body" (ref "block"), seq [labelled "body" (ref "arrowClause"), ";"], ";"]),
  define "variableDeclaration" (seq [
    labelled "type" (ref "type"), listed (ref "variableDeclarator")]),
  define "usingVariableDeclaration" (seq [
    labelled "type" (ref "type"),
    listed (as "variableDeclarator" (ref "usingVariableDeclarator"))]),
  define "variableDeclarator" (seq [
    choice [labelled "name" (ref "identifier"), ref "tuplePattern"],
    optional (ref "bracketedArgumentList"), optional (seq ["=", ref "expression"])]),
  define "usingVariableDeclarator" (seq [
    labelled "name" (ref "identifier"), optional (seq ["=", ref "expression"])]),
  define "bracketedArgumentList" (seq [
    "[", optional (seq [listed (ref "argument"), optional ","]), "]"])]

end EndpointScaffold.CSharp.Rules
