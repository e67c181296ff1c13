import EndpointScaffold.Grammar.Rule

/-!
# Forms shared by the rules

Ranks of operators, from the tightest down, and the shapes that several rules have.
-/

namespace EndpointScaffold.CSharp.Rules

open Grammar Grammar.Rule

namespace Rank

def dot : Int := 18
def invocation : Int := 18
def postfixed : Int := 18
def unary : Int := 17
def cast : Int := 17
def range : Int := 16
def switch : Int := 15
def withs : Int := 14
def product : Int := 13
def sum : Int := 12
def shift : Int := 11
def comparison : Int := 10
def equality : Int := 9
def bitAnd : Int := 8
def bitXor : Int := 7
def bitOr : Int := 6
def and : Int := 5
def or : Int := 4
def coalescing : Int := 3
def conditional : Int := 2
def assignment : Int := 1
def select : Int := 0

end Rank

/-- a type's body in braces, or a semicolon in its place -/
def typeBody : Rule :=
  choice [seq [labelled "body" (ref "declarationList"), ref "optionalSemi"], ";"]

/-- the operator `op` between two operands -/
def operation (operand op : String) : Rule :=
  seq [labelled "left" (ref operand), labelled "operator" op, labelled "right" (ref operand)]

/-- a left-binding operator -/
def binary (operand : String) (level : Int) (op : String) : Rule :=
  rankLeft level (operation operand op)

/-- the mark of a directive, such as `#if` -/
def directiveMark (word : String) : Rule := .shown ("#" ++ word) false (pattern ("#" ++ word))

end EndpointScaffold.CSharp.Rules
