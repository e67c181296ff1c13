import EndpointScaffold.CommandLine.Grammar
import EndpointScaffold.Text.Trim
import EndpointScaffold.Text.Quoted

/-!
# Help

The usage of a grammar on one line, or on several if it is long, and its help: the parameters in two
columns, under headings.

* `Grammar.usage` how a command line is put together;
* `Grammar.help` the whole help.
-/

namespace EndpointScaffold.CommandLine

open Text

/-- most columns of a line -/
def helpWidth : Nat := 78

/-- the column where explanations start at the latest -/
def helpColumn : Nat := 24

/-! ### Lines of words -/

/-- fills lines with words, as many as fit; `used` is the width that the current line has taken -/
def fill (width used : Nat) (line : List String) : List String → List (List String)
  | [] => if line.isEmpty then [] else [line.reverse]
  | word :: words =>
    let needed := used + word.length + (if line.isEmpty then 0 else 1)
    if width < needed && !line.isEmpty then
      line.reverse :: fill width word.length [word] words
    else fill width needed (word :: line) words

/-- lines of a text that are no longer than `width` -/
def wrap (width : Nat) (s : String) : List String :=
  (fill width 0 [] (split ' ' s)).map (join " ")

/-! ### Usage -/

def Parameter.argumentText (p : Parameter) : String :=
  match p.arity with
  | .none => ""
  | .one => p.placeholder
  | .atMostOne => "[" ++ p.placeholder ++ "]"
  | .atLeastOne => p.placeholder ++ " [" ++ p.placeholder ++ " ...]"
  | .rest => p.placeholder ++ " ..."

def withArguments (p : Parameter) (name : String) : String :=
  if p.argumentText.isEmpty then name else name ++ " " ++ p.argumentText

def Parameter.usageParts (p : Parameter) : List String :=
  match p.names with
  | [] => if p.arity == .rest then [p.placeholder, "..."] else [p.argumentText]
  | name :: _ => ["[" ++ withArguments p name ++ "]"]

def usageStart : String := "usage: "

def Grammar.usageLines (g : Grammar) : List String :=
  let options := g.options.flatMap Parameter.usageParts
  let operands := g.operands.flatMap Parameter.usageParts
  let whole := usageStart ++ join " " (g.name :: options ++ operands)
  if whole.length ≤ helpWidth then [whole]
  else
    let indent := usageStart.length + g.name.length + 1
    let lines := (fill (helpWidth - indent) 0 [] options).map (join " ")
    let more := (fill (helpWidth - indent) 0 [] operands).map (join " ")
    match lines ++ more with
    | [] => [whole]
    | line :: others =>
      (usageStart ++ g.name ++ " " ++ line) :: others.map fun l => blanks indent ++ l

def Grammar.usage (g : Grammar) : String := ofLines g.usageLines ++ "\n"

/-! ### Two columns -/

/-- a parameter or command with its explanation and the blanks before it -/
structure Row where
  indent : Nat
  label : String
  explanation : String

def Parameter.row (p : Parameter) : Row :=
  { indent := 2
    label := if p.isOption then join ", " (p.names.map (withArguments p)) else p.placeholder
    explanation := p.help }

def commandRow (c : String × String) : Row := ⟨4, c.1, c.2⟩

/-- the rows of a parameter; commands follow the operand that stands for them -/
def Grammar.rowsOf (g : Grammar) (p : Parameter) : List Row :=
  p.row :: (if p.key == .command then g.commands.map commandRow else [])

/-- the column where the explanations of a grammar start -/
def Grammar.column (g : Grammar) : Nat :=
  let widths := (g.parameters.flatMap g.rowsOf).map fun r => r.indent + r.label.length
  min helpColumn ((widths.foldl max 0) + 2)

/-- lines of a row; a label that is too long stands on a line of its own -/
def Row.lines (column : Nat) (r : Row) : List String :=
  let label := blanks r.indent ++ r.label
  match wrap (helpWidth - column) r.explanation with
  | [] => [label]
  | first :: others =>
    let others := others.map fun l => blanks column ++ l
    if r.explanation.isEmpty then [label]
    else if label.length + 2 ≤ column then (padRight column label ++ first) :: others
    else label :: (blanks column ++ first) :: others

/-! ### Help -/

/-- parts of the help in their order -/
def headings : List String := ["positional arguments", "options", "verbosity"]

def Grammar.sectionLines (g : Grammar) (heading : String) : List String :=
  match g.parameters.filter fun p => p.heading == heading with
  | [] => []
  | ps => "" :: (heading ++ ":") :: (ps.flatMap g.rowsOf).flatMap (Row.lines g.column)

def Grammar.help (g : Grammar) : String :=
  let description := if g.description.isEmpty then [] else ["", g.description]
  let examples := if g.examples.isEmpty then []
    else ["", "Examples:"] ++ g.examples.map fun e => "  " ++ g.name ++ " " ++ e
  ofLines (g.usageLines ++ description ++ headings.flatMap g.sectionLines ++ examples) ++ "\n"

end EndpointScaffold.CommandLine
