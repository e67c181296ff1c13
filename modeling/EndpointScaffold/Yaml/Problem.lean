import EndpointScaffold.Text.Quoted
import EndpointScaffold.Yaml.Cursor

/-!
# Problems of a YAML text

A problem says what is wrong and where, and what was being read when it showed. Its message quotes
the line of each place with a mark below it.
-/

namespace EndpointScaffold.Yaml

open Text

structure Problem where
  /-- what was being read -/
  context : Option String
  contextMark : Option Mark
  text : String
  mark : Mark
  deriving DecidableEq, Repr

/-- why a text has no value -/
inductive Trouble where
  /-- the text is no YAML, or more than can be read -/
  | malformed (p : Problem)
  /-- a character that may not stand in a text -/
  | forbidden (c : Char) (index : Nat)
  /-- a scalar that has no value of its type; `kind` names the kind of misfit -/
  | unfit (kind message : String)
  deriving DecidableEq, Repr

abbrev Result (α : Type) := Except Trouble α

/-- a problem in the course of something else -/
def failIn {α : Type} (context : String) (start : Mark) (text : String) (mark : Mark) : Result α :=
  .error (.malformed ⟨some context, some start, text, mark⟩)

def failAt {α : Type} (text : String) (mark : Mark) : Result α :=
  .error (.malformed ⟨none, none, text, mark⟩)

def shown (c : Char) : String := quoted (String.ofList [c])

/-! ### Messages -/

/-- characters of the line before a mark, cut to what fits -/
def snippetBefore (before : List Char) : List Char × Bool :=
  let line := before.reverse.takeWhile fun c => !isBreak c
  if 36 < line.length then ((line.take 32).reverse, true) else (line.reverse, false)

/-- characters of the line from a mark on, cut to what fits -/
def snippetAfter (after : List Char) : List Char × Bool :=
  let line := after.takeWhile fun c => !isBreak c
  if 36 < line.length then (line.take 32, true) else (line, false)

/-- the line of a mark with a sign below it -/
def Mark.snippet (m : Mark) (text : List Char) : String :=
  let (before, cutBefore) := snippetBefore (text.take m.index)
  let (after, cutAfter) := snippetAfter (text.drop m.index)
  let head := if cutBefore then " ... " else ""
  let tail := if cutAfter then " ... " else ""
  "    " ++ head ++ String.ofList before ++ String.ofList after ++ tail ++ "\n"
    ++ String.ofList (List.replicate (4 + before.length + head.length) ' ') ++ "^"

def Mark.display (m : Mark) (text : List Char) : String :=
  "  in \"<unicode string>\", line " ++ toString (m.line + 1) ++ ", column "
    ++ toString (m.column + 1) ++ ":\n" ++ m.snippet text

def Problem.message (p : Problem) (text : List Char) : String :=
  let context := p.context.toList
  let contextPlace := match p.contextMark with
    | some m =>
      if m.line == p.mark.line && m.column == p.mark.column then [] else [m.display text]
    | none => []
  join "\n" (context ++ contextPlace ++ [p.text, p.mark.display text])

/-- digits of a character code, four at least -/
def codeText (c : Char) : String :=
  let digits := Nat.toDigits 16 c.toNat
  String.ofList (List.replicate (4 - digits.length) '0' ++ digits)

def Trouble.message (t : Trouble) (text : List Char) : String :=
  match t with
  | .malformed p => p.message text
  | .forbidden c index => "unacceptable character #x" ++ codeText c
      ++ ": special characters are not allowed\n  in \"<unicode string>\", position "
      ++ toString index
  | .unfit _ message => message

end EndpointScaffold.Yaml
