import EndpointScaffold.CSharp.Lexeme
import EndpointScaffold.Grammar.Production

/-!
# Plain tokens

`Lexis.token` finds the plain token at a place among those that are expected there. Of several the
one of the highest priority is taken, then the longest, then one with a fixed text, then the first
in the order of the grammar. Reserved words are found as words. Where there is none, `Lexis.reach`
tells how much of the text the search has taken.
-/

namespace EndpointScaffold.CSharp

open Grammar Parsing Std

/-- the plain tokens of a grammar, sorted by the way they are found -/
structure Lexis where
  /-- tokens that no white space may stand before, with their patterns and priorities -/
  immediate : List (Nat × String × Int)
  patterns : List (Nat × String × Int)
  /-- tokens with fixed texts, by the codes of their first characters -/
  texts : HashMap Nat (List (Nat × List Char))
  word : Nat
  reserved : SymbolSet
  /-- the end of a line, where that counts -/
  lineEnd : Nat
  /-- tokens that are looked for in damaged text: all but those that match nearly any text -/
  recovery : SymbolSet

namespace Lexis

/-- patterns that no white space may stand before -/
def immediatePatterns : List String :=
  ["characterLiteralContent", "stringContent"]

/-- patterns that are not looked for in damaged text -/
def unsoughtPatterns : List String :=
  ["characterLiteralContent", "stringContent", "formatText", "lineEnd", "directiveText"]

def priority (pattern : String) : Int :=
  match pattern with
  | "stringContent" => 1
  | "directiveText" => -1
  | _ => 0

def ofLanguage (l : Language) (wordPatterns : List String) : Lexis :=
  let plain := (List.range l.plainEnd).filterMap fun n =>
    (l.entry n).form.map fun f => (n, f)
  let patterns := plain.filterMap fun (e : Nat × Form) =>
    match e.2 with
    | .pattern name =>
      if wordPatterns.contains name then none else some (e.1, name, priority name)
    | .text _ => none
  let texts := plain.filterMap fun (e : Nat × Form) =>
    match e.2 with
    | .text s => if Language.isWordText s then none else some (e.1, s.toList)
    | .pattern _ => none
  { immediate := patterns.filter fun p => immediatePatterns.contains p.2.1
    patterns := patterns.filter fun p =>
      !immediatePatterns.contains p.2.1 && p.2.1 != "lineEnd"
    texts := texts.foldl (fun found t =>
      let c := (t.2.headD ' ').toNat
      found.insert c (found.getD c [] ++ [t])) ∅
    word := l.word
    reserved := l.reserved.fold (fun s _ n => s.insert n) .empty
    lineEnd := ((patterns.find? fun p => p.2.1 == "lineEnd").map (·.1)).getD 0
    recovery := .ofList ((List.range l.plainEnd).filter fun n =>
      !(l.entry n).form.any fun f => match f with
        | .pattern name => unsoughtPatterns.contains name
        | .text _ => false) }

/-- a token that was found, with what decides between several -/
structure Candidate where
  token : Nat
  start : Nat
  stop : Nat
  priority : Int
  isText : Bool

def Candidate.beats (a b : Candidate) : Bool :=
  if a.priority != b.priority then decide (b.priority < a.priority)
  else if a.stop != b.stop then decide (b.stop < a.stop)
  else if a.isText != b.isText then a.isText
  else decide (a.token < b.token)

def better (a : Option Candidate) (b : Candidate) : Option Candidate :=
  match a with
  | none => some b
  | some a => if b.beats a then some b else some a

/-- whether a token is expected; with any reserved word a word is -/
def expectsToken (x : Lexis) (expects : SymbolSet) (token : Nat) : Bool :=
  expects.contains token || (token == x.word && !(expects.inter x.reserved).isEmpty)

/-- the best of the candidates by patterns at a place -/
def bestPattern (x : Lexis) (s : Source) (expects : SymbolSet) (i : Nat)
    (patterns : List (Nat × String × Int)) (best : Option Candidate) : Option Candidate :=
  patterns.foldl (fun best p =>
    if x.expectsToken expects p.1 then
      match lexemeEnd p.2.1 s i with
      | some j => better best ⟨p.1, i, j, p.2.2, false⟩
      | none => best
    else best) best

def bestText (x : Lexis) (s : Source) (expects : SymbolSet) (i : Nat)
    (best : Option Candidate) : Option Candidate :=
  match s.at? i with
  | none => best
  | some c =>
    (x.texts.getD c.toNat []).foldl (fun best t =>
      if expects.contains t.1 && s.hasAt t.2 i then
        better best ⟨t.1, i, i + t.2.length, 0, true⟩
      else best) best

/-- the plain token at a place, and where it stands -/
def token (x : Lexis) (s : Source) (expects : SymbolSet) (i : Nat) : Option (Nat × Nat × Nat) :=
  let first := x.bestPattern s expects i x.immediate none
  let found : Option Candidate :=
    if first.isSome && s.holds isSpace i then first
    else
      let skipped := s.skip (fun c => isSpace c && c != '\n') i
      let j := s.skip isSpace i
      if expects.contains x.lineEnd && s.isAt skipped '\n' then
        some ⟨x.lineEnd, skipped, skipped + 1, 0, false⟩
      else if s.size ≤ j then
        first.or (if expects.contains 0 then some ⟨0, j, j, 0, false⟩ else none)
      else x.bestPattern s expects j x.patterns (x.bestText s expects j first)
  found.map fun c => (c.token, c.start, c.stop)

/-- how far the search for a token goes at a place where there is none: over white space and what
begins like a token -/
def reach (x : Lexis) (s : Source) (i : Nat) : Nat :=
  let j := s.skip isSpace i
  x.patterns.foldl (fun j' p => max j' (lexemeReach p.2.1 s j)) j

end Lexis

end EndpointScaffold.CSharp
