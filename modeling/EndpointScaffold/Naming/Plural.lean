import EndpointScaffold.Naming.Identifier
import EndpointScaffold.Text.Character

/-!
# English plurals

`pluralOfWord` forms the plural of one word: invariant nouns stay, irregular nouns come from a table
and keep the case of the word, and the rest follows its ending. `plural` changes only the last word
of a compound name, where a word is an upper-case ASCII letter followed by lower-case letters and
digits, or a run of lower-case letters and digits.
-/

namespace EndpointScaffold.Naming

open Text

def irregularPlurals : List (String × String) := [
  ("person", "people"), ("child", "children"), ("man", "men"), ("woman", "women"),
  ("mouse", "mice"), ("goose", "geese"), ("tooth", "teeth"), ("foot", "feet"), ("ox", "oxen"),
  ("datum", "data"), ("medium", "media"), ("criterion", "criteria"), ("index", "indices"),
  ("matrix", "matrices"), ("vertex", "vertices"), ("axis", "axes"), ("crisis", "crises"),
  ("analysis", "analyses"), ("thesis", "theses"), ("status", "statuses"),
  ("address", "addresses"), ("quiz", "quizzes")]

def invariantNouns : List String := [
  "sheep", "fish", "deer", "moose", "series", "species", "news", "equipment", "information",
  "data", "rice", "money", "aircraft", "software", "hardware", "feedback", "metadata", "staff",
  "media", "people", "police"]

/-- nouns in `o` that take `es` -/
def esNouns : List String := [
  "hero", "potato", "tomato", "echo", "volcano", "buffalo", "torpedo", "veto", "embargo"]

/-- nouns in `f` that take `ves` -/
def vesNouns : List String := [
  "leaf", "loaf", "half", "shelf", "self", "wolf", "calf", "elf", "thief", "sheaf"]

/-! ### One word -/

/-- raises the first character if it is an ASCII letter -/
def capitalize : List Char → List Char
  | [] => []
  | c :: cs => asciiUpperChar c :: cs

/-- gives `form` the case of `word`: all capitals, a capital at the start, or as it is -/
def matchCase (word : List Char) (form : String) : String :=
  if word.all isAsciiUpper && 1 < word.length then asciiUpper form
  else if word.head?.any isUpper then String.ofList (capitalize form.toList)
  else form

/-- whether the lower-cased word takes `es` for its ending -/
def endsInSibilant (low : List Char) : Bool :=
  [['s'], ['s', 'h'], ['c', 'h'], ['x'], ['z']].any (·.isSuffixOf low)

/-- whether the lower-cased word ends in a `y` that follows no vowel -/
def endsInConsonantY (low : List Char) : Bool :=
  match low.reverse with
  | 'y' :: c :: _ => !("aeiou".toList.contains c)
  | _ => false

def replaceEnd (word : List Char) (n : Nat) (ending : String) : String :=
  String.ofList (word.take (word.length - n) ++ ending.toList)

/-- plural of a single word -/
def pluralOfWord (s : String) : String :=
  let word := s.toList
  let low := lower s
  if word.isEmpty then ""
  else if invariantNouns.contains low then s
  else
    match irregularPlurals.lookup low with
    | some form => matchCase word form
    | none =>
      if endsInSibilant low.toList then s ++ "es"
      else if endsInConsonantY low.toList && 1 < word.length then replaceEnd word 1 "ies"
      else if endsWith low "fe" && 2 < word.length then replaceEnd word 2 "ves"
      else if vesNouns.contains low then replaceEnd word 1 "ves"
      else if esNouns.contains low then s ++ "es"
      else s ++ "s"

/-! ### Compound names -/

def isSmall (c : Char) : Bool := isAsciiLower c || isAsciiDigit c

/-- splits a name before its last word; no split if the name does not end in a word -/
def lastWord? (name : List Char) : Option (List Char × List Char) :=
  let small := (name.reverse.takeWhile isSmall).reverse
  let front := name.reverse.dropWhile isSmall
  match front with
  | c :: before =>
    if isAsciiUpper c then some (before.reverse, c :: small)
    else if small.isEmpty then none
    else some (front.reverse, small)
  | [] => if small.isEmpty then none else some ([], small)

/-- plural of a name: its last word becomes plural -/
def plural (name : String) : String :=
  if name.isEmpty then ""
  else
    match lastWord? (dropFinalLineFeed name.toList) with
    | some (head, word) => String.ofList head ++ pluralOfWord (String.ofList word)
    | none => pluralOfWord name

end EndpointScaffold.Naming
