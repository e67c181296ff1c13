import EndpointScaffold.Text.Character

/-!
# Trimming, splitting, joining and lines

Small operations on texts as lists of characters, with the versions on strings that the rest of the
library uses.
-/

namespace EndpointScaffold.Text

/-! ### Trimming -/

/-- drops the characters of class `p` at the end -/
def dropEndWhile (p : Char → Bool) (cs : List Char) : List Char :=
  (cs.reverse.dropWhile p).reverse

def dropAround (p : Char → Bool) (cs : List Char) : List Char :=
  dropEndWhile p (cs.dropWhile p)

/-- drops the blanks at both ends -/
def trim (s : String) : String := String.ofList (dropAround isBlank s.toList)

/-- drops the blanks at the end -/
def trimEnd (s : String) : String := String.ofList (dropEndWhile isBlank s.toList)

/-- drops every `c` at both ends -/
def trimOf (c : Char) (s : String) : String := String.ofList (dropAround (· == c) s.toList)

def trimEndOf (c : Char) (s : String) : String := String.ofList (dropEndWhile (· == c) s.toList)

def dropFinalLineFeed (cs : List Char) : List Char :=
  if cs.getLast? == some '\n' then cs.dropLast else cs

def isBlankText (s : String) : Bool := s.toList.all isBlank

theorem isBlankText_eq_false_iff {s : String} :
    isBlankText s = false ↔ ∃ c ∈ s.toList, isBlank c = false := by
  rw [isBlankText, List.all_eq_false]
  exact exists_congr fun c => and_congr_right fun _ => Bool.not_eq_true _ ▸ Iff.rfl

/-! ### Splitting and joining -/

/-- pieces between the occurrences of `sep`; there is always one more piece than occurrences -/
def splitChars (sep : Char) : List Char → List (List Char)
  | [] => [[]]
  | c :: cs =>
    if c = sep then [] :: splitChars sep cs
    else
      match splitChars sep cs with
      | [] => [[c]]
      | piece :: pieces => (c :: piece) :: pieces

def split (sep : Char) (s : String) : List String :=
  (splitChars sep s.toList).map String.ofList

/-- texts with `sep` between them -/
def join (sep : String) (parts : List String) : String := sep.intercalate parts

/-! ### Finding -/

/-- whether `part` occurs somewhere in `cs` -/
def occursIn (part : List Char) : List Char → Bool
  | [] => part.isEmpty
  | c :: cs => part.isPrefixOf (c :: cs) || occursIn part cs

theorem occursIn_iff {part cs : List Char} : occursIn part cs = true ↔ part <:+: cs := by
  induction cs with
  | nil => rw [occursIn, List.isEmpty_iff, List.infix_nil]
  | cons c cs ih => rw [occursIn, Bool.or_eq_true, List.isPrefixOf_iff_prefix, ih, List.infix_cons_iff]

/-- whether `part` occurs somewhere in `s` -/
def mentions (s part : String) : Bool := occursIn part.toList s.toList

def beginsWith (s part : String) : Bool := part.toList.isPrefixOf s.toList

def endsWith (s part : String) : Bool := part.toList.isSuffixOf s.toList

end EndpointScaffold.Text

/-!
## Lines

Counting the lines of a text, indenting lines, and assembling a text from its lines.
-/

namespace EndpointScaffold.Text

/-- number of lines; a last line without a line feed counts, an empty text has none -/
def lineCount (s : String) : Nat :=
  let cs := s.toList
  if cs.isEmpty then 0
  else cs.count '\n' + (if cs.getLast? == some '\n' then 0 else 1)

def blanks (n : Nat) : String := String.ofList (List.replicate n ' ')

/-- puts `width` blanks before every line that is not blank -/
def indent (width : Nat) (lines : List String) : List String :=
  lines.map fun line => if isBlankText line then line else blanks width ++ line

/-- every line end as a line feed: carriage returns, alone or before a line feed, are line ends too -/
def unifyLineEnds : List Char → List Char
  | '\r' :: '\n' :: cs => '\n' :: unifyLineEnds cs
  | '\r' :: cs => '\n' :: unifyLineEnds cs
  | c :: cs => c :: unifyLineEnds cs
  | [] => []

def ofLines (lines : List String) : String := join "\n" lines

end EndpointScaffold.Text
