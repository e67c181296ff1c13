import EndpointScaffold.Files.Path
import EndpointScaffold.Text.Quoted

/-!
# File trees and failures

A tree holds a folder or a file at each of its places. The root is always a folder. `put`, `unlink`
and `remove` change a tree, `find?` looks at one place:

* `find?_put_self`, `find?_put_of_ne` a place after `put`;
* `unlink_put`, `unlink_of_find?` an entry that was put and dropped again;
* `entriesBelow` everything below a place.
-/

namespace EndpointScaffold.Files

inductive Node where
  | folder
  | file (bytes : List UInt8)
  deriving DecidableEq, Repr

/-- what is at each place; of two entries for one place the first counts -/
structure Tree where
  entries : List (Place × Node)
  deriving DecidableEq, Repr

namespace Tree

def empty : Tree := ⟨[]⟩

def find? (t : Tree) (p : Place) : Option Node :=
  if p = [] then some .folder else t.entries.lookup p

/-- replaces the entry of a place, or adds one at the end -/
def putEntry (p : Place) (n : Node) : List (Place × Node) → List (Place × Node)
  | [] => [(p, n)]
  | (q, m) :: rest => if q = p then (p, n) :: rest else (q, m) :: putEntry p n rest

def put (t : Tree) (p : Place) (n : Node) : Tree := ⟨putEntry p n t.entries⟩

/-- drops the entry of a place -/
def unlink (t : Tree) (p : Place) : Tree := ⟨t.entries.filter fun e => e.1 != p⟩

/-- drops a place with everything below it -/
def remove (t : Tree) (p : Place) : Tree := ⟨t.entries.filter fun e => !isWithin p e.1⟩

def isFolder (t : Tree) (p : Place) : Bool := t.find? p == some .folder

/-- everything below a place, the place itself left out -/
def entriesBelow (t : Tree) (p : Place) : List (Place × Node) :=
  t.entries.filter fun e => isWithin p e.1 && e.1 != p

/-! ### Looking after a change -/

theorem lookup_putEntry_self (p : Place) (n : Node) (es : List (Place × Node)) :
    (putEntry p n es).lookup p = some n := by
  induction es with
  | nil => simp [putEntry]
  | cons e es ih =>
    obtain ⟨q, m⟩ := e
    by_cases h : q = p
    · simp [putEntry, h]
    · have hb : (p == q) = false := by simpa using fun h' => h h'.symm
      simp [putEntry, h, List.lookup_cons, hb, ih]

theorem lookup_putEntry_of_ne {p q : Place} (n : Node) (h : q ≠ p) (es : List (Place × Node)) :
    (putEntry p n es).lookup q = es.lookup q := by
  have hb : (q == p) = false := by simpa using h
  induction es with
  | nil => simp [putEntry, List.lookup_cons, hb]
  | cons e es ih =>
    obtain ⟨r, m⟩ := e
    by_cases hr : r = p
    · subst hr
      simp [putEntry, List.lookup_cons, hb]
    · simp [putEntry, hr, List.lookup_cons, ih]

@[simp] theorem find?_nil (t : Tree) : t.find? [] = some .folder := by simp [find?]

theorem find?_put_self (t : Tree) {p : Place} (n : Node) (h : p ≠ []) :
    (t.put p n).find? p = some n := by
  simp [find?, put, h, lookup_putEntry_self]

theorem find?_put_of_ne (t : Tree) {p q : Place} (n : Node) (h : q ≠ p) :
    (t.put p n).find? q = t.find? q := by
  by_cases hq : q = []
  · simp [hq]
  · simp [find?, put, hq, lookup_putEntry_of_ne n h]

theorem put_put (t : Tree) (p : Place) (m n : Node) : (t.put p m).put p n = t.put p n := by
  obtain ⟨es⟩ := t
  rw [put, put, put, mk.injEq]
  induction es with
  | nil => simp [putEntry]
  | cons e es ih =>
    obtain ⟨q, k⟩ := e
    by_cases h : q = p
    · simp [putEntry, h]
    · simp [putEntry, h, ih]

theorem unlink_put (t : Tree) (p : Place) (n : Node) : (t.put p n).unlink p = t.unlink p := by
  obtain ⟨es⟩ := t
  rw [unlink, unlink, put, mk.injEq]
  induction es with
  | nil => simp [putEntry]
  | cons e es ih =>
    obtain ⟨q, m⟩ := e
    by_cases h : q = p
    · simp [putEntry, h]
    · simp [putEntry, h, ih]

theorem unlink_of_find? {t : Tree} {p : Place} (hp : p ≠ []) (h : t.find? p = none) :
    t.unlink p = t := by
  rw [find?, if_neg hp, List.lookup_eq_none_iff] at h
  obtain ⟨es⟩ := t
  rw [unlink, mk.injEq, List.filter_eq_self]
  intro e he
  have hne := h e he
  rw [bne_iff_ne] at hne ⊢
  exact hne.symm

end Tree

end EndpointScaffold.Files

/-!
## Failures of file operations

A failure has a cause and names the path it is about, and a second one if a file was to be moved.
-/

namespace EndpointScaffold.Files

open Text

inductive Cause where
  /-- nothing is there -/
  | missing
  | busy
  /-- something is there already -/
  | present
  /-- a file stands where a folder is needed -/
  | notFolder
  /-- a folder stands where a file is needed -/
  | isFolder
  /-- a name, or the whole path, is longer than names and paths can be -/
  | tooLong
  /-- the path holds a null character -/
  | nullCharacter
  deriving DecidableEq, Repr

/-- name of the kind of failure -/
def Cause.kind : Cause → String
  | .missing => "FileNotFoundError"
  | .busy => "OSError"
  | .present => "FileExistsError"
  | .notFolder => "NotADirectoryError"
  | .isFolder => "IsADirectoryError"
  | .tooLong => "OSError"
  | .nullCharacter => "ValueError"

/-- number of the cause; a null character has none, for no file system ever sees it -/
def Cause.number? : Cause → Option Nat
  | .missing => some 2
  | .busy => some 16
  | .present => some 17
  | .notFolder => some 20
  | .isFolder => some 21
  | .tooLong => some 36
  | .nullCharacter => none

def Cause.text : Cause → String
  | .missing => "No such file or directory"
  | .busy => "Device or resource busy"
  | .present => "File exists"
  | .notFolder => "Not a directory"
  | .isFolder => "Is a directory"
  | .tooLong => "File name too long"
  | .nullCharacter => "embedded null byte"

structure Failure where
  cause : Cause
  path : String
  /-- where the file at `path` was to be moved -/
  target : Option String := none
  deriving DecidableEq, Repr

def Failure.message (f : Failure) : String :=
  match f.cause.number? with
  | none => f.cause.text
  | some n =>
    "[Errno " ++ toString n ++ "] " ++ f.cause.text ++ ": " ++ quoted f.path
      ++ ((f.target.map fun t => " -> " ++ quoted t).getD "")

end EndpointScaffold.Files
