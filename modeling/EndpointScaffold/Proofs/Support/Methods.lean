import EndpointScaffold.Proofs.Support.Readable

/-!
# Methods of a mapper

The lines of the methods of a mapper, with their indentation: a method that makes an object lists
the members that it fills, and one that changes an object assigns them one by one. Where a line
opens a method, no line before it is the same.

* `toEntityHead`, `applyToHead`, `toResponseHead` the lines that open the methods;
* `IsOpening` what all of these begin with, and few other lines do;
* `mapperLines_eq` the lines of a mapper, `blockLines_toEntity`, `blockLines_applyTo`,
  `blockLines_toResponse` those in its methods.
-/

namespace EndpointScaffold.Support

open Text

variable {c : Config} {e : Entity} {line : String} {names : List String}

/-! ### Lines of a method -/

def toEntityHead (e : Entity) : String :=
  "    public static " ++ e.name ++ " ToEntity(this Create" ++ e.name ++ "Request request)"

def applyToHead (e : Entity) : String :=
  "    public static void ApplyTo(this Update" ++ e.name ++ "Request request, " ++ e.name
    ++ " entity)"

def toResponseHead (e : Entity) : String :=
  "    public static " ++ e.name ++ "Response ToResponse(this " ++ e.name ++ " entity)"

/-- the lines that follow the one that opens a method which makes an object -/
def makingLines (made : String) : List String :=
  ["    \x7b", "        return new " ++ made, "        \x7b"]

/-- a member that a new object is filled with -/
def fillingLine (source name : String) : String :=
  "            " ++ name ++ " = " ++ source ++ "." ++ name ++ ","

/-- a member that is written over -/
def assigningLine (name : String) : String :=
  "        entity." ++ name ++ " = request." ++ name ++ ";"

theorem indented_append (depth : Nat) (xs ys : List String) :
    indented depth (xs ++ ys) = indented depth xs ++ indented depth ys := List.map_append

theorem isBlankText_append_left {s : String} (h : isBlankText s = false) (t : String) :
    isBlankText (s ++ t) = false := by
  rw [isBlankText_append, h, Bool.false_and]

theorem isBlankText_append_right {t : String} (h : isBlankText t = false) (s : String) :
    isBlankText (s ++ t) = false := by
  rw [isBlankText_append, h, Bool.and_false]

/-- lines with two indentations, one around the other -/
theorem indented_indented {depth depth' : Nat} {lines : List String}
    (h : ∀ line ∈ lines, isBlankText line = false) :
    indented depth (indented depth' lines) =
      lines.map fun line => blanks (4 * depth) ++ (blanks (4 * depth') ++ line) := by
  have hinner : ∀ line ∈ indented depth' lines, isBlankText line = false := fun line hline => by
    rw [indented, indent_eq_map h] at hline
    obtain ⟨inner, hinner, rfl⟩ := List.mem_map.1 hline
    exact isBlankText_append_right (h inner hinner) _
  rw [indented, indent_eq_map hinner, indented, indent_eq_map h, List.map_map]
  rfl

/-- a method that makes an object -/
theorem indented_makingMethod {heading : String} (h : isBlankText heading = false)
    (made source : String) (names : List String) :
    indented 1 (makingMethod heading made source names) =
      (blanks 4 ++ heading) :: (makingLines made
        ++ (names.map (fillingLine source) ++ "        \x7d;" :: ["    \x7d"])) := by
  have hfilling : ∀ line ∈ names.map fun n => n ++ " = " ++ source ++ "." ++ n ++ ",",
      isBlankText line = false := fun line hline => by
    obtain ⟨n, -, rfl⟩ := List.mem_map.1 hline
    exact isBlankText_append_right (by decide) _
  have hopening : ∀ line ∈ [heading, "\x7b", "    return new " ++ made, "    \x7b"],
      isBlankText line = false := List.forall_mem_cons.2 ⟨h, List.forall_mem_cons.2 ⟨by decide,
    List.forall_mem_cons.2 ⟨isBlankText_append_left (by decide) _, by decide⟩⟩⟩
  have hclosing : indented 1 ["    \x7d;", "\x7d"] = ["        \x7d;", "    \x7d"] := by decide
  have hmade : blanks 4 ++ ("    return new " ++ made) = "        return new " ++ made := by
    refine String.toList_inj.1 ?_
    simp only [String.toList_append]
    rfl
  have hname : ∀ n : String, blanks 4 ++ (blanks 8 ++ (n ++ " = " ++ source ++ "." ++ n ++ ",")) =
      fillingLine source n := fun n => by
    unfold fillingLine
    refine String.toList_inj.1 ?_
    simp only [String.toList_append, List.append_assoc]
    rfl
  have hheadings : indented 1 [heading, "\x7b", "    return new " ++ made, "    \x7b"] =
      (blanks 4 ++ heading) :: makingLines made := by
    rw [indented, indent_eq_map hopening, makingLines, ← hmade]
    rfl
  have hbody : indented 1 (indented 2
      (names.map fun n => n ++ " = " ++ source ++ "." ++ n ++ ",")) =
        names.map (fillingLine source) := by
    rw [indented_indented hfilling, List.map_map]
    exact List.map_congr_left fun n _ => hname n
  rw [makingMethod, indented_append, indented_append, hbody, hclosing, hheadings]
  simp only [List.cons_append, List.append_assoc]

/-- the method that changes an object -/
theorem indented_applyToLines (e : Entity) :
    indented 1 (applyToLines e) = applyToHead e :: (["    \x7b"]
      ++ ((updatedNames e).map assigningLine ++ "    \x7d" :: [])) := by
  have hassigning : ∀ line ∈ (updatedNames e).map fun n =>
      "entity." ++ n ++ " = request." ++ n ++ ";", isBlankText line = false := fun line hline => by
    obtain ⟨n, -, rfl⟩ := List.mem_map.1 hline
    exact isBlankText_append_right (by decide) _
  have hheading : isBlankText ("public static void ApplyTo(this " ++ updateRequestName e
      ++ " request, " ++ e.name ++ " entity)") = false := isBlankText_append_right (by decide) _
  have hhead : blanks 4 ++ ("public static void ApplyTo(this " ++ updateRequestName e
      ++ " request, " ++ e.name ++ " entity)") = applyToHead e := by
    unfold applyToHead updateRequestName
    refine String.toList_inj.1 ?_
    simp only [String.toList_append, List.append_assoc]
    rfl
  have hname : ∀ n : String,
      blanks 4 ++ (blanks 4 ++ ("entity." ++ n ++ " = request." ++ n ++ ";")) = assigningLine n := fun n => by
    unfold assigningLine
    refine String.toList_inj.1 ?_
    simp only [String.toList_append, List.append_assoc]
    rfl
  have hopening : indented 1 [("public static void ApplyTo(this " ++ updateRequestName e
      ++ " request, " ++ e.name ++ " entity)"), "\x7b"] = [applyToHead e, "    \x7b"] := by
    rw [indented, indent_eq_map (List.forall_mem_cons.2 ⟨hheading, by decide⟩), List.map_cons,
      hhead]
    rfl
  have hbody : indented 1 (indented 1 ((updatedNames e).map fun n =>
      "entity." ++ n ++ " = request." ++ n ++ ";")) = (updatedNames e).map assigningLine := by
    rw [indented_indented hassigning, List.map_map]
    exact List.map_congr_left fun n _ => hname n
  have hclosing : indented 1 ["\x7d"] = ["    \x7d"] := by decide
  rw [applyToLines, indented_append, indented_append, hopening, hbody, hclosing]
  simp only [List.cons_append, List.nil_append]

theorem indented_toEntityLines (e : Entity) :
    indented 1 (toEntityLines e) = toEntityHead e :: (makingLines e.name
      ++ ((createdNames e).map (fillingLine "request") ++ "        \x7d;" :: ["    \x7d"])) := by
  have hheading : isBlankText ("public static " ++ e.name ++ " ToEntity(this "
      ++ createRequestName e ++ " request)") = false := isBlankText_append_right (by decide) _
  have hhead : blanks 4 ++ ("public static " ++ e.name ++ " ToEntity(this "
      ++ createRequestName e ++ " request)") = toEntityHead e := by
    unfold toEntityHead createRequestName
    refine String.toList_inj.1 ?_
    simp only [String.toList_append, List.append_assoc]
    rfl
  rw [toEntityLines, indented_makingMethod hheading, hhead]

theorem indented_toResponseLines (e : Entity) :
    indented 1 (toResponseLines e) = toResponseHead e :: (makingLines (responseName e)
      ++ ((respondedNames e).map (fillingLine "entity") ++ "        \x7d;" :: ["    \x7d"])) := by
  have hheading : isBlankText ("public static " ++ responseName e ++ " ToResponse(this "
      ++ e.name ++ " entity)") = false := isBlankText_append_right (by decide) _
  have hhead : blanks 4 ++ ("public static " ++ responseName e ++ " ToResponse(this "
      ++ e.name ++ " entity)") = toResponseHead e := by
    unfold toResponseHead responseName
    refine String.toList_inj.1 ?_
    simp only [String.toList_append, List.append_assoc]
    rfl
  rw [toResponseLines, indented_makingMethod hheading, hhead]

/-! ### Lines that open no method -/

/-- a line that begins as those do that open a method, or a constructor -/
def IsOpening (line : String) : Prop := line.toList.take 5 = "    p".toList

instance (line : String) : Decidable (IsOpening line) :=
  inferInstanceAs (Decidable (line.toList.take 5 = "    p".toList))

theorem prefix_append {s t : String} (h : s.toList <+: t.toList) (u : String) :
    s.toList <+: (t ++ u).toList := by
  rw [String.toList_append]
  exact h.trans (List.prefix_append _ _)

theorem take_of_start {n : Nat} {s : String} (hn : n ≤ s.toList.length)
    (h : s.toList <+: line.toList) : line.toList.take n = s.toList.take n := by
  obtain ⟨rest, hrest⟩ := h
  rw [← hrest, List.take_append_of_le_length hn]

theorem not_isOpening_of_start {s : String} (hlength : 5 ≤ s.toList.length) (hs : ¬ IsOpening s)
    (h : s.toList <+: line.toList) : ¬ IsOpening line := by
  rw [IsOpening, take_of_start hlength h]
  exact hs

theorem not_isOpening_header (uses : List String) (space : String) :
    ∀ line ∈ header uses space, ¬ IsOpening line :=
  forall_mem_header (by decide) (by decide)
    (fun u _ => not_isOpening_of_start (s := "using ") (by decide) (by decide)
      (prefix_append (prefix_append (List.prefix_refl _) _) _))
    (not_isOpening_of_start (s := "namespace ") (by decide) (by decide)
      (prefix_append (prefix_append (List.prefix_refl _) _) _))

theorem not_isOpening_mapperHead (name : String) : ¬ IsOpening (mapperHead name) :=
  not_isOpening_of_start (s := "public static class ") (by decide) (by decide)
    (prefix_append (prefix_append (List.prefix_refl _) _) _)

theorem not_isOpening_makingLines (made : String) : ∀ line ∈ makingLines made, ¬ IsOpening line :=
  List.forall_mem_cons.2 ⟨by decide, List.forall_mem_cons.2
    ⟨not_isOpening_of_start (s := "        return new ") (by decide) (by decide)
      (prefix_append (List.prefix_refl _) _), by decide⟩⟩

theorem prefix_fillingLine (source name : String) :
    "            ".toList <+: (fillingLine source name).toList :=
  prefix_append (prefix_append (prefix_append (prefix_append (prefix_append (prefix_append
    (List.prefix_refl _) _) _) _) _) _) _

theorem prefix_assigningLine (name : String) :
    "        entity.".toList <+: (assigningLine name).toList :=
  prefix_append (prefix_append (prefix_append (prefix_append (List.prefix_refl _) _) _) _) _

theorem not_isOpening_fillingLines (source : String) (names : List String) :
    ∀ line ∈ names.map (fillingLine source), ¬ IsOpening line := fun line hline => by
  obtain ⟨n, -, rfl⟩ := List.mem_map.1 hline
  exact not_isOpening_of_start (by decide) (by decide) (prefix_fillingLine source n)

theorem not_isOpening_assigningLines (names : List String) :
    ∀ line ∈ names.map assigningLine, ¬ IsOpening line := fun line hline => by
  obtain ⟨n, -, rfl⟩ := List.mem_map.1 hline
  exact not_isOpening_of_start (by decide) (by decide) (prefix_assigningLine n)

theorem isOpening_of_start {s : String} (hlength : 5 ≤ s.toList.length) (hs : IsOpening s)
    (h : s.toList <+: line.toList) : IsOpening line := by
  rw [IsOpening, take_of_start hlength h]
  exact hs

theorem not_mem_of_isOpening {opening : String} {lines : List String} (h : IsOpening opening)
    (hlines : ∀ line ∈ lines, ¬ IsOpening line) : opening ∉ lines := fun hmem => hlines _ hmem h

theorem isOpening_toEntityHead (e : Entity) : IsOpening (toEntityHead e) :=
  isOpening_of_start (s := "    public static ") (by decide) (by decide)
    (prefix_append (prefix_append (prefix_append (prefix_append (List.prefix_refl _) _) _) _) _)

theorem isOpening_applyToHead (e : Entity) : IsOpening (applyToHead e) :=
  isOpening_of_start (s := "    public static void ApplyTo(this Update") (by decide) (by decide)
    (prefix_append (prefix_append (prefix_append (prefix_append (List.prefix_refl _) _) _) _) _)

theorem isOpening_toResponseHead (e : Entity) : IsOpening (toResponseHead e) :=
  isOpening_of_start (s := "    public static ") (by decide) (by decide)
    (prefix_append (prefix_append (prefix_append (prefix_append (List.prefix_refl _) _) _) _) _)

/-! ### Heads differ -/

theorem ne_of_ending {s t : String} {n : Nat} (hs : n ≤ s.toList.length) (ht : n ≤ t.toList.length)
    (h : s.toList.reverse.take n ≠ t.toList.reverse.take n) (x y : String) : x ++ s ≠ y ++ t := by
  intro heq
  have hreverse := congrArg (fun z : String => z.toList.reverse.take n) heq
  simp only [String.toList_append, List.reverse_append] at hreverse
  rw [List.take_append_of_le_length (by rw [List.length_reverse]; exact hs),
    List.take_append_of_le_length (by rw [List.length_reverse]; exact ht)] at hreverse
  exact h hreverse

theorem toEntityHead_ne_applyToHead (e : Entity) : toEntityHead e ≠ applyToHead e :=
  ne_of_ending (n := 2) (by decide) (by decide) (by decide) _ _

theorem toEntityHead_ne_toResponseHead (e : Entity) : toEntityHead e ≠ toResponseHead e :=
  ne_of_ending (n := 2) (by decide) (by decide) (by decide) _ _

theorem applyToHead_ne_toResponseHead (e : Entity) : applyToHead e ≠ toResponseHead e := by
  intro heq
  unfold applyToHead toResponseHead at heq
  have hcut := (String.append_left_inj _).1 ((String.append_left_inj _).1 heq)
  exact ne_of_ending (n := 2) (by decide) (by decide) (by decide) _ _ hcut

/-! ### Blocks of a mapper -/

/-- the lines before the methods -/
def mapperStart (c : Config) (e : Entity) : List String :=
  header (mapperUses c e) (entityNamespace c e) ++ [mapperHead e.name, "\x7b"]

theorem mapperLines_eq (c : Config) (e : Entity) :
    mapperLines c e = mapperStart c e ++ (indented 1 (toEntityLines e) ++ ([""]
      ++ (indented 1 (applyToLines e) ++ ([""] ++ (indented 1 (toResponseLines e)
        ++ ["\x7d", ""]))))) := by
  have hgap : indented 1 [""] = [""] := by decide
  unfold mapperLines mapperStart mapperHead
  rw [indented_append, indented_append, indented_append, indented_append, hgap]
  simp only [List.append_assoc]

theorem not_isOpening_mapperStart (c : Config) (e : Entity) :
    ∀ line ∈ mapperStart c e, ¬ IsOpening line :=
  List.forall_mem_append.2 ⟨not_isOpening_header _ _,
    List.forall_mem_cons.2 ⟨not_isOpening_mapperHead _, by decide⟩⟩

theorem closing_not_mem_fillingLines (source : String) (names : List String) :
    "        \x7d;" ∉ names.map (fillingLine source) := fun hmem => by
  obtain ⟨n, -, hn⟩ := List.mem_map.1 hmem
  have hstart := take_of_start (n := 9) (by decide) (prefix_fillingLine source n)
  rw [hn] at hstart
  revert hstart
  decide

theorem closing_not_mem_assigningLines (names : List String) :
    "    \x7d" ∉ names.map assigningLine := fun hmem => by
  obtain ⟨n, -, hn⟩ := List.mem_map.1 hmem
  have hstart := take_of_start (n := 5) (by decide) (prefix_assigningLine n)
  rw [hn] at hstart
  revert hstart
  decide

theorem blockLines_toEntity (c : Config) (e : Entity) :
    blockLines 3 (toEntityHead e) "        \x7d;" (mapperLines c e) =
      (createdNames e).map (fillingLine "request") := by
  have hfront := not_mem_of_isOpening (isOpening_toEntityHead e) (not_isOpening_mapperStart c e)
  rw [mapperLines_eq, indented_toEntityLines]
  simp only [List.cons_append, List.append_assoc]
  exact blockLines_eq (makingLines e.name) hfront (closing_not_mem_fillingLines _ _)

/-- behind the first method, only the heads of methods open one -/
theorem not_mem_toEntityLines {opening : String} (h : IsOpening opening)
    (hne : opening ≠ toEntityHead e) : opening ∉ indented 1 (toEntityLines e) := by
  rw [indented_toEntityLines, List.mem_cons, not_or]
  refine ⟨hne, not_mem_of_isOpening h (List.forall_mem_append.2 ⟨not_isOpening_makingLines _,
    List.forall_mem_append.2 ⟨not_isOpening_fillingLines _ _, by decide⟩⟩)⟩

theorem not_mem_applyToLines {opening : String} (h : IsOpening opening)
    (hne : opening ≠ applyToHead e) : opening ∉ indented 1 (applyToLines e) := by
  rw [indented_applyToLines, List.mem_cons, not_or]
  refine ⟨hne, not_mem_of_isOpening h (List.forall_mem_append.2 ⟨by decide,
    List.forall_mem_append.2 ⟨not_isOpening_assigningLines _, by decide⟩⟩)⟩

theorem blockLines_applyTo (c : Config) (e : Entity) :
    blockLines 1 (applyToHead e) "    \x7d" (mapperLines c e) =
      (updatedNames e).map assigningLine := by
  have hopening := isOpening_applyToHead e
  have hfront : applyToHead e ∉ mapperStart c e ++ (indented 1 (toEntityLines e) ++ [""]) := by
    rw [List.mem_append, List.mem_append, not_or, not_or]
    exact ⟨not_mem_of_isOpening hopening (not_isOpening_mapperStart c e),
      not_mem_toEntityLines hopening (toEntityHead_ne_applyToHead e).symm,
      not_mem_of_isOpening hopening (by decide)⟩
  have hlines : mapperLines c e = (mapperStart c e ++ (indented 1 (toEntityLines e) ++ [""]))
      ++ applyToHead e :: (["    \x7b"] ++ ((updatedNames e).map assigningLine ++ "    \x7d" ::
        ("" :: (indented 1 (toResponseLines e) ++ ["\x7d", ""])))) := by
    rw [mapperLines_eq, indented_applyToLines]
    simp only [List.cons_append, List.append_assoc, List.nil_append]
  rw [hlines]
  exact blockLines_eq ["    \x7b"] hfront (closing_not_mem_assigningLines _)

theorem blockLines_toResponse (c : Config) (e : Entity) :
    blockLines 3 (toResponseHead e) "        \x7d;" (mapperLines c e) =
      (respondedNames e).map (fillingLine "entity") := by
  have hopening := isOpening_toResponseHead e
  have hgap : toResponseHead e ∉ [""] := not_mem_of_isOpening hopening (by decide)
  have hfront : toResponseHead e ∉ mapperStart c e ++ (indented 1 (toEntityLines e) ++ ([""]
      ++ (indented 1 (applyToLines e) ++ [""]))) := by
    simp only [List.mem_append, not_or]
    exact ⟨not_mem_of_isOpening hopening (not_isOpening_mapperStart c e),
      not_mem_toEntityLines hopening (toEntityHead_ne_toResponseHead e).symm, hgap,
      not_mem_applyToLines hopening (applyToHead_ne_toResponseHead e).symm, hgap⟩
  have hlines : mapperLines c e = (mapperStart c e ++ (indented 1 (toEntityLines e) ++ ([""]
      ++ (indented 1 (applyToLines e) ++ [""])))) ++ toResponseHead e ::
        (makingLines (responseName e) ++ ((respondedNames e).map (fillingLine "entity")
          ++ "        \x7d;" :: ["    \x7d", "\x7d", ""])) := by
    rw [mapperLines_eq, indented_toResponseLines]
    simp only [List.cons_append, List.append_assoc, List.nil_append]
  rw [hlines]
  exact blockLines_eq (makingLines (responseName e)) hfront (closing_not_mem_fillingLines _ _)

end EndpointScaffold.Support
