import EndpointScaffold.Proofs.Export.Placing
import EndpointScaffold.Proofs.Files.NormalForm

/-!
# Exports stay below their root

An exporter refuses a path exactly if its normal form is neither the root nor below it, where whole
names are compared, and otherwise aims at that normal form. If the root is there, an export changes
nothing outside of it, whatever its files are called.

* `target_iff` paths that are accepted, and paths that are refused;
* `not_prefix_of_longer` a place beside the root whose name only begins like that of the root;
* `outside_placeAll` what lies outside of a root that is there;
* `IsContained`, `isContained_of_look` all of it.
-/

namespace EndpointScaffold.Export

open Files Support

variable {x : Exporter} {d : Disk} {path : String} {t : Place}

/-! ### Targets -/

theorem target_iff (hroot : IsPlace x.root) (hnull : '\x00' ∉ path.toList)
    (ht : Path.IsNormalForm (Path.joined x.root path) t) :
    (x.target path = .ok t ↔ x.root <+: t) ∧
      (x.target path = .error (.escapes path) ↔ ¬ x.root <+: t) := by
  have hplace : ((Path.ofPlace x.root).below path).resolved [] = t := by
    rw [Path.resolved_below hroot, Path.isNormalForm_iff.mp ht]
  have htarget : x.target path =
      if isWithin x.root t then .ok t else .error (.escapes path) := by
    rw [Exporter.target, if_neg fun h => hnull (List.contains_iff_mem.mp h), hplace]
  have hwithin : isWithin x.root t = true ↔ x.root <+: t := List.isPrefixOf_iff_prefix
  rw [htarget, ← hwithin]
  cases isWithin x.root t with
  | true => exact ⟨⟨fun _ => rfl, fun _ => rfl⟩, ⟨fun h => (by cases h), fun h => absurd rfl h⟩⟩
  | false =>
    exact ⟨⟨fun h => (by cases h), fun h => (by cases h)⟩,
      ⟨fun _ => Bool.false_ne_true, fun _ => rfl⟩⟩

/-- a name that goes on behind the name of the root is another name -/
theorem not_prefix_of_longer (above : Place) (name : String) {more : String} (hmore : more ≠ "")
    (rest : List String) : ¬ above ++ [name] <+: above ++ (name ++ more) :: rest := by
  rw [List.prefix_append_right_inj, List.cons_prefix_cons]
  rintro ⟨hname, -⟩
  exact hmore (String.append_eq_left_iff.mp hname.symm)

/-! ### Outside of the root -/

/-- an export leaves everything alone outside of a root that is there -/
theorem outside_placeAll (hd : d.tree.IsProper) {n : Node} (hroot : d.tree.find? x.root = some n)
    (files : List SourceFile) {q : Place} (hq : ¬ x.root <+: q) :
    (x.placeAll d files).disk.tree.find? q = d.tree.find? q := by
  have hchange := (placeAll_grows (x := x) hd files).2.change q
  generalize (x.placeAll d files).disk.tree.find? q = new at hchange
  generalize hold : d.tree.find? q = old at hchange
  cases hchange with
  | same => rfl
  | file hfile =>
    obtain ⟨f, -, ht, -⟩ := hfile
    exact absurd (target_eq_ok ht).1 hq
  | folder haim habove =>
    obtain ⟨f, -, ht⟩ := haim
    -- the folder would lie above the root, and there every folder is there already
    obtain ⟨names, hnames⟩ :=
      (List.prefix_or_prefix_of_prefix habove (target_eq_ok ht).1).resolve_right hq
    have hne : names ≠ [] := by
      rintro rfl
      rw [List.append_nil] at hnames
      exact hq (hnames ▸ List.prefix_refl q)
    rw [← hnames] at hroot
    rw [Tree.find?_of_append hd hne hroot] at hold
    cases hold

/-! ### All of it -/

/-- an exporter that accepts exactly the paths that stay below its root, and changes nothing outside
of it -/
structure IsContained (x : Exporter) (d : Disk) : Prop where
  /-- what cancels out in a path can be dropped in any order -/
  normal : ∀ path, ∃! t, Path.IsNormalForm (Path.joined x.root path) t
  accepted : ∀ path t, '\x00' ∉ path.toList → Path.IsNormalForm (Path.joined x.root path) t →
    (x.target path = .ok t ↔ x.root <+: t)
  refused : ∀ path t, '\x00' ∉ path.toList → Path.IsNormalForm (Path.joined x.root path) t →
    (x.target path = .error (.escapes path) ↔ ¬ x.root <+: t)
  /-- whole names are compared -/
  sibling : ∀ path above name more rest, '\x00' ∉ path.toList → x.root = above ++ [name] →
    more ≠ "" → Path.IsNormalForm (Path.joined x.root path) (above ++ (name ++ more) :: rest) →
      x.target path = .error (.escapes path)
  outside : ∀ (sofar : Outcome) (files : List SourceFile) (q : Place), ¬ x.root <+: q →
    (x.run d sofar files).value.disk.tree.find? q = d.tree.find? q

/-- an exporter whose root is found on the disk stays below it -/
theorem isContained_of_look {folder : String} {n : Node} (hd : d.tree.IsProper)
    (hhere : IsPlace d.here) (hfolder : d.look (Path.ofText folder) = .ok n)
    (hx : x.root = (Path.ofText folder).resolved d.here) : IsContained x d := by
  have hroot : IsPlace x.root := hx ▸ Path.isPlace_resolved hhere folder
  have hfound : d.tree.find? x.root = some n := hx ▸ (Disk.look_eq_ok_iff.mp hfolder).2
  constructor
  case normal =>
    exact fun path => ⟨_, Path.isNormalForm_iff.mpr rfl, fun t ht => Path.isNormalForm_iff.mp ht⟩
  case accepted => exact fun path t hnull ht => (target_iff hroot hnull ht).1
  case refused => exact fun path t hnull ht => (target_iff hroot hnull ht).2
  case sibling =>
    intro path above name more rest hnull habove hmore ht
    refine (target_iff hroot hnull ht).2.mpr ?_
    rw [habove]
    exact not_prefix_of_longer above name hmore rest
  case outside => exact fun _ files q hq => outside_placeAll hd hfound (inOrder files) hq

/-! ### Two folders beside each other -/

/-- a folder, and another one whose name begins like its name -/
def shopDisk : Disk := ⟨⟨[(["Shop"], .folder), (["Shopfront"], .folder)]⟩, ["Shopfront"]⟩

/-- an exporter for the first folder, seen from the second one -/
def shopExporter : Exporter := { root := ["Shop"], overwrites := true }

theorem isContained_shop :
    (shopDisk.tree.IsProper ∧ IsPlace shopDisk.here ∧
      shopDisk.look (Path.ofText "../Shop//.") = .ok .folder ∧
      shopExporter.root = (Path.ofText "../Shop//.").resolved shopDisk.here) ∧
    IsContained shopExporter shopDisk ∧
      shopExporter.target "a/../../Shopfront/b.cs" =
        .error (.escapes "a/../../Shopfront/b.cs") := by
  have hproper : shopDisk.tree.IsProper := ⟨by decide, by decide, by decide⟩
  have hhere : IsPlace shopDisk.here := fun name hname => by
    obtain rfl := List.mem_singleton.mp hname
    exact ⟨by decide, by decide, by decide, by decide⟩
  have hlook : shopDisk.look (Path.ofText "../Shop//.") = .ok .folder := by rfl
  have hroot : shopExporter.root = (Path.ofText "../Shop//.").resolved shopDisk.here := by decide
  have hcontained : IsContained shopExporter shopDisk :=
    isContained_of_look hproper hhere hlook hroot
  refine ⟨⟨hproper, hhere, hlook, hroot⟩, hcontained, ?_⟩
  refine hcontained.sibling _ [] "Shop" "front" ["b.cs"] (by decide) rfl (by decide) ?_
  exact Path.isNormalForm_iff.mpr (by decide)

end EndpointScaffold.Export
