import UnicodeIdentifier.FileTree
import UnicodeIdentifier.Proofs.Outcome

/-!
# Reading what was written

A file is put only where no directory stands.  Paths are followed through directories, so every path
that could be followed before leads to the same place afterwards.  What was written under a path is
therefore read back under it.
-/

namespace UnicodeIdentifier
namespace FileTree

variable {tree after : FileTree} {place from' next : Place} {node : Node} {path : String}
  {parts front back : List String} {contents : ByteArray} {text : String} {cause : FileError}

@[simp]
theorem node?_nil : tree.node? [] = some .directory := rfl

theorem node?_eq_lookup (notRoot : place ≠ []) : tree.node? place = tree.nodes.lookup place := by
  cases place with
  | nil => exact absurd rfl notRoot
  | cons name names => rfl

theorem ne_nil_of_node?_ne_directory (noDirectory : tree.node? place ≠ some .directory) :
    place ≠ [] := by
  rintro rfl
  exact noDirectory node?_nil

theorem node?_put_self (notRoot : place ≠ []) : (tree.put place node).node? place = some node := by
  rw [node?_eq_lookup notRoot, put, List.lookup_cons_self]

theorem lookup_filter_ne {nodes : List (Place × Node)} {other : Place} (different : other ≠ place) :
    (nodes.filter (·.1 != place)).lookup other = nodes.lookup other := by
  induction nodes with
  | nil => rfl
  | cons entry rest ih =>
    obtain ⟨key, value⟩ := entry
    by_cases isPlace : key = place
    · subst isPlace
      have isOther : (other == key) = false := beq_eq_false_iff_ne.mpr different
      simp [List.lookup_cons, isOther, ih]
    · simp [isPlace, List.lookup_cons, ih]

theorem node?_put_of_ne {other : Place} (different : other ≠ place) :
    (tree.put place node).node? other = tree.node? other := by
  cases other with
  | nil => rfl
  | cons name names =>
    have isOther : (name :: names == place) = false := beq_eq_false_iff_ne.mpr different
    simp only [node?, put, List.lookup_cons, isOther]
    exact lookup_filter_ne different

theorem node?_of_step (stepped : tree.step place component = .ok next) :
    tree.node? place = some .directory := by
  rw [step] at stepped
  split at stepped
  · cases stepped
  · cases stepped
  · assumption

/-- A step depends only on what stands at the place that is left. -/
theorem step_congr {other : FileTree} (same : other.node? place = tree.node? place)
    (component : String) : other.step place component = tree.step place component := by
  rw [step, step, same]

/-- A step is made from a directory, which a node put elsewhere does not disturb. -/
theorem step_put (noDirectory : tree.node? place ≠ some .directory)
    (stepped : tree.step from' component = .ok next) :
    (tree.put place node).step from' component = .ok next := by
  rw [step_congr (node?_put_of_ne ?_), stepped]
  rintro rfl
  exact noDirectory (node?_of_step stepped)

theorem follow_put (noDirectory : tree.node? place ≠ some .directory)
    (followed : tree.follow from' parts = .ok next) :
    (tree.put place node).follow from' parts = .ok next := by
  induction parts generalizing from' with
  | nil => exact followed
  | cons component rest ih =>
    rw [follow, bind_eq_ok_iff] at followed ⊢
    obtain ⟨middle, stepped, others⟩ := followed
    exact ⟨middle, step_put noDirectory stepped, ih others⟩

theorem follow_append :
    tree.follow from' (front ++ back) = tree.follow from' front >>= (tree.follow · back) := by
  induction front generalizing from' with
  | nil => rfl
  | cons component rest ih =>
    rw [List.cons_append, follow, follow]
    cases tree.step from' component with
    | error cause => rfl
    | ok middle => exact ih

theorem resolve_put (noDirectory : tree.node? place ≠ some .directory)
    (resolved : tree.resolve path = .ok next) : (tree.put place node).resolve path = .ok next := by
  rw [resolve, bind_eq_ok_iff] at resolved ⊢
  obtain ⟨parts, checked, followed⟩ := resolved
  exact ⟨parts, checked, follow_put noDirectory followed⟩

/-- The place that is written to is the place that the path leads to. -/
theorem resolve_of_target (aimed : tree.target path = .ok place) :
    tree.resolve path = .ok place := by
  rw [target, bind_eq_ok_iff] at aimed
  obtain ⟨parts, checked, aimed⟩ := aimed
  rw [resolve, bind_eq_ok_iff]
  refine ⟨parts, checked, ?_⟩
  dsimp only at aimed
  split at aimed
  · cases aimed
  · rename_i last isLast
    obtain ⟨parent, followed, finished⟩ := bind_eq_ok_iff.mp aimed
    split at finished
    · obtain ⟨_, _, impossible⟩ := bind_eq_ok_iff.mp finished
      cases impossible
    · -- here nothing follows the last name, so the names are all the components
      rename_i plain
      have isWhole : withoutTrailingGaps parts = parts :=
        Decidable.not_not.mp fun gaps => plain (Or.inr (Or.inr gaps))
      rw [isWhole] at isLast followed
      obtain ⟨names, isAppend⟩ := List.getLast?_eq_some_iff.mp isLast
      subst isAppend
      rw [List.dropLast_concat] at followed
      rw [follow_append, bind_eq_ok_iff]
      exact ⟨parent, followed, bind_eq_ok_iff.mpr ⟨place, finished, rfl⟩⟩

/-- A write succeeds where no directory stands, and then changes that place only. -/
theorem write_eq_ok_iff : tree.write path contents = .ok after ↔
    ∃ place, tree.target path = .ok place ∧ tree.node? place ≠ some .directory ∧
      tree.put place (.file contents) = after := by
  rw [write, bind_eq_ok_iff]
  refine exists_congr fun place => and_congr_right fun _ => ?_
  split
  · rename_i isDirectory
    simp [isDirectory]
  · rename_i noDirectory
    rw [Except.ok.injEq]
    exact (and_iff_right noDirectory).symm

/-- A write fails where the path leads to no place or to a directory.  What is to be written does not
matter. -/
theorem write_eq_error_iff : tree.write path contents = .error cause ↔
    tree.target path = .error cause ∨
      ∃ place, tree.target path = .ok place ∧ tree.node? place = some .directory ∧
        .isADirectory = cause := by
  rw [write, bind_eq_error_iff]
  refine or_congr_right (exists_congr fun place => and_congr_right fun _ => ?_)
  split
  · rename_i isDirectory
    simp [isDirectory]
  · rename_i noDirectory
    refine iff_of_false (fun impossible => by cases impossible) ?_
    rintro ⟨isDirectory, _⟩
    exact noDirectory isDirectory

/-- Something can be written under the path. -/
def Writable (tree : FileTree) (path : String) : Prop :=
  ∃ contents after, tree.write path contents = .ok after

theorem Writable.exists_write (writable : tree.Writable path) (contents : ByteArray) :
    ∃ after, tree.write path contents = .ok after := by
  obtain ⟨_, _, written⟩ := writable
  obtain ⟨place, aimed, noDirectory, _⟩ := write_eq_ok_iff.mp written
  exact ⟨_, write_eq_ok_iff.mpr ⟨place, aimed, noDirectory, rfl⟩⟩

/-- The second tree has the contents in a file at the place and is otherwise the first tree. -/
structure Rewrites (place : Place) (contents : ByteArray) (before after : FileTree) : Prop where
  home_eq : after.home = before.home
  written : after.node? place = some (.file contents)
  elsewhere : ∀ other, other ≠ place → after.node? other = before.node? other

/-- A write makes or replaces the file to which the path leads and changes nothing else. -/
theorem exists_rewrites_of_write (written : tree.write path contents = .ok after) :
    ∃ place, tree.resolve path = .ok place ∧ Rewrites place contents tree after := by
  obtain ⟨place, aimed, noDirectory, rfl⟩ := write_eq_ok_iff.mp written
  exact ⟨place, resolve_of_target aimed, rfl,
    node?_put_self (ne_nil_of_node?_ne_directory noDirectory), fun _ => node?_put_of_ne⟩

theorem readBytes_of_write (written : tree.write path contents = .ok after) :
    after.readBytes path = .ok contents := by
  obtain ⟨place, aimed, noDirectory, rfl⟩ := write_eq_ok_iff.mp written
  rw [readBytes, bind_eq_ok_iff]
  refine ⟨place, resolve_put noDirectory (resolve_of_target aimed), ?_⟩
  rw [node?_put_self (ne_nil_of_node?_ne_directory noDirectory)]

@[simp]
theorem fromUTF8?_toUTF8 : String.fromUTF8? text.toUTF8 = some text := by
  have isValid : text.toUTF8.IsValidUTF8 := text.isValidUTF8
  rw [String.fromUTF8?, dif_pos isValid]
  rfl

theorem readText_of_readBytes (there : tree.readBytes path = .ok text.toUTF8) :
    tree.readText path = .ok text := by
  rw [readText, bind_eq_ok_iff]
  refine ⟨text.toUTF8, there, ?_⟩
  rw [fromUTF8?_toUTF8]

theorem readText_of_write (written : tree.write path text.toUTF8 = .ok after) :
    after.readText path = .ok text :=
  readText_of_readBytes (readBytes_of_write written)

end FileTree
end UnicodeIdentifier
