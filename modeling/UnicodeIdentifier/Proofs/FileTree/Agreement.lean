import UnicodeIdentifier.Proofs.FileTree

/-!
# Trees that differ in the contents of some files

Where a path leads depends on the directories and on the names, never on what a file contains.  Two
trees that differ only in the contents of some files therefore resolve every path alike, take the
same write to the same place and refuse it for the same cause, and after it they differ in no more
than they did before.
-/

namespace UnicodeIdentifier
namespace FileTree

/-- The trees have the same working directory and the same nodes, except perhaps at the places to
which the paths lead. -/
structure SameExcept (paths : List String) (left right : FileTree) : Prop where
  home_eq : left.home = right.home
  node?_eq : ∀ place, (∀ path ∈ paths, left.resolve path ≠ .ok place) →
    left.node? place = right.node? place

/-- The trees have the same working directory, directories and files; only what the files contain may
differ. -/
structure SameShape (left right : FileTree) : Prop where
  home_eq : left.home = right.home
  alike : ∀ place, left.node? place = right.node? place ∨
    ∃ contents other, left.node? place = some (.file contents) ∧
      right.node? place = some (.file other)

variable {left right after otherAfter tree : FileTree} {paths : List String} {path : String}
  {place from' next : Place} {parts : List String} {contents : ByteArray} {node : Node}

theorem readBytes_eq_ok_iff : tree.readBytes path = .ok contents ↔
    ∃ place, tree.resolve path = .ok place ∧ tree.node? place = some (.file contents) := by
  rw [readBytes, bind_eq_ok_iff]
  refine exists_congr fun place => and_congr_right fun _ => ?_
  cases tree.node? place with
  | none => simp
  | some node =>
    cases node with
    | file bytes => simp
    | directory => simp

theorem exists_readBytes_of_readText {text : String} (there : tree.readText path = .ok text) :
    ∃ contents, tree.readBytes path = .ok contents := by
  rw [readText, bind_eq_ok_iff] at there
  obtain ⟨contents, isRead, _⟩ := there
  exact ⟨contents, isRead⟩

namespace SameShape

theorem origin_eq (same : SameShape left right) : left.origin path = right.origin path := by
  rw [origin, origin, same.home_eq]

theorem step_eq (same : SameShape left right) (component : String) :
    left.step place component = right.step place component := by
  rcases same.alike place with node_eq | ⟨contents, other, leftFile, rightFile⟩
  · exact (step_congr node_eq.symm component).symm
  · rw [step, step, leftFile, rightFile]

theorem follow_eq (same : SameShape left right) :
    left.follow from' parts = right.follow from' parts := by
  induction parts generalizing from' with
  | nil => rfl
  | cons component rest ih =>
    rw [follow, follow, same.step_eq component]
    cases right.step from' component with
    | error cause => rfl
    | ok middle => exact ih

theorem target_eq (same : SameShape left right) : left.target path = right.target path := by
  simp only [target, same.origin_eq, same.follow_eq, same.step_eq]

theorem node?_eq_directory_iff (same : SameShape left right) :
    left.node? place = some .directory ↔ right.node? place = some .directory := by
  rcases same.alike place with node_eq | ⟨contents, other, leftFile, rightFile⟩
  · rw [node_eq]
  · rw [leftFile, rightFile]
    exact iff_of_false (fun isDirectory => by cases isDirectory) fun isDirectory => by cases isDirectory

/-- A write fails in both trees for one cause, or puts the same file at the same place in both. -/
theorem write_alike (same : SameShape left right) (path : String) (contents : ByteArray) :
    (∃ cause, left.write path contents = .error cause ∧ right.write path contents = .error cause) ∨
      ∃ place, left.node? place ≠ some .directory ∧
        left.write path contents = .ok (left.put place (.file contents)) ∧
        right.write path contents = .ok (right.put place (.file contents)) := by
  cases aimed : left.target path with
  | error cause =>
    have otherAimed : right.target path = .error cause := same.target_eq ▸ aimed
    refine Or.inl ⟨cause, ?_, ?_⟩
    · rw [write, aimed]
      rfl
    · rw [write, otherAimed]
      rfl
  | ok place =>
    have otherAimed : right.target path = .ok place := same.target_eq ▸ aimed
    by_cases isDirectory : left.node? place = some .directory
    · have otherDirectory := same.node?_eq_directory_iff.mp isDirectory
      refine Or.inl ⟨.isADirectory, ?_, ?_⟩
      · simp [write, aimed, isDirectory, bind, Except.bind]
      · simp [write, otherAimed, otherDirectory, bind, Except.bind]
    · have otherNone := mt same.node?_eq_directory_iff.mpr isDirectory
      exact Or.inr ⟨place, isDirectory, write_eq_ok_iff.mpr ⟨place, aimed, isDirectory, rfl⟩,
        write_eq_ok_iff.mpr ⟨place, otherAimed, otherNone, rfl⟩⟩

end SameShape

namespace SameExcept

/-- The paths lead to files, so a directory of the left tree is one of the right tree. -/
theorem node?_eq_of_directory (same : SameExcept paths left right)
    (files : ∀ path ∈ paths, ∃ contents, left.readBytes path = .ok contents)
    (isDirectory : left.node? place = some .directory) : left.node? place = right.node? place := by
  apply same.node?_eq
  intro path member leads
  obtain ⟨contents, isRead⟩ := files path member
  obtain ⟨filePlace, resolved, isFile⟩ := readBytes_eq_ok_iff.mp isRead
  rw [leads, Except.ok.injEq] at resolved
  rw [← resolved, isDirectory] at isFile
  cases isFile

theorem follow_eq_ok (same : SameExcept paths left right)
    (files : ∀ path ∈ paths, ∃ contents, left.readBytes path = .ok contents)
    (followed : left.follow from' parts = .ok next) : right.follow from' parts = .ok next := by
  induction parts generalizing from' with
  | nil => exact followed
  | cons component rest ih =>
    rw [follow, bind_eq_ok_iff] at followed ⊢
    obtain ⟨middle, stepped, others⟩ := followed
    have node_eq := same.node?_eq_of_directory files (node?_of_step stepped)
    have otherStepped : right.step from' component = .ok middle := by
      rw [step_congr node_eq.symm, stepped]
    exact ⟨middle, otherStepped, ih others⟩

theorem resolve_eq_ok (same : SameExcept paths left right)
    (files : ∀ path ∈ paths, ∃ contents, left.readBytes path = .ok contents)
    (resolved : left.resolve path = .ok next) : right.resolve path = .ok next := by
  rw [resolve, bind_eq_ok_iff] at resolved ⊢
  obtain ⟨parts, checked, followed⟩ := resolved
  have origin_eq : left.origin path = right.origin path := by
    rw [origin, origin, same.home_eq]
  rw [origin_eq] at followed
  exact ⟨parts, checked, same.follow_eq_ok files followed⟩

/-- If the paths can be read in both trees, the trees differ in the contents of files only. -/
theorem sameShape (same : SameExcept paths left right)
    (files : ∀ path ∈ paths, ∃ contents, left.readBytes path = .ok contents)
    (otherFiles : ∀ path ∈ paths, ∃ contents, right.readBytes path = .ok contents) :
    SameShape left right := by
  refine ⟨same.home_eq, fun place => ?_⟩
  by_cases leads : ∃ path ∈ paths, left.resolve path = .ok place
  · obtain ⟨path, member, resolved⟩ := leads
    obtain ⟨contents, isRead⟩ := files path member
    obtain ⟨otherContents, otherRead⟩ := otherFiles path member
    obtain ⟨filePlace, fileResolved, isFile⟩ := readBytes_eq_ok_iff.mp isRead
    obtain ⟨otherPlace, otherResolved, otherFile⟩ := readBytes_eq_ok_iff.mp otherRead
    have place_eq : filePlace = place := Except.ok.inj (fileResolved.symm.trans resolved)
    have otherPlace_eq : otherPlace = place :=
      Except.ok.inj (otherResolved.symm.trans (same.resolve_eq_ok files resolved))
    subst place_eq otherPlace_eq
    exact Or.inr ⟨contents, otherContents, isFile, otherFile⟩
  · left
    apply same.node?_eq
    intro path member resolved
    exact leads ⟨path, member, resolved⟩

theorem put (same : SameExcept paths left right) (noDirectory : left.node? place ≠ some .directory) :
    SameExcept paths (left.put place node) (right.put place node) := by
  refine ⟨same.home_eq, fun other unnamed => ?_⟩
  have node_eq : left.node? other = right.node? other := by
    apply same.node?_eq
    intro path member resolved
    exact unnamed path member (resolve_put noDirectory resolved)
  by_cases isPlace : other = place
  · subst isPlace
    have notRoot := ne_nil_of_node?_ne_directory noDirectory
    rw [node?_put_self notRoot, node?_put_self notRoot]
  · rw [node?_put_of_ne isPlace, node?_put_of_ne isPlace, node_eq]

end SameExcept

end FileTree
end UnicodeIdentifier
