import UnicodeIdentifier.FileTree

/-!
# Work on a tree

Work on a file tree reads from the tree and writes into it as it goes, and undoes nothing when it fails.
Work that only looks at the tree gives what is to be seen there and leaves the tree as it is, and so does
a sequence of such work.
-/

namespace UnicodeIdentifier

variable {Cause Value Other : Type}

/-- Work on a tree that may fail. -/
abbrev Work (Cause Value : Type) : Type := ExceptT Cause (StateM FileTree) Value

namespace Work

/-- What the work gives, and the tree that it leaves. -/
def on (work : Work Cause Value) (tree : FileTree) : Except Cause Value × FileTree :=
  StateT.run (ExceptT.run work) tree

theorem on_bind (work : Work Cause Value) (next : Value → Work Cause Other) (tree : FileTree) :
    (work >>= next).on tree = match work.on tree with
      | (.ok value, after) => (next value).on after
      | (.error cause, after) => (.error cause, after) := by
  rw [on, ExceptT.run_bind, StateT.run_bind, on]
  rcases StateT.run (ExceptT.run work) tree with ⟨outcome, after⟩
  cases outcome with
  | ok value => rfl
  | error cause => rfl

@[simp]
theorem on_liftM (act : StateM FileTree Value) (tree : FileTree) :
    on (liftM act : Work Cause Value) tree = (.ok (act.run tree).1, (act.run tree).2) := rfl

/-- The work gives what is to be seen in the tree, and leaves the tree as it is. -/
def Looks (work : Work Cause Value) (seen : FileTree → Except Cause Value) : Prop :=
  ∀ tree, work.on tree = (seen tree, tree)

theorem looks_liftM (outcome : Except Cause Value) :
    Looks (liftM outcome) fun _ => outcome := fun _ => rfl

theorem Looks.bind {work : Work Cause Value} {seen : FileTree → Except Cause Value}
    {next : Value → Work Cause Other} {seenNext : Value → FileTree → Except Cause Other}
    (looks : work.Looks seen) (nextLooks : ∀ value, (next value).Looks (seenNext value)) :
    (work >>= next).Looks fun tree => seen tree >>= (seenNext · tree) := by
  intro tree
  rw [on_bind, looks tree]
  dsimp only
  cases seen tree with
  | ok value => exact nextLooks value tree
  | error cause => rfl

end Work

theorem FileTree.run_write (path text : String) (tree : FileTree) :
    (files.write path text).run tree = match tree.write path text.toUTF8 with
      | .ok after => (.ok (), after)
      | .error cause => (.error cause, tree) := rfl

end UnicodeIdentifier
