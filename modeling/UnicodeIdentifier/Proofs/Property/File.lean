import Mathlib.Order.Bounds.Defs
import UnicodeIdentifier.Property.File

/-!
# What the lines of a property file say

A file is read exactly when every line is skipped or is a data line, and its entries are then those
of the data lines, in their order.  Otherwise the first other line is named, by its number among all
lines.  The set made from the entries holds the values to which some data line gives one of the wanted
properties.
-/

namespace UnicodeIdentifier
namespace Property

variable {line : List Char} {lines : List (List Char)} {contents : List Char} {text : String}
  {found result : List Entry} {number : Nat} {entry : Entry} {names : List String} {name : String}
  {code : UInt32} {bad : BadLine}

/-- The entry of a line that is not skipped. -/
def entryOf? (line : List Char) : Option Entry := if isSkipped line then none else Entry.read? line

/-- The line is skipped or is a data line. -/
def Acceptable (line : List Char) : Prop := isSkipped line = true ∨ (Entry.read? line).isSome = true

instance : DecidablePred Acceptable := fun line =>
  inferInstanceAs (Decidable (isSkipped line = true ∨ (Entry.read? line).isSome = true))

theorem entryOf?_eq_some_iff :
    entryOf? line = some entry ↔ isSkipped line = false ∧ Entry.read? line = some entry := by
  rw [entryOf?]
  cases isSkipped line with
  | true => simp
  | false => simp

theorem acceptable_iff : Acceptable line ↔ line.head? = some '#' ∨
    (∀ char ∈ line, Text.isBlank char = true) ∨ ∃ entry, Entry.read? line = some entry := by
  rw [Acceptable, isSkipped, Bool.or_eq_true, beq_iff_eq, List.all_eq_true, Option.isSome_iff_exists,
    or_assoc]

/-- Reading goes through to the end exactly when every line is acceptable, and then appends the
entries of the lines to those already found. -/
theorem entriesOnto_eq_ok_iff : entriesOnto found number lines = .ok result ↔
    (∀ line ∈ lines, Acceptable line) ∧ found.reverse ++ lines.filterMap entryOf? = result := by
  induction lines generalizing found number with
  | nil => simp [entriesOnto]
  | cons line rest ih =>
    rw [entriesOnto, List.forall_mem_cons, Acceptable, List.filterMap_cons, entryOf?]
    cases skipped : isSkipped line with
    | true => simpa [skipped] using ih
    | false =>
      cases isRead : Entry.read? line with
      | none => simp
      | some entry => simpa [skipped] using @ih (entry :: found) (number + 1)

theorem entries_eq_ok_iff : entries contents = .ok result ↔
    (∀ line ∈ Text.lines contents, Acceptable line) ∧
      (Text.lines contents).filterMap entryOf? = result := by
  rw [entries, entriesOnto_eq_ok_iff, List.reverse_nil, List.nil_append]

/-- The numbers of the lines that are not acceptable, counted from zero over all lines. -/
def badNumbers (lines : List (List Char)) : Set Nat :=
  { number | ∃ line, lines[number]? = some line ∧ ¬ Acceptable line }

/-- The line is the first that is not acceptable. -/
structure IsFirstBad (lines : List (List Char)) (bad : BadLine) : Prop where
  isLeast : IsLeast (badNumbers lines) bad.number
  at_number : lines[bad.number]? = some bad.line

theorem isFirstBad_of_split {before after : List (List Char)}
    (isSplit : lines = before ++ bad.line :: after) (number_eq : bad.number = before.length)
    (acceptable : ∀ line ∈ before, Acceptable line) (refused : ¬ Acceptable bad.line) :
    IsFirstBad lines bad := by
  have at_number : lines[bad.number]? = some bad.line := by
    simp [isSplit, number_eq]
  refine ⟨⟨⟨bad.line, at_number, refused⟩, ?_⟩, at_number⟩
  rintro number ⟨other, isOther, otherRefused⟩
  refine Nat.le_of_not_lt fun earlier => ?_
  rw [isSplit, List.getElem?_append_left (number_eq ▸ earlier)] at isOther
  exact otherRefused (acceptable other (List.mem_of_getElem? isOther))

/-- Reading stops only at a line that is not acceptable, when all lines before it are.  Every line is
counted, whether or not it is skipped. -/
theorem exists_split_of_entriesOnto (failed : entriesOnto found number lines = .error bad) :
    ∃ before after, lines = before ++ bad.line :: after ∧ (∀ line ∈ before, Acceptable line) ∧
      ¬ Acceptable bad.line ∧ bad.number = number + before.length := by
  induction lines generalizing found number with
  | nil => cases failed
  | cons line rest ih =>
    have pass {found : List Entry} (acceptable : Acceptable line)
        (failed : entriesOnto found (number + 1) rest = .error bad) :
        ∃ before after, line :: rest = before ++ bad.line :: after ∧
          (∀ line ∈ before, Acceptable line) ∧ ¬ Acceptable bad.line ∧
          bad.number = number + before.length := by
      obtain ⟨before, after, isSplit, others, refused, number_eq⟩ := ih failed
      refine ⟨line :: before, after, by rw [isSplit, List.cons_append],
        List.forall_mem_cons.mpr ⟨acceptable, others⟩, refused, ?_⟩
      rw [number_eq, List.length_cons, Nat.add_assoc, Nat.add_comm 1]
    rw [entriesOnto] at failed
    cases skipped : isSkipped line with
    | true =>
      rw [if_pos skipped] at failed
      exact pass (Or.inl skipped) failed
    | false =>
      rw [if_neg (Bool.eq_false_iff.mp skipped)] at failed
      cases isRead : Entry.read? line with
      | some entry =>
        rw [isRead] at failed
        exact pass (Or.inr (by rw [isRead]; rfl)) failed
      | none =>
        rw [isRead] at failed
        cases failed
        refine ⟨[], rest, rfl, List.forall_mem_nil _, ?_, rfl⟩
        simp [Acceptable, skipped, isRead]

theorem isFirstBad_of_entries (failed : entries contents = .error bad) :
    IsFirstBad (Text.lines contents) bad := by
  obtain ⟨before, after, isSplit, acceptable, refused, number_eq⟩ := exists_split_of_entriesOnto failed
  rw [Nat.zero_add] at number_eq
  exact isFirstBad_of_split isSplit number_eq acceptable refused

/-- A data line of the text gives the named property to the value. -/
def Assigns (text : String) (name : String) (code : UInt32) : Prop :=
  ∃ line ∈ Text.lines text.toList, isSkipped line = false ∧
    ∃ entry, Entry.read? line = some entry ∧ entry.name = name ∧ code ∈ entry.interval

@[simp]
theorem mem_valuesOf :
    code ∈ valuesOf names found ↔ ∃ entry ∈ found, entry.name ∈ names ∧ code ∈ entry.interval := by
  rw [valuesOf, CodeSet.mem_ofIntervals, Covers]
  constructor
  · rintro ⟨_, listed, within⟩
    obtain ⟨entry, kept, rfl⟩ := List.mem_map.mp listed
    obtain ⟨member, wanted⟩ := List.mem_filter.mp kept
    exact ⟨entry, member, List.contains_iff_mem.mp wanted, within⟩
  · rintro ⟨entry, member, wanted, within⟩
    have kept : entry ∈ found.filter (names.contains ·.name) :=
      List.mem_filter.mpr ⟨member, List.contains_iff_mem.mpr wanted⟩
    exact ⟨entry.interval, List.mem_map_of_mem kept, within⟩

/-- The set of a file that was read holds what its data lines assign. -/
theorem mem_valuesOf_iff_assigns (read : entries text.toList = .ok found) :
    code ∈ valuesOf names found ↔ ∃ name ∈ names, Assigns text name code := by
  obtain ⟨_, rfl⟩ := entries_eq_ok_iff.mp read
  rw [mem_valuesOf]
  constructor
  · rintro ⟨entry, member, wanted, within⟩
    obtain ⟨line, isLine, isEntry⟩ := List.mem_filterMap.mp member
    obtain ⟨kept, isRead⟩ := entryOf?_eq_some_iff.mp isEntry
    exact ⟨entry.name, wanted, line, isLine, kept, entry, isRead, rfl, within⟩
  · rintro ⟨name, wanted, line, isLine, kept, entry, isRead, rfl, within⟩
    have isEntry := entryOf?_eq_some_iff.mpr ⟨kept, isRead⟩
    exact ⟨entry, List.mem_filterMap.mpr ⟨line, isLine, isEntry⟩, wanted, within⟩

end Property
end UnicodeIdentifier
