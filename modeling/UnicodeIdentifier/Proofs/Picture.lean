import Mathlib.Data.List.Basic
import UnicodeIdentifier.Picture
import UnicodeIdentifier.Proofs.Standard

/-!
# What the pictures show

The pixels of a picture, row after row, stand for the code points from zero on, so a property is
shown as far as nothing past the last pixel has it.  Nothing that begins an identifier lies that far.
Of what continues one, a single stored interval does: the variation selectors of plane 14.
-/

namespace UnicodeIdentifier
namespace Picture

variable {picture : Picture} {column row : Nat} {colour : Rgb} {code : UInt32}

/-- The colour at a column of a row, if the picture has this column and this row. -/
def colourAt? (picture : Picture) (column row : Nat) : Option Rgb :=
  if row < height then (picture.row row)[column]? else none

theorem colourAt?_eq_some_iff : picture.colourAt? column row = some colour ↔
    column < width ∧ row < height ∧ picture.pixel column row = colour := by
  rw [colourAt?]
  split
  · rename_i inside
    simp only [inside, Picture.row, List.getElem?_eq_some_iff, List.length_map, List.length_range,
      List.getElem_map, List.getElem_range, exists_prop, true_and]
  · rename_i outside
    simp only [outside, reduceCtorEq, false_and, and_false]

theorem pixel_eq_black_iff : picture.pixel column row = .black ↔
    picture.shows (codeAt column row) = true := by
  have different : Rgb.white ≠ Rgb.black := by decide
  rw [pixel]
  split
  · rename_i holds
    exact iff_of_true rfl holds
  · rename_i fails
    exact iff_of_false different fails

theorem codeAt_mod_div (code : UInt32) : codeAt (code.toNat % width) (code.toNat / width) = code := by
  rw [codeAt, Nat.div_add_mod', UInt32.ofNat_toNat]

/-- The pixel of a code point is black if the picture goes so far and the property holds. -/
theorem colourAt?_mod_div_eq_black_iff :
    picture.colourAt? (code.toNat % width) (code.toNat / width) = some .black ↔
      code.toNat < width * height ∧ picture.shows code = true := by
  have inRow : code.toNat % width < width := Nat.mod_lt code.toNat (by decide)
  have inPicture : code.toNat / width < height ↔ code.toNat < width * height :=
    Nat.div_lt_iff_lt_mul (by decide)
  rw [colourAt?_eq_some_iff, and_iff_right inRow, inPicture, pixel_eq_black_iff, codeAt_mod_div]

/-- The picture tells of a code point whether it has the property: the code point has a pixel that
is black, or neither. -/
def Shows (picture : Picture) (code : UInt32) : Prop :=
  picture.shows code = true ↔
    code.toNat < 512 * 400 ∧ picture.colourAt? (code.toNat % 512) (code.toNat / 512) = some .black

theorem shows_iff : picture.Shows code ↔ (picture.shows code = true → code.toNat < 512 * 400) := by
  have black_iff : picture.colourAt? (code.toNat % 512) (code.toNat / 512) = some .black ↔
      code.toNat < 512 * 400 ∧ picture.shows code = true := colourAt?_mod_div_eq_black_iff
  rw [Shows, black_iff]
  constructor
  · intro shown holds
    exact (shown.mp holds).1
  · intro inside
    constructor
    · intro holds
      exact ⟨inside holds, inside holds, holds⟩
    · intro ⟨_, _, holds⟩
      exact holds

/-- The last code point that has a pixel. -/
def lastShown : UInt32 := 0x31FFF

theorem le_lastShown_iff : code ≤ lastShown ↔ code.toNat < 512 * 400 := by
  rw [UInt32.le_iff_toNat_le]
  exact Nat.lt_succ_iff.symm

/-- The variation selectors of plane 14. -/
def selectors : Interval := ⟨0xE0100, 0xE01EF⟩

theorem le_lastShown_of_isStart (starts : isStart code = true) : code ≤ lastShown := by
  have stored : ∀ interval ∈ Property.idStart.intervals, interval.hi ≤ lastShown := by
    decide +kernel
  rcases standard_checked.isStart_iff_covers.mp starts with rfl | rfl | covered
  · decide
  · decide
  · exact le_of_covers stored covered

/-- Past the last pixel only the selectors continue an identifier. -/
theorem isContinue_iff_of_lastShown_lt (past : lastShown < code) :
    isContinue code = true ↔ code ∈ selectors := by
  have stored : Property.idContinue.intervals.dropLast ++ [selectors] =
      Property.idContinue.intervals :=
    List.dropLast_append_getLast? selectors (by decide +kernel)
  have others : ∀ interval ∈ Property.idContinue.intervals.dropLast, interval.hi ≤ lastShown := by
    decide +kernel
  have not_others : ¬ Covers Property.idContinue.intervals.dropLast code := fun covered =>
    UInt32.not_le.mpr past (le_of_covers others covered)
  have ne_of_le : ∀ shown ≤ lastShown, code ≠ shown := fun shown inside same =>
    UInt32.not_le.mpr past (same ▸ inside)
  have continues_iff : isContinue code = true ↔ code = dollar ∨ code = zeroWidthNonJoiner ∨
      code = zeroWidthJoiner ∨ Covers Property.idContinue.intervals code :=
    standard_checked.isContinue_iff_covers
  rw [continues_iff, or_iff_right (ne_of_le dollar (by decide)),
    or_iff_right (ne_of_le zeroWidthNonJoiner (by decide)),
    or_iff_right (ne_of_le zeroWidthJoiner (by decide)), ← stored, covers_append,
    or_iff_right not_others, covers_cons, or_iff_left not_covers_nil]

theorem shows_ofStart (code : UInt32) : ofStart.Shows code :=
  shows_iff.mpr fun starts => le_lastShown_iff.mp (le_lastShown_of_isStart starts)

theorem shows_ofContinue_iff : ofContinue.Shows code ↔ code ∉ selectors := by
  rw [shows_iff, ← le_lastShown_iff]
  by_cases past : lastShown < code
  · have continues_iff : ofContinue.shows code = true ↔ code ∈ selectors :=
      isContinue_iff_of_lastShown_lt past
    rw [continues_iff]
    exact imp_congr_right fun _ => iff_false_intro (UInt32.not_le.mpr past)
  · have inside : code ≤ lastShown := UInt32.not_lt.mp past
    refine iff_of_true (fun _ => inside) fun selects => past ?_
    exact UInt32.lt_of_lt_of_le (by decide) selects.1

/-- Each picture shows where its property holds, except that the variation selectors of plane 14
continue an identifier and lie past the last pixel. -/
theorem shows_iff_not_selector (picture : Picture) (isPicture : picture ∈ all) (code : UInt32) :
    picture.Shows code ↔
      ¬ (picture.name = "id_continue.png" ∧ 0xE0100 ≤ code ∧ code ≤ 0xE01EF) := by
  rcases List.mem_pair.mp isPicture with rfl | rfl
  · have otherName : ofStart.name ≠ "id_continue.png" := by decide
    exact iff_of_true (shows_ofStart code) fun selects => otherName selects.1
  · have sameName : ofContinue.name = "id_continue.png" := rfl
    rw [shows_ofContinue_iff, and_iff_right sameName]
    exact Iff.rfl

/-- The last ideograph that continues an identifier has a black pixel. -/
theorem shows_iff_not_selector_ideograph : ofContinue ∈ all ∧ ofContinue.Shows 0x3134A :=
  have isPicture : ofContinue ∈ all := by simp [all]
  ⟨isPicture, (shows_iff_not_selector ofContinue isPicture 0x3134A).mpr (by decide)⟩

/-- The first variation selector of plane 14 continues an identifier and has no pixel. -/
theorem selector_without_pixel : ofContinue ∈ all ∧ 0xE0100 ≤ maxCodePoint ∧
    ofContinue.shows 0xE0100 = true ∧
    ofContinue.colourAt? (0xE0100 % 512) (0xE0100 / 512) = none ∧ ¬ ofContinue.Shows 0xE0100 := by
  have past : lastShown < 0xE0100 := by decide
  have selects : 0xE0100 ∈ selectors := by decide
  have continues : ofContinue.shows 0xE0100 = true :=
    (isContinue_iff_of_lastShown_lt past).mpr selects
  refine ⟨by simp [all], by decide, continues, by decide, ?_⟩
  rw [shows_ofContinue_iff]
  exact not_not.mpr selects

end Picture
end UnicodeIdentifier
