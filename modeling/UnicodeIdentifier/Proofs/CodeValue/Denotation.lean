import UnicodeIdentifier.Proofs.CodeValue
import UnicodeIdentifier.Standard

/-!
# Answers about integers

Values of different types may denote the same integer.  The code point of a value is determined by
this integer, and both questions are asked of the code point, so the type of a value never counts.
-/

namespace UnicodeIdentifier

variable {classifier : Classifier} {value other : CodeValue}

theorem CodeValue.toCodePoint?_congr (same : value.toInt = other.toInt) :
    value.toCodePoint? = other.toCodePoint? := by
  apply Option.ext
  intro code
  rw [toCodePoint?_eq_some_iff, toCodePoint?_eq_some_iff, same]

namespace Classifier

theorem isStart_congr (same : value.toCodePoint? = other.toCodePoint?) :
    classifier.isStart value = classifier.isStart other := by
  rw [isStart, isStart, same]

theorem isContinue_congr (same : value.toCodePoint? = other.toCodePoint?) :
    classifier.isContinue value = classifier.isContinue other := by
  rw [isContinue, isContinue, same]

theorem isStart_eq_false (noCode : value.toCodePoint? = none) : classifier.isStart value = false := by
  rw [isStart, noCode]

theorem isContinue_eq_false (noCode : value.toCodePoint? = none) :
    classifier.isContinue value = false := by
  rw [isContinue, noCode]

end Classifier

/-- A value is judged by the integer that it denotes.  Values of any two types that denote the same
integer have the same code point and get the same answers; the code point is the integer itself if
this lies between `0` and `0x10FFFF`; all other values have none, and both answers are negative. -/
theorem judged_by_toInt (value : CodeValue) :
    (∀ other : CodeValue, other.toInt = value.toInt →
      other.toCodePoint? = value.toCodePoint? ∧ isStart other = isStart value ∧
        isContinue other = isContinue value) ∧
    (∀ code : UInt32, value.toCodePoint? = some code ↔
      value.toInt = code.toNat ∧ 0 ≤ value.toInt ∧ value.toInt ≤ 0x10FFFF) ∧
    (value.toInt < 0 ∨ 0x10FFFF < value.toInt →
      value.toCodePoint? = none ∧ isStart value = false ∧ isContinue value = false) := by
  refine ⟨fun other same => ?_, fun code => ?_, fun outside => ?_⟩
  · have sameCode := CodeValue.toCodePoint?_congr same
    exact ⟨sameCode, Classifier.isStart_congr sameCode, Classifier.isContinue_congr sameCode⟩
  · rw [CodeValue.toCodePoint?_eq_some_iff, CodeValue.le_maxCodePoint_iff]
    omega
  · have noCode := CodeValue.toCodePoint?_eq_none_iff.mpr outside
    exact ⟨noCode, Classifier.isStart_eq_false noCode, Classifier.isContinue_eq_false noCode⟩

/-- A letter is asked about as a character and as a signed integer of 16 bits.  A word of 64 bits
whose lower half is that letter, and a negative byte whose bits are, are no code points. -/
theorem judged_by_toInt_letter :
    (CodeValue.int16 0xE9).toInt = (CodeValue.char 'é').toInt ∧
      isStart (.int16 0xE9) = isStart 'é' ∧ isStart 'é' = true ∧
    0x10FFFF < (CodeValue.uint64 0x1000000E9).toInt ∧
      isStart (.uint64 0x1000000E9) = false ∧ isContinue (.uint64 0x1000000E9) = false ∧
    (CodeValue.int8 (-0x17)).toInt < 0 ∧ (-0x17 : Int8).toUInt8 = 0xE9 ∧
      isStart (.int8 (-0x17)) = false ∧ isContinue (.int8 (-0x17)) = false := by
  have sameInt : (CodeValue.int16 0xE9).toInt = (CodeValue.char 'é').toInt := by decide
  have large : 0x10FFFF < (CodeValue.uint64 0x1000000E9).toInt := by decide
  have negative : (CodeValue.int8 (-0x17)).toInt < 0 := by decide
  obtain ⟨_, sameAnswer, _⟩ := (judged_by_toInt 'é').1 (.int16 0xE9) sameInt
  obtain ⟨_, wideStart, wideContinue⟩ := (judged_by_toInt (.uint64 0x1000000E9)).2.2 (Or.inr large)
  obtain ⟨_, byteStart, byteContinue⟩ :=
    (judged_by_toInt (.int8 (-0x17))).2.2 (Or.inl negative)
  exact ⟨sameInt, sameAnswer, by decide, large, wideStart, wideContinue, negative, by decide,
    byteStart, byteContinue⟩

end UnicodeIdentifier
