import Mathlib.Data.List.Forall2
import Mathlib.Data.Nat.Digits.Defs
import UnicodeIdentifier.Proofs.Numeral

/-!
# The grammar of numerals

A numeral is an optional plus sign and one or more digits, and it stands for their positional value.
Reading looks at the bound after every digit; since the value never falls from one digit to the next,
it refuses exactly the numerals whose whole value does not lie below the bound.
-/

namespace UnicodeIdentifier
namespace Numeral

variable {base bound start value : Nat} {char : Char} {chars : List Char}

/-- The digits in capital letters, in the order of their values. -/
def capitalDigits : List Char := "0123456789ABCDEF".toList

/-- The digits in small letters, in the order of their values. -/
def smallDigits : List Char := "0123456789abcdef".toList

/-- The characters that occur in numerals. -/
def numeralChars : List Char := '+' :: (capitalDigits ++ smallDigits)

/-- The character is a digit of the base with the given value. -/
def IsDigit (base : Nat) (char : Char) (value : Nat) : Prop :=
  value < base ∧ (capitalDigits[value]? = some char ∨ smallDigits[value]? = some char)

theorem getElem?_of_row {digits : List Char} (first length place : Nat)
    (row : ∀ index < length, digits[index + place]? = some (Char.ofNat (first + index)))
    (atLeast : first ≤ char.toNat) (below : char.toNat < first + length) :
    digits[char.toNat - first + place]? = some char := by
  have restored : first + (char.toNat - first) = char.toNat := by omega
  rw [row (char.toNat - first) (by omega), restored, Char.ofNat_toNat]

theorem isDigit_of_digitValue? (found : digitValue? 16 char = some value) :
    IsDigit 16 char value := by
  simp only [digitValue?, Option.filter_eq_some_iff, decide_eq_true_eq, Char.le_def,
    UInt32.le_iff_toNat_le] at found
  obtain ⟨isValue, small⟩ := found
  refine ⟨small, ?_⟩
  split at isValue
  · rename_i decimal
    cases isValue
    exact Or.inl (getElem?_of_row 48 10 0 (by decide) decimal.1 (Nat.lt_succ_of_le decimal.2))
  · split at isValue
    · rename_i capital
      cases isValue
      exact Or.inl (getElem?_of_row 65 6 10 (by decide) capital.1 (Nat.lt_succ_of_le capital.2))
    · split at isValue
      · rename_i letter
        cases isValue
        exact Or.inr (getElem?_of_row 97 6 10 (by decide) letter.1 (Nat.lt_succ_of_le letter.2))
      · cases isValue

theorem digitValue?_sixteen_listed : ∀ digits ∈ [capitalDigits, smallDigits], ∀ value < 16,
    (digits[value]?).bind (digitValue? 16) = some value := by
  decide

theorem digitValue?_of_isDigit (isDigit : IsDigit 16 char value) :
    digitValue? 16 char = some value := by
  obtain ⟨small, either⟩ := isDigit
  have listed : ∀ digits ∈ [capitalDigits, smallDigits], digits[value]? = some char →
      digitValue? 16 char = some value := by
    intro digits member isCharacter
    have isValue := digitValue?_sixteen_listed digits member value small
    rwa [isCharacter] at isValue
  rcases either with capital | letter
  · exact listed capitalDigits (by simp) capital
  · exact listed smallDigits (by simp) letter

/-- The digits of a base are those that are read in this base. -/
theorem digitValue?_eq_some_iff (atMost : base ≤ 16) :
    digitValue? base char = some value ↔ IsDigit base char value := by
  rw [digitValue?_eq_filter atMost, Option.filter_eq_some_iff, decide_eq_true_eq]
  constructor
  · intro ⟨found, small⟩
    exact ⟨small, (isDigit_of_digitValue? found).2⟩
  · intro ⟨small, listed⟩
    exact ⟨digitValue?_of_isDigit ⟨Nat.lt_of_lt_of_le small atMost, listed⟩, small⟩

/-- The value of digits that stand behind others of the given value. -/
def valueFrom (base start : Nat) (digits : List Nat) : Nat :=
  digits.foldl (fun total digit => total * base + digit) start

theorem valueFrom_zero (digits : List Nat) :
    valueFrom base 0 digits = Nat.ofDigits base digits.reverse := by
  rw [Nat.ofDigits_eq_foldr, List.foldr_reverse, valueFrom]
  congr 1
  funext total digit
  rw [Nat.mul_comm, Nat.add_comm]
  rfl

/-- Further digits do not lower a value. -/
theorem le_valueFrom (positive : 0 < base) (digits : List Nat) :
    start ≤ valueFrom base start digits := by
  induction digits generalizing start with
  | nil => exact Nat.le_refl start
  | cons digit rest ih =>
    have longer : start ≤ start * base + digit :=
      Nat.le_add_right_of_le (Nat.le_mul_of_pos_right start positive)
    exact Nat.le_trans longer ih

/-- Reading goes on as long as the value stays below the bound, which it does to the end exactly if
the whole value does. -/
theorem readDigits?_eq_some_iff (positive : 0 < base) (atMost : base ≤ 16) (small : start < bound) :
    readDigits? base bound start chars = some value ↔ ∃ digits,
      List.Forall₂ (IsDigit base) chars digits ∧ valueFrom base start digits = value ∧
        value < bound := by
  induction chars generalizing start with
  | nil =>
    rw [readDigits?, Option.some.injEq]
    constructor
    · intro same
      exact ⟨[], .nil, same, same ▸ small⟩
    · intro denoted
      obtain ⟨_, ⟨⟩, same, _⟩ := denoted
      exact same
  | cons char rest ih =>
    rw [readDigits?]
    constructor
    · intro found
      split at found
      · cases found
      · rename_i digit isRead
        simp only [Option.ite_none_right_eq_some] at found
        obtain ⟨fits, restFound⟩ := found
        obtain ⟨others, areDigits, value_eq, bounded⟩ := (ih fits).mp restFound
        have isDigit := (digitValue?_eq_some_iff atMost).mp isRead
        exact ⟨digit :: others, .cons isDigit areDigits, value_eq, bounded⟩
    · intro denoted
      obtain ⟨digits, areDigits, value_eq, bounded⟩ := denoted
      cases areDigits with
      | @cons _ digit _ others isDigit areDigits =>
        have isRead := (digitValue?_eq_some_iff atMost).mpr isDigit
        have fits : start * base + digit < bound :=
          Nat.lt_of_le_of_lt (le_valueFrom positive others) (value_eq.symm ▸ bounded)
        simp only [isRead, if_pos fits]
        exact (ih fits).mpr ⟨others, areDigits, value_eq, bounded⟩

theorem exists_isDigit_of_mem {digits : List Nat} (areDigits : List.Forall₂ (IsDigit base) chars digits)
    (member : char ∈ chars) : ∃ digit, IsDigit base char digit := by
  induction areDigits with
  | nil => exact absurd member List.not_mem_nil
  | cons isDigit _ ih =>
    rcases List.mem_cons.mp member with rfl | later
    · exact ⟨_, isDigit⟩
    · exact ih later

theorem IsDigit.mem (isDigit : IsDigit base char value) : char ∈ capitalDigits ++ smallDigits := by
  rcases isDigit.2 with capital | letter
  · exact List.mem_append_left smallDigits (List.mem_of_getElem? capital)
  · exact List.mem_append_right capitalDigits (List.mem_of_getElem? letter)

/-- The characters are a numeral of the value: a plus sign or none, then one or more digits, the
most significant first. -/
def IsNumeral (base : Nat) (chars : List Char) (value : Nat) : Prop :=
  ∃ (sign characters : List Char) (digits : List Nat),
    chars = sign ++ characters ∧ (sign = [] ∨ sign = ['+']) ∧ characters ≠ [] ∧
      List.Forall₂ (IsDigit base) characters digits ∧ Nat.ofDigits base digits.reverse = value

theorem IsNumeral.ne_nil (isNumeral : IsNumeral base chars value) : chars ≠ [] := by
  obtain ⟨sign, characters, _, rfl, _, nonempty, _⟩ := isNumeral
  exact List.append_ne_nil_of_right_ne_nil sign nonempty

theorem IsNumeral.mem (isNumeral : IsNumeral base chars value) (member : char ∈ chars) :
    char ∈ numeralChars := by
  obtain ⟨sign, characters, _, rfl, isSign, _, areDigits, _⟩ := isNumeral
  rcases List.mem_append.mp member with inSign | inCharacters
  · rcases isSign with rfl | rfl
    · exact absurd inSign List.not_mem_nil
    · exact List.mem_singleton.mp inSign ▸ List.mem_cons_self
  · obtain ⟨_, isDigit⟩ := exists_isDigit_of_mem areDigits inCharacters
    exact List.mem_cons_of_mem '+' isDigit.mem

theorem exists_sign_dropPlus (chars : List Char) :
    ∃ sign, (sign = [] ∨ sign = ['+']) ∧ chars = sign ++ dropPlus chars := by
  unfold dropPlus
  split
  · exact ⟨['+'], Or.inr rfl, rfl⟩
  · exact ⟨[], Or.inl rfl, rfl⟩

theorem dropPlus_sign {sign : List Char} (isSign : sign = [] ∨ sign = ['+'])
    (noPlus : '+' ∉ chars) : dropPlus (sign ++ chars) = chars := by
  rcases isSign with rfl | rfl
  · exact dropPlus_eq_self noPlus
  · rfl

/-- What is read are the numerals whose value lies below the bound. -/
theorem read?_eq_some_iff (positive : 0 < base) (atMost : base ≤ 16) (bounded : 0 < bound) :
    read? base bound chars = some value ↔ IsNumeral base chars value ∧ value < bound := by
  constructor
  · intro found
    rw [read?] at found
    split at found
    · cases found
    · rename_i nonempty
      obtain ⟨digits, areDigits, value_eq, small⟩ :=
        (readDigits?_eq_some_iff positive atMost bounded).mp found
      obtain ⟨sign, isSign, chars_eq⟩ := exists_sign_dropPlus chars
      rw [valueFrom_zero] at value_eq
      exact ⟨⟨sign, dropPlus chars, digits, chars_eq, isSign, nonempty, areDigits, value_eq⟩, small⟩
  · intro denoted
    obtain ⟨⟨sign, characters, digits, chars_eq, isSign, nonempty, areDigits, value_eq⟩, small⟩ :=
      denoted
    have noPlus : '+' ∉ characters := by
      intro member
      obtain ⟨digit, isDigit⟩ := exists_isDigit_of_mem areDigits member
      exact absurd isDigit.mem (by decide)
    have isRead : readDigits? base bound 0 characters = some value := by
      rw [← valueFrom_zero] at value_eq
      exact (readDigits?_eq_some_iff positive atMost bounded).mpr ⟨digits, areDigits, value_eq, small⟩
    obtain ⟨first, others, isCons⟩ := List.exists_cons_of_ne_nil nonempty
    rw [isCons] at isRead
    rw [read?, chars_eq, dropPlus_sign isSign noPlus, isCons]
    exact isRead

theorem map_read?_eq_some_iff {Word : Type} {ofNat : Nat → Word} {toNat : Word → Nat} {word : Word}
    (positive : 0 < base) (atMost : base ≤ 16) (toNat_lt : ∀ word, toNat word < bound)
    (toNat_ofNat : ∀ value < bound, toNat (ofNat value) = value)
    (ofNat_toNat : ∀ word, ofNat (toNat word) = word) :
    (read? base bound chars).map ofNat = some word ↔ IsNumeral base chars (toNat word) := by
  have bounded : 0 < bound := Nat.zero_lt_of_lt (toNat_lt word)
  rw [Option.map_eq_some_iff]
  constructor
  · intro isRead
    obtain ⟨value, found, isWord⟩ := isRead
    obtain ⟨isNumeral, small⟩ := (read?_eq_some_iff positive atMost bounded).mp found
    rwa [← isWord, toNat_ofNat value small]
  · intro isNumeral
    exact ⟨toNat word, (read?_eq_some_iff positive atMost bounded).mpr ⟨isNumeral, toNat_lt word⟩,
      ofNat_toNat word⟩

theorem readHex?_eq_some_iff {code : UInt32} :
    readHex? chars = some code ↔ IsNumeral 16 chars code.toNat :=
  map_read?_eq_some_iff (by decide) (by decide) UInt32.toNat_lt_size
    (fun _ small => UInt32.toNat_ofNat_of_lt' small) fun _ => UInt32.ofNat_toNat

theorem readByte?_eq_some_iff {byte : UInt8} :
    readByte? chars = some byte ↔ IsNumeral 10 chars byte.toNat :=
  map_read?_eq_some_iff (by decide) (by decide) UInt8.toNat_lt_size
    (fun _ small => UInt8.toNat_ofNat_of_lt' small) fun _ => UInt8.ofNat_toNat

theorem isNumeral_writeChars {width : Nat} (atLeast : 2 ≤ base) (atMost : base ≤ 16) :
    IsNumeral base (writeChars base width value) value :=
  ((read?_eq_some_iff (by omega) atMost (Nat.zero_lt_succ value)).mp
    (read?_writeChars atLeast atMost (Nat.lt_succ_self value))).1

theorem isNumeral_hex4 (code : UInt32) : IsNumeral 16 (hex4 code).toList code.toNat := by
  rw [toList_hex4]
  exact isNumeral_writeChars (by decide) (by decide)

theorem isNumeral_decimal (value : Nat) : IsNumeral 10 (decimal value).toList value := by
  rw [toList_decimal]
  exact isNumeral_writeChars (by decide) (by decide)

end Numeral
end UnicodeIdentifier
