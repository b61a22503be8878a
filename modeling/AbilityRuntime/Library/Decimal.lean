import Mathlib.Data.String.Basic

set_option autoImplicit false

namespace AbilityRuntime.Library.Decimal

open List Nat

abbrev value (digits : List Char) : Nat := ofDigitChars 10 digits 0

def Digits (digits : List Char) : Prop := ∀ char ∈ digits, char.isDigit

def digit (char : Char) : Nat := char.toNat - '0'.toNat

theorem isDigit_bounds {char : Char} (isDigit : char.isDigit) :
    '0'.toNat ≤ char.toNat ∧ char.toNat < '0'.toNat + 10 := by
  have bounds : 48 ≤ char.val.toNat ∧ char.val.toNat ≤ 57 := by
    simpa [Char.isDigit, UInt32.le_iff_toNat_le] using isDigit
  have zero : '0'.toNat = 48 := rfl
  have number : char.toNat = char.val.toNat := rfl
  omega

theorem lt_iff_digit {one other : Char} (first : one.isDigit) (second : other.isDigit) :
    one < other ↔ digit one < digit other := by
  have least := (isDigit_bounds first).1
  have numbers : one < other ↔ one.toNat < other.toNat := by
    rfl
  rw [numbers, digit, digit]
  omega

theorem value_cons (char : Char) (rest : List Char) :
    value (char :: rest) = 10 ^ rest.length * digit char + value rest := by
  rw [value, Nat.ofDigitChars_cons, Nat.ofDigitChars_eq_ofDigitChars_zero, Nat.mul_zero,
    Nat.zero_add, digit]

theorem value_append (leading rest : List Char) :
    value (leading ++ rest) = 10 ^ rest.length * value leading + value rest := by
  rw [value, ofDigitChars_append, ofDigitChars_eq_ofDigitChars_zero]

theorem value_lt {digits : List Char} (isDigits : Digits digits) :
    value digits < 10 ^ digits.length := by
  induction digits with
  | nil => simp
  | cons char rest ih =>
    have digitBound : digit char < 10 := by
      have bounds := isDigit_bounds (isDigits char (by simp))
      rw [digit]
      omega
    have later := ih fun other mem => isDigits other (by simp [mem])
    have top : 10 ^ rest.length * digit char ≤ 10 ^ rest.length * 9 := mul_le_mul_left _ (by omega)
    rw [value_cons, length_cons, pow_succ]
    omega

theorem lt_iff_value {digits others : List Char} (sameLength : digits.length = others.length)
    (isDigits : Digits digits) (areDigits : Digits others) :
    digits < others ↔ value digits < value others := by
  induction digits generalizing others with
  | nil =>
    obtain rfl := length_eq_zero_iff.mp sameLength.symm
    simp
  | cons char rest ih =>
    cases others with
    | nil => cases sameLength
    | cons other later =>
      have sameRest : rest.length = later.length := by simpa using sameLength
      have restDigits : Digits rest := fun one mem => isDigits one (by simp [mem])
      have laterDigits : Digits later := fun one mem => areDigits one (by simp [mem])
      have below := value_lt restDigits
      have belowLater := value_lt laterDigits
      rw [cons_lt_cons_iff, value_cons, value_cons, sameRest,
        lt_iff_digit (isDigits char (by simp)) (areDigits other (by simp)),
        ih sameRest restDigits laterDigits]
      rw [sameRest] at below
      rcases lt_trichotomy (digit char) (digit other) with less | same | more
      · have gap : 10 ^ later.length * (digit char + 1) ≤ 10 ^ later.length * digit other :=
          mul_le_mul_left _ less
        rw [mul_succ] at gap
        omega
      · have sameChar : char = other := by
          have least := (isDigit_bounds (isDigits char (by simp))).1
          have leastOther := (isDigit_bounds (areDigits other (by simp))).1
          rw [digit, digit] at same
          exact Char.toNat_inj.mp (by omega)
        simp [sameChar]
      · have gap : 10 ^ later.length * (digit other + 1) ≤ 10 ^ later.length * digit char :=
          mul_le_mul_left _ more
        have notSame : char ≠ other := by
          rintro rfl
          exact lt_irrefl _ more
        rw [mul_succ] at gap
        simp only [Nat.not_lt_of_lt more, notSame, false_and, or_self, false_iff]
        omega

theorem eq_of_value {digits others : List Char} (sameLength : digits.length = others.length)
    (isDigits : Digits digits) (areDigits : Digits others)
    (same : value digits = value others) : digits = others := by
  rcases lt_trichotomy digits others with less | equal | more
  · exact absurd ((lt_iff_value sameLength isDigits areDigits).mp less) (by omega)
  · exact equal
  · exact absurd ((lt_iff_value sameLength.symm areDigits isDigits).mp more) (by omega)

theorem lt_append_iff {digits others rest : List Char} (sameLength : digits.length = others.length) :
    digits < others ++ rest ↔ digits < others ∨ digits = others ∧ rest ≠ [] := by
  induction digits generalizing others with
  | nil =>
    obtain rfl := length_eq_zero_iff.mp sameLength.symm
    cases rest <;> simp
  | cons char later ih =>
    cases others with
    | nil => cases sameLength
    | cons other tail =>
      have sameTail : later.length = tail.length := by simpa using sameLength
      rw [cons_append, cons_lt_cons_iff, cons_lt_cons_iff, ih sameTail, cons.injEq]
      tauto

theorem digits_toDigits (number : Nat) : Digits (toDigits 10 number) :=
  fun _ mem => isDigit_of_mem_toDigits (by decide) (by decide) mem

theorem repr_inj {number other : Nat} : number.repr = other.repr ↔ number = other := by
  refine ⟨fun same => ?_, congrArg Nat.repr⟩
  have digits := congrArg String.toList same
  rw [toList_repr, toList_repr] at digits
  have values := congrArg value digits
  rwa [value, value, ofDigitChars_ten_toDigits, ofDigitChars_ten_toDigits] at values

theorem value_take (number count : Nat) :
    value ((toDigits 10 number).take count) =
      number / 10 ^ ((Nat.toDigits 10 number).length - count) := by
  have split := value_append ((Nat.toDigits 10 number).take count) ((toDigits 10 number).drop count)
  have below : value ((toDigits 10 number).drop count) <
      10 ^ ((toDigits 10 number).drop count).length :=
    value_lt fun char mem => digits_toDigits number char (mem_of_mem_drop mem)
  rw [take_append_drop, value, ofDigitChars_ten_toDigits] at split
  rw [length_drop] at split below
  have positive : 0 < 10 ^ ((Nat.toDigits 10 number).length - count) := Nat.pow_pos (by decide)
  symm
  rw [Nat.div_eq_iff positive]
  rw [Nat.mul_comm] at split
  omega

theorem length_toDigits_le {number other : Nat} (less : number ≤ other) :
    (toDigits 10 number).length ≤ (toDigits 10 other).length := by
  rw [length_toDigits_le_iff (by decide) length_toDigits_pos]
  exact less.trans_lt ((length_toDigits_le_iff (by decide) length_toDigits_pos).mp (le_refl _))

/-- The text of the smaller is smaller exactly when it is within the leading digits. -/
theorem repr_lt_repr_iff {number other : Nat} (less : number < other) :
    number.repr < other.repr ↔ number ≤ other / 10 ^ (other.repr.length - number.repr.length) := by
  have lengths : ∀ count : Nat, count.repr.length = (toDigits 10 count).length := by
    intro count
    rw [<- String.length_toList, toList_repr]
  rw [String.lt_iff_toList_lt, toList_repr, toList_repr, lengths, lengths]
  set digits := toDigits 10 number with digitsEq
  set others := toDigits 10 other with othersEq
  have fits : digits.length ≤ others.length := length_toDigits_le less.le
  have sameLength : digits.length = (others.take digits.length).length := by
    rw [length_take, min_eq_left fits]
  have takeDigits : Digits (others.take digits.length) :=
    fun char mem => digits_toDigits other char (mem_of_mem_take mem)
  have valueDigits : value digits = number := ofDigitChars_ten_toDigits
  have valueTake : value (others.take digits.length) =
    other / 10 ^ (others.length - digits.length) := value_take other _
  have leading : digits < others ↔ digits < others.take digits.length ∨
      digits = others.take digits.length ∧ others.drop digits.length ≠ [] := by
    conv_lhs => rw [<- take_append_drop digits.length others]
    exact lt_append_iff sameLength
  rw [leading, lt_iff_value sameLength (digits_toDigits number) takeDigits, valueDigits, valueTake,
    le_iff_lt_or_eq]
  refine or_congr_right ⟨?_, ?_⟩
  · rintro ⟨same, -⟩
    exact valueDigits.symm.trans ((congrArg value same).trans valueTake)
  · intro same
    refine ⟨eq_of_value sameLength (digits_toDigits number) takeDigits
      (by rw [valueDigits, valueTake, same]), ?_⟩
    intro none
    rw [drop_eq_nil_iff] at none
    rw [Nat.sub_eq_zero_of_le none, pow_zero, Nat.div_one] at same
    exact less.ne same

end AbilityRuntime.Library.Decimal
