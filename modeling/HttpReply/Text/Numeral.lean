import HttpReply.Text.Basic

/-!
# Decimal numerals

Numbers are written in decimal without leading zeros. Reading accepts leading
zeros and one sign in front, and nothing but ASCII digits besides.
-/
namespace HttpReply.Text

/-- The decimal digits of a number, without leading zeros. -/
def decimal (n : Nat) : Text := Nat.toDigits 10 n

/-- The number that a row of decimal digits spells after the number `n`. -/
def digitsValue (n : Nat) (digits : Text) : Nat :=
  digits.foldl (fun n d => 10 * n + (d.toNat - 48)) n

/-- The number that a non-empty row of ASCII digits spells. -/
def natural? (t : Text) : Option Nat :=
  if t != [] && t.all Char.isDigit then some (digitsValue 0 t) else none

/-- The natural number spelled by digits that one plus sign may precede. -/
def unsigned? : Text → Option Nat
  | '+' :: digits => natural? digits
  | digits => natural? digits

/-- The integer spelled by digits that one sign may precede. -/
def integer? : Text → Option Int
  | '-' :: digits => (natural? digits).map fun n => -(n : Int)
  | digits => (unsigned? digits).map fun n => (n : Int)

/-- The integer as a 32-bit one, if it is in range. -/
def fit? (n : Int) : Option Int32 :=
  if -2147483648 ≤ n ∧ n < 2147483648 then some (Int32.ofInt n) else none

/-- The numeral's value, if it lies in the range of signed 32-bit integers. -/
def int32? (t : Text) : Option Int32 := (integer? t).bind fit?

/-- The numeral's value, if it lies in the range of unsigned 16-bit integers. -/
def uint16? (t : Text) : Option UInt16 :=
  match unsigned? t with
  | some n => if n < 65536 then some (UInt16.ofNat n) else none
  | none => none

theorem fit?_eq_some_iff {n : Int} {v : Int32} : fit? n = some v ↔ n = v.toInt := by
  unfold fit?
  constructor
  · intro fits
    split at fits
    next range =>
      obtain rfl := Option.some.inj fits
      exact (Int32.toInt_ofInt_of_le range.1 range.2).symm
    next => cases fits
  · rintro rfl
    rw [if_pos ⟨v.le_toInt, v.toInt_lt⟩, Int32.ofInt_toInt]

theorem fit?_eq_none_iff {n : Int} : fit? n = none ↔ n < -2147483648 ∨ 2147483648 ≤ n := by
  unfold fit?
  split <;> simp <;> omega

/-- A numeral in range is read without loss. -/
theorem int32?_eq_some_iff {t : Text} {v : Int32} : int32? t = some v ↔ integer? t = some v.toInt := by
  simp only [int32?, Option.bind_eq_some_iff, fit?_eq_some_iff, exists_eq_right]

/-- The decimal digits of an integer, after a minus sign if it is negative. -/
def signed (n : Int) : Text := if n < 0 then '-' :: decimal n.natAbs else decimal n.natAbs

theorem isDigit_of_mem_decimal {n : Nat} {d : Char} (member : d ∈ decimal n) : d.isDigit = true :=
  Nat.isDigit_of_mem_toDigits (by decide) (by decide) member

theorem natural?_decimal (n : Nat) : natural? (decimal n) = some n := by
  have digits : (decimal n).all Char.isDigit = true :=
    List.all_eq_true.2 fun d member => isDigit_of_mem_decimal member
  have present : decimal n ≠ [] := Nat.toDigits_ne_nil
  have value : digitsValue 0 (decimal n) = n := Nat.ofDigitChars_ten_toDigits
  simp [natural?, digits, present, value]

/-- A numeral that starts with a digit is read as its digits alone. -/
theorem integer?_of_digits {t : Text} (digits : ∀ d ∈ t, d.isDigit = true) :
    integer? t = (natural? t).map fun n => (n : Int) := by
  cases t with
  | nil => rfl
  | cons d rest =>
    have first : d.isDigit = true := digits d List.mem_cons_self
    have minus : d ≠ '-' := by rintro rfl; exact absurd first (by decide)
    have plus : d ≠ '+' := by rintro rfl; exact absurd first (by decide)
    rw [integer?, unsigned?]
    · intro digits same
      exact plus (List.cons.inj same).1
    · intro digits same
      exact minus (List.cons.inj same).1

/-- An integer that is written is read again. -/
theorem integer?_signed (n : Int) : integer? (signed n) = some n := by
  unfold signed
  by_cases negative : n < 0
  · rw [if_pos negative, integer?, natural?_decimal]
    show some (-(n.natAbs : Int)) = some n
    congr 1
    omega
  · rw [if_neg negative, integer?_of_digits fun d => isDigit_of_mem_decimal, natural?_decimal]
    show some (n.natAbs : Int) = some n
    congr 1
    omega

/-- The text spells the integer: one or more ASCII digits, with one sign in front or none. -/
def Spells (t : Text) (n : Int) : Prop :=
  ∃ digits, digits ≠ [] ∧ digits.all Char.isDigit = true ∧
    ((t = digits ∨ t = '+' :: digits) ∧ n = digitsValue 0 digits ∨
      t = '-' :: digits ∧ n = -(digitsValue 0 digits : Int))

theorem natural?_eq_some_iff {t : Text} {n : Nat} :
    natural? t = some n ↔ t ≠ [] ∧ t.all Char.isDigit = true ∧ n = digitsValue 0 t := by
  unfold natural?
  split
  next digits =>
    rw [Bool.and_eq_true, bne_iff_ne] at digits
    simp [digits, eq_comm]
  next other =>
    rw [Bool.and_eq_true, bne_iff_ne] at other
    constructor
    · intro read
      cases read
    · rintro ⟨present, digits, -⟩
      exact absurd ⟨present, digits⟩ other

theorem integer?_minus {digits : Text} {n : Int} :
    integer? ('-' :: digits) = some n ↔ ∃ m, natural? digits = some m ∧ n = -(m : Int) := by
  rw [integer?]
  cases natural? digits <;> simp [eq_comm]

theorem integer?_unsigned {t : Text} (start : ∀ digits, t ≠ '-' :: digits) {n : Int} :
    integer? t = some n ↔ ∃ m, unsigned? t = some m ∧ n = m := by
  rw [integer?]
  · cases unsigned? t <;> simp [eq_comm]
  · exact start

theorem integer?_eq_some_iff {t : Text} {n : Int} : integer? t = some n ↔ Spells t n := by
  constructor
  · intro read
    by_cases minus : ∃ digits, t = '-' :: digits
    · obtain ⟨digits, rfl⟩ := minus
      obtain ⟨m, spelled, rfl⟩ := integer?_minus.1 read
      obtain ⟨present, all, rfl⟩ := natural?_eq_some_iff.1 spelled
      exact ⟨digits, present, all, .inr ⟨rfl, rfl⟩⟩
    · obtain ⟨m, spelled, rfl⟩ := (integer?_unsigned fun digits same => minus ⟨digits, same⟩).1 read
      unfold unsigned? at spelled
      split at spelled
      next digits =>
        obtain ⟨present, all, rfl⟩ := natural?_eq_some_iff.1 spelled
        exact ⟨digits, present, all, .inl ⟨.inr rfl, rfl⟩⟩
      next =>
        obtain ⟨present, all, rfl⟩ := natural?_eq_some_iff.1 spelled
        exact ⟨t, present, all, .inl ⟨.inl rfl, rfl⟩⟩
  · rintro ⟨digits, present, all, ⟨rfl | rfl, rfl⟩ | ⟨rfl, rfl⟩⟩
    · have spelled := natural?_eq_some_iff.2 ⟨present, all, rfl⟩
      rw [integer?_of_digits (List.all_eq_true.1 all), spelled]
      rfl
    · have spelled := natural?_eq_some_iff.2 ⟨present, all, rfl⟩
      exact (integer?_unsigned (by simp)).2 ⟨_, spelled, rfl⟩
    · exact integer?_minus.2 ⟨_, natural?_eq_some_iff.2 ⟨present, all, rfl⟩, rfl⟩

/-- A text spells no two integers. -/
theorem spells_unique {t : Text} {m n : Int} (one : Spells t m) (other : Spells t n) : m = n := by
  rw [← integer?_eq_some_iff] at one other
  exact Option.some.inj (one.symm.trans other)

/-- The digits are the decimal numeral of a number: they spell it, and no zero stands before others. -/
def IsDecimal (n : Nat) (digits : Text) : Prop :=
  digits ≠ [] ∧ digits.all Char.isDigit = true ∧ digitsValue 0 digits = n ∧ (digits.head? = some '0' → digits = ['0'])

theorem decimal_of_isDigit {d : Char} (digit : d.isDigit = true) : decimal (d.toNat - 48) = [d] ∧ d.toNat - 48 < 10 := by
  obtain ⟨low, high⟩ : d.val ≥ 48 ∧ d.val ≤ 57 := by simpa [Char.isDigit] using digit
  have least : 48 ≤ d.toNat := low
  have greatest : d.toNat ≤ 57 := high
  have small : d.toNat - 48 < 10 := by omega
  refine ⟨?_, small⟩
  rw [decimal, Nat.toDigits_of_lt_base small, List.singleton_inj, ← Char.toNat_inj, Nat.toNat_digitChar_of_lt_ten small]
  omega

/-- Digits after the numeral of a positive number make up the numeral of the number that they spell together. -/
theorem decimal_append {n : Nat} (positive : 0 < n) {digits : Text} (all : ∀ d ∈ digits, d.isDigit = true) :
    decimal n ++ digits = decimal (digitsValue n digits) := by
  induction digits generalizing n with
  | nil => exact List.append_nil _
  | cons d rest ih =>
    obtain ⟨last, small⟩ := decimal_of_isDigit (all d List.mem_cons_self)
    have next : decimal n ++ [d] = decimal (10 * n + (d.toNat - 48)) := by
      rw [← last]
      exact Nat.toDigits_append_toDigits (by decide) positive small
    rw [List.append_cons, next, ih (by omega) fun other member => all other (List.mem_cons_of_mem d member)]
    rfl

theorem eq_singleton_of_head?_decimal {n : Nat} (zero : (decimal n).head? = some '0') : decimal n = ['0'] := by
  induction n using Nat.strongRecOn with
  | _ n ih =>
    by_cases small : n < 10
    · rw [decimal, Nat.toDigits_of_lt_base small] at zero ⊢
      exact congrArg (fun d => [d]) (Option.some.inj zero)
    · -- The numeral of a tenth of the number starts alike, and is no zero.
      have parts : decimal n = decimal (n / 10) ++ [Nat.digitChar (n % 10)] :=
        Nat.toDigits_of_base_le (by decide) (Nat.le_of_not_lt small)
      obtain ⟨first, rest, more⟩ : ∃ first rest, decimal (n / 10) = first :: rest :=
        List.exists_cons_of_ne_nil Nat.toDigits_ne_nil
      have tenth : decimal (n / 10) = ['0'] := by
        refine ih (n / 10) (by omega) ?_
        rw [parts, more] at zero
        rw [more]
        exact zero
      have value := natural?_decimal (n / 10)
      rw [tenth, show natural? ['0'] = some 0 by decide] at value
      have := Option.some.inj value
      omega

/-- A number has one numeral. -/
theorem isDecimal_iff {n : Nat} {digits : Text} : IsDecimal n digits ↔ digits = decimal n := by
  constructor
  · rintro ⟨present, all, rfl, leading⟩
    rw [List.all_eq_true] at all
    obtain ⟨d, rest, rfl⟩ := List.exists_cons_of_ne_nil present
    by_cases zero : d = '0'
    · rw [leading (congrArg some zero)]
      decide
    · obtain ⟨first, -⟩ := decimal_of_isDigit (all d List.mem_cons_self)
      have positive : 0 < d.toNat - 48 := by
        refine Nat.pos_of_ne_zero fun nothing => zero ?_
        rw [nothing] at first
        exact (List.singleton_inj.1 first).symm
      have value : digitsValue 0 (d :: rest) = digitsValue (d.toNat - 48) rest := by
        rw [digitsValue, List.foldl_cons, Nat.mul_zero, Nat.zero_add, digitsValue]
      rw [value, ← decimal_append positive fun other member => all other (List.mem_cons_of_mem d member), first,
        List.singleton_append]
  · rintro rfl
    obtain ⟨present, all, value⟩ := natural?_eq_some_iff.1 (natural?_decimal n)
    exact ⟨present, all, value.symm, eq_singleton_of_head?_decimal⟩

end HttpReply.Text
