import HttpReply.Text.Numeral

/-!
# Numerals read in 32 bits

A numeral is read here digit by digit in words of 32 bits, which wrap around. Each operation comes with its
overflow flag, and reading stops where the flag is set. The number that the digits spell never comes closer to zero
by more digits, so once it has left the range of a word it stays outside: reading stops exactly if the whole numeral
is out of range, and otherwise it ends with the integer that is spelled.
-/
namespace HttpReply.Text

/-- The result of an operation that does not overflow. -/
def guarded? (overflow : Bool) (result : Int32) : Option Int32 := if overflow then none else some result

/-- Ten times the word. -/
def tenfold? (w : Int32) : Option Int32 := guarded? (w.toBitVec.smulOverflow 10#32) (w * 10)

/-- The word with a digit that takes it further from zero: downwards after a minus sign, and else upwards. -/
def addDigit? (minus : Bool) (w digit : Int32) : Option Int32 :=
  if minus then guarded? (w.toBitVec.ssubOverflow digit.toBitVec) (w - digit)
  else guarded? (w.toBitVec.saddOverflow digit.toBitVec) (w + digit)

theorem flag_iff {n limit : Int} (value : limit = 2147483648) :
    (decide (n ≥ limit) || decide (n < -limit)) = true ↔ n < -2147483648 ∨ 2147483648 ≤ n := by
  rw [Bool.or_eq_true, decide_eq_true_iff, decide_eq_true_iff, or_comm, value, ge_iff_le]

/-- An operation is exact if its flag is set for integers out of range, and its word is the integer otherwise. -/
theorem guarded?_eq {overflow : Bool} {result : Int32} {n : Int}
    (flag : overflow = true ↔ n < -2147483648 ∨ 2147483648 ≤ n) (value : ¬ overflow = true → n = result.toInt) :
    guarded? overflow result = fit? n := by
  unfold guarded?
  by_cases set : overflow = true
  · rw [if_pos set, fit?_eq_none_iff.2 (flag.1 set)]
  · rw [if_neg set, fit?_eq_some_iff.2 (value set)]

theorem tenfold?_eq (w : Int32) : tenfold? w = fit? (w.toInt * 10) :=
  guarded?_eq (flag_iff rfl) fun within => (BitVec.toInt_mul_of_not_smulOverflow within).symm

theorem addDigit?_eq (minus : Bool) (w digit : Int32) :
    addDigit? minus w digit = fit? (if minus then w.toInt - digit.toInt else w.toInt + digit.toInt) := by
  cases minus with
  | true => exact guarded?_eq (flag_iff rfl) fun within => (BitVec.toInt_sub_of_not_ssubOverflow within).symm
  | false => exact guarded?_eq (flag_iff rfl) fun within => (BitVec.toInt_add_of_not_saddOverflow within).symm

/-- The word after one more digit of a numeral. -/
def nextWord? (minus : Bool) (w : Int32) (c : Char) : Option Int32 :=
  if c.isDigit then (tenfold? w).bind fun tens => addDigit? minus tens (Int32.ofNat (c.toNat - 48)) else none

/-- The word that a non-empty row of digits leads to. -/
def naturalInWords? (minus : Bool) (digits : Text) : Option Int32 :=
  if digits.isEmpty then none else digits.foldlM (nextWord? minus) 0

/-- The integer that a numeral spells, read in words. -/
def int32InWords? : Text → Option Int32
  | '-' :: digits => naturalInWords? true digits
  | '+' :: digits => naturalInWords? false digits
  | digits => naturalInWords? false digits

/-- The number below zero after a minus sign. -/
def withSign (minus : Bool) (n : Nat) : Int := if minus then -(n : Int) else n

@[simp] theorem withSign_true (n : Nat) : withSign true n = -(n : Int) := rfl

@[simp] theorem withSign_false (n : Nat) : withSign false n = n := rfl

theorem toInt_digit {c : Char} (digit : c.isDigit = true) :
    (Int32.ofNat (c.toNat - 48)).toInt = ((c.toNat - 48 : Nat) : Int) := by
  obtain ⟨-, small⟩ := decimal_of_isDigit digit
  exact Int32.toInt_ofNat_of_lt (by omega)

/-- A digit takes a number further from zero: if ten times the number is out of range, so is what the digit
    makes of it. -/
theorem nextWord?_eq {minus : Bool} {w : Int32} {n : Nat} (holds : withSign minus n = w.toInt) {c : Char}
    (digit : c.isDigit = true) : nextWord? minus w c = fit? (withSign minus (10 * n + (c.toNat - 48))) := by
  rw [nextWord?, if_pos digit, tenfold?_eq]
  cases tens : fit? (w.toInt * 10) with
  | none =>
    rw [fit?_eq_none_iff] at tens
    rw [Option.bind_none, eq_comm, fit?_eq_none_iff]
    cases minus <;> simp only [withSign_true, withSign_false] at holds ⊢ <;> omega
  | some product =>
    rw [fit?_eq_some_iff] at tens
    rw [Option.bind_some, addDigit?_eq, ← tens, toInt_digit digit, ← holds]
    congr 1
    cases minus <;> simp only [withSign_true, withSign_false, Bool.false_eq_true, if_false, if_true] <;> omega

theorem le_digitsValue (n : Nat) (digits : Text) : n ≤ digitsValue n digits := by
  induction digits generalizing n with
  | nil => exact Nat.le_refl n
  | cons d rest ih =>
    have later := ih (10 * n + (d.toNat - 48))
    rw [digitsValue, List.foldl_cons, ← digitsValue]
    omega

/-- A number that is out of range stays so when digits follow. -/
theorem fit?_withSign_mono {minus : Bool} {m n : Nat} (more : m ≤ n) (out : fit? (withSign minus m) = none) :
    fit? (withSign minus n) = none := by
  rw [fit?_eq_none_iff] at out ⊢
  cases minus <;> simp only [withSign_true, withSign_false] at out ⊢ <;> omega

/-- Digits lead to the number that they spell after the number so far, and to none if this is out of range. -/
theorem foldlM_nextWord? {minus : Bool} {w : Int32} {n : Nat} (holds : withSign minus n = w.toInt) {digits : Text}
    (all : ∀ d ∈ digits, d.isDigit = true) :
    digits.foldlM (nextWord? minus) w = fit? (withSign minus (digitsValue n digits)) := by
  induction digits generalizing w n with
  | nil => exact (fit?_eq_some_iff.2 holds).symm
  | cons d rest ih =>
    have step := nextWord?_eq holds (all d List.mem_cons_self)
    have value : digitsValue n (d :: rest) = digitsValue (10 * n + (d.toNat - 48)) rest := rfl
    rw [List.foldlM_cons, step, value]
    cases next : fit? (withSign minus (10 * n + (d.toNat - 48))) with
    -- The digits that are left unread cannot bring the number back into range.
    | none => exact (fit?_withSign_mono (le_digitsValue _ rest) next).symm
    | some word => exact ih (fit?_eq_some_iff.1 next) fun c member => all c (List.mem_cons_of_mem d member)

/-- A character that is no digit ends the reading, wherever it stands. -/
theorem foldlM_nextWord?_of_mem {minus : Bool} {digits : Text} {c : Char} (member : c ∈ digits)
    (other : ¬ c.isDigit = true) (w : Int32) : digits.foldlM (nextWord? minus) w = none := by
  induction digits generalizing w with
  | nil => cases member
  | cons d rest ih =>
    rw [List.foldlM_cons]
    rcases List.mem_cons.1 member with rfl | later
    · rw [nextWord?, if_neg other]
      rfl
    · cases nextWord? minus w d with
      | none => rfl
      | some next => exact ih later next

theorem naturalInWords?_eq (minus : Bool) (digits : Text) :
    naturalInWords? minus digits = (natural? digits).bind fun n => fit? (withSign minus n) := by
  cases read : natural? digits with
  | some n =>
    obtain ⟨present, all, rfl⟩ := natural?_eq_some_iff.1 read
    have zero : withSign minus 0 = (0 : Int32).toInt := by cases minus <;> rfl
    rw [naturalInWords?, if_neg (by simpa using present), foldlM_nextWord? zero (List.all_eq_true.1 all),
      Option.bind_some]
  | none =>
    rw [Option.bind_none, naturalInWords?]
    by_cases empty : digits.isEmpty = true
    · rw [if_pos empty]
    · have present : digits ≠ [] := by simpa using empty
      have mixed : ¬ digits.all Char.isDigit = true := by
        intro all
        rw [natural?_eq_some_iff.2 ⟨present, all, rfl⟩] at read
        cases read
      obtain ⟨c, member, other⟩ : ∃ c ∈ digits, ¬ c.isDigit = true := by simpa using mixed
      rw [if_neg empty, foldlM_nextWord?_of_mem member other]

theorem naturalInWords?_minus (digits : Text) :
    naturalInWords? true digits = (integer? ('-' :: digits)).bind fit? := by
  rw [naturalInWords?_eq, integer?]
  cases natural? digits <;> rfl

theorem naturalInWords?_unsigned {t digits : Text} (start : ∀ rest, t ≠ '-' :: rest)
    (unsigned : unsigned? t = natural? digits) : naturalInWords? false digits = (integer? t).bind fit? := by
  rw [naturalInWords?_eq, integer?, unsigned]
  · cases natural? digits <;> rfl
  · exact start

/-- Every text is read in words as it is read without a bound on numbers and with one look at the range in the end. -/
theorem int32InWords?_eq (t : Text) : int32InWords? t = int32? t := by
  rw [int32?]
  unfold int32InWords?
  split
  next digits => exact naturalInWords?_minus digits
  next digits => exact naturalInWords?_unsigned (by simp) rfl
  next notMinus notPlus => exact naturalInWords?_unsigned notMinus (by rw [unsigned?]; exact notPlus)

/-- The lower limit is further from zero than the upper one. A number that would wrap around to -1 is not read. -/
example :
    int32InWords? "+0002147483647".toList = some 2147483647 ∧ int32InWords? "2147483648".toList = none ∧
      int32InWords? "-2147483648".toList = some (-2147483648) ∧ int32InWords? "4294967295".toList = none := by
  decide +kernel

end HttpReply.Text
