import Mathlib.Data.Int.Order.Basic

/-!
# Text in C arrays

`sprintf(_, "%d", _)`, `atoi` and `strncmp` on arrays of cells.  A cell is a byte of memory;
it is `none` while it has no definite value, and reading such a cell is undefined, as is
reading past the end of the array.

- `atoi_formatInt`: in any array that starts with the text of an `int` and its
  terminator, `atoi` reads that `int` back;
- `strncmp_of_length_eq`: over two whole arrays `strncmp` gives 0 exactly when the texts in
  front of the first null characters are equal.
-/

namespace CString

/-- A byte of memory, `none` while it is indeterminate. -/
abbrev Cell := Option UInt8

def minInt : Int := -2147483648
def maxInt : Int := 2147483647

/-- The byte of an ASCII character. -/
def byteOf (c : Char) : UInt8 := UInt8.ofNat c.toNat

/-- What `"%d"` writes, without the terminator. -/
def formatInt (n : Int) : List UInt8 :=
  if n < 0 then byteOf '-' :: (Nat.toDigits 10 n.natAbs).map byteOf
  else (Nat.toDigits 10 n.natAbs).map byteOf

def isDigit (b : UInt8) : Bool := 48 ≤ b.toNat && b.toNat ≤ 57

/-- `isspace` in the C locale. -/
def isSpace (b : UInt8) : Bool := b.toNat = 32 || (9 ≤ b.toNat && b.toNat ≤ 13)

/-- The value of the digits in front, up to the first byte that is none.  `none` when
    the text leaves the array or runs into an indeterminate cell. -/
def digitsValue (acc : Nat) : List Cell → Option Nat
  | [] => none
  | none :: _ => none
  | some b :: rest =>
    if isDigit b then digitsValue (10 * acc + (b.toNat - 48)) rest else some acc

/-- A value outside `int` has no defined result. -/
def toInt (n : Int) : Option Int :=
  if minInt ≤ n ∧ n ≤ maxInt then some n else none

/-- At most one sign, then digits. -/
def signedValue : List Cell → Option Int
  -- 45 and 43 are the bytes of minus and plus
  | some 45 :: digits => (digitsValue 0 digits).bind fun n => toInt (-n)
  | some 43 :: digits => (digitsValue 0 digits).bind fun n => toInt n
  | digits => (digitsValue 0 digits).bind fun n => toInt n

/-- `atoi`: leading spaces, then a signed number. -/
def atoi (text : List Cell) : Option Int :=
  signedValue (text.dropWhile fun c => c.any isSpace)

/-- `strncmp`: the difference of the first two bytes that differ among the first `count`, and
    0 if there are none in front of a null character. -/
def strncmp : (count : Nat) → List Cell → List Cell → Option Int
  | 0, _, _ => some 0
  | count + 1, some x :: xs, some y :: ys =>
    if x ≠ y then some ((x.toNat : Int) - y.toNat)
    else if x = 0 then some 0
    else strncmp count xs ys
  | _ + 1, _, _ => none

/-! ## The bytes of a digit -/

private theorem toNat_byteOf_of_isDigit {c : Char} (hc : c.isDigit = true) :
    (byteOf c).toNat = c.toNat ∧ 48 ≤ c.toNat ∧ c.toNat ≤ 57 := by
  have hrange : 48 ≤ c.toNat ∧ c.toNat ≤ 57 := by
    simp only [Char.isDigit, Bool.and_eq_true, decide_eq_true_eq] at hc
    exact ⟨hc.1, hc.2⟩
  refine ⟨?_, hrange⟩
  show (UInt8.ofNat c.toNat).toNat = c.toNat
  rw [UInt8.toNat_ofNat']
  omega

/-- A digit is a digit for `atoi`, neither a space nor a sign. -/
private theorem byteOf_isDigit {c : Char} (hc : c.isDigit = true) :
    isDigit (byteOf c) = true ∧ isSpace (byteOf c) = false ∧ byteOf c ≠ 45 ∧ byteOf c ≠ 43 := by
  obtain ⟨hval, hlow, hhigh⟩ := toNat_byteOf_of_isDigit hc
  -- the digits are the bytes 48 to 57; spaces and signs have smaller ones
  refine ⟨?_, ?_, ?_, ?_⟩
  · simp only [isDigit, hval, Bool.and_eq_true, decide_eq_true_eq]
    omega
  · simp only [isSpace, hval, Bool.or_eq_false_iff, Bool.and_eq_false_iff, decide_eq_false_iff_not]
    omega
  · intro h
    rw [h] at hval
    have : (45 : UInt8).toNat = 45 := rfl
    omega
  · intro h
    rw [h] at hval
    have : (43 : UInt8).toNat = 43 := rfl
    omega

/-! ## Reading back -/

/-- The digits in front of a terminator have the value that Horner's rule gives. -/
private theorem digitsValue_map_byteOf {cs : List Char} (hcs : ∀ c ∈ cs, c.isDigit = true)
    (acc : Nat) (rest : List Cell) :
    digitsValue acc ((cs.map byteOf).map some ++ some 0 :: rest) =
      some (Nat.ofDigitChars 10 cs acc) := by
  -- the accumulator is multiplied by ten before every digit
  induction cs generalizing acc with
  | nil => rfl
  | cons c cs ih =>
    obtain ⟨hc, hcs⟩ := List.forall_mem_cons.mp hcs
    simp only [List.map_cons, List.cons_append, digitsValue, (byteOf_isDigit hc).1, if_pos,
      Nat.ofDigitChars_cons, (toNat_byteOf_of_isDigit hc).1]
    exact ih hcs _

private theorem isDigit_of_mem_toDigits {n : Nat} : ∀ c ∈ Nat.toDigits 10 n, c.isDigit = true :=
  fun _ hc => Nat.isDigit_of_mem_toDigits (by omega) (by omega) hc

private theorem digitsValue_toDigits (n : Nat) (rest : List Cell) :
    digitsValue 0 (((Nat.toDigits 10 n).map byteOf).map some ++ some 0 :: rest) = some n := by
  rw [digitsValue_map_byteOf isDigit_of_mem_toDigits, Nat.ofDigitChars_ten_toDigits]

/-- Without a sign in front the digits decide. -/
private theorem signedValue_of_ne {b : UInt8} (hminus : b ≠ 45) (hplus : b ≠ 43)
    (rest : List Cell) : signedValue (some b :: rest) =
      (digitsValue 0 (some b :: rest)).bind fun n => toInt n := by
  unfold signedValue
  split
  · rename_i heq
    cases heq
    exact absurd rfl hminus
  · rename_i heq
    cases heq
    exact absurd rfl hplus
  · rfl

/-- Nothing is skipped in front of a byte that is no space. -/
private theorem atoi_cons {b : UInt8} (hspace : isSpace b = false) (rest : List Cell) :
    atoi (some b :: rest) = signedValue (some b :: rest) := by
  unfold atoi
  rw [List.dropWhile_cons_of_neg]
  rw [Option.any_some, hspace]
  decide

/-- `atoi` reads back what `"%d"` wrote, whatever follows the terminator. -/
theorem atoi_formatInt {n : Int} (hmin : minInt ≤ n) (hmax : n ≤ maxInt) (rest : List Cell) :
    atoi ((formatInt n).map some ++ some 0 :: rest) = some n := by
  have hint : toInt n = some n := if_pos ⟨hmin, hmax⟩
  have hvalue := digitsValue_toDigits n.natAbs rest
  by_cases hneg : n < 0
  -- the minus is taken as the sign, and the digits are those of the absolute value
  · have habs : -(n.natAbs : Int) = n := by omega
    have hsign : formatInt n = 45 :: (Nat.toDigits 10 n.natAbs).map byteOf := if_pos hneg
    rw [hsign, List.map_cons, List.cons_append, atoi_cons rfl]
    show (digitsValue 0 _).bind (fun m => toInt (-m)) = some n
    rw [hvalue, Option.bind_some, habs, hint]
  · have habs : (n.natAbs : Int) = n := by omega
    have hsign : formatInt n = (Nat.toDigits 10 n.natAbs).map byteOf := if_neg hneg
    rw [hsign]
    -- the first character is a digit, so nothing is skipped and no sign is taken
    cases hdigits : Nat.toDigits 10 n.natAbs with
    | nil => exact absurd hdigits Nat.toDigits_ne_nil
    | cons c cs =>
      have hc : c.isDigit = true :=
        isDigit_of_mem_toDigits c (by rw [hdigits]; exact List.mem_cons_self)
      obtain ⟨-, hspace, hminus, hplus⟩ := byteOf_isDigit hc
      rw [hdigits] at hvalue
      simp only [List.map_cons, List.cons_append] at hvalue ⊢
      rw [atoi_cons hspace, signedValue_of_ne hminus hplus, hvalue, Option.bind_some, habs, hint]

/-- The text of an `int` has at most eleven characters. -/
theorem length_formatInt_le {n : Int} (hmin : minInt ≤ n) (hmax : n ≤ maxInt) :
    (formatInt n).length ≤ 11 := by
  simp only [minInt, maxInt] at hmin hmax
  -- the absolute value of an `int` has ten digits at most, and there may be a minus
  have habs : (Nat.toDigits 10 n.natAbs).length ≤ 10 := by
    rw [Nat.length_toDigits_le_iff (by omega) (by omega)]
    omega
  simp only [formatInt]
  split
  · rw [List.length_cons, List.length_map]
    omega
  · rw [List.length_map]
    omega

/-! ## Comparing -/

/-- Texts that start with different characters are different. -/
private theorem takeWhile_cons_ne {x y : UInt8} (hne : x ≠ y) (xs ys : List UInt8) :
    (x :: xs).takeWhile (· ≠ 0) ≠ (y :: ys).takeWhile (· ≠ 0) := by
  intro h
  by_cases hx : x = 0
  · have hy : y ≠ 0 := fun hy => hne (hx.trans hy.symm)
    simp [hx, hy] at h
  · by_cases hy : y = 0
    · simp [hx, hy] at h
    · simp [hx, hy] at h
      exact hne h.1

/-- Different bytes have a difference. -/
private theorem toNat_sub_toNat_ne_zero {x y : UInt8} (hne : x ≠ y) :
    (x.toNat : Int) - y.toNat ≠ 0 := by
  intro h
  exact hne (UInt8.toNat_inj.mp (by omega))

/-- `strncmp` over two whole arrays compares their texts. -/
theorem strncmp_of_length_eq {xs ys : List UInt8} (hlength : xs.length = ys.length) :
    ∃ d, strncmp xs.length (xs.map some) (ys.map some) = some d ∧
      (d = 0 ↔ xs.takeWhile (· ≠ 0) = ys.takeWhile (· ≠ 0)) := by
  induction xs generalizing ys with
  | nil =>
    cases ys with
    | nil => exact ⟨0, rfl, by simp⟩
    | cons y ys => cases hlength
  | cons x xs ih =>
    cases ys with
    | nil => cases hlength
    | cons y ys =>
      simp only [List.length_cons, List.map_cons, strncmp]
      by_cases hne : x ≠ y
      · rw [if_pos hne]
        refine ⟨_, rfl, ?_⟩
        exact iff_of_false (toNat_sub_toNat_ne_zero hne) (takeWhile_cons_ne hne xs ys)
      -- the characters agree: the comparison ends at a null character
      · have heq : x = y := not_not.mp hne
        subst heq
        rw [if_neg hne]
        by_cases hnull : x = 0
        · rw [if_pos hnull]
          refine ⟨0, rfl, ?_⟩
          simp [hnull]
        · rw [if_neg hnull]
          obtain ⟨d, hd, hiff⟩ := ih (Nat.succ.inj hlength)
          refine ⟨d, hd, ?_⟩
          simp [hnull, hiff]

end CString
