/-!
# Base64

The standard encoding of bytes in the 64 characters, padded to groups of four.

- `length_encode`: four characters for every three bytes that are begun;
- `null_not_mem_encode`: no character is null;
- `decode_encode`: decoding gives the bytes back.
-/

namespace Base64

/-- The character with which an incomplete group is filled. -/
def padding : UInt8 := 61

/-- The character for six bits. -/
def digit (n : Nat) : UInt8 :=
  if n < 26 then UInt8.ofNat (65 + n)
  else if n < 52 then UInt8.ofNat (71 + n)
  else if n < 62 then UInt8.ofNat (n - 4)
  else if n = 62 then 43
  else 47

/-- The six bits of a character. -/
def value (c : UInt8) : Option Nat :=
  if 65 ≤ c.toNat ∧ c.toNat < 91 then some (c.toNat - 65)
  else if 97 ≤ c.toNat ∧ c.toNat < 123 then some (c.toNat - 71)
  else if 48 ≤ c.toNat ∧ c.toNat < 58 then some (c.toNat + 4)
  else if c = 43 then some 62
  else if c = 47 then some 63
  else none

/-- The characters for one group: the bits of three bytes, six at a time. -/
def encode : List UInt8 → List UInt8
  | [] => []
  | [a] => [digit (a.toNat / 4), digit (a.toNat % 4 * 16), padding, padding]
  | [a, b] =>
    [digit (a.toNat / 4), digit (a.toNat % 4 * 16 + b.toNat / 16), digit (b.toNat % 16 * 4),
      padding]
  | a :: b :: c :: rest =>
    digit (a.toNat / 4) :: digit (a.toNat % 4 * 16 + b.toNat / 16) ::
      digit (b.toNat % 16 * 4 + c.toNat / 64) :: digit (c.toNat % 64) :: encode rest

/-- The first byte of a group, from its first two characters. -/
def firstByte (w x : Nat) : UInt8 := UInt8.ofNat (w * 4 + x / 16)

def secondByte (x y : Nat) : UInt8 := UInt8.ofNat (x % 16 * 16 + y / 4)

def thirdByte (y z : Nat) : UInt8 := UInt8.ofNat (y % 4 * 64 + z)

/-- The bytes of padded text. -/
def decode : List UInt8 → Option (List UInt8)
  | [] => some []
  | [w, x, y, z] => do
    let w ← value w
    let x ← value x
    if y = padding ∧ z = padding then return [firstByte w x]
    let y ← value y
    if z = padding then return [firstByte w x, secondByte x y]
    let z ← value z
    return [firstByte w x, secondByte x y, thirdByte y z]
  | w :: x :: y :: z :: rest => do
    let w ← value w
    let x ← value x
    let y ← value y
    let z ← value z
    let bytes ← decode rest
    return firstByte w x :: secondByte x y :: thirdByte y z :: bytes
  | _ => none

/-! ## One character -/

/-- The character for six bits stands for them. -/
theorem value_digit {n : Nat} (hn : n < 64) : value (digit n) = some n := by
  decide +revert

/-- No character is that of the padding. -/
theorem digit_ne_padding {n : Nat} (hn : n < 64) : digit n ≠ padding := by
  decide +revert

/-- No character is null. -/
theorem digit_ne_null {n : Nat} (hn : n < 64) : digit n ≠ 0 := by
  decide +revert

/-! ## One group -/

theorem firstByte_eq (a : UInt8) {n : Nat} (hn : n < 16) :
    firstByte (a.toNat / 4) (a.toNat % 4 * 16 + n) = a := by
  have ha := a.toNat_lt
  apply UInt8.toNat_inj.mp
  rw [firstByte, UInt8.toNat_ofNat']
  omega

theorem secondByte_eq (b : UInt8) (m : Nat) {n : Nat} (hn : n < 4) :
    secondByte (m * 16 + b.toNat / 16) (b.toNat % 16 * 4 + n) = b := by
  have hb := b.toNat_lt
  apply UInt8.toNat_inj.mp
  rw [secondByte, UInt8.toNat_ofNat']
  omega

theorem thirdByte_eq (c : UInt8) (m : Nat) :
    thirdByte (m * 4 + c.toNat / 64) (c.toNat % 64) = c := by
  have hc := c.toNat_lt
  apply UInt8.toNat_inj.mp
  rw [thirdByte, UInt8.toNat_ofNat']
  omega

/-- A group of four digits stands for three bytes, whatever follows. -/
theorem decode_group {w x y z : Nat} (hw : w < 64) (hx : x < 64) (hy : y < 64) (hz : z < 64)
    (rest : List UInt8) :
    decode (digit w :: digit x :: digit y :: digit z :: rest) =
      (decode rest).map fun bytes =>
        firstByte w x :: secondByte x y :: thirdByte y z :: bytes := by
  have hpad : ¬ digit z = padding := digit_ne_padding hz
  cases rest with
  | nil => simp [decode, value_digit, hw, hx, hy, hz, hpad]
  | cons c rest =>
    simp only [decode, value_digit hw, value_digit hx, value_digit hy, value_digit hz]
    cases decode (c :: rest) with
    | none => rfl
    | some bytes => rfl

/-! ## The round trip -/

/-- Text of the encoding stands for the bytes it was made of. -/
theorem decode_encode (bytes : List UInt8) : decode (encode bytes) = some bytes := by
  fun_induction encode bytes with
  | case1 => rfl
  -- one byte left, and two paddings
  | case2 a =>
    have ha := a.toNat_lt
    have hfirst := firstByte_eq a (n := 0) (by decide)
    simp only [decode, value_digit (n := a.toNat / 4) (by omega),
      value_digit (n := a.toNat % 4 * 16) (by omega)]
    exact congrArg (fun byte => some [byte]) hfirst
  -- two bytes left, and one padding
  | case3 a b =>
    have ha := a.toNat_lt
    have hb := b.toNat_lt
    have hfirst := firstByte_eq a (n := b.toNat / 16) (by omega)
    have hsecond := secondByte_eq b (a.toNat % 4) (n := 0) (by decide)
    have hpad : ¬ digit (b.toNat % 16 * 4) = padding := digit_ne_padding (by omega)
    simp only [decode, value_digit (n := a.toNat / 4) (by omega),
      value_digit (n := a.toNat % 4 * 16 + b.toNat / 16) (by omega),
      value_digit (n := b.toNat % 16 * 4) (by omega), hpad, false_and, if_false]
    show some [firstByte (a.toNat / 4) (a.toNat % 4 * 16 + b.toNat / 16),
      secondByte (a.toNat % 4 * 16 + b.toNat / 16) (b.toNat % 16 * 4 + 0)] = some [a, b]
    rw [hfirst, hsecond]
  -- a full group has no padding in it
  | case4 a b c rest ih =>
    have ha := a.toNat_lt
    have hb := b.toNat_lt
    have hc := c.toNat_lt
    rw [decode_group (by omega) (by omega) (by omega) (by omega), ih, Option.map_some,
      firstByte_eq a (by omega), secondByte_eq b _ (by omega), thirdByte_eq]

-- "Man" and "M"
example : encode [77, 97, 110, 77] = [84, 87, 70, 117, 84, 81, 61, 61] := by decide

/-- There are four characters for every three bytes that are begun. -/
theorem length_encode (bytes : List UInt8) :
    (encode bytes).length = (bytes.length + 2) / 3 * 4 := by
  fun_induction encode bytes with
  | case1 => rfl
  | case2 a => simp
  | case3 a b => simp
  | case4 a b c rest ih =>
    simp only [List.length_cons, ih]
    omega

/-- No character of the text is null. -/
theorem null_not_mem_encode (bytes : List UInt8) : 0 ∉ encode bytes := by
  have hdigit {n : Nat} (hn : n < 64) : ¬ 0 = digit n := (digit_ne_null hn).symm
  have hpadding : ¬ (0 : UInt8) = padding := by decide
  fun_induction encode bytes with
  | case1 => simp
  | case2 a =>
    have ha := a.toNat_lt
    simp only [List.mem_cons, hpadding, List.not_mem_nil, or_false, not_or]
    exact ⟨hdigit (by omega), hdigit (by omega)⟩
  | case3 a b =>
    have ha := a.toNat_lt
    have hb := b.toNat_lt
    simp only [List.mem_cons, hpadding, List.not_mem_nil, or_false, not_or]
    exact ⟨hdigit (by omega), hdigit (by omega), hdigit (by omega)⟩
  | case4 a b c rest ih =>
    have ha := a.toNat_lt
    have hb := b.toNat_lt
    have hc := c.toNat_lt
    simp only [List.mem_cons, ih, or_false, not_or]
    exact ⟨hdigit (by omega), hdigit (by omega), hdigit (by omega), hdigit (by omega)⟩

end Base64
