import Mathlib.Data.Nat.Find
import NetworkedFS.ForStd.Except
import NetworkedFS.Native.EncryptionOffline

/-!
# The delimiter in front of a tag

`getTagOffsetAndSplice` goes backwards through the bytes to the last delimiter that does not
stand at the start, and writes nothing: the ciphertext in front of the delimiter gets no
terminator.  How many bytes of the tag `insertTag` copies is up to a variable without a value.

## Key results

- `scanDelimiter_eq_iff`, `getTagOffsetAndSplice_eq_ok_iff`: the position that is found;
- `getTagOffsetAndSplice_ne_undefined`: the scan stays inside the bytes;
- `findsLastDelimiter_iff`: it finds the last delimiter if one stands behind the start, and
  otherwise does not return;
- `findsTag_iff`: it is that of the tag exactly when the ciphertext is not empty and the tag
  brings no delimiter of its own;
- `insertTagWith_length`: what `insertTag` would do with the right value;
- `not_splicesTag`: the ciphertext is never terminated.
-/

namespace NetworkedFS

namespace EncryptionOffline

open CString (Cell)

/-- The bytes of a tag. -/
abbrev Tag := { bytes : List UInt8 // bytes.length = encryptionOffline128Bit }

/-! ## The last delimiter -/

/-- The delimiter stands at position `p`. -/
def DelimiterAt (bytes : List UInt8) (p : Nat) : Prop :=
  bytes[p]? = some 10 ∧ bytes[p + 1]? = some 10

instance (bytes : List UInt8) (p : Nat) : Decidable (DelimiterAt bytes p) :=
  inferInstanceAs (Decidable (_ ∧ _))

/-- The last delimiter in front of position `size` is the one at `p`, and `p` is not the
    start. -/
structure LastDelimiter (bytes : List UInt8) (size p : Nat) : Prop where
  pos : 1 ≤ p
  lt : p < size
  delimiterAt : DelimiterAt bytes p
  last : ∀ q, p < q → q < size → ¬ DelimiterAt bytes q

/-- There is nothing to find in a single byte. -/
theorem not_lastDelimiter {bytes : List UInt8} {size p : Nat} (hsize : size ≤ 1) :
    ¬ LastDelimiter bytes size p := by
  intro h
  have hpos := h.pos
  have hlt := h.lt
  omega

/-- A delimiter in the last place is the last one. -/
theorem lastDelimiter_succ_of_delimiterAt {bytes : List UInt8} {n : Nat} (hn : 1 ≤ n)
    (hdelimiter : DelimiterAt bytes n) (p : Nat) : LastDelimiter bytes (n + 1) p ↔ p = n := by
  constructor
  · intro h
    by_cases hlt : p < n
    · exact absurd hdelimiter (h.last n hlt (by omega))
    · have hle := h.lt
      omega
  · intro h
    subst h
    exact ⟨hn, by omega, hdelimiter, fun q hgt hlt => by omega⟩

/-- Without a delimiter in the last place it is the one in front of it. -/
theorem lastDelimiter_succ_of_not_delimiterAt {bytes : List UInt8} {n : Nat}
    (hnone : ¬ DelimiterAt bytes n) (p : Nat) :
    LastDelimiter bytes (n + 1) p ↔ LastDelimiter bytes n p := by
  constructor
  · intro h
    have hne : p ≠ n := by
      intro heq
      subst heq
      exact hnone h.delimiterAt
    have hlt := h.lt
    exact ⟨h.pos, by omega, h.delimiterAt, fun q hgt hq => h.last q hgt (by omega)⟩
  · intro h
    have hlt := h.lt
    refine ⟨h.pos, by omega, h.delimiterAt, fun q hgt hq => ?_⟩
    by_cases heq : q = n
    · rw [heq]
      exact hnone
    · exact h.last q hgt (by omega)

/-! ## The scan -/

/-- The index of the character of the delimiter that the scan looks for in front of position
    `size`. -/
def awaited (bytes : List UInt8) (size : Nat) : Int := if bytes[size]? = some 10 then 0 else 1

theorem awaited_eq (bytes : List UInt8) (size : Nat) :
    awaited bytes size = 0 ∨ awaited bytes size = 1 := by
  unfold awaited
  split
  · exact .inl rfl
  · exact .inr rfl

theorem awaited_ne (bytes : List UInt8) (size : Nat) : awaited bytes size ≠ -1 := by
  have h := awaited_eq bytes size
  omega

/-- Behind the delimiter the loop ends. -/
theorem scanDelimiter_found (cells : List Cell) {n : Nat} (hn : 1 ≤ n) :
    scanDelimiter cells n (-1) = .ok (-1, (n : Int)) := by
  cases n with
  | zero => omega
  | succ n => rfl

/-- The byte at the start is not looked at. -/
theorem scanDelimiter_start (cells : List Cell) (bytes : List UInt8) {n : Nat} (hn : ¬ 1 ≤ n) :
    scanDelimiter cells (n + 1) (awaited bytes (n + 1)) =
      .ok (awaited bytes (n + 1), (n : Int)) := by
  have hbound : ¬ (n : Int) ≥ -1 + encryptionOfflineTagDelimiter.length := by
    show ¬ (n : Int) ≥ -1 + 2
    omega
  rw [scanDelimiter, if_neg (awaited_ne _ _), if_neg hbound]

/-- One round of the loop. -/
theorem scanDelimiter_succ {bytes : List UInt8} {n : Nat} (hn : 1 ≤ n) (hlt : n < bytes.length)
    (rest : List Cell) :
    scanDelimiter (bytes.map some ++ rest) (n + 1) (awaited bytes (n + 1)) =
      if DelimiterAt bytes n then .ok (-1, (n : Int))
      else scanDelimiter (bytes.map some ++ rest) n (awaited bytes n) := by
  have hbound : (n : Int) ≥ -1 + encryptionOfflineTagDelimiter.length := by
    show (n : Int) ≥ -1 + 2
    omega
  have hcell : (bytes.map some ++ rest)[n]? = some (some bytes[n]) := by
    rw [List.getElem?_append_left (by simpa using hlt), List.getElem?_map,
      List.getElem?_eq_getElem hlt, Option.map_some]
  rw [scanDelimiter, if_neg (awaited_ne _ _), if_pos hbound, hcell]
  by_cases hbyte : bytes[n] = 10
  · have hhere : bytes[n]? = some 10 := by rw [List.getElem?_eq_getElem hlt, hbyte]
    by_cases hnext : bytes[n + 1]? = some 10
    -- the second character of the delimiter was found in the round before
    · have hawaited : awaited bytes (n + 1) = 0 := if_pos hnext
      rw [if_pos ⟨hhere, hnext⟩, hawaited, hbyte]
      exact scanDelimiter_found _ hn
    · have hawaited : awaited bytes (n + 1) = 1 := if_neg hnext
      have hnone : ¬ DelimiterAt bytes n := fun h => hnext h.2
      have hzero : awaited bytes n = 0 := if_pos hhere
      rw [if_neg hnone, hawaited, hbyte, hzero]
      rfl
  -- both characters of the delimiter are the same, so any other byte starts over
  · have hhere : ¬ bytes[n]? = some 10 := by
      rw [List.getElem?_eq_getElem hlt, Option.some.injEq]
      exact hbyte
    have hnone : ¬ DelimiterAt bytes n := fun h => hhere h.1
    have hone : awaited bytes n = 1 := if_neg hhere
    have hne : ¬ (10 : UInt8) = bytes[n] := fun h => hbyte h.symm
    rw [if_neg hnone, hone]
    cases awaited_eq bytes (n + 1) with
    | inl hawaited => simp [hawaited, encryptionOfflineTagDelimiter, hne]
    | inr hawaited => simp [hawaited, encryptionOfflineTagDelimiter, hne]

/-- The scan ends at the last delimiter. -/
theorem scanDelimiter_eq_iff {bytes : List UInt8} {size : Nat} (hsize : size ≤ bytes.length)
    (rest : List Cell) (end_ : Int) :
    scanDelimiter (bytes.map some ++ rest) size (awaited bytes size) = .ok (-1, end_) ↔
      ∃ p : Nat, end_ = p ∧ LastDelimiter bytes size p := by
  induction size with
  | zero =>
    have hnone : ∀ p, ¬ LastDelimiter bytes 0 p := fun p => not_lastDelimiter (by omega)
    simp [scanDelimiter, awaited_ne, hnone]
  | succ n ih =>
    by_cases hn : 1 ≤ n
    · rw [scanDelimiter_succ hn (by omega)]
      by_cases hdelimiter : DelimiterAt bytes n
      · simp only [if_pos hdelimiter, lastDelimiter_succ_of_delimiterAt hn hdelimiter]
        simp [eq_comm]
      · simp only [if_neg hdelimiter, lastDelimiter_succ_of_not_delimiterAt hdelimiter]
        exact ih (by omega)
    · have hnone : ∀ p, ¬ LastDelimiter bytes (n + 1) p := fun p => not_lastDelimiter (by omega)
      rw [scanDelimiter_start _ bytes hn]
      simp [awaited_ne, hnone]

/-- Nothing stands behind the last byte, so the scan starts with the last character. -/
theorem awaited_length (bytes : List UInt8) : awaited bytes bytes.length = 1 := by
  simp [awaited]

/-- There is room for a pointer behind a delimiter. -/
theorem advance_delimiter {bytes : List UInt8} {p : Nat} (h : DelimiterAt bytes p)
    (rest : List Cell) :
    (CharPointer.pointsTo (bytes.map some ++ rest)).advance
        ((p : Int) + encryptionOfflineTagDelimiter.length).toNat =
      .ok (.pointsTo ((bytes.map some ++ rest).drop (p + 2))) := by
  obtain ⟨hlt, -⟩ := List.getElem?_eq_some_iff.mp h.2
  have hle : p + 2 ≤ (bytes.map some ++ rest).length := by
    rw [List.length_append, List.length_map]
    omega
  have hposition : ((p : Int) + encryptionOfflineTagDelimiter.length).toNat = p + 2 := by
    show ((p : Int) + 2).toNat = p + 2
    omega
  rw [hposition]
  exact if_pos hle

/-- The tag is found behind the last delimiter, and an error ends the process otherwise. -/
theorem getTagOffsetAndSplice_eq_ok_iff (s : EncryptionOffline) (bytes : List UInt8)
    (rest : List Cell) (tag : CharPointer) (s' : EncryptionOffline) :
    s.getTagOffsetAndSplice (.pointsTo (bytes.map some ++ rest)) bytes.length = .ok (tag, s') ↔
      s' = s ∧ ∃ p, LastDelimiter bytes bytes.length p ∧
        tag = .pointsTo ((bytes.map some ++ rest).drop (p + 2)) := by
  have hscan := scanDelimiter_eq_iff (Nat.le_refl bytes.length) rest
  rw [awaited_length] at hscan
  constructor
  · intro h
    obtain ⟨⟨i, end_⟩, hend, h⟩ := Except.bind_eq_ok_iff.mp h
    change scanDelimiter _ bytes.length 1 = _ at hend
    by_cases hfound : end_ ≠ bytes.length ∧ i = -1
    · simp only [if_pos hfound] at h
      obtain ⟨result, hadvance, h⟩ := Except.bind_eq_ok_iff.mp h
      rw [hfound.2] at hend
      obtain ⟨p, hp, hlast⟩ := (hscan end_).mp hend
      rw [hp, advance_delimiter hlast.delimiterAt] at hadvance
      cases hadvance
      cases h
      exact ⟨rfl, p, hlast, rfl⟩
    -- the code of the error is not one that may be set
    · simp only [if_neg hfound] at h
      cases h
  · intro h
    obtain ⟨hs, p, hlast, htag⟩ := h
    have hend := (hscan p).mpr ⟨p, rfl, hlast⟩
    have hne : (p : Int) ≠ bytes.length := by
      have hlt := hlast.lt
      omega
    refine Except.bind_eq_ok_iff.mpr ⟨(-1, (p : Int)), hend, ?_⟩
    simp only [ne_eq, hne, not_false_eq_true, true_and, if_true]
    refine Except.bind_eq_ok_iff.mpr ⟨_, advance_delimiter hlast.delimiterAt rest, ?_⟩
    rw [hs, htag]
    rfl

/-! ## The delimiter that is found -/

/-- The scan only reads bytes that are there. -/
theorem scanDelimiter_returns {bytes : List UInt8} {size : Nat} (hsize : size ≤ bytes.length)
    (rest : List Cell) :
    ∃ r, scanDelimiter (bytes.map some ++ rest) size (awaited bytes size) = .ok r := by
  induction size with
  | zero => exact ⟨_, by rw [scanDelimiter, if_neg (awaited_ne _ _)]⟩
  | succ n ih =>
    by_cases hn : 1 ≤ n
    · rw [scanDelimiter_succ hn (by omega)]
      by_cases hdelimiter : DelimiterAt bytes n
      · exact ⟨_, if_pos hdelimiter⟩
      · rw [if_neg hdelimiter]
        exact ih (by omega)
    · exact ⟨_, scanDelimiter_start _ bytes hn⟩

/-- Without a byte behind `size` nothing is read out of range. -/
theorem getTagOffsetAndSplice_ne_undefined (s : EncryptionOffline) (bytes : List UInt8) :
    s.getTagOffsetAndSplice (.ofBytes bytes) bytes.length ≠ .error .undefined := by
  intro hundefined
  obtain ⟨⟨i, end_⟩, hscan⟩ := scanDelimiter_returns (Nat.le_refl bytes.length) []
  have hfound := scanDelimiter_eq_iff (Nat.le_refl bytes.length) []
  rw [awaited_length] at hscan hfound
  rw [List.append_nil] at hscan
  cases Except.bind_eq_error_iff.mp hundefined with
  | inl hleaves =>
    change scanDelimiter (bytes.map some) bytes.length 1 = _ at hleaves
    rw [hscan] at hleaves
    cases hleaves
  | inr hafter =>
    obtain ⟨r, hr, hafter⟩ := hafter
    change scanDelimiter (bytes.map some) bytes.length 1 = _ at hr
    rw [hscan] at hr
    cases hr
    by_cases hi : end_ ≠ bytes.length ∧ i = -1
    · simp only [if_pos hi] at hafter
      rw [hi.2] at hscan
      rw [List.append_nil] at hfound
      obtain ⟨p, hp, hlast⟩ := (hfound end_).mp hscan
      -- there is room for a pointer behind the delimiter
      have hadvance := advance_delimiter hlast.delimiterAt []
      rw [List.append_nil, ← hp] at hadvance
      rw [CharPointer.ofBytes, hadvance] at hafter
      cases hafter
    -- the report of the error ends the process by an assertion
    · simp only [if_neg hi] at hafter
      cases hafter

/-- The delimiter at `p` is the last one in the bytes. -/
def LastOccurrence (bytes : List UInt8) (p : Nat) : Prop :=
  DelimiterAt bytes p ∧ ∀ q, p < q → ¬ DelimiterAt bytes q

/-- What `getTagOffsetAndSplice` is to do with any bytes, of which there may be more behind
    `size`. -/
structure FindsLastDelimiter (s : EncryptionOffline) (bytes : List UInt8) (rest : List Cell) :
    Prop where
  /-- No byte outside of the first `size` ones is read. -/
  inside : s.getTagOffsetAndSplice (.ofBytes bytes) bytes.length ≠ .error .undefined
  /-- The result is the position behind the last delimiter. -/
  found : ∀ p, LastOccurrence bytes p → ∃ s',
    s.getTagOffsetAndSplice (.pointsTo (bytes.map some ++ rest)) bytes.length =
      .ok (.pointsTo ((bytes.map some ++ rest).drop (p + 2)), s')
  /-- Without one the result is `NULL`, and the format error is set. -/
  missing : (∀ p, ¬ DelimiterAt bytes p) → ∃ s',
    s.getTagOffsetAndSplice (.pointsTo (bytes.map some ++ rest)) bytes.length = .ok (.null, s') ∧
      s'.status.returnCode = some EncryptionOfflineError.improperCiphertextFormat.code

/-- A delimiter stands in front of the end. -/
theorem DelimiterAt.lt {bytes : List UInt8} {p : Nat} (h : DelimiterAt bytes p) :
    p < bytes.length :=
  (List.getElem?_eq_some_iff.mp h.1).1

/-- Bytes with a delimiter have a last one. -/
theorem exists_lastOccurrence {bytes : List UInt8} {p : Nat} (h : DelimiterAt bytes p) :
    ∃ q, p ≤ q ∧ LastOccurrence bytes q := by
  have hle : p ≤ bytes.length := Nat.le_of_lt h.lt
  refine ⟨Nat.findGreatest (DelimiterAt bytes) bytes.length, Nat.le_findGreatest hle h,
    Nat.findGreatest_spec hle h, fun q hgt hq => ?_⟩
  exact Nat.findGreatest_is_greatest hgt (Nat.le_of_lt hq.lt) hq

/-- Behind the start the last delimiter is the one that the scan looks for. -/
theorem lastDelimiter_length_iff {bytes : List UInt8} {p : Nat} :
    LastDelimiter bytes bytes.length p ↔ 1 ≤ p ∧ LastOccurrence bytes p := by
  constructor
  · intro h
    exact ⟨h.pos, h.delimiterAt, fun q hgt hq => h.last q hgt hq.lt hq⟩
  · intro h
    obtain ⟨hpos, hdelimiter, hlast⟩ := h
    exact ⟨hpos, hdelimiter.lt, hdelimiter, fun q hgt _ => hlast q hgt⟩

/-- The last delimiter is found exactly when there is one that is not at the start; without
    one the call does not return. -/
theorem findsLastDelimiter_iff (s : EncryptionOffline) (bytes : List UInt8) (rest : List Cell) :
    s.FindsLastDelimiter bytes rest ↔ ∃ p, 1 ≤ p ∧ DelimiterAt bytes p := by
  constructor
  · intro h
    -- any result is a position behind a delimiter that is not at the start
    have hreturns : ∀ {tag s'}, s.getTagOffsetAndSplice (.pointsTo (bytes.map some ++ rest))
        bytes.length = .ok (tag, s') → ∃ p, 1 ≤ p ∧ DelimiterAt bytes p := by
      intro tag s' hok
      obtain ⟨-, p, hlast, -⟩ := (getTagOffsetAndSplice_eq_ok_iff s bytes rest tag s').mp hok
      exact ⟨p, hlast.pos, hlast.delimiterAt⟩
    by_cases hnone : ∀ p, ¬ DelimiterAt bytes p
    · obtain ⟨s', hok, -⟩ := h.missing hnone
      exact hreturns hok
    · obtain ⟨p, hp⟩ := not_forall_not.mp hnone
      obtain ⟨q, -, hlast⟩ := exists_lastOccurrence hp
      obtain ⟨s', hok⟩ := h.found q hlast
      exact hreturns hok
  · intro h
    obtain ⟨p, hpos, hp⟩ := h
    refine ⟨s.getTagOffsetAndSplice_ne_undefined bytes, fun q hq => ⟨s, ?_⟩, fun hnone => ?_⟩
    · have hle : p ≤ q := Nat.not_lt.mp fun hlt => hq.2 p hlt hp
      rw [getTagOffsetAndSplice_eq_ok_iff]
      exact ⟨rfl, q, lastDelimiter_length_iff.mpr ⟨by omega, hq⟩, rfl⟩
    · exact absurd hp (hnone p)

/-- A delimiter at the start of two bytes is passed over. -/
theorem first_delimiter_passed_over : (LastOccurrence [10, 10] 0 ∧
    ({} : EncryptionOffline).getTagOffsetAndSplice (.ofBytes [10, 10]) 2 = .error .assertion) ∧
    ¬ ∀ (s : EncryptionOffline) (bytes : List UInt8) (rest : List Cell),
      s.FindsLastDelimiter bytes rest := by
  have hlast : LastOccurrence [10, 10] 0 := by
    refine ⟨by decide, fun q hgt hq => ?_⟩
    have hlt := (List.getElem?_eq_some_iff.mp hq.2).1
    simp only [List.length_cons, List.length_nil] at hlt
    omega
  refine ⟨⟨hlast, rfl⟩, fun hall => ?_⟩
  obtain ⟨s', hok⟩ := (hall {} [10, 10] []).found 0 hlast
  cases hok

/-! ## Tags that are found -/

/-- A ciphertext with the delimiter and a tag. -/
def sealedBytes (ciphertext : List UInt8) (tag : Tag) : List UInt8 :=
  ciphertext ++ encryptionOfflineTagDelimiter ++ tag.val

theorem length_sealedBytes (ciphertext : List UInt8) (tag : Tag) :
    (sealedBytes ciphertext tag).length = ciphertext.length + 18 := by
  rw [sealedBytes, List.length_append, List.length_append, tag.property]
  rfl

/-- Behind the ciphertext the bytes are the delimiter and the tag. -/
theorem getElem?_sealedBytes (ciphertext : List UInt8) (tag : Tag) (n : Nat) :
    (sealedBytes ciphertext tag)[ciphertext.length + n]? = (10 :: 10 :: tag.val)[n]? := by
  rw [sealedBytes, List.append_assoc, List.getElem?_append_right (by omega)]
  simp [encryptionOfflineTagDelimiter]

/-- The last delimiter is the one that was inserted, unless the ciphertext is empty or there is
    one further behind. -/
theorem lastDelimiter_sealedBytes_iff (ciphertext : List UInt8) (tag : Tag) :
    LastDelimiter (sealedBytes ciphertext tag) (sealedBytes ciphertext tag).length
        ciphertext.length ↔
      ciphertext ≠ [] ∧ ∀ q, ¬ DelimiterAt (10 :: tag.val) q := by
  -- behind the ciphertext come the second byte of the delimiter and the tag
  have hbehind : ∀ q, DelimiterAt (sealedBytes ciphertext tag) (ciphertext.length + (q + 1)) ↔
      DelimiterAt (10 :: tag.val) q := by
    intro q
    unfold DelimiterAt
    rw [getElem?_sealedBytes, Nat.add_assoc, getElem?_sealedBytes]
    rfl
  constructor
  · intro h
    refine ⟨List.ne_nil_of_length_pos h.pos, fun q hq => ?_⟩
    obtain ⟨hlt, -⟩ := List.getElem?_eq_some_iff.mp hq.1
    rw [List.length_cons, tag.property] at hlt
    refine h.last (ciphertext.length + (q + 1)) (by omega) ?_ ((hbehind q).mpr hq)
    rw [length_sealedBytes]
    simp only [encryptionOffline128Bit] at hlt
    omega
  · intro h
    obtain ⟨hne, hnone⟩ := h
    have hpos := List.length_pos_of_ne_nil hne
    refine ⟨hpos, by rw [length_sealedBytes]; omega, ?_, fun q hgt hlt hq => ?_⟩
    · exact ⟨getElem?_sealedBytes ciphertext tag 0, getElem?_sealedBytes ciphertext tag 1⟩
    · have hq' : q = ciphertext.length + (q - ciphertext.length - 1 + 1) := by omega
      rw [hq'] at hq
      exact hnone _ ((hbehind _).mp hq)

/-- The position of the tag is found exactly when the ciphertext is not empty and there is no
    delimiter from the second character of the inserted one on. -/
theorem findsTag_iff (s : EncryptionOffline) (ciphertext : List UInt8) (tag : Tag)
    (rest : List Cell) :
    s.getTagOffsetAndSplice (.pointsTo ((sealedBytes ciphertext tag).map some ++ rest))
        (sealedBytes ciphertext tag).length =
          .ok (.pointsTo (tag.val.map some ++ rest), s) ↔
      ciphertext ≠ [] ∧ ∀ q, ¬ DelimiterAt (10 :: tag.val) q := by
  have hdrop : ((sealedBytes ciphertext tag).map some ++ rest).drop (ciphertext.length + 2) =
      tag.val.map some ++ rest := by
    rw [sealedBytes, List.map_append, List.append_assoc]
    exact List.drop_left' (by simp [encryptionOfflineTagDelimiter])
  rw [getTagOffsetAndSplice_eq_ok_iff, ← lastDelimiter_sealedBytes_iff]
  constructor
  · intro h
    obtain ⟨-, p, hlast, htag⟩ := h
    -- what is left behind the position says how many bytes are in front of it
    have hlength := congrArg List.length (CharPointer.pointsTo.inj htag)
    simp only [List.length_append, List.length_drop, List.length_map, length_sealedBytes,
      tag.property, encryptionOffline128Bit] at hlength
    have hlt := hlast.lt
    rw [length_sealedBytes] at hlt
    have hp : p = ciphertext.length := by omega
    rw [← hp]
    exact hlast
  · intro hlast
    exact ⟨rfl, ciphertext.length, hlast, by rw [hdrop]⟩

/-! ## Inserting a tag -/

/-- With the right value of its variable `insertTag` does what it is to do, and writes one more
    null character than the buffer is asked to have room for. -/
theorem insertTagWith_length (ciphertext : List UInt8) (tag : Tag) {room : List Cell}
    (h : 19 ≤ room.length) :
    insertTagWith encryptionOffline128Bit (.pointsTo (ciphertext.map some ++ room))
        ciphertext.length (.ofBytes tag.val) =
      .ok (.pointsTo ((sealedBytes ciphertext tag).map some ++ some 0 :: room.drop 19),
        ciphertext.length + 18) := by
  have htag : tag.val.length = 16 := tag.property
  -- first the delimiter, then the tag, then the null character
  have hdelimiter := CharPointer.storeAt_append (ciphertext.map some) room
    (encryptionOfflineTagDelimiter.map some) (by simp [encryptionOfflineTagDelimiter]; omega)
  have hcells := CharPointer.storeAt_append
    (ciphertext.map some ++ encryptionOfflineTagDelimiter.map some) (room.drop 2)
    (tag.val.map some) (by simp [htag]; omega)
  have hnull := CharPointer.storeAt_append ((sealedBytes ciphertext tag).map some)
    ((room.drop 2).drop 16) [some 0] (by simp; omega)
  have hcopy : (CharPointer.ofBytes tag.val).copy 16 = .ok (tag.val.map some) := by
    simp [CharPointer.copy, CharPointer.ofBytes, htag]
  have hsealed : ciphertext.map some ++ encryptionOfflineTagDelimiter.map some ++
      tag.val.map some = (sealedBytes ciphertext tag).map some := by simp [sealedBytes]
  rw [List.length_map] at hdelimiter
  rw [hsealed, List.length_append, List.length_map, List.length_map, List.length_map, htag]
    at hcells
  rw [List.length_map, length_sealedBytes] at hnull
  refine Except.bind_eq_ok_iff.mpr ⟨_, hdelimiter, ?_⟩
  refine Except.bind_eq_ok_iff.mpr ⟨_, hcopy, ?_⟩
  refine Except.bind_eq_ok_iff.mpr ⟨_, hcells, ?_⟩
  refine Except.bind_eq_ok_iff.mpr ⟨_, hnull, ?_⟩
  simp [pure, Except.pure, encryptionOfflineTagDelimiter, encryptionOffline128Bit, Nat.add_assoc]

/-- What the two functions are to do: `insertTag` puts the delimiter and the tag behind the
    ciphertext, with whatever value of the variable that has none, and
    `getTagOffsetAndSplice`, which only reads the bytes, gives the position of the tag and
    leaves the ciphertext with a terminator. -/
def SplicesTag (s : EncryptionOffline) (ciphertext : List UInt8) (tag : Tag)
    (room : List Cell) : Prop :=
  ∃ tagLength buffer position s',
    insertTagWith tagLength (.pointsTo (ciphertext.map some ++ room)) ciphertext.length
      (.ofBytes tag.val) = .ok (buffer, ciphertext.length + 18) ∧
    buffer.load (ciphertext.length + 18) = .ok (sealedBytes ciphertext tag) ∧
    s.getTagOffsetAndSplice buffer (ciphertext.length + 18) = .ok (position, s') ∧
    buffer.advance (ciphertext.length + 2) = .ok position ∧
    buffer.load (ciphertext.length + 1) = .ok (ciphertext ++ [0])

/-- Where the terminator should be, the delimiter is. -/
theorem load_sealedBytes_ne {buffer : CharPointer} {ciphertext : List UInt8} {tag : Tag}
    (h : buffer.load (ciphertext.length + 18) = .ok (sealedBytes ciphertext tag)) :
    buffer.load (ciphertext.length + 1) ≠ .ok (ciphertext ++ [0]) := by
  intro hnull
  have htake := CharPointer.load_take h (n := ciphertext.length + 1) (by omega)
  have hline : (sealedBytes ciphertext tag).take (ciphertext.length + 1) = ciphertext ++ [10] := by
    rw [sealedBytes, List.append_assoc, List.take_length_add_append]
    rfl
  rw [hnull, hline, Except.ok.injEq] at htake
  have hsame := List.append_cancel_left htake
  exact absurd hsame (by decide)

/-- No ciphertext gets its terminator, whatever its bytes and those of the tag are. -/
theorem not_splicesTag (s : EncryptionOffline) (ciphertext : List UInt8) (tag : Tag)
    (room : List Cell) : ¬ s.SplicesTag ciphertext tag room := by
  intro h
  obtain ⟨tagLength, buffer, position, s', hinsert, hsealed, hposition, hadvance, hnull⟩ := h
  exact load_sealedBytes_ne hsealed hnull

/-- A ciphertext of one byte, with a tag of null characters and room for twenty more bytes. -/
theorem null_tag_not_spliced :
    ¬ ∀ (s : EncryptionOffline) (ciphertext : List UInt8) (tag : Tag) (room : List Cell),
      19 ≤ room.length → s.SplicesTag ciphertext tag room := by
  intro hall
  obtain ⟨tagLength, buffer, position, s', -, hsealed, -, -, hnull⟩ := hall {} [1]
    ⟨List.replicate 16 0, rfl⟩ (List.replicate 20 (some 0)) (by decide)
  exact load_sealedBytes_ne hsealed hnull

end EncryptionOffline

end NetworkedFS
