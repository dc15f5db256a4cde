import NetworkedFS.Native.Base64

/-!
# Base64 text and back

`base64Decode` writes the bytes into an array of the length of the text, and then asks for an
array in its place whose length is the difference of the two lengths plus one.  That length is
negative unless the text is empty or one full group, and never enough for the bytes and their
terminator.  As the memory is that of the first array, the bytes come back all the same, if
there are any; for none the first array has no room for the terminator.

## Key results

- `base64Encode_ofBytes`, `base64Decode_encode`: what the two functions do with a BIO for
  standard base64;
- `not_base64RoundTrips`: whatever the BIO does, no bytes make the round trip with arrays that
  are large enough.
-/

namespace NetworkedFS

namespace Base64Bio

/-- The BIO encodes and decodes standard base64. -/
structure Standard (bio : Base64Bio) : Prop where
  encode : ∀ bytes, bio.encode bytes = Base64.encode bytes
  decode : ∀ text bytes count, Base64.decode text = some bytes → bytes.length ≤ count →
    bio.decode text count = ((bytes.length : Int), bytes)

/-- A BIO that does just that. -/
def plain : Base64Bio where
  encode := Base64.encode
  decode text count :=
    match Base64.decode text with
    | some bytes => ((bytes.take count).length, bytes.take count)
    | none => (-1, [])

theorem standard_plain : plain.Standard where
  encode _ := rfl
  decode text bytes count hdecode hcount := by
    simp only [plain, hdecode, List.take_of_length_le hcount]

end Base64Bio

namespace EncryptionOffline

/-! ## Standard base64 -/

/-- Bytes that are written into a new array fill its front. -/
theorem storeAt_new (data : List UInt8) {size : Nat} (h : data.length ≤ size) :
    (CharPointer.pointsTo (List.replicate size none)).storeAt 0 (data.map some) =
      .ok (.pointsTo (data.map some ++ List.replicate (size - data.length) none)) := by
  have hstore := CharPointer.storeAt_append [] (List.replicate size none) (data.map some)
    (by simpa using h)
  simpa using hstore

/-- The terminator takes the place behind them, if there is one. -/
theorem storeAt_terminator (data : List UInt8) (room : Nat) (h : 1 ≤ room) :
    (CharPointer.pointsTo (data.map some ++ List.replicate room none)).storeAt data.length
        [some 0] =
      .ok (.pointsTo (data.map some ++ some 0 :: List.replicate (room - 1) none)) := by
  have hstore := CharPointer.storeAt_append (data.map some) (List.replicate room none) [some 0]
    (by simpa using h)
  simpa using hstore

/-- The bytes are encoded, in an array that is large enough. -/
theorem base64Encode_ofBytes {bio : Base64Bio} (hbio : bio.Standard) (bytes : List UInt8) :
    base64Encode bio (.ofBytes bytes) bytes.length =
      .ok (Base64.encode bytes, (Base64.encode bytes).length,
        [⟨(Base64.encode bytes).length + 1, (Base64.encode bytes).length + 1⟩]) := by
  have hfill := storeAt_new (Base64.encode bytes) (Nat.le_succ _)
  have hnull := storeAt_terminator (Base64.encode bytes)
    ((Base64.encode bytes).length + 1 - (Base64.encode bytes).length) (by omega)
  have hlength := textLength_append (Base64.null_not_mem_encode bytes)
    (List.replicate ((Base64.encode bytes).length + 1 - (Base64.encode bytes).length - 1) none)
  refine Except.bind_eq_ok_iff.mpr ⟨bytes, CharPointer.load_ofBytes bytes, ?_⟩
  rw [hbio.encode]
  refine Except.bind_eq_ok_iff.mpr ⟨_, hfill, ?_⟩
  refine Except.bind_eq_ok_iff.mpr ⟨_, hnull, ?_⟩
  refine Except.bind_eq_ok_iff.mpr ⟨_, hlength, ?_⟩
  exact Except.bind_eq_ok_iff.mpr ⟨_, loadCells_append _ _, rfl⟩

/-- Text of the encoding is decoded to its bytes and a terminator, in the array of the length
    of the text; for no bytes there is no array. -/
theorem base64Decode_encode {bio : Base64Bio} (hbio : bio.Standard) (bytes : List UInt8) :
    base64Decode bio (.ofBytes (Base64.encode bytes ++ [0])) =
      if bytes = [] then .error .undefined
      else .ok (.pointsTo (bytes.map some ++ some 0 ::
          List.replicate ((Base64.encode bytes).length - bytes.length - 1) none),
        bytes.length, [⟨(Base64.encode bytes).length, bytes.length⟩,
          ⟨bytes.length - (Base64.encode bytes).length + 1, bytes.length + 1⟩]) := by
  have hlength := Base64.length_encode bytes
  have hle : bytes.length ≤ (Base64.encode bytes).length := by omega
  have hcells : CharPointer.ofBytes (Base64.encode bytes ++ [0]) =
      .pointsTo ((Base64.encode bytes).map some ++ [some 0]) := by simp [CharPointer.ofBytes]
  have hstrlen : (CharPointer.ofBytes (Base64.encode bytes ++ [0])).strlen =
      .ok (Base64.encode bytes).length := by
    rw [hcells]
    exact textLength_append (Base64.null_not_mem_encode bytes) []
  have hload : (CharPointer.ofBytes (Base64.encode bytes ++ [0])).load
      (Base64.encode bytes).length = .ok (Base64.encode bytes) := by
    rw [hcells]
    exact loadCells_append _ _
  have hdecode := hbio.decode _ bytes _ (Base64.decode_encode bytes) hle
  have hnonneg : ¬ (bytes.length : Int) < 0 := by omega
  simp only [base64Decode, hstrlen, hload, hdecode, storeAt_new bytes hle, hnonneg, if_false,
    Int.toNat_natCast, bind, Except.bind]
  cases bytes with
  | nil => rfl
  | cons byte bytes =>
    -- four characters for each three bytes: one is left for the terminator
    have hroom : 1 ≤ (Base64.encode (byte :: bytes)).length - (byte :: bytes).length := by
      rw [List.length_cons] at hlength hle ⊢
      omega
    rw [storeAt_terminator (byte :: bytes) _ hroom, if_neg (List.cons_ne_nil _ _)]
    rfl

/-! ## Any BIO -/

/-- When the decoder returns, the terminator was inside the first array, and the second one
    was asked for with the difference of the lengths. -/
theorem base64Decode_eq_ok {bio : Base64Bio} {in_ result : CharPointer} {length : Int}
    {allocations : List ArrayAllocation}
    (h : base64Decode bio in_ = .ok (result, length, allocations)) :
    ∃ oldLength : Nat, length < oldLength ∧
      ⟨length - oldLength + 1, length.toNat + 1⟩ ∈ allocations := by
  obtain ⟨oldLength, -, h⟩ := Except.bind_eq_ok_iff.mp h
  obtain ⟨text, -, h⟩ := Except.bind_eq_ok_iff.mp h
  obtain ⟨stored, hstored, h⟩ := Except.bind_eq_ok_iff.mp h
  obtain ⟨-, cells, hcells, hlength⟩ := CharPointer.storeAt_eq_ok hstored
  by_cases hneg : (bio.decode text oldLength).1 < 0
  · simp only [if_pos hneg] at h
    cases h
  · simp only [if_neg hneg] at h
    obtain ⟨terminated, hterminated, h⟩ := Except.bind_eq_ok_iff.mp h
    rw [hcells] at hterminated
    obtain ⟨hroom, -⟩ := CharPointer.storeAt_eq_ok hterminated
    cases h
    rw [hlength, List.length_replicate, List.length_singleton] at hroom
    exact ⟨oldLength, by omega, by simp⟩

/-- The bytes are encoded and decoded again without a fault, come back with a terminator, and
    every array is as large as what is written into it. -/
def Base64RoundTrips (bio : Base64Bio) (bytes : List UInt8) : Prop :=
  ∃ text n encodeArrays result length decodeArrays,
    base64Encode bio (.ofBytes bytes) bytes.length = .ok (text, n, encodeArrays) ∧
    base64Decode bio (.ofBytes (text ++ [0])) = .ok (result, length, decodeArrays) ∧
    result.load (bytes.length + 1) = .ok (bytes ++ [0]) ∧ length = bytes.length ∧
    ∀ array ∈ encodeArrays ++ decodeArrays, (array.written : Int) ≤ array.size

/-- Nothing makes this round trip. -/
theorem not_base64RoundTrips (bio : Base64Bio) (bytes : List UInt8) :
    ¬ Base64RoundTrips bio bytes := by
  intro h
  obtain ⟨text, n, encodeArrays, result, length, decodeArrays, -, hdecode, -, hlength, hlarge⟩ := h
  obtain ⟨oldLength, hlt, hmem⟩ := base64Decode_eq_ok hdecode
  -- the second array would be as large as what is written only for a text without characters
  have harray := hlarge _ (List.mem_append_right _ hmem)
  simp only at harray
  omega

/-- The text of a single byte is decoded to this byte, but by way of an array of -2 elements. -/
theorem single_byte_array_too_small :
    base64Decode .plain (.ofBytes (Base64.encode [77] ++ [0])) =
        .ok (.pointsTo [some 77, some 0, none, none], 1, [⟨4, 1⟩, ⟨-2, 2⟩]) ∧
      ¬ ∀ (bio : Base64Bio) (bytes : List UInt8), bio.Standard → Base64RoundTrips bio bytes := by
  have hdecoded := base64Decode_encode Base64Bio.standard_plain [77]
  refine ⟨hdecoded, fun hall => ?_⟩
  obtain ⟨text, n, encodeArrays, result, length, decodeArrays, hencode, hdecode, -, -, hlarge⟩ :=
    hall .plain [77] Base64Bio.standard_plain
  rw [base64Encode_ofBytes Base64Bio.standard_plain] at hencode
  cases hencode
  rw [hdecoded] at hdecode
  cases hdecode
  -- what is written into the second array does not fit
  have hfits := hlarge ⟨-2, 2⟩ (by decide)
  exact absurd hfits (by decide)

end EncryptionOffline

end NetworkedFS
