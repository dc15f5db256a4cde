import NetworkedFS.Spec.NetworkFraming

/-!
# What goes through the size buffer

`network_size_buffer` is declared with the number of the class's errors.  `sprintf` writes the
text of a size and its terminator there, and the header transfers ask for
`NETWORK_INSTANCE_SIZE_BUFFERp` bytes of it.

## Key results

- `format_fits_iff`: the sizes whose text alone stays inside;
- `staysInside_iff`: everything stays inside exactly when the buffer is as long as the
  transfers ask for;
- `not_staysInside`: with the declared length nothing does.
-/

namespace NetworkedFS

open CString (Cell)

namespace NetworkInstance

variable {capacity : Nat}

/-- The text of a size and its terminator. -/
def sizeText (size : Int) : List Cell := (CString.formatInt size).map some ++ [some 0]

/-- Sending a size and receiving a header only touch bytes of the buffer, and `atoi` reads the
    size that was sent. -/
structure StaysInside (instance_ : NetworkInstance capacity) (size : Int) (header : List Cell) :
    Prop where
  sent : ∃ sizeBuffer transferred, instance_.sizeBuffer.store (sizeText size) = .ok sizeBuffer ∧
    sizeBuffer.load networkInstanceSizeBuffer = .ok transferred ∧
    CString.atoi transferred = some size
  received : ∃ sizeBuffer, instance_.sizeBuffer.store header = .ok sizeBuffer

/-- An array takes what is no longer than it is. -/
theorem store_returns_iff (m : Memory capacity) (data : List Cell) :
    (∃ m', m.store data = .ok m') ↔ data.length ≤ capacity := by
  constructor
  · intro h
    obtain ⟨m', hstore⟩ := h
    by_contra hlong
    cases (dif_neg hlong).symm.trans hstore
  · intro hle
    obtain ⟨m', hstore, -⟩ := m.store_eq_ok hle
    exact ⟨m', hstore⟩

/-- In the declared buffer there is room for four digits and a sign, or for five digits. -/
theorem format_fits_iff (size : Int) :
    (sizeText size).length ≤ sizeBufferCapacity ↔ -9999 ≤ size ∧ size ≤ 99999 := by
  have hlength : (sizeText size).length = (CString.formatInt size).length + 1 := by
    rw [sizeText, List.length_append, List.length_map, List.length_singleton]
  have hcapacity : sizeBufferCapacity = 6 := rfl
  rw [hlength, hcapacity]
  unfold CString.formatInt
  split
  · have hdigits : (Nat.toDigits 10 size.natAbs).length ≤ 4 ↔ size.natAbs < 10 ^ 4 :=
      Nat.length_toDigits_le_iff (by omega) (by omega)
    rw [List.length_cons, List.length_map]
    omega
  · have hdigits : (Nat.toDigits 10 size.natAbs).length ≤ 5 ↔ size.natAbs < 10 ^ 5 :=
      Nat.length_toDigits_le_iff (by omega) (by omega)
    rw [List.length_map]
    omega

/-- Everything stays inside exactly when the whole transfer and the header do. -/
theorem staysInside_iff (instance_ : NetworkInstance capacity) {size : Int}
    (hmin : CString.minInt ≤ size) (hmax : size ≤ CString.maxInt) (header : List Cell) :
    instance_.StaysInside size header ↔
      networkInstanceSizeBuffer ≤ capacity ∧ header.length ≤ capacity := by
  constructor
  · intro h
    obtain ⟨sizeBuffer, transferred, -, hload, -⟩ := h.sent
    refine ⟨?_, (store_returns_iff _ _).mp h.received⟩
    by_contra hshort
    cases (if_neg hshort).symm.trans hload
  · intro h
    obtain ⟨hcapacity, hheader⟩ := h
    have hcapacity' : 256 ≤ capacity := hcapacity
    refine ⟨?_, (store_returns_iff _ _).mpr hheader⟩
    have hlength : (sizeText size).length ≤ 12 := by
      have htext := CString.length_formatInt_le hmin hmax
      rw [sizeText, List.length_append, List.length_map, List.length_singleton]
      omega
    obtain ⟨sizeBuffer, hstore, hcells⟩ :=
      instance_.sizeBuffer.store_eq_ok (Nat.le_trans hlength (by omega))
    refine ⟨sizeBuffer, sizeBuffer.1.take networkInstanceSizeBuffer, hstore, if_pos hcapacity, ?_⟩
    -- the text and its terminator are in front of what is transferred
    have htake : (sizeText size).length ≤ networkInstanceSizeBuffer :=
      Nat.le_trans hlength (by decide)
    rw [hcells, List.take_append, List.take_of_length_le htake, sizeText, List.append_assoc]
    exact CString.atoi_formatInt hmin hmax _

/-- The declared buffer is shorter than what is transferred. -/
theorem not_staysInside (instance_ : NetworkInstance sizeBufferCapacity) (size : Int)
    (header : List Cell) : ¬ instance_.StaysInside size header := by
  intro h
  obtain ⟨sizeBuffer, transferred, -, hload, -⟩ := h.sent
  have hshort : ¬ networkInstanceSizeBuffer ≤ sizeBufferCapacity := by decide
  cases (if_neg hshort).symm.trans hload

/-- The one digit of a size fits, but more is transferred than there is. -/
theorem one_digit_leaves_buffer :
    (∃ sizeBuffer, ({} : NetworkInstance sizeBufferCapacity).sizeBuffer.store (sizeText 7) =
        .ok sizeBuffer ∧
      sizeBuffer.load networkInstanceSizeBuffer = .error .undefined) ∧
    ¬ ∀ (instance_ : NetworkInstance sizeBufferCapacity) (size : Int) (header : List Cell),
      CString.minInt ≤ size → size ≤ CString.maxInt →
      header.length ≤ networkInstanceSizeBuffer → instance_.StaysInside size header := by
  have hshort : ¬ networkInstanceSizeBuffer ≤ sizeBufferCapacity := by decide
  have hfits : (sizeText 7).length ≤ sizeBufferCapacity := (format_fits_iff 7).mpr (by decide)
  obtain ⟨sizeBuffer, hstore⟩ :=
    (store_returns_iff ({} : NetworkInstance sizeBufferCapacity).sizeBuffer _).mpr hfits
  refine ⟨⟨sizeBuffer, hstore, if_neg hshort⟩, fun hall => ?_⟩
  have hinside := hall {} 7 [] (by decide) (by decide) (by decide)
  obtain ⟨sizeBuffer', transferred, -, hload, -⟩ := hinside.sent
  cases (if_neg hshort).symm.trans hload

end NetworkInstance

end NetworkedFS
