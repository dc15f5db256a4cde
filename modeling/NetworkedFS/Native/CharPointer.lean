import NetworkedFS.ForStd.CString
import NetworkedFS.ForStd.Except
import NetworkedFS.Native.Debug

/-!
# Pointers to characters

What the encryption classes do through a `char *`.  A pointer is null, has no value yet, or
points to the first of some bytes of memory.  Using one in any other way than these
functions allow is undefined.
-/

namespace NetworkedFS

open CString (Cell)

/-- A `char *`. -/
inductive CharPointer where
  | null
  /-- A pointer variable that nobody has assigned. -/
  | indeterminate
  /-- A pointer to the first of these bytes. -/
  | pointsTo (cells : List Cell)
  deriving DecidableEq, Repr

/-- The values of the first `count` bytes. -/
def loadCells : (count : Nat) → List Cell → Except Fault (List UInt8)
  | 0, _ => .ok []
  | count + 1, some byte :: cells => (loadCells count cells).map (byte :: ·)
  -- past the end, or a byte without a value
  | _ + 1, _ => .error .undefined

/-- The number of bytes in front of the first null character. -/
def textLength : List Cell → Except Fault Nat
  | some byte :: cells => if byte = 0 then .ok 0 else (textLength cells).map (· + 1)
  | _ => .error .undefined

namespace CharPointer

/-- A pointer to bytes that have values. -/
def ofBytes (bytes : List UInt8) : CharPointer := .pointsTo (bytes.map some)

/-- The `c_str()` of a string, or a literal: its bytes and the terminator. -/
def ofString (text : List UInt8) : CharPointer := .ofBytes (text ++ [0])

/-- Compares the pointer with `NULL`. -/
def isNull : CharPointer → Except Fault Bool
  | .null => .ok true
  | .indeterminate => .error .undefined
  | .pointsTo _ => .ok false

/-- Reads `count` bytes. -/
def load (p : CharPointer) (count : Nat) : Except Fault (List UInt8) :=
  match p with
  | .pointsTo cells => loadCells count cells
  | _ => .error .undefined

/-- The source of a `memcpy` of `count` bytes. -/
def copy (p : CharPointer) (count : Nat) : Except Fault (List Cell) :=
  match p with
  | .pointsTo cells => if count ≤ cells.length then .ok (cells.take count) else .error .undefined
  | _ => .error .undefined

/-- `strlen`. -/
def strlen : CharPointer → Except Fault Nat
  | .pointsTo cells => textLength cells
  | _ => .error .undefined

/-- `strncmp`. -/
def strncmp (p q : CharPointer) (count : Nat) : Except Fault Int :=
  match p, q with
  | .pointsTo xs, .pointsTo ys =>
    match CString.strncmp count xs ys with
    | some difference => .ok difference
    | none => .error .undefined
  | _, _ => .error .undefined

/-- Writes `data` to the first bytes. -/
def store (p : CharPointer) (data : List UInt8) : Except Fault CharPointer :=
  match p with
  | .pointsTo cells =>
    if data.length ≤ cells.length then .ok (.pointsTo (data.map some ++ cells.drop data.length))
    else .error .undefined
  | _ => .error .undefined

/-- Writes `data` to the bytes from `offset` on, as `memcpy` does. -/
def storeAt (p : CharPointer) (offset : Nat) (data : List Cell) : Except Fault CharPointer :=
  match p with
  | .pointsTo cells =>
    if offset + data.length ≤ cells.length then
      .ok (.pointsTo (cells.take offset ++ data ++ cells.drop (offset + data.length)))
    else .error .undefined
  | _ => .error .undefined

/-- The pointer `count` bytes further; nothing but 0 can be added to a null pointer. -/
def advance (p : CharPointer) (count : Nat) : Except Fault CharPointer :=
  match p with
  | .null => if count = 0 then .ok .null else .error .undefined
  | .indeterminate => .error .undefined
  | .pointsTo cells =>
    if count ≤ cells.length then .ok (.pointsTo (cells.drop count)) else .error .undefined

end CharPointer

/-- What a callee reads through the `c_str()` of a string: its bytes and the terminator. -/
def loadString (text : List UInt8) (count : Nat) : Except Fault (List UInt8) :=
  loadCells count ((text ++ [0]).map some)

/-- The bytes in front are read, whatever follows. -/
theorem loadCells_append (bytes : List UInt8) (rest : List Cell) :
    loadCells bytes.length (bytes.map some ++ rest) = .ok bytes := by
  induction bytes with
  | nil => rfl
  | cons byte bytes ih =>
    rw [List.length_cons, List.map_cons, List.cons_append, loadCells, ih]
    rfl

/-- All bytes are read through a pointer to them. -/
theorem CharPointer.load_ofBytes (bytes : List UInt8) :
    (CharPointer.ofBytes bytes).load bytes.length = .ok bytes := by
  have h := loadCells_append bytes []
  rw [List.append_nil] at h
  exact h

/-- A string can be read without its terminator. -/
theorem CharPointer.load_ofString (text : List UInt8) :
    (CharPointer.ofString text).load text.length = .ok text := by
  have h := loadCells_append text [some 0]
  rw [ofString, ofBytes, List.map_append]
  exact h

/-- Text ends at its terminator. -/
theorem textLength_append {text : List UInt8} (h : 0 ∉ text) (rest : List Cell) :
    textLength (text.map some ++ some 0 :: rest) = .ok text.length := by
  induction text with
  | nil => rfl
  | cons byte text ih =>
    simp only [List.mem_cons, not_or] at h
    rw [List.map_cons, List.cons_append, textLength, if_neg (Ne.symm h.1), ih h.2]
    rfl

/-- Of the bytes that can be read the first ones can. -/
theorem loadCells_take {count n : Nat} {cells : List Cell} {bytes : List UInt8}
    (h : loadCells count cells = .ok bytes) (hn : n ≤ count) :
    loadCells n cells = .ok (bytes.take n) := by
  induction count generalizing n cells bytes with
  | zero =>
    have hzero : n = 0 := by omega
    rw [hzero]
    rfl
  | succ count ih =>
    cases n with
    | zero => rfl
    | succ n =>
      match cells, h with
      | some byte :: cells, h =>
        obtain ⟨tail, htail, hbytes⟩ := Except.map_eq_ok_iff.mp h
        rw [loadCells, ih htail (by omega), ← hbytes]
        rfl

theorem CharPointer.load_take {p : CharPointer} {count n : Nat} {bytes : List UInt8}
    (h : p.load count = .ok bytes) (hn : n ≤ count) : p.load n = .ok (bytes.take n) := by
  cases p with
  | null => cases h
  | indeterminate => cases h
  | pointsTo cells => exact loadCells_take h hn

/-- Bytes that are written behind some others take the place of as many. -/
theorem CharPointer.storeAt_append (front room data : List Cell)
    (h : data.length ≤ room.length) :
    (CharPointer.pointsTo (front ++ room)).storeAt front.length data =
      .ok (.pointsTo (front ++ data ++ room.drop data.length)) := by
  have hle : front.length + data.length ≤ (front ++ room).length := by
    rw [List.length_append]
    omega
  show (if _ then _ else _) = _
  rw [if_pos hle, List.take_left, List.drop_length_add_append]

/-- There has to be room for the bytes that are written, and there is as much afterwards. -/
theorem CharPointer.storeAt_eq_ok {cells data : List Cell} {offset : Nat} {q : CharPointer}
    (h : (CharPointer.pointsTo cells).storeAt offset data = .ok q) :
    offset + data.length ≤ cells.length ∧
      ∃ cells' : List Cell, q = .pointsTo cells' ∧ cells'.length = cells.length := by
  by_cases hle : offset + data.length ≤ cells.length
  · refine ⟨hle, cells.take offset ++ data ++ cells.drop (offset + data.length), ?_, ?_⟩
    · exact (Except.ok.inj ((if_pos hle).symm.trans h)).symm
    · simp only [List.length_append, List.length_take, List.length_drop]
      omega
  · cases (if_neg hle).symm.trans h

end NetworkedFS
