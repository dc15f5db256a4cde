import Mathlib.Data.List.Basic

/-!
# Reliable byte streams with shortened transfers

One direction of a connection: bytes come out in the order they went in, and none is
lost.  A single `write` or `read` may transfer less than it was asked for.  How much it
transfers is chosen by the environment, call by call: a `limit : Nat → Nat` gives the
choice for each call, and a request for at least one byte transfers at least one.
-/

/-- The bytes of a stream that were written and not yet read, and the number of calls
    that transferred bytes so far. -/
structure ByteStream (β : Type) where
  inFlight : List β := []
  transfers : Nat := 0
  deriving DecidableEq, Repr

namespace ByteStream

variable {β : Type}

/-- The number of bytes the next call transfers of the `count` bytes it could. -/
def transferLength (limit : Nat → Nat) (stream : ByteStream β) (count : Nat) : Nat :=
  min count (max 1 (limit stream.transfers))

/-- `write`: a first part of the data goes into the stream. -/
def write (limit : Nat → Nat) (stream : ByteStream β) (data : List β) : ByteStream β where
  inFlight := stream.inFlight ++ data.take (stream.transferLength limit data.length)
  transfers := stream.transfers + 1

/-- `read`: takes up to `count` bytes off the stream.  `none` when it would wait for
    bytes that nobody has written. -/
def read (limit : Nat → Nat) (stream : ByteStream β) (count : Nat) :
    Option (List β × ByteStream β) :=
  if count = 0 then some ([], { stream with transfers := stream.transfers + 1 })
  else if stream.inFlight.isEmpty then none
  else
    -- no more is taken than is in flight; `read` does not wait for the rest
    let n := stream.transferLength limit (min count stream.inFlight.length)
    some (stream.inFlight.take n,
      { inFlight := stream.inFlight.drop n, transfers := stream.transfers + 1 })

/-- The environment never shortens a transfer of up to `bound` bytes. -/
def Unshortened (limit : Nat → Nat) (bound : Nat) : Prop := ∀ k, bound ≤ limit k

/-- A `write` that is not shortened puts all of its data into the stream. -/
theorem write_of_le {limit : Nat → Nat} {stream : ByteStream β} {data : List β}
    (hlimit : data.length ≤ limit stream.transfers) : stream.write limit data =
      { inFlight := stream.inFlight ++ data, transfers := stream.transfers + 1 } := by
  have hn : stream.transferLength limit data.length = data.length := by
    simp only [transferLength]
    omega
  simp only [write, hn, List.take_length]

/-- A `read` that is not shortened takes exactly what is asked for, if it is there. -/
theorem read_of_le {limit : Nat → Nat} {stream : ByteStream β} {data rest : List β}
    (hin : stream.inFlight = data ++ rest) (hlimit : data.length ≤ limit stream.transfers) :
    stream.read limit data.length =
      some (data, { inFlight := rest, transfers := stream.transfers + 1 }) := by
  cases data with
  -- a `read` of no bytes looks at nothing
  | nil =>
    rw [List.nil_append] at hin
    simp only [read, List.length_nil, if_pos, ← hin]
  | cons b data =>
    have hpos : ¬ (b :: data).length = 0 := by
      rw [List.length_cons]
      omega
    have hsome : stream.inFlight.isEmpty = false := by rw [hin]; rfl
    have hn : stream.transferLength limit (min (b :: data).length stream.inFlight.length) =
        (b :: data).length := by
      rw [hin, List.length_append]
      simp only [transferLength]
      omega
    simp only [read, if_neg hpos, hsome, hn]
    rw [hin, List.take_left, List.drop_left]
    rfl

/-- A `read` gives at most what is asked for, and takes what it gives off the stream. -/
theorem length_of_read {limit : Nat → Nat} {stream stream' : ByteStream β} {count : Nat}
    {data : List β} (hread : stream.read limit count = some (data, stream')) :
    data.length ≤ count ∧ stream.inFlight = data ++ stream'.inFlight := by
  simp only [read] at hread
  -- no bytes asked for, none in flight, or a transfer
  split at hread
  · cases hread
    exact ⟨Nat.zero_le _, rfl⟩
  · split at hread
    · cases hread
    · cases hread
      refine ⟨?_, (List.take_append_drop _ _).symm⟩
      rw [List.length_take]
      simp only [transferLength]
      omega

end ByteStream
