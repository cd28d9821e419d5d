import Mathlib.Algebra.Group.Nat.Defs
import Mathlib.Data.List.TakeDrop

/-! Length-prefixed frames on a connection that returns its bytes in pieces.

A full read collects pieces until it has enough, so that only their
concatenation matters. What it leaves begins with the first byte after the frame.
-/

set_option autoImplicit false

namespace RunnersMux.Foundations

inductive ReadError where
  | eof
  | unexpectedEOF
  | failed (text : String)
  deriving DecidableEq, Repr

def ReadError.text : ReadError → String
  | .eof => "EOF"
  | .unexpectedEOF => "unexpected EOF"
  | .failed text => text

/-- The reading side of a connection. -/
structure Incoming where
  /-- What one read after the other returns into a large enough buffer. -/
  segments : List (List UInt8)
  /-- What a read returns after them. -/
  ending : ReadError
  deriving DecidableEq, Repr

/-- All bytes that are still to be read. -/
def Incoming.bytes (conn : Incoming) : List UInt8 := conn.segments.flatten

/-- `io.ReadFull` into what is left of a buffer, with the bytes that are in it already. -/
def readInto (ending : ReadError) : List (List UInt8) → List UInt8 → Nat → Except ReadError (List UInt8) × Incoming
  | segments, got, 0 => (.ok got, ⟨segments, ending⟩)
  | [], got, _ + 1 => (.error (if ending = .eof ∧ got ≠ [] then .unexpectedEOF else ending), ⟨[], ending⟩)
  | segment :: rest, got, left + 1 =>
      if segment.length ≤ left + 1 then readInto ending rest (got ++ segment) (left + 1 - segment.length)
      else (.ok (got ++ segment.take (left + 1)), ⟨segment.drop (left + 1) :: rest, ending⟩)

def Incoming.readFull (conn : Incoming) (count : Nat) : Except ReadError (List UInt8) × Incoming :=
  readInto conn.ending conn.segments [] count

def putUint32 (value : Nat) : List UInt8 :=
  [UInt8.ofNat (value / 2 ^ 24), UInt8.ofNat (value / 2 ^ 16), UInt8.ofNat (value / 2 ^ 8), UInt8.ofNat value]

/-- `binary.BigEndian.Uint32`. -/
def uint32 (bytes : List UInt8) : Nat := bytes.foldl (fun value byte => 2 ^ 8 * value + byte.toNat) 0

/-- A payload behind its length. -/
def frame (payload : List UInt8) : List UInt8 := putUint32 payload.length ++ payload

variable {ending : ReadError} {segments : List (List UInt8)} {got : List UInt8} {left : Nat}

/-- Where there is enough, a full read takes exactly that much, however it comes in pieces. -/
theorem readInto_enough (ending : ReadError) (got : List UInt8) (enough : left ≤ segments.flatten.length) :
    ∃ rest, readInto ending segments got left = (.ok (got ++ segments.flatten.take left), ⟨rest, ending⟩) ∧
      rest.flatten = segments.flatten.drop left := by
  induction segments generalizing got left with
  | nil =>
      obtain rfl : left = 0 := by simpa using enough
      exact ⟨[], by simp [readInto], rfl⟩
  | cons segment others ih =>
      cases left with
      | zero => exact ⟨segment :: others, by simp [readInto], rfl⟩
      | succ left =>
          rw [List.flatten_cons, List.length_append] at enough
          simp only [readInto, List.flatten_cons]
          split
          · next whole =>
              have fewer : left + 1 - segment.length ≤ others.flatten.length := by omega
              obtain ⟨rest, reads, same⟩ := ih (got ++ segment) fewer
              refine ⟨rest, ?_, ?_⟩
              · rw [reads, List.take_append, List.take_of_length_le whole, List.append_assoc]
              · rw [same, List.drop_append, List.drop_of_length_le whole, List.nil_append]
          · next part =>
              have within : left + 1 ≤ segment.length := by omega
              refine ⟨segment.drop (left + 1) :: others, ?_, ?_⟩
              · rw [List.take_append_of_le_length within]
              · rw [List.flatten_cons, List.drop_append_of_le_length within]

/-- Where there is too little, a full read fails. -/
theorem readInto_short (short : segments.flatten.length < left) :
    ∃ err rest, readInto ending segments got left = (.error err, rest) := by
  induction segments generalizing got left with
  | nil =>
      cases left with
      | zero => cases short
      | succ left => exact ⟨_, _, rfl⟩
  | cons segment others ih =>
      rw [List.flatten_cons, List.length_append] at short
      cases left with
      | zero => omega
      | succ left =>
          rw [readInto, if_pos (by omega)]
          exact ih (by omega)

theorem Incoming.readFull_enough {conn : Incoming} {front back : List UInt8} (bytes : conn.bytes = front ++ back) :
    ∃ rest, conn.readFull front.length = (.ok front, rest) ∧ rest.bytes = back ∧ rest.ending = conn.ending := by
  have flat : conn.segments.flatten = front ++ back := bytes
  have enough : front.length ≤ conn.segments.flatten.length := by simp [flat]
  obtain ⟨rest, reads, same⟩ := readInto_enough conn.ending [] enough
  refine ⟨⟨rest, conn.ending⟩, ?_, ?_, rfl⟩
  · rw [Incoming.readFull, reads, flat]
    simp
  · rw [Incoming.bytes, same, flat]
    simp

theorem Incoming.readFull_short {conn : Incoming} {count : Nat} (short : conn.bytes.length < count) :
    ∃ err rest, conn.readFull count = (.error err, rest) :=
  readInto_short short

@[simp] theorem length_putUint32 (value : Nat) : (putUint32 value).length = 4 := rfl

theorem uint32_putUint32 {value : Nat} (fits : value < 2 ^ 32) : uint32 (putUint32 value) = value := by
  simp [uint32, putUint32]
  omega

theorem length_frame (payload : List UInt8) : (frame payload).length = 4 + payload.length := by
  simp [frame]

end RunnersMux.Foundations
