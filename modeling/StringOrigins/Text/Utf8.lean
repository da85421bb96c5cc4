/-! # UTF-8

    The encoding of a text and the strict decoding of octets.  Decoding
    stops at the first fault and reports it: where the faulty sequence
    starts, which octets of it were still well formed, and why it cannot
    go on.  Overlong forms, surrogates and values above U+10FFFF are
    excluded by the range of the second octet, so a sequence is refused at
    the first octet that no character has there. -/

namespace StringOrigins.Utf8

/-- Octets of a file. -/
abbrev Octets := List UInt8

/-! ## Section 1: Encoding -/

/-- The UTF-8 form of a text. -/
def encode (s : List Char) : Octets := s.flatMap String.utf8EncodeChar

/-! ## Section 2: Faults -/

/-- Why a sequence of octets encodes no character. -/
inductive Reason where
  /-- No sequence starts with this octet. -/
  | invalidStart
  /-- The next octet does not continue the sequence. -/
  | invalidContinuation
  /-- The octets end inside the sequence. -/
  | unexpectedEnd
  deriving DecidableEq, Repr

/-- The first fault of octets that are not UTF-8: the offset of the faulty
    sequence, its first octet, how many octets behind the first one are well
    formed, and the reason. -/
structure Fault where
  offset : Nat
  first : UInt8
  continued : Nat
  reason : Reason
  deriving DecidableEq, Repr

/-! ## Section 3: Decoding -/

/-- What a leading octet announces: the number of octets to follow, the bits
    that it contributes, and the range of the second octet. -/
structure Lead where
  following : Nat
  bits : Nat
  low : UInt8
  high : UInt8
  deriving DecidableEq, Repr

/-- The leading octets of sequences of two, three and four octets. -/
def lead? (b : UInt8) : Option Lead :=
  if 0xC2 ≤ b ∧ b ≤ 0xDF then some ⟨1, b.toNat - 0xC0, 0x80, 0xBF⟩
  else if b = 0xE0 then some ⟨2, 0, 0xA0, 0xBF⟩
  else if b = 0xED then some ⟨2, 13, 0x80, 0x9F⟩
  else if 0xE1 ≤ b ∧ b ≤ 0xEF then some ⟨2, b.toNat - 0xE0, 0x80, 0xBF⟩
  else if b = 0xF0 then some ⟨3, 0, 0x90, 0xBF⟩
  else if 0xF1 ≤ b ∧ b ≤ 0xF3 then some ⟨3, b.toNat - 0xF0, 0x80, 0xBF⟩
  else if b = 0xF4 then some ⟨3, 4, 0x80, 0x8F⟩
  else none

/-- Reads the octets that continue a sequence: `wanted` of them, the first
    one between `low` and `high`, behind `got` that have been read into
    `bits`.  Gives the finished value and what follows it, or the reason
    with the number of octets read. -/
def continuation (got bits : Nat) (low high : UInt8) :
    Nat → Octets → Except (Nat × Reason) (Nat × Octets)
  | 0, rest => .ok (bits, rest)
  | _ + 1, [] => .error (got, .unexpectedEnd)
  | wanted + 1, b :: rest =>
    if low ≤ b ∧ b ≤ high then
      continuation (got + 1) (bits * 64 + (b.toNat - 0x80)) 0x80 0xBF wanted rest
    else .error (got, .invalidContinuation)

/-- What follows a sequence is not longer than what followed its lead. -/
theorem length_le_of_continuation {got bits : Nat} {low high : UInt8} {wanted : Nat}
    {s rest : Octets} {n : Nat} (h : continuation got bits low high wanted s = .ok (n, rest)) :
    rest.length ≤ s.length := by
  induction wanted generalizing got bits low high s with
  | zero => simp only [continuation, Except.ok.injEq, Prod.mk.injEq] at h; simp [h.2]
  | succ wanted ih =>
    cases s with
    | nil => simp [continuation] at h
    | cons b t =>
      simp only [continuation] at h
      split at h
      · have := ih h
        simp only [List.length_cons]
        omega
      · cases h

/-- Decodes octets that start at an offset, behind a text that is done and
    held in reverse. -/
def decodeFrom (offset : Nat) (done : List Char) (octets : Octets) : Except Fault (List Char) :=
  match octets with
  | [] => .ok done.reverse
  | b :: rest =>
    if b < 0x80 then decodeFrom (offset + 1) (Char.ofNat b.toNat :: done) rest
    else match lead? b with
      | none => .error ⟨offset, b, 0, .invalidStart⟩
      | some lead =>
        match h : continuation 0 lead.bits lead.low lead.high lead.following rest with
        | .error (got, reason) => .error ⟨offset, b, got, reason⟩
        | .ok (n, after) =>
          have := length_le_of_continuation h
          decodeFrom (offset + 1 + lead.following) (Char.ofNat n :: done) after
  termination_by octets.length

/-- The text that octets encode, or their first fault. -/
def decode (octets : Octets) : Except Fault (List Char) := decodeFrom 0 [] octets

end StringOrigins.Utf8
