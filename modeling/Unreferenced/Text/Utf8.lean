/-! UTF-8 as a state machine over bytes, so that a fault can say which bytes are at fault: the lead byte
together with the bytes after it that were still right. -/

namespace Unreferenced.Text.Utf8

inductive Reason where
  /-- The byte starts no character. -/
  | invalidStart
  /-- A byte inside a character is missing or out of its range. -/
  | invalidContinuation
  /-- The text ends inside a character. -/
  | unexpectedEnd
  deriving DecidableEq, Repr

/-- The first sequence of bytes that is no character: its first and last byte and what is wrong. -/
structure Fault where
  first : Nat
  last : Nat
  byte : UInt8
  reason : Reason
  deriving DecidableEq, Repr

/-- A character in progress: where it started, with which byte, how many bytes it still lacks, the
bounds of the next one, and the bits collected so far. -/
structure Pending where
  start : Nat
  lead : UInt8
  owed : Nat
  low : Nat
  high : Nat
  bits : Nat

/-- What a lead byte announces, unless it stands for itself or starts nothing. The bounds of the
second byte rule out overlong forms, surrogates and code points past the last one. -/
def Pending.ofLead? (start : Nat) (lead : UInt8) : Option Pending :=
  let b := lead.toNat
  if 0xC2 ≤ b ∧ b ≤ 0xDF then some ⟨start, lead, 1, 0x80, 0xBF, b - 0xC0⟩
  else if b = 0xE0 then some ⟨start, lead, 2, 0xA0, 0xBF, b - 0xE0⟩
  else if b = 0xED then some ⟨start, lead, 2, 0x80, 0x9F, b - 0xE0⟩
  else if 0xE1 ≤ b ∧ b ≤ 0xEF then some ⟨start, lead, 2, 0x80, 0xBF, b - 0xE0⟩
  else if b = 0xF0 then some ⟨start, lead, 3, 0x90, 0xBF, b - 0xF0⟩
  else if b = 0xF4 then some ⟨start, lead, 3, 0x80, 0x8F, b - 0xF0⟩
  else if 0xF1 ≤ b ∧ b ≤ 0xF3 then some ⟨start, lead, 3, 0x80, 0xBF, b - 0xF0⟩
  else none

/-- Reads the bytes from position `at` on. `done` holds the characters so far, the last one first. -/
def decodeFrom (position : Nat) (pending : Option Pending) (done : List Char) :
    List UInt8 → Except Fault (List Char)
  | [] =>
    match pending with
    | none => .ok done.reverse
    | some p => .error ⟨p.start, position - 1, p.lead, .unexpectedEnd⟩
  | byte :: rest =>
    match pending with
    | some p =>
      if p.low ≤ byte.toNat ∧ byte.toNat ≤ p.high then
        let bits := p.bits * 64 + (byte.toNat - 0x80)
        if p.owed ≤ 1 then decodeFrom (position + 1) none (Char.ofNat bits :: done) rest
        else decodeFrom (position + 1) (some ⟨p.start, p.lead, p.owed - 1, 0x80, 0xBF, bits⟩) done rest
      else .error ⟨p.start, position - 1, p.lead, .invalidContinuation⟩
    | none =>
      if byte.toNat < 0x80 then
        decodeFrom (position + 1) none (Char.ofNat byte.toNat :: done) rest
      else match Pending.ofLead? position byte with
        | some p => decodeFrom (position + 1) (some p) done rest
        | none => .error ⟨position, position, byte, .invalidStart⟩

def decode (bytes : List UInt8) : Except Fault (List Char) := decodeFrom 0 none [] bytes

end Utf8

/-- Every line ends in a line feed: a carriage return becomes one, together with a line feed after
it. -/
def unifyNewlines : List Char → List Char
  | [] => []
  | '\r' :: '\n' :: rest => '\n' :: unifyNewlines rest
  | c :: rest => (if c = '\r' then '\n' else c) :: unifyNewlines rest

end Unreferenced.Text
