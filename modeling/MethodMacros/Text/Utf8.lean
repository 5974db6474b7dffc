/-!
# Reading UTF-8

Captured output and report files are bytes.  A file must be well formed, and the first fault is
reported with its place.  Captured output is repaired instead: each maximal beginning of a
character that is never finished becomes one replacement character, so no valid character that
follows is lost.
-/

namespace MethodMacros.Text.Utf8

/-- Why bytes are not the encoding of a character. -/
inductive Cause where
  | badStart
  | badContinuation
  | cutShort
  deriving DecidableEq, Repr

/-- The wording of a cause. -/
def Cause.message : Cause → String
  | .badStart => "invalid start byte"
  | .badContinuation => "invalid continuation byte"
  | .cutShort => "unexpected end of data"

/-- What stands at the head of a non-empty sequence of bytes. -/
inductive Head where
  /-- A character, and the number of bytes after the first that belong to it. -/
  | char (c : Char) (more : Nat)
  /-- A fault, and the number of bytes after the first that it covers. -/
  | fault (cause : Cause) (more : Nat)
  deriving Repr

/-- How a first byte begins a character: the number of bytes to follow, the bits that the first
byte gives, and the interval for the second byte.  The interval excludes overlong forms,
surrogates and code points beyond the last. -/
def opening? (b : UInt8) : Option (Nat × Nat × UInt8 × UInt8) :=
  let n := b.toNat
  if n < 0x80 then some (0, n, 0x80, 0xBF)
  else if n < 0xC2 then none
  else if n < 0xE0 then some (1, n - 0xC0, 0x80, 0xBF)
  else if n = 0xE0 then some (2, 0, 0xA0, 0xBF)
  else if n = 0xED then some (2, 0xD, 0x80, 0x9F)
  else if n < 0xF0 then some (2, n - 0xE0, 0x80, 0xBF)
  else if n = 0xF0 then some (3, 0, 0x90, 0xBF)
  else if n < 0xF4 then some (3, n - 0xF0, 0x80, 0xBF)
  else if n = 0xF4 then some (3, 4, 0x80, 0x8F)
  else none

/-- Reads `left` further bytes of a character.  `done` bytes after the first are read already and
give `bits`, and the next byte has to lie between `lo` and `hi`. -/
def continueHead : Nat → Nat → Nat → UInt8 → UInt8 → List UInt8 → Head
  | 0, done, bits, _, _, _ => .char (Char.ofNat bits) done
  | _ + 1, done, _, _, _, [] => .fault .cutShort done
  | left + 1, done, bits, lo, hi, b :: rest =>
      if lo ≤ b ∧ b ≤ hi then
        continueHead left (done + 1) (bits * 64 + (b.toNat - 0x80)) 0x80 0xBF rest
      else .fault .badContinuation done

/-- The character or the fault that starts with the byte `b`. -/
def head (b : UInt8) (rest : List UInt8) : Head :=
  match opening? b with
  | none => .fault .badStart 0
  | some (left, bits, lo, hi) => continueHead left 0 bits lo hi rest

/-- The decoded characters, with U+FFFD for each maximal faulty part.  `skip` counts the bytes
that belong to what was read last, and `done` holds the characters so far in reverse. -/
def repairFrom : Nat → List Char → List UInt8 → List Char
  | _, done, [] => done.reverse
  | skip + 1, done, _ :: rest => repairFrom skip done rest
  | 0, done, b :: rest =>
      match head b rest with
      | .char c more => repairFrom more (c :: done) rest
      | .fault _ more => repairFrom more ('\uFFFD' :: done) rest

/-- Decodes bytes, repairing what is not well formed. -/
def repair (bytes : List UInt8) : List Char :=
  repairFrom 0 [] bytes

/-- The place and the cause of the first fault in a sequence of bytes. -/
structure DecodeError where
  bytes : List UInt8
  start : Nat
  cause : Cause
  deriving DecidableEq, Repr

/-- Strict reading from position `pos` on, with the decoded characters in reverse. -/
def decodeFrom : Nat → List Char → Nat → List UInt8 → Except DecodeError (List Char)
  | _, done, _, [] => .ok done.reverse
  | skip + 1, done, pos, _ :: rest => decodeFrom skip done (pos + 1) rest
  | 0, done, pos, b :: rest =>
      match head b rest with
      | .char c more => decodeFrom more (c :: done) (pos + 1) rest
      | .fault cause more => .error ⟨b :: rest.take more, pos, cause⟩

/-- Decodes bytes that have to be well formed. -/
def decode (bytes : List UInt8) : Except DecodeError (List Char) :=
  decodeFrom 0 [] 0 bytes

end MethodMacros.Text.Utf8
