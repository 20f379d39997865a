import UtilityCss.Text.Quoted

/-!
# UTF-8

`Utf8.decode` reads bytes as text.  It is a machine with one state per expected byte: after a first
byte it waits for bytes in known ranges (`expected`), and it refuses a byte as soon as no text can
continue with it.  The fault names the longest beginning of a character that was read, so that a
byte order mark is a character like any other and surrogates and overlong forms are refused at
their second byte.

`Text.unifyLineEnds` reads the three conventions for line ends as one.
-/

namespace UtilityCss

namespace Utf8

/-- Why bytes are not UTF-8. -/
inductive Reason
  /-- No character begins with this byte. -/
  | invalidStart
  /-- A character was begun and the next byte cannot continue it. -/
  | invalidContinuation
  /-- A character was begun and the bytes end. -/
  | unexpectedEnd
deriving DecidableEq, Repr

/-- The bytes that spoil a text: the first of them, where it stands and how many they are. -/
structure Fault where
  first : UInt8
  position : Nat
  count : Nat
  reason : Reason
deriving DecidableEq, Repr

/-- The wording of a reason. -/
def Reason.message : Reason → Text
  | .invalidStart => "invalid start byte"
  | .invalidContinuation => "invalid continuation byte"
  | .unexpectedEnd => "unexpected end of data"

/-- The wording of a fault: a single byte is shown, several are located. -/
def Fault.message (fault : Fault) : Text :=
  "'utf-8' codec can't decode " ++
    (if fault.count = 1 then
      "byte 0x" ++ Text.hex 2 fault.first.toNat ++ " in position " ++ Text.ofNat fault.position
    else
      "bytes in position " ++ Text.ofNat fault.position ++ "-" ++
        Text.ofNat (fault.position + fault.count - 1)) ++
    ": " ++ fault.reason.message

/-- An inclusive range of bytes. -/
abbrev ByteRange := UInt8 × UInt8

/-- Any byte that continues a character. -/
def continuation : ByteRange := (0x80, 0xBF)

/-- The ranges of the bytes that must follow a first byte, or nothing if no character begins with
it. -/
def expected (first : UInt8) : Option (List ByteRange) :=
  if first < 0x80 then some []
  else if first < 0xC2 then none
  else if first < 0xE0 then some [continuation]
  else if first = 0xE0 then some [(0xA0, 0xBF), continuation]
  else if first = 0xED then some [(0x80, 0x9F), continuation]
  else if first < 0xF0 then some [continuation, continuation]
  else if first = 0xF0 then some [(0x90, 0xBF), continuation, continuation]
  else if first < 0xF4 then some [continuation, continuation, continuation]
  else if first = 0xF4 then some [(0x80, 0x8F), continuation, continuation]
  else none

/-- The bits that a first byte gives to the code point, by the number of bytes that follow. -/
def leadingBits (first : UInt8) : (following : Nat) → Nat
  | 0 => first.toNat
  | 1 => first.toNat - 0xC0
  | 2 => first.toNat - 0xE0
  | _ => first.toNat - 0xF0

/-- A character that has been begun. -/
structure Pending where
  first : UInt8
  position : Nat
  count : Nat
  bits : Nat
  next : ByteRange
  later : List ByteRange

/-- The fault of a character that was begun and does not go on. -/
def Pending.fault (pending : Pending) (reason : Reason) : Fault :=
  ⟨pending.first, pending.position, pending.count, reason⟩

/-- Reads bytes from the given position on.  The text read so far is kept with the last character
first. -/
def decodeFrom (position : Nat) (read : Text) : Option Pending → List UInt8 → Except Fault Text
  | none, [] => .ok read.reverse
  | some pending, [] => .error (pending.fault .unexpectedEnd)
  | none, byte :: bytes =>
    match expected byte with
    | none => .error ⟨byte, position, 1, .invalidStart⟩
    | some [] => decodeFrom (position + 1) (Char.ofNat byte.toNat :: read) none bytes
    | some (next :: later) =>
      decodeFrom (position + 1) read
        (some ⟨byte, position, 1, leadingBits byte (later.length + 1), next, later⟩) bytes
  | some pending, byte :: bytes =>
    if pending.next.1 ≤ byte && byte ≤ pending.next.2 then
      let bits := 64 * pending.bits + (byte.toNat - 0x80)
      match pending.later with
      | [] => decodeFrom (position + 1) (Char.ofNat bits :: read) none bytes
      | next :: later =>
        decodeFrom (position + 1) read
          (some { pending with count := pending.count + 1, bits, next, later }) bytes
    else .error (pending.fault .invalidContinuation)

/-- The text that the bytes spell, or the first fault. -/
def decode (bytes : List UInt8) : Except Fault Text := decodeFrom 0 [] none bytes

/-- The bytes of a text. -/
def encode (text : Text) : List UInt8 := text.flatMap String.utf8EncodeChar

/-- A text has a character that no encoding has. -/
structure Unencodable
deriving DecidableEq, Repr

/-- The wording for such a character. -/
def Unencodable.message (_ : Unencodable) : Text := "surrogates not allowed"

/-- The bytes of a text, unless one of its characters has no encoding. -/
def encodeExcept (stray : Char → Bool) (text : Text) : Except Unencodable (List UInt8) :=
  if text.any stray then .error {} else .ok (encode text)

end Utf8

/-- Line ends of every convention become the newline character. -/
def Text.unifyLineEnds : Text → Text
  | [] => []
  | '\r' :: '\n' :: rest => '\n' :: unifyLineEnds rest
  | '\r' :: rest => '\n' :: unifyLineEnds rest
  | c :: rest => c :: unifyLineEnds rest

end UtilityCss
