import Segmentation.Text.Basic

/-!
# UTF-8

Files are bytes and syntax trees count bytes, while texts count code points. This module encodes a
text, turns byte offsets into character offsets, and decodes bytes in two ways: strictly, with a
fault that says where the first bad sequence stands, and leniently, where bytes outside every
well-formed sequence are dropped.
-/

namespace Segmentation

/-- Why bytes cannot be read as UTF-8. -/
inductive Utf8Problem where
  | invalidStart
  | invalidContinuation
  | unexpectedEnd
  deriving DecidableEq, Repr

/-- The first sequence of bytes that is not UTF-8: where it starts, its first byte, and how many of
its bytes fit together. -/
structure Utf8Fault where
  problem : Utf8Problem
  position : Nat
  first : UInt8
  count : Nat
  deriving DecidableEq, Repr

namespace Utf8Fault

/-- Two lower-case hexadecimal digits. -/
def hexByte (byte : UInt8) : Text :=
  [Nat.digitChar (byte.toNat / 16), Nat.digitChar (byte.toNat % 16)]

/-- The wording of a fault: one byte is shown, several are only located. -/
def message (fault : Utf8Fault) : Text :=
  let place :=
    if fault.count ≤ 1 then
      "byte 0x".toList ++ hexByte fault.first ++ " in position ".toList ++ Text.ofNat fault.position
    else
      "bytes in position ".toList ++ Text.ofNat fault.position ++
        '-' :: Text.ofNat (fault.position + fault.count - 1)
  let reason :=
    match fault.problem with
    | .invalidStart => "invalid start byte"
    | .invalidContinuation => "invalid continuation byte"
    | .unexpectedEnd => "unexpected end of data"
  "'utf-8' codec can't decode ".toList ++ place ++ ": ".toList ++ reason.toList

end Utf8Fault

namespace Text

/-! ## Encoding and offsets -/

/-- The UTF-8 encoding of a text. -/
def utf8 (text : Text) : List UInt8 :=
  text.flatMap String.utf8EncodeChar

/-- How many bytes the UTF-8 encoding of a text takes. -/
def utf8Length (text : Text) : Nat :=
  text.foldl (fun bytes character => bytes + character.utf8Size) 0

@[simp] theorem utf8Length_nil : utf8Length [] = 0 := rfl

@[simp] theorem utf8Length_cons (character : Char) (rest : Text) :
    utf8Length (character :: rest) = character.utf8Size + utf8Length rest := by
  have shifted (start : Nat) (text : Text) :
      text.foldl (fun bytes character => bytes + character.utf8Size) start =
        start + utf8Length text := by
    unfold utf8Length
    induction text generalizing start with
    | nil => rfl
    | cons character rest ih =>
        rw [List.foldl_cons, List.foldl_cons, ih (start + character.utf8Size),
          ih (0 + character.utf8Size), Nat.zero_add, Nat.add_assoc]
  rw [utf8Length, List.foldl_cons, shifted, Nat.zero_add]

@[simp] theorem length_utf8 (text : Text) : (utf8 text).length = utf8Length text := by
  induction text with
  | nil => rfl
  | cons character rest ih =>
      rw [utf8, List.flatMap_cons, List.length_append, String.length_utf8EncodeChar,
        utf8Length_cons, ← ih, utf8]

/-- The number of characters in the first `bytes` bytes of a text that starts at byte `position`.
Counting stops at the end of the text; cutting a character in two is a fault. -/
def charactersIn (position bytes : Nat) : Text → Except Utf8Fault Nat
  | [] => .ok 0
  | character :: rest =>
      if bytes = 0 then .ok 0
      else if character.utf8Size ≤ bytes then
        (charactersIn (position + character.utf8Size) (bytes - character.utf8Size) rest).map (· + 1)
      else
        .error
          { problem := .unexpectedEnd, position
            first := (String.utf8EncodeChar character).headD 0, count := bytes }

/-- The character offset that a byte offset stands for. A text of one-byte characters has equal
offsets of both kinds. -/
def charOffset (text : Text) (byteOffset : Nat) : Except Utf8Fault Nat :=
  if text.utf8Length = text.length then .ok byteOffset else charactersIn 0 byteOffset text

/-! ## Decoding -/

/-- Reads `need` more bytes of a sequence of which `count` bytes are read, and gives the character
with the number of bytes after its first. The next byte has to lie from `low` to `high`; the bytes
after it may be any continuation bytes. -/
def takeContinuation (low high value count : Nat) :
    Nat → List UInt8 → Except (Utf8Problem × Nat) (Char × Nat)
  | 0, _ => .ok (Char.ofNat value, count - 1)
  | _ + 1, [] => .error (.unexpectedEnd, count)
  | need + 1, byte :: rest =>
      let code := byte.toNat
      if low ≤ code ∧ code ≤ high then
        takeContinuation 0x80 0xbf (value * 64 + code % 64) (count + 1) need rest
      else .error (.invalidContinuation, count)

/-- The character that a byte and those after it encode, with the number of bytes after its first.
The narrower bounds on the second byte keep out overlong forms, surrogates and values above the code
space. A fault comes with the number of bytes that fit together. -/
def takeCharacter (byte : UInt8) (rest : List UInt8) :
    Except (Utf8Problem × Nat) (Char × Nat) :=
  let code := byte.toNat
  if code < 0x80 then .ok (Char.ofNat code, 0)
  else if code < 0xc2 then .error (.invalidStart, 1)
  else if code < 0xe0 then takeContinuation 0x80 0xbf (code % 32) 1 1 rest
  else if code < 0xf0 then
    takeContinuation (if code = 0xe0 then 0xa0 else 0x80) (if code = 0xed then 0x9f else 0xbf)
      (code % 16) 1 2 rest
  else if code < 0xf5 then
    takeContinuation (if code = 0xf0 then 0x90 else 0x80) (if code = 0xf4 then 0x8f else 0xbf)
      (code % 8) 1 3 rest
  else .error (.invalidStart, 1)

/-- The characters of well-formed bytes, or the first fault. The first `skip` bytes belong to the
character before them. -/
def decodeFrom (position skip : Nat) : List UInt8 → Except Utf8Fault Text
  | [] => .ok []
  | byte :: rest =>
      match skip with
      | skip + 1 => decodeFrom (position + 1) skip rest
      | 0 =>
          match takeCharacter byte rest with
          | .ok (character, more) => (decodeFrom (position + 1) more rest).map (character :: ·)
          | .error (problem, count) => .error { problem, position, first := byte, count }

/-- The text that bytes encode; the first bad sequence is a fault. -/
def decodeUtf8 (bytes : List UInt8) : Except Utf8Fault Text :=
  decodeFrom 0 0 bytes

/-- The characters of the well-formed sequences among the bytes. The first `skip` bytes belong to
the character before them; a byte that starts no well-formed sequence is dropped. -/
def decodeSkipping (skip : Nat) : List UInt8 → Text
  | [] => []
  | byte :: rest =>
      match skip with
      | skip + 1 => decodeSkipping skip rest
      | 0 =>
          match takeCharacter byte rest with
          | .ok (character, more) => character :: decodeSkipping more rest
          | .error _ => decodeSkipping 0 rest

/-- The text that bytes encode once every byte outside a well-formed sequence is dropped. -/
def decodeUtf8Leniently (bytes : List UInt8) : Text :=
  decodeSkipping 0 bytes

/-! ## Newlines -/

/-- The text with every carriage return, and every carriage return followed by a newline, replaced
by a newline. -/
def unifyNewlines : Text → Text
  | [] => []
  | '\r' :: '\n' :: rest => '\n' :: unifyNewlines rest
  | '\r' :: rest => '\n' :: unifyNewlines rest
  | character :: rest => character :: unifyNewlines rest

end Text

end Segmentation
