import UriRouting.Percent.CharClass

/-!
# Percent encoding

`encodeUnless` escapes every byte of every character that is not to be kept.
`encode` keeps the unreserved characters; `encodeReserved` keeps the delimiters as
well.  Escapes are written with
upper-case digits.  `decode` reads every escape as the byte it names and every
other character as its own UTF-8 bytes, and fails when the bytes are not UTF-8.
-/

namespace UriRouting.Percent

/-- The upper-case hexadecimal digit of a value below sixteen. -/
def hexDigit (n : Nat) : Char :=
  if n < 10 then Char.ofNat (n + 48) else Char.ofNat (n + 55)

/-- The value of a hexadecimal digit in either case. -/
def hexValue? (c : Char) : Option Nat :=
  if c.isDigit then some (c.toNat - 48)
  else if 'a' ≤ c && c ≤ 'f' then some (c.toNat - 87)
  else if 'A' ≤ c && c ≤ 'F' then some (c.toNat - 55)
  else none

/-- The escape of a byte. -/
def escapeByte (b : UInt8) : Text := ['%', hexDigit (b.toNat / 16), hexDigit (b.toNat % 16)]

/-- The escapes of the UTF-8 bytes of a character. -/
def escape (c : Char) : Text := (String.utf8EncodeChar c).flatMap escapeByte

/-- The text with every character escaped that is not to be kept. -/
def encodeUnless (keep : Char → Bool) (t : Text) : Text :=
  t.flatMap fun c => if keep c then [c] else escape c

/-- The text with everything outside the unreserved characters escaped. -/
def encode (t : Text) : Text := encodeUnless isUnreserved t

/-- The text with everything outside the unreserved characters and the
delimiters escaped. -/
def encodeReserved (t : Text) : Text := encodeUnless (fun c => isUnreserved c || isReserved c) t

/-- The byte that an escape with the digits `x` and `y` names. -/
def escapedByte? (x y : Char) : Option UInt8 := do
  let high ← hexValue? x
  let low ← hexValue? y
  pure (UInt8.ofNat (16 * high + low))

/-- The bytes that a text stands for: a `%` that opens no escape stands for
itself. -/
def bytes : Text → List UInt8
  | [] => []
  | '%' :: x :: y :: rest =>
      match escapedByte? x y with
      | some b => b :: bytes rest
      | none => String.utf8EncodeChar '%' ++ bytes (x :: y :: rest)
  | c :: rest => String.utf8EncodeChar c ++ bytes rest

/-- The text whose UTF-8 form is the given bytes. -/
def ofUtf8? (bs : List UInt8) : Option Text :=
  bs.toByteArray.utf8Decode?.map Array.toList

/-- The text with its escapes undone. -/
def decode (t : Text) : Option Text := ofUtf8? (bytes t)

end UriRouting.Percent
