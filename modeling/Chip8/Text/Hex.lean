/-
# Hexadecimal numbers in text

Addresses, opcodes and register names are shown in base 16.  One rule covers
every place where that happens: a sign, an optional mark such as `0x`, and the
digits, with zeros put between mark and digits until the whole text has a given
width.  A number that needs more room than the width is never cut.
-/

namespace Chip8
namespace Text

/-- `ds` with zeros in front until it has `width` characters. -/
def zeroFill (width : Nat) (ds : List Char) : List Char :=
  List.replicate (width - ds.length) '0' ++ ds

/-- The digits of `n` in base 16, lower case, no zero in front except for `0` itself. -/
def hexDigits (n : Nat) : List Char := Nat.toDigits 16 n

/-- The digits of `n` in base 16, upper case. -/
def upperHexDigits (n : Nat) : List Char := (hexDigits n).map Char.toUpper

/-- Sign, mark and digits of `n`; the zeros go after the mark and count towards `width`
together with the sign and the mark. -/
def signedHex (digits : Nat → List Char) (mark : String) (width : Nat) (n : Int) : String :=
  let sign := if n < 0 then "-" else ""
  let room := width - sign.length - mark.length
  sign ++ mark ++ String.ofList (zeroFill room (digits n.natAbs))

/-- An address or opcode as `0x` and lower-case digits, six characters at least. -/
def wordHex (n : Int) : String := signedHex hexDigits "0x" 6 n

/-- An address as `0x` and lower-case digits, five characters at least. -/
def addressHex (n : Int) : String := signedHex hexDigits "0x" 5 n

/-- Upper-case digits without a mark, `width` characters at least. -/
def upperHex (width : Nat) (n : Int) : String := signedHex upperHexDigits "" width n

/-- A byte as two lower-case digits. -/
def byteHex (b : UInt8) : String := String.ofList (zeroFill 2 (hexDigits b.toNat))

/-- Bytes as two lower-case digits each, nothing between them. -/
def bytesHex (bs : List UInt8) : String := String.join (bs.map byteHex)

example : wordHex (-300) = "-0x12c" ∧ wordHex (-1) = "-0x001" ∧ wordHex 514 = "0x0202" := by
  decide +kernel

example : upperHex 4 (-1) = "-001" ∧ upperHex 2 200 = "C8" ∧ addressHex 512 = "0x200" := by
  decide +kernel

end Text
end Chip8
