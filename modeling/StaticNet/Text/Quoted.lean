import StaticNet.Text.Printable
import StaticNet.Text.Utf8

/-! # Quoted text

A quoted text stands between double quotes. Quotes and backslashes are escaped, the usual control
characters have short escapes, and any other character that is not printable is written by its
code point. A stray octet is written by its value.
-/

namespace StaticNet.Text

/-- A natural in lower-case hexadecimal, padded with zeros to a least width. -/
def hex (width n : Nat) : List Char :=
  let digits := Nat.toDigits 16 n
  List.replicate (width - digits.length) '0' ++ digits

/-- A natural in upper-case hexadecimal, padded with zeros to a least width. -/
def upperHex (width n : Nat) : List Char := (hex width n).map Char.toUpper

/-- The short escapes. -/
def shortEscape? (c : Char) : Option Char :=
  match c.toNat with
  | 0x07 => some 'a'
  | 0x08 => some 'b'
  | 0x09 => some 't'
  | 0x0a => some 'n'
  | 0x0b => some 'v'
  | 0x0c => some 'f'
  | 0x0d => some 'r'
  | 0x22 => some '"'
  | 0x5c => some '\\'
  | _ => none

/-- A character by its code point. -/
def escapeCode (c : Char) : List Char :=
  if c.toNat < 0x80 then '\\' :: 'x' :: hex 2 c.toNat
  else if c.toNat < 0x10000 then '\\' :: 'u' :: hex 4 c.toNat
  else '\\' :: 'U' :: hex 8 c.toNat

/-- One character inside quotes, of those that satisfy a test as it is. -/
def escapeUnless (isPlain : Char → Bool) (c : Char) : List Char :=
  match shortEscape? c with
  | some letter => ['\\', letter]
  | none => if isPlain c then encodeChar c else escapeCode c

/-- One character inside quotes. -/
def escape (c : Char) : List Char := escapeUnless isPrintable c

/-- One character inside quotes in the first 128 characters. -/
def escapeNarrow (c : Char) : List Char := escapeUnless (fun c => isPrintable c && c.toNat < 0x80) c

/-- One glyph inside quotes, if its character is written in the given way. -/
def escapeGlyph (escape : Char → List Char) (glyph : Glyph) : List Char :=
  if glyph.isStray then glyph.octets.flatMap fun c => '\\' :: 'x' :: hex 2 c.toNat
  else escape glyph.char

/-- A text in quotes, if its characters are written in the given way. -/
def quoteBy (escape : Char → List Char) (s : String) : String :=
  String.ofList ('"' :: (glyphs s).flatMap (escapeGlyph escape) ++ ['"'])

/-- The quoted form of a text. -/
def quote (s : String) : String := quoteBy escape s

/-- The quoted form of a text in the first 128 characters. -/
def quoteNarrow (s : String) : String := quoteBy escapeNarrow s

/-- Whether a text may stand between back quotes, where nothing is escaped. -/
def allowsBackQuotes (s : String) : Bool :=
  (glyphs s).all fun glyph =>
    let c := glyph.char
    !glyph.isStray && (c = '\t' || ' ' ≤ c) && c ≠ '\x60' && c ≠ '\x7f' && c ≠ '\ufeff'

end StaticNet.Text
