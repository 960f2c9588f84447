import StaticNet.Text.Quoted
import StaticNet.Text.Utf8

/-! # Text inside other languages

A text that becomes part of a markup document, of a script string or of a query string has the
characters escaped that mean something there.
-/

namespace StaticNet.Text

/-- One octet of a markup document. -/
def markupOctet (c : Char) : List Char :=
  match c with
  | '"' => "&#34;".toList
  | '\'' => "&#39;".toList
  | '&' => "&amp;".toList
  | '<' => "&lt;".toList
  | '>' => "&gt;".toList
  | c => if c.toNat = 0 then encodeChar replacement else [c]

/-- A text as part of a markup document. -/
def markup (s : String) : String := String.ofList (s.toList.flatMap markupOctet)

/-- One glyph of a script string. Quotes and backslashes are protected; what means something to
markup, controls and characters that are not printable are written by their code point. -/
def scriptGlyph (glyph : Glyph) : List Char :=
  let c := glyph.char
  if c = '\\' || c = '\'' || c = '"' then ['\\', c]
  else if c = '<' || c = '>' || c = '&' || c = '=' || c < ' ' then '\\' :: 'u' :: upperHex 4 c.toNat
  else if c.toNat < 0x80 || glyph.isStray || isPrintable c then glyph.octets
  else '\\' :: 'u' :: upperHex 4 c.toNat

/-- A text as part of a script string. -/
def scriptString (s : String) : String := String.ofList ((glyphs s).flatMap scriptGlyph)

/-- Whether a byte stands for itself in a query string. -/
def isQueryByte (byte : UInt8) : Bool :=
  let c := Char.ofNat byte.toNat
  c.isAlphanum || c = '-' || c = '_' || c = '.' || c = '~'

/-- One byte of a query string. A blank is written as a plus sign. -/
def queryByte (byte : UInt8) : List Char :=
  if isQueryByte byte then [Char.ofNat byte.toNat]
  else if byte = 0x20 then ['+']
  else '%' :: upperHex 2 byte.toNat

/-- A text as part of a query string. -/
def query (s : String) : String := String.ofList ((bytes s).flatMap queryByte)

end StaticNet.Text
