import StaticNet.Bytes

/-! # Texts as octets

A text of the program is a string of octets: each of its characters lies below 256 and is one byte
of the text. Names that come from files need not be well-formed UTF-8, and this way texts that
differ in any byte stay apart, and joining texts joins their bytes. What a text shows are its
glyphs.
-/

namespace StaticNet.Text

/-- The octet of a byte. -/
def octet (byte : UInt8) : Char := Char.ofNat byte.toNat

/-- The bytes of a text. -/
def bytes (s : String) : Bytes := s.toList.map fun c => UInt8.ofNat c.toNat

/-- The text of bytes. -/
def ofBytes (bytes : Bytes) : String := String.ofList (bytes.map octet)

/-- The octets of a character. -/
def encodeChar (c : Char) : List Char := (String.utf8EncodeChar c).map octet

/-- The text that shows characters. -/
def ofChars (cs : List Char) : String := String.ofList (cs.flatMap encodeChar)

/-- The text that shows a string of characters. -/
def encode (s : String) : String := ofChars s.toList

/-- The low six bits of a continuation byte. -/
def continuation? (byte : UInt8) : Option Nat :=
  if 0x80 ≤ byte ∧ byte < 0xc0 then some (byte.toNat - 0x80) else none

/-- A character in its least number of bytes. -/
def charAbove? (least code : Nat) : Option Char :=
  if h : code.isValidChar then
    if least ≤ code then some (Char.ofNatAux code h) else none
  else none

/-- The character that starts with a byte, and the number of further bytes that it takes. -/
def decodeChar? (first : UInt8) (rest : Bytes) : Option (Char × Nat) :=
  if first < 0x80 then (charAbove? 0 first.toNat).map fun c => (c, 0)
  else if 0xc0 ≤ first ∧ first < 0xe0 then
    match rest with
    | a :: _ => do
        let x ← continuation? a
        let c ← charAbove? 0x80 ((first.toNat - 0xc0) * 64 + x)
        return (c, 1)
    | _ => none
  else if 0xe0 ≤ first ∧ first < 0xf0 then
    match rest with
    | a :: b :: _ => do
        let x ← continuation? a
        let y ← continuation? b
        let c ← charAbove? 0x800 (((first.toNat - 0xe0) * 64 + x) * 64 + y)
        return (c, 2)
    | _ => none
  else if 0xf0 ≤ first ∧ first < 0xf8 then
    match rest with
    | a :: b :: c :: _ => do
        let x ← continuation? a
        let y ← continuation? b
        let z ← continuation? c
        let c ← charAbove? 0x10000 ((((first.toNat - 0xf0) * 64 + x) * 64 + y) * 64 + z)
        return (c, 3)
    | _ => none
  else none

/-- A character of a text and the octets that it is written in. An octet that is no part of a
character is a stray one. -/
structure Glyph where
  char : Char
  octets : List Char
deriving DecidableEq

/-- The character that is shown in place of a stray octet. -/
def replacement : Char := '\ufffd'

/-- Whether a glyph is a stray octet: the replacement character itself takes more than one. -/
def Glyph.isStray (glyph : Glyph) : Bool := glyph.char = replacement && glyph.octets.length = 1

/-- The glyphs of bytes. -/
def glyphsOf : Bytes → List Glyph
  | [] => []
  | first :: rest =>
      match decodeChar? first rest with
      | some (c, further) =>
          ⟨c, (first :: rest.take further).map octet⟩ :: glyphsOf (rest.drop further)
      | none => ⟨replacement, [octet first]⟩ :: glyphsOf rest
termination_by bytes => bytes.length
decreasing_by all_goals simp only [List.length_cons, List.length_drop]; omega

/-- The glyphs of a text. -/
def glyphs (s : String) : List Glyph := glyphsOf (bytes s)

/-- The text of glyphs. -/
def ofGlyphs (glyphs : List Glyph) : String := String.ofList (glyphs.flatMap Glyph.octets)

/-- The characters that a text shows. -/
def chars (s : String) : List Char := (glyphs s).map Glyph.char

/-- A text as it is shown, in characters. -/
def shown (s : String) : String := String.ofList (chars s)

end StaticNet.Text
