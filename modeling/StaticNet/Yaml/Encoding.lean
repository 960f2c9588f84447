import StaticNet.Bytes
import StaticNet.Yaml.Fault

/-! # Encodings

The bytes of a document are in UTF-8 unless a byte order mark says that they are in UTF-16. They are
read in pieces of a fixed size, and a character that one piece cuts off goes on in the next. A piece
ends at the first byte that is no part of a character and at the first character that a document
must not hold; nothing is read behind it.
-/

namespace StaticNet.Yaml

/-- Whether a character may stand in a document. -/
def isAllowed (c : Char) : Bool :=
  let n := c.toNat
  n = 0x09 || n = 0x0a || n = 0x0d || (0x20 ≤ n && n ≤ 0x7e) || n = 0x85 ||
    (0xa0 ≤ n && n ≤ 0xfffd) || 0x10000 ≤ n

/-- The number of octets of a character with the given first octet. -/
def octetCount? (first : UInt8) : Option Nat :=
  if first < 0x80 then some 1
  else if first &&& 0xe0 = 0xc0 then some 2
  else if first &&& 0xf0 = 0xe0 then some 3
  else if first &&& 0xf8 = 0xf0 then some 4
  else none

/-- Whether an octet continues a character. -/
def isTrailing (octet : UInt8) : Bool := octet &&& 0xc0 = 0x80

/-- The bits that the first of so many octets holds of its character. -/
def leadingBits (count : Nat) (first : UInt8) : Nat :=
  match count with
  | 1 => first.toNat
  | 2 => (first &&& 0x1f).toNat
  | 3 => (first &&& 0x0f).toNat
  | _ => (first &&& 0x07).toNat

/-- The least code point that needs so many octets. -/
def leastCode (count : Nat) : Nat :=
  match count with
  | 1 => 0
  | 2 => 0x80
  | 3 => 0x800
  | _ => 0x10000

/-- The character in UTF-8 at the front, and what follows it. -/
def takeUtf8 (first : UInt8) (rest : Bytes) : Except Problem (Char × Bytes) :=
  match octetCount? first with
  | none => .error .leadingOctet
  | some count =>
      let trailing := rest.take (count - 1)
      let code := trailing.foldl (fun n octet => n * 64 + (octet &&& 0x3f).toNat)
        (leadingBits count first)
      if trailing.length < count - 1 then .error .incompleteOctets
      else if !trailing.all isTrailing then .error .trailingOctet
      else if code < leastCode count then .error .octetCount
      else if !code.isValidChar then .error .noCharacter
      else .ok (Char.ofNat code, rest.drop (count - 1))

/-- The unit of UTF-16 in two bytes, the first of which is the low one if that is so. -/
def unitOf (isLittle : Bool) (first second : UInt8) : Nat :=
  if isLittle then second.toNat * 256 + first.toNat else first.toNat * 256 + second.toNat

/-- Whether a unit is the second of a pair. -/
def isLowSurrogate (unit : Nat) : Bool := unit / 0x400 = 0x37

/-- Whether a unit is the first of a pair. -/
def isHighSurrogate (unit : Nat) : Bool := unit / 0x400 = 0x36

/-- The character in UTF-16 at the front, and what follows it. -/
def takeUtf16 (isLittle : Bool) (first : UInt8) (rest : Bytes) : Except Problem (Char × Bytes) :=
  match rest with
  | [] => .error .incompleteUnit
  | second :: rest =>
      let unit := unitOf isLittle first second
      if isLowSurrogate unit then .error .unexpectedSurrogate
      else if isHighSurrogate unit then
        match rest with
        | third :: fourth :: behind =>
            let low := unitOf isLittle third fourth
            if isLowSurrogate low then
              .ok (Char.ofNat (0x10000 + unit % 0x400 * 0x400 + low % 0x400), behind)
            else .error .expectedSurrogate
        | _ => .error .incompletePair
      else .ok (Char.ofNat unit, rest)

/-- How a character is taken from the front of bytes, given by the first of them and the rest. -/
abbrev Decoding := UInt8 → Bytes → Except Problem (Char × Bytes)

/-- What one reading gives: characters, and the problem behind them if there is one. -/
structure Piece where
  chars : List Char
  problem : Option Problem
deriving DecidableEq

/-- The piece that bytes give, and the bytes of a character that is cut off at their end. The fuel
bounds the number of characters. -/
def takePiece (take : Decoding) : Nat → Bytes → Piece × Bytes
  | 0, cut => (⟨[], none⟩, cut)
  | _, [] => (⟨[], none⟩, [])
  | fuel + 1, first :: rest =>
      match take first rest with
      | .error problem =>
          if problem.isCutOff then (⟨[], none⟩, first :: rest) else (⟨[], some problem⟩, [])
      | .ok (c, behind) =>
          if !isAllowed c then (⟨[], some .controlCharacter⟩, [])
          else
            let (piece, cut) := takePiece take fuel behind
            ({ piece with chars := c :: piece.chars }, cut)

/-- How many bytes are read at once. -/
def pieceSize : Nat := 512

/-- The piece that the end of the input gives behind the bytes of a character that was cut off. -/
def lastPieces (take : Decoding) : Bytes → List Piece
  | [] => []
  | first :: rest =>
      match take first rest with
      | .error problem => [⟨[], some problem⟩]
      | .ok (c, _) => [⟨[c], none⟩]

/-- The pieces of bytes behind those of a character that was cut off, if the next reading has so
much room. The fuel bounds the number of pieces. -/
def piecesFrom (take : Decoding) : Nat → Nat → Bytes → Bytes → List Piece
  | 0, _, _, _ => []
  | fuel + 1, room, cut, bytes =>
      if bytes.isEmpty then lastPieces take cut
      else
        let (piece, cut) := takePiece take pieceSize (cut ++ bytes.take room)
        if piece.problem.isSome then [piece]
        else piece :: piecesFrom take fuel (pieceSize - cut.length) cut (bytes.drop room)

/-- The pieces of the bytes of a document. A byte order mark at its start is no part of it, but
takes room in the first piece. -/
def readPieces (bytes : Bytes) : List Piece :=
  let piecesBehind (mark : Nat) (take : Decoding) :=
    piecesFrom take (bytes.length + 1) (pieceSize - mark) [] (bytes.drop mark)
  match bytes with
  | 0xff :: 0xfe :: _ => piecesBehind 2 (takeUtf16 true)
  | 0xfe :: 0xff :: _ => piecesBehind 2 (takeUtf16 false)
  | 0xef :: 0xbb :: 0xbf :: _ => piecesBehind 3 takeUtf8
  | _ => piecesBehind 0 takeUtf8

end StaticNet.Yaml
