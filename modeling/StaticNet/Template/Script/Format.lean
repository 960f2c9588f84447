import StaticNet.Number.Hexadecimal
import StaticNet.Template.Script.Item

/-! # Formatted text

A format is a text with directives: a percent sign, flags, a width, a precision and a verb, which
says how the next item is written. A star takes a width or a precision from the items, and a
position in brackets says which item comes next. A directive that does not fit its item, or has
none, is written out as an error.
-/

namespace StaticNet.Template.Script

/-- A directive of a format. -/
structure Directive where
  sharp : Bool := false
  zero : Bool := false
  plus : Bool := false
  minus : Bool := false
  space : Bool := false
  width : Option Nat := none
  precision : Option Nat := none
  verb : Char := 'v'
deriving DecidableEq

namespace Directive

/-- Copies of a character. -/
def copies (count : Nat) (c : Char) : String := String.ofList (List.replicate count c)

/-- A text in the width of a directive. -/
def pad (directive : Directive) (s : String) : String :=
  let gap := directive.width.getD 0 - (Text.glyphs s).length
  if directive.minus then s ++ copies gap ' '
  else copies gap (if directive.zero then '0' else ' ') ++ s

/-- The sign of a number. -/
def sign (directive : Directive) (negative : Bool) : String :=
  if negative then "-" else if directive.plus then "+" else if directive.space then " " else ""

/-- An integer in a base. Zeros fill up to the precision or, if that is missing, to the width. -/
def integer (directive : Directive) (base : Nat) (isUpper : Bool) (n : Int) : String :=
  let sign := directive.sign (n < 0)
  let digits := (Nat.toDigits base n.natAbs).map fun c => if isUpper then c.toUpper else c
  let least := directive.precision.getD <|
    if directive.zero && !directive.minus then directive.width.getD 0 - sign.length else 0
  let body := copies (least - digits.length) '0' ++ String.ofList digits
  let marked := match base, directive.sharp with
    | 2, true => "0b" ++ body
    | 8, true => if body.startsWith "0" then body else "0" ++ body
    | 16, true => (if isUpper then "0X" else "0x") ++ body
    | _, _ => body
  let marked := if directive.verb = 'O' then "0o" ++ marked else marked
  let plain := { directive with zero := false }
  if directive.precision = some 0 && n = 0 then plain.pad "" else plain.pad (sign ++ marked)

/-- The start of a text up to the precision. -/
def cut (directive : Directive) (s : String) : String :=
  match directive.precision with
  | some count => Text.ofGlyphs ((Text.glyphs s).take count)
  | none => s

/-- Bytes in hexadecimal digits. -/
def hexBytes (directive : Directive) (isUpper : Bool) (bytes : Bytes) : String :=
  let bytes := bytes.take (directive.precision.getD bytes.length)
  let digits (byte : UInt8) := String.ofList ((Text.hex 2 byte.toNat).map fun c =>
    if isUpper then c.toUpper else c)
  let mark := if directive.sharp then (if isUpper then "0X" else "0x") else ""
  let body := if bytes.isEmpty then ""
    else if directive.space then " ".intercalate (bytes.map fun byte => mark ++ digits byte)
    else mark ++ String.join (bytes.map digits)
  directive.pad body

/-- The text of a positive number, in the way of a verb. Without a precision, `e` and `f` have six
places, and `g` and `x` have as many digits as are needed. -/
def magnitude (directive : Directive) (format : FloatFormat) (significand : Nat) (scale : Int) :
    String :=
  let style : Decimal.Style := Decimal.general
  let exponential (decimal : Decimal) (places : Nat) : String :=
    let digits := decimal.digits ++ List.replicate (places + 1 - decimal.digits.length) 0
    ({ decimal with digits := digits.take (places + 1) } : Decimal).scientific style
  let zero : Decimal := ⟨[0], 1⟩
  let nearest (count : Nat) := if significand = 0 then zero else
    Decimal.nearest significand scale count
  match directive.verb, directive.precision with
  | 'b', _ => Hexadecimal.heldText significand scale
  | 'x', places | 'X', places => Hexadecimal.text significand scale places
  | 'f', places | 'F', places => Decimal.fixed significand scale (places.getD 6)
  | 'e', places | 'E', places => exponential (nearest (places.getD 6 + 1)) (places.getD 6)
  | _, none =>
      if significand = 0 then "0" else (Decimal.shortest format significand scale).text style
  | _, some count =>
      let decimal := nearest (max count 1)
      let limit := if decimal.digits.length < max count 1 ∧ decimal.point ≤ decimal.digits.length
        then decimal.digits.length else max count 1
      if significand = 0 then "0" else decimal.text { style with exponentLimit := limit }

/-- A number as the sharp sign asks for: with a point and, where the verb chooses the digits, with
zeros up to the precision, or else to six digits. All that stands behind the leading zeros counts as
a digit. -/
def pointed (directive : Directive) (text : String) : String :=
  let isHexadecimal := ['x', 'X'].contains directive.verb
  let isBody (c : Char) := c ≠ 'p' && (isHexadecimal || c ≠ 'e')
  let body := text.toList.takeWhile isBody
  let hasPoint := body.contains '.'
  let counted := (body.filter (· ≠ '.')).dropWhile (· = '0')
  let count := if body = ['0'] then 1 else counted.length
  let wanted := if ['v', 'g', 'G', 'x'].contains directive.verb then directive.precision.getD 6
    else 0
  String.ofList body ++ (if hasPoint then "" else ".") ++ copies (wanted - count) '0' ++
    String.ofList (text.toList.drop body.length)

/-- A number in the way of a verb. -/
def number (directive : Directive) (format : FloatFormat) (datum : Datum) : String :=
  let plain := { directive with zero := false }
  match datum with
  | .nan .. => plain.pad (directive.sign false ++ "NaN")
  | .infinite negative => plain.pad ((if negative then "-" else
      if directive.space && !directive.plus then " " else "+") ++ "Inf")
  | .finite negative significand scale =>
      let plainText := directive.magnitude format significand scale
      let text := if directive.sharp && directive.verb ≠ 'b' then directive.pointed plainText
        else plainText
      let text := if ['E', 'G', 'X'].contains directive.verb then text.toUpper else text
      let sign := directive.sign negative
      if directive.zero && !directive.minus then
        sign ++ copies (directive.width.getD 0 - sign.length - text.length) '0' ++ text
      else directive.pad (sign ++ text)

/-- An item of a type, written in the way of no special verb, that a verb does not fit. -/
def misfit (directive : Directive) (type rendered : String) : String :=
  "%!" ++ Text.ofChars [directive.verb] ++ "(" ++ type ++ "=" ++ rendered ++ ")"

/-- The character with a code point; a replacement if there is none. -/
def charOf (n : Int) : Char :=
  if 0 ≤ n ∧ n.toNat.isValidChar then Char.ofNat n.toNat else Text.replacement

/-- A character in single quotes. -/
def quotedChar (directive : Directive) (c : Char) : String :=
  let escape := if directive.plus then Text.escapeNarrow else Text.escape
  let body := if c = '"' then ['"'] else if c = '\'' then ['\\', '\''] else escape c
  String.ofList ('\'' :: body ++ ['\''])

/-- An integer as a code point, with its character if the directive has a sharp sign. -/
def codePointText (directive : Directive) (n : Int) : String :=
  let digits := Text.upperHex (max (directive.precision.getD 0) 4) (n % UInt64.size).toNat
  let isShown := directive.sharp && 0 ≤ n && n.toNat.isValidChar && Text.isPrintable (charOf n)
  "U+" ++ String.ofList digits ++ (if isShown then " '" ++ Text.ofChars [charOf n] ++ "'" else "")

/-- An integer in the way of a verb. -/
def integerText (directive : Directive) (type : String) (n : Int) : String :=
  match directive.verb with
  | 'v' | 'd' => directive.integer 10 false n
  | 'b' => directive.integer 2 false n
  | 'o' | 'O' => directive.integer 8 false n
  | 'x' => directive.integer 16 false n
  | 'X' => directive.integer 16 true n
  | 'c' => directive.pad (Text.ofChars [charOf n])
  | 'q' => directive.pad (directive.quotedChar (charOf n))
  | 'U' => { directive with zero := false }.pad (directive.codePointText n)
  | _ => directive.misfit type (directive.integer 10 false n)

/-- A text in quotes. -/
def quoted (directive : Directive) (s : String) : String :=
  if directive.sharp && Text.allowsBackQuotes s then "\x60" ++ s ++ "\x60"
  else if directive.plus then Text.quoteNarrow s
  else Text.quote s

/-- A text in the way of a verb. -/
def stringText (directive : Directive) (s : String) : String :=
  match directive.verb with
  | 'v' | 's' => directive.pad (directive.cut s)
  | 'q' => directive.pad (directive.quoted (directive.cut s))
  | 'x' => directive.hexBytes false (Text.bytes s)
  | 'X' => directive.hexBytes true (Text.bytes s)
  | _ => directive.misfit "string" (directive.pad (directive.cut s))

/-- A number in the way of a verb, or the mismatch. -/
def numberText (directive : Directive) (type : String) (format : FloatFormat) (datum : Datum) :
    String :=
  if ['v', 'b', 'e', 'E', 'f', 'F', 'g', 'G', 'x', 'X'].contains directive.verb then
    directive.number format datum
  else directive.misfit type ({ directive with verb := 'v' }.number format datum)

/-- A value in the way of a verb. The entries of a list are written one by one. -/
def valueText (directive : Directive) : Value → String
  | .int n => directive.integerText "int" n.toInt
  | .flag b =>
      let text := if b then "true" else "false"
      if directive.verb = 'v' || directive.verb = 't' then directive.pad text
      else directive.misfit "bool" (directive.pad text)
  | .text s => directive.stringText s
  | .single x => directive.numberText "float32" .single x.datum
  | .words ns => Text.bracketed (ns.map fun n => directive.integerText "int" n.toInt)
  | .texts ss => Text.bracketed (ss.map directive.stringText)
  | .absent => "[]"

/-- A value as it is written in a program. -/
def valueLiteral (directive : Directive) (value : Value) : String :=
  let quoted (s : String) := { directive with verb := 'q' }.stringText s
  let listed (entries : List String) :=
    value.kind ++ "\x7b" ++ ", ".intercalate entries ++ "\x7d"
  match value with
  | .text s => quoted s
  | .words ns => listed (ns.map fun n => directive.valueText (.int n))
  | .texts ss => listed (ss.map quoted)
  | .absent => value.kind ++ "(nil)"
  | other => directive.valueText other

/-- An item as it is written in a program. -/
def itemLiteral (directive : Directive) (parameters : Parameters) (item : Item) : String :=
  match item with
  | .value value => directive.valueLiteral value
  | .number x => directive.numberText item.type .double x.datum
  | .byte byte => { directive with sharp := true }.integer 16 false byte.toNat
  | .all =>
      let entry (pair : String × Value) :=
        directive.valueLiteral (.text pair.1) ++ ":" ++ directive.valueLiteral pair.2
      let entries := ", ".intercalate ((Item.entries parameters).map entry)
      item.type ++ "\x7b" ++ entries ++ "\x7d"
  | .nothing => directive.pad "<nil>"

/-- An item in the way of a verb that fits any type or its own. -/
def itemAs (directive : Directive) (parameters : Parameters) (item : Item) : String :=
  match item with
  | .value value => directive.valueText value
  | .number x => directive.numberText item.type .double x.datum
  | .byte byte => directive.integerText item.type byte.toNat
  | .all =>
      let entry (pair : String × Value) :=
        directive.stringText pair.1 ++ ":" ++ directive.valueText pair.2
      "map" ++ Text.bracketed ((Item.entries parameters).map entry)
  | .nothing =>
      if directive.verb = 'v' then directive.pad "<nil>"
      else "%!" ++ Text.ofChars [directive.verb] ++ "(<nil>)"

/-- An item in the way of a directive. With `v`, a sharp sign asks for the item as it is written in
a program, and a plus sign changes nothing. -/
def itemText (directive : Directive) (parameters : Parameters) (item : Item) : String :=
  let plain := { directive with sharp := false, plus := false }
  match directive.verb, directive.sharp with
  | 'T', _ => directive.pad (if item = .nothing then item.type else directive.cut item.type)
  | 'v', true => plain.itemLiteral parameters item
  | 'v', false => plain.itemAs parameters item
  | _, _ => directive.itemAs parameters item

/-- The flags at the front of a directive, and what follows them. -/
def takeFlags (directive : Directive) : List Char → Directive × List Char
  | '#' :: rest => takeFlags { directive with sharp := true } rest
  | '0' :: rest => takeFlags { directive with zero := true } rest
  | '+' :: rest => takeFlags { directive with plus := true } rest
  | '-' :: rest => takeFlags { directive with minus := true } rest
  | ' ' :: rest => takeFlags { directive with space := true } rest
  | rest => (directive, rest)

end Directive

/-- The value of decimal digits. -/
def decimalValue (digits : List Char) : Nat :=
  digits.foldl (fun n c => n * 10 + (c.toNat - '0'.toNat)) 0

/-- A width or precision that is larger than this is not taken. -/
def numberLimit : Nat := 1000000

/-- The natural at the front, if there is one, and what follows it. A number that goes on beyond the
limit takes the rest of the format with it. -/
def takeNatural (cs : List Char) : Option Nat × List Char :=
  let digits := cs.takeWhile Char.isDigit
  if digits.isEmpty then (none, cs)
  else if numberLimit < decimalValue digits.dropLast then (none, [])
  else (some (decimalValue digits), cs.drop digits.length)

/-- Where the reading of a format stands: what is left of it, the position of the next item, whether
any position was stated, and whether those of the current directive are good. -/
structure Cursor where
  rest : List Char
  next : Nat := 0
  isReordered : Bool := false
  isGood : Bool := true
deriving DecidableEq

namespace Cursor

/-- The position of an item, counted from one, that stands in brackets, and what follows them.
Without a closing bracket only the opening one is passed. -/
def statedPosition? (cs : List Char) : Option Nat × List Char :=
  let inside := (cs.drop 1).takeWhile (· ≠ ']')
  if cs.length < 3 || cs.length ≤ inside.length + 1 then (none, cs.drop 1)
  else
    match takeNatural inside with
    | (some position, []) => (some position, cs.drop (inside.length + 2))
    | _ => (none, cs.drop (inside.length + 2))

/-- Take over the position at the front, if one is stated, of one of so many items, and tell whether
a number is stated. -/
def takePosition (cursor : Cursor) (count : Nat) : Cursor × Bool :=
  if cursor.rest.head? ≠ some '[' then (cursor, false)
  else
    let (position, rest) := statedPosition? cursor.rest
    match position with
    | some position =>
        if 0 < position && position ≤ count then
          ({ cursor with rest, next := position - 1, isReordered := true }, true)
        else ({ cursor with rest, isReordered := true, isGood := false }, true)
    | none => ({ cursor with rest, isReordered := true, isGood := false }, false)

/-- The integer that a star takes from the items, if the next one is an integer within the limit. -/
def takeItem (cursor : Cursor) (items : List Item) : Option Int × Cursor :=
  let behind := { cursor with rest := cursor.rest.drop 1 }
  match items[cursor.next]? with
  | none => (none, behind)
  | some item =>
      let stated := item.integer?.filter fun n => n.natAbs ≤ numberLimit
      (stated, { behind with next := cursor.next + 1 })

/-- Whether a star comes next. -/
def atStar (cursor : Cursor) : Bool := cursor.rest.head? = some '*'

/-- Take the width of a directive, behind a position if that is so. The result tells whether a
position still stands last, and what is written if the width is bad. -/
def takeWidth (cursor : Cursor) (items : List Item) (directive : Directive) (isPlaced : Bool) :
    Directive × Cursor × Bool × String :=
  if cursor.atStar then
    let (width, behind) := cursor.takeItem items
    let isNegative := width.any (· < 0)
    let widened := { directive with
      width := width.map Int.natAbs, minus := directive.minus || isNegative }
    (widened, behind, false, if width.isNone then "%!(BADWIDTH)" else "")
  else
    let (width, rest) := takeNatural cursor.rest
    let isGood := cursor.isGood && !(isPlaced && width.isSome)
    ({ directive with width }, { cursor with rest, isGood }, isPlaced, "")

/-- Take the precision of a directive, if there is one. The result is as for the width. -/
def takePrecision (cursor : Cursor) (items : List Item) (directive : Directive)
    (isPlaced : Bool) : Directive × Cursor × Bool × String :=
  if cursor.rest.head? ≠ some '.' then (directive, cursor, isPlaced, "")
  else
    let dotted := { cursor with rest := cursor.rest.drop 1, isGood := cursor.isGood && !isPlaced }
    let (placed, isPlaced) := dotted.takePosition items.length
    if placed.atStar then
      let (stated, behind) := placed.takeItem items
      let precision := (stated.filter (0 ≤ ·)).map Int.toNat
      ({ directive with precision }, behind, false,
        if precision.isNone then "%!(BADPREC)" else "")
    else
      let (precision, rest) := takeNatural placed.rest
      ({ directive with precision := some (precision.getD 0) }, { placed with rest }, isPlaced, "")

/-- Take the directive behind a percent sign up to its verb, and what is written if its numbers are
bad. -/
def takeDirective (cursor : Cursor) (items : List Item) : Directive × Cursor × String :=
  let count := items.length
  let (directive, rest) := Directive.takeFlags {} cursor.rest
  let (placed, isPlaced) := { cursor with rest, isGood := true }.takePosition count
  let (directive, wide, isPlaced, badWidth) := placed.takeWidth items directive isPlaced
  let (directive, precise, isPlaced, badPrecision) := wide.takePrecision items directive isPlaced
  let (last, _) := if isPlaced then (precise, true) else precise.takePosition count
  (directive, last, badWidth ++ badPrecision)

end Cursor

/-- The items that a format did not use. -/
def extraText (parameters : Parameters) (items : List Item) : String :=
  let describe (item : Item) := match item with
    | .nothing => "<nil>"
    | item => item.type ++ "=" ++ item.render parameters
  if items.isEmpty then "" else "%!(EXTRA " ++ ", ".intercalate (items.map describe) ++ ")"

/-- The text of a directive with its verb, and the position of the next item. -/
def directiveText (parameters : Parameters) (items : List Item) (cursor : Cursor)
    (directive : Directive) : String × Nat :=
  let refused (reason : String) := "%!" ++ Text.ofChars [directive.verb] ++ reason
  if directive.verb = '%' then ("%", cursor.next)
  else if !cursor.isGood then (refused "(BADINDEX)", cursor.next)
  else
    match items[cursor.next]? with
    | none => (refused "(MISSING)", cursor.next)
    | some item => (directive.itemText parameters item, cursor.next + 1)

/-- The text of a format with its items. The fuel bounds the number of directives. -/
def formatted (parameters : Parameters) (items : List Item) : Nat → Cursor → String
  | 0, _ => ""
  | fuel + 1, cursor =>
      let plain := cursor.rest.takeWhile (· ≠ '%')
      let unused (cursor : Cursor) :=
        if cursor.isReordered then "" else extraText parameters (items.drop cursor.next)
      String.ofList plain ++
        match cursor.rest.drop plain.length with
        | [] => unused cursor
        | _ :: rest =>
            let (directive, cursor, problem) := { cursor with rest }.takeDirective items
            problem ++
              match Text.glyphs (String.ofList cursor.rest) with
              | [] => "%!(NOVERB)" ++ unused cursor
              | verb :: behind =>
                  let (text, next) :=
                    directiveText parameters items cursor { directive with verb := verb.char }
                  let rest := behind.flatMap Text.Glyph.octets
                  text ++ formatted parameters items fuel { cursor with rest, next }

/-- The text of a format with its items. -/
def format (parameters : Parameters) (text : String) (items : List Item) : String :=
  formatted parameters items (text.length + 1) { rest := text.toList }

end StaticNet.Template.Script
