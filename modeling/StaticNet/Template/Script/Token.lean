import StaticNet.Number.Numeral
import StaticNet.Template.Basic
import StaticNet.Text.Letter

/-! # Tokens of scripts

The text of a script falls into plain text and actions between double braces. A dash at the inner
side of a brace pair trims the blanks of the neighbouring text, and comments are left out. What is
wrong with the text is itself a token, the last one, so that it counts only when reading gets there.
-/

namespace StaticNet.Template.Script

/-- The words with a meaning of their own. -/
inductive Keyword where
  | part
  | stop
  | next
  | define
  | otherwise
  | finish
  | test
  | loop
  | call
  | scope
deriving DecidableEq

/-- What a token is. -/
inductive TokenKind where
  | fault
  | endOfText
  | text
  | opening
  | closing
  | blank
  | flag
  | character
  | number
  | complex
  | quoted
  | rawQuoted
  | variable
  | field
  | name
  | mark
  | assignment
  | declaration
  | bar
  | openParen
  | closeParen
  | dot
  | nil
  | keyword (keyword : Keyword)
deriving DecidableEq

/-- A token as it is written, at its place. The text of a fault says what is wrong. -/
structure Token where
  kind : TokenKind
  written : String
  place : Place
deriving DecidableEq

namespace Token

/-- The words with a meaning of their own, as they are written. -/
def keywords : List (String × TokenKind) :=
  [ ("block", .keyword .part), ("break", .keyword .stop), ("continue", .keyword .next),
    ("define", .keyword .define), ("else", .keyword .otherwise), ("end", .keyword .finish),
    ("if", .keyword .test), ("range", .keyword .loop), ("template", .keyword .call),
    ("with", .keyword .scope), ("nil", .nil), ("true", .flag), ("false", .flag) ]

/-- A token as messages name it. A long one is cut after ten characters. -/
def described (token : Token) : String :=
  match token.kind with
  | .endOfText => "EOF"
  | .fault => token.written
  | .keyword _ | .dot | .nil => "<" ++ token.written ++ ">"
  | _ =>
      if token.written.length ≤ 10 then Text.quote token.written
      else Text.quote (Text.ofGlyphs ((Text.glyphs token.written).take 10)) ++ "..."

end Token

/-- A glyph at its place. -/
structure Mark where
  glyph : Text.Glyph
  place : Place

/-- The text of a script as glyphs with their places. -/
abbrev PlacedText := List Mark

/-- The place behind a glyph. -/
def behindGlyph (place : Place) (glyph : Text.Glyph) : Place :=
  if glyph.char = '\n' then ⟨place.line + 1, 0⟩
  else ⟨place.line, place.column + glyph.octets.length⟩

/-- Glyphs with their places, the first of which is given, and the place behind them. -/
def placedFrom (place : Place) : List Text.Glyph → PlacedText × Place
  | [] => ([], place)
  | glyph :: rest =>
      let (others, last) := placedFrom (behindGlyph place glyph) rest
      (⟨glyph, place⟩ :: others, last)

/-- The characters of a text. -/
def charsOf (text : PlacedText) : List Char := text.map fun mark => mark.glyph.char

/-- The text of glyphs with places. -/
def writtenText (text : PlacedText) : String := Text.ofGlyphs (text.map Mark.glyph)

/-- The first character of a text. -/
def headChar? (text : PlacedText) : Option Char := text.head?.map fun mark => mark.glyph.char

/-- The longest part at the front whose characters satisfy a test, and what follows it. -/
def splitWhile (test : Char → Bool) (text : PlacedText) : PlacedText × PlacedText :=
  text.span fun mark => test mark.glyph.char

/-- Whether a text starts with the given one. -/
def startsWith (start : List Char) (text : PlacedText) : Bool :=
  charsOf (text.take start.length) = start

/-- The braces that open an action. -/
def opening : List Char := ['\x7b', '\x7b']

/-- The braces that close an action. -/
def closing : List Char := ['\x7d', '\x7d']

/-- Whether a character is a blank. -/
def isBlank (c : Char) : Bool := c = ' ' || c = '\t' || c = '\n' || c = '\r'

/-- Whether a character may stand in a name. -/
def isNameChar (c : Char) : Bool := c = '_' || Text.isLetterOrDigit c

/-- Text without the blanks at its start. -/
def trimStart (text : PlacedText) : PlacedText := (splitWhile isBlank text).2

/-- Text without the blanks at its end. -/
def trimEnd (text : PlacedText) : PlacedText :=
  (text.reverse.dropWhile fun mark => isBlank mark.glyph.char).reverse

/-- Whether an action is closed here, and whether it trims the text behind it. -/
def closingAt? (text : PlacedText) : Option Bool :=
  if (headChar? text).any isBlank && startsWith ('-' :: closing) (text.drop 1) then some true
  else if startsWith closing text then some false
  else none

/-- Whether a name may end here. -/
def endsName (text : PlacedText) : Bool :=
  match headChar? text with
  | none => true
  | some c => isBlank c || ['.', ',', '|', ':', ')', '('].contains c || startsWith closing text

/-- A character with its code point, as messages name it. -/
def codePoint (c : Char) : String :=
  let code := String.ofList (Text.upperHex 4 c.toNat)
  "U+" ++ code ++ (if Text.isPrintable c then " '" ++ Text.ofChars [c] ++ "'" else "")

/-- The number of characters of a quoted text behind its opening quote, the closing quote included.
A backslash protects the next character. -/
def quotedLength? (quote : Char) : PlacedText → Option Nat
  | [] => none
  | mark :: rest =>
      let c := mark.glyph.char
      if c = quote then some 1
      else if c = '\n' then none
      else if c = '\\' then
        match rest with
        | [] => none
        | next :: behind =>
            if next.glyph.char = '\n' then none else (quotedLength? quote behind).map (· + 2)
      else (quotedLength? quote rest).map (· + 1)

/-- A text without its first character, if that satisfies a test. -/
def accept (test : Char → Bool) (text : PlacedText) : PlacedText :=
  if (headChar? text).any test then text.drop 1 else text

/-- The digits behind the letter of a base, and whether they are decimal or hexadecimal. -/
def numberDigits (letter : Option Char) : Char → Bool :=
  match letter with
  | some 'x' | some 'X' => fun c => Numeral.isHexDigit c || c = '_'
  | some 'o' | some 'O' => fun c => ('0' ≤ c && c ≤ '7') || c = '_'
  | some 'b' | some 'B' => fun c => c = '0' || c = '1' || c = '_'
  | _ => fun c => c.isDigit || c = '_'

/-- What follows the number at the front, and whether the number is well-formed: nothing that could
stand in a name may follow it. -/
def behindNumber (text : PlacedText) : PlacedText × Bool :=
  let sign (c : Char) : Bool := c = '+' || c = '-'
  let unsigned := accept sign text
  let letter := if headChar? unsigned = some '0' then headChar? (unsigned.drop 1) else none
  let letter := letter.filter fun c => ['x', 'X', 'o', 'O', 'b', 'B'].contains c
  let digits := numberDigits letter
  let body := if letter.isSome then unsigned.drop 2 else unsigned
  let rest := (splitWhile digits body).2
  let rest := if headChar? rest = some '.' then (splitWhile digits (rest.drop 1)).2 else rest
  let isExponent (c : Char) : Bool := match letter with
    | none => c = 'e' || c = 'E'
    | some 'x' | some 'X' => c = 'p' || c = 'P'
    | _ => false
  let rest := if (headChar? rest).any isExponent then
      (splitWhile (numberDigits none) (accept sign (rest.drop 1))).2
    else rest
  let rest := accept (· = 'i') rest
  if (headChar? rest).any isNameChar then (rest.drop 1, false) else (rest, true)

/-- The token of a kind that takes so many characters at the front, and what follows it. -/
def tokenOf (kind : TokenKind) (place : Place) (count : Nat) (text : PlacedText) :
    Token × PlacedText :=
  (⟨kind, writtenText (text.take count), place⟩, text.drop count)

/-- The number at the front. Two numbers without a blank between them make a complex one. -/
def takeNumber (place : Place) (text : PlacedText) : Token × PlacedText :=
  let countTo (rest : PlacedText) : Nat := text.length - rest.length
  let malformed (rest : PlacedText) : Token × PlacedText :=
    let written := writtenText (text.take (countTo rest))
    (⟨.fault, "bad number syntax: " ++ Text.quote written, place⟩, rest)
  let (rest, isNumber) := behindNumber text
  if !isNumber then malformed rest
  else if (headChar? rest).any fun c => c = '+' || c = '-' then
    let (behind, isSecond) := behindNumber rest
    let written := charsOf (text.take (countTo behind))
    if isSecond && written.getLast? = some 'i' then tokenOf .complex place (countTo behind) text
    else malformed behind
  else tokenOf .number place (countTo rest) text

/-- A name of the given kind behind the first characters of a text. A character that cannot end a
name is a fault. -/
def takeName (kind : TokenKind) (place : Place) (start : Nat) (text : PlacedText) :
    Token × PlacedText :=
  let (name, rest) := splitWhile isNameChar (text.drop start)
  if endsName rest then tokenOf kind place (start + name.length) text
  else (⟨.fault, "bad character " ++ codePoint ((headChar? rest).getD ' '), place⟩, rest)

/-- A quoted text or a character. -/
def takeQuoted (kind : TokenKind) (what : String) (place : Place) (text : PlacedText) :
    Token × PlacedText :=
  match quotedLength? ((headChar? text).getD '"') (text.drop 1) with
  | some length => tokenOf kind place (length + 1) text
  | none => (⟨.fault, "unterminated " ++ what, place⟩, text)

/-- A quoted text in which nothing is escaped. -/
def takeRaw (place : Place) (text : PlacedText) : Token × PlacedText :=
  let (inside, behind) := splitWhile (· ≠ '\x60') (text.drop 1)
  match behind with
  | [] => (⟨.fault, "unterminated raw quoted string", place⟩, [])
  | _ :: _ => tokenOf .rawQuoted place (inside.length + 2) text

/-- Blanks up to the next part of an action. The last one is left if it belongs to the closing
braces. -/
def takeBlanks (place : Place) (text : PlacedText) : Token × PlacedText :=
  let (blanks, behind) := splitWhile isBlank text
  let kept := if startsWith ('-' :: closing) behind then 1 else 0
  tokenOf .blank place (blanks.length - kept) text

/-- The token at the front of the inside of an action that is not closed here, and what follows
it. -/
def takeToken (place : Place) (text : PlacedText) : Token × PlacedText :=
  let one (kind : TokenKind) := tokenOf kind place 1 text
  let next := headChar? (text.drop 1)
  match headChar? text with
  | none => (⟨.fault, "unclosed action", place⟩, [])
  | some '=' => one .assignment
  | some '|' => one .bar
  | some '(' => one .openParen
  | some ')' => one .closeParen
  | some '"' => takeQuoted .quoted "quoted string" place text
  | some '\'' => takeQuoted .character "character constant" place text
  | some '\x60' => takeRaw place text
  | some '$' => takeName .variable place 1 text
  | some ':' =>
      if next = some '=' then tokenOf .declaration place 2 text
      else (⟨.fault, "expected :=", place⟩, text)
  | some c =>
      if isBlank c then takeBlanks place text
      else if c = '.' && next.any fun d => !d.isDigit then
        if endsName (text.drop 1) then one .dot else takeName .field place 1 text
      else if c.isDigit || c = '.' || c = '+' || c = '-' then takeNumber place text
      else if isNameChar c then
        let (token, rest) := takeName .name place 0 text
        ({ token with kind := (Token.keywords.lookup token.written).getD token.kind }, rest)
      else if c.toNat < 0x80 && Text.isPrintable c then one .mark
      else (⟨.fault, "unrecognized character in action: " ++ codePoint c, place⟩, text)

/-- The text up to the first opening braces, and the text from them on. -/
def splitText : PlacedText → PlacedText × PlacedText
  | [] => ([], [])
  | mark :: rest =>
      if startsWith opening (mark :: rest) then ([], mark :: rest)
      else
        let (before, behind) := splitText rest
        (mark :: before, behind)

/-- The token of a text, if there is any text. -/
def textToken (text : PlacedText) : List Token :=
  match text with
  | [] => []
  | mark :: _ => [⟨.text, writtenText text, mark.place⟩]

/-- What follows the comment whose inside is at the front, or what is wrong with it. -/
def behindComment : PlacedText → Except String PlacedText
  | [] => .error "unclosed comment"
  | mark :: rest =>
      if startsWith ['*', '/'] (mark :: rest) then
        match closingAt? (rest.drop 1) with
        | some true => .ok (trimStart (rest.drop 5))
        | some false => .ok (rest.drop 3)
        | none => .error "comment ends before closing delimiter"
      else behindComment rest

/-- The parentheses that are open behind a token. -/
def openBehind (depth : Nat) (kind : TokenKind) : Nat :=
  match kind with
  | .openParen => depth + 1
  | .closeParen => depth - 1
  | _ => depth

mutual

/-- The tokens of a text outside of actions, which ends at the given place. The fuel bounds their
number. -/
def textTokens (last : Place) : Nat → PlacedText → List Token
  | 0, _ => []
  | fuel + 1, text =>
      let (before, behind) := splitText text
      match behind with
      | [] => textToken before ++ [⟨.endOfText, "", last⟩]
      | first :: _ =>
          let inside := behind.drop 2
          let trims := headChar? inside = some '-' && (headChar? (inside.drop 1)).any isBlank
          let inside := if trims then inside.drop 2 else inside
          let shown := textToken (if trims then trimEnd before else before)
          if startsWith ['/', '*'] inside then
            match behindComment (inside.drop 2) with
            | .ok rest => shown ++ textTokens last fuel rest
            | .error detail =>
                shown ++ [⟨.fault, detail, (inside.head?.map Mark.place).getD last⟩]
          else
            shown ++ ⟨.opening, String.ofList opening, first.place⟩ ::
              actionTokens last fuel 0 inside

/-- The tokens from the inside of an action on, in which so many parentheses are open. -/
def actionTokens (last : Place) : Nat → Nat → PlacedText → List Token
  | 0, _, _ => []
  | fuel + 1, depth, text =>
      let place := (text.head?.map Mark.place).getD last
      match closingAt? text with
      | some trims =>
          if depth ≠ 0 then [⟨.fault, "unclosed left paren", place⟩]
          else
            let rest := text.drop (if trims then 4 else 2)
            ⟨.closing, String.ofList closing, place⟩ ::
              textTokens last fuel (if trims then trimStart rest else rest)
      | none =>
          let (token, rest) := takeToken place text
          if token.kind = .fault then [token]
          else if token.kind = .closeParen && depth = 0 then
            [⟨.fault, "unexpected right paren", place⟩]
          else token :: actionTokens last fuel (openBehind depth token.kind) rest

end

/-- The tokens of a script. -/
def tokens (source : String) : List Token :=
  let (text, last) := placedFrom {} (Text.glyphs source)
  textTokens last (2 * text.length + 2) text

end StaticNet.Template.Script
