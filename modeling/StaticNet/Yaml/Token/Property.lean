import StaticNet.Number.Numeral
import StaticNet.Text.Utf8
import StaticNet.Yaml.Token

/-! # Anchors, tags and directives

Anchors and references hold a name. A tag is a handle and a text, in which a percent sign starts an
octet in hexadecimal digits. A directive states the version of a document or the meaning of a
handle.
-/

namespace StaticNet.Yaml

/-- Whether a character may follow the name of an anchor. -/
def endsName (c : Char) : Bool :=
  isWordEnd c || ['?', ':', ',', ']', '\x7d', '%', '@', '\x60'].contains c

/-- The name of the anchor or reference at the place. -/
def takeName : Scan String := do
  let start ← Scan.place
  Scan.skip 1
  let name ← Scan.takeWhile isNameChar
  if name.isEmpty || !endsName (← Scan.char) then Scan.refuse start .expectedName
  return String.ofList name

/-- The characters of the text of a tag. -/
def isTagChar (c : Char) : Bool :=
  isNameChar c || [';', '/', '?', ':', '@', '&', '=', '+', '$', ',', '.', '!', '~', '*', '\'', '(',
    ')', '[', ']', '%'].contains c

/-- The octet at the place: a percent sign and two hexadecimal digits. -/
def takeOctet (start : Place) : Scan UInt8 := do
  Scan.need 3
  match (← get).window.take 3 with
  | ['%', high, low] =>
      match Numeral.digits? 16 [high, low] with
      | some octet =>
          Scan.skip 3
          return UInt8.ofNat octet
      | none => Scan.refuse start .expectedTagOctet
  | _ => Scan.refuse start .expectedTagOctet

/-- So many further octets of a character. -/
def takeTrailingOctets (start : Place) : Nat → Scan Bytes
  | 0 => return []
  | count + 1 => do
      let octet ← takeOctet start
      if !isTrailing octet then Scan.refuse start .badTrailingOctet
      return octet :: (← takeTrailingOctets start count)

/-- The octets of one character. -/
def takeOctets (start : Place) : Scan Bytes := do
  let first ← takeOctet start
  match octetCount? first with
  | none => Scan.refuse start .badLeadingOctet
  | some count => return first :: (← takeTrailingOctets start (count - 1))

/-- The text of a tag. The fuel bounds the number of characters. -/
def takeTagText (start : Place) : Nat → Scan String
  | 0 => return ""
  | fuel + 1 => do
      Scan.need 1
      let c ← Scan.char
      if !isTagChar c then return ""
      let text ← if c = '%' then do pure (Text.ofBytes (← takeOctets start))
        else do
          Scan.skip 1
          pure (String.singleton c)
      return text ++ (← takeTagText start fuel)

/-- The text of a tag; it may be empty only if something stands before it. -/
def takeTagSuffix (start : Place) (isContinued : Bool) : Scan String := do
  let suffix ← takeTagText start ((← get).size + 1)
  if suffix = "" && !isContinued then Scan.refuse start .expectedTagText
  return suffix

/-- A handle: an exclamation mark, a name and, unless this is no handle after all, another
exclamation mark. -/
def takeHandle (start : Place) : Scan String := do
  Scan.need 1
  if (← Scan.char) ≠ '!' then Scan.refuse start .expectedTagMark
  Scan.skip 1
  let name ← Scan.takeWhile isNameChar
  if (← Scan.char) ≠ '!' then return String.ofList ('!' :: name)
  Scan.skip 1
  return String.ofList ('!' :: name ++ ['!'])

/-- Whether a text is a handle with both of its exclamation marks. -/
def isClosedHandle (handle : String) : Bool :=
  1 < handle.length && handle.endsWith "!"

/-- The tag at the place, without a look at what follows it. -/
def takeBareTag (start : Place) : Scan WrittenTag := do
  Scan.need 2
  if (← get).charBehind 1 = '<' then
    Scan.skip 2
    let suffix ← takeTagSuffix start false
    if (← Scan.char) ≠ '>' then Scan.refuse start .expectedTagEnd
    Scan.skip 1
    return ⟨"", suffix⟩
  let handle ← takeHandle start
  if isClosedHandle handle then return ⟨handle, ← takeTagSuffix start false⟩
  let suffix := (handle.drop 1).toString ++ (← takeTagSuffix start true)
  return if suffix = "" then ⟨"", "!"⟩ else ⟨"!", suffix⟩

/-- Refuse what starts at a place unless a word ends here. -/
def expectWordEnd (start : Place) : Scan Unit := do
  Scan.need 1
  if !isWordEnd (← Scan.char) then Scan.refuse start .expectedBlankOrLineEnd

/-- The tag at the place. -/
def takeTag : Scan WrittenTag := do
  let start ← Scan.place
  let tag ← takeBareTag start
  expectWordEnd start
  return tag

/-- The most digits of a number in a version. -/
def versionDigits : Nat := 2

/-- A number in a version. -/
def takeVersionNumber (start : Place) : Scan Nat := do
  let digits ← Scan.takeRun Char.isDigit versionDigits
  Scan.need 1
  if (← Scan.char).isDigit then Scan.refuse start .longVersion
  if digits.isEmpty then Scan.refuse start .expectedVersion
  return (Numeral.digits? 10 digits).getD 0

/-- The version that a directive states. -/
def takeVersion (start : Place) : Scan TokenKind := do
  Scan.skipWhile isBlank
  let major ← takeVersionNumber start
  if (← Scan.char) ≠ '.' then Scan.refuse start .expectedVersionSeparator
  Scan.skip 1
  return .version major (← takeVersionNumber start)

/-- The handle and its meaning that a directive states. -/
def takeTagMeaning (start : Place) : Scan TokenKind := do
  Scan.skipWhile isBlank
  let handle ← takeHandle start
  if handle ≠ "!" && !isClosedHandle handle then Scan.refuse start .expectedTagMark
  Scan.need 1
  if !isBlank (← Scan.char) then Scan.refuse start .expectedBlank
  Scan.skipWhile isBlank
  let meaning ← takeTagSuffix start false
  expectWordEnd start
  return .tagDirective handle meaning

/-- The directive at the place, which takes its whole line. -/
def takeDirective : Scan TokenKind := do
  let start ← Scan.place
  Scan.skip 1
  let name ← Scan.takeWhile isNameChar
  if name.isEmpty then Scan.refuse start .expectedDirectiveName
  if !isWordEnd (← Scan.char) then Scan.refuse start .unexpectedDirectiveCharacter
  let kind ← match String.ofList name with
    | "YAML" => takeVersion start
    | "TAG" => takeTagMeaning start
    | _ => Scan.refuse start .unknownDirective
  Scan.finishLine start
  return kind

end StaticNet.Yaml
