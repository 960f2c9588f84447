/-! # Syntax faults

What can be wrong with the text of a document, and how it is worded. A fault is found among the
bytes, the characters or the tokens, and a message names the line accordingly.
-/

namespace StaticNet.Yaml

/-- The deepest nesting of blocks or brackets. -/
def depthLimit : Nat := 10000

/-- What is wrong with the text of a document. -/
inductive Problem where
  | leadingOctet
  | incompleteOctets
  | trailingOctet
  | octetCount
  | noCharacter
  | incompleteUnit
  | incompletePair
  | unexpectedSurrogate
  | expectedSurrogate
  | controlCharacter
  | cannotStart
  | tooDeep
  | expectedColon
  | keyNotAllowed
  | valueNotAllowed
  | itemNotAllowed
  | tabInPlain
  | tabInBlock
  | zeroIndentation
  | expectedLineEnd
  | unexpectedMarker
  | unexpectedEnd
  | unknownEscape
  | expectedHexadecimal
  | invalidCode
  | expectedName
  | expectedDirectiveName
  | unexpectedDirectiveCharacter
  | unknownDirective
  | expectedVersionSeparator
  | expectedVersion
  | longVersion
  | expectedTagMark
  | expectedTagEnd
  | expectedTagText
  | expectedTagOctet
  | badLeadingOctet
  | badTrailingOctet
  | expectedBlank
  | expectedBlankOrLineEnd
  | expectedDocumentStart
  | repeatedVersion
  | incompatibleVersion
  | repeatedTagDirective
  | undefinedTagHandle
  | expectedKey
  | expectedItem
  | expectedNode
  | expectedSequenceEnd
  | expectedMappingEnd
  | unknownAnchor (name : String)
deriving DecidableEq

namespace Problem

/-- The wording of a problem. -/
def message : Problem → String
  | .leadingOctet => "invalid leading UTF-8 octet"
  | .incompleteOctets => "incomplete UTF-8 octet sequence"
  | .trailingOctet => "invalid trailing UTF-8 octet"
  | .octetCount => "invalid length of a UTF-8 sequence"
  | .noCharacter => "invalid Unicode character"
  | .incompleteUnit => "incomplete UTF-16 character"
  | .incompletePair => "incomplete UTF-16 surrogate pair"
  | .unexpectedSurrogate => "unexpected low surrogate area"
  | .expectedSurrogate => "expected low surrogate area"
  | .controlCharacter => "control characters are not allowed"
  | .cannotStart => "found character that cannot start any token"
  | .tooDeep => "exceeded max depth of " ++ toString depthLimit
  | .expectedColon => "could not find expected ':'"
  | .keyNotAllowed => "mapping keys are not allowed in this context"
  | .valueNotAllowed => "mapping values are not allowed in this context"
  | .itemNotAllowed => "block sequence entries are not allowed in this context"
  | .tabInPlain => "found a tab character that violates indentation"
  | .tabInBlock => "found a tab character where an indentation space is expected"
  | .zeroIndentation => "found an indentation indicator equal to 0"
  | .expectedLineEnd => "did not find expected comment or line break"
  | .unexpectedMarker => "found unexpected document indicator"
  | .unexpectedEnd => "found unexpected end of stream"
  | .unknownEscape => "found unknown escape character"
  | .expectedHexadecimal => "did not find expected hexdecimal number"
  | .invalidCode => "found invalid Unicode character escape code"
  | .expectedName => "did not find expected alphabetic or numeric character"
  | .expectedDirectiveName => "could not find expected directive name"
  | .unexpectedDirectiveCharacter => "found unexpected non-alphabetical character"
  | .unknownDirective => "found unknown directive name"
  | .expectedVersionSeparator => "did not find expected digit or '.' character"
  | .expectedVersion => "did not find expected version number"
  | .longVersion => "found extremely long version number"
  | .expectedTagMark => "did not find expected '!'"
  | .expectedTagEnd => "did not find the expected '>'"
  | .expectedTagText => "did not find expected tag URI"
  | .expectedTagOctet => "did not find URI escaped octet"
  | .badLeadingOctet => "found an incorrect leading UTF-8 octet"
  | .badTrailingOctet => "found an incorrect trailing UTF-8 octet"
  | .expectedBlank => "did not find expected whitespace"
  | .expectedBlankOrLineEnd => "did not find expected whitespace or line break"
  | .expectedDocumentStart => "did not find expected <document start>"
  | .repeatedVersion => "found duplicate %YAML directive"
  | .incompatibleVersion => "found incompatible YAML document"
  | .repeatedTagDirective => "found duplicate %TAG directive"
  | .undefinedTagHandle => "found undefined tag handle"
  | .expectedKey => "did not find expected key"
  | .expectedItem => "did not find expected '-' indicator"
  | .expectedNode => "did not find expected node content"
  | .expectedSequenceEnd => "did not find expected ',' or ']'"
  | .expectedMappingEnd => "did not find expected ',' or '\x7d'"
  | .unknownAnchor name => "unknown anchor '" ++ name ++ "' referenced"

/-- Whether a problem is that bytes end inside a character. -/
def isCutOff : Problem → Bool
  | .incompleteOctets | .incompleteUnit | .incompletePair => true
  | _ => false

/-- Whether a problem lies in how tokens stand together. -/
def isStructural : Problem → Bool
  | .expectedDocumentStart | .repeatedVersion | .incompatibleVersion | .repeatedTagDirective
  | .undefinedTagHandle | .expectedKey | .expectedItem | .expectedNode | .expectedSequenceEnd
  | .expectedMappingEnd => true
  | _ => false

end Problem

/-- A problem, the line on which the part of the document starts that was being read, and the line
on which the problem was found. Lines are counted from zero. -/
structure SyntaxFault where
  start : Nat
  found : Nat
  problem : Problem
deriving DecidableEq

namespace SyntaxFault

/-- A problem without a line. -/
def placeless (problem : Problem) : SyntaxFault := ⟨0, 0, problem⟩

/-- The line of a fault: where the part that was being read starts, or where the problem was found
when that is the first line. -/
def line (fault : SyntaxFault) : Nat := if fault.start = 0 then fault.found else fault.start

/-- The line that a message mentions. The first line is never mentioned, and a structural problem is
placed one line above its own. -/
def shownLine? (fault : SyntaxFault) : Option Nat :=
  if fault.line = 0 then none
  else if fault.problem.isStructural then some fault.line
  else some (fault.line + 1)

/-- The wording of a syntax fault. -/
def message (fault : SyntaxFault) : String :=
  let place := (fault.shownLine?.map fun line => "line " ++ toString line ++ ": ").getD ""
  "yaml: " ++ place ++ fault.problem.message

end SyntaxFault

end StaticNet.Yaml
