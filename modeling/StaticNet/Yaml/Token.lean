import StaticNet.Yaml.Source

/-! # Tokens

The tokens of a document. Block collections have a start and an end token although their text has
none, and a key is announced by a token of its own.
-/

namespace StaticNet.Yaml

/-- A tag as it is written: its handle and what follows the handle. A tag without a handle is
written out. -/
structure WrittenTag where
  handle : String
  suffix : String
deriving DecidableEq

/-- What a token is. -/
inductive TokenKind where
  | streamStart
  | streamEnd
  | version (major minor : Nat)
  | tagDirective (handle meaning : String)
  | documentStart
  | documentEnd
  | sequenceStart
  | mappingStart
  | blockEnd
  | openBracket
  | closeBracket
  | openBrace
  | closeBrace
  | item
  | comma
  | key
  | value
  | reference (name : String)
  | anchor (name : String)
  | tag (tag : WrittenTag)
  | scalar (text : String) (isQuoted : Bool)
deriving DecidableEq

/-- A token and the line on which it starts. -/
structure Token where
  kind : TokenKind
  line : Nat
deriving DecidableEq

end StaticNet.Yaml
