import StaticNet.Number.Numeral
import StaticNet.Text.Base64
import StaticNet.Text.Utf8
import StaticNet.Yaml.Node

/-! # The meaning of scalars

A plain scalar may be a null, a truth value, an integer, a number or a time; anything else, and any
quoted scalar, is a text. A tag that is written at a scalar must fit what the scalar looks like.
-/

namespace StaticNet.Yaml

/-- What a scalar means. -/
inductive Meaning where
  | null
  | flag (value : Bool)
  | int (value : Int)
  | number (value : Binary64)
  | time
  | text
deriving DecidableEq

/-- The tag of a meaning. -/
def Meaning.tag : Meaning → String
  | .null => "!!null"
  | .flag _ => "!!bool"
  | .int _ => "!!int"
  | .number _ => "!!float"
  | .time => "!!timestamp"
  | .text => "!!str"

/-- An integer of 64 bits; without a sign it may use all of them. -/
def integer? (cs : List Char) : Option Int := do
  let (sign, body) := Numeral.splitSign cs
  let n ← Numeral.natural? body
  match sign with
  | some negative => Numeral.word? negative n
  | none => if n < UInt64.size then some (n : Int) else none

/-- An integer whose sign stands between the letters of its base and its digits. -/
def innerSigned? (cs : List Char) : Option Int := do
  let (base, body) ← match cs with
    | '0' :: 'b' :: rest => some (2, rest)
    | '0' :: 'o' :: rest => some (8, rest)
    | _ => none
  let (sign, digits) := Numeral.splitSign body
  let n ← if digits.isEmpty then none else Numeral.digits? base digits
  Numeral.word? (← sign) n

/-- One or two digits that make a number within bounds, and what follows them. -/
def shortNumber? (least most : Nat) (cs : List Char) : Option (Nat × List Char) := do
  let digits := (cs.take 2).takeWhile Char.isDigit
  let n ← Numeral.digits? 10 digits
  if digits.isEmpty || n < least || most < n then none else some (n, cs.drop digits.length)

/-- What follows a given character, if it comes first. -/
def behind? (c : Char) (cs : List Char) : Option (List Char) :=
  if cs.head? = some c then some (cs.drop 1) else none

/-- The number of days of a month. -/
def daysIn (year month : Nat) : Nat :=
  if month = 2 then
    if year % 4 = 0 ∧ (year % 100 ≠ 0 ∨ year % 400 = 0) then 29 else 28
  else if [4, 6, 9, 11].contains month then 30
  else 31

/-- What follows a date. -/
def behindDate? (cs : List Char) : Option (List Char) := do
  let yearDigits := cs.takeWhile Char.isDigit
  if yearDigits.length ≠ 4 then none
  let year ← Numeral.digits? 10 yearDigits
  let (month, cs) ← shortNumber? 1 12 (← behind? '-' (cs.drop 4))
  let (_, cs) ← shortNumber? 1 (daysIn year month) (← behind? '-' cs)
  return cs

/-- What follows a time of day. Seconds may have a fraction. -/
def behindClock? (cs : List Char) : Option (List Char) := do
  let (_, cs) ← shortNumber? 0 23 cs
  let (_, cs) ← shortNumber? 0 59 (← behind? ':' cs)
  let (_, cs) ← shortNumber? 0 59 (← behind? ':' cs)
  match cs with
  | mark :: digit :: rest =>
      if (mark = '.' ∨ mark = ',') ∧ digit.isDigit then return rest.dropWhile Char.isDigit
      else return cs
  | _ => return cs

/-- Whether a text is a time zone. -/
def isZone (cs : List Char) : Bool :=
  match cs with
  | ['Z'] => true
  | [sign, h, hour, ':', m, minute] =>
      (sign = '+' || sign = '-') &&
        ((shortNumber? 0 24 [h, hour]).map Prod.snd = some []) &&
        ((shortNumber? 0 60 [m, minute]).map Prod.snd = some [])
  | _ => false

/-- Whether a text is a date, alone or with a time of day. -/
def isTime (cs : List Char) : Bool :=
  match behindDate? cs with
  | none => false
  | some [] => true
  | some (mark :: clock) =>
      if mark = 'T' ∨ mark = 't' then (behindClock? clock).any isZone
      else mark = ' ' && behindClock? (clock.dropWhile (· = ' ')) = some []

/-- The texts with a fixed meaning. -/
def fixedMeaning? (s : String) : Option Meaning :=
  if ["true", "True", "TRUE"].contains s then some (.flag true)
  else if ["false", "False", "FALSE"].contains s then some (.flag false)
  else if ["", "~", "null", "Null", "NULL"].contains s then some .null
  else if [".nan", ".NaN", ".NAN"].contains s then some (.number .invalid)
  else if [".inf", ".Inf", ".INF", "+.inf", "+.Inf", "+.INF"].contains s then
    some (.number (.infinity false))
  else if ["-.inf", "-.Inf", "-.INF"].contains s then some (.number (.infinity true))
  else none

/-- The meaning of a text that starts like a number, which may be a time only if that is allowed.
Underscores between digits are left out. -/
def numericMeaning (allowsTime : Bool) (s : String) : Meaning :=
  match s.toList with
  | [] => .text
  | first :: rest =>
      if first = '.' then (Numeral.number? (first :: rest)).elim .text .number
      else if first.isDigit || first = '-' || first = '+' then
        let plain := (first :: rest).filter (· ≠ '_')
        if allowsTime && isTime (first :: rest) then .time
        else
          match integer? plain, Numeral.decimal? plain, innerSigned? plain with
          | some n, _, _ => .int n
          | none, some x, _ => .number x
          | none, none, some n => .int n
          | none, none, none => .text
      else .text

/-- The meaning of a plain text. -/
def plainMeaning (allowsTime : Bool) (s : String) : Meaning :=
  (fixedMeaning? s).getD (numericMeaning allowsTime s)

/-- Why a scalar does not have the meaning that its tag asks for. -/
inductive TagFault where
  | mismatch (found text wanted : String)
  | notBase64
deriving DecidableEq

/-- The wording of a tag fault. -/
def TagFault.message : TagFault → String
  | .mismatch found text wanted =>
      "yaml: cannot decode " ++ found ++ " \x60" ++ text ++ "\x60 as a " ++ wanted
  | .notBase64 => "yaml: !!binary value contains invalid base64 data"

/-- The text of a scalar that replaces other mappings into its mapping. -/
def mergeText : String := "<<"

/-- The tag of a scalar: the one that is written, or the one of its meaning. -/
def scalarTag (tag : Option String) (text : String) (isQuoted : Bool) : String :=
  tag.getD <|
    if isQuoted then "!!str"
    else if text = mergeText then "!!merge"
    else (plainMeaning true text).tag

/-- A scalar under its tag: what it means and, for a text, the text itself. -/
structure Content where
  tag : String
  meaning : Meaning
  text : String
deriving DecidableEq

/-- What a scalar with a tag holds. Any text may be tagged as a text; under tags that are not known
a scalar is a text. An integer may be tagged as a number. -/
def content (tag text : String) : Except TagFault Content :=
  if tag = "!!binary" then
    match Text.base64? text with
    | some bytes => .ok ⟨tag, .text, Text.ofBytes bytes⟩
    | none => .error .notBase64
  else if ["!!bool", "!!int", "!!float", "!!null", "!!timestamp"].contains tag then
    let meaning := plainMeaning (tag = "!!timestamp") text
    match meaning with
    | .int n =>
        if tag = "!!int" then .ok ⟨tag, meaning, text⟩
        else if tag = "!!float" && n ≤ Int64.maxValue.toInt then
          .ok ⟨tag, .number (.ofInt n), text⟩
        else .error (.mismatch meaning.tag text tag)
    | _ => if meaning.tag = tag then .ok ⟨tag, meaning, text⟩
        else .error (.mismatch meaning.tag text tag)
  else .ok ⟨tag, .text, text⟩

end StaticNet.Yaml
