import StaticNet.Settings.Basic
import StaticNet.Yaml.Node.Parser
import StaticNet.Yaml.Resolve

/-! # Reading settings

Settings are read from a mapping on top of the defaults. A null keeps the default. All faults of the
mapping are reported, but none of its entries once a key is given twice. A merge key takes in the
entries of other mappings, of which those count that the mapping does not have itself.
-/

namespace StaticNet

open Yaml (Content Meaning)

/-- The types of settings. -/
inductive SettingType where
  | text
  | int
  | int64
  | flag
  | record
deriving DecidableEq

/-- The name of a setting type in messages. -/
def SettingType.name : SettingType → String
  | .text => "string"
  | .int => "int"
  | .int64 => "int64"
  | .flag => "bool"
  | .record => "config.Config"

/-- A fault of the mapping that settings are read from. -/
inductive SettingFault where
  | unknown (line : Nat) (name : String)
  | repeated (line : Nat) (name : String) (first : Nat)
  | setTwice (line : Nat) (name : String)
  | wrongType (line : Nat) (tag text : String) (type : SettingType)
deriving DecidableEq

/-- A text in a message; a long one is cut after seven bytes. -/
def shortened (s : String) : String :=
  let bytes := Text.bytes s
  if 10 < bytes.length then Text.ofBytes (bytes.take 7) ++ "..." else s

/-- The wording of a setting fault. Behind the tag of a collection the text follows as it is; that
of a collection itself is empty. -/
def SettingFault.message : SettingFault → String
  | .unknown line name =>
      "line " ++ toString line ++ ": field " ++ name ++ " not found in type config.Config"
  | .repeated line name first =>
      "line " ++ toString line ++ ": mapping key " ++ Text.quote name ++
        " already defined at line " ++ toString first
  | .setTwice line name =>
      "line " ++ toString line ++ ": field " ++ name ++ " already set in type config.Config"
  | .wrongType line tag text type =>
      let isCollection := tag = "!!seq" || tag = "!!map"
      let shown := if isCollection then text else " \x60" ++ shortened text ++ "\x60"
      "line " ++ toString line ++ ": cannot unmarshal " ++ tag ++ shown ++ " into " ++ type.name

/-- Why a document holds no settings at all. A trap is a fault of the reader itself. -/
inductive DocumentFault where
  | tag (fault : Yaml.TagFault)
  | containsItself (name : String)
  | mergeKind
  | aliasing
  | trap
deriving DecidableEq

/-- The wording of a document fault. -/
def DocumentFault.message : DocumentFault → String
  | .tag fault => fault.message
  | .containsItself name => "yaml: anchor '" ++ name ++ "' value contains itself"
  | .mergeKind => "yaml: map merge requires map or sequence of maps as the value"
  | .aliasing => "yaml: document contains excessive aliasing"
  | .trap => ""

/-- Why settings cannot be read. -/
inductive SettingsError where
  | malformed (fault : Yaml.SyntaxFault)
  | refused (fault : DocumentFault)
  | faulty (faults : List SettingFault)
  | invalid (setting : InvalidSetting)
deriving DecidableEq

/-- The wording of a settings error. -/
def SettingsError.message : SettingsError → String
  | .malformed fault => "failed to decode config: " ++ fault.message
  | .refused fault => "failed to decode config: " ++ fault.message
  | .faulty faults =>
      "failed to decode config: yaml: unmarshal errors:\n  " ++
        "\n  ".intercalate (faults.map SettingFault.message)
  | .invalid setting => setting.message

namespace Settings

/-- The settings that were read so far, what is wrong with them, the number of nodes that were read,
the number of those that were reached by way of references, and the number of references that are
being followed. -/
structure Progress where
  settings : Settings
  faults : List SettingFault := []
  nodeCount : Nat := 0
  referredCount : Nat := 0
  depth : Nat := 0

/-- A computation that reads settings. -/
abbrev Reading := StateT Progress (Except DocumentFault)

/-- Report faults. -/
def report (faults : List SettingFault) : Reading Unit :=
  modify fun progress => { progress with faults := progress.faults ++ faults }

/-- Change the settings. -/
def change (update : Settings → Settings) : Reading Unit :=
  modify fun progress => { progress with settings := update progress.settings }

/-- Whether too many of the nodes that were read were reached by way of references. Up to 400 000
nodes it may be 99 of 100, from 4 000 000 nodes on 10 of 100, and in between the share falls
evenly. -/
def isExcessive (nodeCount referredCount : Nat) : Bool :=
  let range := 3600000
  let beyond := min (nodeCount - 400000) range
  100 < referredCount && 1000 < nodeCount &&
    nodeCount * (99 * range - 89 * beyond) < 100 * range * referredCount

/-- Count a node that is read. -/
def visit : Reading Unit := do
  modify fun progress =>
    { progress with
      nodeCount := progress.nodeCount + 1
      referredCount := progress.referredCount + min progress.depth 1 }
  let progress ← get
  if isExcessive progress.nodeCount progress.referredCount then throw .aliasing

/-- Follow a reference. -/
def follow {α : Type} (read : Reading α) : Reading α := do
  visit
  modify fun progress => { progress with depth := progress.depth + 1 }
  let result ← read
  modify fun progress => { progress with depth := progress.depth - 1 }
  return result

/-- The text by which a key is compared with others of its kind. -/
def keyText : Yaml.Node → Nat × String
  | .scalar _ _ text _ => (0, text)
  | .sequence _ _ _ => (1, "")
  | .mapping _ _ _ => (2, "")
  | .reference _ name _ _ => (3, name)

/-- The keys that are given again after their first line. -/
def repeatedKeys : List Yaml.Node → List SettingFault
  | [] => []
  | key :: rest =>
      (rest.filter fun other => keyText other = keyText key).map
        (fun other => SettingFault.repeated other.line (keyText other).2 key.line) ++
          repeatedKeys rest

/-- What a scalar holds under its tag. -/
def contentOf (tag : Option String) (text : String) (isQuoted : Bool) :
    Except DocumentFault Content :=
  (Yaml.content (Yaml.scalarTag tag text isQuoted) text).mapError .tag

/-- The scalar that a node holds where a value of some type is asked for. A null holds none, and a
collection is a fault. -/
def scalarOf (type : SettingType) : Yaml.Node → Reading (Option Content)
  | .scalar _ tag text isQuoted => do
      visit
      let content ← contentOf tag text isQuoted
      return if content.meaning = .null then none else some content
  | .sequence line tag _ => do
      visit
      report [.wrongType line (tag.getD "!!seq") "" type]
      return none
  | .mapping line tag entries => do
      visit
      let again := repeatedKeys (entries.map Prod.fst)
      report (if again.isEmpty then [.wrongType line (tag.getD "!!map") "" type] else again)
      return none
  | .reference _ _ target _ => follow (scalarOf type target)

/-- The node that a reference stands for. -/
def target : Yaml.Node → Yaml.Node
  | .reference _ _ node _ => target node
  | node => node

/-- Report that the scalar of a node has the wrong type. -/
def refuse (node : Yaml.Node) (type : SettingType) : Reading Unit :=
  match target node with
  | .scalar line tag text isQuoted =>
      report [.wrongType line (Yaml.scalarTag tag text isQuoted) text type]
  | _ => pure ()

/-- Whether a number is small enough to be taken as an integer. -/
def isWithinWord (x : Binary64) : Bool :=
  match x.floor? with
  | some n => n ≤ Int64.maxValue.toInt + 1
  | none => x = .infinity true

/-- The word that a meaning stands for; a number is cut to its integer part. -/
def wordOf? : Meaning → Option Int64
  | .int n => if n ≤ Int64.maxValue.toInt then some (Int64.ofInt n) else none
  | .number x => if isWithinWord x then some x.toWord else none
  | _ => none

/-- The texts that stand for truth values where one is asked for. -/
def flagText? (s : String) : Option Bool :=
  if ["y", "Y", "yes", "Yes", "YES", "on", "On", "ON"].contains s then some true
  else if ["n", "N", "no", "No", "NO", "off", "Off", "OFF"].contains s then some false
  else none

/-- The truth value that a scalar stands for. -/
def flagOf? (content : Content) : Option Bool :=
  match content.meaning with
  | .flag b => some b
  | .text => flagText? content.text
  | _ => none

/-- Read a value of some type and set it. A value that the type does not have is a fault. -/
def setting {α : Type} (type : SettingType) (value : Yaml.Node) (convert? : Content → Option α)
    (set : α → Settings → Settings) : Reading Unit := do
  match ← scalarOf type value with
  | none => pure ()
  | some content =>
      match convert? content with
      | some converted => change (set converted)
      | none => refuse value type

/-- How the setting of a name takes over a value, if there is such a setting. -/
def setter? (name : String) : Option (Yaml.Node → Reading Unit) :=
  let text (value : Yaml.Node) := setting .text value fun content => some content.text
  let word (type : SettingType) (value : Yaml.Node) := setting type value fun content =>
    wordOf? content.meaning
  let flag (value : Yaml.Node) := setting .flag value flagOf?
  match name with
  | "model_name" => some fun value => text value fun x s => { s with modelName := x }
  | "output_dir" => some fun value => text value fun x s => { s with outputDir := x }
  | "template_dir" => some fun value => text value fun x s => { s with templateDir := x }
  | "log_level" => some fun value => text value fun x s => { s with logLevel := x }
  | "parallelism" => some fun value => word .int value fun x s => { s with parallelism := x }
  | "alignment" => some fun value => word .int64 value fun x s => { s with alignment := x }
  | "print_table" => some fun value => flag value fun x s => { s with printTable := x }
  | "print_live_ranges" => some fun value => flag value fun x s => { s with printLiveRanges := x }
  | _ => none

/-- Whether a key asks for other mappings to be merged in. -/
def isMerge : Yaml.Node → Bool
  | .scalar _ tag text isQuoted =>
      text = Yaml.mergeText && Yaml.scalarTag tag text isQuoted = "!!merge"
  | _ => false

/-- The name that a key stands for, if it is one. A collection cannot be told from other keys, but
one that gives a key twice is no key at all. -/
def keyName? : Yaml.Node → Reading (Option String)
  | .scalar _ tag text isQuoted => do
      visit
      let content ← contentOf tag text isQuoted
      return if content.meaning = .text then some content.text else none
  | .sequence _ _ _ => throw .trap
  | .mapping _ _ entries => do
      visit
      let again := repeatedKeys (entries.map Prod.fst)
      if again.isEmpty then throw .trap
      report again
      return none
  | .reference _ _ target _ => follow (keyName? target)

/-- The names of a mapping that were read so far: those that no longer count, because they stand in
a mapping that it is merged into, if it is, and those that it has set itself. -/
structure Seen where
  hidden : Option (List String)
  done : List String

/-- Read one entry of a mapping. -/
def readEntry (seen : Seen) (key value : Yaml.Node) : Reading Seen := do
  match ← scalarOf .text key with
  | none => return seen
  | some content =>
      let name := content.text
      if seen.hidden.any (·.contains name) then return seen
      let hidden := seen.hidden.map (name :: ·)
      match setter? name with
      | none =>
          report [.unknown key.line name]
          return { seen with hidden }
      | some setter =>
          if seen.done.contains name then
            report [.setTwice key.line name]
            return { seen with hidden }
          setter value
          return ⟨hidden, name :: seen.done⟩

mutual

/-- Read the entries of a mapping and then those of the mappings that it merges in. The result are
the names that no longer count in mappings of the same merge. The fuel bounds the depth of
merges. -/
def readEntries (hidden : Option (List String)) (entries : List (Yaml.Node × Yaml.Node)) :
    Nat → Reading (Option (List String))
  | 0 => pure hidden
  | fuel + 1 => do
      visit
      let again := repeatedKeys (entries.map Prod.fst)
      if !again.isEmpty then
        report again
        return hidden
      let own := entries.filter fun entry => !isMerge entry.1
      let seen ← own.foldlM (fun seen (key, value) => readEntry seen key value) ⟨hidden, []⟩
      match entries.find? fun entry => isMerge entry.1 with
      | none => return seen.hidden
      | some (_, merged) =>
          match seen.hidden with
          | some names => return some (← readMerged names merged fuel)
          | none =>
              let names ← entries.filterMapM fun entry => keyName? entry.1
              let _ ← readMerged names merged fuel
              return none
termination_by structural fuel => fuel

/-- Read the entries of mappings that are merged in. -/
def readMerged (names : List String) (merged : Yaml.Node) : Nat → Reading (List String)
  | 0 => pure names
  | fuel + 1 =>
      match merged with
      | .sequence _ _ items => items.foldlM (fun names item => readMapping names item fuel) names
      | node => readMapping names node fuel
termination_by structural fuel => fuel

/-- Read the entries of one mapping that is merged in. -/
def readMapping (names : List String) (node : Yaml.Node) : Nat → Reading (List String)
  | 0 => pure names
  | fuel + 1 =>
      match node with
      | .mapping _ _ entries => do
          return (← readEntries (some names) entries fuel).getD names
      | .reference _ name (.mapping _ _ entries) isEnclosing => do
          if isEnclosing then throw (.containsItself name)
          return (← follow (readEntries (some names) entries fuel)).getD names
      | _ => throw .mergeKind
termination_by structural fuel => fuel

end

/-- Read the settings of a document, which counts as a node itself. -/
def readRoot (fuel : Nat) (root : Yaml.Node) : Reading Unit := do
  visit
  match root with
  | .mapping _ _ entries =>
      let _ ← readEntries none entries fuel
  | node =>
      if let some _ ← scalarOf .record node then refuse node .record

/-- Read settings from the bytes of a document. -/
def parse (bytes : Bytes) : Except SettingsError Settings := do
  let document ← (Yaml.parse bytes).mapError .malformed
  let reading := document.elim (pure ()) (readRoot (8 * bytes.length + 16))
  let (_, progress) ← (reading.run { settings := {} }).mapError .refused
  if !progress.faults.isEmpty then throw (.faulty progress.faults)
  progress.settings.validate.mapError .invalid
  return progress.settings

end Settings

end StaticNet
