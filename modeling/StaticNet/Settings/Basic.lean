import StaticNet.Journal
import StaticNet.Storage.Plan

/-! # Settings

The settings of a run of the compiler, their defaults, and which of them are valid.
-/

namespace StaticNet

/-- The settings of the compiler. An empty model name stands for the name of the input file, and an
empty template directory for the built-in templates. -/
structure Settings where
  modelName : String := ""
  outputDir : String := "generated_code"
  templateDir : String := ""
  logLevel : String := "info"
  parallelism : Int64 := 0
  alignment : Int64 := 4
  printTable : Bool := false
  printLiveRanges : Bool := false
deriving DecidableEq

/-- A setting with a value that it cannot have. -/
inductive InvalidSetting where
  | logLevel (name : String)
  | parallelism (value : Int64)
  | alignment (value : Int64)
  | outputDir
deriving DecidableEq

/-- The wording of an invalid setting. -/
def InvalidSetting.message (setting : InvalidSetting) : String :=
  let detail := match setting with
    | .logLevel name => "log_level: not a valid logrus Level: " ++ Text.quote name
    | .parallelism value => "parallelism " ++ Text.word value ++ " is negative"
    | .alignment value => "alignment " ++ Text.word value ++ " is not a power of two"
    | .outputDir => "output_dir is empty"
  "invalid configuration: " ++ detail

namespace Settings

/-- The level of the journal entries that are shown; entries at level `info` when the name is not
valid. -/
def level (settings : Settings) : Level := (Level.ofName? settings.logLevel).getD .info

/-- The first setting with a value that it cannot have. -/
def validate (settings : Settings) : Except InvalidSetting Unit := do
  if (Level.ofName? settings.logLevel).isNone then throw (.logLevel settings.logLevel)
  if settings.parallelism < 0 then throw (.parallelism settings.parallelism)
  if settings.alignment ≤ 0 ∨ !Plan.isPowerOfTwo settings.alignment then
    throw (.alignment settings.alignment)
  if settings.outputDir = "" then throw .outputDir

end Settings

end StaticNet
