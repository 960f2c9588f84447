import StaticNet.CommandLine.Host
import StaticNet.CommandLine.Options
import StaticNet.Onnx.Compile
import StaticNet.Settings.Reader

/-! # Running the command

The command reads settings and a model, compiles the model, and writes the generated files below
the output directory. What it reports goes to the error stream, and the tables that the settings
ask for go to the output stream.
-/

namespace StaticNet.CommandLine

open Template (Renderer)

/-- The version of the command. -/
def version : String := "v0.1.0-dev"

/-- The name of the model in a file: the file name up to its first dot, unless it starts with one.
-/
def modelNameOf (path : String) : String :=
  let name := (Path.base path).toList
  let stem := name.takeWhile (· ≠ '.')
  String.ofList (if stem.isEmpty then name else stem)

/-- Why no network was generated. -/
inductive GenerateError where
  | templates (fault : FileFault)
  | templatesNotDirectory (path : String)
  | input (fault : FileFault)
  | model (cause : Onnx.ModelError)
  | outputDir (fault : FileFault)
  | file (name : String) (fault : FileFault)
deriving DecidableEq

/-- The wording of a generate error. -/
def GenerateError.message : GenerateError → String
  | .templates fault => "template override dir: " ++ fault.message
  | .templatesNotDirectory path => "template override dir " ++ path ++ " is not a directory"
  | .input fault => "failed to read file: " ++ fault.message
  | .model cause => cause.message
  | .outputDir fault => "create output directory: " ++ fault.message
  | .file name fault => "write " ++ name ++ ": " ++ fault.message

/-- Why no settings were loaded. -/
inductive LoadError where
  | file (fault : FileFault)
  | settings (path : String) (cause : SettingsError)
deriving DecidableEq

/-- The wording of a load error. -/
def LoadError.message : LoadError → String
  | .file fault => "failed to read config: " ++ fault.message
  | .settings path cause => path ++ ": " ++ cause.message

/-- What the command has printed and reported so far. -/
structure Transcript where
  output : String
  journal : Journal

/-- How the command ended. A trap is a fault of the compiler itself. -/
inductive Outcome where
  | finished (code : UInt32) (output errors : String)
  | trapped
deriving DecidableEq

section

variable {m : Type → Type} [Monad m]

/-- A computation that generates a network on a host. -/
abbrev Generating (m : Type → Type) := ExceptT GenerateError (StateT Transcript m)

/-- A file operation as part of generating. -/
def onHost {α : Type} (wrap : FileFault → GenerateError) (action : m (Except FileFault α)) :
    Generating m α := do
  match ← (StateT.lift action : StateT Transcript m _) with
  | .ok result => return result
  | .error fault => throw (wrap fault)

/-- Add to the journal. -/
def recordAll (entries : Journal) : Generating m Unit :=
  modify fun transcript => { transcript with journal := transcript.journal ++ entries }

/-- Add to the output. -/
def print (text : String) : Generating m Unit :=
  modify fun transcript => { transcript with output := transcript.output ++ text }

/-- The user template that shadows a built-in one, if its file can be read. -/
def readOverride (host : Host m) (dir name : String) : Generating m (Option (String × String)) := do
  match ← (StateT.lift (host.readFile (dir ++ "/" ++ Template.fileOf name)) :
      StateT Transcript m _) with
  | .ok bytes => return some (name, Text.ofBytes bytes)
  | .error _ => return none

/-- The renderer of a template directory; without one the built-in templates are used. -/
def rendererOf (host : Host m) (dir : String) : Generating m Renderer := do
  if dir = "" then return Renderer.builtin
  if !(← onHost .templates (host.isDirectory dir)) then throw (.templatesNotDirectory dir)
  let overrides ← (Template.Library.all.map Prod.fst).mapM (readOverride host dir)
  return Renderer.ofOverrides (overrides.filterMap id)

/-- Compile a model and keep its journal, also when it fails. -/
def compileModel (compiler : Compiler) (bytes : Bytes) : Generating m Compilation := do
  let (result, journal) := (Onnx.compile compiler bytes).run.run []
  recordAll journal
  match result with
  | .ok compilation => return compilation
  | .error cause => throw (.model cause)

/-- Generate the network of a model file. -/
def generate (host : Host m) (cancelled : Bool) (settings : Settings) (input : String) :
    Generating m Unit := do
  let renderer ← rendererOf host settings.templateDir
  let bytes ← onHost .input (host.readFile input)
  let compilation ← compileModel
    { modelName := settings.modelName, alignment := settings.alignment, renderer, cancelled } bytes
  if settings.printTable then print compilation.table
  if settings.printLiveRanges then print compilation.chart
  let dir := Path.join settings.outputDir (Text.identifier compilation.modelName)
  onHost .outputDir (host.makeDirectory dir)
  for (name, contents) in compilation.artifacts.files do
    onHost (.file name) (host.writeFile (Path.join dir name) contents)
  recordAll
    [⟨.info, "wrote network", [("dir", dir), ("arena_bytes", Text.word compilation.plan.total)]⟩]

/-- The settings of a configuration file; without one the defaults. -/
def loadSettings (host : Host m) (path : String) : m (Except LoadError Settings) := do
  if path = "" then return .ok {}
  match ← host.readFile path with
  | .error fault => return .error (.file fault)
  | .ok bytes => return (Settings.parse bytes).mapError (.settings path)

/-- Options win over settings, and the model is named after its file when nothing names it. -/
def override (settings : Settings) (options : Options) : Settings :=
  let outputDir := if options.out = "" then settings.outputDir else options.out
  let given := if options.name = "" then settings.modelName else options.name
  let modelName := if given = "" then modelNameOf options.input else given
  { settings with outputDir, modelName }

/-- Whether a failure is a fault of the compiler itself. -/
def GenerateError.isTrap : GenerateError → Bool
  | .model (.convert .trap) => true
  | .model (.compile (.propagate .trap)) => true
  | .model (.compile (.propagateAgain .trap)) => true
  | _ => false

/-- The lines of the entries that a level shows. -/
def shownLines (level : Level) (journal : Journal) : String :=
  String.join ((journal.upTo level).map Entry.line)

/-- Generate a network and report how it went. -/
def generateReported (host : Host m) (cancelled : Bool) (settings : Settings) (input : String) :
    m Outcome := do
  let (result, transcript) ← (generate host cancelled settings input).run.run ⟨"", []⟩
  let shown := shownLines settings.level
  match result with
  | .ok _ => return .finished 0 transcript.output (shown transcript.journal)
  | .error cause =>
      if cause.isTrap then return .trapped
      let entry : Entry := ⟨.error, "code generation failed", [("error", cause.message)]⟩
      return .finished 1 transcript.output (shown (transcript.journal ++ [entry]))

/-- Run the command with the given arguments. -/
def run (host : Host m) (cancelled : Bool) (arguments : List String) : m Outcome := do
  match Options.parse arguments with
  | .error cause =>
      let lead := (cause.message.map (· ++ "\n")).getD ""
      return .finished 2 "" (lead ++ usage)
  | .ok options =>
      if options.version then return .finished 0 ("picogen " ++ version ++ "\n") ""
      if options.input = "" then
        return .finished 2 "" ("picogen: --input is required\n" ++ usage)
      match ← loadSettings host options.config with
      | .error (.settings _ (.refused .trap)) => return .trapped
      | .error cause => return .finished 1 "" ("picogen: " ++ cause.message ++ "\n")
      | .ok settings =>
          generateReported host cancelled (override settings options) options.input

end

end StaticNet.CommandLine
