import StaticNet.Template.Library
import StaticNet.Template.Script.Evaluation
import StaticNet.Text.Path

/-! # Rendering by template name

A renderer holds the user templates, which are scripts that shadow the built-in templates. Template
names are paths, so equivalent spellings of a name find the same template.
-/

namespace StaticNet.Template

/-- Why a template name has no text. -/
inductive RenderError where
  | notFound (name : String)
  | malformed (name : String) (cause : Script.ParseFault)
  | failed (name : String) (cause : Fault)
  | aborted (name : String) (cause : Script.Fault)
deriving DecidableEq

/-- Where in the template of a name, in which part of it and at what rendering failed. -/
def failedAt (name : String) (place : Place) (executing part : String) : String :=
  let spot := name ++ ":" ++ toString place.line ++ ":" ++ toString place.column
  "render " ++ name ++ ": template: " ++ spot ++ ": executing " ++ Text.quote executing ++
    " at <" ++ part ++ ">: "

/-- The wording of a render error. -/
def RenderError.message : RenderError → String
  | .notFound name => name ++ ": template not found"
  | .malformed name cause => "parse template " ++ name ++ ": " ++ cause.message name
  | .failed name cause => failedAt name cause.place name cause.part ++ cause.cause.message
  | .aborted name cause =>
      failedAt name cause.place cause.executing cause.part ++ cause.cause.message

/-- The ending of the files that hold templates. -/
def fileEnding : String := ".tmpl"

/-- The file of the template of a name. -/
def fileOf (name : String) : String := Path.clean name ++ fileEnding

/-- User templates by file, relative to the directory that holds them. -/
structure Renderer where
  overrides : Dict String

namespace Renderer

/-- The renderer of the built-in templates. -/
def builtin : Renderer := ⟨.empty⟩

/-- The renderer in which the given texts shadow the built-in templates. Each text is kept in a file
that is named like the template; a file outside of the directory shadows nothing. -/
def ofOverrides (texts : List (String × String)) : Renderer :=
  ⟨Dict.ofList (texts.map fun entry => (Path.join "." (entry.1 ++ fileEnding), entry.2))⟩

/-- The script that shadows the template of a name. -/
def script? (renderer : Renderer) (name : String) : Option String :=
  if Path.isProper (fileOf name) then renderer.overrides.get? (fileOf name) else none

/-- The built-in template of a name. -/
def lookup (name : String) : Except RenderError (List Piece) :=
  if !Path.isProper (fileOf name) then .error (.notFound name)
  else
    match Library.find? (Path.clean name) with
    | some pieces => .ok pieces
    | none => .error (.notFound name)

/-- The text of the template of a name; the empty name has no text. -/
def render (renderer : Renderer) (name : String) (parameters : Parameters) :
    Except RenderError String :=
  if name = "" then .ok ""
  else
    match renderer.script? name with
    | some source => do
        let script ← (Script.parse name source).mapError (.malformed name)
        (script.fill name parameters).mapError (.aborted name)
    | none => do
        let pieces ← lookup name
        (fill pieces parameters).mapError (.failed name)

end Renderer

end StaticNet.Template
