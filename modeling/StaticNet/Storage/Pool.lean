import StaticNet.Graph.Basic
import StaticNet.Journal
import StaticNet.Storage.Buffer
import StaticNet.Text.Identifier

/-! # The buffer pool

Every tensor that is asked for gets one buffer, and every node that is asked for gets one layer
identifier. Names are unique: a name that is taken gets the first free number.
-/

namespace StaticNet

/-- The buffers in order of creation, and the layer identifiers by node id. -/
structure BufferPool where
  buffers : List Buffer
  layers : List (Nat × String)
deriving DecidableEq

/-- Why a tensor cannot be stored. -/
inductive StorageError where
  | unknownShape (tensor : String)
  | unsupportedRank (tensor : String) (shape : Shape)
deriving DecidableEq

/-- The wording of a storage error. -/
def StorageError.message : StorageError → String
  | .unknownShape tensor => "unknown buffer shape: tensor " ++ Text.quote tensor
  | .unsupportedRank tensor shape =>
      "unsupported buffer rank: tensor " ++ Text.quote tensor ++ " has shape " ++ shape.text

/-- The numbered variants of a name; number zero is the name itself. -/
def numberedName (name : String) (number : Nat) : String :=
  if number = 0 then name else name ++ "_" ++ toString number

/-- The first numbered variant of a name that is not taken. -/
def freshName (taken : List String) (name : String) : String :=
  ((List.range (taken.length + 1)).findSome? fun number =>
    let candidate := numberedName name number
    if taken.contains candidate then none else some candidate).getD name

/-- A computation that assigns buffers and reports what it does. -/
abbrev Allocating := StateT BufferPool Logged

namespace BufferPool

/-- The pool without buffers. -/
def empty : BufferPool := ⟨[], []⟩

/-- The buffer of a tensor. -/
def find? (pool : BufferPool) (tensor : String) : Option Buffer :=
  pool.buffers.find? fun buffer => buffer.tensor = tensor

/-- The names of the buffers. -/
def names (pool : BufferPool) : List String := pool.buffers.map Buffer.name

/-- The role of a tensor in a graph. -/
def roleOf (graph : Graph) (tensor : String) : Role :=
  if graph.isInput tensor then .input
  else if graph.isOutput tensor then .output
  else .managed

/-- The buffer that a tensor gets when it has none. -/
def fresh (pool : BufferPool) (graph : Graph) (tensor : String) : Buffer :=
  let role := roleOf graph tensor
  Buffer.ofShape tensor (freshName pool.names (role.stem ++ Text.identifier tensor))
    (graph.knownShape? tensor) role

/-- Add a buffer to the pool. -/
def push (pool : BufferPool) (buffer : Buffer) : BufferPool :=
  { pool with buffers := pool.buffers ++ [buffer] }

/-- The buffer of a tensor, created when it is first asked for. -/
def buffer (graph : Graph) (tensor : String) : Allocating Buffer := do
  let pool ← get
  match pool.find? tensor with
  | some buffer => return buffer
  | none =>
      let buffer := pool.fresh graph tensor
      set (pool.push buffer)
      if buffer.shape.isNone then
        report ⟨.warning, "buffer has unknown shape", [("tensor", tensor)]⟩
      report ⟨.debug, "assigned buffer",
        [("tensor", tensor), ("buffer", buffer.name), ("role", buffer.role.name)]⟩
      return buffer

/-- The buffer of a tensor that the generated code stores. -/
def storedBuffer (graph : Graph) (tensor : String) : ExceptT StorageError Allocating Buffer := do
  let buffer ← buffer graph tensor
  match buffer.shape with
  | none => throw (.unknownShape tensor)
  | some shape =>
      if buffer.form = .unsupported then throw (.unsupportedRank tensor shape)
      return buffer

/-- The layer identifier of a node, chosen when it is first asked for. -/
def layerName (node : Node) : Allocating String := do
  let pool ← get
  match pool.layers.lookup node.id with
  | some identifier => return identifier
  | none =>
      let identifier := freshName (pool.layers.map Prod.snd) (Text.symbol node.name)
      set { pool with layers := pool.layers ++ [(node.id, identifier)] }
      return identifier

end BufferPool

end StaticNet
