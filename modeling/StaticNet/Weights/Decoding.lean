import StaticNet.Text.Quoted
import StaticNet.Weights.Encoding

/-! # Reading weights files

A weights file is read against its layout. Element counts are machine products of the dimension
fields; a count of zero marks a tensor that an earlier layer holds.
-/

namespace StaticNet

/-- How the data ended before a read was complete: with nothing read, or in the middle. -/
inductive ShortRead where
  | nothing
  | part
deriving DecidableEq

/-- The wording of a short read. -/
def ShortRead.message : ShortRead → String
  | .nothing => "EOF"
  | .part => "unexpected EOF"

/-- Why a layer cannot be read. -/
inductive LayerReadError where
  | short (cause : ShortRead)
  | otherLayer (name op : Bytes)
  | unsupportedRank (rank : Int)
  | shortDims (tensor : String) (cause : ShortRead)
  | shortData (tensor : String) (cause : ShortRead)
  | shortBiasCount (cause : ShortRead)
  | biasCount (found : Nat)
  | trap
deriving DecidableEq

/-- Why a weights file cannot be read. -/
inductive WeightsReadError where
  | shortMagic (cause : ShortRead)
  | otherMagic (found : Bytes)
  | shortModel (cause : ShortRead)
  | otherModel (found : Bytes) (expected : String)
  | shortLayerCount (cause : ShortRead)
  | layerCount (found expected : Nat)
  | layer (name : String) (cause : LayerReadError)
  | noEnd
deriving DecidableEq

/-- The wording that all mismatches with the layout share. -/
def layoutMismatch : String := ": weights do not match layout"

/-- The wording of a layer read error. -/
def LayerReadError.message : LayerReadError → String
  | .short cause => cause.message
  | .otherLayer name op =>
      "found " ++ Text.ofBytes name ++ " (" ++ Text.ofBytes op ++ ")" ++ layoutMismatch
  | .unsupportedRank rank => WeightsRankError.reason rank
  | .shortDims tensor cause => "failed to read dims of " ++ tensor ++ ": " ++ cause.message
  | .shortData tensor cause => "failed to read data of " ++ tensor ++ ": " ++ cause.message
  | .shortBiasCount cause => "failed to read bias count: " ++ cause.message
  | .biasCount found => "bias count " ++ toString found ++ layoutMismatch
  | .trap => "trap"

/-- The wording of a weights read error. -/
def WeightsReadError.message : WeightsReadError → String
  | .shortMagic cause => "failed to read magic bytes: " ++ cause.message
  | .otherMagic found => "got " ++ Text.quote (Text.ofBytes found) ++ ": invalid magic bytes"
  | .shortModel cause => "failed to read model name: " ++ cause.message
  | .otherModel found expected =>
      "model name " ++ Text.quote (Text.ofBytes found) ++ ", expected " ++ Text.quote expected ++
        layoutMismatch
  | .shortLayerCount cause => "failed to read layer count: " ++ cause.message
  | .layerCount found expected =>
      toString found ++ " layers, expected " ++ toString expected ++ layoutMismatch
  | .layer name cause => "layer " ++ name ++ ": " ++ cause.message
  | .noEnd => "missing end marker"

/-- A tensor of a weights file. A repeated tensor has no elements of its own. -/
structure WeightsEntry where
  tensor : String
  dims : List UInt32
  data : List Binary32
  repeated : Bool
deriving DecidableEq

/-- A layer of a weights file. -/
structure WeightsLayer where
  name : String
  op : String
  entries : List WeightsEntry
  zeroBias : Bool
deriving DecidableEq

/-- The contents of a weights file. -/
structure WeightsFile where
  model : String
  layers : List WeightsLayer
deriving DecidableEq

namespace Weights

/-- Read a number of bytes. -/
def takeBytes (count : Nat) (bytes : Bytes) : Except ShortRead (Bytes × Bytes) :=
  if count ≤ bytes.length then .ok (bytes.take count, bytes.drop count)
  else if bytes.isEmpty then .error .nothing
  else .error .part

/-- Read a line, without its end. -/
def takeLine (bytes : Bytes) : Except ShortRead (Bytes × Bytes) :=
  if bytes.contains 0x0a then
    .ok (bytes.takeWhile (· ≠ 0x0a), (bytes.dropWhile (· ≠ 0x0a)).drop 1)
  else .error .nothing

/-- Read a number of words. -/
def takeWords (count : Nat) (bytes : Bytes) : Except ShortRead (List UInt32 × Bytes) := do
  let (taken, rest) ← takeBytes (4 * count) bytes
  return ((Bytes.blocks 4 taken).map fun block => UInt32.ofNat block.toNat, rest)

/-- The machine product of dimension fields. -/
def fieldProduct (dims : List UInt32) : Int64 :=
  dims.foldl (fun product dim => product * Int64.ofNat dim.toNat) 1

/-- Read the elements of a tensor with the given dimension fields. A count beyond every reservation
is more than the data can hold, so that it shows where the data ends. -/
def takeEntry (tensor : String) (dims : List UInt32) (bytes : Bytes) :
    Except LayerReadError (WeightsEntry × Bytes) :=
  let count := fieldProduct dims
  if count = 0 then .ok (⟨tensor, dims, [], true⟩, bytes)
  else if count < 0 then .error .trap
  else
    match takeWords count.toInt.toNat bytes with
    | .ok (words, rest) => .ok (⟨tensor, dims, words.map Binary32.mk, false⟩, rest)
    | .error cause =>
        if largestReservation < 4 * count.toInt.toNat then .error .trap
        else .error (.shortData tensor cause)

/-- Read the tensors of a layer; every tensor needs a rank. -/
def takeEntries : List String → List Int → Bytes →
    Except LayerReadError (List WeightsEntry × Bytes)
  | [], _, bytes => .ok ([], bytes)
  | _ :: _, [], _ => .error .trap
  | tensor :: tensors, rank :: ranks, bytes =>
      match dimensionCount? rank with
      | none => .error (.unsupportedRank rank)
      | some fields => do
          let (dims, rest) ← (takeWords fields bytes).mapError (.shortDims tensor)
          let (entry, rest) ← takeEntry tensor dims rest
          let (entries, rest) ← takeEntries tensors ranks rest
          return (entry :: entries, rest)

/-- Read the count of biases, which must be zero. -/
def takeZero (bytes : Bytes) : Except LayerReadError Bytes := do
  let (words, rest) ← (takeWords 1 bytes).mapError .shortBiasCount
  let found := (words.headD 0).toNat
  if found ≠ 0 then throw (.biasCount found)
  return rest

/-- Read a layer. -/
def takeLayer (layout : LayerLayout) (bytes : Bytes) :
    Except LayerReadError (WeightsLayer × Bytes) := do
  let (name, bytes) ← (takeLine bytes).mapError .short
  let (op, bytes) ← (takeLine bytes).mapError .short
  if name ≠ Text.bytes layout.name ∨ op ≠ Text.bytes layout.op then throw (.otherLayer name op)
  let (entries, bytes) ← takeEntries layout.tensors layout.ranks bytes
  let bytes ← if layout.zeroBias then takeZero bytes else pure bytes
  return (⟨layout.name, layout.op, entries, layout.zeroBias⟩, bytes)

/-- Read layers one after the other. -/
def takeLayers : List LayerLayout → Bytes →
    Except WeightsReadError (List WeightsLayer × Bytes)
  | [], bytes => .ok ([], bytes)
  | layout :: rest, bytes => do
      let (layer, bytes) ← (takeLayer layout bytes).mapError (.layer layout.name)
      let (layers, bytes) ← takeLayers rest bytes
      return (layer :: layers, bytes)

/-- Read a weights file against its layout. -/
def decode (layout : WeightsLayout) (bytes : Bytes) : Except WeightsReadError WeightsFile := do
  let (magic, bytes) ← (takeBytes weightsMagic.length bytes).mapError .shortMagic
  if magic ≠ weightsMagic then throw (.otherMagic magic)
  let (model, bytes) ← (takeLine bytes).mapError .shortModel
  if model ≠ Text.bytes layout.model then throw (.otherModel model layout.model)
  let (count, bytes) ← (takeWords 1 bytes).mapError .shortLayerCount
  let found := (count.headD 0).toNat
  if found ≠ layout.layers.length then throw (.layerCount found layout.layers.length)
  let (layers, bytes) ← takeLayers layout.layers bytes
  if bytes.take weightsEnd.length ≠ weightsEnd then throw .noEnd
  return ⟨layout.model, layers⟩

end Weights

end StaticNet
