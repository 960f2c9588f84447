import StaticNet.Weights.Layout

/-! # Writing weights files

A file holds a magic line, the model name, the number of layers, the layers and an end line. A
tensor is written as its dimension fields and its elements in single precision. A tensor that an
earlier layer wrote is written again as zero fields without elements.
-/

namespace StaticNet

/-- The first line of a weights file. -/
def weightsMagic : Bytes := Text.bytes "FD\n"

/-- The last line of a weights file. -/
def weightsEnd : Bytes := Text.bytes "end\n"

namespace Weights

/-- The low half of a machine word. -/
def lowWord (n : Int64) : UInt32 := n.toUInt64.toUInt32

/-- The dimension fields of a shape. -/
def fields? : Shape → Option (List UInt32)
  | [n] => some [lowWord n]
  | [h, w] => some [1, lowWord h, lowWord w]
  | [o, i, w] => some [lowWord o, lowWord i, 1, lowWord w]
  | [o, i, h, w] => some [lowWord o, lowWord i, lowWord h, lowWord w]
  | _ => none

/-- The bytes of words. -/
def wordBytes (words : List UInt32) : Bytes := words.flatMap Bytes.ofWord

/-- The bytes of a text and its line end. -/
def lineBytes (s : String) : Bytes := Text.bytes s ++ [0x0a]

/-- The elements of a tensor in single precision. -/
def payload (value : Tensor) : Bytes := wordBytes (value.singles.map Binary32.bits)

/-- The bytes of one tensor, which may have been written before. -/
def tensorBytes (repeated : Bool) (fields : List UInt32) (value : Tensor) : Bytes :=
  if repeated then wordBytes (fields.map fun _ => 0) else wordBytes fields ++ payload value

/-- The bytes of the tensors of a layer, given the tensors written before. -/
def encodeTensors (layer : String) :
    List String → List (String × Tensor) → Except WeightsRankError (Bytes × List String)
  | written, [] => .ok ([], written)
  | written, (tensor, value) :: rest =>
      match fields? value.dims with
      | none => .error ⟨layer, tensor, value.rank⟩
      | some fields => do
          let bytes := tensorBytes (written.contains tensor) fields value
          let (others, written) ← encodeTensors layer (tensor :: written) rest
          return (bytes ++ others, written)

/-- The bytes of a layer, given the tensors written before. -/
def encodeLayer (written : List String) (node : Node) :
    Except WeightsRankError (Bytes × List String) := do
  let (tensors, written) ← encodeTensors node.name written node.constants.entries
  let bias := if node.lacksBias then Bytes.ofWord 0 else []
  return (lineBytes node.name ++ lineBytes node.op ++ tensors ++ bias, written)

/-- The bytes of layers. A failure is reported with the number of layers before it. -/
def encodeLayers : List String → List Node → Except (WeightsRankError × Nat) Bytes
  | _, [] => .ok []
  | written, node :: rest =>
      match encodeLayer written node with
      | .error cause => .error (cause, 0)
      | .ok (bytes, written) =>
          match encodeLayers written rest with
          | .error (cause, before) => .error (cause, before + 1)
          | .ok others => .ok (bytes ++ others)

/-- The weights file of nodes. A failure is reported with the number of layers before it. -/
def encode (model : String) (nodes : List Node) : Except (WeightsRankError × Nat) Bytes := do
  let layers := nodes.filter Node.holdsWeights
  let bytes ← encodeLayers [] layers
  return weightsMagic ++ lineBytes model ++ Bytes.ofWord (UInt32.ofNat layers.length) ++ bytes ++
    weightsEnd

end Weights

end StaticNet
