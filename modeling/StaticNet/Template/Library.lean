import StaticNet.Template.Basic

/-! # The built-in templates

The fragments of the generated program. Layer fragments declare, construct, run and delete layer
objects; memory fragments do so for buffers; program fragments are whole files and comments.
-/

namespace StaticNet.Template.Library

/-- Literal text. -/
def text (s : String) : Piece := .text s

/-- The value of a parameter. -/
def put (name : String) : Piece := .emit (.plain (.parameter name))

/-- The value bound by a loop. -/
def bound (name : String) : Piece := .emit (.plain (.bound name))

/-- A text parameter in quotes. -/
def quoted (name : String) : Piece := .emit (.call .quote (.parameter name))

/-- A list parameter separated by commas. -/
def joined (name : String) : Piece := .emit (.call .join (.parameter name))

/-- A number parameter as a literal of the generated code. -/
def floated (name : String) : Piece := .emit (.call .float (.parameter name))

/-- The length of a list parameter. -/
def sized (name : String) : Piece := .emit (.call .len (.parameter name))

/-- One of two texts, by the truth of a parameter. -/
def whenSet (name : String) (yes no : List Piece) : Piece :=
  .branch (.plain (.parameter name)) yes no

/-- One of two texts, by the truth of a value bound by a loop. -/
def whenBound (name : String) (yes no : List Piece) : Piece :=
  .branch (.plain (.bound name)) yes no

/-- A text for every entry of a list parameter. -/
def each (index entry name : String) (body : List Piece) : Piece :=
  .loop index entry (.plain (.parameter name)) body

/-- No text at all. -/
def empty : List Piece := []

/-- Construct an activation layer. -/
def activationAllocation : List Piece :=
  [ text "    ", put "identifier", text "_layer = new pico_cnn::naive::", put "class", text "(",
    quoted "name", text ", 0, pico_cnn::op_type::", put "op", text ");\n" ]

/-- Add two tensors; operands of different shapes are noted in a comment. -/
def addExecution : List Piece :=
  [ whenSet "broadcast"
      [ text "    // operands ", put "lhs_shape", text " and ", put "rhs_shape",
        text " are added element by element\n" ] [],
    text "    ", put "lhs", text "->add_into(", put "rhs", text ", ", put "output", text ");\n" ]

/-- An array of the window of a layer, from the list parameter of the same name. -/
def windowArray (name : String) : List Piece :=
  [ text "    uint32_t ", put "identifier", text ("_" ++ name ++ "["), sized name,
    text "] = \x7b ", joined name, text " \x7d;\n" ]

/-- The name of the padding array, or the null pointer without padding. -/
def paddingPointer : Piece :=
  whenSet "padding" [put "identifier", text "_padding"] [text "nullptr"]

/-- Construct an average pooling layer with its window. -/
def averagePoolAllocation : List Piece :=
  windowArray "kernel_shape" ++ windowArray "stride" ++
  [ whenSet "padding" (windowArray "padding") [],
    text "\n    ", put "identifier", text "_layer = new pico_cnn::naive::AveragePooling(",
    quoted "name", text ", 0, pico_cnn::op_type::AveragePool,\n",
    text "                                                  ", put "identifier",
    text "_kernel_shape, ", put "identifier", text "_stride, 0.0f, ", paddingPointer, text ", ",
    put "count_include_pad", text ");\n" ]

/-- Construct a batch normalisation layer. -/
def batchNormAllocation : List Piece :=
  [ text "    ", put "identifier", text "_layer = new pico_cnn::naive::BatchNormalization(",
    quoted "name", text ", 0, pico_cnn::op_type::BatchNormalization,\n",
    text "                                                  ", put "gammas", text ", ",
    put "betas", text ", ", put "means", text ", ", put "variances", text ", ", floated "epsilon",
    text ");\n" ]

/-- Construct a clipping layer. -/
def clipAllocation : List Piece :=
  [ text "    ", put "identifier", text "_layer = new pico_cnn::naive::Clip(", quoted "name",
    text ", 0, pico_cnn::op_type::Clip, ", floated "min", text ", ", floated "max", text ");\n" ]

/-- Concatenate tensors. -/
def concatExecution : List Piece :=
  [ text "    \x7b\n        pico_cnn::naive::Tensor *", put "identifier", text "_inputs[",
    sized "inputs", text "] = \x7b ",
    each "i" "in" "inputs" [whenBound "i" [text ", "] [], bound "in"], text " \x7d;\n        ",
    put "output", text "->concatenate_from(", sized "inputs", text ", ", put "identifier",
    text "_inputs, ", put "axis", text ");\n    \x7d\n" ]

/-- Construct a convolution layer whose padding and stride have the given lengths. -/
def convolutionAllocation (paddingLength strideLength : String) : List Piece :=
  [ whenSet "padding"
      [ text "    uint32_t ", put "identifier", text ("_padding[" ++ paddingLength ++ "] = \x7b "),
        joined "padding", text " \x7d;\n" ] [],
    text "    uint32_t ", put "identifier", text ("_stride[" ++ strideLength ++ "] = \x7b "),
    joined "stride", text " \x7d;\n    uint32_t ", put "identifier", text "_groups = ",
    put "groups", text ";\n\n    ", put "identifier",
    text "_layer = new pico_cnn::naive::Convolution(", quoted "name",
    text ", 0, pico_cnn::op_type::Conv,\n",
    text "                                                   ", put "kernel",
    text ",\n                                                   ",
    whenSet "bias" [put "bias"] [text "nullptr"],
    text ",\n                                                   ",
    paddingPointer, text ", ", put "identifier", text "_stride, ", put "identifier",
    text "_groups);\n" ]

/-- Construct a one-dimensional convolution layer. -/
def conv1DAllocation : List Piece := convolutionAllocation "2" "1"

/-- Construct a two-dimensional convolution layer. -/
def conv2DAllocation : List Piece := convolutionAllocation "4" "2"

/-- Construct a fully connected layer. -/
def fullyConnectedAllocation : List Piece :=
  [ text "    ", put "identifier", text "_layer = new pico_cnn::naive::FullyConnected(",
    quoted "name", text ", 0, pico_cnn::op_type::Gemm, ", put "kernel", text ", ",
    whenSet "bias" [put "bias"] [text "nullptr"], text ");\n" ]

/-- Construct a global pooling layer. -/
def globalPoolAllocation : List Piece := activationAllocation

/-- Declare a layer object. -/
def layerDeclaration : List Piece :=
  [ text "    pico_cnn::naive::", put "class", text " *", put "identifier", text "_layer;\n" ]

/-- Delete a layer object. -/
def layerDeletion : List Piece :=
  [ text "    delete ", put "identifier", text "_layer;\n" ]

/-- Run a layer object. -/
def layerExecution : List Piece :=
  [ text "    ", put "identifier", text "_layer->run(", put "input", text ", ", put "output",
    text ");\n" ]

/-- Construct a local response normalisation layer. -/
def lrnAllocation : List Piece :=
  [ text "    ", put "identifier", text "_layer = new pico_cnn::naive::LRN(", quoted "name",
    text ", 0, pico_cnn::op_type::LRN, ", floated "alpha", text ", ", floated "beta", text ", ",
    put "size", text ");\n" ]

/-- Construct a maximum pooling layer with its window. -/
def maxPoolAllocation : List Piece :=
  windowArray "kernel_shape" ++ windowArray "stride" ++
  [ whenSet "padding" (windowArray "padding") [],
    text "\n    ", put "identifier", text "_layer = new pico_cnn::naive::MaxPooling(",
    quoted "name", text ", 0, pico_cnn::op_type::MaxPool,\n",
    text "                                                  ", put "identifier",
    text "_kernel_shape, ", put "identifier", text "_stride, ", paddingPointer, text ");\n" ]

/-- Copy a tensor with padding around it. -/
def padExecution : List Piece :=
  [ text "    uint32_t ", put "identifier", text "_padding[", sized "padding", text "] = \x7b ",
    joined "padding", text " \x7d;\n    ", put "input", text "->copy_with_padding_into(",
    put "output", text ", ", put "identifier", text "_padding, ", floated "value", text ");\n" ]

/-- Copy the data of a tensor. -/
def reshapeExecution : List Piece :=
  [ text "    ", put "input", text "->copy_data_into(", put "output", text ");\n" ]

/-- Construct the shape of a buffer and, when the network owns it, its tensor. -/
def bufferAllocation : List Piece :=
  [ text "    ", put "name", text "_shape = new pico_cnn::naive::TensorShape(", joined "dims",
    text ");\n",
    whenSet "tensor"
      [ text "    ", put "name", text " = new pico_cnn::naive::Tensor(*", put "name",
        text "_shape);\n" ] [] ]

/-- Release the shape of a buffer and, when the network owns it, its tensor. -/
def bufferCleanup : List Piece :=
  [ whenSet "tensor" [text "    delete ", put "name", text ";\n"] [], text "    delete ",
    put "name", text "_shape;\n" ]

/-- Declare the shape of a buffer and, when the network owns it, its tensor. -/
def bufferDeclaration : List Piece :=
  [ text "    // ", put "shape", text "\n    pico_cnn::naive::TensorShape *", put "name",
    text "_shape;\n",
    whenSet "tensor" [text "    pico_cnn::naive::Tensor *", put "name", text ";\n"] [] ]

/-- Construct a weight tensor and bind it to its table. -/
def kernelAllocation : List Piece :=
  [ text "    ", put "name", text "_shape = new pico_cnn::naive::TensorShape(", joined "dims",
    text ");\n    ", put "name", text " = new pico_cnn::naive::Tensor(*", put "name",
    text "_shape);\n    ", put "table", text "[", put "pos", text "] = ", put "name", text ";\n" ]

/-- The program that runs the network on random input. -/
def dummyInput : List Piece :=
  [ text "#define LOWER_BOUND 0.0\n#define UPPER_BOUND 1.0\n\n#include <cstdlib>\n",
    text "#include <cstring>\n#include <ctime>\n\n#include \"pico-cnn-cpp/pico-cnn.h\"\n",
    text "#include \"network.h\"\n\nvoid usage() \x7b\n",
    text "    printf(\"./dummy_input PATH_TO_BINARY_WEIGHTS_FILE RUNS GENERATE_ONCE\\n\");\n",
    text "\x7d\n\nstatic inline fp_t urand(fp_t min, fp_t max) \x7b\n",
    text "    return (fp_t) ((((fp_t)std::rand()/(fp_t)(RAND_MAX)) * 1.0f) * (max - min) + min);\n",
    text "\x7d\n\n",
    text "static void fill_random(pico_cnn::naive::Tensor *tensor, uint32_t num_elements) \x7b\n",
    text "    fp_t *data = &tensor->access(0);\n",
    text "    for(uint32_t element = 0; element < num_elements; element++) \x7b\n",
    text "        data[element] = urand(LOWER_BOUND, UPPER_BOUND);\n    \x7d\n\x7d\n\n",
    text "int32_t main(int32_t argc, char** argv) \x7b\n\n    if(argc != 4) \x7b\n",
    text "        usage();\n        return 1;\n    \x7d\n\n    char weights_path[1024];\n",
    text "    strncpy(weights_path, argv[1], sizeof(weights_path) - 1);\n",
    text "    weights_path[sizeof(weights_path) - 1] = '\\0';\n\n",
    text "    int32_t RUNS = atoi(argv[2]);\n    int32_t GENERATE_ONCE = atoi(argv[3]);\n",
    text "\n    auto input_shape = new pico_cnn::naive::TensorShape(", joined "input_dims",
    text ");\n    auto input_tensor = new pico_cnn::naive::Tensor(*input_shape);\n\n",
    text "    auto output_shape = new pico_cnn::naive::TensorShape(", joined "output_dims",
    text ");\n    auto output_tensor = new pico_cnn::naive::Tensor(*output_shape);\n\n",
    text "    std::srand(std::time(0));\n    if(GENERATE_ONCE) \x7b\n",
    text "        PRINT_INFO(\"Random input will be generated once for all inference runs.\")\n",
    text "        fill_random(input_tensor, ", put "input_elements",
    text ");\n    \x7d else \x7b\n",
    text "        PRINT_INFO(\"Random input will be generated with new seed ",
    text "for each inference run.\")\n",
    text "    \x7d\n\n    Network *net = new Network();\n\n",
    text "    PRINT_INFO(\"Reading weights from \" << weights_path)\n\n",
    text "    if(read_binary_weights(weights_path, &net->kernels, &net->biases) != 0)\x7b\n",
    text "        PRINT_ERROR(\"could not read weights from \" << weights_path)\n",
    text "        return 1;\n    \x7d\n\n",
    text "    PRINT_INFO(\"Starting CNN for \" << RUNS << \" runs...\")\n\n",
    text "    for(int32_t run = 0; run < RUNS; run++) \x7b\n",
    text "        PRINT_DEBUG(\"Run \" << run+1 << \" of \" << RUNS)\n",
    text "        if(!GENERATE_ONCE) \x7b\n            fill_random(input_tensor, ",
    put "input_elements",
    text ");\n        \x7d\n        net->run(input_tensor, output_tensor);\n    \x7d\n\n",
    text "    PRINT_INFO(\"After CNN\")\n\n    delete net;\n\n    delete input_tensor;\n",
    text "    delete input_shape;\n    delete output_tensor;\n    delete output_shape;\n\n",
    text "    return 0;\n\x7d\n" ]

/-- The build file of the generated program. -/
def makefile : List Piece :=
  [ text "CXX = g++\nCXXFLAGS = -Wall -std=c++11 -g -DINFO\n",
    text "PICO_CNN = ../../../pico-cnn-cpp\nLDFLAGS = -L$(PICO_CNN)\n",
    text "LD_LIBS = -lpico-cnn -lm\n\nNETWORK_LIST = network.cpp\n\nall: dummy_input ",
    put "model_name", text "\n\ndummy_input: dummy_input.cpp $(NETWORK_LIST) libpico-cnn.a\n",
    text "\t$(CXX) dummy_input.cpp $(NETWORK_LIST) -I../../.. $(CXXFLAGS) $(LDFLAGS) ",
    text "$(LD_LIBS) -o dummy_input\n",
    text "\n", put "model_name", text ": dummy_input.cpp $(NETWORK_LIST) libpico-cnn.a\n",
    text "\t$(CXX) dummy_input.cpp $(NETWORK_LIST) -I../../.. $(CXXFLAGS) $(LDFLAGS) ",
    text "$(LD_LIBS) -o ",
    put "model_name", text "\n\n.PHONY: clean\nclean:\n\trm -rf ", put "model_name",
    text " dummy_input\n\n.PHONY: libpico-cnn.a\nlibpico-cnn.a:\n",
    text "\t$(MAKE) -C $(PICO_CNN)\n" ]

/-- The class definition of the network. -/
def networkHeader : List Piece :=
  [ text "#ifndef NETWORK_H\n#define NETWORK_H\n\n#include \"pico-cnn-cpp/pico-cnn.h\"\n\n",
    text "// Generated by picogen for model ", quoted "model_name",
    text ".\nclass Network \x7b\npublic:\n    Network();\n    ~Network();\n\n    void run(",
    put "run_params", text ");\n\n    pico_cnn::naive::Tensor **kernels;\n",
    text "    pico_cnn::naive::Tensor **biases;\n\nprivate:\n", put "declarations",
    text "\x7d;\n\n#endif // NETWORK_H\n" ]

/-- The constructor, the inference function and the destructor of the network. -/
def networkSource : List Piece :=
  [ text "#include \"network.h\"\n\nNetwork::Network() \x7b\n",
    text "    kernels = new pico_cnn::naive::Tensor*[", put "num_kernels",
    text "]();\n    biases = new pico_cnn::naive::Tensor*[", put "num_biases", text "]();\n\n",
    put "allocations", text "\x7d\n\nvoid Network::run(", put "run_params", text ") \x7b\n",
    put "executions", text "\x7d\n\nNetwork::~Network() \x7b\n", put "deletions",
    text "    delete[] kernels;\n    delete[] biases;\n\x7d\n" ]

/-- The comment that says where the code of a layer comes from. -/
def provenance : List Piece :=
  [ text "    // Layer ", put "step", text " ", put "name", text " ", put "op",
    text "\n    // Attributes\n",
    each "index" "entry" "attrs" [text "    //   ", bound "entry", text "\n"],
    text "    // Inputs: ", put "inputs", text "\n    // Outputs: ", put "outputs",
    text "\n    // Shapes:\n",
    each "index" "entry" "shapes" [text "    //   ", bound "entry", text "\n"] ]

/-- The built-in templates in name order. -/
def all : List (String × List Piece) :=
  [ ("empty", empty),
    ("layers/activation_alloc", activationAllocation),
    ("layers/add_exec", addExecution),
    ("layers/avg_pool_alloc", averagePoolAllocation),
    ("layers/batchnorm_alloc", batchNormAllocation),
    ("layers/clip_alloc", clipAllocation),
    ("layers/concat_exec", concatExecution),
    ("layers/conv1d_alloc", conv1DAllocation),
    ("layers/conv2d_alloc", conv2DAllocation),
    ("layers/fc_alloc", fullyConnectedAllocation),
    ("layers/global_pool_alloc", globalPoolAllocation),
    ("layers/layer_decl", layerDeclaration),
    ("layers/layer_delete", layerDeletion),
    ("layers/layer_exec", layerExecution),
    ("layers/lrn_alloc", lrnAllocation),
    ("layers/max_pool_alloc", maxPoolAllocation),
    ("layers/pad_exec", padExecution),
    ("layers/reshape_exec", reshapeExecution),
    ("memory/buffer_allocation", bufferAllocation),
    ("memory/buffer_cleanup", bufferCleanup),
    ("memory/buffer_declaration", bufferDeclaration),
    ("memory/kernel_allocation", kernelAllocation),
    ("program/dummy_input", dummyInput),
    ("program/makefile", makefile),
    ("program/network_header", networkHeader),
    ("program/network_source", networkSource),
    ("program/provenance", provenance) ]

/-- The built-in template of a name. -/
def find? (name : String) : Option (List Piece) := all.lookup name

end StaticNet.Template.Library
