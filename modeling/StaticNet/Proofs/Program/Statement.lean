import StaticNet.Proofs.Program.Members

/-! # Statements of the generated code

The fragments that declare, construct and delete things are sequences of statements. The built-in
templates print them: those of a buffer agree on what the network owns, and a layer object is
constructed once, after the numbers that it is made from.
-/

namespace StaticNet

/-- What becomes of a member of the network class. -/
inductive Deed where
  | declared
  | constructed
  | deleted
deriving DecidableEq

/-- A statement of the generated code. -/
inductive Statement where
  | comment (words : String)
  | blank
  | number (name value : String)
  | declare (member : Member)
  | construct (member : Member) (arguments : String)
  | bind (table : BindingTable) (position : Int64) (name : String)
  | delete (name : String)

namespace Statement

/-- A statement as it is printed. -/
def text : Statement → String
  | comment words => "    // " ++ (words ++ "\n")
  | blank => "\n"
  | number name value => "    uint32_t " ++ (name ++ (" = " ++ (value ++ ";\n")))
  | declare member => member.line
  | construct member arguments =>
      "    " ++ (member.name ++ (" = new pico_cnn::naive::" ++
        (member.type ++ ("(" ++ (arguments ++ ");\n")))))
  | bind table position name =>
      "    " ++ (table.name ++ ("[" ++ (Text.word position ++ ("] = " ++ (name ++ ";\n")))))
  | delete name => "    delete " ++ (name ++ ";\n")

/-- What a statement does, and to which member. -/
def deed? : Statement → Option (Deed × String)
  | declare member => some (.declared, member.name)
  | construct member _ => some (.constructed, member.name)
  | delete name => some (.deleted, name)
  | comment _ | blank | number _ _ | bind _ _ _ => none

/-- Set an array of numbers. -/
def array (name length entries : String) : Statement :=
  number (name ++ (length ++ "]")) ("\x7b " ++ (entries ++ " \x7d"))

/-- The text of statements one after the other. -/
def code (statements : List Statement) : String := String.join (statements.map text)

theorem code_nil : code [] = "" := rfl

theorem code_cons (statement : Statement) (rest : List Statement) :
    code (statement :: rest) = statement.text ++ code rest := by
  rw [code, List.map_cons, String.join_cons, ← code]

theorem code_append (first second : List Statement) :
    code (first ++ second) = code first ++ code second := by
  rw [code, List.map_append, String.join_append, ← code, ← code]

/-- The declarations of members are their lines. -/
theorem code_declare (members : List Member) :
    code (members.map declare) = Member.lines members := by
  rw [code, Member.lines, List.map_map]
  rfl

theorem text_bind (table : BindingTable) (position : Int64) (name : String) :
    (bind table position name).text = "    " ++ (table.name ++ ("[" ++ (Text.word position ++
      ("] = " ++ (name ++ ";\n"))))) := rfl

theorem text_array (name length entries : String) : (array name length entries).text =
    "    uint32_t " ++ (name ++ (length ++ ("] = \x7b " ++ (entries ++ " \x7d;\n")))) := by
  have opening : "] = \x7b " = "]" ++ (" = " ++ "\x7b ") := by decide +kernel
  have closing : " \x7d;\n" = " \x7d" ++ ";\n" := by decide +kernel
  rw [array, text, opening, closing]
  simp only [-String.reduceAppend, String.append_assoc]

end Statement

/-! ## Printing -/

namespace Template

variable {scope : Scope} {parameters : Parameters} {bindings : Dict Value}
variable {first second pieces : List Piece} {printed : String}

/-- The templates of the library go by their own paths. -/
theorem path_of_find? {name : String} (found : Library.find? name = some pieces) :
    Path.isProper (fileOf name) = true ∧ Path.clean name = name ∧ name ≠ "" := by
  have all : ∀ name ∈ Library.all.map Prod.fst,
      Path.clean name = name ∧ Path.isProper (name ++ fileEnding) = true ∧ name ≠ "" := by
    decide +kernel
  obtain ⟨before, after, same, -⟩ := List.lookup_eq_some_iff.mp found
  obtain ⟨clean, proper, present⟩ :=
    all name (List.mem_map.mpr ⟨(name, pieces), by rw [same]; simp, rfl⟩)
  exact ⟨by rwa [fileOf, clean], clean, present⟩

theorem render_eq_ok_iff (call : TemplateCall) (found : Library.find? call.template = some pieces) :
    call.render .builtin = .ok printed ↔
      evalAll ⟨call.parameters, .empty⟩ pieces = .ok printed := by
  rw [TemplateCall.render, render_builtin (path_of_find? found) found,
    Outcome.mapError_eq_ok_iff, fill]

theorem evalAll_cons_eq_ok_iff {piece : Piece} :
    evalAll scope (piece :: pieces) = .ok printed ↔ ∃ one, piece.eval scope = .ok one ∧
      ∃ rest, evalAll scope pieces = .ok rest ∧ one ++ rest = printed := by
  rw [evalAll, Outcome.bind_eq_ok_iff]
  refine exists_congr fun one => and_congr_right fun _ => ?_
  rw [Outcome.bind_eq_ok_iff]
  refine exists_congr fun rest => and_congr_right fun _ => ?_
  exact ⟨Except.ok.inj, congrArg Except.ok⟩

theorem evalAll_append_eq_ok_iff :
    evalAll scope (first ++ second) = .ok printed ↔ ∃ one, evalAll scope first = .ok one ∧
      ∃ rest, evalAll scope second = .ok rest ∧ one ++ rest = printed := by
  induction first generalizing printed with
  | nil => simp [evalAll]
  | cons piece first ih =>
    simp only [List.cons_append, evalAll_cons_eq_ok_iff, ih]
    constructor
    · rintro ⟨one, head, _, ⟨more, middle, rest, tail, rfl⟩, rfl⟩
      exact ⟨_, ⟨one, head, more, middle, rfl⟩, rest, tail, String.append_assoc ..⟩
    · rintro ⟨_, ⟨one, head, more, middle, rfl⟩, rest, tail, rfl⟩
      exact ⟨one, head, _, ⟨more, middle, rest, tail, rfl⟩, (String.append_assoc ..).symm⟩

theorem evalAll_nil_eq_ok_iff : evalAll scope [] = .ok printed ↔ "" = printed := by
  rw [evalAll]
  exact ⟨Except.ok.inj, congrArg Except.ok⟩

theorem eval_text_eq_ok_iff {words : String} :
    (Library.text words).eval scope = .ok printed ↔ words = printed := by
  rw [Library.text, Piece.eval]
  exact ⟨Except.ok.inj, congrArg Except.ok⟩

theorem eval_put_eq_ok_iff {name : String} {value : Value}
    (known : parameters.get? name = some value) :
    (Library.put name).eval ⟨parameters, bindings⟩ = .ok printed ↔ value.render = printed := by
  rw [Library.put, Piece.eval, Term.evalAt, Term.eval, Source.eval, known]
  exact ⟨Except.ok.inj, congrArg Except.ok⟩

theorem eval_joined_eq_ok_iff {name : String} {entries : List Int64}
    (known : parameters.get? name = some (.words entries)) :
    (Library.joined name).eval ⟨parameters, bindings⟩ = .ok printed ↔
      Text.commaSeparated entries = printed := by
  rw [Library.joined, Piece.eval, Term.evalAt, Term.eval, Source.eval, known]
  exact ⟨Except.ok.inj, congrArg Except.ok⟩

theorem eval_whenSet_flag {name : String} {flag : Bool} {yes no : List Piece}
    (known : parameters.get? name = some (.flag flag)) :
    (Library.whenSet name yes no).eval ⟨parameters, bindings⟩ =
      evalAll ⟨parameters, bindings⟩ (if flag then yes else no) := by
  rw [Library.whenSet, Piece.eval, Term.evalAt, Term.eval, Source.eval, known]
  cases flag <;> rfl

/-- A branch prints one of its sides. -/
theorem of_eval_whenSet {name : String} {yes no : List Piece}
    (done : (Library.whenSet name yes no).eval scope = .ok printed) :
    evalAll scope yes = .ok printed ∨ evalAll scope no = .ok printed := by
  rw [Library.whenSet, Piece.eval] at done
  obtain ⟨value, -, chosen⟩ := Outcome.bind_eq_ok_iff.mp done
  split at chosen
  · exact .inl chosen
  · exact .inr chosen

end Template

open Template

/-! ## Buffers -/

namespace Buffer

/-- Construct the shape of a buffer. -/
def constructShape (buffer : Buffer) : Statement :=
  .construct ⟨"TensorShape", buffer.name ++ "_shape"⟩ (Text.commaSeparated buffer.dims)

/-- Construct the tensor of a buffer, of its shape. -/
def constructTensor (buffer : Buffer) : Statement :=
  .construct ⟨"Tensor", buffer.name⟩ ("*" ++ (buffer.name ++ "_shape"))

/-- Declare the members of a buffer. -/
def declaring (buffer : Buffer) : List Statement :=
  .comment buffer.dims.text :: buffer.members.map .declare

/-- Construct the members of a plain buffer, or those of a weight that is bound to a position. -/
def constructing (buffer : Buffer) : Option Int64 → List Statement
  | none => buffer.constructShape :: if buffer.isOwned then [buffer.constructTensor] else []
  | some position =>
      [buffer.constructShape, buffer.constructTensor,
        .bind buffer.bindingTable position buffer.name]

/-- Delete the members of a buffer. -/
def deleting (buffer : Buffer) : List Statement :=
  (if buffer.isOwned then [.delete buffer.name] else []) ++ [.delete (buffer.name ++ "_shape")]

theorem render_declaring (buffer : Buffer) :
    buffer.declarationCode.render .builtin = .ok (Statement.code buffer.declaring) := by
  rw [render_declarationCode, declaring, declaration, Statement.code_cons, Statement.code_declare,
    Statement.text, String.append_assoc, String.append_assoc]

private theorem text_constructShape (buffer : Buffer) : buffer.constructShape.text =
    "    " ++ (buffer.name ++ ("_shape = new pico_cnn::naive::TensorShape(" ++
      (Text.commaSeparated buffer.dims ++ ");\n"))) := by
  have cut : "_shape = new pico_cnn::naive::TensorShape(" =
      "_shape" ++ (" = new pico_cnn::naive::" ++ ("TensorShape" ++ "(")) := by decide +kernel
  rw [constructShape, Statement.text, cut]
  simp only [-String.reduceAppend, String.append_assoc]

private theorem text_constructTensor (buffer : Buffer) : buffer.constructTensor.text =
    "    " ++ (buffer.name ++ (" = new pico_cnn::naive::Tensor(*" ++
      (buffer.name ++ "_shape);\n"))) := by
  have opening : " = new pico_cnn::naive::Tensor(*" =
      " = new pico_cnn::naive::" ++ ("Tensor" ++ ("(" ++ "*")) := by decide +kernel
  have closing : "_shape);\n" = "_shape" ++ ");\n" := by decide +kernel
  rw [constructTensor, Statement.text, opening, closing]
  simp only [-String.reduceAppend, String.append_assoc]

/-- The built-in templates construct what the buffer declares. -/
theorem render_constructing (buffer : Buffer) :
    buffer.allocationCode.render .builtin = .ok (Statement.code (buffer.constructing none)) := by
  have name : buffer.allocationCode.parameters.get? "name" = some (.text buffer.name) := by
    simp [allocationCode, Dict.ofList]
  have dims : buffer.allocationCode.parameters.get? "dims" = some (.words buffer.dims) := by
    simp [allocationCode, Dict.ofList]
  have tensor : buffer.allocationCode.parameters.get? "tensor" = some (.flag buffer.isOwned) := by
    simp [allocationCode, Dict.ofList]
  refine (render_eq_ok_iff buffer.allocationCode rfl).mpr ?_
  rw [constructing]
  cases owned : buffer.isOwned <;>
    simp only [-String.reduceAppend, Library.bufferAllocation, evalAll_cons_eq_ok_iff,
      evalAll_nil_eq_ok_iff, eval_text_eq_ok_iff, eval_put_eq_ok_iff name,
      eval_joined_eq_ok_iff dims, eval_whenSet_flag tensor, owned, exists_eq_left',
      Value.render, Bool.false_eq_true, if_true, if_false, Statement.code_cons, Statement.code_nil,
      text_constructShape, text_constructTensor, String.append_assoc, String.append_empty]

/-- The built-in templates construct the shape and the tensor of a weight, whatever its role. -/
theorem render_binding (buffer : Buffer) (position : Int64) :
    (buffer.bindingCall position).render .builtin =
      .ok (Statement.code (buffer.constructing (some position))) := by
  have name : (buffer.bindingCall position).parameters.get? "name" = some (.text buffer.name) := by
    simp [bindingCall, Dict.ofList]
  have dims : (buffer.bindingCall position).parameters.get? "dims" = some (.words buffer.dims) := by
    simp [bindingCall, Dict.ofList]
  have table : (buffer.bindingCall position).parameters.get? "table" =
      some (.text buffer.bindingTable.name) := by
    simp [bindingCall, Dict.ofList]
  have place : (buffer.bindingCall position).parameters.get? "pos" = some (.int position) := by
    simp [bindingCall, Dict.ofList]
  have shape : ");\n    " = ");\n" ++ "    " := by decide +kernel
  have tensor : "_shape);\n    " = "_shape);\n" ++ "    " := by decide +kernel
  refine (render_eq_ok_iff (buffer.bindingCall position) rfl).mpr ?_
  simp only [-String.reduceAppend, Library.kernelAllocation, evalAll_cons_eq_ok_iff,
    evalAll_nil_eq_ok_iff, eval_text_eq_ok_iff, eval_put_eq_ok_iff name, eval_put_eq_ok_iff table,
    eval_put_eq_ok_iff place, eval_joined_eq_ok_iff dims, exists_eq_left', Value.render,
    constructing, Statement.code_cons, Statement.code_nil, text_constructShape,
    text_constructTensor, Statement.text_bind, shape, tensor, String.append_assoc,
    String.append_empty]

end Buffer

/-! ## Layer objects -/

namespace Template

variable {scope : Scope} {first second pieces : List Piece} {member : Member}

/-- Pieces that print statements which do nothing to any member. -/
def PrintsSetup (scope : Scope) (pieces : List Piece) : Prop :=
  ∀ printed, evalAll scope pieces = .ok printed → ∃ setup : List Statement,
    (∀ statement ∈ setup, statement.deed? = none) ∧ Statement.code setup = printed

/-- Pieces that print the construction of a member after statements which do nothing to any. -/
def PrintsConstruction (scope : Scope) (pieces : List Piece) (member : Member) : Prop :=
  ∀ printed, evalAll scope pieces = .ok printed → ∃ setup arguments,
    (∀ statement ∈ setup, statement.deed? = none) ∧
      Statement.code (setup ++ [.construct member arguments]) = printed

theorem PrintsSetup.then (one : PrintsSetup scope first)
    (other : PrintsConstruction scope second member) :
    PrintsConstruction scope (first ++ second) member := by
  intro printed done
  obtain ⟨head, headDone, tail, tailDone, rfl⟩ := evalAll_append_eq_ok_iff.mp done
  obtain ⟨setup, quiet, rfl⟩ := one head headDone
  obtain ⟨more, arguments, quietMore, rfl⟩ := other tail tailDone
  refine ⟨setup ++ more, arguments, List.forall_mem_append.mpr ⟨quiet, quietMore⟩, ?_⟩
  rw [List.append_assoc, Statement.code_append]

/-- The setup may end, and the rest start, in the middle of a text. -/
theorem PrintsSetup.thenCut (first : List Piece) {before after : String}
    (one : PrintsSetup scope (first ++ [Library.text before]))
    (other : PrintsConstruction scope (Library.text after :: second) member) :
    PrintsConstruction scope (first ++ Library.text (before ++ after) :: second) member := by
  intro printed done
  refine one.then other printed ?_
  rw [List.append_assoc]
  simp only [evalAll_append_eq_ok_iff, evalAll_cons_eq_ok_iff, evalAll_nil_eq_ok_iff,
    eval_text_eq_ok_iff, exists_eq_left', String.append_empty] at done ⊢
  obtain ⟨head, headDone, _, ⟨tail, tailDone, rfl⟩, rfl⟩ := done
  exact ⟨head, headDone, _, ⟨_, ⟨tail, tailDone, rfl⟩, rfl⟩, by simp only [String.append_assoc]⟩

theorem printsSetup_blank : PrintsSetup scope ([] ++ [Library.text "\n"]) := by
  intro printed done
  simp only [List.nil_append, evalAll_cons_eq_ok_iff, evalAll_nil_eq_ok_iff, eval_text_eq_ok_iff,
    exists_eq_left'] at done
  exact ⟨[.blank], fun _ member => List.mem_singleton.mp member ▸ rfl, done⟩

/-- Pieces that set an array when there are entries for it. -/
theorem printsSetup_whenSet {name : String} (one : PrintsSetup scope pieces) :
    PrintsSetup scope [Library.whenSet name pieces []] := by
  intro printed done
  obtain ⟨chosen, choice, rest, nothing, rfl⟩ := evalAll_cons_eq_ok_iff.mp done
  obtain rfl := evalAll_nil_eq_ok_iff.mp nothing
  rw [String.append_empty]
  rcases of_eval_whenSet choice with yes | no
  · exact one chosen yes
  · exact ⟨[], fun _ member => (nomatch member), evalAll_nil_eq_ok_iff.mp no⟩

theorem printsSetup_windowArray (name : String) : PrintsSetup scope (Library.windowArray name) := by
  intro printed done
  simp only [Library.windowArray, evalAll_cons_eq_ok_iff, evalAll_nil_eq_ok_iff,
    eval_text_eq_ok_iff, exists_eq_left', String.append_empty] at done
  obtain ⟨_, ⟨identifier, -, _, ⟨_, ⟨length, -, _, ⟨_, ⟨entries, -, rfl⟩, rfl⟩, rfl⟩, rfl⟩, rfl⟩,
    rfl⟩ := done
  refine ⟨[.array (identifier ++ ("_" ++ name ++ "[")) length entries],
    fun _ member => List.mem_singleton.mp member ▸ rfl, ?_⟩
  rw [Statement.code_cons, Statement.code_nil, Statement.text_array]
  simp only [-String.reduceAppend, String.append_assoc, String.append_empty]

/-- Pieces that set an array of a fixed length. -/
theorem printsSetup_array {head : String} {entries : Piece} :
    PrintsSetup scope ([Library.text "    uint32_t ", Library.put "identifier",
      Library.text (head ++ "] = \x7b "), entries] ++ [Library.text " \x7d;\n"]) := by
  intro printed done
  simp only [List.cons_append, List.nil_append, evalAll_cons_eq_ok_iff, evalAll_nil_eq_ok_iff,
    eval_text_eq_ok_iff, exists_eq_left', String.append_empty] at done
  obtain ⟨_, ⟨identifier, -, _, ⟨_, ⟨values, -, rfl⟩, rfl⟩, rfl⟩, rfl⟩ := done
  refine ⟨[.array identifier head values],
    fun _ member => List.mem_singleton.mp member ▸ rfl, ?_⟩
  rw [Statement.code_cons, Statement.code_nil, Statement.text_array]
  simp only [-String.reduceAppend, String.append_assoc, String.append_empty]

theorem printsSetup_groups : PrintsSetup scope ([Library.text "    uint32_t ",
    Library.put "identifier", Library.text "_groups = ", Library.put "groups"] ++
      [Library.text ";\n"]) := by
  intro printed done
  have cut : "_groups = " = "_groups" ++ " = " := by decide +kernel
  simp only [List.cons_append, List.nil_append, evalAll_cons_eq_ok_iff, evalAll_nil_eq_ok_iff,
    eval_text_eq_ok_iff, exists_eq_left', String.append_empty] at done
  obtain ⟨_, ⟨identifier, -, _, ⟨_, ⟨value, -, rfl⟩, rfl⟩, rfl⟩, rfl⟩ := done
  refine ⟨[.number (identifier ++ "_groups") value],
    fun _ member => List.mem_singleton.mp member ▸ rfl, ?_⟩
  rw [Statement.code_cons, Statement.code_nil, Statement.text, cut]
  simp only [-String.reduceAppend, String.append_assoc, String.append_empty]

section construction

variable {parameters : Parameters} {bindings : Dict Value} {identifier type : String}

/-- Pieces that open with the name of an object and its class, and close with a parenthesis. -/
theorem printsConstruction_of_opening (ending : String) {opening : List Piece}
    (opens : ∀ opened, evalAll scope opening = .ok opened →
      "    " ++ (identifier ++ ("_layer = new pico_cnn::naive::" ++ (type ++ "("))) = opened)
    (closes : pieces.getLast? = some (Library.text (ending ++ ");\n"))) :
    PrintsConstruction scope (opening ++ pieces) ⟨type, identifier ++ "_layer"⟩ := by
  intro printed done
  obtain ⟨arguments, rfl⟩ := List.getLast?_eq_some_iff.mp closes
  have cut : "_layer = new pico_cnn::naive::" = "_layer" ++ " = new pico_cnn::naive::" := by
    decide +kernel
  simp only [evalAll_append_eq_ok_iff, evalAll_cons_eq_ok_iff, evalAll_nil_eq_ok_iff,
    eval_text_eq_ok_iff, exists_eq_left', String.append_empty] at done
  obtain ⟨opened, start, _, ⟨values, -, rfl⟩, rfl⟩ := done
  refine ⟨[], values ++ ending, fun _ member => (nomatch member), ?_⟩
  rw [← opens opened start, List.nil_append, Statement.code_cons, Statement.code_nil,
    Statement.text, cut]
  simp only [-String.reduceAppend, String.append_assoc, String.append_empty]

theorem printsConstruction_of_head (ending : String) {head : String}
    (named : parameters.get? "identifier" = some (.text identifier))
    (cut : head = "_layer = new pico_cnn::naive::" ++ (type ++ "("))
    (closes : pieces.getLast? = some (Library.text (ending ++ ");\n"))) :
    PrintsConstruction ⟨parameters, bindings⟩ ([Library.text "    ", Library.put "identifier",
      Library.text head] ++ pieces) ⟨type, identifier ++ "_layer"⟩ := by
  refine printsConstruction_of_opening ending (fun opened done => ?_) closes
  simp only [evalAll_cons_eq_ok_iff, evalAll_nil_eq_ok_iff, eval_text_eq_ok_iff,
    eval_put_eq_ok_iff named, exists_eq_left', String.append_empty, Value.render] at done
  rw [← done, cut]

theorem printsConstruction_activation
    (named : parameters.get? "identifier" = some (.text identifier))
    (classed : parameters.get? "class" = some (.text type)) :
    PrintsConstruction ⟨parameters, bindings⟩ Library.activationAllocation
      ⟨type, identifier ++ "_layer"⟩ := by
  have parts : Library.activationAllocation =
      Library.activationAllocation.take 5 ++ Library.activationAllocation.drop 5 := rfl
  rw [parts]
  refine printsConstruction_of_opening "" (fun opened done => ?_) rfl
  simp only [Library.activationAllocation, List.take, evalAll_cons_eq_ok_iff, evalAll_nil_eq_ok_iff,
    eval_text_eq_ok_iff, eval_put_eq_ok_iff named, eval_put_eq_ok_iff classed, exists_eq_left',
    String.append_empty, Value.render] at done
  exact done

theorem printsConstruction_convolution (paddingLength strideLength : String)
    (named : parameters.get? "identifier" = some (.text identifier)) :
    PrintsConstruction ⟨parameters, bindings⟩
      (Library.convolutionAllocation paddingLength strideLength)
      ⟨"Convolution", identifier ++ "_layer"⟩ := by
  have stride : " \x7d;\n    uint32_t " = " \x7d;\n" ++ "    uint32_t " := by decide +kernel
  have groups : ";\n\n    " = ";\n" ++ ("\n" ++ "    ") := by decide +kernel
  rw [Library.convolutionAllocation, stride, groups]
  refine (printsSetup_whenSet printsSetup_array).then ?_
  refine PrintsSetup.thenCut [_, _, _, _] printsSetup_array ?_
  refine PrintsSetup.thenCut [_, _, _, _] printsSetup_groups ?_
  refine PrintsSetup.thenCut [] printsSetup_blank ?_
  exact printsConstruction_of_head "_groups" named (by decide +kernel) rfl

/-- Where the texts that open a construction have the name of the class. -/
private theorem heads :
    (["MaxPooling", "AveragePooling", "Clip", "LRN", "BatchNormalization", "FullyConnected"].map
      fun type => "_layer = new pico_cnn::naive::" ++ (type ++ "(")) =
    ["_layer = new pico_cnn::naive::MaxPooling(", "_layer = new pico_cnn::naive::AveragePooling(",
      "_layer = new pico_cnn::naive::Clip(", "_layer = new pico_cnn::naive::LRN(",
      "_layer = new pico_cnn::naive::BatchNormalization(",
      "_layer = new pico_cnn::naive::FullyConnected("] := by
  decide +kernel

/-- The last part of a pooling template, after the arrays of the window. -/
theorem printsConstruction_pool (ending : String) {head : String}
    (named : parameters.get? "identifier" = some (.text identifier))
    (cut : head = "_layer = new pico_cnn::naive::" ++ (type ++ "("))
    (closes : pieces.getLast? = some (Library.text (ending ++ ");\n"))) :
    PrintsConstruction ⟨parameters, bindings⟩
      (Library.windowArray "kernel_shape" ++ Library.windowArray "stride" ++
        ([Library.whenSet "padding" (Library.windowArray "padding") [],
          Library.text "\n    ", Library.put "identifier", Library.text head] ++ pieces))
      ⟨type, identifier ++ "_layer"⟩ := by
  have blank : "\n    " = "\n" ++ "    " := by decide +kernel
  rw [List.append_assoc, blank]
  refine (printsSetup_windowArray "kernel_shape").then ?_
  refine (printsSetup_windowArray "stride").then ?_
  refine (printsSetup_whenSet (printsSetup_windowArray "padding")).then ?_
  refine PrintsSetup.thenCut [] printsSetup_blank ?_
  exact printsConstruction_of_head ending named cut closes

/-- The template that constructs an object of some kind prints one construction of it. -/
theorem printsConstruction_allocationTemplate (bindings : Dict Value) (kind : ObjectKind)
    (named : parameters.get? "identifier" = some (.text identifier))
    (classed : parameters.get? "class" = some (.text kind.className)) :
    ∃ pieces, Library.find? kind.allocationTemplate = some pieces ∧
      PrintsConstruction ⟨parameters, bindings⟩ pieces
        ⟨kind.className, identifier ++ "_layer"⟩ := by
  have cuts := heads
  simp only [-String.reduceAppend, List.map_cons, List.map_nil, List.cons.injEq, and_true] at cuts
  obtain ⟨maxPool, averagePool, clip, lrn, batchNorm, fullyConnected⟩ := cuts
  cases kind with
  | activation function => exact ⟨_, rfl, printsConstruction_activation named classed⟩
  | globalAveragePool => exact ⟨_, rfl, printsConstruction_activation named classed⟩
  | globalMaxPool => exact ⟨_, rfl, printsConstruction_activation named classed⟩
  | convolution axes kernel bias groups padding stride =>
    cases axes with
    | one => exact ⟨_, rfl, printsConstruction_convolution "2" "1" named⟩
    | two => exact ⟨_, rfl, printsConstruction_convolution "4" "2" named⟩
  | maxPool axes window =>
    exact ⟨_, rfl, printsConstruction_pool "" named maxPool.symm rfl⟩
  | averagePool axes window countsPadding =>
    exact ⟨_, rfl, printsConstruction_pool "" named averagePool.symm rfl⟩
  | clip low high =>
    exact ⟨_, rfl, printsConstruction_of_head "" named clip.symm rfl⟩
  | responseNormalization alpha beta size =>
    exact ⟨_, rfl, printsConstruction_of_head "" named lrn.symm rfl⟩
  | batchNormalization gammas betas means variances epsilon =>
    exact ⟨_, rfl, printsConstruction_of_head "" named batchNorm.symm rfl⟩
  | fullyConnected kernel bias =>
    exact ⟨_, rfl, printsConstruction_of_head "" named fullyConnected.symm rfl⟩

end construction

end Template

namespace Layer

/-- The member of a layer object of some kind. -/
def object (layer : Layer) (kind : ObjectKind) : Member :=
  ⟨kind.className, layer.identifier ++ "_layer"⟩

variable {layer : Layer} {input : String} {kind : ObjectKind}

theorem render_declaring (work : layer.work = .object input kind) :
    (layer.call .declaration).render .builtin =
      .ok (Statement.code [.declare (layer.object kind)]) := by
  rw [render_call_declaration, members, work]
  rfl

theorem render_constructing (work : layer.work = .object input kind) {printed : String}
    (rendered : (layer.call .allocation).render .builtin = .ok printed) :
    ∃ setup arguments, (∀ statement ∈ setup, statement.deed? = none) ∧
      Statement.code (setup ++ [.construct (layer.object kind) arguments]) = printed := by
  obtain ⟨named, classed⟩ := parameters_object work
  obtain ⟨pieces, found, prints⟩ :=
    printsConstruction_allocationTemplate .empty kind named classed
  have template : (layer.call .allocation).template = kind.allocationTemplate := by
    simp only [call, Layer.template, work]
  exact prints printed ((render_eq_ok_iff _ (template ▸ found)).mp rendered)

/-- A statement layer has text in the run function only. -/
theorem render_statement {statement : StatementKind} (work : layer.work = .statement statement)
    {phase : Phase} (other : phase ≠ .execution) :
    (layer.call phase).render .builtin = .ok "" := by
  have template : (layer.call phase).template = "empty" := by
    cases phase <;> simp_all [call, Layer.template]
  have found : Library.find? (layer.call phase).template = some Library.empty := by
    rw [template]
    rfl
  refine (render_eq_ok_iff _ found).mpr ?_
  rw [Library.empty, evalAll]

end Layer

end StaticNet
