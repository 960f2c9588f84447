import StaticNet.Proofs.Program.Statement

/-! # Comments of the generated code

The code of every task starts with a comment that names its node, its attributes and its tensors.
The template puts each of these texts behind a comment mark and ends the line. The texts themselves
come from the model as they are: a line end in one of them is a line end of the code, and what
stands behind it is a comment only if the text says so.
-/

namespace StaticNet

namespace Text

/-- The lines of a text. Behind the last line end stands a line only if something stands there. -/
def lines (text : String) : List (List Char) :=
  let pieces := text.toList.splitOn '\n'
  if pieces.getLast? = some [] then pieces.dropLast else pieces

/-- The parts of a text behind its line ends. -/
def continuations (text : String) : List (List Char) := (text.toList.splitOn '\n').tail

/-- A text without line ends has nothing behind them. -/
theorem continuations_eq_nil {text : String} (plain : '\n' ∉ text.toList) :
    continuations text = [] := by
  rw [continuations, List.splitOn_eq_singleton plain, List.tail_cons]

/-- What stands in front of a text gets to its first line. -/
theorem splitOn_append_of_notMem {front : List Char} (plain : '\n' ∉ front) (cs : List Char) :
    (front ++ cs).splitOn '\n' = (cs.splitOn '\n').modifyHead (front ++ ·) := by
  induction front with
  | nil =>
    have same : (([] : List Char) ++ ·) = id := funext List.nil_append
    rw [same, List.modifyHead_id]
    rfl
  | cons c front ih =>
    rw [List.mem_cons, not_or] at plain
    have other : (c == '\n') = false := beq_eq_false_iff_ne.mpr (Ne.symm plain.1)
    rw [List.cons_append, List.splitOn_cons_eq_if_modifyHead, other, if_neg Bool.false_ne_true,
      ih plain.2, List.modifyHead_modifyHead]
    rfl

end Text

namespace Statement

/-- A line that is a comment. -/
def Commented (line : List Char) : Prop := "    //".toList <+: line

instance : DecidablePred Commented := fun _ => inferInstanceAs (Decidable (_ <+: _))

theorem splitOn_code_comment (comments : List String) :
    (code (comments.map comment)).toList.splitOn '\n' =
      (comments.flatMap fun words => ("    // " ++ words).toList.splitOn '\n') ++ [[]] := by
  induction comments with
  | nil => rfl
  | cons words rest ih =>
    have cut : (code ((words :: rest).map comment)).toList =
        ("    // " ++ words).toList ++ '\n' :: (code (rest.map comment)).toList := by
      simp [code_cons, text]
    rw [cut, List.splitOn_append_cons_self, ih, List.flatMap_cons, List.append_assoc]

/-- Comments are printed line by line. -/
theorem lines_code_comment (comments : List String) :
    Text.lines (code (comments.map comment)) =
      comments.flatMap fun words => ("    // " ++ words).toList.splitOn '\n' := by
  rw [Text.lines, splitOn_code_comment]
  simp

/-- The first line of a comment is one, and the others are what its words make them. -/
theorem commented_splitOn_iff (words : String) :
    (∀ line ∈ ("    // " ++ words).toList.splitOn '\n', Commented line) ↔
      ∀ line ∈ Text.continuations words, Commented line := by
  have mark : '\n' ∉ "    // ".toList := by decide
  rw [String.toList_append, Text.splitOn_append_of_notMem mark, Text.continuations]
  cases pieces : words.toList.splitOn '\n' with
  | nil => exact absurd pieces (List.splitOn_ne_nil _ _)
  | cons first others =>
    have opening : Commented ("    // ".toList ++ first) := ⟨' ' :: first, rfl⟩
    rw [List.modifyHead_cons, List.forall_mem_cons, List.tail_cons, and_iff_right opening]

/-- A text of comments has only comments on its lines exactly when its words, behind each of their
line ends, go on as comments. -/
theorem commented_code_comment_iff (comments : List String) :
    (∀ line ∈ Text.lines (code (comments.map comment)), Commented line) ↔
      ∀ words ∈ comments, ∀ line ∈ Text.continuations words, Commented line := by
  rw [lines_code_comment]
  simp only [← commented_splitOn_iff, List.mem_flatMap]
  exact ⟨fun all words listed line part => all line ⟨words, listed, part⟩,
    fun all line ⟨words, listed, part⟩ => all words listed line part⟩

end Statement

namespace Template

variable {parameters : Parameters} {bindings : Dict Value}

/-- A loop over texts that prints each of them between two others. -/
theorem eval_each_texts {name : String} {entries : List String} (before after : String)
    (known : parameters.get? name = some (.texts entries)) :
    (Library.each "index" "entry" name
      [Library.text before, Library.bound "entry", Library.text after]).eval
        ⟨parameters, bindings⟩ =
      .ok (String.join (entries.map fun entry => before ++ (entry ++ after))) := by
  have round : ∀ item ∈ (entries.map Value.text).zipIdx,
      evalAll (Scope.bind ⟨parameters, bindings⟩ "index" "entry" item.2 item.1)
        [Library.text before, Library.bound "entry", Library.text after] =
          .ok (before ++ (item.1.render ++ after)) := by
    intro item _
    simp [evalAll, Piece.eval, Term.evalAt, Term.eval, Source.eval, Library.text, Library.bound,
      Scope.bind, bind, Except.bind, pure, Except.pure, Except.mapError]
  have values : ((entries.map Value.text).zipIdx.map fun item =>
      before ++ (item.1.render ++ after)) =
        entries.map fun entry => before ++ (entry ++ after) := by
    have rendered := congrArg (List.map fun value : Value => before ++ (value.render ++ after))
      (List.zipIdx_map_fst 0 (entries.map Value.text))
    rw [List.map_map, List.map_map] at rendered
    exact rendered
  rw [Library.each, Piece.eval, Term.evalAt, Term.eval, Source.eval, known]
  simp only [Except.mapError, bind, Except.bind, Value.entries]
  rw [Outcome.mapM_eq_ok round]
  exact congrArg _ (congrArg String.join values)

end Template

namespace Emission

open Template Statement

/-- The comments in front of the code of a task. -/
def remarks (graph : Graph) (task : Task) : List String :=
  let node := task.node
  ["Layer " ++ (Text.word (Int64.ofNat task.step) ++ (" " ++ (node.name ++ (" " ++ node.op)))),
      "Attributes"] ++
    (node.attributes.lines ": ").map ("  " ++ ·) ++
    ["Inputs: " ++ ",".intercalate node.inputs, "Outputs: " ++ ",".intercalate node.outputs,
      "Shapes:"] ++
    (shapeLines graph node.inputs ++ shapeLines graph node.outputs).map ("  " ++ ·)

private theorem join_indented (entries : List String) :
    String.join (entries.map fun entry => "    //   " ++ (entry ++ "\n")) =
      code ((entries.map ("  " ++ ·)).map Statement.comment) := by
  have cut : "    //   " = "    // " ++ "  " := by decide +kernel
  simp only [-String.reduceAppend, code, List.map_map, Function.comp_def, Statement.text, cut,
    String.append_assoc]

/-- The template prints them as comments. -/
theorem render_provenance (graph : Graph) (task : Task) :
    (provenance graph task).render .builtin =
      .ok (code ((remarks graph task).map Statement.comment)) := by
  have step : (provenance graph task).parameters.get? "step" =
      some (.int (Int64.ofNat task.step)) := by simp [provenance, Dict.ofList]
  have name : (provenance graph task).parameters.get? "name" = some (.text task.node.name) := by
    simp [provenance, Dict.ofList]
  have op : (provenance graph task).parameters.get? "op" = some (.text task.node.op) := by
    simp [provenance, Dict.ofList]
  have attributes : (provenance graph task).parameters.get? "attrs" =
      some (.texts (task.node.attributes.lines ": ")) := by simp [provenance, Dict.ofList]
  have inputs : (provenance graph task).parameters.get? "inputs" =
      some (.text (",".intercalate task.node.inputs)) := by simp [provenance, Dict.ofList]
  have outputs : (provenance graph task).parameters.get? "outputs" =
      some (.text (",".intercalate task.node.outputs)) := by simp [provenance, Dict.ofList]
  have shapes : (provenance graph task).parameters.get? "shapes" =
      some (.texts (shapeLines graph task.node.inputs ++ shapeLines graph task.node.outputs)) := by
    simp [provenance, Dict.ofList]
  refine (render_eq_ok_iff (provenance graph task) rfl).mpr ?_
  simp only [-String.reduceAppend, Library.provenance, evalAll_cons_eq_ok_iff,
    evalAll_nil_eq_ok_iff, eval_text_eq_ok_iff, eval_put_eq_ok_iff step, eval_put_eq_ok_iff name,
    eval_put_eq_ok_iff op, eval_put_eq_ok_iff inputs, eval_put_eq_ok_iff outputs,
    eval_each_texts _ _ attributes, eval_each_texts _ _ shapes, Except.ok.injEq,
    exists_eq_left', Value.render]
  -- The literal texts of the template, cut where a comment has its mark, its words and its end.
  have layer : "    // Layer " = "    // " ++ "Layer " := by decide +kernel
  have listed : "\n    // Attributes\n" = "\n" ++ ("    // " ++ ("Attributes" ++ "\n")) := by
    decide +kernel
  have read : "    // Inputs: " = "    // " ++ "Inputs: " := by decide +kernel
  have written : "\n    // Outputs: " = "\n" ++ ("    // " ++ "Outputs: ") := by decide +kernel
  have shaped : "\n    // Shapes:\n" = "\n" ++ ("    // " ++ ("Shapes:" ++ "\n")) := by
    decide +kernel
  simp only [-String.reduceAppend, layer, listed, read, written, shaped, join_indented, remarks,
    List.map_append, List.map_cons, List.map_nil, List.nil_append, List.cons_append,
    String.join_append, code_append, code_cons, code_nil, Statement.text, String.append_assoc,
    String.append_empty]

/-- The comment in front of a task consists of comment lines exactly when every text in it, behind
each of its line ends, goes on as a comment. So it does when none of them has a line end. -/
theorem commented_provenance_iff (graph : Graph) (task : Task) :
    ∃ printed, (provenance graph task).render .builtin = .ok printed ∧
      ((∀ line ∈ Text.lines printed, Commented line) ↔
        ∀ words ∈ remarks graph task, ∀ line ∈ Text.continuations words, Commented line) ∧
      ((∀ words ∈ remarks graph task, '\n' ∉ words.toList) →
        ∀ line ∈ Text.lines printed, Commented line) := by
  have exactly := commented_code_comment_iff (remarks graph task)
  refine ⟨_, render_provenance graph task, exactly, fun plain => exactly.mpr ?_⟩
  intro words listed line behind
  rw [Text.continuations_eq_nil (plain words listed)] at behind
  cases behind

/-- A node whose name has a line end. -/
def breaking : GraphSpec where
  name := "breaking"
  nodes := [⟨"stop\n    abort();", "Relu", ["x"], ["y"], .empty⟩]
  inputs := [⟨"x", 1, some [1, 2]⟩]
  outputs := [⟨"y", 1, some [1, 2]⟩]
  initializers := .empty
  values := []

private theorem compile_breaking : ∃ compilation,
    ((Compiler.plainCompiler.compile breaking).run.run []).1 = .ok compilation ∧
      ∃ task ∈ compilation.tasks, "Layer 0 stop\n    abort(); Relu" ∈
        remarks compilation.graph task := by
  have evaluated : (((Compiler.plainCompiler.compile breaking).run.run []).1.toOption.any
      fun compilation => decide (∃ task ∈ compilation.tasks,
        "Layer 0 stop\n    abort(); Relu" ∈ remarks compilation.graph task)) = true := by
    decide +kernel
  obtain ⟨compilation, compiled, holds⟩ := Outcome.eq_ok_of_any evaluated
  exact ⟨compilation, compiled, of_decide_eq_true holds⟩

/-- The rest of the name is a statement of the code. -/
theorem not_commented_provenance : ∃ compilation,
    ((Compiler.plainCompiler.compile breaking).run.run []).1 = .ok compilation ∧
      ∃ task ∈ compilation.tasks, ∃ printed,
        (provenance compilation.graph task).render .builtin = .ok printed ∧
          ¬ ∀ line ∈ Text.lines printed, Commented line := by
  obtain ⟨compilation, compiled, task, member, listed⟩ := compile_breaking
  obtain ⟨printed, rendered, exactly, -⟩ := commented_provenance_iff compilation.graph task
  refine ⟨compilation, compiled, task, member, printed, rendered, fun commented => ?_⟩
  have behind : "    abort(); Relu".toList ∈
      Text.continuations "Layer 0 stop\n    abort(); Relu" := by decide +kernel
  have code : ¬ Commented "    abort(); Relu".toList := by decide +kernel
  exact code (exactly.mp commented _ listed _ behind)

end Emission

end StaticNet
