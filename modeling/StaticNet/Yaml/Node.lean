import StaticNet.Yaml.Fault

/-! # Nodes

The nodes of a document. Every node knows the line, counted from one, on which it starts, and the
tag that is written at it.
-/

namespace StaticNet.Yaml

/-- A node of a document. A reference holds the node that its anchor marks; if that node encloses
the reference, it is held without what is in it. -/
inductive Node where
  | scalar (line : Nat) (tag : Option String) (text : String) (isQuoted : Bool)
  | sequence (line : Nat) (tag : Option String) (items : List Node)
  | mapping (line : Nat) (tag : Option String) (entries : List (Node × Node))
  | reference (line : Nat) (name : String) (target : Node) (isEnclosing : Bool)

namespace Node

/-- A missing node. -/
def missing (line : Nat) : Node := .scalar (line + 1) none "" false

/-- The line on which a node starts. -/
def line : Node → Nat
  | .scalar line _ _ _ | .sequence line _ _ | .mapping line _ _ | .reference line _ _ _ => line

end Node

/-- The start of the tags that are written with two exclamation marks. -/
def standardTag : String := "tag:yaml.org,2002:"

/-- A tag in its short form. -/
def shortTag (tag : String) : String :=
  if tag.startsWith standardTag then "!!" ++ (tag.drop standardTag.length).toString else tag

end StaticNet.Yaml
