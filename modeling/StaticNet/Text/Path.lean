/-! # Slash-separated paths

Lexical operations on paths: the shortest equivalent path, joining, and the last element.
-/

namespace StaticNet.Path

/-- The elements of a path between its slashes. -/
def elements (path : String) : List String := (path.toList.splitOn '/').map String.ofList

/-- Drop empty and `.` elements and let `..` cancel the element before it. The elements kept so
far are given last first. -/
def resolve (rooted : Bool) : List String → List String → List String
  | kept, [] => kept.reverse
  | kept, element :: rest =>
      if element = "" ∨ element = "." then resolve rooted kept rest
      else if element = ".." then
        match kept with
        | [] => resolve rooted (if rooted then [] else [".."]) rest
        | last :: before =>
            if last = ".." then resolve rooted (".." :: kept) rest else resolve rooted before rest
      else resolve rooted (element :: kept) rest

/-- The shortest path equivalent to the given one. -/
def clean (path : String) : String :=
  let rooted : Bool := path.toList.head? = some '/'
  let body := "/".intercalate (resolve rooted [] (elements path))
  if rooted then "/" ++ body
  else if body = "" then "."
  else body

/-- Two paths joined by a slash, in shortest form; an empty one is left out. -/
def join (left right : String) : String :=
  if left = "" then if right = "" then "" else clean right
  else if right = "" then clean left
  else clean (left ++ "/" ++ right)

/-- The last element of a path, trailing slashes aside. -/
def base (path : String) : String :=
  if path = "" then "."
  else
    match (elements path).reverse.find? fun element => element ≠ "" with
    | some element => element
    | none => "/"

/-- Whether a path names something below the directory that it is taken from without any detour:
its elements are neither empty nor made of one or two dots. -/
def isProper (path : String) : Bool :=
  (elements path).all fun element => element ≠ "" && element ≠ "." && element ≠ ".."

end StaticNet.Path
