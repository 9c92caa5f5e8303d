/-!
# Records in writing

Values with parts are described by their name and their parts: named parts
stand between braces, unnamed ones between parentheses, and the members of a
list between brackets.
-/

namespace PegEngine

namespace Record

/-- A value with named parts. -/
def named (name : String) (parts : List (String × String)) : String :=
  name ++ " \x7b " ++
    ", ".intercalate (parts.map fun (part, text) => part ++ ": " ++ text) ++
      " \x7d"

/-- A value whose parts have no names. -/
def unnamed (name : String) (parts : List String) : String :=
  name ++ "(" ++ ", ".intercalate parts ++ ")"

def list (members : List String) : String :=
  "[" ++ ", ".intercalate members ++ "]"

/-- A value that may be absent. -/
def option : Option String → String
  | none => "None"
  | some text => unnamed "Some" [text]

def bool : Bool → String
  | true => "true"
  | false => "false"

end Record

end PegEngine
