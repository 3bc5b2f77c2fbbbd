import Transactor.Text.Quoted

namespace Transactor.Text

/-- A value with named fields; `more` marks fields that are not shown. -/
def inspectedFields (name : String) (fields : List (String × String)) (more : Bool) : String :=
  let shown := fields.map fun f => f.1 ++ ": " ++ f.2
  name ++ " \x7b " ++ String.intercalate ", " (if more then shown ++ [".."] else shown) ++ " \x7d"

def inspectedRecord (name : String) (fields : List (String × String)) : String :=
  inspectedFields name fields false

def inspectedPart (name part : String) : String := name ++ "(" ++ part ++ ")"

def inspectedList (items : List String) : String := "[" ++ String.intercalate ", " items ++ "]"

def inspectedOption : Option String → String
  | some s => inspectedPart "Some" s
  | none => "None"

end Transactor.Text
