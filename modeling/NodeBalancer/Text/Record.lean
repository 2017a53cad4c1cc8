/-!
# Records in diagnostics

A record is shown as its name and its fields between braces.  One that keeps some of its fields to
itself ends in two dots.
-/

namespace NodeBalancer.Text

def field (label value : String) : String :=
  label ++ ": " ++ value

def record (name : String) (fields : List String) : String :=
  name ++ " \x7b " ++ String.intercalate ", " fields ++ " \x7d"

def openRecord (name : String) (fields : List String) : String :=
  record name (fields ++ [".."])

def showList (items : List String) : String :=
  "[" ++ String.intercalate ", " items ++ "]"

def showBool : Bool → String
  | true => "true"
  | false => "false"

end NodeBalancer.Text
