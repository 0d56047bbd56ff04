/-!
This module contains comma separated values: records of fields, one record a line. A field that holds
a comma, a double quote or a line feed is put in double quotes, and its double quotes are doubled.
-/

namespace MarkdownIntake.Csv

def needsQuotes (field : List Char) : Bool :=
  field.any fun c => c = ',' || c = '"' || c = '\n'

def doubleQuotes : List Char → List Char
  | [] => []
  | c :: rest => if c = '"' then '"' :: '"' :: doubleQuotes rest else c :: doubleQuotes rest

def fieldText (field : List Char) : List Char :=
  if needsQuotes field then '"' :: (doubleQuotes field ++ ['"']) else field

def recordText : List (List Char) → List Char
  | [] => []
  | [field] => fieldText field
  | field :: fields => fieldText field ++ ',' :: recordText fields

/-- The written form of a list of records. The last line has no end. -/
def text : List (List (List Char)) → List Char
  | [] => []
  | [record] => recordText record
  | record :: records => recordText record ++ '\n' :: text records

end MarkdownIntake.Csv
