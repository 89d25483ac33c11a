import EngineSync.Decimal.Integer
import EngineSync.Text.Quoted

/-!
# Outlines

The short form in which a report shows a record: its name, its fields in braces, and two dots where
the record holds more than it shows.
-/
namespace EngineSync.Text

/-- A flag as a word. -/
def flag (value : Bool) : String :=
  if value then "true" else "false"

/-- A record with the fields it shows. -/
def outline (name : String) (fields : List (String × String)) (more : Bool) : String :=
  let shown := ", ".intercalate (fields.map fun (field, value) => field ++ ": " ++ value)
  name ++ " \x7b " ++ shown ++ (if more then ", .. \x7d" else " \x7d")

end EngineSync.Text
