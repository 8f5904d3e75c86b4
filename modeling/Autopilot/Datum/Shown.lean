import Autopilot.Datum

/-!
Data as error messages show them: each with its kind, and text in quotes.
-/

namespace Autopilot.Datum

mutual

def shown : Datum → String
  | .null => "Null"
  | .bool b => s!"Bool({b})"
  | .int n => s!"Number({n})"
  | .real x => s!"Number({Decimal.yaml.text x})"
  | .text s => s!"String({Text.quoted s})"
  | .list items => "Sequence [" ++ ", ".intercalate (shownItems items) ++ "]"
  | .table rows => "Mapping \x7b" ++ ", ".intercalate (shownRows rows) ++ "\x7d"
  | .tagged tag content => "TaggedValue \x7b tag: " ++ tag ++ ", value: " ++ shown content ++ " \x7d"

/-- Keys that are truth values, numbers or text are shown without their kind. -/
def shownKey : Datum → String
  | .bool b => toString b
  | .int n => toString n
  | .real x => Decimal.yaml.text x
  | .text s => Text.quoted s
  | key => shown key

def shownItems : List Datum → List String
  | [] => []
  | item :: rest => shown item :: shownItems rest

def shownRows : List (Datum × Datum) → List String
  | [] => []
  | (key, value) :: rest => (shownKey key ++ ": " ++ shown value) :: shownRows rest

end

end Autopilot.Datum
