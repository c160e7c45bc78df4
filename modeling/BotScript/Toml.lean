/-! TOML data.  Numbers with a fraction, dates and times are told apart from the rest but their
values are not kept. -/

namespace BotScript

/-- A TOML value.  The entries of a table are in the order of their appearance. -/
inductive Toml
  | text (s : String)
  | integer (n : Int)
  | float
  | bool (b : Bool)
  | time
  | array (items : List Toml)
  | table (entries : List (String × Toml))

end BotScript
