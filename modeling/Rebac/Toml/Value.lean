namespace Rebac.Toml

/-!
# Values of a TOML text

A value as it is written. An inline table is the list of its entries, each under a path of keys;
what the entries of one table make together is found out where whole texts are read.
-/

/-- A written value. -/
inductive Literal where
  | text (value : String)
  | integer (value : Int)
  | float (value : Float)
  | flag (value : Bool)
  | date (written : String)
  | array (items : List Literal)
  | table (entries : List (List String × Literal))
  deriving Inhabited

/-- A value. -/
inductive Value where
  | text (value : String)
  | integer (value : Int)
  | float (value : Float)
  | flag (value : Bool)
  | date (written : String)
  | array (items : List Value)
  | table (entries : List (String × Value))
  deriving Inhabited

/-- Reads a value from the front of a text. -/
abbrev Reader (α : Type) := List Char → Option (α × List Char)

end Rebac.Toml
