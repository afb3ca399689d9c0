import PathRouting.Json.Tree

/-! TOML values. Tables list their entries in the order in which they were written. -/

namespace PathRouting

inductive Toml where
  | string (value : String)
  | integer (value : Int)
  /-- A double, by its bits. -/
  | float (bits : UInt64)
  | bool (value : Bool)
  /-- A date, a time or both, in normal form. -/
  | moment (text : String)
  | array (items : List Toml)
  | table (entries : List (String × Toml))
  deriving Repr, Inhabited

namespace Toml

/-- The name under which a date or time shows to a reader that expects a table. -/
def momentKey : String := "$__toml_private_datetime"

mutual

/-- The value as a tree that typed readers understand. -/
def toTree : Toml → Json.Tree
  | string value => .string (some value)
  | integer (.ofNat value) => .number (some (.natural value))
  | integer (.negSucc value) => .number (some (.negative (value + 1)))
  | float bits => .number (some (.double bits))
  | bool value => .bool value
  | moment text => .object [(some momentKey, .string (some text))]
  | array items => .array (treeItems items)
  | table entries => .object (treeFields entries)

def treeItems : List Toml → List Json.Tree
  | [] => []
  | item :: rest => toTree item :: treeItems rest

def treeFields : List (String × Toml) → List (Option String × Json.Tree)
  | [] => []
  | (key, value) :: rest => (some key, toTree value) :: treeFields rest

end

end Toml

end PathRouting
