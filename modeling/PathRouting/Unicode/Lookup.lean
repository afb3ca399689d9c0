import PathRouting.Unicode.Category
import PathRouting.Unicode.Property
import PathRouting.Unicode.Ranges
import PathRouting.Unicode.Script

/-! Finding classes of characters in the tables. Names are compared without regard to
case, blanks, hyphens and underscores, and a leading `is` does not count. -/

namespace PathRouting.Unicode

/-- The form of a name that is compared. Characters beyond ASCII are dropped. -/
def looseName (name : String) : String :=
  let chars := name.toList
  let (hasIs, body) :=
    match chars with
    | a :: b :: rest => if a.toLower = 'i' && b.toLower = 's' then (true, rest) else (false, chars)
    | _ => (false, chars)
  let kept :=
    (body.filter fun c => c ≠ ' ' && c ≠ '_' && c ≠ '-' && c.toNat < 128).map Char.toLower
  -- "isc" is a property of its own and not the category "c"
  if hasIs && kept = ['c'] then "isc" else String.ofList kept

/-- The entry of a table that has the given name. -/
def lookup? (table : List (String × List String)) (name : String) : Option CharSet :=
  (table.find? fun entry =>
    (splitAt ' ' entry.1.toList).any fun known => String.ofList known == name).map
      fun entry => decode entry.2

def withProperty (name : String) : CharSet := (lookup? properties name).getD CharSet.empty

def ofScript (name : String) : CharSet := (lookup? scripts name).getD CharSet.empty

/-- The union of several general categories. -/
def categoryUnion (names : List String) : CharSet :=
  names.foldl (fun set name => set.union ((lookup? categories name).getD CharSet.empty))
    CharSet.empty

/-- The general category, or group of categories, of that name. -/
def category? (name : String) : Option CharSet :=
  if name = "any" then some CharSet.full
  else if name = "ascii" then some ⟨[(0, 0x7f)]⟩
  else if name = "assigned" then some (categoryUnion ["cn"]).complement
  else if name ∈ ["l", "letter"] then some (categoryUnion ["lu", "ll", "lt", "lm", "lo"])
  else if name ∈ ["lc", "casedletter"] then some (categoryUnion ["lu", "ll", "lt"])
  else if name ∈ ["m", "mark", "combiningmark"] then some (categoryUnion ["mn", "mc", "me"])
  else if name ∈ ["n", "number"] then some (categoryUnion ["nd", "nl", "no"])
  else if name ∈ ["p", "punctuation", "punct"] then
    some (categoryUnion ["pc", "pd", "ps", "pe", "pi", "pf", "po"])
  else if name ∈ ["s", "symbol"] then some (categoryUnion ["sm", "sc", "sk", "so"])
  else if name ∈ ["z", "separator"] then some (categoryUnion ["zs", "zl", "zp"])
  else if name ∈ ["c", "other"] then some (categoryUnion ["cc", "cf", "co", "cn"])
  else lookup? categories name

end PathRouting.Unicode
