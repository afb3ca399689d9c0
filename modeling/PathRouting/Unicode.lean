import PathRouting.Unicode.Age
import PathRouting.Unicode.Boundary
import PathRouting.Unicode.Folding
import PathRouting.Unicode.Lookup
import PathRouting.Unicode.ScriptExtension
import PathRouting.Unicode.WordClass

/-! Classes of characters by the names of Unicode properties, as patterns give them. -/

namespace PathRouting.Unicode

/-- The class that a single name stands for: a property, a general category or a
script, looked up in that order. `cf`, `sc` and `lc` name categories. -/
def byName? (name : String) : Option CharSet :=
  let name := looseName name
  let property := if name ∈ ["cf", "sc", "lc"] then none else lookup? properties name
  property <|> category? name <|> lookup? scripts name

/-- All characters assigned up to the version of that name. -/
def age? (name : String) : Option CharSet :=
  let isNamed (entry : String × List String) : Bool :=
    (splitAt ' ' entry.1.toList).any fun known => String.ofList known == name
  if ages.any isNamed then
    let older := ages.takeWhile fun entry => !isNamed entry
    let last := (ages.filter isNamed).take 1
    some ((older ++ last).foldl (fun set entry => set.union (decode entry.2)) CharSet.empty)
  else none

/-- The class of the characters whose property `name` has the given value. -/
def byValue? (name value : String) : Option CharSet :=
  let name := looseName name
  let value := looseName value
  if name ∈ ["gc", "generalcategory"] then category? value
  else if name ∈ ["sc", "script"] then lookup? scripts value
  else if name ∈ ["scx", "scriptextensions"] then lookup? scriptExtensions value
  else if name = "age" then age? value
  else if name ∈ ["gcb", "graphemeclusterbreak"] then clusterBreak? value
  else if name ∈ ["wb", "wordbreak"] then wordBreak? value
  else if name ∈ ["sb", "sentencebreak"] then sentenceBreak? value
  else none

/-- Whether a character is a letter or another character with the property Alphabetic. -/
def isAlphabetic (c : Char) : Bool :=
  if c.toNat < 128 then Text.isLetter c
  else (withProperty "alphabetic").contains c

/-- Whether a character is alphabetic or a number of any kind. -/
def isAlphanumeric (c : Char) : Bool :=
  if c.toNat < 128 then Text.isLetter c || Text.isDigit c
  else isAlphabetic c || (categoryUnion ["nd", "nl", "no"]).contains c

end PathRouting.Unicode
