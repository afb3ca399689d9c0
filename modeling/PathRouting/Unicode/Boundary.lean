import PathRouting.Unicode.Lookup

/-! Classes of characters by the part that they play at the boundaries of clusters,
words and sentences. They follow from other properties, with some characters named
one by one. The classes of one kind have no character in common, and a character
without a class may stand anywhere. -/

namespace PathRouting.Unicode

/-- The marks that extend the character before them in a cluster. -/
def clusterExtenders : CharSet :=
  ((withProperty "graphemeextend").union (withProperty "emojimodifier")).diff (decode ["200D"])

/-- The syllables of Hangul without a final consonant. -/
def openSyllables : CharSet :=
  ⟨(List.range 399).map fun index => (0xac00 + 28 * index, 0xac00 + 28 * index)⟩

/-- The characters that control the layout of text, and code points kept free for them. -/
def layoutControls : CharSet :=
  (categoryUnion ["zl", "zp", "cc", "cf"]).union
    ((categoryUnion ["cn"]).inter (withProperty "defaultignorablecodepoint"))

/-- The class of characters with one part at the boundaries of clusters. -/
def clusterBreak? (value : String) : Option CharSet :=
  if value = "cr" then some (decode ["D"])
  else if value = "lf" then some (decode ["A"])
  else if value = "zwj" then some (decode ["200D"])
  else if value ∈ ["cn", "control"] then
    some ([decode ["A D 200C-200D"], withProperty "prependedconcatenationmark",
      withProperty "graphemeextend"].foldl CharSet.diff layoutControls)
  else if value ∈ ["ex", "extend"] then some clusterExtenders
  else if value ∈ ["ri", "regionalindicator"] then some (withProperty "regionalindicator")
  else if value ∈ ["pp", "prepend"] then
    some ((withProperty "prependedconcatenationmark").union
      (decode ["D4E 111C2-111C3 113D1 1193F 11941 11A3A 11A84-11A89 11D46 11F02"]))
  else if value ∈ ["sm", "spacingmark"] then
    some ((((categoryUnion ["mc"]).union (decode ["E33 EB3"])).diff clusterExtenders).diff
      (decode ["102B-102C 1038 1062-1064 1067-106D 1083 1087-108C 108F 109A-109C 1A61 1A63-1A64",
        "AA7B AA7D 11720-11721"]))
  else if value = "l" then some (decode ["1100-115F A960-A97C"])
  else if value = "v" then some (decode ["1160-11A7 D7B0-D7C6 16D63 16D67-16D6A"])
  else if value = "t" then some (decode ["11A8-11FF D7CB-D7FB"])
  else if value = "lv" then some openSyllables
  else if value = "lvt" then some ((decode ["AC00-D7A3"]).diff openSyllables)
  else none

/-- Marks that stand before a number. -/
def numberMarks : CharSet := decode ["600-605 6DD 890-891 8E2 110BD 110CD"]

/-- The marks that extend the character before them in a word. -/
def wordExtenders : CharSet := clusterExtenders.union (categoryUnion ["mc"])

/-- The letters of Katakana and the signs that go with them. -/
def katakanaLetters : CharSet :=
  (ofScript "katakana").union (decode ["3031-3035 309B-309C 30A0 30FC FF70"])

def hebrewLetters : CharSet := (ofScript "hebrew").inter (categoryUnion ["lo"])

/-- The scripts in which words are not told apart by their characters. -/
def unspacedScripts : CharSet :=
  ["thai", "lao", "myanmar", "khmer", "taile", "newtailue", "taitham", "taiviet", "ahom",
    "hiragana"].foldl (fun set name => set.union (ofScript name)) CharSet.empty

/-- The letters of words in all other scripts. -/
def wordLetters : CharSet :=
  [withProperty "ideographic", katakanaLetters, unspacedScripts, wordExtenders,
    hebrewLetters].foldl CharSet.diff
      ((withProperty "alphabetic").union
        (decode ["2C2-2C5 2D2-2D7 2DE-2DF 2E5-2EB 2ED 2EF-2FF 55A-55C 55E 58A 5F3 70F A708-A716",
          "A720-A721 A789-A78A AB5B"]))

/-- The class of characters with one part at the boundaries of words. -/
def wordBreak? (value : String) : Option CharSet :=
  if value = "cr" then some (decode ["D"])
  else if value = "lf" then some (decode ["A"])
  else if value ∈ ["nl", "newline"] then some (decode ["B-C 85 2028-2029"])
  else if value = "zwj" then some (decode ["200D"])
  else if value = "extend" then some wordExtenders
  else if value ∈ ["ri", "regionalindicator"] then some (withProperty "regionalindicator")
  else if value ∈ ["fo", "format"] then
    some ([decode ["70F 200B-200D"], numberMarks, wordExtenders].foldl CharSet.diff
      (categoryUnion ["cf"]))
  else if value ∈ ["ka", "katakana"] then some katakanaLetters
  else if value ∈ ["hl", "hebrewletter"] then some hebrewLetters
  else if value ∈ ["le", "aletter"] then some wordLetters
  else if value ∈ ["sq", "singlequote"] then some (decode ["27"])
  else if value ∈ ["dq", "doublequote"] then some (decode ["22"])
  else if value ∈ ["mb", "midnumlet"] then some (decode ["2E 2018-2019 2024 FE52 FF07 FF0E"])
  else if value ∈ ["ml", "midletter"] then
    some (decode ["3A B7 387 55F 5F4 2027 FE13 FE55 FF1A"])
  else if value ∈ ["mn", "midnum"] then
    some (decode ["2C 3B 37E 589 60C-60D 66C 7F8 2044 FE10 FE14 FE50 FE54 FF0C FF1B"])
  else if value ∈ ["nu", "numeric"] then
    some (((categoryUnion ["nd"]).union (decode ["66B"])).union numberMarks)
  else if value ∈ ["ex", "extendnumlet"] then
    some ((categoryUnion ["pc"]).union (decode ["202F"]))
  else if value = "wsegspace" then
    some ((categoryUnion ["zs"]).diff (decode ["A0 2007 202F"]))
  else none

/-- The marks that extend the character before them in a sentence. -/
def sentenceExtenders : CharSet :=
  ((withProperty "graphemeextend").union (categoryUnion ["mc"])).union (decode ["200D"])

/-- The points that may end a sentence. -/
def sentencePoints : CharSet := decode ["2E 2024 FE52 FF0E"]

/-- The letters that are small where there are two sizes. -/
def smallLetters : CharSet :=
  ((withProperty "lowercase").diff (withProperty "graphemeextend")).diff
    (decode ["10D0-10FA 10FD-10FF"])

/-- The letters that are large where there are two sizes. -/
def largeLetters : CharSet :=
  ((withProperty "uppercase").union (categoryUnion ["lt"])).diff (decode ["1C90-1CBA 1CBD-1CBF"])

def quotationMarks : CharSet :=
  (categoryUnion ["pi", "pf"]).union (decode ["22 27 275B-2760 2E00-2E0D 1F676-1F678"])

/-- The class of characters with one part at the boundaries of sentences. -/
def sentenceBreak? (value : String) : Option CharSet :=
  if value = "cr" then some (decode ["D"])
  else if value = "lf" then some (decode ["A"])
  else if value ∈ ["se", "sep"] then some (decode ["85 2028-2029"])
  else if value ∈ ["ex", "extend"] then some sentenceExtenders
  else if value ∈ ["fo", "format"] then
    some ([decode ["200C-200D"], numberMarks, sentenceExtenders].foldl CharSet.diff
      (categoryUnion ["cf"]))
  else if value = "sp" then
    some ((withProperty "whitespace").diff (decode ["A D 85 2028-2029"]))
  else if value ∈ ["lo", "lower"] then some smallLetters
  else if value ∈ ["up", "upper"] then some largeLetters
  else if value ∈ ["le", "oletter"] then
    some ([smallLetters, largeLetters, sentenceExtenders].foldl CharSet.diff
      ((withProperty "alphabetic").union (decode ["5F3"])))
  else if value ∈ ["nu", "numeric"] then
    some (((categoryUnion ["nd"]).union (decode ["66B-66C"])).union numberMarks)
  else if value ∈ ["at", "aterm"] then some sentencePoints
  else if value ∈ ["sc", "scontinue"] then
    some (decode ["2C-2D 3A-3B 37E 55D 60C-60D 7F8 1802 1808 2013-2014 3001 FE10-FE11 FE13-FE14",
      "FE31-FE32 FE50-FE51 FE54-FE55 FE58 FE63 FF0C-FF0D FF1A-FF1B FF64"])
  else if value ∈ ["st", "sterm"] then
    some ((withProperty "sentenceterminal").diff sentencePoints)
  else if value ∈ ["cl", "close"] then
    some ([decode ["5F3"], sentencePoints, withProperty "sentenceterminal"].foldl CharSet.diff
      ((categoryUnion ["ps", "pe"]).union quotationMarks))
  else none

end PathRouting.Unicode
