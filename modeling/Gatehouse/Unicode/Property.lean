import Gatehouse.Unicode.Age
import Gatehouse.Unicode.Binary
import Gatehouse.Unicode.Break
import Gatehouse.Unicode.Category
import Gatehouse.Unicode.Script

/-!
# Unicode properties by name

Properties, and values of properties, are named loosely: case, blanks, hyphens, underscores and a
leading `is` do not count. `propertySet? name` finds a binary property, a general category or a
script; `valueSet? property value` a property that takes values.
-/

namespace Gatehouse.Unicode

/-- The form of a name in which names are compared. Of `isc`, the `is` counts. -/
def looseName (name : String) : String :=
  let kept (cs : List Char) : List Char :=
    (cs.filter fun c => c.toNat < 0x80 && c ≠ ' ' && c ≠ '_' && c ≠ '-').map Char.toLower
  match name.toList with
  | i :: s :: rest =>
    if (i = 'i' || i = 'I') && (s = 's' || s = 'S') then
      let cs := kept rest
      if cs = ['c'] then "isc" else String.ofList cs
    else String.ofList (kept (i :: s :: rest))
  | cs => String.ofList (kept cs)

/-- The union of some categories. -/
def unionOf (codes : List String) : CharSet :=
  CharSet.ofRanges <| codes.flatMap fun code =>
    ((findRow? categories code).map Row.set |>.getD .empty).ranges

/-- The surrogates. No character is one, so their category has no name: only its code points are set
apart from the unassigned ones. -/
def surrogates : CharSet := ⟨[(0xD800, 0xDFFF)]⟩

/-- The code points without an assigned category. -/
def unassigned : CharSet :=
  let assigned := CharSet.ofRanges (categories.flatMap fun row => (Row.set row).ranges)
  (assigned.union surrogates).complement

/-- The categories of assigned characters in the group `Other`. -/
def otherCodes : List String := ["cc", "cf", "co"]

/-- The groups of categories that a name stands for. -/
def categoryGroup? (name : String) : Option CharSet :=
  match name with
  | "l" | "letter" => some (unionOf ["lu", "ll", "lt", "lm", "lo"])
  | "lc" | "casedletter" => some (unionOf ["lu", "ll", "lt"])
  | "m" | "mark" | "combiningmark" => some (unionOf ["mn", "mc", "me"])
  | "n" | "number" => some (unionOf ["nd", "nl", "no"])
  | "p" | "punctuation" | "punct" => some (unionOf ["pc", "pd", "ps", "pe", "pi", "pf", "po"])
  | "s" | "symbol" => some (unionOf ["sm", "sc", "sk", "so"])
  | "z" | "separator" => some (unionOf ["zs", "zl", "zp"])
  | "c" | "other" => some ((unionOf otherCodes).union (surrogates.union unassigned))
  | "cn" | "unassigned" => some unassigned
  | "any" => some ⟨[(0, lastCodePoint)]⟩
  | "assigned" => some unassigned.complement
  | "ascii" => some ⟨[(0, 0x7F)]⟩
  | _ => none

/-- A general category, or a group of them, by its loose name. -/
def category? (name : String) : Option CharSet :=
  (categoryGroup? name).or ((findRow? categories name).map Row.set)

/-- A script by its loose name. -/
def script? (name : String) : Option CharSet := (findRow? scripts name).map Row.set

/-- The characters used with a script, by its loose name. -/
def scriptExtension? (name : String) : Option CharSet :=
  ((findRow? scriptExtensions name).or (findRow? scripts name)).map Row.set

/-- The characters assigned up to a version. -/
def age? (name : String) : Option CharSet :=
  let upTo := ages.takeWhile fun row => !row.names.contains name
  match ages.drop upTo.length with
  | [] => none
  | row :: _ => some (CharSet.ofRanges ((row :: upTo).flatMap fun r => (Row.set r).ranges))

/-- A binary property by its loose name. Three names are also general categories, and mean those. -/
def binary? (name : String) : Option CharSet :=
  if name = "cf" || name = "sc" || name = "lc" || name = "isc" then none
  else (findRow? binaryProperties name).map Row.set

/-- The set of a property without a value. -/
def propertySet? (name : String) : Option CharSet :=
  let loose := looseName name
  (binary? loose).or ((category? loose).or (script? loose))

/-- The set of a property with a value. -/
def valueSet? (property value : String) : Option CharSet :=
  let loose := looseName value
  match looseName property with
  | "gc" | "generalcategory" => category? loose
  | "sc" | "script" => script? loose
  | "scx" | "scriptextensions" => scriptExtension? loose
  | "age" => age? loose
  | "gcb" | "graphemeclusterbreak" => (findRow? graphemeBreaks loose).map Row.set
  | "wb" | "wordbreak" => (findRow? wordBreaks loose).map Row.set
  | "sb" | "sentencebreak" => (findRow? sentenceBreaks loose).map Row.set
  | _ => none

/-- The characters of words: letters, marks, decimal digits, connectors and joiners. -/
def wordSet : CharSet :=
  CharSet.ofRanges <|
    ((["alpha", "joinc"].filterMap (findRow? binaryProperties)) ++
      (["mn", "mc", "me", "nd", "pc"].filterMap (findRow? categories))).flatMap
        fun row => (Row.set row).ranges

/-- The decimal digits. -/
def digitSet : CharSet := unionOf ["nd"]

/-- The characters with the property `White_Space`. -/
def spaceSet : CharSet := (propertySet? "whitespace").getD .empty

/-- The letters that only Unicode 17 assigns. Names may hold them; no property here has them yet. -/
def laterLetters : Row := ("letters",
"88F C5C CDC A7CE-A7CF A7D2 A7D4 A7F1 10940-10959 10EC5-10EC7 10EFA-10EFB 11B60-11B67 11DB0-11DDB
16EA0-16EB8 16EBB-16ED3 16FF2-16FF6 187F8-187FF 18D09-18D1E 18D80-18DF2 1E6C0-1E6DE 1E6E0-1E6F5
1E6FE-1E6FF 2B73A-2B73F 2CEA2-2CEAD 323B0-33479")

/-- The digits that only Unicode 17 assigns. Names may hold them; no property here has them yet. -/
def laterDigits : Row := ("digits", "11DE0-11DE9")

/-- The alphabetic characters. -/
def alphabeticSet : CharSet :=
  ((propertySet? "alphabetic").getD .empty).union (Row.set laterLetters)

/-- The letters and numbers. -/
def alphanumericSet : CharSet :=
  alphabeticSet.union ((unionOf ["nd", "nl", "no"]).union (Row.set laterDigits))

end Gatehouse.Unicode
