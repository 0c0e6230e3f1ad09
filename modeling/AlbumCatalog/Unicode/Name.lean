import AlbumCatalog.Unicode.CaseProperty
import AlbumCatalog.Unicode.Category
import AlbumCatalog.Unicode.GraphemeProperty
import AlbumCatalog.Unicode.LetterProperty
import AlbumCatalog.Unicode.Script
import AlbumCatalog.Unicode.ScriptExtension
import AlbumCatalog.Unicode.SignProperty

/-!
# Sets of characters by name

Names are compared loosely: case, blanks, underscores and hyphens do not matter, nor does `is` in
front. A single word is looked for among the properties, the general categories and the scripts, in
this order.

The tables hold the properties that a character has or has not, the general categories, the scripts
and their extensions. Other properties with values are not known: the age, as in `\p{Age:6.0}`, and
the breaks of graphemes, words and sentences, as in `\p{gcb=Extend}`, `\p{wb=Katakana}` and
`\p{sb=ATerm}`. A pattern that names one of them is refused, though the syntax of regular
expressions has them.
-/

namespace AlbumCatalog

/-- What is compared of a name. The word `isc` is short for a property of its own and keeps its
first two letters. -/
def looseName (name : List Char) : String :=
  let lower := name.map Char.toLower
  let isFirst := ['i', 's'].isPrefixOf lower
  let rest := (if isFirst then lower.drop 2 else lower).filter fun c =>
    c.toNat < 0x80 && !(c == ' ' || c == '_' || c == '-')
  if isFirst && rest == ['c'] then "isc" else String.ofList rest

/-- The characters that have a property, if it is one of the tables'. -/
def property? (name : String) : Option CharSet :=
  findSet? (casePropertyTable ++ letterPropertyTable ++ graphemePropertyTable ++ signPropertyTable)
    name

/-- The names of groups of categories, and the categories in them. -/
def categoryGroups : List (List String × List String) := [
  (["letter", "l"], ["lu", "ll", "lt", "lm", "lo"]),
  (["casedletter", "lc"], ["lu", "ll", "lt"]),
  (["mark", "combiningmark", "m"], ["mn", "mc", "me"]),
  (["number", "n"], ["nd", "nl", "no"]),
  (["punctuation", "punct", "p"], ["pc", "pd", "ps", "pe", "pi", "pf", "po"]),
  (["symbol", "s"], ["sm", "sc", "sk", "so"]),
  (["separator", "z"], ["zs", "zl", "zp"])]

def categoriesOf (names : List String) : CharSet :=
  ⟨names.flatMap fun name => ((findSet? categoryTable name).getD .empty).ranges⟩

/-- The characters that have a category. -/
def assigned : CharSet :=
  ⟨categoryTable.flatMap fun e => (CharSet.ofTable e.table).ranges⟩

def category? (name : String) : Option CharSet :=
  if name = "any" then some .all
  else if name = "ascii" then some ⟨[⟨0, 0x7F⟩]⟩
  else if name = "assigned" then some assigned
  else if name = "unassigned" ∨ name = "cn" then some assigned.complement
  else if name = "other" ∨ name = "c" then
    some ((categoriesOf ["cc", "cf", "co"]).union assigned.complement)
  else
    match categoryGroups.find? (·.1.contains name) with
    | some group => some (categoriesOf group.2)
    | none => findSet? categoryTable name

/-- The set that a single word names. The short names of three categories are also those of
properties that are no sets, and stand for the categories. -/
def wordNamed? (name : List Char) : Option CharSet :=
  let word := looseName name
  let category := category? word <|> findSet? scriptTable word
  if ["cf", "sc", "lc"].contains word then category else property? word <|> category

/-- The characters for which a property has a value. Only categories, scripts and their extensions
have values here; any other property names no set. -/
def valueNamed? (property value : List Char) : Option CharSet :=
  let value := looseName value
  match looseName property with
  | "gc" | "generalcategory" => category? value
  | "sc" | "script" => findSet? scriptTable value
  | "scx" | "scriptextensions" => findSet? scriptExtensionTable value
  | _ => none

/-- The set of all characters with one of the properties or categories. -/
def charsWith (names : List String) : CharSet :=
  ⟨names.flatMap fun name => ((property? name <|> category? name).getD .empty).ranges⟩

/-- Digits that write numbers in tens. -/
def digitChars : CharSet :=
  charsWith ["nd"]

def whiteChars : CharSet :=
  charsWith ["whitespace"]

/-- Letters and marks, digits, and the signs that join words. -/
def wordChars : CharSet :=
  charsWith ["alphabetic", "m", "nd", "pc", "joincontrol"]

def letterChars : CharSet :=
  charsWith ["alphabetic"]

def numberChars : CharSet :=
  charsWith ["n"]

end AlbumCatalog
