import StringsAudit.Pattern.Properties
import StringsAudit.Text.AgeTable
import StringsAudit.Text.ScriptExtensionTable
import StringsAudit.Text.ScriptTable

/-!
# Named sets of characters

## Main definitions

* `CharSet.ofName?` : the set with a name of the Unicode standard.
* `CharSet.ofValue?` : the set of characters for which a property has a value.
* `CharSet.ofPosixName?` : the ASCII set with a POSIX name.
-/

namespace StringsAudit
namespace Pattern
namespace CharSet

/-- A name in lower case, without separators and without a leading `is`. -/
def plainName (name : String) : String :=
  let keep (text : List Char) : List Char :=
    (text.filter fun c => c.toNat ≤ 0x7F && c != ' ' && c != '_' && c != '-').map Char.toLower
  match name.toList with
  | a :: b :: rest =>
      if (a == 'i' || a == 'I') && (b == 's' || b == 'S') then
        let plain := keep rest
        String.ofList (if plain == ['c'] then ['i', 's', 'c'] else plain)
      else String.ofList (keep (a :: b :: rest))
  | text => String.ofList (keep text)

/-- The value of a name in a list of named values. -/
def lookupName? {α : Type} (name : String) (named : List (List String × α)) : Option α :=
  (named.find? fun entry => entry.1.contains name).map (·.2)

/-- The set of a general category, or of one of the sets that go with them. -/
def ofCategoryName? (name : String) : Option CharSet :=
  if name == "any" then some all
  else if name == "ascii" then some ascii
  else if name == "assigned" then some (compl (listed [Text.Category.unassignedRanges]))
  else (lookupName? name Text.Category.named).map listed

/-- The set of a script. -/
def ofScriptName? (name : String) : Option CharSet :=
  (lookupName? name Text.Script.named).map fun table => listed [table]

/--
The characters that a script uses: its own, without those that only some scripts use, and those of
the latter that it is one of the users of.
-/
def ofScriptExtensionName? (name : String) : Option CharSet :=
  (Text.Script.named.find? fun entry => entry.1.contains name).map fun entry =>
    let borrowed? := Text.Script.borrowed.find? fun lent => entry.1.contains lent.1
    union (without (listed [entry.2]) (listed [Text.Script.lentRanges]))
      (listed (borrowed?.map (·.2)).toList)

/-- The characters that a version of the standard knows, which came with it or before it. -/
def ofAge? (name : String) : Option CharSet :=
  let before := Text.Age.versions.takeWhile fun version => !version.1.contains name
  (lookupName? name Text.Age.versions).map fun table =>
    listed (before.map (·.2) ++ [table])

/-- The set with a name of the Unicode standard: a property, a general category or a script. -/
def ofName? (name : String) : Option CharSet :=
  let plain := plainName name
  (lookupName? plain namedProperties).or
    ((ofCategoryName? plain).or (ofScriptName? plain))

/--
The set of characters for which a property has a value. The segmentation properties have no tables
here, so that their values are not known.
-/
def ofValue? (property value : String) : Option CharSet :=
  let property := plainName property
  if property == "gc" || property == "generalcategory" then ofCategoryName? (plainName value)
  else if property == "sc" || property == "script" then ofScriptName? (plainName value)
  else if property == "scx" || property == "scriptextensions" then
    ofScriptExtensionName? (plainName value)
  else if property == "age" then ofAge? (plainName value)
  else none

/-- The letters of ASCII. -/
def asciiLetter : CharSet :=
  union (range 'A' 'Z') (range 'a' 'z')

/-- The word characters of ASCII. -/
def asciiWord : CharSet :=
  union (union asciiDigit asciiLetter) (single '_')

/-- The white space of ASCII. -/
def asciiSpace : CharSet :=
  union (range '\t' '\r') (single ' ')

/-- The printable ASCII characters that are no letter, digit or space. -/
def asciiPunctuation : CharSet :=
  union (union (range '!' '/') (range ':' '@')) (union (range '[' '`') (range '\x7b' '~'))

/-- The ASCII set with a POSIX name. -/
def ofPosixName? (name : String) : Option CharSet :=
  match name with
  | "alnum" => some (union asciiDigit asciiLetter)
  | "alpha" => some asciiLetter
  | "ascii" => some ascii
  | "blank" => some (union (single '\t') (single ' '))
  | "cntrl" => some (union (range '\x00' '\x1F') (single '\x7F'))
  | "digit" => some asciiDigit
  | "graph" => some (range '!' '~')
  | "lower" => some (range 'a' 'z')
  | "print" => some (range ' ' '~')
  | "punct" => some asciiPunctuation
  | "space" => some asciiSpace
  | "upper" => some (range 'A' 'Z')
  | "word" => some asciiWord
  | "xdigit" => some asciiHexDigit
  | _ => none

end CharSet
end Pattern
end StringsAudit
