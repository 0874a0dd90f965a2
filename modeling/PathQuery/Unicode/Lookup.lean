import PathQuery.Unicode.Binary
import PathQuery.Unicode.Category
import PathQuery.Unicode.Edition
import PathQuery.Unicode.Script
import PathQuery.Unicode.Segmentation

/-!
Sets of characters by the names of properties and their values. Names are compared loosely: case,
spaces, dashes, underscores and a leading `is` make no difference.
-/

namespace PathQuery.Unicode

/-- What counts of a name when names are compared. -/
def loose (name : List Char) : List Char :=
  (name.filter fun c => c.toNat < 0x80 && !" _-".toList.contains c).map Char.toLower

/-- What counts of a name that is asked for. The name `isc` belongs to a property of its own and does
not stand for `c`. -/
def looseRequest (name : List Char) : List Char :=
  match name with
  | i :: s :: rest =>
      if i.toLower == 'i' && s.toLower == 's' then
        if loose rest == ['c'] then ['i', 's', 'c'] else loose rest
      else loose name
  | _ => loose name

def isNamed (request : List Char) (names : List String) : Bool :=
  names.any fun name => loose name.toList == looseRequest request

/-- The characters of general categories, of which a few groups have no characters in common with
the rest. -/
def categoryChars? (request : List Char) : Option CharSet :=
  if isNamed request ["any"] then some CharSet.all
  else if isNamed request ["assigned"] then some (Category.chars .unassigned).complement
  else if isNamed request ["ascii"] then some (CharSet.range 0 0x7F)
  else (Category.named.find? fun entry => isNamed request entry.1).map fun entry =>
    Category.charsOf entry.2

def script? (request : List Char) : Option Script :=
  Script.every.find? fun script => isNamed request script.names

/-- The characters that were assigned by the edition of the given name. -/
def editionChars? (request : List Char) : Option CharSet :=
  match Edition.every.span fun edition => !isNamed request edition.names with
  | (_, []) => none
  | (earlier, edition :: _) => some (Edition.charsBy (edition :: earlier))

def charsNamed? (entries : List (List String × CharSet)) (request : List Char) : Option CharSet :=
  (entries.find? fun entry => isNamed request entry.1).map Prod.snd

/-- The characters that have a property, or else those of a general category or of a script. -/
def namedChars? (request : List Char) : Option CharSet :=
  (charsNamed? Binary.named request).or
    ((categoryChars? request).or ((script? request).map Script.chars))

def valueChars? (property value : List Char) : Option CharSet :=
  if isNamed property ["gc", "General_Category"] then categoryChars? value
  else if isNamed property ["sc", "Script"] then (script? value).map Script.chars
  else if isNamed property ["scx", "Script_Extensions"] then (script? value).map Script.extension
  else if isNamed property ["age"] then editionChars? value
  else if isNamed property ["GCB", "Grapheme_Cluster_Break"] then
    charsNamed? Segmentation.grapheme value
  else if isNamed property ["WB", "Word_Break"] then charsNamed? Segmentation.word value
  else if isNamed property ["SB", "Sentence_Break"] then charsNamed? Segmentation.sentence value
  else none

/-- The parts of a text before and after the first place where another text stands. -/
def divided? (mark : List Char) : List Char → Option (List Char × List Char)
  | [] => none
  | c :: rest =>
      if mark.isPrefixOf (c :: rest) then some ([], (c :: rest).drop mark.length)
      else (divided? mark rest).map fun parts => (c :: parts.1, parts.2)

/-- The characters that a query stands for: a name, or a property and its value with `=`, `:` or
`!=` between them. -/
def chars? (query : List Char) : Option CharSet :=
  let parts := (divided? ['!', '='] query).or
    ((divided? [':'] query).or (divided? ['='] query))
  match parts with
  | some (property, value) => valueChars? property value
  | none => namedChars? query

end PathQuery.Unicode
