import TemplateAttr.Schema.AttributeTable
import TemplateAttr.Schema.Basic
import TemplateAttr.Schema.Property
import TemplateAttr.Schema.Tag
import TemplateAttr.Text.Find

/-!
# Schema/Html — the schema of HTML

The schema is read off the tables.  A line of the attribute table is decoded once, into an attribute
and its tags.
-/

namespace TemplateAttr

namespace Html

/-- The pieces of a text between commas, the empty ones too. -/
def commaPieces : List Char → List (List Char)
  | [] => [[]]
  | c :: rest =>
    if c = ',' then [] :: commaPieces rest
    else match commaPieces rest with
      | [] => [[c]]
      | piece :: pieces => (c :: piece) :: pieces

/-- The tags that a list with commas names. -/
def decodeTags (text : List Char) : List String :=
  ((commaPieces text).filter fun piece => !piece.isEmpty).map String.ofList

/-- The attribute and the tags of a line; a line without a bar has none. -/
def decodeLine (line : String) : Option (String × List String) :=
  (splitAtFirst '|' line.toList).map fun (name, tags) => (String.ofList name, decodeTags tags)

/-- **The attribute table, decoded**, in the order of its lines. -/
def attributeTable : List (String × List String) := attributeLines.filterMap decodeLine

/-- **The attributes that belong to the framework.** -/
def frameworkAttributes : List String := ["role", "is", "key", "slot"]

/-- Whether an attribute carries the author's data or describes accessibility. -/
def isDataOrAria (name : String) : Bool :=
  "data-".toList.isPrefixOf name.toList || "aria-".toList.isPrefixOf name.toList

end Html

/-- **The schema of HTML.**  Of several lines on one attribute the last would count. -/
def Schema.html : Schema where
  isGlobal name := Html.globalAttributes.contains name
  isOwned name := Html.frameworkAttributes.contains name || Html.isDataOrAria name
  isSvgTag tagName := Html.svgTags.contains tagName
  isDashedBuiltin tagName := Html.dashedTags.contains tagName
  tagsOf? name := Html.attributeTable.reverse.lookup name
  propertyOf? name := Html.properties.lookup name

end TemplateAttr
