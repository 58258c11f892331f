/-!
# Schema/Basic — what a classification has to know about tags and attributes

A schema answers six questions.  The classification is written against an arbitrary schema; the one
of HTML is `Schema.html`.
-/

namespace TemplateAttr

/-- **A schema of tags and attributes.** -/
structure Schema where
  /-- Whether an attribute is set as an attribute on every element. -/
  isGlobal : String → Bool
  /-- Whether an attribute belongs to the framework, to accessibility or to the author's data. -/
  isOwned : String → Bool
  /-- Whether a tag is one of SVG. -/
  isSvgTag : String → Bool
  /-- Whether a dashed tag is built in, and so no custom element. -/
  isDashedBuiltin : String → Bool
  /-- The tags an attribute is defined on, none of them standing for all; nothing if the schema
  does not know the attribute. -/
  tagsOf? : String → Option (List String)
  /-- The property of an attribute, if it is not the attribute's name in camel case. -/
  propertyOf? : String → Option String

namespace Schema

/-- Whether an attribute is set as an attribute whatever the element. -/
def isUniversal (s : Schema) (name : String) : Bool := s.isGlobal name || s.isOwned name

/-- **Whether an attribute is valid on a tag**: a universal attribute is, any attribute of an SVG or
dashed built-in tag is, and one that the schema defines on the tag or on every tag. -/
def isValid (s : Schema) (tagName name : String) : Bool :=
  s.isUniversal name || s.isSvgTag tagName || s.isDashedBuiltin tagName ||
    (s.tagsOf? name).any fun tags => tags.isEmpty || tags.contains tagName

end Schema

end TemplateAttr
