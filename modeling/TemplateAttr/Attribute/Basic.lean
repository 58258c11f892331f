import TemplateAttr.Mark

/-!
# Attribute/Basic — an attribute, as the tokenizer hands it over

An attribute is known by its **qualified name** alone: nothing in this library looks at the local
name or the part before the colon on its own, so it does not matter how the tokenizer has split the
name.
-/

namespace TemplateAttr

/-- **An attribute**, with its local name, its value (quotes removed, references decoded), the
source text of the whole (`name="value"`), and the part of the name before a colon, if it was split
off. -/
structure Attribute where
  name : String
  value : String
  source : String
  nsPrefix : Option String := none
  deriving DecidableEq, Repr

/-- A local name behind its namespace part; an empty part counts as none. -/
def qualifyName (nsPrefix : Option String) (name : String) : String :=
  match nsPrefix with
  | none => name
  | some p => if p.isEmpty then name else p ++ String.singleton Mark.colon.char ++ name

/-- **The name by which an attribute is known.** -/
def Attribute.qualifiedName (a : Attribute) : String := qualifyName a.nsPrefix a.name

/-- A name with nothing in front stays as it is. -/
@[simp] theorem qualifyName_none (name : String) : qualifyName none name = name := rfl

@[simp] theorem qualifyName_empty (name : String) : qualifyName (some "") name = name := rfl

end TemplateAttr
