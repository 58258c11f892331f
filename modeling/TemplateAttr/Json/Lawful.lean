import TemplateAttr.Json.Record
import TemplateAttr.Json.RoundTrip

/-!
# Json/Lawful — the data model survives its JSON text

A JSON form is **lawful** when every value is read back from its form.  The forms of the data model
are, and a lawful form survives its text as well (`readText?_writeText`).
-/

namespace TemplateAttr

open JsonForm

/-- **A JSON form from which every value is read back.** -/
class LawfulJsonForm (α : Type) [JsonForm α] : Prop where
  ofJson?_toJson : ∀ a : α, ofJson? (toJson a) = some a

export LawfulJsonForm (ofJson?_toJson)

/-- **A value is read back from its JSON text.** -/
theorem readText?_writeText {α : Type} [JsonForm α] [LawfulJsonForm α] (a : α) :
    readText? (writeText a) = some a := by
  rw [readText?, writeText, Json.read?_write]
  exact ofJson?_toJson a

/-- A text is read back from its string. -/
instance : LawfulJsonForm String := ⟨fun _ => rfl⟩

/-- A truth value is read back from its constant. -/
instance : LawfulJsonForm Bool := ⟨fun _ => rfl⟩

/-- A list is read back item by item. -/
instance {α : Type} [JsonForm α] [LawfulJsonForm α] : LawfulJsonForm (List α) where
  ofJson?_toJson l := by
    change (l.map toJson).mapM ofJson? = some l
    induction l with
    | nil => rfl
    | cons a rest ih => simp [List.mapM_cons, ofJson?_toJson, ih]

/-- An attribute is read back, and whether it has a prefix is told from an empty one. -/
instance : LawfulJsonForm Attribute where
  ofJson?_toJson | ⟨_, _, _, none⟩ | ⟨_, _, _, some _⟩ => rfl

/-- An element is read back with its attributes, and whether it has a namespace is told from an
empty one. -/
instance : LawfulJsonForm Element where
  ofJson?_toJson e := by
    have hattributes : ofJson? (toJson e.attributes) = some e.attributes := ofJson?_toJson _
    obtain ⟨tagName, uri, attributes⟩ := e
    cases uri
    all_goals
      change (ofJson? (toJson attributes) >>= fun l => some _) = _
      rw [hattributes]
      rfl

/-- A plain value is read back with its mark of an escape. -/
instance : LawfulJsonForm NormalizedValue := ⟨fun _ => rfl⟩

/-- A kind of value is read back from its name. -/
instance : LawfulJsonForm ValueKind where
  ofJson?_toJson | .literal | .expression | .escapedLiteral => rfl

/-- A target is read back from its kind and, unless it is reserved, its name. -/
instance : LawfulJsonForm Target where
  ofJson?_toJson | .domAttribute _ | .domProperty _ | .reserved => rfl

/-- A processed attribute is read back, whatever its target and its kind of value. -/
instance : LawfulJsonForm ProcessedAttribute where
  ofJson?_toJson
    | ⟨_, target, _, kind⟩ => by cases target <;> cases kind <;> rfl

/-- Delimiters are read back, usable or not. -/
instance : LawfulJsonForm Delimiters := ⟨fun _ => rfl⟩

/-- A configuration is read back, and not judged. -/
instance : LawfulJsonForm Config := ⟨fun _ => rfl⟩

end TemplateAttr
