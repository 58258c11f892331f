import TemplateAttr.Json.Lawful

/-!
# Proofs/Json/DataModel — what the JSON text of the data model keeps

    {"kind":"reserved"}        {"name":"id","value":"a","raw":"id=a","prefix":""}

A value and its text determine each other, although the text leaves out what there is not: the part
in front of a name, a namespace, the name of a reserved target.  What is left out is told from what
is empty (`memberNames_attribute`, `memberNames_element`), and read back as not there.
-/

namespace TemplateAttr

open JsonForm

/-- **Values with one text are one value.** -/
theorem writeText_injective {α : Type} [JsonForm α] [LawfulJsonForm α] :
    Function.Injective (writeText : α → String) := by
  intro a b h
  have hread := readText?_writeText a
  rw [h, readText?_writeText] at hread
  exact (Option.some.inj hread).symm

/-! ## What is left out -/

/-- The names of the members of an object, in order. -/
def Json.memberNames : Json → List (Option String)
  | .object members => members.map (·.1)
  | _ => []

/-- The part in front of a name is written when there is one, even an empty one. -/
theorem memberNames_attribute (a : Attribute) :
    some "prefix" ∈ (toJson a).memberNames ↔ a.nsPrefix.isSome := by
  obtain ⟨name, value, source, _ | p⟩ := a <;>
    simp [toJson, Json.memberNames, member, optionalMember]

/-- A namespace is written when there is one, even an empty one. -/
theorem memberNames_element (e : Element) :
    some "namespace" ∈ (toJson e).memberNames ↔ e.namespaceUri.isSome := by
  obtain ⟨tagName, _ | uri, attributes⟩ := e <;>
    simp [toJson, Json.memberNames, member, optionalMember]

/-- The name of a target is written unless the target is reserved. -/
theorem memberNames_target (t : Target) :
    some "name" ∈ (toJson t).memberNames ↔ t ≠ .reserved := by
  cases t <;> simp [toJson, Json.memberNames, member]

/-! ## The data model -/

/-- **Every value of the data model is read back from its JSON text.**  A part in front of a name,
or a namespace, that is not there is left out of the text, and so told from an empty one; an element
without attributes has none when it is read back; and a reserved target, which has no name in its
text, is read back as reserved. -/
theorem readText?_writeText_dataModel :
    (∀ a : Attribute, readText? (writeText a) = some a) ∧
      (∀ e : Element, readText? (writeText e) = some e) ∧
      (∀ n : NormalizedValue, readText? (writeText n) = some n) ∧
      (∀ k : ValueKind, readText? (writeText k) = some k) ∧
      (∀ t : Target, readText? (writeText t) = some t) ∧
      (∀ p : ProcessedAttribute, readText? (writeText p) = some p) ∧
      (∀ d : Delimiters, readText? (writeText d) = some d) ∧
      (∀ c : Config, readText? (writeText c) = some c) ∧
      (∀ a : Attribute, (some "prefix" ∈ (toJson a).memberNames ↔ a.nsPrefix.isSome) ∧
        writeText { a with nsPrefix := none } ≠ writeText { a with nsPrefix := some "" }) ∧
      (∀ e : Element, (some "namespace" ∈ (toJson e).memberNames ↔ e.namespaceUri.isSome) ∧
        writeText { e with namespaceUri := none } ≠ writeText { e with namespaceUri := some "" } ∧
        readText? (writeText { e with attributes := [] }) = some { e with attributes := [] }) ∧
      (∀ t : Target, some "name" ∈ (toJson t).memberNames ↔ t ≠ .reserved) ∧
      readText? (writeText Target.reserved) = some Target.reserved := by
  have hprefix (a : Attribute) :
      writeText { a with nsPrefix := none } ≠ writeText { a with nsPrefix := some "" } := by
    intro h
    cases congrArg Attribute.nsPrefix (writeText_injective h)
  have hnamespace (e : Element) :
      writeText { e with namespaceUri := none } ≠ writeText { e with namespaceUri := some "" } := by
    intro h
    cases congrArg Element.namespaceUri (writeText_injective h)
  exact ⟨readText?_writeText, readText?_writeText, readText?_writeText, readText?_writeText,
    readText?_writeText, readText?_writeText, readText?_writeText, readText?_writeText,
    fun a => ⟨memberNames_attribute a, hprefix a⟩,
    fun e => ⟨memberNames_element e, hnamespace e, readText?_writeText _⟩,
    memberNames_target, readText?_writeText _⟩

end TemplateAttr
