import TemplateAttr.Proofs.Target.Element

/-!
# Proofs/Target/Extension — what an `is` does to the other attributes

An element with an `is` extends a built-in one, and takes the attributes that are valid there.  Of
the context nothing else changes (`contextOf_withAttributeAt`).  So on a built-in element an `is`
turns attributes into properties, and on a custom one properties into attributes, and never the
other way; what the compiler consumes it consumes as before, and no property gets another name
(`isAttribute_withAttributeAt`).
-/

namespace TemplateAttr

namespace Element

/-- **The element with one more attribute**, put behind so many of its own. -/
def withAttributeAt (e : Element) (place : ℕ) (a : Attribute) : Element :=
  { e with attributes := e.attributes.insertIdx place a }

theorem hasIs_withAttributeAt {e : Element} {place : ℕ} (hplace : place ≤ e.attributes.length)
    {a : Attribute} (ha : a.qualifiedName = "is") : (e.withAttributeAt place a).hasIs = true :=
  (hasIs_iff _).2 ⟨a, (List.mem_insertIdx hplace).2 (.inl rfl), ha⟩

end Element

namespace Schema

variable {s : Schema} {ctx : ElementContext} {tagName name : String}

/-! ## The questions an `is` decides between -/

theorem isValid_of_isUniversal (h : s.isUniversal name = true) (tagName : String) :
    s.isValid tagName name = true := by
  simp [isValid, h]

/-- An input control is no custom element. -/
theorem isInputState_of_isCustomTag (h : s.isCustomTag tagName = true) (name : String) :
    isInputState tagName name = false := by
  have hinput : (tagName == "input") = false := by
    rw [beq_eq_false_iff_ne]
    rintro rfl
    rw [isCustomTag, Bool.and_eq_true] at h
    exact absurd h.1 (by decide)
  rw [isInputState, hinput, Bool.false_and]

/-- **Which attributes are set**: all that are universal; of the rest none that hold the state of an
input, with an `is` those valid on the tag, and without one those on all elements but custom ones. -/
theorem isAttributeIn_eq : s.isAttributeIn ctx name = (s.isUniversal name ||
    !isInputState ctx.tagName name &&
      if ctx.hasIs then s.isValid ctx.tagName name else !ctx.isCustom) := by
  rw [isAttributeIn]
  cases s.isUniversal name <;> cases isInputState ctx.tagName name <;> rfl

/-! ## An `is` more -/

section Extended

variable {e : Element} {place : ℕ} (hplace : place ≤ e.attributes.length) {base : Attribute}
  (hbase : base.qualifiedName = "is")

include hplace hbase

/-- **An `is` changes one fact of the context**, wherever it is put. -/
theorem contextOf_withAttributeAt : s.contextOf (e.withAttributeAt place base) =
    { s.contextOf e with hasIs := true } := by
  rw [contextOf, Element.hasIs_withAttributeAt hplace hbase]
  rfl

/-- **What an `is` does to the other attributes** of an element that had none.  Of a built-in
element, it leaves those as attributes that are valid on its tag, and makes no other one; of a
custom element, those become attributes that are valid on its tag, and none is lost.  The same names
are reserved, and properties keep their names. -/
theorem isAttribute_withAttributeAt (hnone : e.hasIs = false) (name : String) :
    let extended := e.withAttributeAt place base
    (s.isCustomTag e.tagName = false → (s.isAttribute extended name = true ↔
        s.isAttribute e name = true ∧ s.isValid e.tagName name = true)) ∧
      (s.isCustomTag e.tagName = true →
        (s.isAttribute extended name = true ↔ s.isValid e.tagName name = true) ∧
        (s.isAttribute e name = true → s.isAttribute extended name = true)) ∧
      (s.target extended name = .reserved ↔ s.target e name = .reserved) ∧
      s.propertyName extended name = s.propertyName e name := by
  intro extended
  have hcontext : s.contextOf extended = { s.contextOf e with hasIs := true } :=
    contextOf_withAttributeAt hplace hbase
  have hextended : s.isAttribute extended name =
      (s.isUniversal name || !isInputState e.tagName name && s.isValid e.tagName name) := by
    rw [isAttribute, hcontext, isAttributeIn_eq]
    rfl
  have hwithout : s.isAttribute e name =
      (s.isUniversal name || !isInputState e.tagName name && !s.isCustomTag e.tagName) := by
    have hcontext : (s.contextOf e).hasIs = false := hnone
    rw [isAttribute, isAttributeIn_eq, hcontext]
    rfl
  refine ⟨fun hbuiltin => ?_, fun hcustom => ?_, ?_, ?_⟩
  · rw [hextended, hwithout, hbuiltin]
    cases huniversal : s.isUniversal name with
    | true => simp [isValid_of_isUniversal huniversal]
    | false => simp
  · have hinput := isInputState_of_isCustomTag hcustom name
    rw [hextended, hwithout, hcustom, hinput]
    cases huniversal : s.isUniversal name with
    | true => simp [isValid_of_isUniversal huniversal]
    | false => simp
  · rw [target, target, targetIn_eq_reserved_iff, targetIn_eq_reserved_iff]
  · rw [propertyName, hcontext]
    rfl

end Extended

/-- An `is` in front of a title.  On a button `type` stays an attribute, and a name without an entry
becomes a property; on a custom element `type` becomes an attribute. -/
theorem isAttribute_withAttributeAt_front :
    let s : Schema := ⟨(· == "title"), (· == "is"), fun _ => false, fun _ => false,
      fun name => if name = "type" then some [] else none, fun _ => none⟩
    let title : Attribute := ⟨"title", "t", "title=\"t\"", none⟩
    let base : Attribute := ⟨"is", "x-button", "is=\"x-button\"", none⟩
    let button : Element := { tagName := "button", attributes := [title] }
    let custom : Element := { tagName := "x-button", attributes := [title] }
    s.isAttribute (button.withAttributeAt 0 base) "type" = true ∧
      s.isAttribute button "label" = true ∧
      s.isAttribute (button.withAttributeAt 0 base) "label" = false ∧
      s.isAttribute custom "type" = false ∧
      s.isAttribute (custom.withAttributeAt 0 base) "type" = true := by
  intro s title base button custom
  have hbutton := @isAttribute_withAttributeAt s button 0 (by decide) base (by decide) (by decide)
  have hcustom := @isAttribute_withAttributeAt s custom 0 (by decide) base (by decide) (by decide)
  refine ⟨((hbutton "type").1 (by decide)).2 ⟨by decide, by decide⟩, by decide, ?_, by decide,
    ((hcustom "type").2.1 (by decide)).1.2 (by decide)⟩
  exact Bool.eq_false_iff.2 fun h => absurd (((hbutton "label").1 (by decide)).1 h).2 (by decide)

end Schema

end TemplateAttr
