import TemplateAttr.Proofs.Name.Fixed
import TemplateAttr.Proofs.Schema.Table
import TemplateAttr.Proofs.Target.Extension

/-!
# Proofs/Target/Verbatim — when a name is kept as it is written

An attribute is set under its own name, and so are most properties: those of custom and foreign
elements, and the state of an input control.  A property is renamed only on an HTML element with an
`is`, and only if its attribute is not valid there (`target_html_renamed`).  SVG tags and the
built-in ones with a dash have no properties at all (`target_html_builtin`), because the tables of
tags agree: a dashed SVG tag is a built-in one (`Html.builtin_tags`).
-/

namespace TemplateAttr

/-! ## The state of an input control -/

theorem isInputState_iff {tagName name : String} :
    isInputState tagName name = true ↔ tagName = "input" ∧ (name = "value" ∨ name = "checked") := by
  simp [isInputState]

/-- The names of the state are those of its properties. -/
theorem Schema.propertyNameIn_html_of_isInputState {ctx : ElementContext} {name : String}
    (h : isInputState ctx.tagName name = true) : html.propertyNameIn ctx name = name := by
  have hkept : html.propertyOf? name = none ∧ camelCase name = name := by
    rcases (isInputState_iff.1 h).2 with rfl | rfl
    · exact ⟨by decide +kernel, by decide +kernel⟩
    · exact ⟨by decide +kernel, by decide +kernel⟩
  rw [propertyNameIn, hkept.1, Option.getD_none, hkept.2, ite_self]

/-! ## Renamed properties -/

namespace Schema

variable {s : Schema} {ctx : ElementContext} {name : String}

/-- A property is renamed only on an element that is neither foreign nor custom, and not if it is an
owned one. -/
theorem of_propertyNameIn_ne (h : s.propertyNameIn ctx name ≠ name) :
    ctx.isForeign = false ∧ ctx.isCustom = false ∧ s.isOwned name = false := by
  have hnot : ¬ (ctx.isForeign || ctx.isCustom || s.isOwned name) = true := by
    intro hkept
    exact h (by rw [propertyNameIn, if_pos hkept])
  simpa [and_assoc] using hnot

/-- **A property of HTML is renamed** only on an element that extends a built-in one, if its
attribute is not valid on the tag. -/
theorem of_targetIn_html_renamed {property : String}
    (h : html.targetIn ctx name = .domProperty property) (hrenamed : property ≠ name) :
    ctx.hasIs = true ∧ ctx.isCustom = false ∧ ctx.isForeign = false ∧
      html.isUniversal name = false ∧ html.isValid ctx.tagName name = false := by
  obtain ⟨-, hattribute, rfl⟩ := targetIn_eq_domProperty_iff.1 h
  obtain ⟨hforeign, hcustom, -⟩ := of_propertyNameIn_ne hrenamed
  have hinput : isInputState ctx.tagName name = false :=
    Bool.eq_false_iff.2 fun hstate => hrenamed (propertyNameIn_html_of_isInputState hstate)
  cases hasIs : ctx.hasIs with
  | false =>
    simp [isAttributeIn_eq, hasIs, hinput, hcustom] at hattribute
  | true =>
    rw [isAttributeIn_eq, hasIs, hinput, Bool.or_eq_false_iff] at hattribute
    exact ⟨rfl, hcustom, hforeign, hattribute.1, by simpa using hattribute.2⟩

/-- **When a name may be changed.**  An attribute of HTML is reserved, or set under its own name, or
a property; and the property has another name only on an element with an `is` that is neither custom
nor foreign, if the attribute is not universal and not valid on the tag.  So an element without an
`is` changes no name. -/
theorem target_html_renamed (e : Element) (name : String) :
    (html.target e name = .reserved ∨ html.target e name = .domAttribute name ∨
        ∃ property, html.target e name = .domProperty property) ∧
      (∀ property, html.target e name = .domProperty property → property ≠ name →
        e.hasIs = true ∧ html.isCustomTag e.tagName = false ∧ html.isForeign e = false ∧
        ¬ (name ∈ Html.globalAttributes ∨ name ∈ Html.frameworkAttributes ∨
          "data-".toList <+: name.toList ∨ "aria-".toList <+: name.toList) ∧
        html.isValid e.tagName name = false) ∧
      (e.hasIs = false → html.target e name = .reserved ∨ html.target e name = .domAttribute name ∨
        html.target e name = .domProperty name) := by
  have hcases : html.target e name = .reserved ∨ html.target e name = .domAttribute name ∨
      ∃ property, html.target e name = .domProperty property := by
    cases htarget : html.target e name with
    | reserved => exact .inl rfl
    | domAttribute n =>
      obtain ⟨-, -, rfl⟩ := targetIn_eq_domAttribute_iff.1 htarget
      exact .inr (.inl rfl)
    | domProperty property => exact .inr (.inr ⟨property, rfl⟩)
  refine ⟨hcases, fun property htarget hrenamed => ?_, fun hnone => ?_⟩
  · obtain ⟨hasIs, hcustom, hforeign, huniversal, hvalid⟩ :=
      of_targetIn_html_renamed htarget hrenamed
    rw [← isUniversal_html_iff, huniversal]
    exact ⟨hasIs, hcustom, hforeign, Bool.false_ne_true, hvalid⟩
  · refine hcases.imp_right (Or.imp_right ?_)
    rintro ⟨property, htarget⟩
    rcases eq_or_ne property name with rfl | hrenamed
    · exact htarget
    · have hasIs : e.hasIs = true := (of_targetIn_html_renamed htarget hrenamed).1
      rw [hnone] at hasIs
      cases hasIs

/-- On a button with an `is`, `readonly` is no valid attribute, and its property has another
name. -/
theorem target_html_renamed_readonly :
    let base : Attribute := ⟨"is", "x-button", "is=\"x-button\"", none⟩
    let e : Element := { tagName := "button", attributes := [base] }
    html.target e "readonly" = .domProperty "readOnly" ∧ "readOnly" ≠ "readonly" ∧
      e.hasIs = true ∧ html.isForeign e = false ∧ html.isValid "button" "readonly" = false := by
  have htags : html.tagsOf? "readonly" = some ["input", "textarea"] :=
    tagsOf?_html_eq_some_iff.2 ⟨"input,textarea", by decide +kernel, by decide⟩
  have huniversal : html.isUniversal "readonly" = false := by decide +kernel
  have hvalid : html.isValid "button" "readonly" = false := by
    rw [isValid, huniversal, htags]
    decide +kernel
  have htable : html.propertyOf? "readonly" = some "readOnly" := by decide +kernel
  intro base e
  have hattribute : html.isAttributeIn (html.contextOf e) "readonly" = false := by
    rw [isAttributeIn_eq, huniversal]
    change (false || !isInputState "button" "readonly" && html.isValid "button" "readonly") = false
    rw [hvalid, Bool.and_false, Bool.or_false]
  have hproperty : html.propertyNameIn (html.contextOf e) "readonly" = "readOnly" := by
    obtain ⟨howned, hstays⟩ := Html.camelCase_of_propertyOf? htable
    have hforeign : (html.contextOf e).isForeign = false := by decide +kernel
    have hcustom : (html.contextOf e).isCustom = false := by decide +kernel
    rw [propertyNameIn, hforeign, hcustom, howned, htable]
    exact hstays
  have htarget : html.target e "readonly" = .domProperty "readOnly" :=
    targetIn_eq_domProperty_iff.2 ⟨by decide, hattribute, hproperty.symm⟩
  have hrenamed : "readOnly" ≠ "readonly" := by decide
  obtain ⟨hasIs, -, hforeign, -, -⟩ := (target_html_renamed e "readonly").2.1 _ htarget hrenamed
  exact ⟨htarget, hrenamed, hasIs, hforeign, hvalid⟩

end Schema

/-! ## Tags without properties -/

/-- The reserved names: two of them, and all of the directive families. -/
theorem isReservedName_iff {name : String} : isReservedName name = true ↔
    name = "is" ∨ name = "key" ∨ "if:".toList <+: name.toList ∨ "for:".toList <+: name.toList ∨
      "iterator:".toList <+: name.toList := by
  simp [isReservedName, directiveNames, directiveFamilies, or_assoc]

/-- **The tables of tags agree**: a dashed SVG tag is a built-in one, and no tag of theirs is that
of an input control. -/
theorem Html.builtin_tags : ∀ tagName, tagName ∈ svgTags ∨ tagName ∈ dashedTags →
    Schema.html.isCustomTag tagName = false ∧ tagName ≠ "input" := by
  have hchecked : ((svgTags ++ dashedTags).all fun tagName =>
      !Schema.html.isCustomTag tagName && tagName != "input") = true := by
    decide +kernel
  intro tagName htag
  simpa using List.all_eq_true.1 hchecked tagName (List.mem_append.2 htag)

namespace Schema

/-- Any attribute is valid on an SVG tag and on a dashed built-in one. -/
theorem isValid_html_builtin {tagName : String}
    (h : tagName ∈ Html.svgTags ∨ tagName ∈ Html.dashedTags) (name : String) :
    html.isValid tagName name = true := by
  have hbuiltin : html.isSvgTag tagName = true ∨ html.isDashedBuiltin tagName = true :=
    h.imp List.contains_iff_mem.2 List.contains_iff_mem.2
  rcases hbuiltin with hsvg | hdashed
  · simp [isValid, hsvg]
  · simp [isValid, hdashed]

/-- **SVG tags and dashed built-in ones have no properties**, whatever the namespace of the element
and its attributes: what is not reserved is set as an attribute, under its own name. -/
theorem target_html_builtin {e : Element}
    (h : e.tagName ∈ Html.svgTags ∨ e.tagName ∈ Html.dashedTags) (name : String) :
    let directive := name = "is" ∨ name = "key" ∨ "if:".toList <+: name.toList ∨
      "for:".toList <+: name.toList ∨ "iterator:".toList <+: name.toList
    (directive → html.target e name = .reserved) ∧
      (¬ directive → html.target e name = .domAttribute name) ∧
      ∀ property, html.target e name ≠ .domProperty property := by
  intro directive
  obtain ⟨hcustom, htag⟩ := Html.builtin_tags _ h
  have hinput : isInputState (html.contextOf e).tagName name = false :=
    Bool.eq_false_iff.2 fun hstate => htag (isInputState_iff.1 hstate).1
  have hvalid : html.isValid (html.contextOf e).tagName name = true := isValid_html_builtin h name
  have hcustom : (html.contextOf e).isCustom = false := hcustom
  have hattribute : html.isAttributeIn (html.contextOf e) name = true := by
    simp [isAttributeIn_eq, hinput, hvalid, hcustom]
  refine ⟨fun hdirective => ?_, fun hdirective => ?_, fun property htarget => ?_⟩
  · exact targetIn_eq_reserved_iff.2 (isReservedName_iff.2 hdirective)
  · have hreserved : isReservedName name = false :=
      Bool.eq_false_iff.2 (mt isReservedName_iff.1 hdirective)
    exact targetIn_eq_domAttribute_iff.2 ⟨hreserved, hattribute, rfl⟩
  · have hnone := (targetIn_eq_domProperty_iff.1 htarget).2.1
    rw [hattribute] at hnone
    cases hnone

/-- A dashed SVG tag in no namespace, with an `is`: a name that no table has is still an attribute,
and a directive is reserved. -/
theorem target_html_builtin_fontFace :
    let base : Attribute := ⟨"is", "x-font", "is=\"x-font\"", none⟩
    let e : Element := { tagName := "font-face", attributes := [base] }
    html.target e "unitsPerEm" = .domAttribute "unitsPerEm" ∧
      html.target e "if:true" = .reserved := by
  intro base e
  have htag : e.tagName ∈ Html.svgTags ∨ e.tagName ∈ Html.dashedTags := .inr (by decide)
  exact ⟨(target_html_builtin htag "unitsPerEm").2.1 (by decide),
    (target_html_builtin htag "if:true").1 (by decide)⟩

end Schema

end TemplateAttr
