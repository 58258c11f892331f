import TemplateAttr.Proofs.Attribute.Outcome
import TemplateAttr.Schema.Html
import TemplateAttr.Target.Processed

/-!
# Proofs/Target/Processed — which attributes are handed on as expressions

Reading a value looks at the source text, but the kind of what it makes is found out from the plain
value alone (`NormalizedValue.kind`).  The two agree on bindings.  They part on a settled value
whose source text spells the delimiters as character references: it is read as a literal, and handed
on as an expression all the same (`processIn_expression_iff`).
-/

namespace TemplateAttr

namespace Schema

variable (s : Schema) (ctx : ElementContext) (g : Grammar) (a : Attribute)

/-- **An attribute is processed when its value is made plain**, and says what was made of it. -/
theorem processIn_eq_ok_iff {p : ProcessedAttribute} :
    s.processIn ctx g a = .ok p ↔ ∃ n, a.normalize g a.source = .ok n ∧
      p = ⟨a.qualifiedName, s.targetIn ctx a.qualifiedName, n.value, n.kind g⟩ := by
  rw [processIn]
  cases a.normalize g a.source with
  | error e => simp [bind, Except.bind]
  | ok n => simp [bind, Except.bind, pure, Except.pure, eq_comm]

/-- …and refused as its value is. -/
theorem processIn_eq_error_iff {error : SyntaxError} :
    s.processIn ctx g a = .error error ↔ a.normalize g a.source = .error error := by
  rw [processIn]
  cases a.normalize g a.source <;> simp [bind, Except.bind, pure, Except.pure]

/-- **Which attributes are handed on as expressions**: those whose source text shows an expression
without quotes, and those whose value is a full expression that the source text does not show. -/
theorem processIn_expression_iff :
    (∃ p, s.processIn ctx g a = .ok p ∧ p.kind = .expression) ↔
      (Source.Shows g.delimiters a.source.toList ∧ ¬ Source.Quoted a.source.toList ∧
        (g.delimiters.IsFullExpression a.value.toList ∨
          ∃ w, a.value.toList = w ++ ['/'] ∧ g.delimiters.IsFullExpression w)) ∨
      ¬ Source.Shows g.delimiters a.source.toList ∧
        g.delimiters.IsFullExpression a.value.toList := by
  rw [← Attribute.exists_expression_iff]
  constructor
  · rintro ⟨p, hp, hkind⟩
    obtain ⟨n, hn, rfl⟩ := (s.processIn_eq_ok_iff ctx g a).1 hp
    exact ⟨n, hn, hkind⟩
  · rintro ⟨n, hn, hkind⟩
    exact ⟨_, (s.processIn_eq_ok_iff ctx g a).2 ⟨n, hn, rfl⟩, hkind⟩

/-- The kind is not held to the source text: references to the delimiters, quoted, are read as a
literal, and the literal is handed on as an expression. -/
theorem processIn_expression_of_references :
    let a : Attribute := { name := "title", value := "{x}", source := "title=\"&#123;x&#125;\"" }
    let ctx := html.contextOf { tagName := "div" }
    (∃ p, html.processIn ctx Grammar.braces a = .ok p ∧ p.kind = .expression) ∧
      ¬ Source.Shows Grammar.braces.delimiters a.source.toList ∧
      Source.Quoted a.source.toList := by
  have hsettled : Source.isSettled Grammar.braces.delimiters
      "title=\"&#123;x&#125;\"".toList = true := by decide
  have hshows := (Source.isSettled_iff Grammar.braces.usable).1 hsettled
  have hfull : Grammar.braces.delimiters.IsFullExpression "{x}".toList :=
    Grammar.isFullChars_iff.1 (by decide)
  intro a ctx
  obtain ⟨n, hn, hkind⟩ := (Attribute.exists_expression_iff (a := a)).2 (.inr ⟨hshows, hfull⟩)
  have hp := (html.processIn_eq_ok_iff ctx Grammar.braces a).2 ⟨n, hn, rfl⟩
  exact ⟨⟨_, hp, hkind⟩, hshows, Source.isQuoted_iff.1 (by decide)⟩

end Schema

end TemplateAttr
