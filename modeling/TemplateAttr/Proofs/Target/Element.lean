import TemplateAttr.Proofs.Target.Processed
import TemplateAttr.Proofs.Target.Traversal
import TemplateAttr.Target.Html

/-!
# Proofs/Target/Element — the attributes of an element are processed each on its own

The target of an attribute depends on the context of its element, and so on an `is` that may stand
anywhere among the attributes.  But the context keeps no more of the attributes than whether there
is one (`contextOf_attributes_iff`), and it is taken before any of them is processed.  So an
attribute comes to the same wherever it stands (`process_elementwise`), and whatever else is
stripped from its element (`process_withoutAttributes`).
-/

namespace TemplateAttr

/-! ## The `is` among the attributes -/

namespace Element

variable (e : Element)

/-- The element with its attributes moved. -/
def rearranged (σ : Equiv.Perm (Fin e.attributes.length)) : Element :=
  { e with attributes := rearrange σ e.attributes }

theorem mem_attributes_rearranged_iff (σ : Equiv.Perm (Fin e.attributes.length)) {a : Attribute} :
    a ∈ (e.rearranged σ).attributes ↔ a ∈ e.attributes :=
  (rearrange_perm σ rfl).mem_iff

/-- An `is` counts wherever it stands. -/
theorem hasIs_rearranged (σ : Equiv.Perm (Fin e.attributes.length)) :
    (e.rearranged σ).hasIs = e.hasIs := by
  rw [Bool.eq_iff_iff, hasIs_iff, hasIs_iff]
  simp only [mem_attributes_rearranged_iff]

/-- Stripping takes away the `is` when it selects it, and brings none. -/
theorem hasIs_withoutAttributes (m : Selector) :
    (e.withoutAttributes m).hasIs = (e.hasIs && !m.selects "is") := by
  rw [Bool.eq_iff_iff, Bool.and_eq_true, hasIs_iff, hasIs_iff, withoutAttributes]
  simp only [List.mem_filter, Selector.chooses]
  constructor
  · rintro ⟨a, ⟨ha, hleft⟩, his⟩
    exact ⟨⟨a, ha, his⟩, his ▸ hleft⟩
  · rintro ⟨⟨a, ha, his⟩, hleft⟩
    exact ⟨a, ⟨ha, his ▸ hleft⟩, his⟩

end Element

/-! ## What the context keeps of the attributes -/

namespace Schema

variable (s : Schema) (g : Grammar) (e : Element)

/-- **Of the attributes the context keeps only whether there is an `is`.** -/
theorem contextOf_attributes_iff {l : List Attribute} :
    s.contextOf { e with attributes := l } = s.contextOf e ↔
      ({ e with attributes := l } : Element).hasIs = e.hasIs := by
  simp [contextOf, isForeign]

/-- **The context is the same wherever the attributes stand.** -/
theorem contextOf_rearranged (σ : Equiv.Perm (Fin e.attributes.length)) :
    s.contextOf (e.rearranged σ) = s.contextOf e :=
  (s.contextOf_attributes_iff e).2 (e.hasIs_rearranged σ)

/-- **Stripping leaves the context as it was, unless it strips the `is` of the element.** -/
theorem contextOf_withoutAttributes_iff (m : Selector) :
    s.contextOf (e.withoutAttributes m) = s.contextOf e ↔
      m.selects "is" = false ∨ e.hasIs = false := by
  refine (s.contextOf_attributes_iff e).trans ?_
  change (e.withoutAttributes m).hasIs = e.hasIs ↔ _
  rw [e.hasIs_withoutAttributes m]
  cases e.hasIs <;> simp

/-! ## Attribute by attribute -/

/-- **An element is processed when its attributes are**, each on its own in the context of the
element. -/
theorem process_eq_ok_iff {l : List ProcessedAttribute} :
    s.process g e = .ok l ↔
      List.Forall₂ (fun a p => s.processIn (s.contextOf e) g a = .ok p) e.attributes l :=
  mapM_eq_ok_iff

/-- **The error is that of the earliest attribute that has one.** -/
theorem process_eq_error_iff {error : SyntaxError} :
    s.process g e = .error error ↔ ∃ before a after, e.attributes = before ++ a :: after ∧
      (∀ b ∈ before, ∃ p, s.processIn (s.contextOf e) g b = .ok p) ∧
      s.processIn (s.contextOf e) g a = .error error :=
  mapM_eq_error_iff

theorem exists_process_eq_ok_iff :
    (∃ l, s.process g e = .ok l) ↔
      ∀ a ∈ e.attributes, ∃ p, s.processIn (s.contextOf e) g a = .ok p :=
  exists_mapM_eq_ok_iff

/-- The name of a processed attribute is that of the attribute. -/
theorem name_of_processIn {ctx : ElementContext} {a : Attribute} {p : ProcessedAttribute}
    (h : s.processIn ctx g a = .ok p) : p.name = a.qualifiedName := by
  obtain ⟨n, -, rfl⟩ := (s.processIn_eq_ok_iff ctx g a).1 h
  rfl

/-! ## Moving and stripping attributes -/

/-- **Processing an element is processing each of its attributes alone**: it succeeds when each
does, with the results in the places of the attributes, and else fails as the earliest that does.
When the attributes are moved, it succeeds as before, and the results have moved with them. -/
theorem process_elementwise :
    ((∃ l, s.process g e = .ok l) ↔
        ∀ a ∈ e.attributes, ∃ p, s.processIn (s.contextOf e) g a = .ok p) ∧
      (∀ l, s.process g e = .ok l ↔
        List.Forall₂ (fun a p => s.processIn (s.contextOf e) g a = .ok p) e.attributes l) ∧
      (∀ l, e.process = .ok l ↔
        List.Forall₂ (fun a p => e.processAttribute a = .ok p) e.attributes l) ∧
      (∀ error, s.process g e = .error error ↔ ∃ before a after,
        e.attributes = before ++ a :: after ∧
        (∀ b ∈ before, ∃ p, s.processIn (s.contextOf e) g b = .ok p) ∧
        s.processIn (s.contextOf e) g a = .error error) ∧
      ∀ σ : Equiv.Perm (Fin e.attributes.length),
        ((∃ l, s.process g (e.rearranged σ) = .ok l) ↔ ∃ l, s.process g e = .ok l) ∧
        ∀ l, s.process g e = .ok l → s.process g (e.rearranged σ) = .ok (rearrange σ l) := by
  refine ⟨s.exists_process_eq_ok_iff g e, fun _ => s.process_eq_ok_iff g e,
    fun _ => html.process_eq_ok_iff Grammar.braces e, fun _ => s.process_eq_error_iff g e,
    fun σ => ⟨?_, fun l hl => ?_⟩⟩
  · rw [exists_process_eq_ok_iff, exists_process_eq_ok_iff, contextOf_rearranged]
    simp only [Element.mem_attributes_rearranged_iff]
  · rw [process_eq_ok_iff] at hl ⊢
    rw [contextOf_rearranged]
    exact forall₂_rearrange σ hl

/-- A binding comes to the same in front of the `is` of its element and behind it. -/
theorem process_elementwise_swap :
    let bound : Attribute := ⟨"foo", "{bar}", "foo={bar}", none⟩
    let base : Attribute := ⟨"is", "x-button", "is=\"x-button\"", none⟩
    ∃ p q : ProcessedAttribute, p.kind = .expression ∧ q.target = .reserved ∧
      html.process Grammar.braces { tagName := "button", attributes := [bound, base] } =
        .ok [p, q] ∧
      html.process Grammar.braces { tagName := "button", attributes := [base, bound] } =
        .ok [q, p] := by
  have hbound : Attribute.normalize ⟨"foo", "{bar}", "foo={bar}", none⟩ Grammar.braces "foo={bar}" =
    .ok ⟨"{bar}", false⟩ := by rfl
  have hbase : Attribute.normalize ⟨"is", "x-button", "is=\"x-button\"", none⟩ Grammar.braces
    "is=\"x-button\"" = .ok ⟨"x-button", false⟩ := by rfl
  intro bound base
  let e : Element := { tagName := "button", attributes := [bound, base] }
  have hp := (html.processIn_eq_ok_iff (html.contextOf e) _ bound).2 ⟨_, hbound, rfl⟩
  have hq := (html.processIn_eq_ok_iff (html.contextOf e) _ base).2 ⟨_, hbase, rfl⟩
  obtain ⟨-, hall, -, -, hmoved⟩ := html.process_elementwise Grammar.braces e
  have hok := (hall _).2 (.cons hp (.cons hq .nil))
  exact ⟨_, _, by decide, by decide, hok, (hmoved (Equiv.swap (0 : Fin 2) 1)).2 _ hok⟩

/-- **Stripping attributes strips their results**, and changes no other: in the context the element
had before, whatever is stripped, and in the one it has after, unless that lost its `is`. -/
theorem process_withoutAttributes {l : List ProcessedAttribute} (h : s.process g e = .ok l)
    (m : Selector) :
    let left := l.filter fun p => !m.selects p.name
    (e.withoutAttributes m).attributes.mapM (s.processIn (s.contextOf e) g) = .ok left ∧
      (m.selects "is" = false ∨ e.hasIs = false →
        s.process g (e.withoutAttributes m) = .ok left) := by
  have hleft : (e.withoutAttributes m).attributes.mapM (s.processIn (s.contextOf e) g) =
      .ok (l.filter fun p => !m.selects p.name) := by
    rw [mapM_eq_ok_iff]
    refine List.rel_filter (fun a p hp => ?_) ((s.process_eq_ok_iff g e).1 h)
    simp only [Selector.chooses, name_of_processIn s g hp]
  refine ⟨hleft, fun hcontext => ?_⟩
  rw [process, (s.contextOf_withoutAttributes_iff e m).2 hcontext]
  exact hleft

/-- A directive is stripped by a pattern, and a link beside it comes to the same. -/
theorem process_withoutAttributes_pattern :
    let directive : Attribute := ⟨"if:true", "{x}", "if:true={x}", none⟩
    let link : Attribute := ⟨"href", "#a", "href=\"#a\"", none⟩
    let e : Element := { tagName := "a", attributes := [directive, link] }
    ∃ m p q, Selector.ofPattern "^if:" = .ok m ∧ html.process Grammar.braces e = .ok [p, q] ∧
      (e.withoutAttributes m).attributes.mapM (html.processIn (html.contextOf e) Grammar.braces) =
        .ok [q] ∧
      html.process Grammar.braces (e.withoutAttributes m) = .ok [q] := by
  have hdirective : Attribute.normalize ⟨"if:true", "{x}", "if:true={x}", none⟩ Grammar.braces
    "if:true={x}" = .ok ⟨"{x}", false⟩ := by rfl
  have hlink : Attribute.normalize ⟨"href", "#a", "href=\"#a\"", none⟩ Grammar.braces
    "href=\"#a\"" = .ok ⟨"#a", false⟩ := by rfl
  obtain ⟨m, hm, hselected, hleft, his⟩ : ∃ m, Selector.ofPattern "^if:" = .ok m ∧
      m.selects "if:true" = true ∧ m.selects "href" = false ∧ m.selects "is" = false :=
    ⟨_, by rfl, by decide, by decide, by decide⟩
  intro directive link e
  have hp := (html.processIn_eq_ok_iff (html.contextOf e) _ directive).2 ⟨_, hdirective, rfl⟩
  have hq := (html.processIn_eq_ok_iff (html.contextOf e) _ link).2 ⟨_, hlink, rfl⟩
  have hok := (html.process_eq_ok_iff Grammar.braces e).2 (.cons hp (.cons hq .nil))
  have hstripped := html.process_withoutAttributes Grammar.braces e hok m
  simp only [Attribute.qualifiedName, directive, link, qualifyName_none, List.filter_cons,
    List.filter_nil, hselected, hleft] at hstripped
  exact ⟨m, _, _, hm, hok, hstripped.1, hstripped.2 (.inl his)⟩

end Schema

end TemplateAttr
