import Mathlib.Logic.Relation
import TemplateAttr.Proofs.Target.Element

/-!
# Proofs/Target/Spelling — an attribute is known by its qualified name alone

    "if" + "true"  ──join──▸  "if:true"  ──fill──▸  "" + "if:true"

The tokenizer may split the name of an attribute in more than one way.  All the splits of a name
come to one attribute when the name is put **in one piece** (`respells_iff`), and whatever is asked
of an element is answered as if its names were in one piece.  So the answers do not depend on how
the names are split (`process_respelled`).
-/

namespace TemplateAttr

/-! ## The splits of a name -/

namespace Attribute

/-- **One move from a split of a name to another**: the part in front is joined to the local name,
or an empty part is put where there is none. -/
inductive Resplit : Attribute → Attribute → Prop
  | join (name value source : String) {p : String} (hp : p ≠ "") :
    Resplit ⟨name, value, source, some p⟩ ⟨p ++ ":" ++ name, value, source, none⟩
  | fill (name value source : String) :
    Resplit ⟨name, value, source, none⟩ ⟨name, value, source, some ""⟩

/-- **Attributes that differ in how their names are split**: moves lead from one to the other, each
made or taken back. -/
def Respells : Attribute → Attribute → Prop := Relation.EqvGen Resplit

/-- The attribute with its name in one piece. -/
def joined (a : Attribute) : Attribute := { a with name := a.qualifiedName, nsPrefix := none }

variable {a b : Attribute}

@[simp] theorem qualifiedName_joined : a.joined.qualifiedName = a.qualifiedName := rfl

/-- A part in front stands before a colon. -/
theorem qualifyName_of_ne_empty {p : String} (hp : p ≠ "") (name : String) :
    qualifyName (some p) name = p ++ ":" ++ name := by
  have hempty : p.isEmpty = false := by simpa using hp
  simp only [qualifyName, hempty]
  rfl

/-- A move changes nothing of the name in one piece. -/
theorem Resplit.joined_eq (h : Resplit a b) : a.joined = b.joined := by
  cases h with
  | join name value source hp => simp [joined, qualifiedName, qualifyName_of_ne_empty hp]
  | fill name value source => simp [joined, qualifiedName]

/-- Moves put any name in one piece. -/
theorem respells_joined (a : Attribute) : a.Respells a.joined := by
  obtain ⟨name, value, source, _ | p⟩ := a
  · exact .refl _
  · by_cases hp : p = ""
    · subst hp
      exact .symm _ _ (.rel _ _ (.fill name value source))
    · rw [joined, qualifiedName, qualifyName_of_ne_empty hp]
      exact .rel _ _ (.join name value source hp)

/-- **Attributes differ in how their names are split when they are the same in one piece.** -/
theorem respells_iff : a.Respells b ↔ a.joined = b.joined := by
  constructor
  · intro h
    induction h with
    | rel _ _ h => exact h.joined_eq
    | refl _ => rfl
    | symm _ _ _ ih => exact ih.symm
    | trans _ _ _ _ _ ih₁ ih₂ => exact ih₁.trans ih₂
  · intro h
    have hb := Relation.EqvGen.symm _ _ (respells_joined b)
    exact .trans _ _ _ (respells_joined a) (h ▸ hb)

end Attribute

/-! ## The places of attributes

Which attribute is looked up, and which are stripped, is said by where they stand: the attributes
themselves are not the same when their names are split in another way. -/

/-- A list is what stands at its places. -/
theorem filterMap_getElem?_range {α : Type} (l : List α) :
    (List.range l.length).filterMap (l[·]?) = l := by
  induction l with
  | nil => rfl
  | cons a rest ih =>
    simpa [List.range_succ_eq_map, List.filterMap_map, Function.comp_def] using ih

namespace Element

variable (e : Element) (m : Selector)

/-- **The places of the attributes that a selector chooses**, in order. -/
def places : List ℕ :=
  (List.range e.attributes.length).filter fun i => e.attributes[i]?.any m.chooses

/-- **The attribute that is looked up stands at the first of the places.** -/
theorem attribute?_eq_places : e.attribute? m = (e.places m).head?.bind (e.attributes[·]?) := by
  rw [attribute?, places, List.head?_filter, ← List.find?_filterMap, filterMap_getElem?_range]

/-- **The attributes that are stripped are those at the places**, and no others. -/
theorem withoutAttributes_eq_places : (e.withoutAttributes m).attributes =
    ((List.range e.attributes.length).filter (· ∉ e.places m)).filterMap (e.attributes[·]?) := by
  have hleft : (List.range e.attributes.length).filter (· ∉ e.places m) =
      (List.range e.attributes.length).filter fun i => !e.attributes[i]?.any m.chooses :=
    List.filter_congr fun i hi => by simp [places, List.mem_range.1 hi]
  rw [hleft, List.filterMap_filter, withoutAttributes]
  conv_lhs => rw [← filterMap_getElem?_range e.attributes, List.filter_filterMap]
  refine List.filterMap_congr fun i hi => ?_
  rw [List.getElem?_eq_getElem (List.mem_range.1 hi)]
  simp [Option.filter]

/-! ## Elements with their names in one piece -/

/-- The element with the name of each attribute in one piece. -/
def joined : Element := { e with attributes := e.attributes.map Attribute.joined }

/-- A selector chooses the same places when the names are in one piece. -/
theorem places_joined : e.joined.places m = e.places m := by
  have hchooses (a : Attribute) : m.chooses a.joined = m.chooses a := rfl
  simp only [places, joined, List.length_map, List.getElem?_map, Option.any_map, hchooses]

/-- So an `is` is found or missed alike. -/
theorem hasIs_joined : e.joined.hasIs = e.hasIs := by
  have hnames : (∃ a ∈ e.joined.attributes, a.qualifiedName = "is") ↔
      ∃ a ∈ e.attributes, a.qualifiedName = "is" := by
    simp [joined]
  rw [Bool.eq_iff_iff, hasIs_iff, hasIs_iff, hnames]

/-- **What is answered as if the names were in one piece** is answered alike however they are
split. -/
theorem eq_of_respells {α : Type} {f : Element → α} (hf : ∀ e : Element, f e.joined = f e)
    {l : List Attribute} (h : List.Forall₂ Attribute.Respells e.attributes l) :
    f { e with attributes := l } = f e := by
  have hjoined : l.map Attribute.joined = e.attributes.map Attribute.joined := by
    rw [← List.forall₂_eq_eq_eq, List.forall₂_map_left_iff, List.forall₂_map_right_iff]
    exact h.flip.imp fun a b hab => (Attribute.respells_iff.1 hab).symm
  have helement : joined { e with attributes := l } = e.joined := by rw [joined, hjoined, joined]
  rw [← hf { e with attributes := l }, helement, hf]

end Element

namespace Schema

variable (s : Schema) (g : Grammar) (e : Element)

/-- …the context is the same. -/
theorem contextOf_joined : s.contextOf e.joined = s.contextOf e :=
  (s.contextOf_attributes_iff e).2 e.hasIs_joined

/-- …and so is what the attributes are processed to. -/
theorem process_joined : s.process g e.joined = s.process g e := by
  have hprocess : s.processIn (s.contextOf e) g ∘ Attribute.joined =
    s.processIn (s.contextOf e) g := rfl
  rw [process, contextOf_joined, Element.joined, List.mapM_map, hprocess, process]

/-- A directive is reserved, wherever its family has been split off. -/
theorem targetIn_eq_reserved_of_respells (ctx : ElementContext) {p : String}
    (hp : p ++ ":" ∈ directiveFamilies) {name value source : String} {a : Attribute}
    (h : Attribute.Respells ⟨name, value, source, some p⟩ a) :
    s.targetIn ctx a.qualifiedName = .reserved := by
  have hne : p ≠ "" := by
    rintro rfl
    exact absurd hp (by decide)
  have hname : a.qualifiedName = p ++ ":" ++ name := by
    rw [← Attribute.qualifyName_of_ne_empty hne]
    exact congrArg Attribute.name (Attribute.respells_iff.1 h).symm
  rw [targetIn_eq_reserved_iff, hname, isReservedName, Bool.or_eq_true, List.any_eq_true]
  refine .inr ⟨_, hp, List.isPrefixOf_iff_prefix.2 ?_⟩
  simp [String.toList_append]

/-- **However the names of its attributes are split, an element is the same**: it has an `is` or has
none, a selector looks up the attribute at the same place, and strips those at the same places; its
context is the same, and so is all that its attributes are processed to.  In particular a directive
is reserved wherever its family has been split off. -/
theorem process_respelled {l : List Attribute}
    (h : List.Forall₂ Attribute.Respells e.attributes l) :
    let e' : Element := { e with attributes := l }
    e'.hasIs = e.hasIs ∧
      (∀ m : Selector, e'.places m = e.places m ∧ ∀ x ∈ [e, e'],
        x.attribute? m = (x.places m).head?.bind (x.attributes[·]?) ∧
        (x.withoutAttributes m).attributes =
          ((List.range x.attributes.length).filter (· ∉ x.places m)).filterMap
            (x.attributes[·]?)) ∧
      s.contextOf e' = s.contextOf e ∧
      s.process g e' = s.process g e ∧
      ∀ (ctx : ElementContext) (p name value source : String) (a : Attribute),
        p ++ ":" ∈ directiveFamilies → Attribute.Respells ⟨name, value, source, some p⟩ a →
          s.targetIn ctx a.qualifiedName = .reserved := by
  refine ⟨e.eq_of_respells Element.hasIs_joined h, fun m => ⟨?_, fun x _ => ⟨?_, ?_⟩⟩,
    e.eq_of_respells s.contextOf_joined h, e.eq_of_respells (s.process_joined g) h, ?_⟩
  · exact e.eq_of_respells (f := fun x => x.places m) (fun x => x.places_joined m) h
  · exact x.attribute?_eq_places m
  · exact x.withoutAttributes_eq_places m
  · exact fun ctx _ _ _ _ _ hp ha => s.targetIn_eq_reserved_of_respells ctx hp ha

/-- A directive in one piece, and an `is` behind an empty part: the element is the same as with the
family split off, and the `is` plain. -/
theorem process_respelled_directive :
    let split : Attribute := ⟨"true", "{x}", "if:true={x}", some "if"⟩
    let whole : Attribute := ⟨"if:true", "{x}", "if:true={x}", none⟩
    let base : Attribute := ⟨"is", "x-link", "is=\"x-link\"", none⟩
    let filled : Attribute := ⟨"is", "x-link", "is=\"x-link\"", some ""⟩
    let e : Element := { tagName := "a", attributes := [split, base] }
    let e' : Element := { tagName := "a", attributes := [whole, filled] }
    List.Forall₂ Attribute.Respells e.attributes e'.attributes ∧ "if" ++ ":" ∈ directiveFamilies ∧
      e'.hasIs = true ∧ (∀ m : Selector, e'.places m = e.places m) ∧
      html.contextOf e' = html.contextOf e ∧
      html.process Grammar.braces e' = html.process Grammar.braces e ∧
      html.targetIn (html.contextOf e') whole.qualifiedName = .reserved := by
  intro split whole base filled e e'
  have hwhole : split.Respells whole := .rel _ _ (.join "true" "{x}" "if:true={x}" (by decide))
  have hfilled : base.Respells filled := .rel _ _ (.fill _ _ _)
  have hsplits : List.Forall₂ Attribute.Respells e.attributes e'.attributes :=
    .cons hwhole (.cons hfilled .nil)
  have hfamily : "if" ++ ":" ∈ directiveFamilies := by decide
  obtain ⟨hasIs, hplaces, hcontext, hprocess, hreserved⟩ :=
    html.process_respelled Grammar.braces e hsplits
  exact ⟨hsplits, hfamily, hasIs.trans (by decide), fun m => (hplaces m).1, hcontext, hprocess,
    hreserved _ _ _ _ _ whole hfamily hwhole⟩

end Schema

end TemplateAttr
