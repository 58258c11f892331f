import TemplateAttr.Proofs.Attribute.Outcome
import TemplateAttr.Proofs.Compiler.Configuration
import TemplateAttr.Proofs.Target.Element

/-!
# Proofs/Compiler/Calls — the calls of a compiler agree

Processing an element, making one value plain and asking where one attribute ends up are calls of
their own, each of which reads its texts anew.  A call depends on its texts only through what they
spell (`process_of_readText?` and its like), and what it answers is what its caller reads
(`answers_iff`).  So all that is answered for a whole element is answered attribute by attribute by
the other calls (`process_agrees`).
-/

namespace TemplateAttr

open JsonForm

section MapError

variable {α ε ε' : Type} {x : Except ε α} {f : ε → ε'}

/-- Refusals may be reworded without a change to what succeeds. -/
theorem mapError_eq_ok_iff {a : α} : x.mapError f = .ok a ↔ x = .ok a := by
  cases x <;> simp [Except.mapError]

/-- …and each then comes from one in the old words. -/
theorem mapError_eq_error_iff {e' : ε'} :
    x.mapError f = .error e' ↔ ∃ e, x = .error e ∧ e' = f e := by
  cases x <;> simp [Except.mapError, eq_comm]

end MapError

namespace Compiler

open Schema (html)

/-! ## Answers -/

/-- **A call answers a value** when it succeeds with a text from which the value is read. -/
def Answers {α : Type} [JsonForm α] (call : Except CompilerError α) (a : α) : Prop :=
  ∃ text, reply call = .ok text ∧ readText? text = some a

/-- **What the caller reads is what the call came to.** -/
theorem answers_iff {α : Type} [JsonForm α] [LawfulJsonForm α] {call : Except CompilerError α}
    {a : α} : Answers call a ↔ call = .ok a := by
  constructor
  · rintro ⟨text, hreply, hread⟩
    cases call with
    | error e => cases hreply
    | ok b =>
      cases hreply
      rw [readText?_writeText] at hread
      rw [Option.some.inj hread]
  · rintro rfl
    exact ⟨writeText a, rfl, readText?_writeText a⟩

/-! ## Calls by what their texts spell -/

variable (c : Compiler) {text : String}

section Element

variable {e : Element} (h : readText? text = some e)

include h

/-- An element is read from any text that spells it. -/
theorem readElement_of_readText? : readElement text = .ok e := by
  rw [readElement, h]

/-- So the call for an element depends on its text only through the element. -/
theorem process_of_readText? :
    c.process text = (Schema.html.process c.grammar e).mapError .badValue := by
  rw [process, readElement_of_readText? h]
  rfl

/-- …and so do the questions about one attribute of it. -/
theorem target_of_readText? (name : String) :
    c.target text name = .ok (Schema.html.targetIn (Schema.html.contextOf e) name) := by
  rw [target, readElement_of_readText? h]
  rfl

theorem isAttribute_of_readText? (name : String) :
    c.isAttribute text name = .ok (Schema.html.isAttributeIn (Schema.html.contextOf e) name) := by
  rw [isAttribute, readElement_of_readText? h]
  rfl

theorem propertyName_of_readText? (name : String) :
    c.propertyName text name = .ok (Schema.html.propertyNameIn (Schema.html.contextOf e) name) := by
  rw [propertyName, readElement_of_readText? h]
  rfl

end Element

/-- The call for a value depends on its text only through the attribute. -/
theorem normalizeValue_of_readText? {a : Attribute} (h : readText? text = some a) :
    c.normalizeValue text = (a.normalize c.grammar a.source).mapError .badValue := by
  rw [normalizeValue, readAttribute, h]
  rfl

/-! ## Attribute by attribute -/

/-- **A processed attribute agrees with the calls for it**, `text` being that of the element: it has
the qualified name, and the plain value and the target that the calls answer; set as an attribute it
is one by their answer, and assigned to a property it is none, and the property is what they
answer. -/
structure Agrees (text : String) (a : Attribute) (p : ProcessedAttribute) : Prop where
  name : p.name = a.qualifiedName
  value : ∃ n, Answers (c.normalizeValue (writeText a)) n ∧ p.value = n.value ∧
    (p.kind = .escapedLiteral ↔ n.escaped = true)
  target : Answers (c.target text a.qualifiedName) p.target
  domAttribute : ∀ name, p.target = .domAttribute name →
    name = a.qualifiedName ∧ c.isAttribute text a.qualifiedName = .ok true
  domProperty : ∀ name, p.target = .domProperty name →
    c.isAttribute text a.qualifiedName = .ok false ∧
      c.propertyName text a.qualifiedName = .ok name

variable {a : Attribute} {ctx : ElementContext}

/-- The call for a value answers the plain form of the value. -/
theorem answers_normalizeValue_iff {n : NormalizedValue} :
    Answers (c.normalizeValue (writeText a)) n ↔ a.normalize c.grammar a.source = .ok n := by
  rw [answers_iff, c.normalizeValue_of_readText? (readText?_writeText a), mapError_eq_ok_iff]

/-- An attribute is processed when its value is made plain by the call for that. -/
theorem exists_answers_normalizeValue_iff :
    (∃ n, Answers (c.normalizeValue (writeText a)) n) ↔
      ∃ p, Schema.html.processIn ctx c.grammar a = .ok p := by
  simp only [answers_normalizeValue_iff, Schema.processIn_eq_ok_iff]
  constructor
  · rintro ⟨n, hn⟩
    exact ⟨_, n, hn, rfl⟩
  · rintro ⟨_, n, hn, -⟩
    exact ⟨n, hn⟩

/-- An attribute is refused as its value is by the call for that. -/
theorem normalizeValue_eq_error_iff {fault : SyntaxError} :
    c.normalizeValue (writeText a) = .error (.badValue fault) ↔
      Schema.html.processIn ctx c.grammar a = .error fault := by
  rw [c.normalizeValue_of_readText? (readText?_writeText a), mapError_eq_error_iff,
    Schema.processIn_eq_error_iff]
  constructor
  · rintro ⟨_, herror, hfault⟩
    cases hfault
    exact herror
  · exact fun herror => ⟨fault, herror, rfl⟩

/-- **A processed attribute of an element agrees with the calls for it.** -/
theorem agrees_of_processIn {e : Element} (h : readText? text = some e) {p : ProcessedAttribute}
    (hp : Schema.html.processIn (Schema.html.contextOf e) c.grammar a = .ok p) :
    c.Agrees text a p := by
  obtain ⟨n, hn, rfl⟩ := (Schema.processIn_eq_ok_iff _ _ _ _).1 hp
  refine ⟨rfl, ⟨n, (answers_normalizeValue_iff c).2 hn, rfl, ?_⟩, ?_, fun name htarget => ?_,
    fun name htarget => ?_⟩
  · exact NormalizedValue.kind_eq_escapedLiteral_iff
  · exact answers_iff.2 (c.target_of_readText? h _)
  · obtain ⟨-, hattribute, hname⟩ := Schema.targetIn_eq_domAttribute_iff.1 htarget
    exact ⟨hname, by rw [c.isAttribute_of_readText? h, hattribute]⟩
  · obtain ⟨-, hattribute, hname⟩ := Schema.targetIn_eq_domProperty_iff.1 htarget
    rw [c.isAttribute_of_readText? h, hattribute, c.propertyName_of_readText? h, hname]
    exact ⟨rfl, rfl⟩

/-- **The call for an element agrees with the calls for its attributes**, whatever text the element
is read from.  It answers when each value is made plain by the call for that, and then entry by
entry as the calls for the attributes do; else it refuses the value that the call for the first
attribute that is refused refuses, in the same words. -/
theorem process_agrees {e : Element} (h : readText? text = some e) :
    ((∃ l, Answers (c.process text) l) ↔
        ∀ a ∈ e.attributes, ∃ n, Answers (c.normalizeValue (writeText a)) n) ∧
      (∀ l, Answers (c.process text) l → List.Forall₂ (c.Agrees text) e.attributes l) ∧
      ∀ error, c.process text = .error error ↔ ∃ fault before a after,
        error = .badValue fault ∧ e.attributes = before ++ a :: after ∧
        (∀ b ∈ before, ∃ n, Answers (c.normalizeValue (writeText b)) n) ∧
        c.normalizeValue (writeText a) = .error error := by
  have hprocess (l : List ProcessedAttribute) : Answers (c.process text) l ↔
      Schema.html.process c.grammar e = .ok l := by
    rw [answers_iff, c.process_of_readText? h, mapError_eq_ok_iff]
  refine ⟨?_, fun l hl => ?_, fun error => ?_⟩
  · simp only [hprocess, Schema.exists_process_eq_ok_iff, ← exists_answers_normalizeValue_iff]
  · have hentries := (Schema.process_eq_ok_iff _ _ _).1 ((hprocess l).1 hl)
    exact hentries.imp fun a p hp => c.agrees_of_processIn h hp
  · rw [c.process_of_readText? h, mapError_eq_error_iff]
    simp only [Schema.process_eq_error_iff, ← normalizeValue_eq_error_iff,
      ← exists_answers_normalizeValue_iff]
    constructor
    · rintro ⟨fault, ⟨before, a, after, hsplit, hbefore, ha⟩, rfl⟩
      exact ⟨fault, before, a, after, rfl, hsplit, hbefore, ha⟩
    · rintro ⟨fault, before, a, after, rfl, hsplit, hbefore, ha⟩
      exact ⟨fault, ⟨before, a, after, hsplit, hbefore, ha⟩, rfl⟩

/-- Without a configuration, an element spelled as an array: its `key` is processed, but with a
value behind it that may mean two things it is refused as that value is. -/
theorem process_agrees_key :
    let key : Attribute := ⟨"key", "{x}", "key={x}", none⟩
    let id : Attribute := ⟨"id", "{x}y", "id={x}y", none⟩
    let text := "[\"p\", null, [[\"key\", \"{x}\", \"key={x}\"]]]"
    let refused := "[\"p\", null, [[\"key\", \"{x}\", \"key={x}\"], [\"id\", \"{x}y\", \"id={x}y\"]]]"
    ∃ c error, ofConfig none = .ok c ∧ readText? text = some (⟨"p", none, [key]⟩ : Element) ∧
      (∃ l, Answers (c.process text) l ∧ List.Forall₂ (c.Agrees text) [key] l) ∧
      readText? refused = some (⟨"p", none, [key, id]⟩ : Element) ∧
      c.process refused = .error error ∧ c.normalizeValue (writeText id) = .error error := by
  have hkey : Attribute.normalize ⟨"key", "{x}", "key={x}", none⟩ Grammar.braces "key={x}" =
    .ok ⟨"{x}", false⟩ := by rfl
  have hid : Attribute.normalize ⟨"id", "{x}y", "id={x}y", none⟩ Grammar.braces "id={x}y" =
    .error (.ofUnresolved "id={x}y".toList) := by rfl
  have htext : readText? "[\"p\", null, [[\"key\", \"{x}\", \"key={x}\"]]]" =
      some (⟨"p", none, [⟨"key", "{x}", "key={x}", none⟩]⟩ : Element) := by
    decide +kernel
  have hrefused : readText?
      "[\"p\", null, [[\"key\", \"{x}\", \"key={x}\"], [\"id\", \"{x}y\", \"id={x}y\"]]]" =
      some (⟨"p", none, [⟨"key", "{x}", "key={x}", none⟩, ⟨"id", "{x}y", "id={x}y", none⟩]⟩ :
        Element) := by
    decide +kernel
  intro key id text refused
  let c : Compiler := ⟨Grammar.braces⟩
  have hplain : ∃ n, Answers (c.normalizeValue (writeText key)) n :=
    ⟨_, (answers_normalizeValue_iff c).2 hkey⟩
  have hfault : c.normalizeValue (writeText id) =
      .error (.badValue (.ofUnresolved "id={x}y".toList)) :=
    (normalizeValue_eq_error_iff c).2
      ((html.processIn_eq_error_iff (html.contextOf ⟨"p", none, [key, id]⟩) _ id).2 hid)
  obtain ⟨hanswers, hagrees, -⟩ := c.process_agrees htext
  obtain ⟨l, hl⟩ := hanswers.2 (List.forall_mem_singleton.2 hplain)
  obtain ⟨-, -, herror⟩ := c.process_agrees hrefused
  refine ⟨c, _, ofConfig_none, htext, ⟨l, hl, hagrees l hl⟩, hrefused, ?_, hfault⟩
  exact (herror _).2
    ⟨_, [key], id, [], rfl, rfl, List.forall_mem_singleton.2 hplain, hfault⟩

end Compiler

end TemplateAttr
