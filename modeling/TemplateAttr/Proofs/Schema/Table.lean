import Mathlib
import TemplateAttr.Schema.Html

/-!
# Proofs/Schema/Table — the attribute table, line by line

    "type|a,button,input"   ──decoded──▸   type ↦ a, button, input

The schema of HTML looks attributes up in the decoded table.  What it finds is what the lines say:
the tags of an attribute are the pieces between the commas of its line (`mem_decodeTags_iff`), no
two lines are on one attribute, and a line that names no tag is empty behind its bar
(`tagsOf?_eq_some_iff`).  So whether an attribute is valid on a tag can be read off the lines
(`isValid_html_iff`).
-/

namespace TemplateAttr

namespace Html

/-! ## Pieces between commas -/

/-- **A piece of a text between commas**: it holds none, and on either side of it there is one, or
nothing. -/
def IsPiece (piece text : List Char) : Prop :=
  ',' ∉ piece ∧ ∃ before after, text = before ++ piece ++ after ∧
    (before = [] ∨ [','] <:+ before) ∧ (after = [] ∨ [','] <+: after)

theorem commaPieces_ne_nil (text : List Char) : commaPieces text ≠ [] := by
  cases text with
  | nil => exact List.cons_ne_nil _ _
  | cons c rest =>
    rw [commaPieces]
    split
    · exact List.cons_ne_nil _ _
    · split <;> exact List.cons_ne_nil _ _

/-- A character that is no comma begins the first piece. -/
theorem commaPieces_cons {c : Char} (hc : c ≠ ',') {rest piece : List Char}
    {pieces : List (List Char)} (h : commaPieces rest = piece :: pieces) :
    commaPieces (c :: rest) = (c :: piece) :: pieces := by
  rw [commaPieces, if_neg hc, h]

/-- A text without a comma is one piece. -/
theorem commaPieces_of_notMem {text : List Char} (h : ',' ∉ text) : commaPieces text = [text] := by
  induction text with
  | nil => rfl
  | cons c rest ih =>
    rw [List.mem_cons, not_or] at h
    exact commaPieces_cons (Ne.symm h.1) (ih h.2)

/-- **A comma parts the pieces before it from those after it.** -/
theorem commaPieces_append (before after : List Char) :
    commaPieces (before ++ ',' :: after) = commaPieces before ++ commaPieces after := by
  induction before with
  | nil => simp [commaPieces]
  | cons c rest ih =>
    by_cases hc : c = ','
    · simp [commaPieces, hc, ih]
    · obtain ⟨piece, pieces, hpieces⟩ := List.exists_cons_of_ne_nil (commaPieces_ne_nil rest)
      rw [hpieces, List.cons_append] at ih
      rw [List.cons_append, commaPieces_cons hc ih, commaPieces_cons hc hpieces, List.cons_append]

/-- **The pieces of a text** are those between its commas, by induction on its length: what follows
the first comma is shorter. -/
theorem mem_commaPieces_iff {piece text : List Char} :
    piece ∈ commaPieces text ↔ IsPiece piece text := by
  constructor
  · intro h
    induction hlength : text.length using Nat.strongRecOn generalizing text with
    | _ n ih =>
    by_cases hcomma : ',' ∈ text
    · obtain ⟨first, rest, rfl, hfirst⟩ := List.eq_append_cons_of_mem hcomma
      rw [commaPieces_append, commaPieces_of_notMem hfirst, List.singleton_append,
        List.mem_cons] at h
      rcases h with rfl | h
      · exact ⟨hfirst, [], ',' :: rest, rfl, .inl rfl, .inr (List.prefix_append [','] rest)⟩
      · have hshorter : rest.length < n := by
          rw [← hlength, List.length_append, List.length_cons]
          omega
        obtain ⟨hpiece, before, after, rfl, hbefore, hafter⟩ := ih _ hshorter h rfl
        refine ⟨hpiece, first ++ ',' :: before, after, by simp, .inr ?_, hafter⟩
        rcases hbefore with rfl | hbefore
        · exact List.suffix_append first [',']
        · exact hbefore.trans (List.suffix_append_of_suffix (List.suffix_cons ',' before))
    · rw [commaPieces_of_notMem hcomma, List.mem_singleton] at h
      subst h
      exact ⟨hcomma, [], [], by simp, .inl rfl, .inl rfl⟩
  · rintro ⟨hpiece, before, after, rfl, hbefore, hafter⟩
    have hback : piece ∈ commaPieces (piece ++ after) := by
      rcases hafter with rfl | ⟨rest, rfl⟩
      · rw [List.append_nil, commaPieces_of_notMem hpiece]
        exact List.mem_singleton_self piece
      · rw [List.singleton_append, commaPieces_append, commaPieces_of_notMem hpiece]
        exact List.mem_cons_self
    rcases hbefore with rfl | ⟨front, rfl⟩
    · exact hback
    · rw [List.append_assoc, List.append_assoc, List.singleton_append, commaPieces_append]
      exact List.mem_append_right _ hback

/-- **The tags that a list with commas names** are its pieces, the empty ones left out. -/
theorem mem_decodeTags_iff {tagName : String} {text : List Char} :
    tagName ∈ decodeTags text ↔ tagName ≠ "" ∧ IsPiece tagName.toList text := by
  rw [decodeTags, List.mem_map, ← mem_commaPieces_iff]
  constructor
  · rintro ⟨piece, hpiece, rfl⟩
    rw [List.mem_filter] at hpiece
    simpa [and_comm] using hpiece
  · rintro ⟨hne, hpiece⟩
    exact ⟨tagName.toList, by simpa [hpiece] using hne, String.ofList_toList⟩

/-- A list that begins with a tag names one. -/
theorem decodeTags_eq_nil_iff {text : List Char} (h : text.head? ≠ some ',') :
    decodeTags text = [] ↔ text = [] := by
  refine ⟨fun hnil => ?_, fun hnil => by rw [hnil]; rfl⟩
  cases text with
  | nil => rfl
  | cons c rest =>
    have hc : c ≠ ',' := by simpa using h
    obtain ⟨piece, pieces, hpieces⟩ := List.exists_cons_of_ne_nil (commaPieces_ne_nil rest)
    rw [decodeTags, commaPieces_cons hc hpieces] at hnil
    simp at hnil

/-! ## The lines -/

/-- **A line as it should be**, cut at a bar: an attribute, and nothing or a list that begins with a
tag.  There is no other bar, and commas stand between tags only. -/
def WellSpelled (name tags : List Char) : Prop :=
  (name ≠ [] ∧ '|' ∉ name ∧ ',' ∉ name) ∧ '|' ∉ tags ∧ tags.head? ≠ some ','

/-- Whether a line is as it should be is seen from its two sides. -/
instance (name tags : List Char) : Decidable (WellSpelled name tags) :=
  inferInstanceAs (Decidable (_ ∧ _))

set_option maxRecDepth 2000 in
/-- **The lines of the table are as they should be**, and no two of them on one attribute.  Their
characters are found by unification, since to decode them takes the kernel long. -/
theorem exists_texts : ∃ texts : List (List Char), attributeLines = texts.map String.ofList ∧
    (texts.all fun text => (splitAtFirst '|' text).any fun l => WellSpelled l.1 l.2) = true ∧
      ((texts.filterMap (splitAtFirst '|')).map Prod.fst).Nodup := by
  simp only [← List.forall₂_eq_eq_eq, List.forall₂_map_right_iff]
  constructor
  constructor
  · dsimp only [attributeLines]
    repeat (apply List.Forall₂.cons; exact rfl)
    exact .nil
  · decide +kernel

theorem toList_line (name tags : String) :
    (name ++ "|" ++ tags).toList = name.toList ++ '|' :: tags.toList := by
  simp

/-- Each line can be cut as it should be. -/
theorem exists_wellSpelled {line : String} (h : line ∈ attributeLines) :
    ∃ name tags : String, line = name ++ "|" ++ tags ∧ WellSpelled name.toList tags.toList := by
  obtain ⟨texts, hlines, hspelled, -⟩ := exists_texts
  obtain ⟨text, htext, rfl⟩ := List.mem_map.1 (hlines ▸ h)
  obtain ⟨⟨first, rest⟩, hsplit, hcut⟩ :=
    (Option.any_eq_true _ _).1 (List.all_eq_true.1 hspelled text htext)
  refine ⟨String.ofList first, String.ofList rest, ?_, ?_⟩
  · rw [← String.toList_inj, toList_line, String.toList_ofList, String.toList_ofList,
      String.toList_ofList]
    exact (splitAtFirst_eq_some_iff.1 hsplit).1
  · rw [String.toList_ofList, String.toList_ofList]
    exact of_decide_eq_true hcut

/-- **However a line is cut at a bar, it is as it should be**: there is one bar only, so there is
one way to cut. -/
theorem wellSpelled_of_mem {name tags : String} (h : name ++ "|" ++ tags ∈ attributeLines) :
    WellSpelled name.toList tags.toList := by
  obtain ⟨first, rest, hline, hcut⟩ := exists_wellSpelled h
  rw [← String.toList_inj, toList_line, toList_line] at hline
  obtain ⟨hname, -, htags⟩ :=
    (List.append_cons_inj_of_notMem hcut.1.2.1 hcut.2.1).1 hline.symm
  rwa [← hname, ← htags]

/-! ## The decoded table -/

/-- A line is decoded by cutting it at its first bar. -/
theorem decodeLine_eq_some_iff {line name : String} {tags : List String} :
    decodeLine line = some (name, tags) ↔ ∃ text : String, line = name ++ "|" ++ text ∧
      '|' ∉ name.toList ∧ tags = decodeTags text.toList := by
  rw [decodeLine, Option.map_eq_some_iff]
  constructor
  · rintro ⟨⟨first, rest⟩, hsplit, heq⟩
    cases heq
    obtain ⟨hline, hbar⟩ := splitAtFirst_eq_some_iff.1 hsplit
    refine ⟨String.ofList rest, ?_, ?_, ?_⟩
    · rw [← String.toList_inj, toList_line, hline, String.toList_ofList, String.toList_ofList]
    · rwa [String.toList_ofList]
    · rw [String.toList_ofList]
  · rintro ⟨text, rfl, hbar, rfl⟩
    refine ⟨(name.toList, text.toList), ?_, by simp⟩
    rw [toList_line, splitAtFirst_append hbar]

/-- **The decoded table holds what the lines say**, each cut at its bar. -/
theorem mem_attributeTable_iff {name : String} {tags : List String} :
    (name, tags) ∈ attributeTable ↔ ∃ text : String, name ++ "|" ++ text ∈ attributeLines ∧
      tags = decodeTags text.toList := by
  simp only [attributeTable, List.mem_filterMap, decodeLine_eq_some_iff]
  constructor
  · rintro ⟨_, hline, text, rfl, -, htags⟩
    exact ⟨text, hline, htags⟩
  · rintro ⟨text, hline, htags⟩
    exact ⟨_, hline, text, rfl, (wellSpelled_of_mem hline).1.2.1, htags⟩

/-- **No two lines are on one attribute.** -/
theorem nodup_attributeTable : (attributeTable.map Prod.fst).Nodup := by
  obtain ⟨texts, hlines, -, hnodup⟩ := exists_texts
  have hdecode : decodeLine ∘ String.ofList = fun text =>
      (splitAtFirst '|' text).map fun l => (String.ofList l.1, decodeTags l.2) := by
    funext text
    simp [decodeLine]
  have hnames : attributeTable.map Prod.fst =
      ((texts.filterMap (splitAtFirst '|')).map Prod.fst).map String.ofList := by
    rw [attributeTable, hlines, List.filterMap_map, hdecode, ← List.map_filterMap, List.map_map,
      List.map_map]
    rfl
  rw [hnames]
  exact hnodup.map fun _ _ => String.ofList_injective

/-- A look-up finds what stands in the table, when there is one entry on each name. -/
theorem lookup_eq_some_iff_mem {β : Type} {table : List (String × β)}
    (h : (table.map Prod.fst).Nodup) {name : String} {entry : β} :
    table.lookup name = some entry ↔ (name, entry) ∈ table := by
  rw [List.lookup_eq_some_iff, List.mem_iff_append]
  refine exists₂_congr fun before after => and_iff_left_of_imp ?_
  rintro rfl p hp
  rw [List.map_append, List.map_cons, List.nodup_append] at h
  have hne := h.2.2 _ (List.mem_map_of_mem hp) _ List.mem_cons_self
  exact bne_iff_ne.2 (Ne.symm hne)

end Html

namespace Schema

open Html

/-- **The schema knows an attribute by its line.** -/
theorem tagsOf?_html_eq_some_iff {name : String} {tags : List String} :
    html.tagsOf? name = some tags ↔ ∃ text : String, name ++ "|" ++ text ∈ attributeLines ∧
      tags = decodeTags text.toList := by
  have hnodup : (attributeTable.reverse.map Prod.fst).Nodup := by
    rw [List.map_reverse, List.nodup_reverse]
    exact nodup_attributeTable
  have hlookup : html.tagsOf? name = attributeTable.reverse.lookup name := by
    rw [html]
  rw [hlookup, lookup_eq_some_iff_mem hnodup, List.mem_reverse, mem_attributeTable_iff]

theorem isUniversal_html_iff {name : String} : html.isUniversal name = true ↔
    name ∈ globalAttributes ∨ name ∈ frameworkAttributes ∨ "data-".toList <+: name.toList ∨
      "aria-".toList <+: name.toList := by
  change (globalAttributes.contains name ||
    (frameworkAttributes.contains name || isDataOrAria name)) = true ↔ _
  simp only [isDataOrAria, Bool.or_eq_true, List.contains_iff_mem, List.isPrefixOf_iff_prefix]

/-- **The schema defines an attribute on a tag** when the line of the attribute names the tag, or no
tag at all. -/
theorem tagsOf?_html_any_iff {tagName name : String} :
    ((html.tagsOf? name).any fun tags => tags.isEmpty || tags.contains tagName) = true ↔
      ∃ line ∈ attributeLines, ∃ tags : String, line = name ++ "|" ++ tags ∧
        (tags = "" ∨ tagName ≠ "" ∧ IsPiece tagName.toList tags.toList) := by
  have hnames {text : String} (hline : name ++ "|" ++ text ∈ attributeLines) :
      ((decodeTags text.toList).isEmpty || (decodeTags text.toList).contains tagName) = true ↔
        text = "" ∨ tagName ≠ "" ∧ IsPiece tagName.toList text.toList := by
    rw [Bool.or_eq_true, List.isEmpty_iff, List.contains_iff_mem, mem_decodeTags_iff,
      decodeTags_eq_nil_iff (wellSpelled_of_mem hline).2.2, String.toList_eq_nil_iff]
  rw [Option.any_eq_true]
  constructor
  · rintro ⟨tags, htags, hmatch⟩
    obtain ⟨text, hline, rfl⟩ := tagsOf?_html_eq_some_iff.1 htags
    exact ⟨_, hline, text, rfl, (hnames hline).1 hmatch⟩
  · rintro ⟨_, hline, text, rfl, hmatch⟩
    exact ⟨_, tagsOf?_html_eq_some_iff.2 ⟨text, hline, rfl⟩, (hnames hline).2 hmatch⟩

/-- **Whether an attribute is valid on a tag can be read off the table**: it is universal, or the
tag is one of SVG or a dashed built-in one, or the line of the attribute names the tag, or no tag at
all.  No line is lost in the look-up, and an empty text or one with a comma or a bar is neither an
attribute that is found nor a tag. -/
theorem isValid_html_iff :
    (∀ tagName name : String, html.isValid tagName name = true ↔
      name ∈ globalAttributes ∨ name ∈ ["role", "is", "key", "slot"] ∨
        "data-".toList <+: name.toList ∨ "aria-".toList <+: name.toList ∨
        tagName ∈ svgTags ∨ tagName ∈ dashedTags ∨
        ∃ line ∈ attributeLines, ∃ tags : String, line = name ++ "|" ++ tags ∧
          (tags = "" ∨ tagName ≠ "" ∧ IsPiece tagName.toList tags.toList)) ∧
      (∀ line ∈ attributeLines, ∃ name tags : String, line = name ++ "|" ++ tags ∧
        html.tagsOf? name = some (decodeTags tags.toList)) ∧
      ∀ odd : String, odd = "" ∨ ',' ∈ odd.toList ∨ '|' ∈ odd.toList →
        html.tagsOf? odd = none ∧ ∀ name tags, html.tagsOf? name = some tags → odd ∉ tags := by
  refine ⟨fun tagName name => ?_, fun line hline => ?_, fun odd hodd => ⟨?_, fun name tags h => ?_⟩⟩
  · have hsvg : html.isSvgTag tagName = true ↔ tagName ∈ svgTags := List.contains_iff_mem
    have hdashed : html.isDashedBuiltin tagName = true ↔ tagName ∈ dashedTags :=
      List.contains_iff_mem
    rw [isValid, Bool.or_eq_true, Bool.or_eq_true, Bool.or_eq_true, isUniversal_html_iff, hsvg,
      hdashed, tagsOf?_html_any_iff, frameworkAttributes]
    simp only [or_assoc]
  · obtain ⟨name, text, rfl, -⟩ := exists_wellSpelled hline
    exact ⟨name, text, rfl, tagsOf?_html_eq_some_iff.2 ⟨text, hline, rfl⟩⟩
  · refine Option.eq_none_iff_forall_ne_some.2 fun tags h => ?_
    obtain ⟨text, hline, rfl⟩ := tagsOf?_html_eq_some_iff.1 h
    obtain ⟨hne, hbar, hcomma⟩ := (wellSpelled_of_mem hline).1
    rcases hodd with rfl | hodd | hodd
    · exact hne rfl
    · exact hcomma hodd
    · exact hbar hodd
  · obtain ⟨text, hline, rfl⟩ := tagsOf?_html_eq_some_iff.1 h
    rw [mem_decodeTags_iff]
    rintro ⟨hne, hcomma, before, after, htext, -⟩
    rcases hodd with rfl | hodd | hodd
    · exact hne rfl
    · exact hcomma hodd
    · have hbar := (wellSpelled_of_mem hline).2.1
      rw [htext] at hbar
      exact hbar (List.mem_append_left _ (List.mem_append_right _ hodd))

end Schema

end TemplateAttr
