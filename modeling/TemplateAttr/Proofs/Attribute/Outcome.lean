import TemplateAttr.Proofs.Attribute.Reading

/-!
# Proofs/Attribute/Outcome — what each reading makes of a value

A value is made plain as it stands, or it loses one mark at an end: the backslash of an escape, the
slash of a tag.  The mark is cut off by bytes, so the cut has to fall between two characters
(`IsByteSlice`).  With the readings parting all cases, the outcome of any attribute is known from
the two texts alone (`normalize_partition`).

The kind of the outcome is found out from the plain value, without the source text, so a value that
the source text does not show can still come out as an expression (`exists_expression_iff`).
-/

namespace TemplateAttr

/-! ## Slices by bytes -/

/-- **A part of a text, taken by bytes**: both ends lie between characters. -/
structure IsByteSlice (text : String) (first last : Nat) (part : String) : Prop where
  first_valid : String.Pos.Raw.IsValid text ⟨first⟩
  last_valid : String.Pos.Raw.IsValid text ⟨last⟩
  first_le_last : first ≤ last
  bytes : part.toByteArray = text.toByteArray.extract first last

namespace IsByteSlice

theorem left (part rest : String) : IsByteSlice (part ++ rest) 0 part.utf8ByteSize part where
  first_valid := String.Pos.Raw.isValid_iff_exists_append.2 ⟨"", part ++ rest, by simp, rfl⟩
  last_valid := String.Pos.Raw.isValid_iff_exists_append.2 ⟨part, rest, rfl, rfl⟩
  first_le_last := Nat.zero_le _
  bytes := by
    rw [String.toByteArray_append, ByteArray.extract_append_eq_left String.size_toByteArray.symm]

theorem right (rest part : String) :
    IsByteSlice (rest ++ part) rest.utf8ByteSize (rest ++ part).utf8ByteSize part where
  first_valid := String.Pos.Raw.isValid_iff_exists_append.2 ⟨rest, part, rfl, rfl⟩
  last_valid := String.Pos.Raw.isValid_iff_exists_append.2 ⟨rest ++ part, "", by simp, rfl⟩
  first_le_last := by
    rw [String.utf8ByteSize_append]
    exact Nat.le_add_right _ _
  bytes := by
    have hsize : (rest ++ part).utf8ByteSize = rest.toByteArray.size + part.toByteArray.size := by
      simp only [String.utf8ByteSize_append, String.size_toByteArray]
    rw [String.toByteArray_append,
      ByteArray.extract_append_eq_right String.size_toByteArray.symm hsize]

/-- What is left when the first character is cut off. -/
theorem of_cons {text : String} {c : Char} {rest : List Char} (h : text.toList = c :: rest) :
    IsByteSlice text c.utf8Size text.utf8ByteSize (String.ofList rest) := by
  have htext : text = String.singleton c ++ String.ofList rest := by
    rw [String.singleton_eq_ofList, ← String.ofList_append, List.singleton_append, ← h,
      String.ofList_toList]
  have hcut := right (String.singleton c) (String.ofList rest)
  rwa [← htext, String.utf8ByteSize_singleton] at hcut

/-- What is left when the last character is cut off. -/
theorem of_concat {text : String} {c : Char} {front : List Char} (h : text.toList = front ++ [c]) :
    c.utf8Size ≤ text.utf8ByteSize ∧
      IsByteSlice text 0 (text.utf8ByteSize - c.utf8Size) (String.ofList front) := by
  have htext : text = String.ofList front ++ String.singleton c := by
    rw [String.singleton_eq_ofList, ← String.ofList_append, ← h, String.ofList_toList]
  have hsize : text.utf8ByteSize = (String.ofList front).utf8ByteSize + c.utf8Size := by
    rw [htext, String.utf8ByteSize_append, String.utf8ByteSize_singleton]
  have hcut := left (String.ofList front) (String.singleton c)
  rw [← htext] at hcut
  refine ⟨by omega, ?_⟩
  rwa [hsize, Nat.add_sub_cancel]

end IsByteSlice

/-! ## Outcomes -/

/-- **What each reading makes of a value**: the value as it stands, the value without its mark, or
an error. -/
def Reading.Yields (d : Delimiters) (value source : String)
    (result : Except SyntaxError NormalizedValue) : Reading → Prop
  | plain | binding => result = .ok ⟨value, false⟩
  | selfClosed w =>
    let size := value.utf8ByteSize
    result = .ok ⟨String.ofList w, false⟩ ∧ Mark.slash.char.utf8Size ≤ size ∧
      IsByteSlice value 0 (size - Mark.slash.char.utf8Size) (String.ofList w)
  | escaped w =>
    result = .ok ⟨String.ofList w, true⟩ ∧
      IsByteSlice value Mark.backslash.char.utf8Size value.utf8ByteSize (String.ofList w)
  | ambiguous => result = .error (.ofQuoted d source.toList)
  | unresolved => result = .error (.ofUnresolved source.toList)

namespace Attribute

variable (g : Grammar) (a : Attribute) (source : String)

/-- An attribute is made plain by the reading that applies. -/
theorem normalize_of_applies {r : Reading}
    (h : r.Applies g.delimiters a.value.toList source.toList) :
    a.normalize g source = r.outcome g a.value.toList source.toList := by
  rw [normalize, reading, (g.readValue_eq_iff).2 h]

/-- …and so by one that fits. -/
theorem normalize_of_fits {r : Reading}
    (h : r.Fits g.delimiters a.value.toList source.toList) :
    a.normalize g source = r.outcome g a.value.toList source.toList :=
  normalize_of_applies g a source (.inl h)

/-- What a reading makes of a value is what its outcome says. -/
theorem yields_of_applies {r : Reading}
    (h : r.Applies g.delimiters a.value.toList source.toList) :
    r.Yields g.delimiters a.value source (a.normalize g source) := by
  have houtcome := normalize_of_applies g a source h
  cases r with
  | plain | binding => rw [houtcome, Reading.outcome, String.ofList_toList]; rfl
  | ambiguous | unresolved => exact houtcome
  | escaped w =>
    obtain ⟨-, -, hvalue, -⟩ := h.fits nofun
    exact ⟨houtcome, IsByteSlice.of_cons hvalue⟩
  | selfClosed w =>
    obtain ⟨-, -, -, hvalue, -⟩ := h.fits nofun
    exact ⟨houtcome, IsByteSlice.of_concat hvalue⟩

/-- **The outcome of making a value plain is known from the value and the source text**: exactly one
reading applies, and it says what becomes of the value. -/
theorem normalize_partition :
    (∃! r : Reading, r.Applies g.delimiters a.value.toList source.toList) ∧
      ∀ r : Reading, r.Applies g.delimiters a.value.toList source.toList →
        r.Yields g.delimiters a.value source (a.normalize g source) := by
  refine ⟨⟨a.reading g source, g.readValue_eq_iff.1 rfl, fun r hr => ?_⟩, fun r hr => ?_⟩
  · exact (g.readValue_eq_iff.2 hr).symm
  · exact yields_of_applies g a source hr

end Attribute

/-! ## Kinds -/

/-- **A plain value is an expression** when no delimiter was escaped in it and it is a full one. -/
theorem NormalizedValue.kind_eq_expression_iff {g : Grammar} {n : NormalizedValue} :
    n.kind g = .expression ↔ n.escaped = false ∧ g.delimiters.IsFullExpression n.value.toList := by
  rw [← Grammar.isFullChars_iff, kind]
  cases n.escaped with
  | true => simp
  | false => cases hfull : g.isFullChars n.value.toList <;> simp [Grammar.isFull, hfull]

/-- A plain value is an escaped literal when a delimiter was escaped in it. -/
theorem NormalizedValue.kind_eq_escapedLiteral_iff {g : Grammar} {n : NormalizedValue} :
    n.kind g = .escapedLiteral ↔ n.escaped = true := by
  rw [kind]
  cases n.escaped with
  | true => simp
  | false => cases g.isFull n.value <;> simp

namespace Attribute

variable {g : Grammar} {a : Attribute} {source : String}

/-- A value is an expression if what is left of it is a full one. -/
theorem exists_expression_of_fits {r : Reading} {w : List Char}
    (hr : r.Fits g.delimiters a.value.toList source.toList)
    (houtcome : r.outcome g a.value.toList source.toList = .ok ⟨String.ofList w, false⟩)
    (hw : g.delimiters.IsFullExpression w) :
    ∃ n, a.normalize g source = .ok n ∧ n.kind g = .expression := by
  refine ⟨_, (normalize_of_fits g a source hr).trans houtcome, ?_⟩
  rw [NormalizedValue.kind_eq_expression_iff, String.toList_ofList]
  exact ⟨rfl, hw⟩

/-- **A value is an expression** when the source text shows it as one without quotes, and also when
it is a full one that the source text does not show: a literal whose source text shows the
delimiters holds no expression. -/
theorem exists_expression_iff :
    (∃ n, a.normalize g source = .ok n ∧ n.kind g = .expression) ↔
      (Source.Shows g.delimiters source.toList ∧ ¬ Source.Quoted source.toList ∧
        (g.delimiters.IsFullExpression a.value.toList ∨
          ∃ w, a.value.toList = w ++ ['/'] ∧ g.delimiters.IsFullExpression w)) ∨
      ¬ Source.Shows g.delimiters source.toList ∧
        g.delimiters.IsFullExpression a.value.toList := by
  constructor
  · rintro ⟨n, hn, hkind⟩
    obtain ⟨hescaped, hfull⟩ := NormalizedValue.kind_eq_expression_iff.1 hkind
    obtain ⟨r, hr⟩ := g.exists_applies a.value.toList source.toList
    rw [normalize_of_applies g a source hr] at hn
    cases r with
    | binding =>
      obtain ⟨hshows, hquoted, hvalue⟩ := hr.fits nofun
      exact .inl ⟨hshows, hquoted, .inl hvalue⟩
    | selfClosed w =>
      obtain ⟨hshows, hquoted, -, hvalue, hw⟩ := hr.fits nofun
      exact .inl ⟨hshows, hquoted, .inr ⟨w, hvalue, hw⟩⟩
    | plain =>
      cases hn
      rw [String.toList_ofList] at hfull
      exact .inr ⟨(hr.fits nofun).resolve_right (not_not_intro hfull.isPotentialExpression), hfull⟩
    | escaped w =>
      cases hn
      cases hescaped
    | ambiguous | unresolved => cases hn
  · rintro (⟨hshows, hquoted, hfull⟩ | ⟨hshows, hfull⟩)
    · by_cases hvalue : g.delimiters.IsFullExpression a.value.toList
      · exact exists_expression_of_fits (r := .binding) ⟨hshows, hquoted, hvalue⟩ rfl hvalue
      · obtain ⟨w, hw, hwfull⟩ := hfull.resolve_left hvalue
        have hfits : Reading.Fits g.delimiters a.value.toList source.toList (.selfClosed w) :=
          ⟨hshows, hquoted, hvalue, hw, hwfull⟩
        exact exists_expression_of_fits hfits rfl hwfull
    · exact exists_expression_of_fits (r := .plain) (.inl hshows) rfl hfull

end Attribute

end TemplateAttr
