import TemplateAttr.Json.Reader

/-!
# Json/RoundTrip — what is written is read back

`read?_write`: every value is read back from its text.  Each of the three layers gives its part:

* a text is spelled by escapes that spell it back (`foldlM_quote`),
* tokens written one after another are told apart, as a word or number is never followed by another
  (`foldlM_writeChars`),
* the tokens of a value put the value in its place (`foldlM_tokens`).
-/

namespace TemplateAttr

/-! ## Texts -/

namespace JsonText

/-- No character is the first half of a pair of code units. -/
theorem isHighHalf_toNat (c : Char) : isHighHalf c.toNat = false := by
  have := c.valid
  simp only [isHighHalf, Bool.and_eq_false_iff, decide_eq_false_iff_not, Char.toNat]
  simp only [UInt32.isValidChar, Nat.isValidChar] at this
  omega

/-- No character is the second half of one. -/
theorem isLowHalf_toNat (c : Char) : isLowHalf c.toNat = false := by
  have := c.valid
  simp only [isLowHalf, Bool.and_eq_false_iff, decide_eq_false_iff_not, Char.toNat]
  simp only [UInt32.isValidChar, Nat.isValidChar] at this
  omega

/-- Characters spelled as their own code units are spelled back. -/
theorem decodeUnits_map_toNat (text : List Char) :
    decodeUnits (text.map Char.toNat) = some text := by
  induction text with
  | nil => rfl
  | cons c rest ih =>
    rw [List.map_cons, decodeUnits.eq_def]
    simp [isHighHalf_toNat, isLowHalf_toNat, ih, Char.ofNat_toNat]

end JsonText

namespace LexState

open JsonText

/-- A hexadecimal digit is taken up, and the last one missing completes the code unit. -/
theorem step_hex (ts : List JsonToken) (units : List Nat) (missing value : Nat) {c : Char} {n : Nat}
    (h : hexValue? c = some n) :
    step ⟨ts, .hex units missing value⟩ c =
      some (if missing ≤ 1 then ⟨ts, .text ((value * 16 + n) :: units)⟩
        else ⟨ts, .hex units (missing - 1) (value * 16 + n)⟩) := by
  simp only [step, h, Option.bind_eq_bind, Option.bind_some]
  split <;> rfl

/-- A character in quotes is read as its code unit, also where it is escaped by its two digits. -/
theorem foldlM_escapeChar (ts : List JsonToken) (units : List Nat) (c : Char) :
    (escapeChar c).foldlM step ⟨ts, .text units⟩ = some ⟨ts, .text (c.toNat :: units)⟩ := by
  unfold escapeChar
  split
  iterate 7 rfl
  next h1 h2 h3 h4 h5 h6 h7 =>
    split
    · next hc =>
      have hhigh := hexValue?_hexDigit (c.toNat / 16) (by omega)
      have hlow := hexValue?_hexDigit (c.toNat % 16) (by omega)
      have hzero : hexValue? '0' = some 0 := rfl
      have hstart : ['\\', 'u'].foldlM step ⟨ts, .text units⟩ =
          some ⟨ts, .hex units 4 0⟩ := rfl
      have hcode : c.toNat / 16 * 16 + c.toNat % 16 = c.toNat := by omega
      rw [show ['\\', 'u', '0', '0', hexDigit (c.toNat / 16), hexDigit (c.toNat % 16)] =
        ['\\', 'u'] ++ ['0', '0', hexDigit (c.toNat / 16), hexDigit (c.toNat % 16)] from rfl,
        List.foldlM_append, hstart]
      simp [step_hex _ _ _ _ hzero, step_hex _ _ _ _ hhigh, step_hex _ _ _ _ hlow, hcode]
    · next hc =>
      have h1 : c ≠ '"' := h1
      have h2 : c ≠ '\\' := h2
      simp [step, inText, hc, h1, h2]

/-- A text in quotes is read as its code units, the last one first. -/
theorem foldlM_escapeChars (ts : List JsonToken) (units : List Nat) (text : List Char) :
    (text.flatMap escapeChar).foldlM step ⟨ts, .text units⟩ =
      some ⟨ts, .text ((text.map Char.toNat).reverse ++ units)⟩ := by
  induction text generalizing units with
  | nil => rfl
  | cons c rest ih =>
    rw [List.flatMap_cons, List.foldlM_append, foldlM_escapeChar]
    simp [ih]

/-- **A text in quotes is read as its string.** -/
theorem foldlM_quote (ts : List JsonToken) (text : List Char) :
    (quote text).foldlM step ⟨ts, .ready⟩ =
      some ⟨.string (some (String.ofList text)) :: ts, .ready⟩ := by
  have hopen : step ⟨ts, .ready⟩ '"' = some ⟨ts, .text []⟩ := rfl
  rw [quote, List.cons_append, List.foldlM_cons, hopen]
  simp [List.foldlM_append, foldlM_escapeChars, step, inText, push, decodeUnits_map_toNat]

/-! ## Tokens -/

/-- **A state that settles to tokens**: they are complete, or become so when a word or number under
way ends. -/
def SettlesTo (s : LexState) (ts : List JsonToken) : Prop := s.settle = some ⟨ts, .ready⟩

theorem settlesTo_ready (ts : List JsonToken) : SettlesTo ⟨ts, .ready⟩ ts := rfl

/-- Where nothing is under way, a token is read from its spelling. -/
theorem foldlM_spell (ts : List JsonToken) (t : JsonToken) :
    ∃ s, t.spell.foldlM step ⟨ts, .ready⟩ = some s ∧ SettlesTo s (t :: ts) := by
  cases t with
  | string text =>
    cases text with
    | none => exact ⟨_, rfl, rfl⟩
    | some text => exact ⟨_, foldlM_quote ts text.toList, by rw [String.ofList_toList]; rfl⟩
  | bool b => cases b <;> exact ⟨_, rfl, rfl⟩
  | _ => exact ⟨_, rfl, rfl⟩

/-- A token that is one mark: it is read as itself, and continues no word and no number. -/
structure IsMark (t : JsonToken) (c : Char) : Prop where
  spell : t.spell = [c]
  begin : ∀ ts, LexState.begin ⟨ts, .ready⟩ c = some ⟨t :: ts, .ready⟩
  not_lower : c.isLower = false
  next? : ∀ stage : NumberStage, stage.next? c = none

theorem isMark_openArray : IsMark .openArray '[' :=
  ⟨rfl, fun _ => rfl, rfl, fun stage => by cases stage <;> rfl⟩

theorem isMark_closeArray : IsMark .closeArray ']' :=
  ⟨rfl, fun _ => rfl, rfl, fun stage => by cases stage <;> rfl⟩

theorem isMark_openObject : IsMark .openObject '{' :=
  ⟨rfl, fun _ => rfl, rfl, fun stage => by cases stage <;> rfl⟩

theorem isMark_closeObject : IsMark .closeObject '}' :=
  ⟨rfl, fun _ => rfl, rfl, fun stage => by cases stage <;> rfl⟩

theorem isMark_comma : IsMark .comma ',' :=
  ⟨rfl, fun _ => rfl, rfl, fun stage => by cases stage <;> rfl⟩

theorem isMark_colon : IsMark .colon ':' :=
  ⟨rfl, fun _ => rfl, rfl, fun stage => by cases stage <;> rfl⟩

/-- **A mark is read in any state that settles.** -/
theorem IsMark.foldlM_spell {t : JsonToken} {c : Char} (hc : IsMark t c) {s : LexState}
    {ts : List JsonToken} (h : SettlesTo s ts) :
    t.spell.foldlM step s = some ⟨t :: ts, .ready⟩ := by
  have hstep : step s c = (s.settle >>= fun s => s.begin c) := by
    obtain ⟨tokens, mode⟩ := s
    cases mode with
    | ready => simp [step, settle]
    | word letters => simp [step, hc.not_lower]
    | number stage => simp [step, hc.next?]
    | text units => simp [SettlesTo, settle] at h
    | escape units => simp [SettlesTo, settle] at h
    | hex units missing value => simp [SettlesTo, settle] at h
  rw [hc.spell, List.foldlM_cons, hstep, h]
  simp [hc.begin]

/-- Tokens whose characters are read as them where nothing is under way. -/
def ReadFresh (ts : List JsonToken) : Prop :=
  ∀ before, ∃ s, (ts.flatMap JsonToken.spell).foldlM step ⟨before, .ready⟩ = some s ∧
    SettlesTo s (ts.reverse ++ before)

/-- Tokens whose characters are read as them even after a word or a number. -/
def ReadAfter (ts : List JsonToken) : Prop :=
  ∀ s before, SettlesTo s before → ∃ s', (ts.flatMap JsonToken.spell).foldlM step s = some s' ∧
    SettlesTo s' (ts.reverse ++ before)

/-- What is read after a word is read where nothing is under way. -/
theorem ReadAfter.fresh {ts : List JsonToken} (h : ReadAfter ts) : ReadFresh ts :=
  fun before => h _ _ (settlesTo_ready before)

theorem readAfter_nil : ReadAfter [] := fun s _ hs => ⟨s, rfl, hs⟩

/-- One token is read where nothing is under way. -/
theorem readFresh_singleton (t : JsonToken) : ReadFresh [t] := fun before => by
  simpa using foldlM_spell before t

/-- Tokens that are read after a word may follow any others. -/
theorem ReadFresh.append {ts us : List JsonToken} (ht : ReadFresh ts) (hu : ReadAfter us) :
    ReadFresh (ts ++ us) := fun before => by
  obtain ⟨s, hs, hts⟩ := ht before
  obtain ⟨s', hs', hus⟩ := hu s _ hts
  exact ⟨s', by simp [List.foldlM_append, hs, hs'], by simpa using hus⟩

/-- A mark ends a word or a number before it, so what follows is read afresh. -/
theorem IsMark.readAfter {t : JsonToken} {c : Char} (hc : IsMark t c) {ts : List JsonToken}
    (ht : ReadFresh ts) : ReadAfter (t :: ts) := fun s before hs => by
  obtain ⟨s', hs', hts⟩ := ht (t :: before)
  exact ⟨s', by simp [List.foldlM_append, hc.foldlM_spell hs, hs'], by simpa using hts⟩

theorem ReadAfter.append {ts us : List JsonToken} (ht : ReadAfter ts) (hu : ReadAfter us) :
    ReadAfter (ts ++ us) := fun s before hs => by
  obtain ⟨s₁, hs₁, hts⟩ := ht s before hs
  obtain ⟨s₂, hs₂, hus⟩ := hu s₁ _ hts
  exact ⟨s₂, by simp [List.foldlM_append, hs₁, hs₂], by simpa using hus⟩

open Json

mutual

/-- **The tokens of a value are read as they are**: its items and members are parted by marks. -/
theorem readFresh_tokens : ∀ j : Json, ReadFresh j.tokens
  | .null | .bool _ | .number | .string _ => readFresh_singleton _
  | .array items => by
    refine (isMark_openArray.readAfter ?_).fresh
    exact readFresh_itemTokens items (isMark_closeArray.readAfter readAfter_nil.fresh)
  | .object members => by
    refine (isMark_openObject.readAfter ?_).fresh
    exact readFresh_memberTokens members (isMark_closeObject.readAfter readAfter_nil.fresh)

/-- …and so are the items of an array before its closing mark. -/
theorem readFresh_itemTokens {ts : List JsonToken} :
    ∀ items : List Json, ReadAfter ts → ReadFresh (itemTokens items ++ ts)
  | [], h => h.fresh
  | item :: rest, h => by
    rw [itemTokens, List.append_assoc]
    exact (readFresh_tokens item).append ((readAfter_restTokens rest).append h)

/-- …the items after the first one, each behind a comma. -/
theorem readAfter_restTokens : ∀ items : List Json, ReadAfter (restTokens items)
  | [] => readAfter_nil
  | item :: rest =>
    isMark_comma.readAfter ((readFresh_tokens item).append (readAfter_restTokens rest))

/-- …the members of an object before its closing mark. -/
theorem readFresh_memberTokens {ts : List JsonToken} :
    ∀ members : List (Option String × Json), ReadAfter ts → ReadFresh (memberTokens members ++ ts)
  | [], h => h.fresh
  | (name, value) :: rest, h => by
    have hvalue : ReadFresh (value.tokens ++ (restMemberTokens rest ++ ts)) :=
      (readFresh_tokens value).append ((readAfter_restMemberTokens rest).append h)
    simpa [memberTokens] using
      (readFresh_singleton (.string name)).append (isMark_colon.readAfter hvalue)

/-- …and the members after the first, each behind a comma. -/
theorem readAfter_restMemberTokens :
    ∀ members : List (Option String × Json), ReadAfter (restMemberTokens members)
  | [] => readAfter_nil
  | (name, value) :: rest => by
    have hvalue : ReadFresh (value.tokens ++ restMemberTokens rest) :=
      (readFresh_tokens value).append (readAfter_restMemberTokens rest)
    simpa [restMemberTokens] using isMark_comma.readAfter
      ((readFresh_singleton (.string name)).append (isMark_colon.readAfter hvalue))

end

end LexState

namespace Json

/-- **The characters of a value are read as its tokens.** -/
theorem ofChars?_writeChars (j : Json) : JsonToken.ofChars? j.writeChars = some j.tokens := by
  obtain ⟨s, hs, hts⟩ := LexState.readFresh_tokens j []
  rw [List.append_nil] at hts
  have hts : s.settle = some ⟨j.tokens.reverse, .ready⟩ := hts
  simp [JsonToken.ofChars?, writeChars, LexState.start, hs, LexState.finish, hts]

/-! ## Values -/

namespace ReadState

/-- Whether a value may come: where one must, or where the first item of an array may. -/
def TakesValue : Expect → Prop
  | .value | .firstItem => True
  | _ => False

theorem takesValue_value : TakesValue .value := trivial

theorem takesValue_firstItem : TakesValue .firstItem := trivial

/-- Where a value may come a token begins one, unless it closes the array. -/
theorem step_begin {frames : List Frame} {e : Expect} (he : TakesValue e) {t : JsonToken}
    (ht : t ≠ .closeArray) : step ⟨frames, e⟩ t = beginValue frames t := by
  cases e <;> first | exact he.elim | simp [step, ht]

mutual

/-- **The tokens of a value put it in its place.** -/
theorem foldlM_tokens (frames : List Frame) {e : Expect} (he : TakesValue e) :
    ∀ j : Json, j.tokens.foldlM step ⟨frames, e⟩ = put frames j
  | .null | .bool _ | .number | .string _ => by simp [tokens, step_begin he, beginValue]
  | .array items => by
    rw [tokens, List.cons_append, List.foldlM_cons, step_begin he (by simp)]
    exact foldlM_itemTokens frames items
  | .object members => by
    rw [tokens, List.cons_append, List.foldlM_cons, step_begin he (by simp)]
    exact foldlM_memberTokens frames members

/-- The items of an array and its closing mark put the array in its place. -/
theorem foldlM_itemTokens (frames : List Frame) : ∀ items : List Json,
    (itemTokens items ++ [JsonToken.closeArray]).foldlM step ⟨.array [] :: frames, .firstItem⟩ =
      put frames (.array items)
  | [] => by simp [itemTokens, step, close]
  | item :: rest => by
    rw [itemTokens, List.append_assoc, List.foldlM_append,
      foldlM_tokens _ takesValue_firstItem item]
    simpa [put] using foldlM_restTokens frames [item] rest

/-- …also those after the first, behind the items read before them. -/
theorem foldlM_restTokens (frames : List Frame) (read : List Json) : ∀ items : List Json,
    (restTokens items ++ [JsonToken.closeArray]).foldlM step ⟨.array read :: frames, .more⟩ =
      put frames (.array (read.reverse ++ items))
  | [] => by simp [restTokens, step, close]
  | item :: rest => by
    have hcomma : step ⟨.array read :: frames, .more⟩ .comma =
        some ⟨.array read :: frames, .value⟩ := rfl
    have hitem : item.tokens.foldlM step ⟨.array read :: frames, .value⟩ =
        some ⟨.array (item :: read) :: frames, .more⟩ := foldlM_tokens _ takesValue_value item
    have hrest := foldlM_restTokens frames (item :: read) rest
    simp only [restTokens, List.cons_append, List.append_assoc, List.foldlM_cons,
      List.foldlM_append, hcomma, hitem, Option.bind_eq_bind, Option.bind_some]
    simpa [List.foldlM_append] using hrest

/-- The members of an object and its closing mark put the object in its place. -/
theorem foldlM_memberTokens (frames : List Frame) : ∀ members : List (Option String × Json),
    (memberTokens members ++ [JsonToken.closeObject]).foldlM step
      ⟨.object [] :: frames, .firstName⟩ = put frames (.object members)
  | [] => by simp [memberTokens, step, close]
  | (name, value) :: rest => by
    have hname : step ⟨.object [] :: frames, .firstName⟩ (.string name) =
        some ⟨.member [] name :: frames, .colon⟩ := rfl
    have hcolon : step ⟨.member [] name :: frames, .colon⟩ .colon =
        some ⟨.member [] name :: frames, .value⟩ := rfl
    have hvalue : value.tokens.foldlM step ⟨.member [] name :: frames, .value⟩ =
        some ⟨.object [(name, value)] :: frames, .more⟩ := foldlM_tokens _ takesValue_value value
    have hrest := foldlM_restMemberTokens frames [(name, value)] rest
    simp only [memberTokens, List.cons_append, List.append_assoc, List.foldlM_cons,
      List.foldlM_append, hname, hcolon, hvalue, Option.bind_eq_bind, Option.bind_some]
    simpa [List.foldlM_append] using hrest

/-- …also those after the first, behind the members read before them. -/
theorem foldlM_restMemberTokens (frames : List Frame) (read : List (Option String × Json)) :
    ∀ members : List (Option String × Json),
    (restMemberTokens members ++ [JsonToken.closeObject]).foldlM step
      ⟨.object read :: frames, .more⟩ = put frames (.object (read.reverse ++ members))
  | [] => by simp [restMemberTokens, step, close]
  | (name, value) :: rest => by
    have hcomma : step ⟨.object read :: frames, .more⟩ .comma =
        some ⟨.object read :: frames, .name⟩ := rfl
    have hname : step ⟨.object read :: frames, .name⟩ (.string name) =
        some ⟨.member read name :: frames, .colon⟩ := rfl
    have hcolon : step ⟨.member read name :: frames, .colon⟩ .colon =
        some ⟨.member read name :: frames, .value⟩ := rfl
    have hvalue : value.tokens.foldlM step ⟨.member read name :: frames, .value⟩ =
        some ⟨.object ((name, value) :: read) :: frames, .more⟩ :=
      foldlM_tokens _ takesValue_value value
    have hrest := foldlM_restMemberTokens frames ((name, value) :: read) rest
    simp only [restMemberTokens, List.cons_append, List.append_assoc, List.foldlM_cons,
      List.foldlM_append, hcomma, hname, hcolon, hvalue, Option.bind_eq_bind,
      Option.bind_some]
    simpa [List.foldlM_append] using hrest

end

end ReadState

/-- The tokens of a value are read as it. -/
theorem ofTokens?_tokens (j : Json) : ofTokens? j.tokens = some j := by
  rw [ofTokens?, ReadState.start, ReadState.foldlM_tokens [] ReadState.takesValue_value]
  rfl

/-- **What is written is read back.** -/
theorem read?_write (j : Json) : read? j.write = some j := by
  rw [read?, write, String.toList_ofList, readChars?, ofChars?_writeChars]
  exact ofTokens?_tokens j

end Json

end TemplateAttr
