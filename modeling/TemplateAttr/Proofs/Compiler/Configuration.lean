import TemplateAttr.Compiler
import TemplateAttr.Json.Lawful
import TemplateAttr.Proofs.Expression.Limit
import TemplateAttr.Proofs.Expression.Usable

/-!
# Proofs/Compiler/Configuration — one rule at every door

Delimiters come in as a list of markers, as a pair, as part of a configuration, as the text of a
configuration, and as what a grammar or a compiler is made of.  Each of these doors gives one
**verdict** (`Delimiters.verdict`): the delimiters as they came, or the refusal that names them.
Which of the two is known from the symbols (`verdict_eq_ok_iff`).

Where patterns are made of the delimiters these must not be too long for them either, and the
verdict is one within a limit (`Delimiters.verdictIn`).
-/

namespace TemplateAttr

open JsonForm

/-! ## The verdict -/

namespace Delimiters

/-- **The verdict on delimiters**: they are in force as they are, or refused. -/
def verdict (d : Delimiters) : Except ConfigError Delimiters :=
  if d.isUsable then .ok d else .error (.unusable d)

variable {d : Delimiters}

theorem verdict_of_usable (h : d.isUsable = true) : d.verdict = .ok d := if_pos h

theorem verdict_of_not_usable (h : ¬ d.isUsable = true) : d.verdict = .error (.unusable d) :=
  if_neg h

theorem isUsable_iff_usableSymbol : d.isUsable = true ↔
    UsableSymbol d.start ∧ UsableSymbol d.stop ∧ d.start ≠ d.stop := by
  rw [isUsable_iff, usableSymbol_iff, usableSymbol_iff]

/-- **Delimiters are in force when both symbols are usable, and differ.** -/
theorem verdict_eq_ok_iff : d.verdict = .ok d ↔
    UsableSymbol d.start ∧ UsableSymbol d.stop ∧ d.start ≠ d.stop := by
  rw [← isUsable_iff_usableSymbol]
  by_cases h : d.isUsable = true
  · simp only [verdict_of_usable h, h]
  · simp only [verdict_of_not_usable h, h, reduceCtorEq]

/-- …and refused, by name, when they are not. -/
theorem verdict_eq_error_iff : d.verdict = .error (.unusable d) ↔
    ¬ (UsableSymbol d.start ∧ UsableSymbol d.stop ∧ d.start ≠ d.stop) := by
  rw [← isUsable_iff_usableSymbol]
  by_cases h : d.isUsable = true
  · simp only [verdict_of_usable h, h, reduceCtorEq, not_true]
  · simp only [verdict_of_not_usable h, h, Bool.false_eq_true, not_false_iff]

/-- **The verdict on delimiters that patterns are made of**: those in force are refused if their
patterns are beyond the limit. -/
def verdictIn (d : Delimiters) (limit : Option Nat) : Except ConfigError Delimiters := do
  let d ← d.verdict
  if d.fitsIn limit then .ok d else .error .malformed

variable {limit : Option Nat}

/-- Within the limit the verdict is the same. -/
theorem verdictIn_of_fitsIn (h : d.fitsIn limit = true) : d.verdictIn limit = d.verdict := by
  by_cases husable : d.isUsable = true
  · rw [verdictIn, verdict_of_usable husable]
    exact if_pos h
  · rw [verdictIn, verdict_of_not_usable husable]
    rfl

/-- Usable delimiters beyond the limit are refused without a name. -/
theorem verdictIn_of_not_fitsIn (husable : d.isUsable = true) (h : ¬ d.fitsIn limit = true) :
    d.verdictIn limit = .error .malformed := by
  rw [verdictIn, verdict_of_usable husable]
  exact if_neg h

theorem verdictIn_of_not_usable (h : ¬ d.isUsable = true) :
    d.verdictIn limit = .error (.unusable d) := by
  rw [verdictIn, verdict_of_not_usable h]
  rfl

/-- **Within a limit the verdict is the same**, unless usable delimiters are too long for it. -/
theorem verdictIn_eq_verdict_iff :
    d.verdictIn limit = d.verdict ↔ (d.verdict = .ok d → d.fitsIn limit = true) := by
  by_cases husable : d.isUsable = true
  · by_cases hfits : d.fitsIn limit = true
    · simp only [verdictIn_of_fitsIn hfits, hfits, implies_true]
    · simp only [verdictIn_of_not_fitsIn husable hfits, verdict_of_usable husable, hfits,
        reduceCtorEq, forall_const, Bool.false_eq_true]
  · simp only [verdictIn_of_not_usable husable, verdict_of_not_usable husable, reduceCtorEq,
      false_implies]

/-- …and those are refused as malformed. -/
theorem verdictIn_eq_malformed_iff :
    d.verdictIn limit = .error .malformed ↔ d.verdict = .ok d ∧ ¬ d.fitsIn limit = true := by
  by_cases husable : d.isUsable = true
  · by_cases hfits : d.fitsIn limit = true
    · simp only [verdictIn_of_fitsIn hfits, verdict_of_usable husable, hfits, reduceCtorEq,
        not_true, and_false]
    · simp only [verdictIn_of_not_fitsIn husable hfits, verdict_of_usable husable, hfits,
        Bool.false_eq_true, not_false_iff, and_self]
  · simp only [verdictIn_of_not_usable husable, verdict_of_not_usable husable, false_and,
      Except.error.injEq, reduceCtorEq]

/-! ## The doors -/

/-- A pair is judged by the verdict. -/
theorem validate_eq_verdict (d : Delimiters) : d.validate = d.verdict.map fun _ => () := by
  rw [validate, verdict]
  split <;> rfl

/-- Two markers are judged as a pair. -/
theorem ofMarkers_pair (start stop : String) :
    ofMarkers (some [start, stop]) = verdict ⟨start, stop⟩ := by
  simp only [ofMarkers, validate, verdict]
  split <;> rfl

/-- Another number of markers is refused. -/
theorem ofMarkers_of_length_ne_two {markers : List String} (h : markers.length ≠ 2) :
    ofMarkers (some markers) = .error .notAPair := by
  match markers with
  | [] | [_] | _ :: _ :: _ :: _ => rfl
  | [_, _] => exact absurd rfl h

/-- **The delimiters that a list of markers gives, read place by place**: none if a place is read
that the list does not have. -/
def ofPlaces? (markers : List String) : Option (Except ConfigError Delimiters) :=
  if markers.length ≠ 2 then some (.error .notAPair)
  else do
    let d : Delimiters := ⟨← markers[0]?, ← markers[1]?⟩
    match d.validate with
    | .error e => some (.error e)
    | .ok () => do some (.ok ⟨← markers[0]?, ← markers[1]?⟩)

/-- **No place is read that the list does not have.** -/
theorem ofPlaces?_eq (markers : List String) :
    ofPlaces? markers = some (ofMarkers (some markers)) := by
  match markers with
  | [] | [_] | _ :: _ :: _ :: _ => rfl
  | [start, stop] =>
    have hplaces : ofPlaces? [start, stop] =
        match validate ⟨start, stop⟩ with
        | .error e => some (.error e)
        | .ok () => some (.ok ⟨start, stop⟩) := rfl
    rw [hplaces, ofMarkers_pair, validate_eq_verdict]
    by_cases h : isUsable ⟨start, stop⟩ = true
    · rw [verdict_of_usable h]
      rfl
    · rw [verdict_of_not_usable h]
      rfl

end Delimiters

/-- A grammar is made of delimiters when they are in force and within the limit. -/
theorem Grammar.ofDelimiters_eq_verdictIn (d : Delimiters) (limit : Option Nat) :
    (ofDelimiters d limit).map (·.delimiters) = d.verdictIn limit := by
  by_cases husable : d.isUsable = true
  · by_cases hfits : d.fitsIn limit = true
    · obtain ⟨g, hg, hd⟩ := exists_ofDelimiters husable hfits
      rw [hg, Delimiters.verdictIn_of_fitsIn hfits, Delimiters.verdict_of_usable husable,
        Except.map, hd]
    · rw [ofDelimiters_of_not_fitsIn husable hfits,
        Delimiters.verdictIn_of_not_fitsIn husable hfits]
      rfl
  · rw [ofDelimiters_of_not_usable husable, Delimiters.verdictIn_of_not_usable husable]
    rfl

theorem Config.validate_eq_verdict (c : Config) :
    c.validate = c.expression.verdict.map fun _ => () :=
  c.expression.validate_eq_verdict

/-- The text of a configuration gives the configuration, with its delimiters judged. -/
theorem Config.ofText_writeText (c : Config) :
    Config.ofText (writeText c) = c.expression.verdict.map Config.mk := by
  simp only [Config.ofText, readText?_writeText, Config.validate_eq_verdict]
  by_cases h : c.expression.isUsable = true
  · rw [Delimiters.verdict_of_usable h]
    rfl
  · rw [Delimiters.verdict_of_not_usable h]
    rfl

/-- …and a compiler with these delimiters, which are judged once more. -/
theorem Compiler.ofConfig_writeText (c : Config) :
    (Compiler.ofConfig (some (writeText c))).map (·.grammar.delimiters) =
      (c.expression.verdictIn (some Pattern.sizeLimit)).mapError .config := by
  simp only [Compiler.ofConfig, Config.ofText_writeText]
  by_cases h : c.expression.isUsable = true
  · rw [Delimiters.verdict_of_usable h, ← Grammar.ofDelimiters_eq_verdictIn]
    change Except.map (·.grammar.delimiters) ((Grammar.ofDelimiters c.expression).mapError
      CompilerError.config >>= fun g => pure (Compiler.mk g)) = _
    cases Grammar.ofDelimiters c.expression <;> rfl
  · rw [Delimiters.verdict_of_not_usable h, Delimiters.verdictIn_of_not_usable h]
    rfl

/-- Without a text, a compiler has the grammar of braces. -/
theorem Compiler.ofConfig_none : Compiler.ofConfig none = .ok ⟨Grammar.braces⟩ := by
  have hbraces : Grammar.ofDelimiters ({} : Config).expression = .ok Grammar.braces :=
    Grammar.ofDelimiters_eq_ok_iff.2 ⟨rfl, Delimiters.fitsIn_of_bytes_le (by decide)⟩
  change ((Grammar.ofDelimiters ({} : Config).expression).mapError CompilerError.config >>=
    fun g => pure (Compiler.mk g)) = _
  rw [hbraces]
  rfl

/-! ## Long delimiters -/

/-- The letter so many times. -/
def letters (n : Nat) : String := String.ofList (List.replicate n 'a')

/-- The letter takes one byte each time. -/
theorem utf8ByteSize_letters (n : Nat) : (letters n).utf8ByteSize = n := by
  induction n with
  | zero => rfl
  | succ n ih =>
    rw [letters, List.replicate_succ, String.ofList_cons, String.utf8ByteSize_append, ← letters, ih,
      String.utf8ByteSize_singleton]
    exact Nat.add_comm 1 n

/-- A text of letters is usable, however long it is. -/
theorem isUsable_letters {n : Nat} (hn : n ≠ 0) :
    Delimiters.isUsable ⟨letters n, "b"⟩ = true := by
  have hmem (c : Char) (hc : c ∈ (letters n).toList) : c = 'a' := by
    rw [letters, String.toList_ofList] at hc
    exact List.eq_of_mem_replicate hc
  have hletters : UsableSymbol (letters n) := by
    refine ⟨fun hempty => hn ?_, fun c hc => ?_, fun c hc => ?_, fun before c after htext => ?_⟩
    · rw [← utf8ByteSize_letters n, hempty]
      rfl
    · rw [hmem c hc]
      decide
    · rw [hmem c hc]
      decide
    · exact absurd (hmem '&' (by simp [htext])) (by decide)
  have hb : UsableSymbol "b" := usableSymbol_iff.2 (by decide)
  have hne : letters n ≠ "b" := fun heq => absurd (hmem 'b' (by simp [heq])) (by decide)
  exact Delimiters.isUsable_iff_usableSymbol.2 ⟨hletters, hb, hne⟩

/-! ## All doors together -/

/-- **Every door to a configuration gives the verdict on the delimiters.**  They are in force as
they came when each symbol is usable — it avoids the three patterns, and holds no reserved mark —
and the two differ; else they are refused by name.  Grammars and compilers, which are made of
patterns, refuse usable delimiters as well where the patterns are beyond the limit: shorter ones
than 327,000 bytes never are, longer ones than 327,680 bytes always.  A list of markers that is no
pair is refused as such, and no marker is looked for in it that it does not have. -/
theorem doors_agree (start stop : String) :
    let d : Delimiters := ⟨start, stop⟩
    let c : Config := ⟨d⟩
    Delimiters.ofMarkers (some [start, stop]) = d.verdict ∧
      d.validate = d.verdict.map (fun _ => ()) ∧
      c.validate = d.verdict.map (fun _ => ()) ∧
      (Config.ofText (writeText c)).map (·.expression) = d.verdict ∧
      (∀ limit, (Grammar.ofDelimiters d limit).map (·.delimiters) = d.verdictIn limit) ∧
      (Compiler.ofConfig (some (writeText c))).map (·.grammar.delimiters) =
        (d.verdictIn (some Pattern.sizeLimit)).mapError .config ∧
      (d.verdict = .ok d ↔ UsableSymbol start ∧ UsableSymbol stop ∧ start ≠ stop) ∧
      (d.verdict = .error (.unusable d) ↔
        ¬ (UsableSymbol start ∧ UsableSymbol stop ∧ start ≠ stop)) ∧
      (∀ limit, d.verdictIn limit = d.verdict ↔ (d.verdict = .ok d → d.fitsIn limit = true)) ∧
      (∀ limit, d.verdictIn limit = .error .malformed ↔
        d.verdict = .ok d ∧ ¬ d.fitsIn limit = true) ∧
      d.fitsIn none = true ∧
      (d.bytes ≤ 327000 → d.fitsIn (some Pattern.sizeLimit) = true) ∧
      (327680 < d.bytes → ¬ d.fitsIn (some Pattern.sizeLimit) = true) ∧
      (∀ symbol, UsableSymbol symbol ↔ (∀ text ∈ unusableNotations, Avoids symbol text) ∧
        ∀ m ∈ Mark.reserved, m.char ∉ symbol.toList) ∧
      (CompilerError.config (.unusable d)).message =
        "['" ++ start ++ "', '" ++ stop ++ "'] contains unusable expression symbol." ∧
      ∀ markers : List String,
        Delimiters.ofPlaces? markers = some (Delimiters.ofMarkers (some markers)) ∧
          (markers.length ≠ 2 → Delimiters.ofMarkers (some markers) = .error .notAPair) := by
  intro d c
  have htext : (Config.ofText (writeText c)).map (·.expression) = d.verdict := by
    rw [Config.ofText_writeText]
    cases d.verdict <;> rfl
  exact ⟨Delimiters.ofMarkers_pair start stop, d.validate_eq_verdict, c.validate_eq_verdict, htext,
    Grammar.ofDelimiters_eq_verdictIn d, Compiler.ofConfig_writeText c,
    Delimiters.verdict_eq_ok_iff, Delimiters.verdict_eq_error_iff,
    fun _ => Delimiters.verdictIn_eq_verdict_iff, fun _ => Delimiters.verdictIn_eq_malformed_iff,
    d.fitsIn_none, Delimiters.fitsIn_of_bytes_le, Delimiters.not_fitsIn_of_lt_bytes,
    fun _ => usableSymbol_iff_avoids, rfl,
    fun markers => ⟨Delimiters.ofPlaces?_eq markers, Delimiters.ofMarkers_of_length_ne_two⟩⟩

/-- Doubled brackets make a compiler, and the start of a reference does not; one marker is no
pair. -/
theorem doors_agree_reference :
    (Compiler.ofConfig (some (writeText (⟨⟨"[[", "]]"⟩⟩ : Config)))).map (·.grammar.delimiters) =
        .ok ⟨"[[", "]]"⟩ ∧
      (Compiler.ofConfig (some (writeText (⟨⟨"[[", "&#"⟩⟩ : Config)))).map
        (·.grammar.delimiters) = .error (.config (.unusable ⟨"[[", "&#"⟩)) ∧
      ["[["].length ≠ 2 ∧ Delimiters.ofMarkers (some ["[["]) = .error .notAPair := by
  have hlength : ["[["].length ≠ 2 := by decide
  have hbrackets : Delimiters.verdict ⟨"[[", "]]"⟩ = .ok ⟨"[[", "]]"⟩ :=
    Delimiters.verdict_of_usable (by decide)
  have hreference : Delimiters.verdict ⟨"[[", "&#"⟩ = .error (.unusable ⟨"[[", "&#"⟩) :=
    Delimiters.verdict_of_not_usable (by decide)
  obtain ⟨-, -, -, -, -, hok, -, -, hagree, -, -, hshort, -⟩ := doors_agree "[[" "]]"
  obtain ⟨-, -, -, -, -, herror, -, -, hagree', -, -, -, -, -, -, hmarkers⟩ :=
    doors_agree "[[" "&#"
  have hrefused : Delimiters.verdict ⟨"[[", "&#"⟩ ≠ .ok ⟨"[[", "&#"⟩ := fun hok =>
    nomatch hreference.symm.trans hok
  rw [(hagree _).2 fun _ => hshort (by decide), hbrackets] at hok
  rw [(hagree' _).2 fun hok => absurd hok hrefused, hreference] at herror
  exact ⟨hok, herror, hlength, (hmarkers ["[["]).2 hlength⟩

/-- Delimiters may be usable and too long for patterns: where none are made of them they are in
force, and no grammar and no compiler is made of them. -/
theorem doors_part_long :
    let d : Delimiters := ⟨letters 350000, "b"⟩
    Delimiters.ofMarkers (some [d.start, d.stop]) = .ok d ∧ d.validate = .ok () ∧
      Config.validate ⟨d⟩ = .ok () ∧ Config.ofText (writeText (⟨d⟩ : Config)) = .ok ⟨d⟩ ∧
      Grammar.ofDelimiters d = .error .malformed ∧
      (Compiler.ofConfig (some (writeText (⟨d⟩ : Config)))).map (·.grammar.delimiters) =
        .error (.config .malformed) := by
  intro d
  have husable : d.isUsable = true := isUsable_letters (by decide)
  have hbytes : d.bytes = 350000 + 1 := congrArg (· + 1) (utf8ByteSize_letters 350000)
  have hlong : ¬ d.fitsIn (some Pattern.sizeLimit) = true :=
    Delimiters.not_fitsIn_of_lt_bytes (by rw [hbytes]; decide)
  refine ⟨?_, ?_, ?_, ?_, Grammar.ofDelimiters_of_not_fitsIn husable hlong, ?_⟩
  · rw [Delimiters.ofMarkers_pair]
    exact Delimiters.verdict_of_usable husable
  · rw [Delimiters.validate_eq_verdict, Delimiters.verdict_of_usable husable]
    rfl
  · rw [Config.validate_eq_verdict, Delimiters.verdict_of_usable husable]
    rfl
  · rw [Config.ofText_writeText, Delimiters.verdict_of_usable husable]
    rfl
  · rw [Compiler.ofConfig_writeText, Delimiters.verdictIn_of_not_fitsIn husable hlong]
    rfl

end TemplateAttr
