import Eisen.Proofs.RuleSet.Conformance
import Eisen.Proofs.Script.Writing

namespace Eisen

/-!
# Shapes of scripts and of descriptions

Three definitions say what a shape is: the pattern of the schema, the characters
that scanning takes into a word, and the split of a word in front of its first
two colons. They agree: the texts that match the pattern are the words that are
their own canonical form. Runs of colons do no harm, since the first two of them
end the base name and all others are characters of the suffix.
-/

namespace Script

/-- A text that is scanned as one word and nothing else. -/
def IsLoneWord (text : String) : Prop :=
  ∃ place, tokens text = .ok [⟨.word text, place⟩]

/-- A text that is one of the words of some source. -/
def OccursAsWord (text : String) : Prop :=
  ∃ source written,
    tokens source = .ok written ∧ Lexeme.word text ∈ written.map Token.lexeme

theorem IsLoneWord.occursAsWord
    {text : String}
    (lone : IsLoneWord text) :
    OccursAsWord text := by
  obtain ⟨place, scanned⟩ := lone
  exact ⟨text, _, scanned, List.mem_singleton.mpr rfl⟩

/-- A word of a source has word characters behind its first character. -/
theorem OccursAsWord.isScanned
    {text : String}
    (occurs : OccursAsWord text) :
    (Lexeme.word text).IsScanned := by
  obtain ⟨source, written, scanned, member⟩ := occurs
  obtain ⟨token, inWritten, isWord⟩ := List.mem_map.mp member
  have spelled := tokensFrom_isScanned scanned token inWritten
  rwa [isWord] at spelled

theorem isLoneWord_of_isPlain
    {text : String}
    (plain : (Lexeme.word text).IsPlain) :
    IsLoneWord text := by
  have scannable : IsScannable [.word text] :=
    isScannable_of_forall (List.forall_mem_singleton.mpr plain)
  have row : (rowText [.word text]).toList = text.toList := by
    simp [rowText, Lexeme.text]
  obtain ⟨written, scanned, writes⟩ := scansAs_rowText scannable Cursor.start
  rw [row] at scanned
  obtain ⟨token, rfl, isWord⟩ := List.map_eq_singleton_iff.mp writes.lexemes
  obtain ⟨lexeme, place⟩ := token
  exact ⟨place, by rw [tokens, scanned, ← isWord]⟩

/-- The shapes are the words of sources that are their own canonical form. -/
theorem isShape_iff_isLoneWord (text : String) :
    IsShape text ↔ IsLoneWord text ∧ canonicalShape? text = some text := by
  constructor
  · intro isShape
    exact ⟨isLoneWord_of_isPlain (isPlain_shape isShape),
      canonicalShape?_of_isShape isShape⟩
  · rintro ⟨lone, canonical⟩
    exact isShape_of_canonicalShape? lone.occursAsWord.isScanned canonical

end Script

namespace Description

open Script

/-- A description that places a shape and does nothing else. -/
def placing (shape : String) : Description where
  title := none
  source := none
  ruleSet :=
    { maxDepth := RuleSet.defaultMaxDepth
      rules :=
        [⟨RuleSet.entryName, none, none, none, [⟨.shape shape, "", none⟩]⟩] }

/--
Of a description that places a shape, the schema refuses nothing but the shape.
-/
theorem messages_placing_eq_nil_iff (shape : String) :
    LabelledSchema.embedded.messages (placing shape).toJson.sorted = [] ↔
      shapePattern.pattern.search shape = .ok true := by
  have ink : ∀ numeral ∈ (placing shape).ruleSet.numerals, numeral.HasInk := by
    intro numeral member
    have isDepth : numeral = RuleSet.defaultMaxDepth :=
      List.mem_singleton.mp member
    rw [isDepth]
    exact ⟨'1', by decide, by decide⟩
  have isName : IsName RuleSet.entryName := isName_of_isRuleName (by decide)
  rw [messages_embedded_eq_nil_iff ink]
  constructor
  · rintro ⟨-, conforms⟩
    exact (conforms _ List.mem_cons_self).calls _ List.mem_cons_self
  · intro found
    refine ⟨List.cons_ne_nil _ _, List.forall_mem_singleton.mpr ?_⟩
    exact ⟨isName, nofun, List.forall_mem_singleton.mpr found⟩

/--
The shapes of the schema are the shapes of scripts. A text matches the
pattern of the schema exactly if it is a single word of its own canonical
form, and a description that places it is accepted exactly then. The
canonical form of a word of any source is such a text, and so is every shape
of a script that is read.
-/
theorem schema_shapes_are_canonical_words (text : String) :
    (shapePattern.pattern.search text = .ok true ↔
        IsLoneWord text ∧ canonicalShape? text = some text) ∧
      (LabelledSchema.embedded.messages (placing text).toJson.sorted = [] ↔
        IsLoneWord text ∧ canonicalShape? text = some text) ∧
      (OccursAsWord text → ∀ shape, canonicalShape? text = some shape →
        shapePattern.pattern.search shape = .ok true ∧
          IsLoneWord shape ∧ canonicalShape? shape = some shape) ∧
      ∀ (source : String) (script : Script),
        Script.ofSource source = .ok script →
        ∀ site ∈ script.sites, site.target = .shape text →
          shapePattern.pattern.search text = .ok true := by
  have matched (shape : String) :
      shapePattern.pattern.search shape = .ok true ↔
        IsLoneWord shape ∧ canonicalShape? shape = some shape :=
    (search_shapePattern_iff shape).trans (isShape_iff_isLoneWord shape)
  refine ⟨matched text,
    (messages_placing_eq_nil_iff text).trans (matched text), ?_, ?_⟩
  · intro occurs shape canonical
    have isShape := isShape_of_canonicalShape? occurs.isScanned canonical
    exact ⟨(search_shapePattern_iff shape).mpr isShape,
      (isShape_iff_isLoneWord shape).mp isShape⟩
  · intro source script accepted site inSites isTarget
    have spelled := (RuleSet.isSpelled_of_mem_sites
      (isSpelled_of_ofSource accepted) inSites).target
    rw [isTarget] at spelled
    exact (search_shapePattern_iff text).mpr spelled

/--
Three colons in a row are two that end the base name and one of the suffix.
-/
theorem schema_accepts_canonical_form_with_three_colons :
    OccursAsWord "SPHERE:::a" ∧
      canonicalShape? "SPHERE:::a" = some "sphere:::a" ∧
      shapePattern.pattern.search "sphere:::a" = .ok true ∧
      IsLoneWord "sphere:::a" ∧
        canonicalShape? "sphere:::a" = some "sphere:::a" := by
  have plain : (Lexeme.word "SPHERE:::a").IsPlain :=
    ⟨⟨'S', "PHERE:::a".toList, rfl, rfl, List.all_eq_true.mp rfl⟩, by
      change ¬ Text.lower "SPHERE:::a" = "set"
      decide⟩
  have occurs : OccursAsWord "SPHERE:::a" :=
    (isLoneWord_of_isPlain plain).occursAsWord
  have canonical : canonicalShape? "SPHERE:::a" = some "sphere:::a" := by decide
  exact ⟨occurs, canonical,
    (schema_shapes_are_canonical_words "SPHERE:::a").2.2.1 occurs
      "sphere:::a" canonical⟩

end Description

end Eisen
