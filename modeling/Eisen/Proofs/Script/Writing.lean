import Eisen.Proofs.Script.Rows

namespace Eisen

open Script

/-!
# Written scripts

A script is written with its depth limit first, then its entry calls, then its
rules, as lexemes with single blanks between them. Reading what was written
gives the script again, now with everything on the first line.

The scripts that can be read from any source at all are spelled in a certain
way, which the module on spelling states. This module starts from there: it
says what writes each part in the grammar, and that none of the lexemes is
scanned as anything else.
-/

/-! Lexemes of scripts. -/

/-- A transformation: its keyword and its operands. -/
def Transform.lexemes (transform : Transform) : List Lexeme :=
  .word transform.kind.keyword :: transform.values.map .number

/-- The count in front of a loop block, if it has one. -/
def countLexemes : Option String → List Lexeme
  | none => []
  | some count => [.number count, .star]

/-- A loop: its count, and its transformations in braces. -/
def Loop.lexemes (loop : Loop) : List Lexeme :=
  countLexemes loop.count ++
    .openBrace :: (loop.transforms.flatMap Transform.lexemes ++ [.closeBrace])

/-- A call: its loops, and the name of what it places. -/
def CallSite.lexemes (site : CallSite) : List Lexeme :=
  site.loops.flatMap Loop.lexemes ++ [.word site.target.name]

/-- The depth of a rule, and its successor behind it. -/
def depthLexemes : Option String → Option String → List Lexeme
  | none, _ => []
  | some depth, none => [.word "md", .number depth]
  | some depth, some successor =>
      [.word "md", .number depth, .greater, .word successor]

/-- The weight of a rule. -/
def weightLexemes : Option String → List Lexeme
  | none => []
  | some weight => [.word "w", .number weight]

/-- A rule: its name, its modifiers, and its calls in braces. -/
def RuleDefinition.lexemes (definition : RuleDefinition) : List Lexeme :=
  .word "rule" :: .word definition.name ::
    (depthLexemes definition.maxDepth definition.successor ++
      weightLexemes definition.weight ++
      .openBrace :: (definition.body.flatMap CallSite.lexemes ++ [.closeBrace]))

/-- The depth limit of a script. -/
def settingLexemes : Option String → List Lexeme
  | none => []
  | some depth => [.word "set", .word "maxdepth", .number depth]

namespace Script

/-- A script: its depth limit, its entry calls, and its rules. -/
def lexemes (script : Script) : List Lexeme :=
  settingLexemes script.maxDepth ++
    (script.entry.flatMap CallSite.lexemes ++
      script.rules.flatMap RuleDefinition.lexemes)

/-- The text of a script. -/
def text (script : Script) : String :=
  rowText script.lexemes

end Script

/-! Scripts on one line. -/

/-- The same call on another line. -/
def CallSite.onLine
    (line : Nat)
    (site : CallSite) : CallSite :=
  { site with line := line }

/-- The same rule, and all of its calls, on another line. -/
def RuleDefinition.onLine
    (line : Nat)
    (definition : RuleDefinition) : RuleDefinition :=
  { definition with
    body := definition.body.map (CallSite.onLine line)
    line := line }

/-- The same script with all calls and rules on one line. -/
def Script.onLine
    (line : Nat)
    (script : Script) : Script :=
  { script with
    entry := script.entry.map (CallSite.onLine line)
    rules := script.rules.map (RuleDefinition.onLine line) }

/-! The grammar of what is written. -/

namespace Script

namespace WritesRow

variable
    {line : Nat}
    {written : List Token}

/-- A row of two parts is two rows. -/
theorem of_append
    {left right : List Lexeme}
    (row : WritesRow line written (left ++ right)) :
    ∃ front behind, written = front ++ behind ∧ WritesRow line front left ∧
      WritesRow line behind right := by
  obtain ⟨front, behind, rfl, isLeft, isRight⟩ :=
    List.map_eq_append_iff.mp row.lexemes
  exact ⟨front, behind, rfl,
    ⟨isLeft, fun token member =>
      row.line token (List.mem_append_left _ member)⟩,
    ⟨isRight, fun token member =>
        row.line token (List.mem_append_right _ member)⟩⟩

/-- A row begins with a token of its first lexeme. -/
theorem of_cons
    {lexeme : Lexeme}
    {rest : List Lexeme}
    (row : WritesRow line written (lexeme :: rest)) :
    ∃ token behind, written = token :: behind ∧ token.lexeme = lexeme ∧
      token.place.line = line ∧ WritesRow line behind rest := by
  obtain ⟨token, behind, rfl, isLexeme, isRest⟩ :=
    List.map_eq_cons_iff.mp row.lexemes
  exact ⟨token, behind, rfl, isLexeme, row.line token List.mem_cons_self,
    ⟨isRest, fun other member =>
        row.line other (List.mem_cons_of_mem _ member)⟩⟩

theorem of_singleton
    {lexeme : Lexeme}
    (row : WritesRow line written [lexeme]) :
    ∃ token, written = [token] ∧ token.lexeme = lexeme := by
  obtain ⟨token, behind, rfl, isLexeme, -, empty⟩ := row.of_cons
  cases List.map_eq_nil_iff.mp empty.lexemes
  exact ⟨token, rfl, isLexeme⟩

theorem of_nil (row : WritesRow line written []) : written = [] :=
  List.map_eq_nil_iff.mp row.lexemes

/-- Phrases of one kind in a row. -/
theorem writesEach
    {α β : Type}
    {Writes : List Token → β → Prop}
    {lexemes : α → List Lexeme}
    {read : α → β}
    {items : List α}
    (row : WritesRow line written (items.flatMap lexemes))
    (each : ∀ item ∈ items, ∀ front, WritesRow line front (lexemes item) →
      Writes front (read item)) :
    WritesEach Writes written (items.map read) := by
  induction items generalizing written with
  | nil =>
      rw [row.of_nil]
      exact .nil
  | cons item rest inductionHypothesis =>
      rw [List.flatMap_cons] at row
      obtain ⟨front, behind, rfl, first, others⟩ := row.of_append
      obtain ⟨eachFirst, eachOther⟩ := List.forall_mem_cons.mp each
      exact .cons (eachFirst front first) (inductionHypothesis others eachOther)

end WritesRow

/-- A word is a keyword that it spells. -/
theorem Token.isKeyword_of_word
    {token : Token}
    {word : String}
    (isWord : token.lexeme = .word word) :
    token.isKeyword word = true := by
  simp [Token.isKeyword, isWord, Text.sameLetters]

end Script

section

variable
    {line : Nat}
    {written : List Token}

/-- The row of a transformation writes it as a group. -/
theorem Transform.writesGroup
    {transform : Transform}
    (spelled : transform.IsSpelled)
    (row : WritesRow line written transform.lexemes) :
    WritesGroup written [transform] := by
  obtain ⟨keyword, operands, rfl, isKeyword, -, numbers⟩ := row.of_cons
  exact .geometric transform.kind (Token.isKeyword_of_word isKeyword)
    ⟨numbers.lexemes, spelled.some⟩

/-- The row of a loop writes it. -/
theorem Loop.writesLoop
    {loop : Loop}
    (spelled : loop.IsSpelled)
    (row : WritesRow line written loop.lexemes) :
    WritesLoop written loop := by
  obtain ⟨front, behind, rfl, counts, inBraces⟩ := row.of_append
  obtain ⟨opening, inside, rfl, opens, -, content⟩ := inBraces.of_cons
  obtain ⟨groups, last, rfl, transforms, atEnd⟩ := content.of_append
  obtain ⟨closing, rfl, closes⟩ := atEnd.of_singleton
  have writes : WritesEach WritesGroup groups
      (loop.transforms.map fun found => [found]) :=
    transforms.writesEach fun transform member _ =>
      Transform.writesGroup (spelled.transforms transform member)
  have block :
      WritesBlock (opening :: (groups ++ [closing])) loop.transforms := by
    have braces := WritesBlock.braces opens writes closes
    rwa [← List.flatMap_def, List.flatMap_singleton',
      List.cons_append] at braces
  cases form : loop.count with
  | none =>
      rw [form] at counts
      rw [counts.of_nil]
      obtain ⟨count, found⟩ := loop
      cases form
      exact .plain block
  | some count =>
      rw [form] at counts
      obtain ⟨number, behind, rfl, isNumber, -, rest⟩ := counts.of_cons
      obtain ⟨star, rfl, isStar⟩ := rest.of_singleton
      obtain ⟨_, found⟩ := loop
      cases form
      exact .counted isNumber isStar block

/-- The word of a target writes it. -/
theorem Target.writesTarget
    {target : Target}
    (spelled : target.IsSpelled)
    {token : Token}
    (isWord : token.lexeme = .word target.name) :
    WritesTarget token target := by
  cases target with
  | rule name => exact .rule spelled.2 ⟨isWord, spelled.1⟩
  | shape name => exact .shape isWord (canonicalShape?_of_isShape spelled)

/-- The row of a call writes it, on the line of the row. -/
theorem CallSite.writesCall
    {site : CallSite}
    (spelled : site.IsSpelled)
    (row : WritesRow line written site.lexemes) :
    WritesCall written (site.onLine line) := by
  have lines := row.line
  obtain ⟨front, behind, rfl, loops, atEnd⟩ := row.of_append
  obtain ⟨token, rfl, isWord⟩ := atEnd.of_singleton
  have writes : WritesEach WritesLoop front (site.loops.map id) :=
    loops.writesEach fun loop member _ =>
      Loop.writesLoop (spelled.loops loop member)
  rw [List.map_id] at writes
  have onLine : firstLine (front ++ [token]) = line := by
    cases front with
    | nil => exact lines token (by simp)
    | cons first rest => exact lines first (by simp)
  have call :=
    WritesCall.site writes (Target.writesTarget spelled.target isWord)
  rwa [onLine] at call

/-- The row of a depth modifier writes it. -/
theorem writesDepth_of_row
    {depth : String}
    {successor : Option String}
    (isName : ∀ name ∈ successor, isRuleName name = true)
    (row : WritesRow line written (depthLexemes (some depth) successor)) :
    WritesDepth written (depth, successor) := by
  cases successor with
  | none =>
      obtain ⟨keyword, _, rfl, isKeyword, -, rest⟩ := row.of_cons
      obtain ⟨number, rfl, isNumber⟩ := rest.of_singleton
      exact .plain (.inl (Token.isKeyword_of_word isKeyword)) isNumber
  | some name =>
      obtain ⟨keyword, _, rfl, isKeyword, -, rest⟩ := row.of_cons
      obtain ⟨number, _, rfl, isNumber, -, rest⟩ := rest.of_cons
      obtain ⟨mark, _, rfl, isMark, -, rest⟩ := rest.of_cons
      obtain ⟨nameToken, rfl, isWord⟩ := rest.of_singleton
      exact .followed (.inl (Token.isKeyword_of_word isKeyword)) isNumber isMark
        ⟨isWord, isName name rfl⟩

/-- The row of a weight modifier writes it. -/
theorem writesWeight_of_row
    {weight : String}
    (row : WritesRow line written (weightLexemes (some weight))) :
    WritesWeight written weight := by
  obtain ⟨keyword, _, rfl, isKeyword, -, rest⟩ := row.of_cons
  obtain ⟨number, rfl, isNumber⟩ := rest.of_singleton
  exact .weight (.inl (Token.isKeyword_of_word isKeyword)) isNumber

/-- The modifiers of a rule are written depth first. -/
theorem RuleDefinition.writesModifiers
    {definition : RuleDefinition}
    (spelled : definition.IsSpelled)
    (row : WritesRow line written
      (depthLexemes definition.maxDepth definition.successor ++
        weightLexemes definition.weight)) :
    ∃ depth, WritesModifiers written definition.weight depth ∧
      depth.map Prod.fst = definition.maxDepth ∧
        depth.bind Prod.snd = definition.successor := by
  obtain ⟨front, behind, rfl, depths, weights⟩ := row.of_append
  cases isDepth : definition.maxDepth with
  | none =>
      rw [isDepth] at depths
      refine ⟨none, ?_, rfl, (spelled.follows isDepth).symm⟩
      rw [depths.of_nil]
      cases isWeight : definition.weight with
      | none =>
          rw [isWeight] at weights
          rw [weights.of_nil]
          exact .none
      | some weight =>
          rw [isWeight] at weights
          exact .weight (writesWeight_of_row weights)
  | some depth =>
      rw [isDepth] at depths
      have writesDepth := writesDepth_of_row spelled.successor depths
      refine ⟨some (depth, definition.successor), ?_, rfl, rfl⟩
      cases isWeight : definition.weight with
      | none =>
          rw [isWeight] at weights
          rw [weights.of_nil, List.append_nil]
          exact .depth writesDepth
      | some weight =>
          rw [isWeight] at weights
          exact .depthThenWeight writesDepth (writesWeight_of_row weights)

/-- The row of a rule writes it, on the line of the row. -/
theorem RuleDefinition.writesRule
    {definition : RuleDefinition}
    (spelled : definition.IsSpelled)
    (row : WritesRow line written definition.lexemes) :
    WritesRule written (definition.onLine line) := by
  obtain ⟨keyword, _, rfl, isKeyword, isLine, rest⟩ := row.of_cons
  obtain ⟨nameToken, _, rfl, isName, -, rest⟩ := rest.of_cons
  obtain ⟨modifiers, _, rfl, modified, rest⟩ := rest.of_append
  obtain ⟨opening, _, rfl, opens, -, rest⟩ := rest.of_cons
  obtain ⟨inside, _, rfl, calls, atEnd⟩ := rest.of_append
  obtain ⟨closing, rfl, closes⟩ := atEnd.of_singleton
  obtain ⟨depth, writesModifiers, isDepth, isSuccessor⟩ :=
    RuleDefinition.writesModifiers spelled modified
  have body := calls.writesEach fun site member _ =>
    CallSite.writesCall (spelled.body site member)
  have defines := WritesRule.definition (Token.isKeyword_of_word isKeyword)
    ⟨isName, spelled.name⟩ writesModifiers opens body closes
  rw [isDepth, isSuccessor, isLine, List.append_assoc] at defines
  exact defines

namespace Script

/-- Two sequences of phrases are one. -/
theorem WritesEach.append
    {α : Type}
    {Writes : List Token → α → Prop}
    {front behind : List Token}
    {left right : List α}
    (first : WritesEach Writes front left)
    (second : WritesEach Writes behind right) :
    WritesEach Writes (front ++ behind) (left ++ right) := by
  induction first with
  | nil => exact second
  | cons head tail inductionHypothesis =>
      rw [List.append_assoc]
      exact .cons head inductionHypothesis

/-- The items of a script in the order in which they are written. -/
def parts (script : Script) : List Item :=
  script.maxDepth.toList.map .maxDepth ++
    (script.entry.map .call ++ script.rules.map .rule)

theorem ofItems_parts (script : Script) : ofItems script.parts = script := by
  obtain ⟨maxDepth, entry, rules⟩ := script
  have none : ∀ {α β : Type} (list : List α),
      list.filterMap (fun _ => (none : Option β)) = [] :=
    fun list => List.filterMap_eq_nil_iff.mpr fun _ _ => rfl
  have last : maxDepth.toList.getLast? = maxDepth := by cases maxDepth <;> rfl
  simp [ofItems, parts, Item.maxDepth?, Item.call?, Item.rule?,
    Function.comp_def, none, last]

/-- The row of a script writes its parts. -/
theorem writesEach_parts
    {script : Script}
    (spelled : script.IsSpelled)
    (row : WritesRow line written script.lexemes) :
    WritesEach WritesItem written (script.onLine line).parts := by
  obtain ⟨front, behind, rfl, settings, rest⟩ := row.of_append
  obtain ⟨middle, last, rfl, entry, rules⟩ := rest.of_append
  have setting :
      WritesEach WritesItem front (script.maxDepth.toList.map .maxDepth) := by
    cases isDepth : script.maxDepth with
    | none =>
        rw [isDepth] at settings
        rw [settings.of_nil]
        exact .nil
    | some depth =>
        rw [isDepth] at settings
        obtain ⟨keyword, _, rfl, isSet, -, rest⟩ := settings.of_cons
        obtain ⟨key, _, rfl, isKey, -, rest⟩ := rest.of_cons
        obtain ⟨number, rfl, isNumber⟩ := rest.of_singleton
        have writes : WritesItem [keyword, key, number] (.maxDepth depth) :=
          .setting (Token.isKeyword_of_word isSet)
            (.inl (Token.isKeyword_of_word isKey)) isNumber
        exact .cons writes .nil
  have calls : WritesEach WritesItem middle
      (script.entry.map fun site => .call (site.onLine line)) :=
    entry.writesEach fun site member _ row =>
      .call (CallSite.writesCall (spelled.entry site member) row)
  have definitions : WritesEach WritesItem last
      (script.rules.map fun definition => .rule (definition.onLine line)) :=
    rules.writesEach fun definition member _ row =>
      .rule (RuleDefinition.writesRule (spelled.rules definition member) row)
  have whole := setting.append (calls.append definitions)
  simpa [parts, onLine, List.map_map, Function.comp_def] using whole

end Script

end

/-! Lexemes that are scanned as they are written. -/

namespace Script

theorem isPlain_number
    {text : String}
    (isNumber : IsNumberText text) :
    (Lexeme.number text).IsPlain :=
  ⟨isNumber, nofun⟩

/-- Rule names are plain words. -/
theorem isPlain_ruleName
    {name : String}
    (accepted : isRuleName name = true) :
    (Lexeme.word name).IsPlain := by
  refine ⟨(isName_of_isRuleName accepted).isWordText, fun isSet => ?_⟩
  have same : Text.sameLetters name "set" = true := by
    rw [Text.sameLetters, show Text.lower name = "set" from isSet]
    decide
  unfold isRuleName at accepted
  split at accepted
  · cases accepted
  · simp [same] at accepted

/-- Shapes are plain words. -/
theorem isPlain_shape
    {shape : String}
    (isShape : IsShape shape) :
    (Lexeme.word shape).IsPlain := by
  constructor
  · obtain ⟨base, isBase, suffix, form, suffixForm⟩ := isShape.split
    have checked : shapes.all (fun base => base.toList.head?.any Char.isAlpha &&
        base.toList.all Text.isWordCharacter) = true := by
      decide
    obtain ⟨startsWord, isWord⟩ :=
      (Bool.and_eq_true _ _).mp (List.all_eq_true.mp checked base isBase)
    obtain ⟨first, isFirst, letter⟩ := (Option.any_eq_true _ _).mp startsWord
    obtain ⟨more, isBase⟩ := List.head?_eq_some_iff.mp isFirst
    refine ⟨first, more ++ suffix, by
      rw [form, isBase, List.cons_append], letter, ?_⟩
    rw [List.forall_mem_append]
    constructor
    · intro character member
      exact List.all_eq_true.mp isWord character (by simp [isBase, member])
    · rcases suffixForm with rfl | ⟨first, more, rfl, others⟩
      · exact nofun
      · rw [List.forall_mem_cons, List.forall_mem_cons]
        exact ⟨by decide, by decide, others⟩
  · intro isSet
    have target : WritesTarget ⟨.word shape, Place.start⟩ (.shape shape) :=
      .shape rfl (canonicalShape?_of_isShape isShape)
    refine not_writesTarget_of_reserved (.inl ?_) target
    rw [Token.isKeyword_iff]
    exact ⟨shape, rfl, isSet⟩

theorem isPlain_keyword (kind : TransformKind) :
    (Lexeme.word kind.keyword).IsPlain := by
  have accepted : isRuleName kind.keyword = true := by cases kind <;> decide
  exact isPlain_ruleName accepted

end Script

/-- A transformation is written by plain lexemes. -/
theorem Transform.isPlain
    {transform : Transform}
    (spelled : transform.IsSpelled) :
    ∀ lexeme ∈ transform.lexemes, lexeme.IsPlain := by
  rw [Transform.lexemes, List.forall_mem_cons, List.forall_mem_map]
  exact ⟨isPlain_keyword _,
    fun value member => isPlain_number (spelled.values value member)⟩

/-- A loop is written by plain lexemes. -/
theorem Loop.isPlain
    {loop : Loop}
    (spelled : loop.IsSpelled) :
    ∀ lexeme ∈ loop.lexemes, lexeme.IsPlain := by
  rw [Loop.lexemes, List.forall_mem_append, List.forall_mem_cons,
    List.forall_mem_append]
  refine ⟨?_, ⟨trivial, nofun⟩, ?_, ?_⟩
  · cases form : loop.count with
    | none => exact nofun
    | some count =>
        rw [countLexemes, List.forall_mem_cons, List.forall_mem_singleton]
        exact ⟨isPlain_number (spelled.count count form), trivial, nofun⟩
  · simp only [List.forall_mem_flatMap]
    exact fun transform member =>
      Transform.isPlain (spelled.transforms transform member)
  · rw [List.forall_mem_singleton]
    exact ⟨trivial, nofun⟩

theorem Target.isPlain
    {target : Target}
    (spelled : target.IsSpelled) :
    (Lexeme.word target.name).IsPlain := by
  cases target with
  | rule name => exact isPlain_ruleName spelled.1
  | shape name => exact isPlain_shape spelled

/-- A call is written by plain lexemes. -/
theorem CallSite.isPlain
    {site : CallSite}
    (spelled : site.IsSpelled) :
    ∀ lexeme ∈ site.lexemes, lexeme.IsPlain := by
  rw [CallSite.lexemes, List.forall_mem_append, List.forall_mem_singleton]
  refine ⟨?_, Target.isPlain spelled.target⟩
  simp only [List.forall_mem_flatMap]
  exact fun loop member => Loop.isPlain (spelled.loops loop member)

/-- A depth modifier is written by plain lexemes. -/
theorem isPlain_depthLexemes
    {depth successor : Option String}
    (isNumber : ∀ text ∈ depth, IsNumberText text)
    (isName : ∀ name ∈ successor, isRuleName name = true) :
    ∀ lexeme ∈ depthLexemes depth successor, lexeme.IsPlain := by
  have keyword : (Lexeme.word "md").IsPlain := isPlain_ruleName (by decide)
  cases depth with
  | none => exact nofun
  | some text =>
      have number := isPlain_number (isNumber text rfl)
      cases successor with
      | none => simp [depthLexemes, keyword, number]
      | some name =>
          have mark : Lexeme.greater.IsPlain := ⟨trivial, nofun⟩
          simp [depthLexemes, keyword, number, mark,
            isPlain_ruleName (isName name rfl)]

theorem isPlain_weightLexemes
    {weight : Option String}
    (isNumber : ∀ text ∈ weight, IsNumberText text) :
    ∀ lexeme ∈ weightLexemes weight, lexeme.IsPlain := by
  have keyword : (Lexeme.word "w").IsPlain := isPlain_ruleName (by decide)
  cases weight with
  | none => exact nofun
  | some text =>
      simp [weightLexemes, keyword, isPlain_number (isNumber text rfl)]

/-- A rule is written by plain lexemes. -/
theorem RuleDefinition.isPlain
    {definition : RuleDefinition}
    (spelled : definition.IsSpelled) :
    ∀ lexeme ∈ definition.lexemes, lexeme.IsPlain := by
  have keyword : (Lexeme.word "rule").IsPlain :=
    ⟨⟨'r', ['u', 'l', 'e'], rfl, rfl, List.all_eq_true.mp rfl⟩,
      show ¬ Text.lower "rule" = "set" by decide⟩
  rw [RuleDefinition.lexemes, List.forall_mem_cons, List.forall_mem_cons,
    List.forall_mem_append, List.forall_mem_append, List.forall_mem_cons,
    List.forall_mem_append]
  refine ⟨keyword, isPlain_ruleName spelled.name,
    ⟨isPlain_depthLexemes spelled.maxDepth spelled.successor,
      isPlain_weightLexemes spelled.weight⟩, ⟨trivial, nofun⟩, ?_, ?_⟩
  · simp only [List.forall_mem_flatMap]
    exact fun site member => CallSite.isPlain (spelled.body site member)
  · rw [List.forall_mem_singleton]
    exact ⟨trivial, nofun⟩

namespace Script

/--
The only lexeme of a written script with which a directive could start is the
keyword in front of its depth limit, and the key behind it is no rendering key.
-/
theorem isScannable_lexemes
    {script : Script}
    (spelled : script.IsSpelled) :
    IsScannable script.lexemes := by
  have plain : ∀ lexeme ∈ script.entry.flatMap CallSite.lexemes ++
      script.rules.flatMap RuleDefinition.lexemes, lexeme.IsPlain := by
    rw [List.forall_mem_append]
    simp only [List.forall_mem_flatMap]
    exact ⟨fun site member => CallSite.isPlain (spelled.entry site member),
      fun definition member =>
        RuleDefinition.isPlain (spelled.rules definition member)⟩
  have rest := isScannable_of_forall plain
  rw [lexemes]
  cases form : script.maxDepth with
  | none => exact rest
  | some depth =>
      have isNumber := isPlain_number (spelled.maxDepth depth form)
      have isKey : (Lexeme.word "maxdepth").IsPlain :=
        isPlain_ruleName (by decide)
      have isWord : IsWordText "set" :=
        ⟨'s', ['e', 't'], rfl, rfl, List.all_eq_true.mp rfl⟩
      rw [settingLexemes, List.cons_append, List.cons_append, List.cons_append,
        List.nil_append]
      refine ⟨isWord, fun _ => ?_, isKey.whole,
        fun isSet => absurd isSet isKey.noSet, isNumber.whole, nofun, rest⟩
      rw [toList_rowText_cons, if_neg (List.cons_ne_nil _ _)]
      rfl

/-- The text of a script is scanned as its row. -/
theorem tokens_text
    {script : Script}
    (spelled : script.IsSpelled) :
    ∃ written, tokens script.text = .ok written ∧
      WritesRow 1 written script.lexemes := by
  obtain ⟨written, scanned, row⟩ :=
    scansAs_rowText (isScannable_lexemes spelled) Cursor.start
  exact ⟨written, scanned, row⟩

/-- A spelled script is read from its text. -/
theorem ofSource_text_of_isSpelled
    {script : Script}
    (spelled : script.IsSpelled) :
    ofSource script.text = .ok (script.onLine 1) := by
  obtain ⟨written, scanned, row⟩ := tokens_text spelled
  rw [ofSource_eq_ok_iff]
  refine ⟨written, _, scanned, writesEach_parts spelled row, ?_,
    ofItems_parts _⟩
  rw [ofItems_parts, onLine, List.map_eq_nil_iff.ne]
  exact spelled.someEntry

/--
Writing what was read from any source, and reading it again, gives the same
script. Only the recorded lines are lost.
-/
theorem ofSource_text
    {source : String}
    {script : Script}
    (accepted : ofSource source = .ok script) :
    ofSource script.text = .ok (script.onLine 1) :=
  ofSource_text_of_isSpelled (isSpelled_of_ofSource accepted)

/--
Comments, directives, shading, lines and the case of keywords are
not written again.
-/
theorem ofSource_text_of_lines :
    ∃ script,
      ofSource
        ("SET md 100 // deep\nset background #fff\n" ++
          "\x7b hue 1*2 \x7d Box::A\n" ++
          "Rule R weight .5 maxdepth -4>S " ++
          "\x7b 2*\x7bRX 1*2 color red\x7dR \x7d") =
          .ok script ∧
        script.text = "set maxdepth 100 \x7b \x7d box::A " ++
          "rule R md -4 > S w .5 \x7b 2 * \x7b rx 1*2 \x7d R \x7d" ∧
        script ≠ script.onLine 1 ∧
        ofSource script.text = .ok (script.onLine 1) := by
  refine ⟨⟨some "100", [⟨[⟨none, []⟩], .shape "box::A", 3⟩],
      [⟨"R", some ".5", some "-4", some "S",
        [⟨[⟨some "2", [⟨.turnX, ["1*2"]⟩]⟩], .rule "R", 4⟩], 4⟩]⟩,
    ?accepted, ?written, ?lines, ofSource_text ?accepted⟩
  all_goals decide +kernel

end Script

end Eisen
