import Eisen.RuleSet.Markup
import Mathlib.Data.List.Basic

namespace Eisen

/-!
# Reading EisenXML back

A reader for the layout in which rule sets are written. It accepts the documents
of rule sets and nothing else, and gives the rule set of each, so no two rule
sets have the same document.
-/

namespace Markup

/--
A way to read an item at the front of a text; it also gives the text
behind the item.
-/
abbrev Reader (α : Type) := List Char → Option (α × List Char)

/--
A reader that takes what a writer writes off the front of a text,
and nothing else.
-/
structure Reads
    {α : Type}
    (read : Reader α)
    (write : α → List Char) : Prop where
  sound : ∀ {text item rest},
    read text = some (item, rest) → text = write item ++ rest
  complete : ∀ item rest, read (write item ++ rest) = some (item, rest)

/-! Values. -/

/-- The characters that are not written as themselves. -/
def escapedCharacters : List Char := ['&', '<', '>', '"']

/-- The value whose text is given, if the text is that of a value. -/
def unescaped? : List Char → Option (List Char)
  | [] => some []
  | '&' :: 'a' :: 'm' :: 'p' :: ';' :: rest => (unescaped? rest).map ('&' :: ·)
  | '&' :: 'l' :: 't' :: ';' :: rest => (unescaped? rest).map ('<' :: ·)
  | '&' :: 'g' :: 't' :: ';' :: rest => (unescaped? rest).map ('>' :: ·)
  | '&' :: 'q' :: 'u' :: 'o' :: 't' :: ';' :: rest =>
      (unescaped? rest).map ('"' :: ·)
  | character :: rest =>
      if character ∈ escapedCharacters then
        none
      else
        (unescaped? rest).map (character :: ·)

/-- Characters without an escape stand for themselves. -/
theorem escapeCharacter_of_not_mem
    {character : Char}
    (plain : character ∉ escapedCharacters) :
    escapeCharacter character = [character] := by
  unfold escapeCharacter
  split <;> simp_all [escapedCharacters]

/-- Characters without an escape are read as they are. -/
theorem unescaped?_of_not_mem
    {character : Char}
    (plain : character ∉ escapedCharacters)
    (rest : List Char) :
    unescaped? (character :: rest) =
      (unescaped? rest).map (character :: ·) := by
  conv_lhs => unfold unescaped?
  split <;> simp_all [escapedCharacters]

theorem unescaped?_escaped (value : List Char) :
    unescaped? (value.flatMap escapeCharacter) = some value := by
  induction value with
  | nil => rfl
  | cons character rest inductionHypothesis =>
      rw [List.flatMap_cons]
      by_cases plain : character ∈ escapedCharacters
      · have entity : unescaped?
            (escapeCharacter character ++ rest.flatMap escapeCharacter) =
            (unescaped? (rest.flatMap escapeCharacter)).map
              (character :: ·) := by
          simp only [escapedCharacters, List.mem_cons, List.not_mem_nil,
            or_false] at plain
          rcases plain with rfl | rfl | rfl | rfl <;> rfl
        rw [entity, inductionHypothesis, Option.map_some]
      · rw [escapeCharacter_of_not_mem plain, List.singleton_append,
          unescaped?_of_not_mem plain, inductionHypothesis, Option.map_some]

/-- Only escaped texts are read. -/
theorem eq_escaped_of_unescaped?
    {text value : List Char}
    (read : unescaped? text = some value) :
    text = value.flatMap escapeCharacter := by
  fun_induction unescaped? text generalizing value with
  | case1 =>
      cases read
      rfl
  | case2 rest inductionHypothesis
  | case3 rest inductionHypothesis
  | case4 rest inductionHypothesis
  | case5 rest inductionHypothesis =>
      obtain ⟨later, found, rfl⟩ := Option.map_eq_some_iff.mp read
      rw [inductionHypothesis found]
      rfl
  | case6 => cases read
  | case7 character rest _ _ _ _ plain inductionHypothesis =>
      obtain ⟨later, found, rfl⟩ := Option.map_eq_some_iff.mp read
      rw [List.flatMap_cons, escapeCharacter_of_not_mem plain,
        ← inductionHypothesis found, List.singleton_append]

theorem quote_not_mem_escaped (value : List Char) :
    '"' ∉ value.flatMap escapeCharacter := by
  intro member
  obtain ⟨character, -, inEscaped⟩ := List.mem_flatMap.mp member
  by_cases plain : character ∈ escapedCharacters
  · have checked : escapedCharacters.all
        (fun escaped => '"' ∉ escapeCharacter escaped) = true := by decide
    simpa [inEscaped] using List.all_eq_true.mp checked character plain
  · rw [escapeCharacter_of_not_mem plain, List.mem_singleton] at inEscaped
    exact plain (inEscaped ▸ by decide)

/-- The value in front of a text, up to the closing quote. -/
def value? : Reader String := fun text =>
  match text.dropWhile (· != '"') with
  | [] => none
  | _ :: rest =>
      (unescaped? (text.takeWhile (· != '"'))).map fun value =>
        (String.ofList value, rest)

theorem reads_value :
    Reads value? fun value => (escape value).toList ++ ['"'] where
  sound := by
    intro text value rest read
    unfold value? at read
    split at read
    · cases read
    · next quote behind stopped =>
        obtain ⟨characters, unescaped, same⟩ := Option.map_eq_some_iff.mp read
        cases same
        have nonempty : text.dropWhile (· != '"') ≠ [] := by
          rw [stopped]
          exact List.cons_ne_nil quote rest
        obtain rfl : quote = '"' := by
          simpa [stopped] using List.head_dropWhile_not (· != '"') nonempty
        rw [escape, String.toList_ofList, String.toList_ofList,
          ← eq_escaped_of_unescaped? unescaped, List.append_assoc,
          List.singleton_append, ← stopped, List.takeWhile_append_dropWhile]
  complete := by
    intro value rest
    have inside : ∀ character ∈ value.toList.flatMap escapeCharacter,
        (character != '"') = true := by
      intro character member
      exact bne_iff_ne.mpr fun quote => quote_not_mem_escaped _ (quote ▸ member)
    rw [escape, String.toList_ofList, List.append_assoc, value?,
      List.dropWhile_append_of_pos inside, List.takeWhile_append_of_pos inside]
    simp [unescaped?_escaped]

/-! Attributes. -/

/-- Read an item behind a literal. -/
def behind
    {α : Type}
    (literal : String)
    (read : Reader α) : Reader α := fun text =>
  (literal.toList.isPrefixOf? text).bind read

/-- A reader behind a literal reads exactly what is written behind it. -/
theorem Reads.behind
    {α : Type}
    {read : Reader α}
    {write : α → List Char}
    (reads : Reads read write)
    (literal : String) :
    Reads (behind literal read) fun item => literal.toList ++ write item where
  sound := by
    intro text item rest found
    obtain ⟨inside, front, found⟩ := Option.bind_eq_some_iff.mp found
    rw [← List.isPrefixOf?_eq_some_iff_append_eq.mp front, reads.sound found,
      List.append_assoc]
  complete := by
    intro item rest
    refine Option.bind_eq_some_iff.mpr
      ⟨write item ++ rest, ?_, reads.complete item rest⟩
    rw [List.isPrefixOf?_eq_some_iff_append_eq, List.append_assoc]

/-- Nothing is read behind a literal that is not there. -/
theorem behind_eq_none
    {α : Type}
    {literal : String}
    {text : List Char}
    (apart : literal.toList.isPrefixOf? text = none)
    (read : Reader α) :
    behind literal read text = none := by
  rw [behind, apart, Option.bind_none]

/-- Read an item in front of a literal. -/
def before
    {α : Type}
    (literal : String)
    (read : Reader α) : Reader α := fun text =>
  (read text).bind fun found =>
    (literal.toList.isPrefixOf? found.2).map fun rest => (found.1, rest)

/--
A reader in front of a literal reads exactly what is written in front of it.
-/
theorem Reads.before
    {α : Type}
    {read : Reader α}
    {write : α → List Char}
    (reads : Reads read write)
    (literal : String) :
    Reads (before literal read) fun item => write item ++ literal.toList where
  sound := by
    intro text item rest found
    obtain ⟨inside, first, found⟩ := Option.bind_eq_some_iff.mp found
    obtain ⟨_, closed, same⟩ := Option.map_eq_some_iff.mp found
    cases same
    rw [reads.sound first, ← List.isPrefixOf?_eq_some_iff_append_eq.mp closed,
      List.append_assoc]
  complete := by
    intro item rest
    have closed :
        literal.toList.isPrefixOf? (literal.toList ++ rest) = some rest :=
      List.isPrefixOf?_eq_some_iff_append_eq.mpr rfl
    rw [Markup.before, List.append_assoc, reads.complete, Option.bind_some,
      closed, Option.map_some]

/-- Read two items in a row. -/
def pair
    {α β : Type}
    (first : Reader α)
    (second : Reader β) : Reader (α × β) := fun text =>
  (first text).bind fun left =>
    (second left.2).map fun right => ((left.1, right.1), right.2)

/-- Two readers read exactly two texts one behind the other. -/
theorem Reads.pair
    {α β : Type}
    {first : Reader α}
    {second : Reader β}
    {writeFirst : α → List Char}
    {writeSecond : β → List Char}
    (readsFirst : Reads first writeFirst)
    (readsSecond : Reads second writeSecond) :
    Reads (pair first second) fun items =>
      writeFirst items.1 ++ writeSecond items.2 where
  sound := by
    intro text items rest found
    obtain ⟨left, foundLeft, found⟩ := Option.bind_eq_some_iff.mp found
    obtain ⟨right, foundRight, same⟩ := Option.map_eq_some_iff.mp found
    cases same
    rw [readsFirst.sound foundLeft, readsSecond.sound foundRight,
      List.append_assoc]
  complete := by
    intro items rest
    rw [Markup.pair, List.append_assoc, readsFirst.complete, Option.bind_some,
      readsSecond.complete, Option.map_some]

/-- The text of an attribute in front of its value. -/
def opening (key : String) : String :=
  " " ++ key ++ "=\""

theorem toList_attributeText
    (key value : String) :
    (attributeText (key, value)).toList =
      (opening key).toList ++ ((escape value).toList ++ ['"']) := by
  simp [attributeText, opening]

/-- The value of an attribute at the front of a text. -/
def attribute? (key : String) : Reader String :=
  behind (opening key) value?

theorem reads_attribute (key : String) :
    Reads (attribute? key) fun value =>
      (attributeText (key, value)).toList := by
  simp only [toList_attributeText]
  exact reads_value.behind (opening key)

/-- An attribute is read only where its key stands. -/
theorem attribute?_eq_none
    {key : String}
    {text : List Char}
    (apart : (opening key).toList.isPrefixOf? text = none) :
    attribute? key text = none :=
  behind_eq_none apart value?

/-- An attribute with another key is not read. -/
theorem attribute?_of_other
    {key other : String}
    (apart : ∀ more,
      (opening key).toList.isPrefixOf? ((opening other).toList ++ more) = none)
    (value : String)
    (rest : List Char) :
    attribute? key ((attributeText (other, value)).toList ++ rest) = none := by
  rw [toList_attributeText, List.append_assoc]
  exact attribute?_eq_none (apart _)

/-- Read an item behind an attribute that may be missing. -/
def optionalThen
    {α : Type}
    (key : String)
    (read : Reader α) : Reader (Option String × α) := fun text =>
  match attribute? key text with
  | some found =>
      (read found.2).map fun item => ((some found.1, item.1), item.2)
  | none => (read text).map fun item => ((none, item.1), item.2)

/-- The text of an attribute that may be missing. -/
def optionalText
    (key : String)
    (value : Option String) : List Char :=
  (String.join ((Markup.optional key value).map attributeText)).toList

theorem optionalText_some
    (key value : String) :
    optionalText key (some value) = (attributeText (key, value)).toList := by
  simp [optionalText, Markup.optional]

/--
An attribute is not read where another one may stand and the rest has none.
-/
theorem attribute?_of_optional
    {key other : String}
    (apart : ∀ more,
      (opening key).toList.isPrefixOf? ((opening other).toList ++ more) = none)
    (value : Option String)
    {text : List Char}
    (further : attribute? key text = none) :
    attribute? key (optionalText other value ++ text) = none := by
  cases value with
  | none => exact further
  | some value =>
      rw [optionalText_some]
      exact attribute?_of_other apart value text

/--
What is written behind a missing attribute must not look like the attribute.
-/
theorem Reads.optionalThen
    {α : Type}
    {read : Reader α}
    {write : α → List Char}
    (reads : Reads read write)
    {key : String}
    (apart : ∀ item rest, attribute? key (write item ++ rest) = none) :
    Reads (optionalThen key read) fun items =>
      optionalText key items.1 ++ write items.2 where
  sound := by
    intro text items rest found
    unfold Markup.optionalThen at found
    split at found
    · next value present =>
        obtain ⟨item, read, same⟩ := Option.map_eq_some_iff.mp found
        cases same
        rw [(reads_attribute key).sound present, reads.sound read,
          optionalText_some, List.append_assoc]
    · obtain ⟨item, read, same⟩ := Option.map_eq_some_iff.mp found
      cases same
      exact reads.sound read
  complete := by
    rintro ⟨value, item⟩ rest
    cases value with
    | none =>
        have missing : attribute? key
            (optionalText key none ++ write item ++ rest) = none :=
          apart item rest
        have read : read (optionalText key none ++ write item ++ rest) =
            some (item, rest) :=
          reads.complete item rest
        rw [Markup.optionalThen, missing, read, Option.map_some]
    | some value =>
        have present : attribute? key
            (optionalText key (some value) ++ write item ++ rest) =
            some (value, write item ++ rest) := by
          rw [optionalText_some, List.append_assoc]
          exact (reads_attribute key).complete value _
        rw [Markup.optionalThen, present]
        dsimp only
        rw [reads.complete, Option.map_some]

/-! Elements. -/

/-- The items at the front of a text, as long as there are any. -/
def each
    {α : Type}
    (read : Reader α)
    (text : List Char) :
    List α × List Char :=
  match read text with
  | none => ([], text)
  | some (item, rest) =>
      if rest.length < text.length then
        let (items, behind) := each read rest
        (item :: items, behind)
      else
        ([], text)
termination_by text.length

/-- What is read again and again is what is written, in front of the rest. -/
theorem eq_append_of_each
    {α : Type}
    {read : Reader α}
    {write : α → List Char}
    (reads : Reads read write)
    (text : List Char) :
    text = (each read text).1.flatMap write ++ (each read text).2 := by
  fun_induction each read text with
  | case1 => rfl
  | case2 text item rest found shorter items behind later inductionHypothesis =>
      rw [later] at inductionHypothesis
      rw [reads.sound found, inductionHypothesis]
      simp
  | case3 => rfl

/-- All items that are written are read, up to what is no item. -/
theorem each_append
    {α : Type}
    {read : Reader α}
    {write : α → List Char}
    (reads : Reads read write)
    (written : ∀ item, write item ≠ [])
    {rest : List Char}
    (apart : read rest = none)
    (items : List α) :
    each read (items.flatMap write ++ rest) = (items, rest) := by
  induction items with
  | nil =>
      rw [List.flatMap_nil, List.nil_append, each, apart]
  | cons item others inductionHypothesis =>
      have shorter : (others.flatMap write ++ rest).length <
          (write item ++ (others.flatMap write ++ rest)).length := by
        have longer : (write item ++ (others.flatMap write ++ rest)).length =
            (write item).length + (others.flatMap write ++ rest).length :=
              List.length_append
        have positive := List.length_pos_iff.mpr (written item)
        omega
      rw [List.flatMap_cons, List.append_assoc, each, reads.complete]
      simp only [if_pos shorter, inductionHypothesis]

/--
The items inside an element behind its front, with the text that closes it.
-/
def content?
    {α : Type}
    (read : Reader α)
    (closing : String)
    (text : List Char) :
    Option (List α × List Char) :=
  match "/>\n".toList.isPrefixOf? text with
  | some rest => some ([], rest)
  | none =>
      (">\n".toList.isPrefixOf? text).bind fun inside =>
        if (each read inside).1.isEmpty then
          none
        else
          (closing.toList.isPrefixOf? (each read inside).2).map fun rest =>
            ((each read inside).1, rest)

/-- The text of an element behind its front. -/
def contentText
    {α : Type}
    (write : α → List Char)
    (closing : String)
    (items : List α) : List Char :=
  if items.isEmpty then
    "/>\n".toList
  else
    ">\n".toList ++ items.flatMap write ++ closing.toList

/-- The content of an element has no attribute at its front. -/
theorem attribute?_of_content
    {α : Type}
    (key : String)
    (write : α → List Char)
    (closing : String)
    (items : List α)
    (rest : List Char) :
    attribute? key (contentText write closing items ++ rest) = none := by
  apply attribute?_eq_none
  have blank : (opening key).toList = ' ' :: (key.toList ++ ['=', '"']) := by
    simp [opening]
  rw [blank, contentText]
  split <;> rfl

/-- The reader of contents reads exactly items in front of a closing tag. -/
theorem reads_content
    {α : Type}
    {read : Reader α}
    {write : α → List Char}
    (reads : Reads read write)
    (written : ∀ item, write item ≠ [])
    {closing : String}
    (closes : ∀ rest, read (closing.toList ++ rest) = none) :
    Reads (content? read closing) (contentText write closing) where
  sound := by
    intro text items rest found
    unfold content? at found
    split at found
    · next front =>
        cases found
        exact (List.isPrefixOf?_eq_some_iff_append_eq.mp front).symm
    · obtain ⟨inside, front, found⟩ := Option.bind_eq_some_iff.mp found
      split at found
      · cases found
      · next nonempty =>
          obtain ⟨behind, closed, same⟩ := Option.map_eq_some_iff.mp found
          cases same
          rw [contentText, if_neg nonempty, List.append_assoc,
            List.append_assoc, List.isPrefixOf?_eq_some_iff_append_eq.mp closed,
            ← eq_append_of_each reads inside,
            List.isPrefixOf?_eq_some_iff_append_eq.mp front]
  complete := by
    intro items rest
    cases items with
    | nil => rfl
    | cons item others =>
        have inside : ">\n".toList.isPrefixOf?
            (contentText write closing (item :: others) ++ rest) =
            some ((item :: others).flatMap write ++
              (closing.toList ++ rest)) := by
          rw [List.isPrefixOf?_eq_some_iff_append_eq, contentText,
            if_neg (by simp)]
          simp
        have nested : "/>\n".toList.isPrefixOf?
            (contentText write closing (item :: others) ++ rest) =
            none := rfl
        have closed :
            closing.toList.isPrefixOf? (closing.toList ++ rest) = some rest :=
          List.isPrefixOf?_eq_some_iff_append_eq.mpr rfl
        rw [content?, nested]
        simp only [inside, Option.bind_some,
          each_append reads written (closes rest), closed]
        rfl

end Markup

/-! Calls. -/

namespace Call

/--
The transforms, count and target name of a call behind the name of its element.
-/
def fields? (key : String) : Markup.Reader (String × Option String × String) :=
  Markup.pair (Markup.attribute? "transforms")
    (Markup.optionalThen "count" (Markup.before "/>\n" (Markup.attribute? key)))

/-- The call with the given fields. -/
def ofFields
    (target : String → Target)
    (fields : String × Option String × String) : Call where
  target := target fields.2.2
  transforms := fields.1
  count := fields.2.1.map Numeral.mk

/-- The call at the front of a text. -/
def ofMarkup? : Markup.Reader Call := fun text =>
  match Markup.behind "    <call" (fields? "rule") text with
  | some found => some (ofFields .rule found.1, found.2)
  | none =>
      (Markup.behind "    <instance" (fields? "shape") text).map fun found =>
        (ofFields .shape found.1, found.2)

/-- The text of a call behind the name of its element. -/
def fieldsText
    (key : String)
    (fields : String × Option String × String) : List Char :=
  (Markup.attributeText ("transforms", fields.1)).toList ++
    (Markup.optionalText "count" fields.2.1 ++
      ((Markup.attributeText (key, fields.2.2)).toList ++ "/>\n".toList))

/-- The fields of a call are read exactly as they are written. -/
theorem reads_fields
    {key : String}
    (apart : ∀ value rest,
      Markup.attribute? "count"
        ((Markup.attributeText (key, value)).toList ++ rest) = none) :
    Markup.Reads (fields? key) (fieldsText key) := by
  have further : ∀ value rest, Markup.attribute? "count"
      ((Markup.attributeText (key, value)).toList ++ "/>\n".toList ++ rest) =
        none := by
    intro value rest
    rw [List.append_assoc]
    exact apart value _
  have named := (Markup.reads_attribute key).before "/>\n"
  -- Stated before it meets the goal, which would have its writers guessed.
  have whole :=
    (Markup.reads_attribute "transforms").pair (named.optionalThen further)
  exact whole

/-- A call of a rule is written as its fields behind the tag of calls. -/
theorem toList_markup_ofFields_rule (fields : String × Option String × String) :
    (ofFields .rule fields).markup.toList =
      "    <call".toList ++ fieldsText "rule" fields := by
  simp [markup, ofFields, fieldsText, Markup.tag, Markup.optionalText,
    Function.comp_def]

/-- A call of a shape is written as its fields behind the tag of instances. -/
theorem toList_markup_ofFields_shape
    (fields : String × Option String × String) :
    (ofFields .shape fields).markup.toList =
      "    <instance".toList ++ fieldsText "shape" fields := by
  simp [markup, ofFields, fieldsText, Markup.tag, Markup.optionalText,
    Function.comp_def]

/-- Every call is made of its fields. -/
theorem exists_eq_ofFields (call : Call) :
    (∃ fields, call = ofFields .rule fields) ∨ ∃ fields,
      call = ofFields .shape fields := by
  obtain ⟨target, transforms, count⟩ := call
  cases target with
  | rule name =>
      exact .inl ⟨(transforms, count.map Numeral.text, name), by
        simp [ofFields, Function.comp_def]⟩
  | shape name =>
      exact .inr ⟨(transforms, count.map Numeral.text, name), by
        simp [ofFields, Function.comp_def]⟩

theorem reads_ruleFields : Markup.Reads (fields? "rule") (fieldsText "rule") :=
  reads_fields (Markup.attribute?_of_other fun _ => rfl)

theorem reads_shapeFields :
    Markup.Reads (fields? "shape") (fieldsText "shape") :=
  reads_fields (Markup.attribute?_of_other fun _ => rfl)

/-- The reader of calls reads exactly the markup of calls. -/
theorem reads_markup :
    Markup.Reads ofMarkup? fun call => call.markup.toList where
  sound := by
    intro text call rest read
    unfold ofMarkup? at read
    split at read
    · next found isRule =>
        cases read
        rw [toList_markup_ofFields_rule]
        exact (reads_ruleFields.behind "    <call").sound isRule
    · obtain ⟨found, isShape, same⟩ := Option.map_eq_some_iff.mp read
      cases same
      rw [toList_markup_ofFields_shape]
      exact (reads_shapeFields.behind "    <instance").sound isShape
  complete := by
    intro call rest
    rcases exists_eq_ofFields call with ⟨fields, rfl⟩ | ⟨fields, rfl⟩
    · have read := (reads_ruleFields.behind "    <call").complete fields rest
      rw [toList_markup_ofFields_rule, ofMarkup?, read]
    · have read :=
        (reads_shapeFields.behind "    <instance").complete fields rest
      have noRule : "    <call".toList.isPrefixOf?
          ("    <instance".toList ++ fieldsText "shape" fields ++ rest) =
            none := rfl
      rw [toList_markup_ofFields_shape, ofMarkup?, Markup.behind_eq_none noRule]
      dsimp only
      rw [read, Option.map_some]

/-- The end of a rule is no call. -/
theorem ofMarkup?_closing (rest : List Char) :
    ofMarkup? ("  </rule>\n".toList ++ rest) = none := by
  rw [ofMarkup?, Markup.behind_eq_none rfl, Markup.behind_eq_none rfl]
  rfl

end Call

/-! Rules. -/

namespace Rule

/-- The fields of a rule: its name, weight, depth limit, successor and calls. -/
abbrev Fields :=
  String × Option String × Option String × Option String × List Call

/-- The fields of a rule behind the name of its element. -/
def fields? : Markup.Reader Fields :=
  Markup.pair (Markup.attribute? "name")
    (Markup.optionalThen "weight" (Markup.optionalThen "max_depth"
      (Markup.optionalThen "successor"
          (Markup.content? Call.ofMarkup? "  </rule>\n"))))

/-- The rule with the given fields. -/
def ofFields (fields : Fields) : Rule where
  name := fields.1
  weight := fields.2.1.map Numeral.mk
  maxDepth := fields.2.2.1.map Numeral.mk
  successor := fields.2.2.2.1
  calls := fields.2.2.2.2

/-- The rule at the front of a text. -/
def ofMarkup? : Markup.Reader Rule := fun text =>
  (Markup.behind "  <rule" fields? text).map fun found =>
    (ofFields found.1, found.2)

/-- The text of a rule behind the name of its element. -/
def fieldsText (fields : Fields) : List Char :=
  (Markup.attributeText ("name", fields.1)).toList ++
    (Markup.optionalText "weight" fields.2.1 ++
      (Markup.optionalText "max_depth" fields.2.2.1 ++
        (Markup.optionalText "successor" fields.2.2.2.1 ++
          Markup.contentText
            (fun call : Call => call.markup.toList) "  </rule>\n"
            fields.2.2.2.2)))

/-- The calls of a rule are read exactly as they are written. -/
theorem reads_calls :
    Markup.Reads (Markup.content? Call.ofMarkup? "  </rule>\n")
      (Markup.contentText
        (fun call : Call => call.markup.toList) "  </rule>\n") := by
  refine Markup.reads_content Call.reads_markup ?_ Call.ofMarkup?_closing
  intro call
  simp [Call.markup]

/-- The fields of a rule are read exactly as they are written. -/
theorem reads_fields : Markup.Reads fields? fieldsText := by
  have noSuccessor :
      ∀ calls rest, Markup.attribute? "successor" (Markup.contentText
      (fun call : Call => call.markup.toList) "  </rule>\n" calls ++ rest) =
        none :=
    Markup.attribute?_of_content "successor" _ _
  have succeeded := reads_calls.optionalThen noSuccessor
  have noDepth :
      ∀ (items : Option String × List Call) rest, Markup.attribute? "max_depth"
      (Markup.optionalText "successor" items.1 ++ Markup.contentText
        (fun call : Call => call.markup.toList) "  </rule>\n" items.2 ++ rest) =
          none := by
    intro items rest
    rw [List.append_assoc]
    exact Markup.attribute?_of_optional (fun _ => rfl) items.1
      (Markup.attribute?_of_content _ _ _ items.2 rest)
  have limited := succeeded.optionalThen noDepth
  have noWeight : ∀ (items : Option String × Option String × List Call) rest,
      Markup.attribute? "weight" (Markup.optionalText "max_depth" items.1 ++
        (Markup.optionalText "successor" items.2.1 ++ Markup.contentText
          (fun call : Call => call.markup.toList) "  </rule>\n" items.2.2) ++
            rest) = none := by
    intro items rest
    rw [List.append_assoc, List.append_assoc]
    exact Markup.attribute?_of_optional (fun _ => rfl) items.1
      (Markup.attribute?_of_optional (fun _ => rfl) items.2.1
        (Markup.attribute?_of_content _ _ _ items.2.2 rest))
  have whole :=
    (Markup.reads_attribute "name").pair (limited.optionalThen noWeight)
  exact whole

theorem toList_markup_ofFields (fields : Fields) :
    (ofFields fields).markup.toList =
      "  <rule".toList ++ fieldsText fields := by
  have front : (Markup.tag "rule" (("name", fields.1) ::
      (Markup.optional "weight" fields.2.1 ++
        Markup.optional "max_depth" fields.2.2.1 ++
        Markup.optional "successor" fields.2.2.2.1))).toList =
      "<rule".toList ++ ((Markup.attributeText ("name", fields.1)).toList ++
        (Markup.optionalText "weight" fields.2.1 ++
          (Markup.optionalText "max_depth" fields.2.2.1 ++
            Markup.optionalText "successor" fields.2.2.2.1))) := by
    simp [Markup.tag, Markup.optionalText]
  have numerals (value : Option String) :
      (value.map Numeral.mk).map Numeral.text = value := by
    simp [Function.comp_def]
  simp only [markup, ofFields, numerals]
  split <;>
    simp_all [fieldsText, Markup.contentText, List.flatMap_map]

/-- Every rule is made of its fields. -/
theorem exists_eq_ofFields (rule : Rule) :
    ∃ fields, rule = ofFields fields :=
  ⟨(rule.name, rule.weight.map Numeral.text, rule.maxDepth.map Numeral.text,
      rule.successor, rule.calls),
    by simp [ofFields, Function.comp_def]⟩

/-- The reader of rules reads exactly the markup of rules. -/
theorem reads_markup :
    Markup.Reads ofMarkup? fun rule => rule.markup.toList where
  sound := by
    intro text rule rest read
    obtain ⟨found, isRule, same⟩ := Option.map_eq_some_iff.mp read
    cases same
    rw [toList_markup_ofFields]
    exact (reads_fields.behind "  <rule").sound isRule
  complete := by
    intro rule rest
    obtain ⟨fields, rfl⟩ := exists_eq_ofFields rule
    rw [toList_markup_ofFields, ofMarkup?,
      (reads_fields.behind "  <rule").complete, Option.map_some]

/-- The end of the rules is no rule. -/
theorem ofMarkup?_closing (rest : List Char) :
    ofMarkup? ("</rules>\n".toList ++ rest) = none := by
  rw [ofMarkup?, Markup.behind_eq_none rfl, Option.map_none]

end Rule

/-! Rule sets. -/

namespace RuleSet

/-- The rule set of a document. -/
def ofMarkup? (document : String) : Option RuleSet :=
  (Markup.behind "<?xml version=\"1.0\" ?>\n<rules"
      (Markup.pair (Markup.attribute? "max_depth")
        (Markup.content? Rule.ofMarkup? "</rules>\n")) document.toList).bind
        fun found =>
    if found.2.isEmpty then
      some { maxDepth := ⟨found.1.1⟩, rules := found.1.2 }
    else
      none

/-- A rule set is written as its depth limit and its rules. -/
theorem toList_markup (ruleSet : RuleSet) :
    ruleSet.markup.toList = "<?xml version=\"1.0\" ?>\n<rules".toList ++
      ((Markup.attributeText ("max_depth", ruleSet.maxDepth.text)).toList ++
        Markup.contentText (fun rule : Rule => rule.markup.toList) "</rules>\n"
          ruleSet.rules) := by
  unfold markup
  split <;>
    simp_all [Markup.contentText, Markup.tag, List.flatMap_map]

/-- The rules of a rule set are read exactly as they are written. -/
theorem reads_rules :
    Markup.Reads (Markup.content? Rule.ofMarkup? "</rules>\n")
      (Markup.contentText
        (fun rule : Rule => rule.markup.toList) "</rules>\n") := by
  refine Markup.reads_content Rule.reads_markup ?_ Rule.ofMarkup?_closing
  intro rule
  obtain ⟨fields, rfl⟩ := Rule.exists_eq_ofFields rule
  simp [Rule.toList_markup_ofFields]

/-- The reader accepts the documents of rule sets and nothing else. -/
theorem ofMarkup?_eq_some_iff
    {document : String}
    {ruleSet : RuleSet} :
    ofMarkup? document = some ruleSet ↔ document = ruleSet.markup := by
  have reads := ((Markup.reads_attribute "max_depth").pair reads_rules).behind
    "<?xml version=\"1.0\" ?>\n<rules"
  rw [← String.toList_inj, toList_markup]
  constructor
  · intro read
    obtain ⟨found, isDocument, read⟩ := Option.bind_eq_some_iff.mp read
    split at read
    · next ended =>
        cases read
        have whole := reads.sound isDocument
        rwa [List.isEmpty_iff.mp ended, List.append_nil] at whole
    · cases read
  · intro written
    have read := reads.complete (ruleSet.maxDepth.text, ruleSet.rules) []
    rw [List.append_nil] at read
    rw [ofMarkup?, written, read]
    rfl

/--
The document of a rule set determines it, down to the spelling of its numerals:
a reader of the layout that undoes the escapes recovers every rule set from its
document, and reads no other text.
-/
theorem markup_determines_ruleSet :
    Function.Injective RuleSet.markup ∧
      ∀ document ruleSet, ofMarkup? document = some ruleSet ↔
        document = ruleSet.markup := by
  refine ⟨fun left right same => ?_, fun _ _ => ofMarkup?_eq_some_iff⟩
  have read : ofMarkup? left.markup = some right :=
    ofMarkup?_eq_some_iff.mpr same
  rw [ofMarkup?_eq_some_iff.mpr rfl] at read
  exact Option.some.inj read

end RuleSet

end Eisen
