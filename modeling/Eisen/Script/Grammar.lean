import Eisen.Script.Scan
import Eisen.Script.Tree

namespace Eisen.Script

/-!
# From tokens to scripts

Each function reads one phrase at the front of a token list and returns the
tokens behind it. A phrase takes at least one token unless it can be empty, so
every repetition ends; the small length lemmas beside the functions say so.
-/

/-- The fault of finding a token where something else is due. -/
def Token.unexpected
    (token : Token)
    (expected : Expected) : Fault :=
  .unexpected token.place expected token.lexeme

/-- Whether a token is a word that equals a keyword up to case. -/
def Token.isKeyword
    (token : Token)
    (keyword : String) : Bool :=
  match token.lexeme with
  | .word text => Text.sameLetters text keyword
  | _ => false

/-- Take a given lexeme. -/
def takeLexeme
    (lexeme : Lexeme)
    (expected : Expected) :
    List Token → Except Fault (List Token)
  | [] => .error (.unexpectedEnd expected)
  | token :: rest =>
      if token.lexeme = lexeme then
        .ok rest
      else
        .error (token.unexpected expected)

/-- Take a number and return its text. -/
def takeNumber
    (expected : Expected) :
    List Token → Except Fault (String × List Token)
  | [] => .error (.unexpectedEnd expected)
  | token :: rest =>
      match token.lexeme with
      | .number text => .ok (text, rest)
      | _ => .error (token.unexpected expected)

/-- Take a word and return it with its token. -/
def takeWord
    (expected : Expected) :
    List Token → Except Fault ((String × Token) × List Token)
  | [] => .error (.unexpectedEnd expected)
  | token :: rest =>
      match token.lexeme with
      | .word text => .ok ((text, token), rest)
      | _ => .error (token.unexpected expected)

/-- Take a word that is a rule name. -/
def takeRuleName
    (expected : Expected)
    (tokens : List Token) :
    Except Fault (String × List Token) :=
  match takeWord expected tokens with
  | .error fault => .error fault
  | .ok ((name, token), rest) =>
      if isRuleName name then
        .ok (name, rest)
      else
        .error (token.unexpected expected)

/-- The numbers at the front of a token list. -/
def numbers : List Token → List String × List Token
  | [] => ([], [])
  | token :: rest =>
      match token.lexeme with
      | .number text =>
          let (more, behind) := numbers rest
          (text :: more, behind)
      | _ => ([], token :: rest)

/-- The operators inside a loop block. -/
inductive Operator where
  /-- A geometric transformation with one or more numbers. -/
  | geometric (kind : TransformKind)
  /--
  A colour operator with one or more numbers; it has no geometric meaning.
  -/
  | shading
  /-- A colour value. -/
  | colour
  /-- A colour value with a strength. -/
  | blend
  deriving Repr, DecidableEq

/-- The keywords of the colour operators that take numbers. -/
def shadingKeywords : List String :=
  ["h", "hue", "sat", "b", "brightness", "a", "alpha", "m"]

/-- The operator with a given lower-case keyword. -/
def Operator.ofKeyword? (word : String) : Option Operator :=
  match TransformKind.ofKeyword? word with
  | some kind => some (.geometric kind)
  | none =>
      if shadingKeywords.contains word then
        some .shading
      else if word == "color" then
        some .colour
      else if word == "blend" then
        some .blend
      else
        none

/-- One number for an operator, then all that follow it. -/
def operatorNumbers
    (keyword : String)
    (tokens : List Token) :
    Except Fault (List String × List Token) :=
  match takeNumber (.valueFor keyword) tokens with
  | .error fault => .error fault
  | .ok (first, rest) =>
      .ok (first :: (numbers rest).1, (numbers rest).2)

/-- Take a colour value, a word or a number. -/
def takeColour : List Token → Except Fault (List Token)
  | [] => .error (.unexpectedEnd .colourValue)
  | token :: rest =>
      match token.lexeme with
      | .word _ => .ok rest
      | .number _ => .ok rest
      | _ => .error (token.unexpected .colourValue)

/-- The operands of an operator; only geometric ones are kept. -/
def operands
    (keyword : String)
    (tokens : List Token) :
    Operator → Except Fault (List Transform × List Token)
  | .geometric kind =>
      match operatorNumbers keyword tokens with
      | .error fault => .error fault
      | .ok (values, rest) => .ok ([⟨kind, values⟩], rest)
  | .shading =>
      match operatorNumbers keyword tokens with
      | .error fault => .error fault
      | .ok (_, rest) => .ok ([], rest)
  | .colour =>
      match takeColour tokens with
      | .error fault => .error fault
      | .ok rest => .ok ([], rest)
  | .blend =>
      match takeColour tokens with
      | .error fault => .error fault
      | .ok rest =>
          match takeNumber .blendStrength rest with
          | .error fault => .error fault
          | .ok (_, behind) => .ok ([], behind)

/-- Taking a lexeme shortens the tokens. -/
theorem takeLexeme_length
    {lexeme : Lexeme}
    {expected : Expected}
    {tokens rest : List Token}
    (taken : takeLexeme lexeme expected tokens = .ok rest) :
    rest.length < tokens.length := by
  cases tokens with
  | nil => simp [takeLexeme] at taken
  | cons token behind =>
      simp only [takeLexeme] at taken
      split at taken
      · cases taken
        simp
      · cases taken

/-- Taking a number shortens the tokens. -/
theorem takeNumber_length
    {expected : Expected}
    {tokens rest : List Token}
    {text : String}
    (taken : takeNumber expected tokens = .ok (text, rest)) :
    rest.length < tokens.length := by
  cases tokens with
  | nil => simp [takeNumber] at taken
  | cons token behind =>
      simp only [takeNumber] at taken
      split at taken
      · cases taken
        simp
      · cases taken

/-- Taking a word shortens the tokens. -/
theorem takeWord_length
    {expected : Expected}
    {tokens rest : List Token}
    {found : String × Token}
    (taken : takeWord expected tokens = .ok (found, rest)) :
    rest.length < tokens.length := by
  cases tokens with
  | nil => simp [takeWord] at taken
  | cons token behind =>
      simp only [takeWord] at taken
      split at taken
      · cases taken
        simp
      · cases taken

/-- Taking a rule name shortens the tokens. -/
theorem takeRuleName_length
    {expected : Expected}
    {tokens rest : List Token}
    {name : String}
    (taken : takeRuleName expected tokens = .ok (name, rest)) :
    rest.length < tokens.length := by
  unfold takeRuleName at taken
  split at taken
  · cases taken
  · rename_i word token behind found
    split at taken
    · cases taken
      exact takeWord_length found
    · cases taken

/-- Numbers never lengthen the tokens. -/
theorem numbers_length
    (tokens : List Token) :
    (numbers tokens).2.length ≤ tokens.length := by
  induction tokens with
  | nil => simp [numbers]
  | cons token rest inductionHypothesis =>
      simp only [numbers]
      split
      · simp only [List.length_cons]
        omega
      · simp

/-- The numbers of an operator shorten the tokens. -/
theorem operatorNumbers_length
    {keyword : String}
    {tokens rest : List Token}
    {values : List String}
    (taken : operatorNumbers keyword tokens = .ok (values, rest)) :
    rest.length < tokens.length := by
  unfold operatorNumbers at taken
  split at taken
  · cases taken
  · rename_i first behind found
    cases taken
    exact Nat.lt_of_le_of_lt (numbers_length behind) (takeNumber_length found)

/-- Taking a colour value shortens the tokens. -/
theorem takeColour_length
    {tokens rest : List Token}
    (taken : takeColour tokens = .ok rest) :
    rest.length < tokens.length := by
  cases tokens with
  | nil => simp [takeColour] at taken
  | cons token behind =>
      simp only [takeColour] at taken
      split at taken <;> cases taken <;> simp

/-- The operands of an operator shorten the tokens. -/
theorem operands_length
    {keyword : String}
    {tokens rest : List Token}
    {operator : Operator}
    {kept : List Transform}
    (taken : operands keyword tokens operator = .ok (kept, rest)) :
    rest.length < tokens.length := by
  cases operator with
  | geometric kind =>
      simp only [operands] at taken
      split at taken <;> cases taken
      exact operatorNumbers_length ‹_›
  | shading =>
      simp only [operands] at taken
      split at taken <;> cases taken
      exact operatorNumbers_length ‹_›
  | colour =>
      simp only [operands] at taken
      split at taken <;> cases taken
      exact takeColour_length ‹_›
  | blend =>
      simp only [operands] at taken
      split at taken
      · cases taken
      · rename_i behind colour
        split at taken <;> cases taken
        exact Nat.lt_trans (takeNumber_length ‹_›) (takeColour_length colour)

/-- The transformations of a loop block, up to and with its closing brace. -/
def transforms : List Token → Except Fault (List Transform × List Token)
  | [] => .error (.unexpectedEnd .transformOrClose)
  | token :: rest =>
      match token.lexeme with
      | .closeBrace => .ok ([], rest)
      | .word text =>
          match Operator.ofKeyword? (Text.lower text) with
          | none => .error (.unknownTransform token.place (Text.lower text))
          | some operator =>
              match _ : operands (Text.lower text) rest operator with
              | .error fault => .error fault
              | .ok (kept, behind) =>
                  match transforms behind with
                  | .error fault => .error fault
                  | .ok (more, after) => .ok (kept ++ more, after)
      | _ => .error (token.unexpected .transformOrClose)
termination_by tokens => tokens.length
decreasing_by
  have shorter := operands_length ‹_›
  simp only [List.length_cons]
  omega

/-- A loop block shortens the tokens. -/
theorem transforms_length
    {tokens rest : List Token}
    {found : List Transform}
    (taken : transforms tokens = .ok (found, rest)) :
    rest.length < tokens.length := by
  fun_induction transforms tokens generalizing found rest with
  | case1 => cases taken
  | case2 token behind closes =>
      cases taken
      simp
  | case3 => cases taken
  | case4 => cases taken
  | case5 => cases taken
  | case6 token behind text word operator known kept after operandsTaken
      more remaining read inductionHypothesis =>
      cases taken
      have first := operands_length operandsTaken
      have later := inductionHypothesis read
      simp only [List.length_cons]
      omega
  | case7 => cases taken

/-- A loop block with its braces. -/
def block
    (count : Option String)
    (tokens : List Token) :
    Except Fault (Loop × List Token) :=
  match takeLexeme .openBrace .openBrace tokens with
  | .error fault => .error fault
  | .ok rest =>
      match transforms rest with
      | .error fault => .error fault
      | .ok (found, behind) => .ok (⟨count, found⟩, behind)

/-- A loop block shortens the tokens. -/
theorem block_length
    {count : Option String}
    {tokens rest : List Token}
    {found : Loop}
    (taken : block count tokens = .ok (found, rest)) :
    rest.length < tokens.length := by
  unfold block at taken
  split at taken
  · cases taken
  · rename_i behind opened
    split at taken <;> cases taken
    exact Nat.lt_trans (transforms_length ‹_›) (takeLexeme_length opened)

/-- The loop at the front of the tokens, if one starts there. -/
def loopAhead : List Token → Except Fault (Option (Loop × List Token))
  | [] => .ok none
  | token :: rest =>
      match token.lexeme with
      | .openBrace =>
          match block none (token :: rest) with
          | .error fault => .error fault
          | .ok found => .ok (some found)
      | .number count =>
          match takeLexeme .star .starAfterCount rest with
          | .error fault => .error fault
          | .ok behind =>
              match block (some count) behind with
              | .error fault => .error fault
              | .ok found => .ok (some found)
      | _ => .ok none

/-- A loop shortens the tokens. -/
theorem loopAhead_length
    {tokens rest : List Token}
    {found : Loop}
    (taken : loopAhead tokens = .ok (some (found, rest))) :
    rest.length < tokens.length := by
  cases tokens with
  | nil => simp [loopAhead] at taken
  | cons token behind =>
      simp only [loopAhead] at taken
      split at taken
      · split at taken <;> cases taken
        exact block_length ‹_›
      · split at taken
        · cases taken
        · rename_i after starred
          split at taken <;> cases taken
          have star := takeLexeme_length starred
          have inner := block_length ‹_›
          simp only [List.length_cons]
          omega
      · cases taken

/-- The chain of loops in front of a target. -/
def loops (tokens : List Token) : Except Fault (List Loop × List Token) :=
  match _ : loopAhead tokens with
  | .error fault => .error fault
  | .ok none => .ok ([], tokens)
  | .ok (some (first, rest)) =>
      match loops rest with
      | .error fault => .error fault
      | .ok (more, behind) => .ok (first :: more, behind)
termination_by tokens.length
decreasing_by exact loopAhead_length ‹_›

/-- A chain of loops never lengthens the tokens. -/
theorem loops_length
    {tokens rest : List Token}
    {found : List Loop}
    (taken : loops tokens = .ok (found, rest)) :
    rest.length ≤ tokens.length := by
  fun_induction loops tokens generalizing found rest with
  | case1 => cases taken
  | case2 =>
      cases taken
      exact Nat.le_refl _
  | case3 => cases taken
  | case4 tokens first behind ahead more after read inductionHypothesis =>
      cases taken
      have shorter := loopAhead_length ahead
      have later := inductionHypothesis read
      omega

/-- The rule or shape that a call names. -/
def target (tokens : List Token) : Except Fault (Target × List Token) :=
  match takeWord .target tokens with
  | .error fault => .error fault
  | .ok ((word, token), rest) =>
      match canonicalShape? word with
      | some shape => .ok (.shape shape, rest)
      | none =>
          if isRuleName word then
            .ok (.rule word, rest)
          else
            .error (token.unexpected .target)

/-- A target shortens the tokens. -/
theorem target_length
    {tokens rest : List Token}
    {found : Target}
    (taken : target tokens = .ok (found, rest)) :
    rest.length < tokens.length := by
  unfold target at taken
  split at taken
  · cases taken
  · rename_i word token behind read
    split at taken
    · cases taken
      exact takeWord_length read
    · split at taken <;> cases taken
      exact takeWord_length read

/-- The line of the first token. -/
def firstLine : List Token → Nat
  | [] => 0
  | token :: _ => token.place.line

/-- A call: loops, then a target. -/
def call (tokens : List Token) : Except Fault (CallSite × List Token) :=
  match loops tokens with
  | .error fault => .error fault
  | .ok (chain, rest) =>
      match target rest with
      | .error fault => .error fault
      | .ok (found, behind) => .ok (⟨chain, found, firstLine tokens⟩, behind)

/-- A call shortens the tokens. -/
theorem call_length
    {tokens rest : List Token}
    {found : CallSite}
    (taken : call tokens = .ok (found, rest)) :
    rest.length < tokens.length := by
  unfold call at taken
  split at taken
  · cases taken
  · rename_i chain behind read
    split at taken <;> cases taken
    exact Nat.lt_of_lt_of_le (target_length ‹_›) (loops_length read)

/-- The calls of a rule body, up to and with its closing brace. -/
def body
    (rule : String) :
    List Token → Except Fault (List CallSite × List Token)
  | [] => .error (.unexpectedEnd (.ruleEnd rule))
  | token :: rest =>
      if token.lexeme = .closeBrace then
        .ok ([], rest)
      else
        match _ : call (token :: rest) with
        | .error fault => .error fault
        | .ok (first, behind) =>
            match body rule behind with
            | .error fault => .error fault
            | .ok (more, after) => .ok (first :: more, after)
termination_by tokens => tokens.length
decreasing_by exact call_length ‹_›

/-- A rule body shortens the tokens. -/
theorem body_length
    {rule : String}
    {tokens rest : List Token}
    {found : List CallSite}
    (taken : body rule tokens = .ok (found, rest)) :
    rest.length < tokens.length := by
  fun_induction body rule tokens generalizing found rest with
  | case1 => cases taken
  | case2 =>
      cases taken
      simp
  | case3 => cases taken
  | case4 => cases taken
  | case5 token behind open_ first after read more remaining later
    inductionHypothesis =>
      cases taken
      have shorter := call_length read
      have inner := inductionHypothesis later
      omega

/-- The value of a depth modifier and the successor that may follow it. -/
def depthModifier
    (tokens : List Token) :
    Except Fault ((String × Option String) × List Token) :=
  match takeNumber .maxDepthValue tokens with
  | .error fault => .error fault
  | .ok (depth, rest) =>
      match takeLexeme .greater .successorName rest with
      | .error _ => .ok ((depth, none), rest)
      | .ok behind =>
          match takeRuleName .successorName behind with
          | .error fault => .error fault
          | .ok (successor, after) => .ok ((depth, some successor), after)

/-- A depth modifier shortens the tokens. -/
theorem depthModifier_length
    {tokens rest : List Token}
    {found : String × Option String}
    (taken : depthModifier tokens = .ok (found, rest)) :
    rest.length < tokens.length := by
  unfold depthModifier at taken
  split at taken
  · cases taken
  · rename_i depth behind read
    have shorter := takeNumber_length read
    split at taken
    · cases taken
      exact shorter
    · rename_i after marked
      have mark := takeLexeme_length marked
      split at taken <;> cases taken
      have name := takeRuleName_length ‹_›
      omega

/-- The modifiers of a rule, up to the brace that opens its body. -/
def modifiers
    (definition : RuleDefinition) :
    List Token → Except Fault (RuleDefinition × List Token)
  | [] => .error (.unexpectedEnd .openBrace)
  | token :: rest =>
      if token.isKeyword "md" || token.isKeyword "maxdepth" then
        if definition.maxDepth.isSome then
          .error (.duplicateModifier definition.line definition.name .maxDepth)
        else
          match _ : depthModifier rest with
          | .error fault => .error fault
          | .ok ((depth, successor), behind) =>
              modifiers
                { definition with
                  maxDepth := some depth
                  successor := successor }
                behind
      else if token.isKeyword "w" || token.isKeyword "weight" then
        if definition.weight.isSome then
          .error (.duplicateModifier definition.line definition.name .weight)
        else
          match _ : takeNumber .weightValue rest with
          | .error fault => .error fault
          | .ok (weight, behind) =>
              modifiers { definition with weight := some weight } behind
      else
        .ok (definition, token :: rest)
termination_by tokens => tokens.length
decreasing_by
  · have shorter := depthModifier_length ‹_›
    simp only [List.length_cons]
    omega
  · have shorter := takeNumber_length ‹_›
    simp only [List.length_cons]
    omega

/-- Modifiers never lengthen the tokens. -/
theorem modifiers_length
    {definition found : RuleDefinition}
    {tokens rest : List Token}
    (taken : modifiers definition tokens = .ok (found, rest)) :
    rest.length ≤ tokens.length := by
  fun_induction modifiers definition tokens generalizing found rest with
  | case1 => cases taken
  | case2 => cases taken
  | case3 => cases taken
  | case4 definition token behind keyword fresh depth successor after read
      inductionHypothesis =>
      have shorter := depthModifier_length read
      have later := inductionHypothesis taken
      simp only [List.length_cons]
      omega
  | case5 => cases taken
  | case6 => cases taken
  | case7 definition token behind depthKeyword keyword fresh weight after read
      inductionHypothesis =>
      have shorter := takeNumber_length read
      have later := inductionHypothesis taken
      simp only [List.length_cons]
      omega
  | case8 =>
      cases taken
      exact Nat.le_refl _

/-- A rule definition behind its keyword, which stands on the given line. -/
def rule
    (line : Nat)
    (tokens : List Token) :
    Except Fault (RuleDefinition × List Token) :=
  match takeRuleName .ruleName tokens with
  | .error fault => .error fault
  | .ok (name, rest) =>
      match modifiers ⟨name, none, none, none, [], line⟩ rest with
      | .error fault => .error fault
      | .ok (definition, behind) =>
          match takeLexeme .openBrace .openBrace behind with
          | .error fault => .error fault
          | .ok inside =>
              match body name inside with
              | .error fault => .error fault
              | .ok (calls, after) =>
                  .ok ({ definition with body := calls }, after)

/-- A rule definition shortens the tokens. -/
theorem rule_length
    {line : Nat}
    {tokens rest : List Token}
    {found : RuleDefinition}
    (taken : rule line tokens = .ok (found, rest)) :
    rest.length < tokens.length := by
  unfold rule at taken
  split at taken
  · cases taken
  · rename_i name behind named
    have first := takeRuleName_length named
    split at taken
    · cases taken
    · rename_i definition after modified
      have second := modifiers_length modified
      split at taken
      · cases taken
      · rename_i inside opened
        have third := takeLexeme_length opened
        split at taken <;> cases taken
        have fourth := body_length ‹_›
        omega

/-- A `set` directive behind its keyword; only the depth limit can be set. -/
def setting (tokens : List Token) : Except Fault (String × List Token) :=
  match takeWord .settingName tokens with
  | .error fault => .error fault
  | .ok ((key, token), rest) =>
      if Text.sameLetters key "maxdepth" || Text.sameLetters key "md" then
        takeNumber .maxDepthValue rest
      else
        .error (.unknownSetting token.place.line key)

/-- A setting shortens the tokens. -/
theorem setting_length
    {tokens rest : List Token}
    {found : String}
    (taken : setting tokens = .ok (found, rest)) :
    rest.length < tokens.length := by
  unfold setting at taken
  split at taken
  · cases taken
  · rename_i key token behind read
    split at taken
    · exact Nat.lt_trans (takeNumber_length taken) (takeWord_length read)
    · cases taken

/-- What a script consists of. -/
inductive Item where
  | maxDepth (value : String)
  | rule (definition : RuleDefinition)
  | call (site : CallSite)
  deriving Repr, DecidableEq

/-- One item of a script. -/
def item
    (token : Token)
    (rest : List Token) :
    Except Fault (Item × List Token) :=
  if token.isKeyword "set" then
    match setting rest with
    | .error fault => .error fault
    | .ok (value, behind) => .ok (.maxDepth value, behind)
  else if token.isKeyword "rule" then
    match rule token.place.line rest with
    | .error fault => .error fault
    | .ok (definition, behind) => .ok (.rule definition, behind)
  else
    match call (token :: rest) with
    | .error fault => .error fault
    | .ok (site, behind) => .ok (.call site, behind)

/-- An item shortens the tokens. -/
theorem item_length
    {token : Token}
    {rest behind : List Token}
    {found : Item}
    (taken : item token rest = .ok (found, behind)) :
    behind.length < (token :: rest).length := by
  unfold item at taken
  split at taken
  · split at taken <;> cases taken
    have shorter := setting_length ‹_›
    simp only [List.length_cons]
    omega
  · split at taken
    · split at taken <;> cases taken
      have shorter := rule_length ‹_›
      simp only [List.length_cons]
      omega
    · split at taken <;> cases taken
      exact call_length ‹_›

/-- The items of a whole token list. -/
def items : List Token → Except Fault (List Item)
  | [] => .ok []
  | token :: rest =>
      match _ : item token rest with
      | .error fault => .error fault
      | .ok (first, behind) =>
          match items behind with
          | .error fault => .error fault
          | .ok more => .ok (first :: more)
termination_by tokens => tokens.length
decreasing_by exact item_length ‹_›

namespace Item

/-- The depth limit an item sets. -/
def maxDepth? : Item → Option String
  | .maxDepth value => some value
  | _ => none

/-- The rule an item defines. -/
def rule? : Item → Option RuleDefinition
  | .rule definition => some definition
  | _ => none

/-- The entry call an item makes. -/
def call? : Item → Option CallSite
  | .call site => some site
  | _ => none

end Item

/-- The script made of some items; the last depth limit counts. -/
def ofItems (parts : List Item) : Script where
  maxDepth := (parts.filterMap Item.maxDepth?).getLast?
  entry := parts.filterMap Item.call?
  rules := parts.filterMap Item.rule?

/-- The script written by a token list; it must make an entry call. -/
def ofTokens (written : List Token) : Except Fault Script :=
  match items written with
  | .error fault => .error fault
  | .ok parts =>
      if (ofItems parts).entry.isEmpty then
        .error .emptyEntry
      else
        .ok (ofItems parts)

/-- The script written by a source text. -/
def ofSource (source : String) : Except Fault Script :=
  match tokens source with
  | .error fault => .error fault
  | .ok written => ofTokens written

end Eisen.Script
