import Eisen.Script.Grammar

namespace Eisen.Script

/-!
# The phrases of scripts

The grammar of scripts, stated without any reading order: a relation for each
kind of phrase says which token lists write it and what they write. A relation
speaks about the tokens of the phrase only, never about what follows them.

```text
script   = (setting | rule | call)*          with at least one call
setting  = "set" ("maxdepth" | "md") NUMBER
rule     = "rule" NAME modifiers "{" call* "}"
modifiers: at most one depth and at most one weight, in any order
depth    = ("md" | "maxdepth") NUMBER (">" NAME)?
weight   = ("w" | "weight") NUMBER
call     = loop* TARGET
loop     = (NUMBER "*")? "{" group* "}"
group    = transformation NUMBER+ | shading NUMBER+
         | "color" VALUE | "blend" VALUE NUMBER
```
-/

/--
Some phrases of one kind, one behind the other, and what each of them writes.
-/
inductive WritesEach
    {α : Type}
    (Writes : List Token → α → Prop) :
    List Token → List α → Prop where
  | nil : WritesEach Writes [] []
  | cons
      {front behind : List Token}
      {first : α}
      {more : List α}
      (head : Writes front first)
      (tail : WritesEach Writes behind more) :
      WritesEach Writes (front ++ behind) (first :: more)

/-- A number with the given text. -/
def WritesNumber
    (token : Token)
    (text : String) : Prop :=
  token.lexeme = .number text

/-- One or more numbers with the given texts. -/
def WritesNumbers
    (written : List Token)
    (texts : List String) : Prop :=
  written.map Token.lexeme = texts.map Lexeme.number ∧ texts ≠ []

/-- A rule name. -/
def WritesName
    (token : Token)
    (name : String) : Prop :=
  token.lexeme = .word name ∧ isRuleName name = true

/-- A colour value: any word or number. -/
def WritesColour (token : Token) : Prop :=
  (∃ text, token.lexeme = .word text) ∨ ∃ text, token.lexeme = .number text

/--
A group inside a loop block: an operator with its operands. Only a geometric
operator leaves something behind.
-/
inductive WritesGroup : List Token → List Transform → Prop where
  | geometric
      {token : Token}
      {written : List Token}
      {texts : List String}
      (kind : TransformKind)
      (keyword : token.isKeyword kind.keyword = true)
      (operands : WritesNumbers written texts) :
      WritesGroup (token :: written) [⟨kind, texts⟩]
  | shading
      {token : Token}
      {written : List Token}
      {texts : List String}
      {operator : String}
      (member : operator ∈ shadingKeywords)
      (keyword : token.isKeyword operator = true)
      (operands : WritesNumbers written texts) :
      WritesGroup (token :: written) []
  | colour
      {token value : Token}
      (keyword : token.isKeyword "color" = true)
      (operand : WritesColour value) :
      WritesGroup [token, value] []
  | blend
      {token value strength : Token}
      {text : String}
      (keyword : token.isKeyword "blend" = true)
      (operand : WritesColour value)
      (number : WritesNumber strength text) :
      WritesGroup [token, value, strength] []

/--
The braces of a loop block, with the transformations of its groups in order.
-/
inductive WritesBlock : List Token → List Transform → Prop where
  | braces
      {opening closing : Token}
      {inside : List Token}
      {groups : List (List Transform)}
      (opens : opening.lexeme = .openBrace)
      (content : WritesEach WritesGroup inside groups)
      (closes : closing.lexeme = .closeBrace) :
      WritesBlock (opening :: inside ++ [closing]) groups.flatten

/-- A loop: a block that may have a count in front of it. -/
inductive WritesLoop : List Token → Loop → Prop where
  | plain
      {written : List Token}
      {transforms : List Transform}
      (block : WritesBlock written transforms) :
      WritesLoop written ⟨none, transforms⟩
  | counted
      {number star : Token}
      {written : List Token}
      {count : String}
      {transforms : List Transform}
      (counts : WritesNumber number count)
      (times : star.lexeme = .star)
      (block : WritesBlock written transforms) :
      WritesLoop (number :: star :: written) ⟨some count, transforms⟩

/-- What a call places: a shape, or else a rule. -/
inductive WritesTarget : Token → Target → Prop where
  | shape
      {token : Token}
      {word shape : String}
      (isWord : token.lexeme = .word word)
      (canonical : canonicalShape? word = some shape) :
      WritesTarget token (.shape shape)
  | rule
      {token : Token}
      {name : String}
      (noShape : canonicalShape? name = none)
      (names : WritesName token name) :
      WritesTarget token (.rule name)

/-- A call: loops, then a target. Its line is the one of its first token. -/
inductive WritesCall : List Token → CallSite → Prop where
  | site
      {front : List Token}
      {token : Token}
      {chain : List Loop}
      {target : Target}
      (loops : WritesEach WritesLoop front chain)
      (targets : WritesTarget token target) :
      WritesCall (front ++ [token])
        ⟨chain, target, firstLine (front ++ [token])⟩

/-- A depth modifier: its value, and the successor if one is named. -/
inductive WritesDepth : List Token → String × Option String → Prop where
  | plain
      {token number : Token}
      {depth : String}
      (keyword :
        token.isKeyword "md" = true ∨ token.isKeyword "maxdepth" = true)
      (value : WritesNumber number depth) :
      WritesDepth [token, number] (depth, none)
  | followed
      {token number mark name : Token}
      {depth successor : String}
      (keyword :
        token.isKeyword "md" = true ∨ token.isKeyword "maxdepth" = true)
      (value : WritesNumber number depth)
      (marks : mark.lexeme = .greater)
      (names : WritesName name successor) :
      WritesDepth [token, number, mark, name] (depth, some successor)

/-- A weight modifier. -/
inductive WritesWeight : List Token → String → Prop where
  | weight
      {token number : Token}
      {weight : String}
      (keyword : token.isKeyword "w" = true ∨ token.isKeyword "weight" = true)
      (value : WritesNumber number weight) :
      WritesWeight [token, number] weight

/-- The modifiers of a rule: each kind at most once, in any order. -/
inductive WritesModifiers :
    List Token → Option String → Option (String × Option String) → Prop where
  | none : WritesModifiers [] none none
  | weight
      {written : List Token}
      {weight : String}
      (first : WritesWeight written weight) :
      WritesModifiers written (some weight) none
  | depth
      {written : List Token}
      {depth : String × Option String}
      (first : WritesDepth written depth) :
      WritesModifiers written none (some depth)
  | weightThenDepth
      {front behind : List Token}
      {weight : String}
      {depth : String × Option String}
      (first : WritesWeight front weight)
      (second : WritesDepth behind depth) :
      WritesModifiers (front ++ behind) (some weight) (some depth)
  | depthThenWeight
      {front behind : List Token}
      {weight : String}
      {depth : String × Option String}
      (first : WritesDepth front depth)
      (second : WritesWeight behind weight) :
      WritesModifiers (front ++ behind) (some weight) (some depth)

/-- A rule definition. Its line is the one of its keyword. -/
inductive WritesRule : List Token → RuleDefinition → Prop where
  | definition
      {keyword nameToken opening closing : Token}
      {modifiers inside : List Token}
      {name : String}
      {weight : Option String}
      {depth : Option (String × Option String)}
      {calls : List CallSite}
      (isRule : keyword.isKeyword "rule" = true)
      (names : WritesName nameToken name)
      (modified : WritesModifiers modifiers weight depth)
      (opens : opening.lexeme = .openBrace)
      (body : WritesEach WritesCall inside calls)
      (closes : closing.lexeme = .closeBrace) :
      WritesRule
        (keyword :: nameToken :: (modifiers ++ opening :: inside ++ [closing]))
        { name := name
          weight := weight
          maxDepth := depth.map Prod.fst
          successor := depth.bind Prod.snd
          body := calls
          line := keyword.place.line }

/-- One item of a script. -/
inductive WritesItem : List Token → Item → Prop where
  | setting
      {keyword key number : Token}
      {value : String}
      (isSet : keyword.isKeyword "set" = true)
      (isDepth : key.isKeyword "maxdepth" = true ∨ key.isKeyword "md" = true)
      (values : WritesNumber number value) :
      WritesItem [keyword, key, number] (.maxDepth value)
  | rule
      {written : List Token}
      {definition : RuleDefinition}
      (defines : WritesRule written definition) :
      WritesItem written (.rule definition)
  | call
      {written : List Token}
      {site : CallSite}
      (calls : WritesCall written site) :
      WritesItem written (.call site)

/--
The script that some items make up. An item that follows the others is the last
call or the last rule, or it is a setting and replaces the one before it.
-/
inductive Gathers : List Item → Script → Prop where
  | nil : Gathers [] { maxDepth := none, entry := [], rules := [] }
  | setting
      {parts : List Item}
      {script : Script}
      (earlier : Gathers parts script)
      (value : String) :
      Gathers (parts ++ [.maxDepth value])
        { script with maxDepth := some value }
  | call
      {parts : List Item}
      {script : Script}
      (earlier : Gathers parts script)
      (site : CallSite) :
      Gathers (parts ++ [.call site])
        { script with entry := script.entry ++ [site] }
  | rule
      {parts : List Item}
      {script : Script}
      (earlier : Gathers parts script)
      (definition : RuleDefinition) :
      Gathers (parts ++ [.rule definition])
        { script with rules := script.rules ++ [definition] }

/--
A script: items in any interleaving, at least one of them a call. The last
setting counts, and calls and rules each keep their order.
-/
inductive WritesScript : List Token → Script → Prop where
  | script
      {written : List Token}
      {parts : List Item}
      {script : Script}
      (items : WritesEach WritesItem written parts)
      (gathers : Gathers parts script)
      (entry : ∃ site, Item.call site ∈ parts) :
      WritesScript written script

end Eisen.Script
