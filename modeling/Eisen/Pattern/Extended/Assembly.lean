import Eisen.Pattern.Expression.Meaning
import Eisen.Pattern.Extended.Machine
import Eisen.Pattern.Extended.Reader

namespace Eisen.Pattern.Extended

/-!
# Programs of extended expressions

The program of an expression tries its branches in order. Easy parts are matched
as regular patterns where nothing behind them can make the machine go back into
them: at the end of an expression, where their size is fixed, and inside parts
whose first match is kept.
-/

/-- Assembling code, where registers are taken one after the other. -/
abbrev Assembler (α : Type) := StateT Nat Option α

/-- Take a register that is not used yet. -/
def newRegister : Assembler Nat := do
  let register ← get
  set (register + 1)
  pure register

mutual

/-- The numbers of the groups inside an expression. -/
def Tree.groups : Tree → List Nat
  | .concatenation parts => Tree.allGroups parts
  | .alternation branches => Tree.allGroups branches
  | .group index body => index :: body.groups
  | .lookAround _ body => body.groups
  | .repetition body _ _ _ => body.groups
  | .atomic body => body.groups
  | .conditional condition yes no => condition.groups ++ yes.groups ++ no.groups
  | _ => []

/-- The numbers of the groups inside some expressions. -/
def Tree.allGroups : List Tree → List Nat
  | [] => []
  | part :: rest => part.groups ++ Tree.allGroups rest

end

/-- The character that an expression is, where its case counts. -/
def Tree.plainCharacter? : Tree → Option Char
  | .literal character false => some character
  | _ => none

/--
Whether the program of easy parts is not too large. It is bound to the
place where it begins, and first reads the character in front of the parts
if they ask for it.
-/
def fitsInPlace
    (parts : List Tree)
    (form : Form) : Bool :=
  let front := if Tree.frontLooksBack parts then [Form.one .all] else []
  (Form.inOrder ([.look .textStart] ++ front ++ [form])).fits

/-- The code of easy parts, matched together as a regular pattern. -/
def easyCode (parts : List Tree) : Assembler (List Instruction) :=
  if parts.isEmpty then
    pure []
  else
    match parts.mapM Tree.plainCharacter? with
    | some characters => pure [.literal characters]
    | none =>
        let text := parts.flatMap (Tree.notate 1)
        match Expression.form (String.ofList text) with
        | .error _ => failure
        | .ok (.one set) => pure [.one set]
        | .ok form =>
            if fitsInPlace parts form then
              let groups := parts.flatMap Tree.groups
              pure [.part form.regular (groups.head?.getD 0) groups.length]
            else
              failure

/-- The code of branches, tried in order. -/
def branchCode : List (List Instruction) → List Instruction
  | [] => []
  | [code] => code
  | code :: rest =>
      let others := branchCode rest
      [.fork 1 (code.length + 2)] ++ code ++
        [.jump (others.length + 1)] ++ others

/-- The code of going on or leaving. -/
def choice
    (greedy : Bool)
    (enter leave : Int) : Instruction :=
  if greedy then .fork enter leave else .fork leave enter

/-- The code of a repetition of other code, which can be empty or not. -/
def repetitionCode
    (code : List Instruction)
    (canBeEmpty : Bool)
    (least : Nat)
    (most : Option Nat)
    (greedy : Bool) :
    Assembler (List Instruction) :=
  let length : Int := code.length
  match least, most with
  | 0, some 1 => pure ([choice greedy 1 (length + 1)] ++ code)
  | least, most =>
      if most.isNone ∧ canBeEmpty then do
        let counter ← newRegister
        let place ← newRegister
        pure ([.clear counter,
            .emptyRound least (length + 2) counter place greedy] ++ code ++
          [.jump (-(length + 1))])
      else
        match least, most with
        | 0, none =>
            pure ([choice greedy 1 (length + 2)] ++ code ++
              [.jump (-(length + 1))])
        | 1, none => pure (code ++ [choice greedy (-length) 1])
        | least, most => do
            let counter ← newRegister
            pure ([.clear counter,
                .round least most (length + 2) counter greedy] ++ code ++
              [.jump (-(length + 1))])

/-- The code in front of a part that is to be found behind the current place. -/
def stepsBack?
    (direction : Direction)
    (body : Tree) : Option (List Instruction) :=
  if direction = .behind ∨ direction = .notBehind then
    if body.hasFixedSize then some [.goBack body.leastSize] else none
  else
    some []

/-- The code that looks around with other code. -/
def lookAroundCode
    (direction : Direction)
    (body : Tree)
    (code : List Instruction) :
    Assembler (List Instruction) :=
  match stepsBack? direction body with
  | none => failure
  | some back =>
      if direction = .ahead ∨ direction = .behind then do
        let register ← newRegister
        pure ([.save register] ++ back ++ code ++ [.restore register])
      else
        let length : Int := back.length + code.length
        pure ([.fork 1 (length + 2)] ++ back ++ code ++ [.refuse])

/-- The branches of an expression. -/
def Tree.branches : Tree → List Tree
  | .alternation branches => branches
  | _ => []

/-- Whether each branch is looked for by itself, since their sizes differ. -/
def looksBehindEach
    (direction : Direction)
    (body : Tree) : Bool :=
  (direction == .behind || direction == .notBehind) &&
    !body.branches.isEmpty && !body.hasFixedSize

/-- The code that looks around with each of some branches. -/
def lookAroundBranches
    (direction : Direction)
    (branches : List Tree)
    (codes : List (List Instruction)) :
    Assembler (List Instruction) := do
  let parts ← (branches.zip codes).mapM fun (branch, code) =>
    lookAroundCode direction branch code
  pure (if direction = .behind then branchCode parts else parts.flatten)

/-- How many parts at the front are easy and of fixed size. -/
def fixedFront
    (referred : List Nat)
    (parts : List Tree) : Nat :=
  (parts.takeWhile fun part =>
    part.hasFixedSize && !part.isHard referred).length

/--
How many parts behind a front are easy, and of fixed size if that is required.
-/
def easyEnd
    (referred : List Nat)
    (isFixed : Bool)
    (parts : List Tree) : Nat :=
  (parts.reverse.takeWhile fun part =>
    !part.isHard referred && (!isFixed || part.hasFixedSize)).length

mutual

/--
The code of an expression. Where more than an easy part surrounds it, the
machine must be able to go back into it.
-/
def Tree.code
    (referred : List Nat)
    (surrounded : Bool)
    (tree : Tree) :
    Assembler (List Instruction) :=
  if !surrounded && !tree.isHard referred then
    easyCode [tree]
  else
    match tree with
    | .empty => pure []
    | .any true => pure [.one .all]
    | .any false => pure [.one .nonLineFeed]
    | .concatenation parts => do
        let front := fixedFront referred parts
        let back := easyEnd referred surrounded (parts.drop front)
        let middle := parts.length - back - front
        let first ← easyCode (parts.take front)
        let second ← Tree.middleCode referred front middle parts
        let third ← easyCode (parts.drop (front + middle))
        pure (first ++ second ++ third)
    | .alternation branches => do
        let codes ← Tree.codes referred surrounded branches
        pure (branchCode codes)
    | .group index body => do
        let code ← body.code referred surrounded
        pure ([.save (2 * index)] ++ code ++ [.save (2 * index + 1)])
    | .repetition body least most greedy => do
        let hard := surrounded ||
          (body.isHard referred && !(least == 0 && most == some 1))
        let code ← body.code referred hard
        repetitionCode code (body.leastSize == 0) least most greedy
    | .lookAround direction body =>
        if looksBehindEach direction body then do
          let codes ← body.branchCodes referred
          lookAroundBranches direction body.branches codes
        else do
          let code ← body.code referred false
          lookAroundCode direction body code
    | .reference wanted => pure [.again wanted]
    | .matched wanted => pure [.matched wanted]
    | .atomic body => do
        let code ← body.code referred false
        pure ([.beginAtomic] ++ code ++ [.endAtomic])
    | .newStart => pure [.save 0]
    | .searchStart => pure [.searchStart]
    | .conditional condition yes no => do
        let condition ← condition.code referred surrounded
        let yes ← yes.code referred surrounded
        let no ← no.code referred surrounded
        pure ([.beginAtomic, .fork 1 (condition.length + yes.length + 3)] ++
          condition ++
          [.endAtomic] ++ yes ++ [.jump (no.length + 1)] ++ no)
    | other => easyCode [other]

/-- The codes of the branches of an expression. -/
def Tree.branchCodes
    (referred : List Nat) :
    Tree → Assembler (List (List Instruction))
  | .alternation branches => Tree.codes referred false branches
  | _ => pure []

/-- The codes of some expressions. -/
def Tree.codes
    (referred : List Nat)
    (surrounded : Bool) :
    List Tree → Assembler (List (List Instruction))
  | [] => pure []
  | part :: rest => do
      let code ← part.code referred surrounded
      let codes ← Tree.codes referred surrounded rest
      pure (code :: codes)

/-- The code of a number of parts behind others, all of them surrounded. -/
def Tree.middleCode
    (referred : List Nat)
    (skipped count : Nat) :
    List Tree → Assembler (List Instruction)
  | [] => pure []
  | part :: rest =>
      match skipped, count with
      | skipped + 1, count => Tree.middleCode referred skipped count rest
      | 0, 0 => pure []
      | 0, count + 1 => do
          let code ← part.code referred true
          let codes ← Tree.middleCode referred 0 count rest
          pure (code ++ codes)

end

/-- The code that tries every place of a text in order. -/
def searchCode : List Instruction :=
  [.fork 3 1, .one .all, .jump (-2), .save 0]

/-- The code behind an expression. -/
def finalCode : List Instruction :=
  [.save 1, .accept]

/-- The program that searches for an expression. -/
def Expression.program? (expression : Expression) : Option Program :=
  match (expression.tree.code expression.referred true).run
    (2 * (expression.groups + 1)) with
  | some (code, registers) =>
      some
        { instructions := (searchCode ++ code ++ finalCode).toArray
          registers := registers }
  | none => none

end Eisen.Pattern.Extended
