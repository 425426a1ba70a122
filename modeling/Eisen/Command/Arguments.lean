namespace Eisen.Command

/-!
# Arguments of commands

The words of a command line are read from left to right: the first word that is
wrong, or that asks for the version or for help, ends the reading. An option
that is absent takes the value of its environment variable.
-/

/-- What an option takes. -/
inductive Arity where
  | flag
  /-- Any text. -/
  | text
  /-- A text that is not empty. -/
  | path
  | choice (values : List String)
  deriving Repr, DecidableEq

/-- An option or an operand of a command. -/
structure Parameter where
  name : String
  short : Option Char
  arity : Arity
  /-- The environment variable that stands in for an absent value. -/
  fallback : Option String
  deriving Repr, DecidableEq

/-- The parameters of a command, which takes at most one operand. -/
structure Interface where
  tool : String
  operand : Parameter
  options : List Parameter
  deriving Repr, DecidableEq

/-- Why the reading of a command line ends before the command starts. -/
inductive Stop where
  | usage
  | version
  | help
  deriving Repr, DecidableEq

/-- The values of parameters. A flag that is there has an empty value. -/
abbrev Arguments := List (String × String)

/-- The environment variables of a command. -/
abbrev Environment := List (String × String)

/-- Whether a parameter may have a value. -/
def Arity.admits
    (value : String) :
    Arity → Bool
  | .flag => true
  | .text => true
  | .path => value != ""
  | .choice values => values.contains value

/-- Give a parameter its value; none may be given twice. -/
def assign
    (arguments : Arguments)
    (parameter : Parameter)
    (value : String) :
    Except Stop Arguments :=
  if parameter.arity.admits value &&
      (arguments.lookup parameter.name).isNone then
    .ok (arguments ++ [(parameter.name, value)])
  else
    .error .usage

/-- Read the letters behind a single dash. -/
def readLetters
    (interface : Interface)
    (arguments : Arguments) :
    List Char → Except Stop Arguments
  | [] => .ok arguments
  | letter :: rest =>
      if letter = 'V' then
        .error .version
      else if letter = 'h' then
        .error .help
      else
        match interface.options.find? fun option =>
            option.short == some letter with
        | none => .error .usage
        | some option =>
            match assign arguments option "" with
            | .error stop => .error stop
            | .ok next => readLetters interface next rest

/-- Read operands only. -/
def readOperands
    (interface : Interface)
    (arguments : Arguments) :
    List String → Except Stop Arguments
  | [] => .ok arguments
  | word :: rest =>
      match assign arguments interface.operand word with
      | .error stop => .error stop
      | .ok next => readOperands interface next rest

/-- The name behind two dashes, and the value behind an equals sign. -/
def splitLong (word : List Char) : String × Option String :=
  let name := word.takeWhile (· != '=')
  match word.drop name.length with
  | [] => (String.ofList name, none)
  | _ :: value => (String.ofList name, some (String.ofList value))

/-- Whether a word is an option and no value. -/
def isOption (word : String) : Bool :=
  match word.toList with
  | '-' :: _ :: _ => true
  | _ => false

/-- What an option behind two dashes asks for. -/
inductive LongOption where
  /-- The option is complete. -/
  | complete (arguments : Arguments)
  /-- The next word is its value. -/
  | awaits (option : Parameter)

/-- Read an option behind two dashes. -/
def readLong
    (interface : Interface)
    (arguments : Arguments)
    (word : List Char) :
    Except Stop LongOption :=
  let (name, attached) := splitLong word
  match attached, interface.options.find? fun option => option.name == name with
  | none, none =>
      if name = "version" then
        .error .version
      else if name = "help" then
        .error .help
      else
        .error .usage
  | some _, none => .error .usage
  | none, some option =>
      if option.arity = .flag then
        (assign arguments option "").map .complete
      else
        .ok (.awaits option)
  | some value, some option =>
      if option.arity = .flag then
        .error .usage
      else
        (assign arguments option value).map .complete

/-- Read words up to the end or to two dashes. -/
def readWords
    (interface : Interface)
    (arguments : Arguments) :
    List String → Except Stop Arguments
  | [] => .ok arguments
  | word :: rest =>
      match word.toList with
      | ['-', '-'] => readOperands interface arguments rest
      | '-' :: '-' :: long =>
          match readLong interface arguments long with
          | .error stop => .error stop
          | .ok (.complete next) => readWords interface next rest
          | .ok (.awaits option) =>
              match rest with
              | [] => .error .usage
              | value :: others =>
                  if isOption value then
                    .error .usage
                  else
                    match assign arguments option value with
                    | .error stop => .error stop
                    | .ok next => readWords interface next others
      | '-' :: letter :: letters =>
          match readLetters interface arguments (letter :: letters) with
          | .error stop => .error stop
          | .ok next => readWords interface next rest
      | _ =>
          match assign arguments interface.operand word with
          | .error stop => .error stop
          | .ok next => readWords interface next rest

/-- Take the values of absent parameters from the environment. -/
def addVariables
    (environment : Environment)
    (arguments : Arguments) :
    List Parameter → Except Stop Arguments
  | [] => .ok arguments
  | parameter :: rest =>
      match parameter.fallback.bind fun name => environment.lookup name with
      | none => addVariables environment arguments rest
      | some value =>
          if (arguments.lookup parameter.name).isSome then
            addVariables environment arguments rest
          else
            match assign arguments parameter value with
            | .error stop => .error stop
            | .ok next => addVariables environment next rest

/-- The values of a command's parameters. -/
def Interface.read
    (interface : Interface)
    (environment : Environment)
    (words : List String) :
    Except Stop Arguments :=
  match readWords interface [] words with
  | .error stop => .error stop
  | .ok arguments =>
      addVariables environment arguments
        (interface.operand :: interface.options)

end Eisen.Command
