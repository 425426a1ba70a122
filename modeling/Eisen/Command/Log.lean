import Eisen.Pattern.Expression.Meaning
import Eisen.Text.Ascii
import Eisen.Text.Blank
import Eisen.Text.Visible

namespace Eisen.Log

/-!
# Log lines

Commands report what they do as log records. A filter decides which records are
shown: it gives the records of each target a level, and the longest name that a
target starts with decides. Lines are plain, or coloured for a terminal.
-/

/-- How important a record is. -/
inductive Level where
  | error
  | warn
  | info
  | debug
  | trace
  deriving Repr, DecidableEq

namespace Level

/-- The place of a level, the most important one first. -/
def rank : Level → Nat
  | .error => 1
  | .warn => 2
  | .info => 3
  | .debug => 4
  | .trace => 5

/-- The name of a level in a line, five columns wide. -/
def label : Level → String
  | .error => "ERROR"
  | .warn => "WARN "
  | .info => "INFO "
  | .debug => "DEBUG"
  | .trace => "TRACE"

/-- The sequence that switches to the colour of a level. -/
def colour : Level → String
  | .error => "\x1b[1m\x1b[31m"
  | .warn => "\x1b[33m"
  | .info => "\x1b[32m"
  | .debug => "\x1b[34m"
  | .trace => "\x1b[36m"

end Level

/-- Something that a command reports. -/
structure Record where
  level : Level
  target : String
  message : String
  deriving Repr, DecidableEq

/-- A message in a line; what follows a line feed in it is indented. -/
def indentedMessage (message : String) : String :=
  String.ofList (message.toList.flatMap fun character =>
    if character = '\n' then ['\n', ' ', ' ', ' ', ' '] else [character])

/-- How lines are written. -/
inductive Style where
  | plain
  | coloured
  deriving Repr, DecidableEq

/-- The sequence that switches to the colour of brackets. -/
def bracketColour : String := "\x1b[90m"

/-- A text between the sequences that switch to a colour and back. -/
def coloured
    (colour text : String) : String :=
  colour ++ text ++ "\x1b[0m"

namespace Record

/-- The line of a record without colours, as far as it is visible. -/
def plainLine (record : Record) : String :=
  Text.visible
    ("[" ++ record.level.label ++ " " ++ record.target ++ "] " ++
      indentedMessage record.message ++ "\n")

/-- The line of a record with colours; nothing is left out of it. -/
def colouredLine (record : Record) : String :=
  coloured bracketColour "[" ++
    coloured record.level.colour record.level.label ++ " " ++
    record.target ++ coloured bracketColour "]" ++ " " ++
    indentedMessage record.message ++ "\n"

/-- The line of a record. -/
def line
    (record : Record) :
    Style → String
  | .plain => record.plainLine
  | .coloured => record.colouredLine

end Record

/--
The least important rank that is shown of the targets with a name in front, or
of all targets where no name is given.
-/
structure Directive where
  name : Option String
  rank : Nat
  deriving Repr, DecidableEq

/-- Which records are shown. -/
structure Filter where
  directives : List Directive
  /-- What the messages of shown records have to match. -/
  pattern : Option Pattern.Regular
  deriving Repr, DecidableEq

namespace Filter

/-- The ranks that a filter can name. -/
def rankNames : List (String × Nat) :=
  [("off", 0), ("error", 1), ("warn", 2), ("info", 3), ("debug", 4),
    ("trace", 5)]

/-- The rank of a name, ignoring the case of letters. -/
def rank? (name : String) : Option Nat :=
  rankNames.lookup (Text.lower name)

/-- The rank that shows everything. -/
def greatestRank : Nat := 5

/-- The parts of a text between the occurrences of a character. -/
def parts
    (separator : Char)
    (text : String) : List String :=
  (split text.toList).map String.ofList
where
  /-- The parts as lists of characters. -/
  split : List Char → List (List Char)
    | [] => [[]]
    | character :: rest =>
        if character = separator then
          [] :: split rest
        else
          match split rest with
          | [] => [[character]]
          | first :: more => (character :: first) :: more

/--
The directive of a part of a filter's text, or the part that is wrong in it.
-/
def directive (text : String) : Except String Directive :=
  match parts '=' text with
  | [name] =>
      match rank? name with
      | some rank => .ok ⟨none, rank⟩
      | none => .ok ⟨some name, greatestRank⟩
  | [name, level] =>
      let level := Text.trim level
      if level = "" then
        .ok ⟨some name, greatestRank⟩
      else
        match rank? level with
        | some rank => .ok ⟨some name, rank⟩
        | none => .error level
  | _ => .error text

/-- The directives of a list of parts, and what is wrong in the others. -/
def readDirectives (texts : List String) : List Directive × List String :=
  texts.foldr
    (fun text (found, wrong) =>
      match directive text with
      | .ok next => (next :: found, wrong)
      | .error problem => (found, problem :: wrong))
    ([], [])

/-- Add a directive, in place of an earlier one for the same name. -/
def replaceOrAdd
    (directive : Directive) :
    List Directive → List Directive
  | [] => [directive]
  | other :: rest =>
      if other.name = directive.name then
        directive :: rest
      else
        other :: replaceOrAdd directive rest

/-- The number of bytes of a directive's name. -/
def nameWidth (directive : Directive) : Nat :=
  (directive.name.map String.utf8ByteSize).getD 0

/-- Directives with one for each name, the longest names last. -/
def ordered (directives : List Directive) : List Directive :=
  (directives.foldl
    (fun kept directive => replaceOrAdd directive kept) []).mergeSort
    fun left right => decide (nameWidth left ≤ nameWidth right)

/-- A line that warns of a part of a filter. -/
def warning (part : String) : String :=
  "warning: invalid logging spec '" ++ part ++ "', ignoring it\n"

/-- A filter that shows errors only. -/
def errorsOnly (pattern : Option Pattern.Regular) : Filter where
  directives := [⟨none, Level.error.rank⟩]
  pattern := pattern

/-- The filter of a text without a pattern, and warnings about it. -/
def ofDirectives
    (pattern : Option Pattern.Regular)
    (text : String) : Filter × String :=
  let (found, wrong) :=
    readDirectives
      (((parts ',' text).map Text.trim).filter fun part => part != "")
  let filter :=
    if found.isEmpty then
      errorsOnly pattern
    else
      { directives := ordered found, pattern }
  (filter, String.join (wrong.map warning))

/--
The filter of a text, and warnings about it. An expression may follow a slash.
-/
def ofText (text : String) : Filter × String :=
  match parts '/' text with
  | [list] => ofDirectives none list
  | [list, expression] =>
      match Pattern.Expression.pattern expression with
      | .ok pattern => ofDirectives (some pattern) list
      | .error refusal =>
          let (filter, warnings) := ofDirectives none list
          (filter,
            warnings ++ "warning: invalid regex filter - " ++
              refusal.message expression ++
              ", ignoring it\n")
  | _ =>
      (errorsOnly none,
        "warning: invalid logging spec '" ++ text ++
          "' (too many '/'s), ignoring it\n")

/-- Whether a directive is about a target. -/
def concerns
    (target : String)
    (directive : Directive) : Bool :=
  match directive.name with
  | some name => name.toList.isPrefixOf target.toList
  | none => true

/-- The directive that decides on a target: the last one about it. -/
def deciding?
    (filter : Filter)
    (target : String) : Option Directive :=
  filter.directives.reverse.find? (concerns target)

/-- Whether a record is shown. -/
def shows
    (filter : Filter)
    (record : Record) : Bool :=
  (match filter.deciding? record.target with
    | some directive => decide (record.level.rank ≤ directive.rank)
    | none => false) &&
  (match filter.pattern with
    | some pattern => pattern.occursIn record.message
    | none => true)

end Filter

/-- Where commands report what they do. -/
structure Writer where
  filter : Filter
  style : Style
  deriving Repr, DecidableEq

namespace Writer

/-- The line of a record if it is shown. -/
def line
    (writer : Writer)
    (record : Record) : String :=
  if writer.filter.shows record then record.line writer.style else ""

/-- The lines of the records that are shown. -/
def lines
    (writer : Writer)
    (records : List Record) : String :=
  String.join (records.map writer.line)

end Writer

end Eisen.Log
