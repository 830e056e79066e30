/-
NodeBootstrap/Command/Options.lean

Options of a command.  Every option but the one for help takes a value, in the
next argument or behind `=`; its name may be cut short as long as only one
name starts that way.  Arguments that belong to no option are counted as left
over.

All arguments are told apart before any is acted on, so a name that is cut too
short is refused even behind a request for help; every other mistake is found
in the order of the arguments.
-/
import NodeBootstrap.Text.Digit
import NodeBootstrap.Text.Split

namespace NodeBootstrap.Options

/-- Why reading stops before the command is run. -/
inductive Stop where
  | help
  | misuse
  deriving DecidableEq, Repr

/-- An argument by itself. -/
inductive Word where
  | value (text : String)
  /-- The request for help, with what is attached to it: letters right behind
  its short form, or a text behind `=`. -/
  | help (letters : List Char) (attached : Option String)
  | option (name : String) (attached : Option String)
  | unknown
  /-- Behind it there are no options. -/
  | separator
  /-- A name that is cut too short. -/
  | ambiguous
  deriving DecidableEq, Repr

def shortHelp : String := "-h"
def longHelp : String := "--help"

/-! ### Telling arguments apart -/

/-- A name, and what is attached to it behind the first `=`. -/
def attachment (arg : List Char) : String × Option String :=
  let name := String.ofList (arg.takeWhile (· != '='))
  match arg.dropWhile (· != '=') with
  | [] => (name, none)
  | _ :: attached => (name, some (String.ofList attached))

/-- A negative number: digits behind the sign, with a point before the last
row of them if any.  One line end may follow. -/
def isNegativeNumber (arg : List Char) : Bool :=
  let isDigit (c : Char) : Bool := (Digit.value? c).isSome
  match arg with
  | '-' :: rest =>
    let body := if rest.getLast? = some '\n' then rest.dropLast else rest
    match body.dropWhile isDigit with
    | [] => !body.isEmpty
    | '.' :: digits => !digits.isEmpty && digits.all isDigit
    | _ => false
  | _ => false

/-- The word of a known name. -/
def named (name : String) (attached : Option String) : Word :=
  if name = shortHelp ∨ name = longHelp then .help [] attached
  else .option name attached

/-- The words that an argument can be read as by its start. -/
def candidates (names : List String) (arg : List Char) : List Word :=
  match arg with
  | '-' :: '-' :: _ =>
    let (start, attached) := attachment arg
    ((longHelp :: names).filter fun name => start.toList.isPrefixOf name.toList).map
      (named · attached)
  | '-' :: 'h' :: letters => [.help letters none]
  | _ => []

/-- What an argument is, given the names of the options. -/
def wordOf (names : List String) (arg : String) : Word :=
  let known := shortHelp :: longHelp :: names
  let (name, attached) := attachment arg.toList
  match arg.toList with
  | '-' :: _ :: _ =>
    if arg ∈ known then named arg none
    else if attached.isSome ∧ name ∈ known then named name attached
    else
      match candidates names arg.toList with
      | [word] => word
      | _ :: _ => .ambiguous
      | [] =>
        if isNegativeNumber arg.toList || arg.toList.contains ' ' then .value arg else .unknown
  | _ => .value arg

/-- What the arguments are, up to a separator. -/
def wordsOf (names : List String) : List String → List Word
  | [] => []
  | arg :: rest => if arg = "--" then [.separator] else wordOf names arg :: wordsOf names rest

/-! ### Reading -/

/-- What was read: the options with their values, latest last, and whether an
argument was left over. -/
structure Reading where
  values : List (String × String)
  leftOver : Bool
  deriving DecidableEq, Repr

/-- The value of an option. -/
def Reading.value? (r : Reading) (name : String) : Option String := r.values.reverse.lookup name

/-- A reading with one more value before it. -/
def Reading.withValue (r : Reading) (name value : String) : Reading :=
  { r with values := (name, value) :: r.values }

/-- What letters right behind a short request for help leave of it.  They are
more such requests; a letter that stands for nothing does no harm, but no
second dash and no `=` may follow. -/
def bundled : List Char → Stop
  | [] => .help
  | 'h' :: '=' :: _ => .misuse
  | 'h' :: letters => bundled letters
  | '-' :: _ => .misuse
  | _ :: _ => .help

/-- What a request for help leads to; it takes no text. -/
def helpStop (letters : List Char) (attached : Option String) : Stop :=
  if attached.isSome then .misuse else bundled letters

/-- Reads words in their order. -/
def readWords : List Word → Except Stop Reading
  | [] => .ok ⟨[], false⟩
  | .value _ :: rest | .unknown :: rest => (readWords rest).map ({ · with leftOver := true })
  | .separator :: _ => .ok ⟨[], true⟩
  | .help letters attached :: _ => .error (helpStop letters attached)
  | .option name (some value) :: rest => (readWords rest).map (·.withValue name value)
  | .option name none :: .value value :: rest => (readWords rest).map (·.withValue name value)
  | .option _ none :: _ => .error .misuse
  | .ambiguous :: _ => .error .misuse

/-- Reads the arguments of a command with options of these names. -/
def read (names : List String) (args : List String) : Except Stop Reading :=
  let words := wordsOf names args
  if .ambiguous ∈ words then .error .misuse else readWords words

/-- Reads arguments of which none may be left over. -/
def readAll (names : List String) (args : List String) : Except Stop Reading :=
  match read names args with
  | .ok r => if r.leftOver then .error .misuse else .ok r
  | .error stop => .error stop

/-! ### Modes -/

/-- Finds the mode among the arguments of a program that has nothing but modes
and help: the mode, the arguments behind it, and whether an argument was left
over before it. -/
def modeOf : List String → Except Stop (String × List String × Bool)
  | [] => .error .misuse
  | arg :: rest =>
    if arg = "--" then .error .misuse
    else
      match wordOf [] arg with
      | .value mode => .ok (mode, rest, false)
      | .help letters attached => .error (helpStop letters attached)
      | _ => (modeOf rest).map fun (mode, args, _) => (mode, args, true)

/-- Reads a mode and its options.  `optionsOf` knows the options of each
mode. -/
def readMode (optionsOf : String → Option (List String)) (args : List String) :
    Except Stop (String × Reading) := do
  let (mode, rest, leftOver) ← modeOf args
  match optionsOf mode with
  | none => .error .misuse
  | some names => do
    let r ← read names rest
    if leftOver || r.leftOver then .error .misuse else return (mode, r)

end NodeBootstrap.Options
