import Nmea0183.Text.DecimalDigit
import Nmea0183.Text.Quoted

/-!
# Options

How the arguments of the program are understood.  A long option may be cut short
as long as it stays the only one, takes its value after `=` or as the next
argument, and a short option may be joined with others, after an `=` or without
one.  What looks like an option is none when it is a negative number or holds a
space.  Every argument is classified before any takes effect.
-/

namespace Nmea0183.CommandLine

/-- The options of the program. -/
inductive OptionName where
  | help
  | check
  | checksum
  | analyze
  | verbose
  | version
  deriving DecidableEq, Repr

namespace OptionName

/-- The spellings of all options, in the order of their declaration. -/
def spellings : List (String × OptionName) :=
  [("-h", help), ("--help", help), ("--check", check), ("--checksum", checksum),
   ("--analyze", analyze), ("-v", verbose), ("--verbose", verbose), ("--version", version)]

/-- The option takes a value. -/
def takesValue : OptionName → Bool
  | check | checksum | analyze => true
  | help | verbose | version => false

/-- All spellings of an option, as messages name it. -/
def label (o : OptionName) : String :=
  "/".intercalate ((spellings.filter fun s => s.2 = o).map Prod.fst)

end OptionName

/-- Why arguments are refused. -/
inductive UsageFault where
  | ambiguous (argument : String) (candidates : List String)
  | valueMissing (o : OptionName)
  | valueIgnored (o : OptionName) (value : String)
  | unrecognized (arguments : List String)
  deriving DecidableEq, Repr

/-- The wording of a fault. -/
def UsageFault.message : UsageFault → String
  | ambiguous argument candidates =>
    s!"ambiguous option: {argument} could match " ++ ", ".intercalate candidates
  | valueMissing o => s!"argument {o.label}: expected one argument"
  | valueIgnored o value =>
    s!"argument {o.label}: ignored explicit argument " ++ Quoted.text value
  | unrecognized arguments => "unrecognized arguments: " ++ " ".intercalate arguments

/-- What an argument is. -/
inductive Argument where
  | positional (text : String)
  /-- The mark after which no argument is an option. -/
  | separator
  /-- An option by a spelling with one dash or with two, and what follows it in the argument. -/
  | option (o : OptionName) (short : Bool) (attached : Option String)
  /-- It looks like an option and is none. -/
  | unknown (text : String)
  deriving DecidableEq, Repr

/-- A decimal digit of any script. -/
def isDigit (c : Char) : Bool :=
  (DecimalDigit.value? c).isSome

/-- A negative number: a minus and digits, with or without a point among or before them.  A line
feed may follow. -/
def isNegativeNumber : List Char → Bool
  | '-' :: rest =>
    let digits := if rest.getLast? = some '\n' then rest.dropLast else rest
    let fraction := digits.dropWhile isDigit
    (digits ≠ [] && fraction == [])
      || match fraction with
        | '.' :: places => places ≠ [] && places.all isDigit
        | _ => false
  | _ => false

/-- The part of an argument before its first `=`, and the part after it. -/
def splitValue? (text : String) : Option (String × String) :=
  let chars := text.toList
  if chars.contains '=' then
    some (String.ofList (chars.takeWhile (· != '=')),
      String.ofList ((chars.dropWhile (· != '=')).drop 1))
  else none

/-- An option with what follows its spelling in the argument. -/
def Argument.spelled (spelling : String) (o : OptionName) (attached : Option String) : Argument :=
  .option o (!"--".isPrefixOf spelling) attached

/-- The options that an argument may stand for, with their spellings: those that a long option is
cut short from, or the short option that it starts with. -/
def candidates (text : String) : List (String × Argument) :=
  let spelled := fun (attached : Option String) (holds : String → Bool) =>
    (OptionName.spellings.filter fun s => holds s.1).map fun s =>
      (s.1, Argument.spelled s.1 s.2 attached)
  match text.toList with
  | '-' :: '-' :: _ =>
    match splitValue? text with
    | some (start, value) => spelled (some value) start.isPrefixOf
    | none => spelled none text.isPrefixOf
  | first :: second :: letters =>
    spelled (some (String.ofList letters)) (· == String.ofList [first, second])
  | _ => []

/-- What an argument before the separator is. -/
def classify (text : String) : Except UsageFault Argument :=
  match text.toList with
  | '-' :: _ :: _ =>
    match OptionName.spellings.lookup text with
    | some o => .ok (.spelled text o none)
    | none =>
      let assigned := do
        let (spelling, value) ← splitValue? text
        let o ← OptionName.spellings.lookup spelling
        return Argument.spelled spelling o (some value)
      match assigned with
      | some a => .ok a
      | none =>
        match candidates text with
        | [(_, a)] => .ok a
        | [] =>
          if isNegativeNumber text.toList || text.toList.contains ' ' then .ok (.positional text)
          else .ok (.unknown text)
        | several => .error (.ambiguous text (several.map Prod.fst))
  | _ => .ok (.positional text)

/-- What all arguments are. -/
def classifyAll : List String → Except UsageFault (List Argument)
  | [] => .ok []
  | text :: rest =>
    if text == "--" then .ok (.separator :: rest.map .positional)
    else do return (← classify text) :: (← classifyAll rest)

/-- What the arguments ask for. -/
structure Settings where
  check : String := ""
  checksum : String := ""
  analyze : String := ""
  verbose : Bool := false
  deriving DecidableEq, Repr

/-- How the reading of the arguments ends. -/
inductive Request where
  | run (settings : Settings)
  | help
  | version
  deriving DecidableEq, Repr

/-- The settings with the value of an option; the separator is no value. -/
def Settings.set (s : Settings) (o : OptionName) (value : String) : Settings :=
  let value := if value == "--" then "" else value
  match o with
  | .check => { s with check := value }
  | .checksum => { s with checksum := value }
  | .analyze => { s with analyze := value }
  | _ => s

/-- The options that a short option and the letters behind it stand for; each letter has to be a
short option of its own. -/
def joinedOptions (o : OptionName) : List Char → Except UsageFault (List OptionName)
  | [] => .ok [o]
  | letter :: rest =>
    match OptionName.spellings.lookup (String.ofList ['-', letter]) with
    | some next => (joinedOptions next rest).map (o :: ·)
    | none => .error (.valueIgnored o (String.ofList (letter :: rest)))

/-- The options that an argument without a value of its own stands for. -/
def flags (o : OptionName) (short : Bool) : Option String → Except UsageFault (List OptionName)
  | none => .ok [o]
  | some text =>
    if short && !text.isEmpty then joinedOptions o text.toList else .error (.valueIgnored o text)

/-- The settings after options without values, unless one of them ends the reading. -/
def applyFlags (s : Settings) : List OptionName → Request
  | [] => .run s
  | .help :: _ => .help
  | .version :: _ => .version
  | .verbose :: rest => applyFlags { s with verbose := true } rest
  | _ :: rest => applyFlags s rest

/-- Goes through the arguments; what is no option and no value of one is left over, and refused
at the end. -/
def interpret (s : Settings) (leftOver : List String) : List Argument → Except UsageFault Request
  | [] => if leftOver.isEmpty then .ok (.run s) else .error (.unrecognized leftOver)
  | .positional text :: rest => interpret s (leftOver ++ [text]) rest
  | .separator :: rest => interpret s (leftOver ++ ["--"]) rest
  | .unknown text :: rest => interpret s (leftOver ++ [text]) rest
  | .option o short attached :: rest =>
    if o.takesValue then
      match attached, rest with
      | some v, rest => interpret (s.set o v) leftOver rest
      | none, .positional v :: rest => interpret (s.set o v) leftOver rest
      | none, _ => .error (.valueMissing o)
    else
      match flags o short attached with
      | .error f => .error f
      | .ok os =>
        match applyFlags s os with
        | .run s => interpret s leftOver rest
        | ended => .ok ended

/-- What the arguments ask for, if they can be understood. -/
def parse (arguments : List String) : Except UsageFault Request := do
  interpret {} [] (← classifyAll arguments)

end Nmea0183.CommandLine
