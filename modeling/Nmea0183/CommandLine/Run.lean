import Nmea0183.CommandLine.Options
import Nmea0183.Frame
import Nmea0183.Report.Layout

/-!
# Commands

What the program does with its arguments: it shows a sentence, frames a body,
shows the models of a module, or explains itself.  The files that hold modules
are given from outside, so a run is a function of its arguments.
-/

namespace Nmea0183.CommandLine

/-- What a file of models is found to be. -/
inductive Source where
  | missing
  /-- It is there, and no module can be made of it. -/
  | unloadable
  /-- The types that it names, and the name under which models of its own are declared. -/
  | module (name : String) (types : List PayloadType)

/-- The effect of a run. -/
structure Outcome where
  exit : Nat := 0
  stdout : String := ""
  stderr : String := ""
  deriving DecidableEq, Repr

/-- The two lines that show how the program is called. -/
def usage : String :=
  Report.unlines
    ["usage: nmeacomm [-h] [--check SENTENCE] [--checksum BODY] [--analyze FILE]",
     "                [-v] [--version]"]

/-- The explanation of the program. -/
def help : String :=
  usage ++ Report.unlines
    ["",
     "nmeacomm: NMEA 0183 Sentence Codec",
     "",
     "options:",
     "  -h, --help        show this help message and exit",
     "  --check SENTENCE  Parse a sentence and verify its checksum",
     "  --checksum BODY   Add '$', checksum and CRLF to a sentence body",
     "  --analyze FILE    Analyze message classes and show their field layout",
     "  -v, --verbose     Enable debug logging",
     "  --version         show program's version number and exit",
     "",
     "Examples:",
     "  nmeacomm --check '$GPGGA,42,123.456,STRING*40'   Parse and verify a sentence",
     "  nmeacomm --checksum 'GPGGA,42,123.456,STRING'     Frame a sentence body",
     "  nmeacomm --analyze messages.py                    Show message field layouts",
     "  nmeacomm --version                                Show version",
     "        "]

/-- Shows a sentence, and fails unless it passes. -/
def check (verbose : Bool) (text : String) : Outcome :=
  let line := (Line.text text.toList).latin
  let s := Sentence.ofBytes line
  { exit := if Report.passes s then 0 else 1
    stdout := Report.unlines (Report.sentence s)
    stderr :=
      if verbose then "DEBUG nmeacomm.codec.decoder: " ++ Report.note line ++ "\n" else "" }

/-- Shows the framed sentence of a body, without its line end. -/
def frame (text : String) : Outcome :=
  match Frame.wrapLine (.text text.toList) with
  | .error f => { exit := 1, stderr := "Error: " ++ f.told.wording ++ "\n" }
  | .ok sentence =>
    { stdout := String.ofList (Latin.decode (Frame.dropTerminator sentence)) ++ "\n" }

/-- The plain form of a path: no empty parts and no parts that stand for the same place. -/
def plainPath (path : String) : String :=
  let parts := (path.toList.splitOn '/').filter fun p => p ≠ [] ∧ p ≠ ['.']
  let root :=
    if "//".isPrefixOf path && !"///".isPrefixOf path then "//"
    else if "/".isPrefixOf path then "/" else ""
  let plain := root ++ String.ofList (['/'].intercalate parts)
  if plain.isEmpty then "." else plain

/-- Shows the models of a file. -/
def analyze (files : String → Source) (path : String) : Outcome :=
  let path := plainPath path
  match files path with
  | .missing => { exit := 1, stderr := "Error: File not found: " ++ path ++ "\n" }
  | .unloadable =>
    { exit := 1, stderr := "Error analyzing file: Could not load module from " ++ path ++ "\n" }
  | .module name types =>
    let printed := Report.module {} path name types
    match printed.outcome with
    | .ok () => { stdout := Report.unlines printed.lines }
    | .error f =>
      { exit := 1
        stdout := Report.unlines printed.lines
        stderr := "Error analyzing file: " ++ f.told.wording ++ "\n" }

/-- Does what the settings ask for; of several commands the first one counts, and a command
without a value is none. -/
def perform (files : String → Source) (s : Settings) : Outcome :=
  if !s.check.isEmpty then check s.verbose s.check
  else if !s.checksum.isEmpty then frame s.checksum
  else if !s.analyze.isEmpty then analyze files s.analyze
  else { stdout := help }

/-- A run of the program. -/
def run (files : String → Source) (arguments : List String) : Outcome :=
  match parse arguments with
  | .error f => { exit := 2, stderr := usage ++ "nmeacomm: error: " ++ f.message ++ "\n" }
  | .ok .help => { stdout := help }
  | .ok .version => { stdout := "nmeacomm 0.1.0\n" }
  | .ok (.run s) => perform files s

end Nmea0183.CommandLine
