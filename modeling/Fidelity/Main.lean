import Fidelity.Command.Run
import Fidelity.LogText

/-! The program: it scores an extraction against its reference text. -/
namespace Fidelity

def usage : String :=
  "Usage: eval-text [OPTIONS] <COMMAND>\n\nCommands:\n"
    ++ "  score   Print the edit-distance score (or raw distance) of one extraction\n"
    ++ "  words   Print the bag of words of a text file as JSON\n"
    ++ "  report  Print a full accuracy report for one extraction as JSON\n"
    ++ "  batch   Evaluate every pair listed in a JSON file\n"
    ++ "  help    Print this message\n\nOptions:\n"
    ++ "  --config <FILE>    JSON evaluation config; flags below override it\n"
    ++ "  --weights <I,D,S>  Edit weights as INSERTION,DELETION,SUBSTITUTION\n"
    ++ "  --unit <UNIT>      Edit unit: char or grapheme\n"
    ++ "  --normalize <MODE> Pre-comparison normalization (repeatable)\n"
    ++ "  -v, --verbose      Log at debug level\n"
    ++ "  -h, --help         Print help\n"
    ++ "  -V, --version      Print version\n"

def version : String := "eval-text 0.1.0\n"

def usageText : Command.UsageAnswer → String
  | .help | .nothingGiven => usage
  | .version => version
  | .unknownArgument => "error: unexpected argument\n\n" ++ usage
  | .unknownCommand => "error: unrecognized subcommand\n\n" ++ usage
  | .missingArgument => "error: a required argument was not provided\n\n" ++ usage
  | .missingCommand => "error: a subcommand is required but was not provided\n\n" ++ usage
  | .missingValue => "error: a value is required but none was supplied\n\n" ++ usage
  | .badWeights fault => "error: invalid value for '--weights': " ++ fault.message ++ "\n"
  | .repeated => "error: an argument cannot be used multiple times\n\n" ++ usage
  | .valueForFlag => "error: unexpected value for a flag\n\n" ++ usage

def readFault (e : IO.Error) : Command.ReadFault :=
  match e with
  | .noFileOrDirectory .. => .notFound
  | .inappropriateType _ code _ => if code = 21 then .isDirectory else .notDirectory
  | e => .other (toString e)

def readFile (path : String) : IO (Except Command.ReadFault String) := do
  try
    match String.fromUTF8? (← IO.FS.readBinFile path) with
    | none => return .error .notText
    | some text => return .ok text
  catch e => return .error (readFault e)

def logLine (e : Event Float) : String := "[" ++ e.level.label ++ " " ++ e.area.path ++ "] " ++ e.message

end Fidelity

open Fidelity in
def main (arguments : List String) : IO UInt32 := do
  match Command.parseArguments arguments with
  | .error answer =>
    if answer.exitCode = 0 then IO.print (usageText answer) else IO.eprint (usageText answer)
    return answer.exitCode.toUInt32
  | .ok invocation =>
    let threshold := Level.threshold (← IO.getEnv "RUST_LOG") invocation.options.verbose
    let (outcome, events) ← Command.run readFile invocation
    for e in events do
      if Level.admits threshold e.level then IO.eprintln (logLine e)
    IO.print (Command.stdout outcome)
    match outcome with
    | .ok _ => return 0
    | .error failure =>
      IO.eprintln ("Error: " ++ failure.message)
      return 1
