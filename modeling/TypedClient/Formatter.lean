import TypedClient.FileSystem
import TypedClient.Text.Blank

namespace TypedClient

inductive FormatterReply
  | success
  | failure (status : Int) (stdout stderr : String)
  | cannotStart (reason : String)

inductive WriteError
  | lookUp (error : FileError)
  | directory (path : Path) (error : FileError)
  | file (path : Path) (error : FileError)
  | encoding (error : EncodingError)
  | formatterMissing (args : List String) (path : Path) (reason : String)
  | formatterFailed (args : List String) (path : Path) (reason : String)

namespace WriteError

def file? : WriteError → Option FileError
  | directory _ error => some error
  | file _ error => some error
  | _ => none

/-- A place that cannot be looked at, or is none, ends the program, and so does a text that has no
bytes. -/
def isReported : WriteError → Bool
  | lookUp _ => false
  | encoding _ => false
  | e => e.file?.all FileError.isReported

def detail : WriteError → String
  | lookUp error => error.message
  | directory path error =>
    s!"Failed to create output directory {path.toString}: {error.message}"
  | file path error => s!"Failed to write file {path.toString}: {error.message}"
  | encoding error => error.message
  | formatterMissing args path reason =>
    "Failed to execute ruff " ++ " ".intercalate args ++ s!" for {path.toString}: {reason}"
  | formatterFailed args path reason =>
    "ruff " ++ " ".intercalate args ++ s!" failed for {path.toString}: {reason}"

def message (e : WriteError) : String :=
  match e.file? with
  | some error => if error.isReported then e.detail else error.message
  | none => e.detail

end WriteError

namespace Formatter

def ignoredRules : List String :=
  ["D100", "D101", "D102", "D103", "E501", "E741", "F811", "F821", "N802", "N803", "N815"]

def runs (path : Path) : List (List String) :=
  [["format", path.toString],
   ["check", "--fix", "--ignore", ",".intercalate ignoredRules, path.toString],
   ["format", path.toString]]

def command (args : List String) : List String := ["-m", "ruff"] ++ args

def signalName : Nat → Option String
  | 1 => some "SIGHUP"
  | 2 => some "SIGINT"
  | 3 => some "SIGQUIT"
  | 4 => some "SIGILL"
  | 6 => some "SIGABRT"
  | 8 => some "SIGFPE"
  | 9 => some "SIGKILL"
  | 11 => some "SIGSEGV"
  | 13 => some "SIGPIPE"
  | 14 => some "SIGALRM"
  | 15 => some "SIGTERM"
  | _ => none

def statusText (status : Int) : String :=
  if 0 ≤ status then s!"Command '['ruff']' returned non-zero exit status {status}."
  else
    match signalName status.natAbs with
    | some name => s!"Command '['ruff']' died with <Signals.{name}: {status.natAbs}>."
    | none => s!"Command '['ruff']' died with unknown signal {status.natAbs}."

def reason (status : Int) (stdout stderr : String) : String :=
  if Text.strip stderr ≠ "" then Text.strip stderr
  else if Text.strip stdout ≠ "" then Text.strip stdout
  else statusText status

structure Outcome where
  commands : List (List String)
  replies : List FormatterReply
  result : Except WriteError Unit

def runAll (path : Path) (replies : List FormatterReply) : List (List String) → Outcome
  | [] => ⟨[], replies, .ok ()⟩
  | args :: rest =>
    match replies.headD .success with
    | .success =>
      let outcome := runAll path replies.tail rest
      { outcome with commands := command args :: outcome.commands }
    | .failure status stdout stderr =>
      ⟨[command args], replies.tail,
        .error (.formatterFailed args path (reason status stdout stderr))⟩
    | .cannotStart text =>
      ⟨[command args], replies.tail, .error (.formatterMissing args path text)⟩

def run (path : Path) (replies : List FormatterReply) : Outcome :=
  runAll path replies (runs path)

end Formatter

end TypedClient
