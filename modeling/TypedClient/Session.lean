import TypedClient.CommandLine
import TypedClient.Formatter
import TypedClient.Load
import TypedClient.Platform
import TypedClient.Render
import TypedClient.Target.Printer
import TypedClient.Warnings
import TypedClient.Watch

namespace TypedClient

inductive Notice
  | reading (path : Path)
  | fetching (source : String)
  | generating (schemas endpoints : Nat)
  | creating (path : Path)
  | wrote (path : Path)
  | warning (w : Warning)
  | changed (path : Path)

namespace Notice

def isWarning : Notice → Bool
  | warning _ => true
  | _ => false

def part : Notice → String
  | reading _ => "loader"
  | fetching _ => "loader"
  | generating .. => "generator"
  | creating _ => "writer"
  | wrote _ => "writer"
  | warning _ => "generator"
  | changed _ => "watch"

def body : Notice → String
  | reading path => "Reading OpenAPI document from " ++ path.toString
  | fetching source => "Fetching OpenAPI document from " ++ source
  | generating schemas endpoints =>
    s!"Generating code for {schemas} schemas and {endpoints} endpoints"
  | creating path => "Creating output directory " ++ path.toString
  | wrote path => "Wrote " ++ path.toString
  | warning w => w.message
  | changed path => path.toString ++ " changed, regenerating"

def text (notice : Notice) : String :=
  (if notice.isWarning then "WARNING" else "INFO") ++ " openapi_client_generator."
    ++ notice.part ++ ": " ++ notice.body

end Notice

inductive Failure
  | load (e : LoadError)
  | print (e : Target.PrintError)
  | write (e : WriteError)
  | verify (e : VerifyError)
  | output (e : EncodingError)
  | unnamedClass
  | noInput
  | noOutput

namespace Failure

def message : Failure → String
  | load e => e.message
  | print e => e.message
  | write e => e.message
  | verify e => e.message
  | output e => e.message
  | unnamedClass => "can only concatenate str (not \"list\") to str"
  | noInput => "'list' object has no attribute 'startswith'"
  | noOutput => "expected str, bytes or os.PathLike object, not list"

def isReported : Failure → Bool
  | load e => e.isReported
  | print _ => false
  | write e => e.isReported
  | verify e => e.isReported
  | output _ => false
  | unnamedClass => false
  | noInput => false
  | noOutput => false

end Failure

/-- The world of a run: the files, what the formatter will reply to its runs, and what was written
to the output and to the log. -/
structure Session where
  files : FileSystem
  replies : List FormatterReply
  fetch : String → Fetched
  commands : List (List String) := []
  output : List String := []
  log : List String := []
  imports : Nat := 0

structure Edit where
  path : Path
  text : Option String

namespace Session

abbrev Run := ExceptT Failure (StateM Session)

/-- The output takes only what has bytes. The log takes anything. -/
def say (line : String) : Run Unit :=
  match Text.encodingError? line with
  | none => modify fun s => { s with output := s.output ++ [line] }
  | some e => throw (.output e)

/-- Warnings are always noted, all else only if asked for. -/
def note (args : Arguments) (notice : Notice) : Run Unit :=
  if notice.isWarning || args.verbose then
    modify fun s => { s with log := s.log ++ [notice.text] }
  else pure ()

def attempt {ε α : Type} (failure : ε → Failure) : Except ε α → Run α
  | .ok a => pure a
  | .error e => throw (failure e)

def setFiles (files : FileSystem) : Run Unit := modify fun s => { s with files }

def load (platform : Platform) (args : Arguments) : Run Spec := do
  if Load.isUrl args.input then
    note args (.fetching args.input)
    attempt .load (Spec.ofFetched platform.conforms args.input ((← get).fetch args.input))
  else
    note args (.reading (.ofString args.input))
    attempt .load (Spec.ofFile platform.conforms (← get).files args.input)

def outputPath (args : Arguments) : Path := .ofString args.output

def prepare (args : Arguments) : Run Unit := do
  let parent := (outputPath args).parent
  if !(← attempt (.write ∘ .lookUp) ((← get).files.exists? parent)) then
    note args (.creating parent)
    setFiles (← attempt (.write ∘ .directory parent) ((← get).files.makeDirectories parent))

def store (args : Arguments) (text : String) : Run Unit := do
  let path := outputPath args
  setFiles (← attempt (.write ∘ .file path) ((← get).files.write path text))

/-- Writes a module, below directories that are made as needed. The file is emptied before its text
is encoded. -/
def write (args : Arguments) (text : String) : Run Unit := do
  prepare args
  match Text.encodingError? text with
  | none => store args text
  | some e =>
    store args ""
    throw (.write (.encoding e))
  note args (.wrote (outputPath args))

def format (args : Arguments) : Run Unit := do
  let outcome := Formatter.run (outputPath args) (← get).replies
  modify fun s =>
    { s with replies := outcome.replies, commands := s.commands ++ outcome.commands }
  attempt .write outcome.result

def verify (platform : Platform) (args : Arguments) (spec : Spec) : Run Report := do
  modify fun s => { s with imports := s.imports + 1 }
  attempt .verify ((spec.module args.options).verify platform (outputPath args) (← get).imports
    args.options spec)

def summary (args : Arguments) (spec : Spec) : List String :=
  (spec.warnings args.options).map (fun w => "Warning: " ++ w.message)
    ++ [s!"Generated {(outputPath args).toString} ({spec.definedSchemas.length} models, "
      ++ s!"{spec.endpoints.length} methods)"]

def tell (args : Arguments) (spec : Spec) (report : Option Report) : Run Nat := do
  (summary args spec).forM say
  match report with
  | none => return 0
  | some report =>
    say report.text
    return if report.mismatches.isEmpty then 0 else 1

section

variable (platform : Platform)

def printed (args : Arguments) (spec : Spec) : Except Target.PrintError String :=
  (spec.module args.options).print platform.holdsBackslash

def generate (args : Arguments) : Run Nat := do
  let spec ← load platform args
  note args (.generating spec.schemas.length spec.endpoints.length)
  if !args.isClassNamed then throw .unnamedClass
  let text ← attempt .print (printed platform args spec)
  write args text
  if !args.skipFormat then format args
  (spec.warnings args.options).forM fun w => note args (.warning w)
  let report ← if args.verify then some <$> verify platform args spec else pure none
  tell args spec report

def modified? (args : Arguments) : Run (Option Int) := do
  return (← get).files.modified? (.ofString args.input)

def complaint (failure : Failure) : String := "Error: " ++ failure.message

/-- Generates again; a failure that can be reported does not end the watch. -/
def regenerate (args : Arguments) : Run Unit :=
  tryCatch (discard (generate platform args)) fun failure =>
    if failure.isReported then say (complaint failure) else throw failure

def edit (e : Edit) : Run Unit := do
  let files := (← get).files
  match e.text with
  | some text => setFiles (files.store e.path.place (.ok text))
  | none => setFiles (files.remove e.path.place)

/-- One look at the input after some edits, given the time last seen. -/
def poll (args : Arguments) (last : Option Int) (edits : List Edit) : Run (Option Int) := do
  edits.forM edit
  let (seen, isChanged) := Watch.look last (← modified? args)
  if isChanged then
    note args (.changed (.ofString args.input))
    regenerate platform args
  return seen

def polls (args : Arguments) (last : Option Int) : List (List Edit) → Run Unit
  | [] => pure ()
  | edits :: rest => do
    let seen ← poll platform args last edits
    polls args seen rest

inductive Stage
  | finished (status : Nat)
  | watching (args : Arguments) (status : Nat) (last : Option Int)

def refuse (message : String) : Run Stage := do
  modify fun s => { s with log := s.log ++ CommandLine.usage ++ [CommandLine.errorLine message] }
  return .finished 2

def announcement (args : Arguments) : String :=
  s!"Watching {args.input} for changes (Ctrl+C to stop)..."

def start (args : Arguments) : Run Stage := do
  let status ← generate platform args
  if !args.watch then return .finished status
  say (announcement args)
  return .watching args status (← modified? args)

def begin (words : List String) : Run Stage :=
  match Arguments.parse words with
  | .error .help => do
    CommandLine.help.forM say
    return .finished 0
  | .error (.error e) => refuse e.message
  | .error .noInput => throw .noInput
  | .error .noOutput => throw .noOutput
  | .ok args =>
    if args.watch && Load.isUrl args.input then refuse "--watch requires a local input file"
    else
      tryCatch (start platform args) fun failure =>
        if failure.isReported then refuse failure.message else throw failure

def run (words : List String) (edits : List (List Edit)) : Run Nat := do
  match ← begin platform words with
  | .finished status => return status
  | .watching args status last =>
    polls platform args last edits
    say "Stopped watching."
    return status

end

end Session

end TypedClient
