import TypedClient.Session

/-!
The program over real files. Documents are not fetched and the formatter is not started here: a
run that needs either fails as if it could not be reached.
-/

namespace TypedClient.Program

def look (fs : FileSystem) (path : Path) : IO FileSystem := do
  try
    let bytes ← IO.FS.readBinFile path.toString
    return fs.store path.place (Text.decode bytes.toList)
  catch
    | .noFileOrDirectory .. => return fs.remove path.place
    | _ => return { fs with directories := path.place :: fs.directories }

def snapshot (args : Arguments) : IO FileSystem := do
  let output := Path.ofString args.output
  let above := (FileSystem.ancestors output.parts).map fun parts => { output with parts }
  (Path.ofString args.input :: above).foldlM look FileSystem.empty

/-- Writes the output file if it was stored at `start` or later. -/
def flush (fs : FileSystem) (output : Path) (start : Nat) : IO Unit := do
  match fs.file? output.place with
  | some ⟨.ok text, modified⟩ =>
    if start ≤ modified then
      IO.FS.createDirAll output.parent.toString
      IO.FS.writeFile output.toString text
  | _ => return

def perform {α : Type} (part : Session.Run α) (output : Option Path) (session : Session) :
    IO (Except Failure α × Session) := do
  let noFormatter := FormatterReply.cannotStart "No formatter is available"
  let (outcome, after) := part.run { session with replies := [noFormatter] }
  output.forM (flush after.files · session.files.clock)
  after.log.forM IO.eprintln
  after.output.forM IO.println
  return (outcome, { after with output := [], log := [] })

def differs : Option File → Option File → Bool
  | some ⟨.ok s, _⟩, some ⟨.ok t, _⟩ => s != t
  | some ⟨.error e, _⟩, some ⟨.error f, _⟩ => e != f
  | none, none => false
  | _, _ => true

/-- Looks at the input once a second, until the program is interrupted. -/
partial def watch (args : Arguments) (last : Option Int) (session : Session) : IO UInt32 := do
  IO.sleep 1000
  let input := Path.ofString args.input
  let files ← look session.files input
  let isChanged := differs (session.files.file? input.place) (files.file? input.place)
  let session := if isChanged then { session with files } else session
  match ← perform (Session.poll .standard args last []) (some (.ofString args.output)) session with
  | (.ok seen, session) => watch args seen session
  | (.error failure, _) =>
    IO.eprintln failure.message
    return 1

def run (words : List String) : IO UInt32 := do
  let args := (Arguments.parse words).toOption
  let files ← (args.map snapshot).getD (pure FileSystem.empty)
  let session : Session :=
    { files, replies := [], fetch := fun _ => .failure "No network is available" }
  match ← perform (Session.begin .standard words) (args.map fun args => .ofString args.output)
    session with
  | (.ok (.finished status), _) => return status.toUInt32
  | (.ok (.watching args _ last), session) => watch args last session
  | (.error failure, _) =>
    IO.eprintln failure.message
    return 1

end TypedClient.Program

def main (words : List String) : IO UInt32 := TypedClient.Program.run words
