import TypedClient.Spec
import TypedClient.Text.Digits
import TypedClient.Text.Quoted

/-!
The words of a command line. A setting may be written by any unambiguous beginning of its long
spelling, with its value in the same word or in the next; settings of one letter may share a word.
-/

namespace TypedClient

inductive Setting
  | help
  | input
  | output
  | className
  | moduleName
  | verify
  | watch
  | skipFormat
  | verbose
  deriving DecidableEq

namespace Setting

def all : List Setting :=
  [help, input, output, className, moduleName, verify, watch, skipFormat, verbose]

def spellings : Setting → List String
  | help => ["-h", "--help"]
  | input => ["--input", "-i"]
  | output => ["--output", "-o"]
  | className => ["--class-name", "-c"]
  | moduleName => ["--module-name", "-n"]
  | verify => ["--verify"]
  | watch => ["--watch", "-w"]
  | skipFormat => ["--skip-format"]
  | verbose => ["--verbose", "-v"]

def title (s : Setting) : String := "/".intercalate s.spellings

def takesValue : Setting → Bool
  | input | output | className | moduleName => true
  | _ => false

def needed : List Setting := [input, output]

def spelled : List (String × Setting) := all.flatMap fun s => s.spellings.map (·, s)

end Setting

structure Arguments where
  input : String
  output : String
  options : Options
  isClassNamed : Bool
  verify : Bool
  watch : Bool
  skipFormat : Bool
  verbose : Bool

inductive CommandLineError
  | ambiguous (word : String) (choices : List String)
  | strayValue (setting : Setting) (value : String)
  | missingValue (setting : Setting)
  | missing (settings : List Setting)
  | unrecognized (words : List String)

def CommandLineError.message : CommandLineError → String
  | .ambiguous word choices =>
    s!"ambiguous option: {word} could match " ++ ", ".intercalate choices
  | .strayValue setting value =>
    s!"argument {setting.title}: ignored explicit argument " ++ Text.quoted value
  | .missingValue setting => s!"argument {setting.title}: expected one argument"
  | .missing settings =>
    "the following arguments are required: " ++ ", ".intercalate (settings.map Setting.title)
  | .unrecognized words => "unrecognized arguments: " ++ " ".intercalate words

inductive Stop
  | help
  | error (e : CommandLineError)
  | noInput
  | noOutput

namespace CommandLine

inductive Word
  | plain
  | unknown
  | terminator
  | setting (s : Setting) (isShort : Bool) (value : Option String)

def splitValue (word : String) : String × Option String :=
  let start := word.toList.takeWhile (· != '=')
  match word.toList.drop start.length with
  | [] => (word, none)
  | _ :: value => (String.ofList start, some (String.ofList value))

def isLong (word : String) : Bool := ['-', '-'].isPrefixOf word.toList

def candidates (word : String) : List (String × Setting × Option String) :=
  if isLong word then
    let (start, value) := splitValue word
    (Setting.spelled.filter fun (name, _) => start.toList.isPrefixOf name.toList).map
      fun (name, s) => (name, s, value)
  else
    let short := String.ofList (word.toList.take 2)
    (Setting.spelled.filter (·.1 == short)).map
      fun (name, s) => (name, s, some (String.ofList (word.toList.drop 2)))

def isDigit (c : Char) : Bool := (Text.digitValue? c).isSome

def isNegativeNumber (word : String) : Bool :=
  match word.toList with
  | '-' :: cs =>
    let whole := cs.takeWhile isDigit
    match cs.drop whole.length with
    | [] => !whole.isEmpty
    | ['\n'] => !whole.isEmpty
    | '.' :: places =>
      let rest := places.dropWhile isDigit
      (places.head?.map isDigit).getD false && (rest.isEmpty || rest == ['\n'])
    | _ => false
  | _ => false

/-- A word that starts with a dash and is no setting stands for itself if it is a negative number
or holds a space. -/
def classify (word : String) : Except CommandLineError Word :=
  match word.toList with
  | '-' :: _ :: _ =>
    match Setting.spelled.lookup word with
    | some s => .ok (.setting s (!isLong word) none)
    | none =>
      let (start, value) := splitValue word
      match value, Setting.spelled.lookup start with
      | some value, some s => .ok (.setting s (!isLong word) (some value))
      | _, _ =>
        match candidates word with
        | [(name, s, value)] => .ok (.setting s (!isLong name) value)
        | [] =>
          if isNegativeNumber word || word.toList.contains ' ' then .ok .plain else .ok .unknown
        | several => .error (.ambiguous word (several.map (·.1)))
  | _ => .ok .plain

def classifyAll : List String → Except CommandLineError (List (String × Word))
  | [] => .ok []
  | word :: rest =>
    if word = "--" then .ok ((word, .terminator) :: rest.map (·, .plain))
    else do
      let kind ← classify word
      return (word, kind) :: (← classifyAll rest)

structure Bundle where
  flags : List Setting
  last : Setting
  value : Option String

def unbundle (s : Setting) (value : List Char) : Except CommandLineError Bundle :=
  if s.takesValue then .ok ⟨[], s, some (String.ofList value)⟩
  else
    match value with
    | [] => .error (.strayValue s "")
    | c :: rest =>
      match Setting.spelled.lookup (String.ofList ['-', c]) with
      | none => .error (.strayValue s (String.ofList (c :: rest)))
      | some next =>
        if rest.isEmpty then .ok ⟨[s], next, none⟩
        else do
          let bundle ← unbundle next rest
          return { bundle with flags := s :: bundle.flags }

def expand (s : Setting) (isShort : Bool) : Option String → Except CommandLineError Bundle
  | none => .ok ⟨[], s, none⟩
  | some value =>
    if isShort then unbundle s value.toList
    else if s.takesValue then .ok ⟨[], s, some value⟩
    else .error (.strayValue s value)

structure Given where
  settings : List (Setting × String) := []
  extras : List String := []

namespace Given

def set (given : Given) (flags : List Setting) (last : Setting) (value : String) : Given :=
  { given with settings := given.settings ++ flags.map (·, "") ++ [(last, value)] }

def skip (given : Given) (word : String) : Given := { given with extras := given.extras ++ [word] }

def has (given : Given) (s : Setting) : Bool := given.settings.any (·.1 = s)

def value? (given : Given) (s : Setting) : Option String := given.settings.reverse.lookup s

end Given

def orHelp (given : Given) : Except Stop Given :=
  if given.has .help then .error .help else .ok given

def consume (given : Given) : List (String × Word) → Except Stop Given
  | [] => .ok given
  | (_, .setting s isShort value) :: rest =>
    match expand s isShort value with
    | .error e => .error (.error e)
    | .ok bundle =>
      if !bundle.last.takesValue then do
        let given ← orHelp (given.set bundle.flags bundle.last "")
        consume given rest
      else
        match bundle.value with
        | some value => do
          let given ← orHelp (given.set bundle.flags bundle.last value)
          consume given rest
        | none =>
          match rest with
          | (value, .plain) :: rest => do
            let given ← orHelp (given.set bundle.flags bundle.last value)
            consume given rest
          | _ => .error (.error (.missingValue bundle.last))
  | (word, _) :: rest => consume (given.skip word) rest

def isEmptyList (given : Given) (s : Setting) : Bool := given.value? s == some "--"

def arguments (given : Given) : Arguments :=
  let standard : Options := {}
  let moduleName := (given.value? .moduleName).getD standard.moduleName
  { input := (given.value? .input).getD ""
    output := (given.value? .output).getD ""
    options :=
      { className := (given.value? .className).getD standard.className
        moduleName := if isEmptyList given .moduleName then "[]" else moduleName }
    isClassNamed := !isEmptyList given .className
    verify := given.has .verify
    watch := given.has .watch
    skipFormat := given.has .skipFormat
    verbose := given.has .verbose }

def usage : List String :=
  ["usage: openapi-client-generator [-h] --input INPUT --output OUTPUT",
   "                                [--class-name CLASS_NAME]",
   "                                [--module-name MODULE_NAME] [--verify]",
   "                                [--watch] [--skip-format] [--verbose]"]

def help : List String :=
  usage ++
  ["",
   "Generate a typed async Python API client from an OpenAPI document",
   "",
   "options:",
   "  -h, --help            show this help message and exit",
   "  --input INPUT, -i INPUT",
   "                        Path or URL of an OpenAPI YAML/JSON document",
   "  --output OUTPUT, -o OUTPUT",
   "                        Output file path for the generated client module",
   "  --class-name CLASS_NAME, -c CLASS_NAME",
   "                        Name of the generated client class",
   "  --module-name MODULE_NAME, -n MODULE_NAME",
   "                        Module name recorded in the generated module docstring",
   "  --verify              Import the generated module and check it against the",
   "                        document",
   "  --watch, -w           Watch the input file for changes and regenerate",
   "                        automatically",
   "  --skip-format         Do not run ruff over the generated module",
   "  --verbose, -v         Log progress details"]

def errorLine (message : String) : String := "openapi-client-generator: error: " ++ message

end CommandLine

def Arguments.parse (words : List String) : Except Stop Arguments := do
  let kinds ← (CommandLine.classifyAll words).mapError .error
  let given ← CommandLine.consume {} kinds
  let missing := Setting.needed.filter (!given.has ·)
  if !missing.isEmpty then throw (.error (.missing missing))
  if !given.extras.isEmpty then throw (.error (.unrecognized given.extras))
  if CommandLine.isEmptyList given .output then throw .noOutput
  if CommandLine.isEmptyList given .input then throw .noInput
  return CommandLine.arguments given

end TypedClient
