import TypedClient.Calendar
import TypedClient.Document.Cursor
import TypedClient.Text.Quoted

namespace TypedClient

/-- Why a text is no document. Texts that are malformed are not told apart; the other causes are
scalars that are written well but stand for nothing. -/
inductive DocumentError
  | malformed
  | calendar (error : CalendarError)
  | codePoint
  | wideCodePoint
  | integer (base : Nat) (text : String)
  | longInteger (digits : Nat)
  | float (text : String)
  | overflow
  | emptyNumber
  | truth (text : String)
  | notATimestamp
  | collectionAsTimestamp
  deriving DecidableEq

def DocumentError.message : DocumentError → String
  | .malformed => ""
  | .calendar error => error.message
  | .codePoint => "chr() arg not in range(0x110000)"
  | .wideCodePoint => "Python int too large to convert to C int"
  | .integer base text =>
    s!"invalid literal for int() with base {base}: "
      ++ String.ofList ((Text.quotedChars text.toList).take 200)
  | .longInteger digits =>
    "Exceeds the limit (4300 digits) for integer string conversion: value has "
      ++ s!"{digits} digits; use sys.set_int_max_str_digits() to increase the limit"
  | .float text => "could not convert string to float: " ++ Text.quoted text
  | .overflow => "int too large to convert to float"
  | .emptyNumber => "string index out of range"
  | .truth text => Text.quoted text
  | .notATimestamp => "'NoneType' object has no attribute 'groupdict'"
  | .collectionAsTimestamp => "expected string or bytes-like object, got 'list'"

inductive Directive
  | version (major minor : Nat)
  | tag (handle start : String)
  | other
  deriving DecidableEq

/-- A lexical unit of a document. Indentation shows as starts and ends of blocks. A `fault` stands
where the text cannot be read on. -/
inductive Token
  | fault (cause : DocumentError)
  | directive (d : Directive)
  | documentStart
  | documentEnd
  | streamEnd
  | blockList
  | blockMap
  | blockEnd
  | flowList
  | flowMap
  | flowListEnd
  | flowMapEnd
  | key
  | value
  | blockEntry
  | flowEntry
  | alias' (name : String)
  | anchor (name : String)
  | tag (handle : Option String) (rest : String)
  | scalar (isPlain : Bool) (text : String)
  deriving DecidableEq

end TypedClient
