import TypedClient.Target.Class
import TypedClient.Target.Printer
import TypedClient.Target.Term.Reading

namespace TypedClient.Target

def isBindable (name : String) : Bool :=
  match word? name with
  | some w => !keywords.contains w && Text.normal w != "__debug__"
  | none => false

def startsLine (name : String) : Bool := !(name.toList.head?.map Lexeme.isSpace).getD false

def Expr.isReadable (depth : Nat) (e : Expr) : Bool := (Term.ofText? depth e.text).isSome

def FormatPart.isReadable (parts : List FormatPart) : Bool :=
  let (body, quote) := FormatPart.body parts
  Text.closesAtEnd quote (body ++ quote)

def Stmt.awaitedArguments : Stmt → List Expr
  | .ret (.await (.call _ args _)) => args
  | .expr (.await (.call _ args _)) => args
  | _ => []

namespace Function

def isReadable (f : Function) : Bool :=
  (f.signature.arguments.filterMap (·.hint)).all (·.isReadable 1)
    && f.returns.isReadable 0
    && (f.body.flatMap Stmt.awaitedArguments).all (·.isReadable 1)

end Function

namespace Class

def functionBinds (c : Class) (f : Function) : Bool :=
  let names := f.signature.arguments.map (·.name)
  isBindable f.name && names.all isBindable && decide (names.map c.bound).Nodup

def declared (c : Class) : List String :=
  c.members.filterMap fun
    | .stmt (.annotated target _ _) => some target
    | _ => none

def binds (c : Class) : Bool :=
  isBindable c.name && c.declared.all (fun name => startsLine name && isBindable name)
    && c.functions.all c.functionBinds

def isReadable (c : Class) : Bool :=
  c.fields.all (·.hint.isReadable 0) && c.functions.all Function.isReadable

end Class

namespace Item

def binds : Item → Bool
  | lateAnnotations => true
  | imported _ => true
  | typeAlias name _ => Text.isIdentifier name && isBindable name
  | classDef c => c.binds

def isReadable : Item → Bool
  | lateAnnotations => true
  | imported _ => true
  | typeAlias _ value => value.isReadable 0
  | classDef c => c.isReadable

end Item

def Module.isReadable (m : Module) : Bool :=
  m.items.all (fun item => item.binds && item.isReadable)
    && (formats m.exprs).all FormatPart.isReadable

def codeMarks : List Char :=
  ['(', ')', '[', ']', '{', '}', ':', ';', ',', '=', '*', '#', '\\', '"', '\'']

/-- Whether a name, where it is bound, may be read as something else than one name. -/
def isCode (name : String) : Bool :=
  name.toList.any (fun c => c < ' ' || codeMarks.contains c) || name.toList.getLast? = some ' '
    || (name.toList.head?.map fun c => c = ' ' || c = '.').getD true

namespace Member

def hasCode : Member → Bool
  | stmt (.annotated target _ _) => isCode target || target.toList.contains '.'
  | stmt _ => false
  | function f => isCode f.name || f.signature.arguments.any fun a => isCode a.name

end Member

def Item.hasCode : Item → Bool
  | lateAnnotations => false
  | imported _ => false
  | typeAlias name _ => isCode name
  | classDef c => isCode c.name || c.body.any Member.hasCode

/-- Whether a name in a module is code, so that the module does what the name says. -/
def Module.hasCode (m : Module) : Bool :=
  m.items.any Item.hasCode || (m.exprs.flatMap Expr.names).any (!Text.isIdentifier ·)

end TypedClient.Target
