import TypedClient.Naming
import TypedClient.Target.Syntax
import TypedClient.Target.Term.Lexeme
import TypedClient.Text.Normal

namespace TypedClient.Target

/-- The word that a name is written as. There may be blanks around it. -/
def word? (name : String) : Option String :=
  match Lexeme.all 0 name with
  | some [.word w] => some w
  | _ => none

/-- The name that is bound where this one is written: all names are bound in normal form. -/
def bound (name : String) : String := Text.normal ((word? name).getD name)

/-- In a class a name with two leading underscores, and not two trailing ones, is made private:
it goes by the name of the class. -/
def privateName (owner name : String) : String :=
  let owner := owner.toList.dropWhile (· == '_')
  let cs := name.toList
  if ['_', '_'].isPrefixOf cs && !(['_', '_'].isSuffixOf cs) && !owner.isEmpty then
    String.ofList ('_' :: owner ++ cs)
  else name

/-- A line that starts with a number sign is a remark and declares nothing. -/
def Member.isRemark : Member → Bool
  | .stmt (.annotated target _ _) =>
    target.toList.head? = some '#' && target.toList.all fun c => c != '\n' && c != '\r'
  | _ => false

structure ModelField where
  name : String
  alias' : String
  required : Bool
  hint : Expr

namespace Class

def title (c : Class) : String := Target.bound c.name

def bound (c : Class) (name : String) : String := privateName c.title (Target.bound name)

def members (c : Class) : List Member := c.body.filter (!·.isRemark)

def isModel (c : Class) : Bool := !c.bases.isEmpty

def functions (c : Class) : List Function :=
  c.members.filterMap fun
    | .function f => some f
    | .stmt _ => none

def method? (c : Class) (name : String) : Option Function :=
  c.functions.reverse.find? fun f => c.bound f.name = name

def parameterNames (c : Class) (f : Function) : List String :=
  (f.signature.arguments.map fun a => c.bound a.name).filter (· ≠ "self")

def isEllipsis : Expr → Bool
  | .constant .ellipsis => true
  | _ => false

def aliasText (keywords : List (String × Expr)) : String :=
  match keywords.lookup "alias" with
  | some (.constant (.text s)) => s
  | _ => ""

def field? (c : Class) : Member → Option ModelField
  | .stmt (.annotated target hint (.call _ args keywords)) =>
    some ⟨c.bound target, aliasText keywords, args.any isEllipsis, hint⟩
  | _ => none

def putField (fields : List ModelField) (field : ModelField) : List ModelField :=
  if fields.any (·.name = field.name) then
    fields.map fun f => if f.name = field.name then field else f
  else fields ++ [field]

def fields (c : Class) : List ModelField := (c.members.filterMap c.field?).foldl putField []

end Class

/-- The name under which a module has an item. -/
def Item.title : Item → String
  | .lateAnnotations => "annotations"
  | .imported module => module
  | .typeAlias name _ => bound name
  | .classDef c => c.title

end TypedClient.Target
