import TypedClient.Target.Class
import TypedClient.Target.Imported

namespace TypedClient.Target

def slotMethods : List String :=
  ["__delattr__", "__eq__", "__ge__", "__getattribute__", "__gt__", "__hash__", "__init__",
   "__le__", "__lt__", "__ne__", "__repr__", "__setattr__", "__str__"]

def objectMethods : List String :=
  ["__dir__", "__format__", "__getstate__", "__reduce__", "__reduce_ex__", "__sizeof__"]

def classMethods : List String := ["__init_subclass__", "__new__", "__subclasshook__"]

/-- What a module knows of how it was made. No definition takes the place of these. -/
def firmModuleAttribute? (name : String) : Option Object :=
  match name with
  | "__class__" => some (.other "type" "<class 'module'>")
  | "__dict__" => some (.other "dict" "\x7b...\x7d")
  | _ => none

def looseModuleAttribute? (name : String) : Option Object :=
  if name = "__annotations__" then some (.dict [])
  else if slotMethods.contains name then
    some (.other "method-wrapper" s!"<method-wrapper '{name}' of module object>")
  else if (objectMethods ++ classMethods).contains name then
    some (.other "builtin_function_or_method" s!"<built-in method {name} of module object>")
  else none

def objectClass : Object := .builtinClass "object"

/-- What a class knows of how it was made. No method takes the place of these. -/
def firmAttribute? (title name : String) : Option Object :=
  match name with
  | "__name__" => some (.ofText title)
  | "__class__" => some (.builtinClass "type")
  | "__base__" => some objectClass
  | "__bases__" => some (.tuple [objectClass])
  | "__mro__" => some (.tuple [.client title, objectClass])
  | "__basicsize__" => some (.ofInt 24)
  | "__itemsize__" => some (.ofInt 0)
  | "__weakrefoffset__" => some (.ofInt 16)
  | "__text_signature__" => some .null
  | _ => none

def looseAttribute? (number : Nat) (title name : String) : Option Object :=
  if name = "__module__" then some (.ofText (Object.moduleName number))
  else if name = "__qualname__" then some (.ofText title)
  else if name = "__doc__" then some .null
  else if name = "__annotations__" then some (.dict [])
  else if name = "__weakref__" then
    some (.other "getset_descriptor" s!"<attribute '__weakref__' of '{title}' objects>")
  else if slotMethods.contains name then
    some (.other "wrapper_descriptor" s!"<slot wrapper '{name}' of 'object' objects>")
  else if objectMethods.contains name then
    some (.other "method_descriptor" s!"<method '{name}' of 'object' objects>")
  else none

inductive ClassAttribute
  | method (f : Function)
  | object (o : Object)

def Class.attribute? (c : Class) (number : Nat) (name : String) : Option ClassAttribute :=
  match firmAttribute? c.title name, c.method? name with
  | some o, _ => some (.object o)
  | none, some f => some (.method f)
  | none, none => (looseAttribute? number c.title name).map .object

namespace Imported

def lookup? (m : Imported) (name : String) : Option Object :=
  match firmModuleAttribute? name, m.names.lookup name with
  | some o, _ => some o
  | none, some o => some o
  | none, none => looseModuleAttribute? name

end Imported

end TypedClient.Target
