import TypedClient.Naming
import TypedClient.Target.Term.Lexeme
import TypedClient.Text.Normal

namespace TypedClient.Target

abbrev Reading := StateT (List Lexeme) Option

namespace Reading

def peek? : Reading (Option Lexeme) := do return (← get).head?

def accept (l : Lexeme) : Reading Bool := do
  if (← peek?) == some l then
    modify List.tail
    return true
  else return false

def mark (m : String) : Reading Bool := accept (.mark m)

def word (w : String) : Reading Bool := accept (.word w)

def expectMark (m : String) : Reading Unit := do guard (← mark m)

def expectWord (w : String) : Reading Unit := do guard (← word w)

def identifier? : Reading (Option String) := do
  match ← peek? with
  | some (.word w) =>
    if keywords.contains w then return none
    modify List.tail
    return some (Text.normal w)
  | _ => return none

def identifier : Reading String := do
  match ← identifier? with
  | some name => return name
  | none => failure

def constantOf? : String → Option Literal
  | "None" => some .none
  | "True" => some (.bool true)
  | "False" => some (.bool false)
  | _ => none

def joined : Literal → List Lexeme → Option (Literal × List Lexeme)
  | .text s, .value (.text t) :: rest => joined (.text (s ++ t)) rest
  | .bytes s, .value (.bytes t) :: rest => joined (.bytes (s ++ t)) rest
  | .text _, .value (.bytes _) :: _ => none
  | .bytes _, .value (.text _) :: _ => none
  | v, rest => some (v, rest)

def leaf : Reading Term := do
  match ← peek? with
  | some (.value v) =>
    modify List.tail
    return .literal (← joined v)
  | some (.word w) =>
    match constantOf? w with
    | some v =>
      modify List.tail
      return .literal v
    | none => return .name (← identifier)
  | some (.mark "...") =>
    modify List.tail
    return .literal .ellipsis
  | _ => failure

def comparison? : Reading (Option Comparison) := do
  match ← get with
  | .mark "==" :: rest => set rest; return some .eq
  | .mark "!=" :: rest => set rest; return some .ne
  | .mark "<" :: rest => set rest; return some .lt
  | .mark "<=" :: rest => set rest; return some .le
  | .mark ">" :: rest => set rest; return some .gt
  | .mark ">=" :: rest => set rest; return some .ge
  | .word "is" :: .word "not" :: rest => set rest; return some .isOther
  | .word "is" :: rest => set rest; return some .isSame
  | .word "in" :: rest => set rest; return some .isIn
  | .word "not" :: .word "in" :: rest => set rest; return some .isNotIn
  | _ => return none

def levels : List (List (String × BinaryOp)) :=
  [[("|", .bitOr)], [("^", .bitXor)], [("&", .bitAnd)], [("<<", .shiftLeft), (">>", .shiftRight)],
   [("+", .add), ("-", .sub)],
   [("*", .mul), ("/", .div), ("//", .floorDiv), ("%", .mod), ("@", .matMul)]]

def operator? (level : List (String × BinaryOp)) : Reading (Option BinaryOp) := do
  match ← peek? with
  | some (.mark m) =>
    match level.lookup m with
    | some op =>
      modify List.tail
      return some op
    | none => return none
  | _ => return none

def sign? : Reading (Option UnaryOp) := do
  if ← mark "+" then return some .plus
  else if ← mark "-" then return some .minus
  else if ← mark "~" then return some .invert
  else return none

structure Items where
  items : List Term
  isOpen : Bool

def Items.term (items : Items) : Term :=
  match items with
  | ⟨[.unpacked t], false⟩ => .tuple [.unpacked t]
  | ⟨[t], false⟩ => t
  | ⟨ts, _⟩ => .tuple ts

mutual

def expression : Nat → Reading Term
  | 0 => failure
  | n + 1 => do
    if ← word "lambda" then function n []
    else
      let body ← disjunction n
      if ← word "if" then
        let test ← disjunction n
        expectWord "else"
        return .conditional test body (← expression n)
      else return body

def disjunction : Nat → Reading Term
  | 0 => failure
  | n + 1 => do
    let left ← conjunction n
    if ← word "or" then return .disjunction left (← disjunction n) else return left

def conjunction : Nat → Reading Term
  | 0 => failure
  | n + 1 => do
    let left ← negation n
    if ← word "and" then return .conjunction left (← conjunction n) else return left

def negation : Nat → Reading Term
  | 0 => failure
  | n + 1 => do
    if ← word "not" then return .unary .not (← negation n)
    else
      let first ← operand n levels
      match ← comparisons n with
      | [] => return first
      | rest => return .compare first rest

def comparisons : Nat → Reading (List (Comparison × Term))
  | 0 => failure
  | n + 1 => do
    match ← comparison? with
    | none => return []
    | some op =>
      let right ← operand n levels
      return (op, right) :: (← comparisons n)

def operand : Nat → List (List (String × BinaryOp)) → Reading Term
  | 0, _ => failure
  | n + 1, [] => signed n
  | n + 1, level :: tighter => do
    let first ← operand n tighter
    operands n level tighter first

def operands : Nat → List (String × BinaryOp) → List (List (String × BinaryOp)) → Term →
    Reading Term
  | 0, _, _, _ => failure
  | n + 1, level, tighter, left => do
    match ← operator? level with
    | none => return left
    | some op =>
      let right ← operand n tighter
      operands n level tighter (.binary op left right)

def signed : Nat → Reading Term
  | 0 => failure
  | n + 1 => do
    match ← sign? with
    | some op => return .unary op (← signed n)
    | none =>
      let base ← trailers n (← atom n)
      if ← mark "**" then return .binary .pow base (← signed n) else return base

def trailers : Nat → Term → Reading Term
  | 0, _ => failure
  | n + 1, t => do
    if ← mark "." then trailers n (.attribute t (← identifier))
    else if ← mark "[" then
      let index ← indices n
      expectMark "]"
      guard !index.items.isEmpty
      trailers n (.subscript t index.term)
    else if ← mark "(" then
      let (args, keywords) ← arguments n false
      expectMark ")"
      trailers n (.call t args keywords)
    else return t

def atom : Nat → Reading Term
  | 0 => failure
  | n + 1 => do
    if ← mark "(" then
      let inner ← items n ")"
      expectMark ")"
      match inner with
      | ⟨[.unpacked _], false⟩ => failure
      | inner => return inner.term
    else if ← mark "[" then
      let inner ← items n "]"
      expectMark "]"
      match inner with
      | ⟨[.comprehension source], false⟩ => return .comprehension source
      | inner => return .list inner.items
    else if ← mark "\x7b" then braced n
    else leaf

def items : Nat → String → Reading Items
  | 0, _ => failure
  | n + 1, close => do
    if (← peek?) == some (.mark close) then return ⟨[], true⟩
    let first ← item n
    match ← source? n with
    | some source => return ⟨[.comprehension source], false⟩
    | none =>
      if ← mark "," then
        if (← peek?) == some (.mark close) then return ⟨[first], true⟩
        let rest ← moreItems n close
        return ⟨first :: rest, true⟩
      else return ⟨[first], false⟩

def moreItems : Nat → String → Reading (List Term)
  | 0, _ => failure
  | n + 1, close => do
    if (← peek?) == some (.mark close) then return []
    let first ← item n
    if ← mark "," then return first :: (← moreItems n close) else return [first]

def item : Nat → Reading Term
  | 0 => failure
  | n + 1 => do
    if ← mark "*" then return .unpacked (← operand n levels) else expression n

def source? : Nat → Reading (Option Term)
  | 0 => failure
  | n + 1 => do
    discard (word "async")
    if ← word "for" then
      let _ ← targets n
      expectWord "in"
      let source ← disjunction n
      conditions n
      return some source
    else return none

def targets : Nat → Reading Unit
  | 0 => failure
  | n + 1 => do
    discard (mark "*")
    let _ ← operand n levels
    if ← mark "," then
      if (← peek?) == some (.word "in") then return ()
      targets n

def conditions : Nat → Reading Unit
  | 0 => failure
  | n + 1 => do
    if ← word "if" then
      let _ ← disjunction n
      conditions n
    else
      let _ ← source? n

def indices : Nat → Reading Items
  | 0 => failure
  | n + 1 => do
    let first ← index n
    if ← mark "," then
      if (← peek?) == some (.mark "]") then return ⟨[first], true⟩
      let rest ← indices n
      return ⟨first :: rest.items, true⟩
    else return ⟨[first], false⟩

def index : Nat → Reading Term
  | 0 => failure
  | n + 1 => do
    let first ← bound? n
    if ← mark ":" then
      let second ← bound? n
      let third ← if ← mark ":" then bound? n else pure none
      return .slice ([first, second, third].map fun t => t.getD (.literal .none))
    else
      match first with
      | some t => return t
      | none => failure

def bound? : Nat → Reading (Option Term)
  | 0 => failure
  | n + 1 => do
    match ← peek? with
    | some (.mark ":") => return none
    | some (.mark "]") => return none
    | some (.mark ",") => return none
    | _ => return some (← item n)

def arguments : Nat → Bool → Reading (List Term × List (String × Term))
  | 0, _ => failure
  | n + 1, isNamed => do
    if (← peek?) == some (.mark ")") then return ([], [])
    match ← get with
    | .word w :: .mark "=" :: rest =>
      guard !keywords.contains w
      set rest
      let value ← expression n
      let (args, named) ← moreArguments n true
      return (args, (Text.normal w, value) :: named)
    | _ =>
      let first ← item n
      match ← source? n, first with
      | some source, _ => return ([.comprehension source], [])
      | none, .unpacked t =>
        let (args, named) ← moreArguments n isNamed
        return (.unpacked t :: args, named)
      | none, first =>
        guard !isNamed
        let (args, named) ← moreArguments n false
        return (first :: args, named)

def moreArguments : Nat → Bool → Reading (List Term × List (String × Term))
  | 0, _ => failure
  | n + 1, isNamed => do
    if ← mark "," then arguments n isNamed else return ([], [])

def braced : Nat → Reading Term
  | 0 => failure
  | n + 1 => do
    if ← mark "\x7d" then return .dict []
    let first ← item n
    if ← mark ":" then
      let value ← expression n
      match ← source? n with
      | some source =>
        expectMark "\x7d"
        return .comprehension source
      | none =>
        let rest ← entries n
        return .dict ((first, value) :: rest)
    else
      match ← source? n with
      | some source =>
        expectMark "\x7d"
        return .comprehension source
      | none =>
        let rest ← if ← mark "," then moreItems n "\x7d" else pure []
        expectMark "\x7d"
        return .set (first :: rest)

def entries : Nat → Reading (List (Term × Term))
  | 0 => failure
  | n + 1 => do
    if ← mark "\x7d" then return []
    expectMark ","
    if ← mark "\x7d" then return []
    let key ← expression n
    expectMark ":"
    let value ← expression n
    return (key, value) :: (← entries n)

def function : Nat → List Term → Reading Term
  | 0, _ => failure
  | n + 1, defaults => do
    if ← mark ":" then
      let _ ← expression n
      return .function defaults.reverse
    else
      if !(← mark "/") then
        if !(← mark "**") then discard (mark "*")
        discard identifier?
      let defaults ← if ← mark "=" then pure ((← expression n) :: defaults) else pure defaults
      if (← peek?) != some (.mark ":") then expectMark ","
      function n defaults

end

def callsPerLexeme : Nat := 24

def whole (ls : List Lexeme) : Option Term :=
  match expression (callsPerLexeme * (ls.length + 1)) ls with
  | some (t, []) => some t
  | _ => none

end Reading

def Term.ofText? (depth : Nat) (s : String) : Option Term := Lexeme.all depth s >>= Reading.whole

end TypedClient.Target
