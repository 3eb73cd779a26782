namespace TypedClient.PathTemplate

/-- Literal text, then the name between a pair of braces if one follows. -/
structure Piece where
  literal : String
  placeholder? : Option String
  deriving DecidableEq

def Piece.render (piece : Piece) : String :=
  match piece.placeholder? with
  | none => piece.literal
  | some name => piece.literal ++ "\x7b" ++ name ++ "\x7d"

/-- `literal` is the text since the last placeholder, `opened` what follows the last brace that is
still open. A placeholder is closed by the first brace after it and is not empty. -/
def splitFrom (literal : List Char) (opened : Option (List Char)) : List Char → List Piece
  | [] =>
    match literal ++ (opened.map ('{' :: ·)).getD [] with
    | [] => []
    | rest => [⟨String.ofList rest, none⟩]
  | c :: rest =>
    match opened with
    | none =>
      if c = '{' then splitFrom literal (some []) rest
      else splitFrom (literal ++ [c]) none rest
    | some name =>
      if c = '{' then splitFrom (literal ++ '{' :: name) (some []) rest
      else if c = '}' then
        if name.isEmpty then splitFrom (literal ++ ['{', '}']) none rest
        else ⟨String.ofList literal, some (String.ofList name)⟩ :: splitFrom [] none rest
      else splitFrom literal (some (name ++ [c])) rest

def split (path : String) : List Piece :=
  match splitFrom [] none path.toList with
  | [] => [⟨"", none⟩]
  | pieces => pieces

def rename (newName : String → String) (path : String) : String :=
  String.join ((split path).map fun piece =>
    Piece.render { piece with placeholder? := piece.placeholder?.map newName })

end TypedClient.PathTemplate
