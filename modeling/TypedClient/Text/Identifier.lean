import TypedClient.Text.Case
import TypedClient.Text.IdentifierTable

namespace TypedClient.Text

def startsIdentifier (c : Char) : Bool := inRanges identifierStartRanges c

def continuesIdentifier (c : Char) : Bool := startsIdentifier c || inRanges identifierPartRanges c

def isIdentifierChars : List Char → Bool
  | [] => false
  | c :: rest => startsIdentifier c && rest.all continuesIdentifier

def isIdentifier (s : String) : Bool := isIdentifierChars s.toList

end TypedClient.Text
