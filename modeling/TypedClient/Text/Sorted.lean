namespace TypedClient.Text

def sorted (names : List String) : List String :=
  names.eraseDups.mergeSort fun a b => !decide (b < a)

end TypedClient.Text
