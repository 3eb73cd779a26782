import TypedClient.Target.Object

namespace TypedClient

inductive Found
  | value (v : Value)
  | object (number : Nat) (o : Target.Object)

def Found.written : Found → String
  | value v => v.written
  | object number o => o.written number

structure Mismatch where
  subject : String
  path : String
  expected : Value
  actual : Found

structure Report where
  verified : Int
  mismatches : List Mismatch

namespace Report

def valueLimit : Int := 160

def lines (m : Mismatch) : List String :=
  ["- " ++ m.subject,
   "  path: " ++ m.path,
   "  expected: " ++ shorten valueLimit m.expected.written,
   "  actual: " ++ shorten valueLimit m.actual.written]

def text (report : Report) : String :=
  "\n".intercalate
    (s!"Verified definitions and methods: {report.verified}"
      :: s!"Mismatches: {report.mismatches.length}" :: report.mismatches.flatMap lines)

end Report

end TypedClient
