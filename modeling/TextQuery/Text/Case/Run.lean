
set_option autoImplicit false

namespace TextQuery.Text.Case

abbrev Run := Nat × Nat × Nat × Int

def Run.member (run : Run) (code : Nat) : Bool :=
  run.1 ≤ code && code ≤ run.2.1 && (code - run.1) % run.2.2.1 == 0

def Run.shift (run : Run) (code : Nat) : Nat :=
  (code + run.2.2.2).toNat

def moved? (runs : List Run) (code : Nat) : Option Nat :=
  (runs.find? fun run => run.member code).map fun run => run.shift code

end TextQuery.Text.Case
