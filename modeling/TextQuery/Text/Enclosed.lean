
set_option autoImplicit false

namespace TextQuery.Text

def doubled (mark : Char) : List Char → List Char
  | [] => []
  | c :: rest => if c = mark then mark :: mark :: doubled mark rest else c :: doubled mark rest

def enclosed (mark : Char) (text : String) : String :=
  String.ofList (mark :: (doubled mark text.toList ++ [mark]))

def readEnclosed (mark : Char) : List Char → Option (List Char × List Char)
  | [] => none
  | [c] => if c = mark then some ([], []) else none
  | c :: d :: rest =>
    if c = mark then
      if d = mark then (readEnclosed mark rest).map fun (text, rest) => (mark :: text, rest)
      else some ([], d :: rest)
    else (readEnclosed mark (d :: rest)).map fun (text, rest) => (c :: text, rest)

theorem readEnclosed_mark {mark : Char} {rest : List Char} (ends : rest.head? ≠ some mark) :
    readEnclosed mark (mark :: rest) = some ([], rest) := by
  cases rest with
  | nil => simp [readEnclosed]
  | cons c rest =>
    have other : c ≠ mark := by simpa using ends
    simp [readEnclosed, other]

theorem readEnclosed_cons {mark c : Char} {rest : List Char} (other : c ≠ mark)
    (more : rest ≠ []) :
    readEnclosed mark (c :: rest) =
      (readEnclosed mark rest).map fun (text, rest) => (c :: text, rest) := by
  cases rest with
  | nil => exact absurd rfl more
  | cons d rest => simp [readEnclosed, other]

theorem readEnclosed_doubled {mark : Char} (text : List Char) {rest : List Char}
    (ends : rest.head? ≠ some mark) :
    readEnclosed mark (doubled mark text ++ mark :: rest) = some (text, rest) := by
  induction text with
  | nil => simpa [doubled] using readEnclosed_mark ends
  | cons c text ih =>
    by_cases same : c = mark
    · subst same
      simp [doubled, readEnclosed, ih]
    · rw [doubled, if_neg same, List.cons_append, readEnclosed_cons same (by simp), ih]
      rfl

def identifier (name : String) : String := enclosed '"' name

def literal (text : String) : String := enclosed '\'' text

end TextQuery.Text
