import TextQuery.Text.Canonical.CombiningClass
import TextQuery.Text.Canonical.Decomposition

set_option autoImplicit false

namespace TextQuery.Text

namespace Canonical

def leadBase : Nat := 0x1100
def vowelBase : Nat := 0x1161
def trailBase : Nat := 0x11A7
def syllableBase : Nat := 0xAC00
def leadCount : Nat := 19
def vowelCount : Nat := 21
def trailCount : Nat := 28
def syllableCount : Nat := leadCount * vowelCount * trailCount

def isSyllable (code : Nat) : Bool := syllableBase ≤ code && code < syllableBase + syllableCount

def syllableParts (code : Nat) : List Nat :=
  let index := code - syllableBase
  let lead := leadBase + index / (vowelCount * trailCount)
  let vowel := vowelBase + index % (vowelCount * trailCount) / trailCount
  if index % trailCount == 0 then [lead, vowel]
  else [lead, vowel, trailBase + index % trailCount]

def composeSyllable? (first second : Nat) : Option Nat :=
  if leadBase ≤ first && first < leadBase + leadCount
      && vowelBase ≤ second && second < vowelBase + vowelCount then
    some (syllableBase + ((first - leadBase) * vowelCount + (second - vowelBase)) * trailCount)
  else if isSyllable first && (first - syllableBase) % trailCount == 0
      && trailBase < second && second < trailBase + trailCount then
    some (first + (second - trailBase))
  else none

def replacement? (code : Nat) : Option Nat :=
  (replacements.find? fun run => run.1 ≤ code && code < run.1 + run.2.length).bind
    fun run => run.2[code - run.1]?

def parts? (code : Nat) : Option (List Nat) :=
  if code < 0xC0 then none
  else if isSyllable code then some (syllableParts code)
  else match pairs.find? fun pair => pair.1 == code with
    | some pair => some [pair.2.1, pair.2.2]
    | none => (replacement? code).map fun other => [other]

def decompositionDepth : Nat := 4

def decomposeCode : Nat → Nat → List Nat
  | 0, code => [code]
  | depth + 1, code =>
    match parts? code with
    | some parts => parts.flatMap (decomposeCode depth)
    | none => [code]

def settle (code : Nat) : List Nat → List Nat
  | [] => [code]
  | last :: rest =>
    -- Marks of one class keep their order, since they sit on one another.
    if classOf code != 0 && classOf code < classOf last then last :: settle code rest
    else code :: last :: rest

def reorder (codes : List Nat) : List Nat :=
  (codes.foldl (fun settled code => settle code settled) []).reverse

def decompose (codes : List Nat) : List Nat :=
  reorder (codes.flatMap (decomposeCode decompositionDepth))

def compose? (first second : Nat) : Option Nat :=
  if second < 0x300 then none
  else match composeSyllable? first second with
    | some whole => some whole
    | none =>
      (pairs.find? fun pair =>
        pair.2.1 == first && pair.2.2 == second && !excluded.contains pair.1).map fun pair => pair.1

/-- Composes what follows a base. The marks in between that did not compose are kept backwards: a
code point is blocked from the base by a kept one of no lower class. -/
def composeAfter (base : Nat) (kept : List Nat) : List Nat → List Nat
  | [] => base :: kept.reverse
  | code :: rest =>
    let blocked := match kept with
      | [] => false
      | last :: _ => classOf code ≤ classOf last
    match if blocked then none else compose? base code with
    | some whole => composeAfter whole kept rest
    | none =>
      -- A code point of class zero is the next base; nothing behind it reaches this one.
      if classOf code == 0 then base :: kept.reverse ++ composeAfter code [] rest
      else composeAfter base (code :: kept) rest

def compose : List Nat → List Nat
  | [] => []
  | base :: rest => composeAfter base [] rest

end Canonical

def normalize (text : String) : String :=
  let codes := text.toList.map Char.toNat
  String.ofList ((Canonical.compose (Canonical.decompose codes)).map Char.ofNat)

end TextQuery.Text
