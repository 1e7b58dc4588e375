import TextQuery.Token.Porter
import TextQuery.Token.Simple
import TextQuery.Token.Unicode

set_option autoImplicit false

namespace TextQuery.Token

inductive Splitter where
  | simple (delimiters : Option (List Char))
  | porter
  | unicode (settings : Unicode.Settings)
deriving DecidableEq, Repr

inductive Refusal where
  | unknownName
  | badArgument
deriving DecidableEq, Repr

namespace Splitter

def ofChoice (name : String) (arguments : List String) : Except Refusal Splitter :=
  match name with
  | "simple" =>
    match Simple.delimiters? arguments with
    | .ok delimiters => .ok (.simple delimiters)
    | .error _ => .error .badArgument
  | "porter" => .ok .porter
  | "unicode61" =>
    match Unicode.Settings.ofArguments? arguments with
    | some settings => .ok (.unicode settings)
    | none => .error .badArgument
  | _ => .error .unknownName

def decode (bytes : List UInt8) : Except (List UInt8) String :=
  match String.fromUTF8? ⟨bytes.toArray⟩ with
  | some text => .ok text
  | none => .error bytes

def tokens (splitter : Splitter) (text : String) : Except (List UInt8) (List String) :=
  match splitter with
  | .simple delimiters => .ok (Simple.tokens delimiters text)
  | .porter => (Porter.tokens text.toUTF8.toList).mapM decode
  | .unicode settings => .ok (Unicode.tokens settings text)

end Splitter

end TextQuery.Token
