/-
The Go code that is written for the parts of a template.

A signature is a name, an argument list between the first opening and the last
closing parenthesis, and the names of the arguments: of each piece between two
commas the first run of characters other than spaces.  A comma inside a type
separates like any other.

Literal text is written as raw literals, which stand between backticks.  A raw
literal cannot hold a backtick and loses its carriage returns, so each of these
two characters is written as an interpreted literal of its own.

A function becomes two routines.  The first streams its output to a writer; the
second collects the stream into a string and hands its own arguments on by name.
-/

import Stencil.Text.Quoted

namespace Stencil

inductive SignatureError where
  | missingOpenParen (raw : Text)
  | missingCloseParen (raw : Text)
deriving DecidableEq

def SignatureError.message : SignatureError → Text
  | .missingOpenParen raw =>
      "missing '(' for function arguments in ".toList ++ Text.quoted raw
  | .missingCloseParen raw =>
      "missing ')' for function arguments in ".toList ++ Text.quoted raw

/-- The name of a function, its argument list with types, and the names of its
arguments with a comma and a space between them. -/
structure Signature where
  name : Text
  args : Text
  argNames : Text
deriving DecidableEq

namespace Signature

def firstWord (text : Text) : Text :=
  (text.dropWhile Text.isSpace).takeWhile fun c => !Text.isSpace c

def namesOf (args : Text) : List Text :=
  (args.splitOn ',').map firstWord

def beforeLastClose? (text : Text) : Option Text :=
  match text.reverse.dropWhile fun c => c != ')' with
  | [] => none
  | _ :: reversed => some reversed.reverse

def split (raw : Text) : Except SignatureError Signature :=
  match raw.dropWhile fun c => c != '(' with
  | [] => .error (.missingOpenParen raw)
  | _ :: rest =>
      match beforeLastClose? rest with
      | none => .error (.missingCloseParen raw)
      | some args =>
          .ok {
            name := Text.trimEnd Text.isSpace (raw.takeWhile fun c => c != '(')
            args := args
            argNames := ", ".toList.intercalate (namesOf args) }

end Signature

/-! ### Literals -/

namespace Go

/-- A literal for a run of characters, for a backtick, or for a carriage return. -/
inductive Literal where
  | raw (run : Text)
  | backtick
  | carriageReturn
deriving DecidableEq

namespace Literal

def spelling : Literal → Text
  | raw run => '\x60' :: (run ++ ['\x60'])
  | backtick => "\"\x60\"".toList
  | carriageReturn => "\"\\r\"".toList

def value : Literal → Text
  | raw run => run
  | backtick => ['\x60']
  | carriageReturn => ['\r']

def push (c : Char) (literals : List Literal) : List Literal :=
  if c = '\x60' then
    backtick :: literals
  else if c = '\r' then
    carriageReturn :: literals
  else
    match literals with
    | raw run :: rest => raw (c :: run) :: rest
    | _ => raw [c] :: literals

/-- The literals for a text: the longest runs without backticks and carriage
returns, and these characters one by one. -/
def ofText (text : Text) : List Literal :=
  text.foldr push []

end Literal

def quoteChar (c : Char) : Text :=
  match c with
  | '"' => "\\\"".toList
  | '\\' => "\\\\".toList
  | '\n' => "\\n".toList
  | '\r' => "\\r".toList
  | '\t' => "\\t".toList
  | c =>
      if c.toNat < 0x20 ∨ c.toNat = 0x7f then
        "\\x".toList ++ Text.hexPadded 2 c.toNat
      else if 0x80 ≤ c.toNat ∧ c.toNat ≤ 0x9f then
        "\\u".toList ++ Text.hexPadded 4 c.toNat
      else
        [c]

def quoted (text : Text) : Text :=
  '"' :: (text.flatMap quoteChar ++ ['"'])

/-! ### Statements -/

def defaultRuntime : Text := "quicktemplate".toList

def funcStart (runtime : Text) (signature : Signature) : Text :=
  "\nfunc ".toList ++ signature.name ++ "Stream(w *".toList ++ runtime ++
    ".Writer, ".toList ++ signature.args ++ ") \x7b\n".toList

def funcEnd (runtime : Text) (signature : Signature) : Text :=
  "\x7d\n\nfunc ".toList ++ signature.name ++ "(".toList ++ signature.args ++
    ") string \x7b\n\tw := ".toList ++ runtime ++ ".AcquireWriter()\n\t".toList ++
    signature.name ++ "Stream(w, ".toList ++ signature.argNames ++
    ")\n\ts := w.String()\n\t".toList ++ runtime ++
    ".ReleaseWriter(w)\n\treturn s\n\x7d\n".toList

def code (contents : Text) : Text :=
  contents ++ ['\n']

def string (expression : Text) : Text :=
  "w.E.S(".toList ++ expression ++ ")\n".toList

def decimal (expression : Text) : Text :=
  "w.D(".toList ++ expression ++ ")\n".toList

def float (expression : Text) : Text :=
  "w.F(".toList ++ expression ++ ")\n".toList

def text (contents : Text) : Text :=
  (Literal.ofText contents).flatMap fun literal => string literal.spelling

end Go
end Stencil
