import PipeShell.Userland.Script.Syntax

/-!
# What the text of a script is made of

The reader cuts the text into tokens (`Token`). Some words are keywords where a command can start
(`keyword?`). `Token.shown` is how a complaint names a token.
-/

namespace PipeShell.Script

/-- What a redirection does, before the word that comes after it is read. -/
inductive Redirecting
  | file (kind : RedirectKind)
  | copy
  /-- A text of the script; `indented` tells whether tabs at the start of its lines are left out. -/
  | text (indented : Bool)
deriving DecidableEq, Repr

/-- A token. -/
inductive Token
  | endOfFile
  | newline
  | operator (symbol : String)
  | keyword (name : String)
  | redirection (fd : Fd) (action : Redirecting)
  | word (content : Word) (quoted : Bool)

namespace Token

/-- The words that mean something where a command can start. -/
def keywords : List String :=
  ["!", "case", "do", "done", "elif", "else", "esac", "fi", "for", "if", "in", "then", "until",
   "while", "\x7b", "\x7d"]

/-- The keyword that a word spells. -/
def keyword? (word : Word) : Option String :=
  match plain? (word.take 6) with
  | some name => if word.length ≤ 5 then keywords.find? fun k => Bytes.ofString k == name else none
  | none => none

/-- Whether a token is a certain operator or keyword. -/
def isSymbol (symbol : String) : Token → Bool
  | operator s | keyword s => s == symbol
  | _ => false

/-- Whether a list of commands can end before this token. -/
def endsList : Token → Bool
  | endOfFile => true
  | operator s | keyword s =>
    [")", ";;", "do", "done", "elif", "else", "esac", "fi", "then", "\x7d"].contains s
  | _ => false

/-- The token as a complaint names it. -/
def shown : Token → String
  | endOfFile => "end of file"
  | newline => "newline"
  | operator s | keyword s => "\"" ++ s ++ "\""
  | redirection .. => "redirection"
  | word .. => "word"

end Token

end PipeShell.Script
