/-!
Commands of the shell language, as far as small scripts use it.
-/
namespace ListingPanel.Shell

/-- A text of bytes, each of which is carried by the character of its code. -/
abbrev Bytes := List Char

mutual

/-- A part of a word. What is quoted is neither split into fields nor a pattern. -/
inductive Part where
  | text (bytes : Bytes) (quoted : Bool)
  | parameter (name : Bytes) (use : Use) (quoted : Bool)
  /-- The output of a script. -/
  | output (script : Bytes) (quoted : Bool)
  | arithmetic (expression : List Part) (quoted : Bool)

/-- What is made of a parameter. -/
inductive Use where
  | value
  | length
  /-- A word in place of a missing value; in place of an empty one too, if `orEmpty`. -/
  | fallback (orEmpty : Bool) (word : List Part)
  /-- The same, and the parameter takes the word as its value. -/
  | assign (orEmpty : Bool) (word : List Part)
  /-- A word in place of a value that is there. -/
  | replace (orEmpty : Bool) (word : List Part)
  /-- A missing value is an error. -/
  | require (orEmpty : Bool) (word : List Part)
  /-- The value without what matches a pattern at its end or its start. -/
  | trim (fromEnd longest : Bool) (pattern : List Part)

end

abbrev Word := List Part

inductive Redirection where
  | read (channel : Nat) (file : Word)
  | write (channel : Nat) (file : Word)
  | append (channel : Nat) (file : Word)
  /-- Makes a channel the same as another one, or closes it. -/
  | copy (channel : Nat) (from_ : Word)
  /-- Reads a text. -/
  | text (channel : Nat) (text : Word)

inductive Command where
  | nothing
  | simple (line : Nat) (assignments : List (Bytes × Word)) (words : List Word)
      (redirections : List Redirection)
  | pipeline (negated : Bool) (commands : List Command)
  | both (first second : Command)
  | either (first second : Command)
  | sequence (first second : Command)
  | background (body : Command)
  | subshell (body : Command) (redirections : List Redirection)
  | group (body : Command) (redirections : List Redirection)
  | branch (condition yes no : Command) (redirections : List Redirection)
  | loop (untilTrue : Bool) (condition body : Command) (redirections : List Redirection)
  | each (name : Bytes) (words : Option (List Word)) (body : Command)
      (redirections : List Redirection)
  | cases (subject : Word) (branches : List (List Word × Command))
      (redirections : List Redirection)
  | define (name : Bytes) (body : Command)

inductive SyntaxFault where
  | unterminated (what : String)
  | unexpected (what : String)
  deriving DecidableEq, Repr

def SyntaxFault.message : SyntaxFault → String
  | .unterminated what => "Syntax error: Unterminated " ++ what
  | .unexpected what => "Syntax error: " ++ what ++ " unexpected"

end ListingPanel.Shell
