import ListingPanel.Shell.Syntax

/-!
Reading words: quotes, parameters, outputs of commands and arithmetic.
-/
namespace ListingPanel.Shell

def isNameStart (c : Char) : Bool := c.isAlpha || c = '_'

def isNameChar (c : Char) : Bool := c.isAlphanum || c = '_'

/-- Parameters whose name is one sign. -/
def isSpecialName (c : Char) : Bool := ['@', '*', '#', '?', '-', '$', '!'].contains c

/-- Ends a word that is not quoted. -/
def isMeta (c : Char) : Bool :=
  [' ', '\t', '\n', ';', '&', '|', '<', '>', '(', ')'].contains c

/-- Where a word stands. -/
inductive Quoting where
  | bare
  | double
  /-- In the braces of a parameter. -/
  | braced
  /-- A text where only parameters and backslashes count. -/
  | document
  deriving DecidableEq

namespace Quoting

def isQuoted : Quoting → Bool
  | double | document => true
  | bare | braced => false

/-- Ends the word. -/
def stops : Quoting → Char → Bool
  | bare, c => isMeta c
  | double, c => c = '"'
  | braced, c => c = '\x7d'
  | document, _ => false

/-- May end with the text. -/
def mayEnd : Quoting → Bool
  | bare | document => true
  | double | braced => false

/-- Loses its meaning after a backslash. -/
def escapable : Quoting → Char → Bool
  | double, c => ['$', '\x60', '"', '\\'].contains c
  | document, c => ['$', '\x60', '\\'].contains c
  | bare, _ | braced, _ => true

end Quoting

/-- Adds text in front of parts. -/
def consText (bytes : Bytes) (quoted : Bool) : List Part → List Part
  | .text more q :: ps =>
    if q = quoted then .text (bytes ++ more) quoted :: ps
    else .text bytes quoted :: .text more q :: ps
  | ps => .text bytes quoted :: ps

/-- Splits at the parenthesis that closes `depth` open ones. Quoted parentheses do not count. -/
def splitAtParenthesis (depth : Nat) (quote : Option Char) : Bytes → Option (Bytes × Bytes)
  | [] => none
  | '\\' :: c :: r =>
    if quote = some '\'' then
      if c = '\'' then (splitAtParenthesis depth none r).map fun (a, b) => ('\\' :: c :: a, b)
      else (splitAtParenthesis depth quote r).map fun (a, b) => ('\\' :: c :: a, b)
    else (splitAtParenthesis depth quote r).map fun (a, b) => ('\\' :: c :: a, b)
  | c :: r =>
    let go (depth : Nat) (quote : Option Char) : Option (Bytes × Bytes) :=
      (splitAtParenthesis depth quote r).map fun (a, b) => (c :: a, b)
    match quote with
    | some q => go depth (if c = q then none else quote)
    | none =>
      if c = '\'' ∨ c = '"' then go depth (some c)
      else if c = '(' then go (depth + 1) none
      else if c = ')' then if depth ≤ 1 then some ([], r) else go (depth - 1) none
      else go depth none

/-- Splits at the next backquote. A backslash before a backquote, a dollar or a backslash is taken
away. -/
def splitAtBackquote : Bytes → Option (Bytes × Bytes)
  | [] => none
  | '\\' :: c :: r =>
    (splitAtBackquote r).map fun (a, b) =>
      (if ['$', '\x60', '\\'].contains c then (c :: a, b) else ('\\' :: c :: a, b))
  | c :: r =>
    if c = '\x60' then some ([], r)
    else (splitAtBackquote r).map fun (a, b) => (c :: a, b)

/-- The name of a parameter in braces, and what follows it. -/
def bracedName : Bytes → Option (Bytes × Bytes)
  | [] => none
  | c :: r =>
    if isNameStart c then some ((c :: r).span isNameChar)
    else if c.isDigit then some ((c :: r).span (·.isDigit))
    else if isSpecialName c then some ([c], r)
    else none

/-- Reads the parts of a word. Every call reads a byte, so the length of the text is enough
fuel. -/
def partsWith : Nat → Quoting → Bytes → Except SyntaxFault (List Part × Bytes)
  | 0, _, _ => throw (.unterminated "word")
  | fuel + 1, mode, cs => do
    let quoted := mode.isQuoted
    match cs with
    | [] => if mode.mayEnd then return ([], []) else throw (.unterminated "quoted string")
    | c :: r =>
      let add (part : Part) (rest : Bytes) : Except SyntaxFault (List Part × Bytes) := do
        let (ps, rest) ← partsWith fuel mode rest
        return (part :: ps, rest)
      let addText (bytes : Bytes) (quoted : Bool) (rest : Bytes) :
          Except SyntaxFault (List Part × Bytes) := do
        let (ps, rest) ← partsWith fuel mode rest
        return (consText bytes quoted ps, rest)
      if mode.stops c then return ([], c :: r)
      else if c = '\\' then
        match r with
        | [] => addText ['\\'] quoted []
        | d :: rest =>
          if d = '\n' then partsWith fuel mode rest
          else if mode.escapable d then addText [d] true rest
          else addText ['\\'] quoted r
      else if c = '\'' ∧ !quoted then
        match r.span (· ≠ '\'') with
        | (inside, _ :: rest) => addText inside true rest
        | (_, []) => throw (.unterminated "quoted string")
      else if c = '"' ∧ !quoted then
        let (inside, rest) ← partsWith fuel .double r
        let (ps, rest) ← partsWith fuel mode (rest.drop 1)
        return (.text [] true :: (inside ++ ps), rest)
      else if c = '\x60' then
        match splitAtBackquote r with
        | some (script, rest) => add (.output script quoted) rest
        | none => throw (.unterminated "backquote substitution")
      else if c = '$' then
        match r with
        | '(' :: '(' :: rest =>
          match splitAtParenthesis 2 none rest with
          | some (inside, rest) =>
            let (expression, _) ← partsWith fuel .document inside.dropLast
            add (.arithmetic expression quoted) rest
          | none => throw (.unterminated "arithmetic expression")
        | '(' :: rest =>
          match splitAtParenthesis 1 none rest with
          | some (script, rest) => add (.output script quoted) rest
          | none => throw (.unterminated "command substitution")
        | '\x7b' :: '#' :: '\x7d' :: rest => add (.parameter ['#'] .value quoted) rest
        | '\x7b' :: '#' :: rest =>
          match bracedName rest with
          | some (name, '\x7d' :: rest) => add (.parameter name .length quoted) rest
          | _ => throw (.unexpected "Bad substitution")
        | '\x7b' :: rest =>
          match bracedName rest with
          | none => throw (.unexpected "Bad substitution")
          | some (name, rest) =>
            let close (use : List Part → Use) (rest : Bytes) :
                Except SyntaxFault (List Part × Bytes) := do
              let (word, rest) ← partsWith fuel .braced rest
              let (ps, rest) ← partsWith fuel mode (rest.drop 1)
              return (.parameter name (use word) quoted :: ps, rest)
            match rest with
            | '\x7d' :: rest => add (.parameter name .value quoted) rest
            | ':' :: '-' :: rest => close (.fallback true) rest
            | ':' :: '=' :: rest => close (.assign true) rest
            | ':' :: '+' :: rest => close (.replace true) rest
            | ':' :: '?' :: rest => close (.require true) rest
            | '-' :: rest => close (.fallback false) rest
            | '=' :: rest => close (.assign false) rest
            | '+' :: rest => close (.replace false) rest
            | '?' :: rest => close (.require false) rest
            | '%' :: '%' :: rest => close (.trim true true) rest
            | '%' :: rest => close (.trim true false) rest
            | '#' :: '#' :: rest => close (.trim false true) rest
            | '#' :: rest => close (.trim false false) rest
            | _ => throw (.unexpected "Bad substitution")
        | d :: rest =>
          if isNameStart d then
            let (name, rest) := r.span isNameChar
            add (.parameter name .value quoted) rest
          else if d.isDigit ∨ isSpecialName d then add (.parameter [d] .value quoted) rest
          else addText ['$'] quoted r
        | [] => addText ['$'] quoted []
      else addText [c] quoted r

/-- Reads the parts of a word off the front of a text. -/
def parts (mode : Quoting) (cs : Bytes) : Except SyntaxFault (List Part × Bytes) :=
  partsWith (cs.length + 1) mode cs

/-- The text of a word without quotes and parameters. -/
def plainText? : Word → Option Bytes
  | [] => some []
  | .text bytes false :: ps => (plainText? ps).map (bytes ++ ·)
  | _ => none

/-- The text of a word with its quotes taken away, and whether there were any. -/
def unquoted : Word → Bytes × Bool
  | [] => ([], false)
  | .text bytes q :: ps => let (t, r) := unquoted ps; (bytes ++ t, q || r)
  | _ :: ps => unquoted ps

end ListingPanel.Shell
