import ListingPanel.Shell.Words

/-!
Reading commands. A script is read line by line, each line with the lines that its compound
commands and here-documents need.
-/
namespace ListingPanel.Shell

/-- What is left of a script, and the number of its first line. -/
structure Source where
  text : Bytes
  line : Nat := 1

abbrev Parser := StateT Source (Except SyntaxFault)

namespace Parser

def rest : Parser Bytes := return (← get).text

/-- Goes on with `text`, which ends the present rest. -/
def moveTo (text : Bytes) : Parser Unit := do
  let s ← get
  let read := s.text.take (s.text.length - text.length)
  set { s with text, line := s.line + read.count '\n' }

def drop (n : Nat) : Parser Unit := do moveTo ((← rest).drop n)

/-- Reads blanks, continued lines and a comment. -/
def blanksIn : Bytes → Bytes
  | '\\' :: '\n' :: r => blanksIn r
  | c :: r => if c = ' ' ∨ c = '\t' then blanksIn r else c :: r
  | [] => []

def blanks : Parser Unit := do
  let r := blanksIn (← rest)
  moveTo (if r.head? = some '#' then r.dropWhile (· ≠ '\n') else r)

def accept (s : String) : Parser Bool := do
  blanks
  if s.toList.isPrefixOf (← rest) then drop s.length; return true else return false

/-- Reads blanks and line ends. Every round reads a byte. -/
def newlinesWith : Nat → Parser Unit
  | 0 => return
  | fuel + 1 => do
    blanks
    if (← rest).head? = some '\n' then drop 1; newlinesWith fuel

def newlines : Parser Unit := do newlinesWith ((← rest).length + 1)

def word? : Parser (Option Word) := do
  blanks
  match ← rest with
  | [] => return none
  | c :: _ =>
    if isMeta c then return none
    else
      let (ps, r) ← parts .bare (← rest)
      moveTo r
      return some ps

def word : Parser Word := do
  match ← word? with
  | some w => return w
  | none => throw (.unexpected (if (← rest).isEmpty then "end of file" else "token"))

/-- The next word if it is plain text, left in place. -/
def keyword? : Parser (Option String) := do
  blanks
  let w := (← rest).takeWhile (!isMeta ·)
  if w.isEmpty ∨ w.any (['\'', '"', '\\', '$', '\x60'].contains ·) then return none
  else return some (String.ofList w)

def expect (k : String) : Parser Unit := do
  if (← keyword?) = some k then drop k.length
  else throw (.unexpected ("word (expecting \"" ++ k ++ "\")"))

/-! ### Redirections -/

/-- The lines of a here-document up to its end line, and the text after that. -/
def documentLines (stop : Bytes) (stripTabs : Bool) : Nat → Bytes → List Bytes × Bytes
  | 0, cs => ([], cs)
  | fuel + 1, cs =>
    if cs.isEmpty then ([], [])
    else
      let (line, after) := cs.span (· ≠ '\n')
      let line := if stripTabs then line.dropWhile (· = '\t') else line
      if line = stop then ([], after.drop 1)
      else
        let (ls, r) := documentLines stop stripTabs fuel (after.drop 1)
        (line :: ls, r)

/-- Takes a here-document out of the text: it starts on the line after the present one. -/
def document (stop : Bytes) (quoted stripTabs : Bool) : Parser Word := do
  let (here, later) := (← rest).span (· ≠ '\n')
  let (ls, after) := documentLines stop stripTabs (later.length + 1) (later.drop 1)
  let s ← get
  set { s with text := here ++ (if later.isEmpty then [] else '\n' :: after) }
  let body := ls.flatMap (· ++ ['\n'])
  if quoted then return [.text body true]
  else
    let (ps, _) ← parts .document body
    return ps

/-- The redirection that is next after the blanks, if one is. -/
def redirection? : Parser (Option Redirection) := do
  blanks
  let (digits, r) := (← rest).span (·.isDigit)
  let number := digits.foldl (fun n c => 10 * n + (c.toNat - '0'.toNat)) 0
  let channel (usual : Nat) : Nat := if digits.isEmpty then usual else number
  let here (n : Nat) (stripTabs : Bool) : Parser (Option Redirection) := do
    drop (digits.length + n)
    let (stop, quoted) := unquoted (← word)
    return some (.text (channel 0) (← document stop quoted stripTabs))
  let onto (n : Nat) (make : Word → Redirection) : Parser (Option Redirection) := do
    drop (digits.length + n)
    return some (make (← word))
  match r with
  | '<' :: '<' :: '-' :: _ => here 3 true
  | '<' :: '<' :: _ => here 2 false
  | '<' :: '&' :: _ => onto 2 (.copy (channel 0))
  | '<' :: '>' :: _ => onto 2 (.append (channel 0))
  | '<' :: _ => onto 1 (.read (channel 0))
  | '>' :: '>' :: _ => onto 2 (.append (channel 1))
  | '>' :: '&' :: _ => onto 2 (.copy (channel 1))
  | '>' :: '|' :: _ => onto 2 (.write (channel 1))
  | '>' :: _ => onto 1 (.write (channel 1))
  | _ => return none

def redirectionsWith : Nat → Parser (List Redirection)
  | 0 => return []
  | fuel + 1 => do
    match ← redirection? with
    | some d => return d :: (← redirectionsWith fuel)
    | none => return []

def redirections : Parser (List Redirection) := do redirectionsWith ((← rest).length + 1)

/-! ### Commands -/

def assignment? : Word → Option (Bytes × Word)
  | .text bytes false :: ps =>
    let (name, r) := bytes.span isNameChar
    match name, r with
    | c :: _, '=' :: value =>
      if isNameStart c then some (name, if value.isEmpty then ps else consText value false ps)
      else none
    | _, _ => none
  | _ => none

/-- Words that stand where a list of commands ends. -/
def closers : List String := ["then", "else", "elif", "fi", "do", "done", "esac", "\x7d"]

def simpleWith : Nat → List (Bytes × Word) → List Word → List Redirection →
    Parser (List (Bytes × Word) × List Word × List Redirection)
  | 0, as, ws, ds => return (as, ws, ds)
  | fuel + 1, as, ws, ds => do
    match ← redirection? with
    | some d => simpleWith fuel as ws (ds ++ [d])
    | none =>
      match ← word? with
      | none => return (as, ws, ds)
      | some w =>
        match (if ws.isEmpty then assignment? w else none) with
        | some a => simpleWith fuel (as ++ [a]) ws ds
        | none => simpleWith fuel as (ws ++ [w]) ds

def patternsWith : Nat → Parser (List Word)
  | 0 => return []
  | fuel + 1 => do
    let w ← word
    if ← accept "|" then return w :: (← patternsWith fuel) else return [w]

def wordsWith : Nat → Parser (List Word)
  | 0 => return []
  | fuel + 1 => do
    match ← word? with
    | some w => return w :: (← wordsWith fuel)
    | none => return []

/-- What stands where a command is missing. -/
def nextSign : Parser String := do
  blanks
  match ← keyword? with
  | some k => return "\"" ++ k ++ "\""
  | none =>
    match ← rest with
    | [] => return "end of file"
    | '\n' :: _ => return "newline"
    | ';' :: ';' :: _ => return "\";;\""
    | c :: _ => return "\"" ++ String.ofList [c] ++ "\""

/-- A list of commands that is not empty. -/
def nonEmpty (body : Parser Command) : Parser Command := do
  match ← body with
  | .nothing => throw (.unexpected (← nextSign))
  | c => return c

mutual

/-- A list of commands up to a closing word or sign. -/
def bodyWith : Nat → Parser Command
  | 0 => return .nothing
  | fuel + 1 => do
    newlines
    let r ← rest
    if r.isEmpty ∨ r.head? = some ')' ∨ [';', ';'].isPrefixOf r then return .nothing
    if (← keyword?).any closers.contains then return .nothing
    let c ← andOrWith fuel
    if [';', ';'].isPrefixOf (← do blanks; rest) then return c
    else if ← accept "&" then return .sequence (.background c) (← bodyWith fuel)
    else if ← accept ";" then return .sequence c (← bodyWith fuel)
    else if (← rest).head? = some '\n' then return .sequence c (← bodyWith fuel)
    else return c

/-- Pipelines joined by `&&` and `||`, from the left. -/
def andOrWith : Nat → Parser Command
  | 0 => return .nothing
  | fuel + 1 => do
    let c ← pipelineWith fuel
    andOrAfterWith fuel c

def andOrAfterWith : Nat → Command → Parser Command
  | 0, c => return c
  | fuel + 1, c => do
    if ← accept "&&" then
      newlines
      andOrAfterWith fuel (.both c (← pipelineWith fuel))
    else if ← accept "||" then
      newlines
      andOrAfterWith fuel (.either c (← pipelineWith fuel))
    else return c

def pipelineWith : Nat → Parser Command
  | 0 => return .nothing
  | fuel + 1 => do
    let negated := (← keyword?) = some "!"
    if negated then drop 1
    let c ← commandWith fuel
    let cs ← pipedWith fuel
    if cs.isEmpty ∧ !negated then return c else return .pipeline negated (c :: cs)

def pipedWith : Nat → Parser (List Command)
  | 0 => return []
  | fuel + 1 => do
    blanks
    match ← rest with
    | '|' :: '|' :: _ => return []
    | '|' :: _ =>
      drop 1
      newlines
      let c ← commandWith fuel
      return c :: (← pipedWith fuel)
    | _ => return []

def branchWith : Nat → Parser Command
  | 0 => return .nothing
  | fuel + 1 => do
    let condition ← nonEmpty (bodyWith fuel)
    expect "then"
    let yes ← nonEmpty (bodyWith fuel)
    match ← keyword? with
    | some "elif" =>
      drop 4
      return .branch condition yes (← branchWith fuel) []
    | some "else" =>
      drop 4
      let no ← nonEmpty (bodyWith fuel)
      expect "fi"
      return .branch condition yes no []
    | _ =>
      expect "fi"
      return .branch condition yes .nothing []

def casesWith : Nat → Parser (List (List Word × Command))
  | 0 => return []
  | fuel + 1 => do
    newlines
    if (← keyword?) = some "esac" then drop 4; return []
    let _ ← accept "("
    let patterns ← patternsWith fuel
    if !(← accept ")") then throw (.unexpected "word (expecting \")\")")
    let body ← bodyWith fuel
    newlines
    if ← accept ";;" then return (patterns, body) :: (← casesWith fuel)
    else
      expect "esac"
      return [(patterns, body)]

def commandWith : Nat → Parser Command
  | 0 => return .nothing
  | fuel + 1 => do
    blanks
    if (← rest).head? = some '(' then
      drop 1
      let body ← nonEmpty (bodyWith fuel)
      newlines
      if !(← accept ")") then throw (.unexpected "end of file (expecting \")\")")
      return .subshell body (← redirections)
    match ← keyword? with
    | some "\x7b" =>
      drop 1
      let body ← nonEmpty (bodyWith fuel)
      expect "\x7d"
      return .group body (← redirections)
    | some "if" =>
      drop 2
      let c ← branchWith fuel
      return .group c (← redirections)
    | some "while" =>
      drop 5
      let condition ← nonEmpty (bodyWith fuel)
      expect "do"
      let body ← nonEmpty (bodyWith fuel)
      expect "done"
      return .loop false condition body (← redirections)
    | some "until" =>
      drop 5
      let condition ← nonEmpty (bodyWith fuel)
      expect "do"
      let body ← nonEmpty (bodyWith fuel)
      expect "done"
      return .loop true condition body (← redirections)
    | some "for" =>
      drop 3
      let (name, _) := unquoted (← word)
      newlines
      let words ← if (← keyword?) = some "in" then do
          drop 2
          some <$> wordsWith fuel
        else pure none
      let _ ← accept ";"
      newlines
      expect "do"
      let body ← nonEmpty (bodyWith fuel)
      expect "done"
      return .each name words body (← redirections)
    | some "case" =>
      drop 4
      let subject ← word
      newlines
      expect "in"
      let branches ← casesWith fuel
      return .cases subject branches (← redirections)
    | some k =>
      if closers.contains k then throw (.unexpected ("\"" ++ k ++ "\""))
      let line := (← get).line
      let before ← get
      let first ← word
      if ← accept "(" then
        if !(← accept ")") then throw (.unexpected "word (expecting \")\")")
        newlines
        return .define (unquoted first).1 (← commandWith fuel)
      set before
      let (as, ws, ds) ← simpleWith fuel [] [] []
      return .simple line as ws ds
    | none =>
      let line := (← get).line
      let (as, ws, ds) ← simpleWith fuel [] [] []
      if as.isEmpty ∧ ws.isEmpty ∧ ds.isEmpty then
        throw (.unexpected (← nextSign))
      return .simple line as ws ds

end

def lineWith : Nat → Parser Command
  | 0 => return .nothing
  | fuel + 1 => do
    blanks
    match ← rest with
    | [] => return .nothing
    | '\n' :: _ => drop 1; return .nothing
    | _ =>
      let c ← andOrWith fuel
      if [';', ';'].isPrefixOf (← do blanks; rest) then throw (.unexpected "\";;\"")
      else if ← accept "&" then return .sequence (.background c) (← lineWith fuel)
      else if ← accept ";" then return .sequence c (← lineWith fuel)
      else
        match ← rest with
        | [] => return c
        | '\n' :: _ => drop 1; return c
        | d :: _ => throw (.unexpected ("\"" ++ String.ofList [d] ++ "\""))

end Parser

/-- The commands of the next line of a script, and what is left of it. -/
def nextLine (s : Source) : Except SyntaxFault (Command × Source) :=
  (Parser.lineWith (8 * s.text.length + 16)).run s

end ListingPanel.Shell
