import ListingPanel.Json.Fault
import ListingPanel.Text.Numeral

/-!
Reading the tokens of a JSON text from the left: blanks, words, strings and numbers.
-/
namespace ListingPanel.Json

abbrev Reader (α : Type) := StateT (List Char) (Except Fault) α

def isSpace (c : Char) : Bool := c = ' ' || c = '\n' || c = '\t' || c = '\r'

def peek : Reader (Option Char) := do
  modify (·.dropWhile isSpace)
  return (← get).head?

def advance : Reader Unit := modify (·.drop 1)

def word : List Char → Reader Unit
  | [] => pure ()
  | w :: ws => do
    match ← get with
    | [] => throw .endInValue
    | c :: r => if c = w then set r; word ws else throw .noWord

/-! ### Strings -/

def hexDigit? (c : Char) : Option Nat :=
  if c.isDigit then some (c.toNat - '0'.toNat)
  else if 'a' ≤ c ∧ c ≤ 'f' then some (c.toNat - 'a'.toNat + 10)
  else if 'A' ≤ c ∧ c ≤ 'F' then some (c.toNat - 'A'.toNat + 10)
  else none

/-- The character that a backslash and `c` stand for. -/
def unescape? (c : Char) : Option Char :=
  match c with
  | '"' => some '"'
  | '\\' => some '\\'
  | '/' => some '/'
  | 'b' => some (Char.ofNat 0x08)
  | 'f' => some (Char.ofNat 0x0C)
  | 'n' => some '\n'
  | 'r' => some '\r'
  | 't' => some '\t'
  | _ => none

/-- Whether four bytes are left for the digits of an escape. -/
def hasFourBytes (cs : List Char) : Bool := 4 ≤ (cs.take 4).foldl (fun n c => n + c.utf8Size) 0

inductive Spot where
  | text
  | escape
  /-- Inside four digits: the surrogate before them, the number of digits left, their value. -/
  | digits (high : Option Nat) (left : Nat) (value : Nat)
  /-- After a leading surrogate. -/
  | surrogate (high : Nat)
  | surrogateEscape (high : Nat)

def isLeading (n : Nat) : Bool := 0xD800 ≤ n && n ≤ 0xDBFF

def isTrailing (n : Nat) : Bool := 0xDC00 ≤ n && n ≤ 0xDFFF

/-- Reads a string up to its closing quote. A string that nobody needs may hold surrogates in any
order; one that is `kept` may not. -/
def stringFrom (kept : Bool) : Spot → List Char → Except Fault (List Char × List Char)
  | _, [] => throw .endInString
  | .text, c :: r => do
    if c = '"' then return ([], r)
    else if c = '\\' then stringFrom kept .escape r
    else if c.toNat < 0x20 then throw .controlCharacter
    else
      let (cs, rest) ← stringFrom kept .text r
      return (c :: cs, rest)
  | .escape, c :: r => do
    if c = 'u' then
      if hasFourBytes r then stringFrom kept (.digits none 4 0) r else throw .endInString
    else
      match unescape? c with
      | some d =>
        let (cs, rest) ← stringFrom kept .text r
        return (d :: cs, rest)
      | none => throw .invalidEscape
  | .digits high left value, c :: r => do
    match hexDigit? c with
    | none => throw .invalidEscape
    | some d =>
      let value := 16 * value + d
      if 1 < left then stringFrom kept (.digits high (left - 1) value) r
      else if !kept then stringFrom kept .text r
      else
        match high with
        | some h =>
          if isTrailing value then
            let (cs, rest) ← stringFrom kept .text r
            return (Char.ofNat (0x10000 + (h - 0xD800) * 0x400 + (value - 0xDC00)) :: cs, rest)
          else throw .loneSurrogate
        | none =>
          if isTrailing value then throw .loneSurrogate
          else if isLeading value then stringFrom kept (.surrogate value) r
          else
            let (cs, rest) ← stringFrom kept .text r
            return (Char.ofNat value :: cs, rest)
  | .surrogate h, c :: r =>
    if c = '\\' then stringFrom kept (.surrogateEscape h) r else throw .unfinishedEscape
  | .surrogateEscape h, c :: r =>
    if c = 'u' then
      if hasFourBytes r then stringFrom kept (.digits (some h) 4 0) r else throw .endInString
    else throw .unfinishedEscape

/-- Reads a string whose opening quote has been read. -/
def stringBody : Reader String := do
  let (cs, rest) ← stringFrom true .text (← get)
  set rest
  return String.ofList cs

def skipStringBody : Reader Unit := do
  let (_, rest) ← stringFrom false .text (← get)
  set rest

/-! ### Numbers -/

def digitAhead (cs : List Char) : Bool := cs.head?.any (·.isDigit)

def digitValue (c : Char) : Nat := c.toNat - '0'.toNat

/-- Reads digits as long as they make a number of 64 bits with `n` before them. Gives the number
and how many digits were read. -/
def takeDigits (n count : Nat) : List Char → Nat × Nat × List Char
  | [] => (n, count, [])
  | c :: r =>
    if c.isDigit ∧ 10 * n + digitValue c ≤ Text.maxWord then
      takeDigits (10 * n + digitValue c) (count + 1) r
    else (n, count, c :: r)

/-- The greatest power of ten that is a binary64 number. -/
def maxPower : Nat := 308

def powerOfTen? (n : Nat) : Option Decimal.Binary64 := Decimal.Binary64.ofRatio? (Nat.pow 10 n) 1

/-- Divides by powers of ten, rounding at each of at most `steps` steps. -/
def scaleDown (x : Decimal.Binary64) (exponent : Nat) : Nat → Option Decimal.Binary64
  | 0 => some x
  | steps + 1 =>
    if x.significand = 0 then some x
    else if exponent ≤ maxPower then do x.div? (← powerOfTen? exponent)
    else do scaleDown (← x.div? (← powerOfTen? maxPower)) (exponent - maxPower) steps

/-- `significand * 10 ^ exponent`, rounded at each step. -/
def scaled? (significand : Nat) (exponent : Int) : Option Decimal.Binary64 := do
  let x ← Decimal.Binary64.ofNat? significand
  if exponent < 0 then scaleDown x exponent.natAbs 4
  else if x.significand = 0 then some x
  else if maxPower < exponent.toNat then none
  else x.mul? (← powerOfTen? exponent.toNat)

def real (minus : Bool) (significand : Nat) (exponent : Int) : Reader Number :=
  match scaled? significand exponent with
  | some x => return .real minus x
  | none => throw .numberTooLarge

/-- The greatest exponent that is taken at its value. -/
def maxExponent : Nat := 2147483647

def exponentPart (minus : Bool) (significand : Nat) (scale : Int) : Reader Number := do
  advance
  let negative ← match ← get with
    | '+' :: r => set r; pure false
    | '-' :: r => set r; pure true
    | _ => pure false
  match ← get with
  | [] => throw .endInValue
  | c :: _ =>
    if !c.isDigit then throw .invalidNumber
    else
      let ds := (← get).takeWhile (·.isDigit)
      set ((← get).dropWhile (·.isDigit))
      let n := ds.foldl (fun n d => min (10 * n + digitValue d) (maxExponent + 1)) 0
      if maxExponent < n then
        if significand ≠ 0 && !negative then throw .numberTooLarge
        else return .real minus .zero
      else real minus significand (if negative then scale - n else scale + n)

/-- Reads what may follow the fraction of a number. -/
def afterFraction (minus : Bool) (significand : Nat) (scale : Int) : Reader Number := do
  match ← get with
  | 'e' :: _ | 'E' :: _ => exponentPart minus significand scale
  | _ => real minus significand scale

/-- Reads the fraction of a number, from its point on. Digits beyond 64 bits are passed over. -/
def fractionPart (minus : Bool) (significand : Nat) (scale : Int) : Reader Number := do
  advance
  let (n, count, rest) := takeDigits significand 0 (← get)
  set rest
  if digitAhead rest then
    modify (·.dropWhile (·.isDigit))
    afterFraction minus n (scale - count)
  else if count = 0 then throw (if rest.isEmpty then .endInValue else .invalidNumber)
  else afterFraction minus n (scale - count)

/-- Reads what may follow the whole part `n` of a number. -/
def afterWhole (minus : Bool) (n : Nat) : Reader Number := do
  match ← get with
  | '.' :: _ => fractionPart minus n 0
  | 'e' :: _ | 'E' :: _ => exponentPart minus n 0
  | _ =>
    if !minus then return .natural n
    else if 0 < n ∧ n ≤ Nat.pow 2 63 then return .negative n
    else real true n 0

def number (minus : Bool) : Reader Number := do
  match ← get with
  | [] => throw .endInValue
  | '0' :: r =>
    if digitAhead r then throw .invalidNumber
    set r
    afterWhole minus 0
  | c :: r =>
    if !c.isDigit then throw .invalidNumber
    let (n, _, rest) := takeDigits (digitValue c) 0 r
    set rest
    if digitAhead rest then
      let beyond := (rest.takeWhile (·.isDigit)).length
      set (rest.dropWhile (·.isDigit))
      match ← get with
      | '.' :: _ => fractionPart minus n beyond
      | _ => afterFraction minus n beyond
    else afterWhole minus n

def skipDigits : Reader Unit := do
  let cs ← get
  if digitAhead cs then set (cs.dropWhile (·.isDigit)) else throw .invalidNumber

def skipWhole : Reader Unit := do
  match ← get with
  | '0' :: r => if digitAhead r then throw .invalidNumber else set r
  | _ => skipDigits

def skipFraction : Reader Unit := do
  match ← get with
  | '.' :: r => set r; skipDigits
  | _ => pure ()

def skipSign : Reader Unit := do
  match ← get with
  | '+' :: r | '-' :: r => set r
  | _ => pure ()

def skipExponent : Reader Unit := do
  match ← get with
  | 'e' :: r | 'E' :: r => set r; skipSign; skipDigits
  | _ => pure ()

/-- Passes over a number after its sign. -/
def skipNumber : Reader Unit := do
  skipWhole
  skipFraction
  skipExponent

end ListingPanel.Json
