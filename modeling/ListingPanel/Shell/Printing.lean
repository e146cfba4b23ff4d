import ListingPanel.Shell.Arithmetic

/-!
What `echo` and `printf` write.
-/
namespace ListingPanel.Shell

def octalDigit? (c : Char) : Option Nat :=
  if '0' ≤ c ∧ c ≤ '7' then some (c.toNat - '0'.toNat) else none

/-- Up to `most` octal digits: their value as a byte, and the rest. -/
def octal (most : Nat) (cs : Bytes) : Char × Bytes :=
  let ds := (cs.take most).takeWhile fun c => (octalDigit? c).isSome
  (Char.ofNat (ds.foldl (fun n c => 8 * n + (octalDigit? c).getD 0) 0 % 256), cs.drop ds.length)

/-- Escapes of one letter. -/
def letterEscape? (c : Char) : Option Char :=
  match c with
  | 'a' => some (Char.ofNat 7)
  | 'b' => some (Char.ofNat 8)
  | 'e' => some (Char.ofNat 27)
  | 'f' => some (Char.ofNat 12)
  | 'n' => some '\n'
  | 'r' => some '\r'
  | 't' => some '\t'
  | 'v' => some (Char.ofNat 11)
  | '\\' => some '\\'
  | _ => none

/-- The text with its escapes replaced; whether one of them ends all output. A zero before octal
digits does not count as one of them. -/
def unescapeText (cs : Bytes) : Bytes × Bool :=
  match cs with
  | [] => ([], false)
  | '\\' :: c :: r =>
    if c = 'c' then ([], true)
    else if c = '0' then
      let digits := (r.take 3).takeWhile fun c => (octalDigit? c).isSome
      let (t, stop) := unescapeText (r.drop digits.length)
      ((octal 3 r).1 :: t, stop)
    else if (octalDigit? c).isSome then
      let digits := (r.take 2).takeWhile fun c => (octalDigit? c).isSome
      let (t, stop) := unescapeText (r.drop digits.length)
      ((octal 3 (c :: r)).1 :: t, stop)
    else
      let (t, stop) := unescapeText r
      match letterEscape? c with
      | some d => (d :: t, stop)
      | none => ('\\' :: c :: t, stop)
  | c :: r =>
    let (t, stop) := unescapeText r
    (c :: t, stop)
termination_by cs.length
decreasing_by
  all_goals simp only [List.length_cons, List.length_drop]
  all_goals omega

def echoText (args : List Bytes) : Bytes :=
  let (noLine, args) := match args with
    | ['-', 'n'] :: r => (true, r)
    | r => (false, r)
  let (t, stop) := unescapeText ([' '].intercalate args)
  if noLine || stop then t else t ++ ['\n']

/-! ### Formats -/

structure Field where
  left : Bool := false
  zeros : Bool := false
  plus : Bool := false
  space : Bool := false
  alternate : Bool := false
  width : Nat := 0
  precision : Option Nat := none

namespace Field

def pad (f : Field) (sign digits : Bytes) (zeros : Bool) : Bytes :=
  let room := f.width - (sign.length + digits.length)
  if f.left then sign ++ digits ++ List.replicate room ' '
  else if zeros then sign ++ List.replicate room '0' ++ digits
  else List.replicate room ' ' ++ sign ++ digits

def text (f : Field) (cs : Bytes) : Bytes :=
  let cs := match f.precision with
    | some n => cs.take n
    | none => cs
  f.pad [] cs false

def digits (f : Field) (base n : Nat) : Bytes :=
  let ds := Nat.toDigits base n
  match f.precision with
  | some p => List.replicate (p - ds.length) '0' ++ (if n = 0 ∧ p = 0 then [] else ds)
  | none => ds

def signed (f : Field) (n : Int) : Bytes :=
  let sign := if n < 0 then ['-'] else if f.plus then ['+'] else if f.space then [' '] else []
  f.pad sign (f.digits 10 n.natAbs) (f.zeros && f.precision.isNone)

def unsigned (f : Field) (base : Nat) (upper : Bool) (n : Int) : Bytes :=
  let m := (n % Nat.pow 2 64).toNat
  let ds := f.digits base m
  let ds := if upper then ds.map Char.toUpper else ds
  let sign := if f.alternate ∧ m ≠ 0 then
      (if base = 8 then ['0'] else if base = 16 then ['0', if upper then 'X' else 'x'] else [])
    else []
  f.pad sign ds (f.zeros && f.precision.isNone)

end Field

/-- A number as an argument: its value, and whether all of it was read. A quote stands before a
byte whose code is meant. -/
def numberArgument (cs : Bytes) : Int × Bool :=
  match cs with
  | '\'' :: c :: _ | '"' :: c :: _ => (c.toNat, true)
  | _ =>
    let t := cs.dropWhile fun c => c = ' ' ∨ c = '\t' ∨ c = '\n'
    match Arithmetic.integer? t with
    | some n => (n, true)
    | none =>
      let (sign, ds) := match t with
        | '-' :: r => ((-1 : Int), r)
        | '+' :: r => (1, r)
        | r => (1, r)
      let ds := ds.takeWhile (·.isDigit)
      (sign * (ds.foldl (fun n c => 10 * n + (c.toNat - '0'.toNat)) 0 : Nat), cs.isEmpty)

/-- What has been printed: the text, the arguments left, whether all output has ended, and the
arguments that were no numbers. -/
structure Printed where
  text : Bytes := []
  arguments : List Bytes
  usedArgument : Bool := false
  stopped : Bool := false
  faults : List Bytes := []

namespace Printed

def add (p : Printed) (cs : Bytes) : Printed := { p with text := p.text ++ cs }

def take (p : Printed) : Bytes × Printed :=
  match p.arguments with
  | a :: r => (a, { p with arguments := r, usedArgument := true })
  | [] => ([], { p with usedArgument := true })

def takeNumber (p : Printed) : Int × Printed :=
  let (a, p) := p.take
  let (n, whole) := numberArgument a
  (n, if whole then p else { p with faults := p.faults ++ [a] })

end Printed

/-- A width or precision: digits, or a star for an argument. -/
def countIn (p : Printed) (cs : Bytes) : Option Int × Printed × Bytes :=
  match cs with
  | '*' :: r => let (n, p) := p.takeNumber; (some n, p, r)
  | _ =>
    let (ds, r) := cs.span (·.isDigit)
    (if ds.isEmpty then none
      else some (ds.foldl (fun n c => 10 * n + (c.toNat - '0'.toNat)) 0 : Nat), p, r)

/-- Prints by a format once. Every step reads a byte of the format. -/
def printOnce : Nat → Printed → Bytes → Printed
  | 0, p, _ => p
  | _, p, [] => p
  | fuel + 1, p, '\\' :: c :: r =>
    if (octalDigit? c).isSome then
      let (b, rest) := octal 3 (c :: r)
      printOnce fuel (p.add [b]) rest
    else
      match letterEscape? c with
      | some d => printOnce fuel (p.add [d]) r
      | none => printOnce fuel (p.add ['\\', c]) r
  | fuel + 1, p, '%' :: '%' :: r => printOnce fuel (p.add ['%']) r
  | fuel + 1, p, '%' :: r =>
    let (flags, r) := r.span fun c => ['-', '0', '+', ' ', '#'].contains c
    let (width, p, r) := countIn p r
    let (precision, p, r) : Option Int × Printed × Bytes := match r with
      | '.' :: r =>
        let (n, p, r) := countIn p r
        (some (n.getD 0), p, r)
      | r => (none, p, r)
    let f : Field := {
      left := flags.contains '-' || width.any (· < 0)
      zeros := flags.contains '0'
      plus := flags.contains '+'
      space := flags.contains ' '
      alternate := flags.contains '#'
      width := (width.map Int.natAbs).getD 0
      precision := precision.bind fun n => if n < 0 then none else some n.toNat }
    match r with
    | 's' :: r => let (a, p) := p.take; printOnce fuel (p.add (f.text a)) r
    | 'b' :: r =>
      let (a, p) := p.take
      let (t, stop) := unescapeText a
      let p := p.add (f.text t)
      if stop then { p with stopped := true } else printOnce fuel p r
    | 'c' :: r =>
      let (a, p) := p.take
      printOnce fuel (p.add (f.text [a.head?.getD (Char.ofNat 0)])) r
    | 'd' :: r | 'i' :: r => let (n, p) := p.takeNumber; printOnce fuel (p.add (f.signed n)) r
    | 'u' :: r => let (n, p) := p.takeNumber; printOnce fuel (p.add (f.unsigned 10 false n)) r
    | 'o' :: r => let (n, p) := p.takeNumber; printOnce fuel (p.add (f.unsigned 8 false n)) r
    | 'x' :: r => let (n, p) := p.takeNumber; printOnce fuel (p.add (f.unsigned 16 false n)) r
    | 'X' :: r => let (n, p) := p.takeNumber; printOnce fuel (p.add (f.unsigned 16 true n)) r
    | _ => { p with stopped := true, faults := p.faults ++ [['%']] }
  | fuel + 1, p, c :: r => printOnce fuel (p.add [c]) r

/-- Prints by a format as often as arguments are left. -/
def printAll (format : Bytes) : Nat → Printed → Printed
  | 0, p => p
  | rounds + 1, p =>
    let p := printOnce (format.length + 1) { p with usedArgument := false } format
    if p.stopped || p.arguments.isEmpty || !p.usedArgument then p else printAll format rounds p

def printf (format : Bytes) (args : List Bytes) : Printed :=
  printAll format (args.length + 1) { arguments := args }

end ListingPanel.Shell
