import ListingPanel.Shell.Words

/-!
Arithmetic on 64-bit integers, as expressions of the shell language write it.
-/
namespace ListingPanel.Shell.Arithmetic

def wrap (n : Int) : Int := Int.bmod n (Nat.pow 2 64)

abbrev Variables := List (Bytes × Bytes)

/-- The digits of a number in a base; none if one of them is too large. -/
def digitsIn (base : Nat) (ds : Bytes) : Option Nat :=
  ds.foldlM (fun n c =>
    let d := if c.isDigit then c.toNat - '0'.toNat
      else if 'a' ≤ c ∧ c ≤ 'f' then c.toNat - 'a'.toNat + 10
      else if 'A' ≤ c ∧ c ≤ 'F' then c.toNat - 'A'.toNat + 10
      else base
    if d < base then some (base * n + d) else none) 0

/-- An unsigned constant: decimal, octal after a zero, hexadecimal after `0x`. -/
def constant? : Bytes → Option Nat
  | [] => none
  | ['0'] => some 0
  | '0' :: 'x' :: r | '0' :: 'X' :: r => if r.isEmpty then none else digitsIn 16 r
  | '0' :: r => digitsIn 8 r
  | r => digitsIn 10 r

def integer? : Bytes → Option Int
  | '-' :: r => (constant? r).map fun n => -(n : Int)
  | '+' :: r => (constant? r).map Int.ofNat
  | r => (constant? r).map Int.ofNat

/-- Binary operators by their precedence, the longer signs first. -/
def operators : List (String × Nat) :=
  [("||", 1), ("&&", 2), ("<<", 8), (">>", 8), ("<=", 7), (">=", 7), ("==", 6), ("!=", 6),
   ("|", 3), ("^", 4), ("&", 5), ("<", 7), (">", 7), ("+", 9), ("-", 9), ("*", 10), ("/", 10),
   ("%", 10)]

def ofBool (b : Bool) : Int := if b then 1 else 0

/-- The result of an operator; none where it has none. -/
def operate? (op : String) (a b : Int) : Option Int :=
  match op with
  | "||" => some (ofBool (a ≠ 0 || b ≠ 0))
  | "&&" => some (ofBool (a ≠ 0 && b ≠ 0))
  | "|" => some (Int.ofNat (BitVec.ofInt 64 a ||| BitVec.ofInt 64 b).toNat)
  | "^" => some (Int.ofNat (BitVec.ofInt 64 a ^^^ BitVec.ofInt 64 b).toNat)
  | "&" => some (Int.ofNat (BitVec.ofInt 64 a &&& BitVec.ofInt 64 b).toNat)
  | "<<" => some (a * Nat.pow 2 (b.toNat % 64))
  | ">>" => some (a >>> (b.toNat % 64))
  | "<" => some (ofBool (a < b))
  | ">" => some (ofBool (a > b))
  | "<=" => some (ofBool (a ≤ b))
  | ">=" => some (ofBool (a ≥ b))
  | "==" => some (ofBool (a = b))
  | "!=" => some (ofBool (a ≠ b))
  | "+" => some (a + b)
  | "-" => some (a - b)
  | "*" => some (a * b)
  | "/" => if b = 0 then none else some (a.tdiv b)
  | "%" => if b = 0 then none else some (a.tmod b)
  | _ => none

/-- Reads from a text, with variables that may be assigned; none on a fault. -/
abbrev Evaluator := StateT (Bytes × Variables) Option

def blanks : Evaluator Unit :=
  modify fun (cs, vs) => (cs.dropWhile fun c => c = ' ' ∨ c = '\t' ∨ c = '\n', vs)

def accept (s : String) : Evaluator Bool := do
  blanks
  let (cs, vs) ← get
  if s.toList.isPrefixOf cs then set (cs.drop s.length, vs); return true else return false

def valueOf (vs : Variables) (name : Bytes) : Option Int :=
  match vs.lookup name with
  | none | some [] => some 0
  | some v => integer? (v.dropWhile (· = ' '))

def assign (name : Bytes) (n : Int) : Evaluator Unit :=
  modify fun (cs, vs) => (cs, (name, (toString n).toList) :: vs.filter (·.1 ≠ name))

mutual

/-- An expression: assignments, choices and operators. Each call reads a byte or goes to a tighter
operator. -/
def expression : Nat → Evaluator Int
  | 0 => failure
  | fuel + 1 => do
    blanks
    let (cs, vs) ← get
    let (name, r) := cs.span isNameChar
    let r := r.dropWhile (· = ' ')
    if name.head?.any isNameStart ∧ r.head? = some '=' ∧ (r.drop 1).head? ≠ some '=' then
      set (r.drop 1, vs)
      let n ← expression fuel
      assign name n
      return n
    else
      match ["+", "-", "*", "/", "%"].find? fun op => name.head?.any isNameStart &&
          (op ++ "=").toList.isPrefixOf r with
      | some op =>
        set (r.drop 2, vs)
        let b ← expression fuel
        let a ← (valueOf vs name : Option Int)
        let n := wrap (← operate? op a b)
        assign name n
        return n
      | none =>
        let c ← operation fuel 1
        if ← accept "?" then
          let yes ← expression fuel
          if !(← accept ":") then failure
          let no ← expression fuel
          return if c ≠ 0 then yes else no
        else return c

/-- Operators of at least the precedence `least`. -/
def operation : Nat → Nat → Evaluator Int
  | 0, _ => failure
  | fuel + 1, least => do
    let a ← operand fuel
    operationAfter fuel least a

def operationAfter : Nat → Nat → Int → Evaluator Int
  | 0, _, a => return a
  | fuel + 1, least, a => do
    blanks
    let (cs, vs) ← get
    match operators.find? fun (op, p) => least ≤ p && op.toList.isPrefixOf cs with
    | none => return a
    | some (op, p) =>
      set (cs.drop op.length, vs)
      let b ← operation fuel (p + 1)
      let n ← operate? op a b
      operationAfter fuel least (wrap n)

def operand : Nat → Evaluator Int
  | 0 => failure
  | fuel + 1 => do
    blanks
    let (cs, vs) ← get
    match cs with
    | '-' :: r => set (r, vs); return wrap (-(← operand fuel))
    | '+' :: r => set (r, vs); operand fuel
    | '!' :: r => set (r, vs); return ofBool ((← operand fuel) = 0)
    | '~' :: r => set (r, vs); return -(← operand fuel) - 1
    | '(' :: r =>
      set (r, vs)
      let n ← expression fuel
      if ← accept ")" then return n else failure
    | c :: _ =>
      let (name, r) := cs.span isNameChar
      set (r, vs)
      if isNameStart c then valueOf vs name
      else (constant? name).map fun n => wrap n
    | [] => failure

end

def evaluate? (vs : Variables) (cs : Bytes) : Option (Int × Variables) :=
  if cs.all fun c => c = ' ' ∨ c = '\t' ∨ c = '\n' then some (0, vs)
  else
    match (expression (12 * cs.length + 16)).run (cs, vs) with
    | some (n, rest, vs) =>
      if rest.all fun c => c = ' ' ∨ c = '\t' ∨ c = '\n' then some (n, vs) else none
    | none => none

end ListingPanel.Shell.Arithmetic
