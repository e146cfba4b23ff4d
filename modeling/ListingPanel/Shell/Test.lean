import ListingPanel.Shell.Printing
import ListingPanel.Shell.Process

/-!
Conditions of `test`.
-/
namespace ListingPanel.Shell

/-- A condition that cannot be decided. -/
abbrev Verdict := Except Bytes Bool

def integerOperand (cs : Bytes) : Except Bytes Int :=
  let t := (cs.dropWhile (· = ' ')).reverse.dropWhile (· = ' ') |>.reverse
  let (sign, ds) := match t with
    | '-' :: r => ((-1 : Int), r)
    | '+' :: r => (1, r)
    | r => (1, r)
  if ds.isEmpty ∨ !ds.all (·.isDigit) then .error ("Illegal number: ".toList ++ cs)
  else .ok (sign * (ds.foldl (fun n c => 10 * n + (c.toNat - '0'.toNat)) 0 : Nat))

def unaryTest? (p : Process) (op operand : Bytes) : Option Bool :=
  let entry := p.world.files.find? p.directory (pathOf operand)
  match String.ofList op with
  | "-n" => some (!operand.isEmpty)
  | "-z" => some operand.isEmpty
  | "-e" => some entry.isSome
  | "-f" => some (entry.any (·.2.isFile))
  | "-d" => some (entry.any (·.2 = .directory))
  | "-r" | "-w" => some entry.isSome
  | "-s" => some (entry.any fun (_, e) =>
      match e with
      | .file bytes _ => !bytes.isEmpty
      | .sink => false
      | _ => true)
  | "-x" => some (entry.any fun (_, e) =>
      match e with
      | .file _ x => x
      | .sink => false
      | _ => true)
  | "-L" | "-h" =>
    some (match p.world.files.follow p.directory (pathOf operand) true with
      | .ok (.entry _ (.link _)) => true
      | _ => false)
  | "-t" => some false
  | _ => none

def binaryTest? (a op b : Bytes) : Option Verdict :=
  let compare (f : Int → Int → Bool) : Option Verdict := some do
    return f (← integerOperand a) (← integerOperand b)
  match String.ofList op with
  | "=" => some (.ok (a = b))
  | "!=" => some (.ok (a ≠ b))
  | "-eq" => compare fun m n => m = n
  | "-ne" => compare fun m n => m ≠ n
  | "-lt" => compare fun m n => m < n
  | "-le" => compare fun m n => m ≤ n
  | "-gt" => compare fun m n => m > n
  | "-ge" => compare fun m n => m ≥ n
  | _ => none

/-- Splits at the last operand that is `sign`. -/
def splitAtOperand (sign : Bytes) (args : List Bytes) : Option (List Bytes × List Bytes) :=
  match args.findIdx? (· = sign) with
  | some n => if n = 0 then none else some (args.take n, args.drop (n + 1))
  | none => none

/-- Decides a condition. Parts of it have fewer operands. -/
def testWith (p : Process) : Nat → List Bytes → Verdict
  | 0, _ => .error "too many arguments".toList
  | _, [] => .ok false
  | _, [a] => .ok (!a.isEmpty)
  | fuel + 1, args =>
    let simple : Option Verdict := match args with
      | [['!'], a] => some (.ok a.isEmpty)
      | [op, a] => (unaryTest? p op a).map .ok
      | [a, op, b] => binaryTest? a op b
      | _ => none
    match simple with
    | some v => v
    | none =>
      match splitAtOperand "-o".toList args with
      | some (l, r) => do
        let a ← testWith p fuel l
        let b ← testWith p fuel r
        return a || b
      | none =>
        match splitAtOperand "-a".toList args with
        | some (l, r) => do
          let a ← testWith p fuel l
          let b ← testWith p fuel r
          return a && b
        | none =>
          match args with
          | ['!'] :: r => (testWith p fuel r).map (!·)
          | ['('] :: r =>
            if r.getLast? = some [')'] then testWith p fuel r.dropLast
            else .error "closing paren expected".toList
          | _ :: op :: _ => .error (op ++ ": unexpected operator".toList)
          | _ => .error "unexpected operator".toList

def test (p : Process) (args : List Bytes) : Verdict := testWith p (args.length + 1) args

end ListingPanel.Shell
