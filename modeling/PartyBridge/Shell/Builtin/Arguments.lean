import PartyBridge.Shell.Arithmetic
import PartyBridge.Shell.State

/-!
# Arguments of builtins

Options are letters behind a hyphen; a letter may take an argument. Numbers are not negative and fit into
31 bits.
-/

namespace PartyBridge.Shell

structure Given where
  options : List (Char × List Char)
  operands : List (List Char)
deriving Repr, DecidableEq, Inhabited

namespace Given

def has (g : Given) (c : Char) : Bool :=
  g.options.any fun (d, _) => d == c

end Given

/-- Letters of one argument. `takes` tells for each letter that is known whether it takes an argument. -/
def readLetters (takes : Char → Option Bool) :
    List Char → List (List Char) → Except (List Char) (List (Char × List Char) × List (List Char))
  | [], rest => .ok ([], rest)
  | c :: letters, rest =>
    match takes c with
    | none => .error ("Illegal option -".toList ++ [c])
    | some false => do
      let (options, rest) ← readLetters takes letters rest
      return ((c, []) :: options, rest)
    | some true =>
      match letters, rest with
      | [], [] => .error ("No arg for -".toList ++ c :: " option".toList)
      | [], value :: rest => .ok ([(c, value)], rest)
      | value, rest => .ok ([(c, value)], rest)

def readOptions (takes : Char → Option Bool) : Nat → List (List Char) → Except (List Char) Given
  | 0, args => .ok ⟨[], args⟩
  | fuel + 1, args =>
    match args with
    | ['-', '-'] :: rest => .ok ⟨[], rest⟩
    | ('-' :: c :: letters) :: rest => do
      let (options, rest) ← readLetters takes (c :: letters) rest
      let g ← readOptions takes fuel rest
      return { g with options := options ++ g.options }
    | _ => .ok ⟨[], args⟩

/-- The options and operands of a builtin that knows some letters without arguments. -/
def plainOptions (letters : String) (args : List (List Char)) : Except (List Char) Given :=
  readOptions (fun c => if letters.toList.contains c then some false else none) (args.length + 1) args

def numberOf (text : List Char) : Except (List Char) Nat :=
  match decimal? text with
  | some n =>
    if 0 ≤ n && n ≤ 2147483647 then .ok n.toNat else .error ("Illegal number: ".toList ++ text)
  | none => .error ("Illegal number: ".toList ++ text)

def cutAssignment (arg : List Char) : List Char × Option (List Char) :=
  let name := arg.takeWhile (· != '=')
  (name, if name.length = arg.length then none else some (arg.drop (name.length + 1)))

/-- A text in quotation marks, so that a shell reads it back. -/
def singleQuoted (text : List Char) : List Char :=
  go (text.length + 1) text
where
  go : Nat → List Char → List Char
    | 0, _ => []
    | fuel + 1, text =>
      let plain := text.takeWhile (· != '\x27')
      let rest := text.drop plain.length
      let marks := rest.takeWhile (· == '\x27')
      let front := '\x27' :: plain ++ ['\x27']
      if marks.isEmpty then front
      else
        let front := front ++ '"' :: marks ++ ['"']
        let rest := rest.drop marks.length
        if rest.isEmpty then front else front ++ go fuel rest

end PartyBridge.Shell
