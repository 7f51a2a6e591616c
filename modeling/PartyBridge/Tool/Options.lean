import PartyBridge.Shell.Syntax

/-!
# Options of tools

An option is a letter behind one minus, or a word behind two that may be cut short. A tool may take
its options anywhere among its operands, or only in front of them.
-/

namespace PartyBridge.Tool

inductive OptionArgument where
  | none
  | required
  /-- Only in the same word. -/
  | optional
deriving Repr, DecidableEq, Inhabited

structure OptionTable where
  letters : List (Char × OptionArgument)
  words : List (String × OptionArgument × Char)
  anywhere : Bool
deriving Inhabited

structure Given where
  options : List (Char × List Char)
  operands : List (List Char)
deriving Repr, Inhabited

def quoted (text : List Char) : List Char :=
  let octal (n : Nat) : Char := Char.ofNat (48 + n % 8)
  let shown (c : Char) : List Char :=
    match c with
    | '\n' => ['\x5c', 'n']
    | '\t' => ['\x5c', 't']
    | '\r' => ['\x5c', 'r']
    | '\x5c' => ['\x5c', '\x5c']
    | '\x27' => ['\x5c', '\x27']
    | c =>
      let n := c.toNat
      if 32 ≤ n && n < 127 then [c]
      else ['\x5c', octal (n / 64), octal (n / 8), octal n]
  ['\x27'] ++ text.flatMap shown ++ ['\x27']

namespace OptionTable

/-- The letters of one word of options. The last one may need the next word as its argument. -/
def readLetters (t : OptionTable) :
    List Char → List (List Char) → Except (List Char) (List (Char × List Char) × List (List Char))
  | [], rest => .ok ([], rest)
  | c :: more, rest =>
    match t.letters.lookup c with
    | none => .error ("invalid option -- ".toList ++ ['\x27', c, '\x27'])
    | some .none =>
      match readLetters t more rest with
      | .error e => .error e
      | .ok (options, rest) => .ok ((c, []) :: options, rest)
    | some .optional => .ok ([(c, more)], rest)
    | some .required =>
      match more, rest with
      | [], [] => .error ("option requires an argument -- ".toList ++ ['\x27', c, '\x27'])
      | [], arg :: rest => .ok ([(c, arg)], rest)
      | more, rest => .ok ([(c, more)], rest)

def readWord (t : OptionTable) (text : List Char) (rest : List (List Char)) :
    Except (List Char) (Char × List Char × List (List Char)) :=
  let name := text.takeWhile (· != '=')
  let value? : Option (List Char) := if name.length < text.length then some (text.drop (name.length + 1)) else none
  let fits := t.words.filter fun (word, _) => name.isPrefixOf word.toList
  let exact := fits.filter fun (word, _) => word.toList == name
  let spell (name : List Char) : List Char := ['\x27', '-', '-'] ++ name ++ ['\x27']
  let same := match fits with
    | [] => true
    | (_, _, c) :: more => more.all fun (_, _, d) => c == d
  match exact, fits with
  | [], [] => .error ("unrecognized option ".toList ++ spell text)
  | (word, argument, c) :: _, _ | [], (word, argument, c) :: _ =>
    if exact.isEmpty && !same then
      let possible := fits.flatMap fun (word, _) => ' ' :: spell word.toList
      .error ("option ".toList ++ spell text ++ " is ambiguous; possibilities:".toList ++ possible)
    else
      match argument, value?, rest with
      | .none, some _, _ => .error ("option ".toList ++ spell word.toList ++ " doesn't allow an argument".toList)
      | .required, none, [] => .error ("option ".toList ++ spell word.toList ++ " requires an argument".toList)
      | .required, none, value :: rest => .ok (c, value, rest)
      | _, value?, rest => .ok (c, value?.getD [], rest)

def read (t : OptionTable) : Nat → List (List Char) → Except (List Char) Given
  | 0, _ => .ok ⟨[], []⟩
  | _ + 1, [] => .ok ⟨[], []⟩
  | fuel + 1, arg :: rest =>
    let behind (options : List (Char × List Char)) (rest : List (List Char)) : Except (List Char) Given :=
      match read t fuel rest with
      | .error e => .error e
      | .ok g => .ok { g with options := options ++ g.options }
    match arg with
    | ['-', '-'] => .ok ⟨[], rest⟩
    | '-' :: '-' :: text =>
      match t.readWord text rest with
      | .error e => .error e
      | .ok (c, value, rest) => behind [(c, value)] rest
    | '-' :: c :: letters =>
      match t.readLetters (c :: letters) rest with
      | .error e => .error e
      | .ok (options, rest) => behind options rest
    | arg =>
      if !t.anywhere then .ok ⟨[], arg :: rest⟩
      else
        match read t fuel rest with
        | .error e => .error e
        | .ok g => .ok { g with operands := arg :: g.operands }

def parse (t : OptionTable) (args : List (List Char)) : Except (List Char) Given :=
  t.read (args.length + 1) args

end OptionTable

def Given.has (g : Given) (c : Char) : Bool :=
  g.options.any fun (d, _) => d == c

/-- A complaint of a tool, with the advice to ask for help. -/
def advice (tool : String) (text : List Char) : List Char :=
  (tool ++ ": ").toList ++ text ++ ("\nTry '" ++ tool ++ " --help' for more information.\n").toList

end PartyBridge.Tool
