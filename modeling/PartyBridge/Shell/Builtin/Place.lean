import PartyBridge.Shell.Builtin.Variables
import PartyBridge.Shell.Redirection

/-!
# Builtins for the working directory and the file mask

The working directory is kept as it was asked for: links in it are not followed, and a parent is the part
before the last name.
-/

namespace PartyBridge.Shell

open Host (Machine)

/-! ### The working directory -/

def placeNames (path : List Char) : List (List Char) :=
  (path.splitOn '/').filter fun name => !name.isEmpty && name != ['.']

/-- Where a path leads from a directory that is known by its path. Two slashes at the start are kept. -/
def joinPlace (place path : List Char) : List Char :=
  let (root, front, behind) : List Char × List (List Char) × List (List Char) := match path with
    | '/' :: '/' :: '/' :: _ => (['/'], [], placeNames path)
    | '/' :: '/' :: _ => (['/', '/'], [], placeNames path)
    | '/' :: _ => (['/'], [], placeNames path)
    | _ =>
      let root := if ['/', '/'].isPrefixOf place then ['/', '/'] else ['/']
      (root, (place.splitOn '/').filter fun name => !name.isEmpty, placeNames path)
  let names := behind.foldl (fun names name => if name == ['.', '.'] then names.dropLast else names ++ [name]) front
  root ++ ['/'].intercalate names

/-- The options of `cd` and `pwd`: whether links are followed. -/
def followsLinks (g : Given) : Bool :=
  g.options.getLast?.any fun (c, _) => c == 'P'

/-- The paths at which a directory is searched for, and whether its path is shown. -/
def placeCandidates (st : State) (path : List Char) : List (List Char × Bool) :=
  let plain := match path with
    | '/' :: _ | ['.'] | '.' :: '/' :: _ | ['.', '.'] | '.' :: '.' :: '/' :: _ => true
    | _ => false
  match if plain then none else st.get? "CDPATH".toList with
  | none => []
  | some paths =>
    (paths.splitOn ':').map fun front => if front.isEmpty then (path, false) else (front ++ '/' :: path, true)

def goTo (m : Machine) (pid : Nat) (st : State) (asked path : List Char) (follow shows : Bool) : Machine × State :=
  let place := joinPlace st.place path
  match m.tree.find (cwdOf m pid) (toBytes (if follow then path else place)) with
  | .ok (.node cwd .directory) =>
    let place := if follow then ofBytes (Host.pathText cwd) else place
    let moved := m.update pid fun p => { p with cwd }
    let marked := do
      let st ← st.assign "OLDPWD".toList (some st.place)
      ({ st.export "OLDPWD".toList with place }).assign "PWD".toList (some place)
    match marked with
    | .error text => (moved, st.dies text)
    | .ok st =>
      let st := st.export "PWD".toList
      (moved, if shows then st.say (place ++ ['\n']) else st)
  | _ => (m, st.dies ("can't cd to ".toList ++ asked))

/-- `cd`. -/
def changePlace (m : Machine) (pid : Nat) (st : State) (args : List (List Char)) : Machine × State :=
  match plainOptions "LP" args with
  | .error text => (m, st.dies text)
  | .ok g =>
    let back := g.operands.head? == some ['-']
    let asked := match g.operands.head? with
      | none => st.get? "HOME".toList
      | some path => if back then st.get? "OLDPWD".toList else some path
    let asked := match asked.getD [] with
      | [] => ['.']
      | path => path
    let candidates := if asked == ['.'] then [] else placeCandidates st asked
    let follow := followsLinks g
    let st := st.withStatus 0
    match candidates.find? fun (path, _) => m.tree.isDirectory (cwdOf m pid) (toBytes path) with
    | some (path, shows) => goTo m pid st asked path follow (shows || back)
    | none => goTo m pid st asked asked follow back

/-- `pwd`. -/
def showPlace (m : Machine) (pid : Nat) (st : State) (args : List (List Char)) : State :=
  match plainOptions "LP" args with
  | .error text => st.dies text
  | .ok g =>
    let place := if followsLinks g then ofBytes (Host.pathText (cwdOf m pid)) else st.place
    (st.withStatus 0).say (place ++ ['\n'])

/-! ### The file mask -/

structure Permissions where
  bits : Nat
  whose : Nat
deriving Repr, DecidableEq, Inhabited

def permissionPlace? (c : Char) : Option Nat :=
  match c with
  | 'a' => some 0o111
  | 'u' => some 0o100
  | 'g' => some 0o010
  | 'o' => some 0o001
  | _ => none

def permissionBits? (bits : Nat) (c : Char) : Option Nat :=
  match c with
  | 'r' => some 4
  | 'w' => some 2
  | 'x' => some 1
  | 'u' => some (bits / 64)
  | 'g' => some (bits / 8)
  | 'o' => some bits
  | 'X' => some (if bits &&& 0o111 = 0 then 0 else 1)
  | 's' => some 0
  | _ => none

/-- Changes permissions as a text tells; none if it does not tell. -/
def changePermissions : Nat → Permissions → List Char → Option Nat
  | 0, _, _ => none
  | _ + 1, p, [] => some p.bits
  | fuel + 1, p, text =>
    let letters := text.takeWhile fun c => (permissionPlace? c).isSome
    let whose := letters.foldl (fun n c => n ||| (permissionPlace? c).getD 0) p.whose
    let whose := if whose = 0 then 0o111 else whose
    match text.drop letters.length with
    | [] => some p.bits
    | op :: rest =>
      if op == '=' || op == '+' || op == '-' then
        let letters := rest.takeWhile fun c => (permissionBits? p.bits c).isSome
        let value := letters.foldl (fun n c => n ||| (permissionBits? p.bits c).getD 0) 0
        let value := value % 8 * whose
        let bits :=
          if op == '-' then p.bits &&& (0o777 - value)
          else if op == '+' then p.bits ||| value
          else value ||| (p.bits &&& (0o777 - whose * 7))
        match rest.drop letters.length with
        | [] => some bits
        | ',' :: rest => changePermissions fuel ⟨bits, 0⟩ rest
        | c :: rest =>
          if c == '=' || c == '+' || c == '-' then changePermissions fuel ⟨bits, whose⟩ (c :: rest) else none
      else none

def maskLetters (mask : Nat) : List Char :=
  let part (name : Char) (place : Nat) : List Char :=
    let bits := 7 - mask / place % 8
    let letter (bit : Nat) (c : Char) : List Char := if bits &&& bit = 0 then [] else [c]
    name :: '=' :: letter 4 'r' ++ letter 2 'w' ++ letter 1 'x'
  part 'u' 64 ++ ',' :: part 'g' 8 ++ ',' :: part 'o' 1

/-- `umask`. -/
def State.fileMask (st : State) (args : List (List Char)) : State :=
  match plainOptions "S" args with
  | .error text => st.dies text
  | .ok g =>
    let st := st.withStatus 0
    match g.operands.head? with
    | none =>
      let digits := [st.mask / 64 % 8, st.mask / 8 % 8, st.mask % 8].map fun n => Char.ofNat (48 + n)
      st.say ((if g.has 'S' then maskLetters st.mask else '0' :: digits) ++ ['\n'])
    | some text =>
      if text.head?.any Char.isDigit then
        if text.all fun c => '0' ≤ c && c < '8' then
          { st with mask := text.foldl (fun n c => n * 8 + (c.toNat - 48)) 0 % 512 }
        else st.dies ("Illegal number: ".toList ++ text)
      else
        match changePermissions (text.length + 1) ⟨511 - st.mask, 0⟩ text with
        | some bits => { st with mask := 511 - bits % 512 }
        | none => st.dies ("Illegal mode: ".toList ++ text)

end PartyBridge.Shell
