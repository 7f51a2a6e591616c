import PartyBridge.Host.Tree
import PartyBridge.Shell.Expansion

/-!
# File names

A field that is a pattern stands for the files whose names it matches, one component of the path after
the other. A field that matches nothing stands for itself.
-/

namespace PartyBridge.Shell

open Host (Tree Path)

/-- Whether a set that has been opened is closed in the same component. -/
def closesSet : List Char → Bool
  | [] => false
  | '\x5c' :: c :: d :: rest => c != '/' && (d == ']' || closesSet (d :: rest))
  | '\x5c' :: _ => false
  | '/' :: _ => false
  | _ :: d :: rest => d == ']' || closesSet (d :: rest)
  | [_] => false

/-- The pattern behind an opening bracket, without the sign that inverts a set. -/
def pastInversion : List Char → List Char
  | '!' :: rest => rest
  | rest => rest

/-- A pattern cut at its first component that is not plain: what stands before it, the component, and
what follows its slash; none if all components are plain. -/
def cutPattern (front component : List Char) (active : Bool) :
    List Char → Option (List Char × List Char × Option (List Char))
  | [] => if active then some (front.reverse, component.reverse, none) else none
  | '\x5c' :: '/' :: rest =>
    if active then some (front.reverse, component.reverse, some rest)
    else cutPattern ('/' :: '\x5c' :: component ++ front) [] false rest
  | '\x5c' :: c :: rest => cutPattern front (c :: '\x5c' :: component) active rest
  | '/' :: rest =>
    if active then some (front.reverse, component.reverse, some rest)
    else cutPattern ('/' :: component ++ front) [] false rest
  | '[' :: rest => cutPattern front ('[' :: component) (active || closesSet (pastInversion rest)) rest
  | c :: rest => cutPattern front (c :: component) (active || c == '*' || c == '?') rest

def plainPattern : List Char → List Char
  | '\x5c' :: c :: rest => c :: plainPattern rest
  | c :: rest => c :: plainPattern rest
  | [] => []

/-- Whether a pattern asks for names that start with a dot. -/
def asksForDot : List Char → Bool
  | '\x5c' :: '.' :: _ | '.' :: _ => true
  | _ => false

/-- The names of a directory, with those of itself and of the one above. -/
def namesIn (t : Tree) (cwd : Path) (directory : List Char) : List (List Char) :=
  match t.find cwd (toBytes (if directory.isEmpty then ['.'] else directory)) with
  | .ok (.node path .directory) => ['.'] :: ['.', '.'] :: (t.list path).map ofBytes
  | _ => []

/-- The paths behind `front` that a pattern matches; the allowance bounds its components. -/
def matchPaths (t : Tree) (cwd : Path) : Nat → List Char → List Char → List (List Char)
  | 0, _, _ => []
  | fuel + 1, front, pattern =>
    match cutPattern [] [] false pattern with
    | none =>
      let path := front ++ plainPattern pattern
      if front.isEmpty then []
      else
        match t.look false cwd (toBytes path) with
        | .ok (.node ..) => [path]
        | _ => []
    | some (before, component, rest) =>
      let directory := front ++ plainPattern before
      let names := (namesIn t cwd directory).filter fun name =>
        (name.head? != some '.' || asksForDot component) && matchPattern component name
      match rest with
      | none => names.map fun name => directory ++ name
      | some rest => names.flatMap fun name => matchPaths t cwd fuel (directory ++ name ++ ['/']) rest

def fileNames (t : Tree) (cwd : Path) (field : List Cell) : List (List Char) :=
  let plain := Cell.text field
  if plain.any fun c => c == '*' || c == '?' || c == '[' then
    let pattern := Cell.pattern field
    match matchPaths t cwd (pattern.length + 1) [] pattern with
    | [] => [plain]
    | paths => paths.mergeSort fun a b => !(decide (b < a))
  else [plain]

def expandFields (t : Tree) (cwd : Path) (st : State) (word : Word) :
    Except ExpansionStop (List (List Char) × State) :=
  match expandCells st word with
  | .error stop => .error stop
  | .ok (fields, st) =>
    .ok (if st.has .noglob then fields.map Cell.text else fields.flatMap (fileNames t cwd), st)

end PartyBridge.Shell
