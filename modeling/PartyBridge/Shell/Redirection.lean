import PartyBridge.Host.Machine

/-!
# Redirections

A redirection gives a descriptor of the shell another meaning. Unless it is meant to last, the old one
is kept at a high number and given back afterwards.
-/

namespace PartyBridge.Shell

open Host (Machine Fd Errno Access)

/-- The least number at which the shell keeps descriptors of its own. -/
def privateFd : Nat := 10

/-- Descriptors that were replaced, and where they are kept; those that were closed are kept nowhere. -/
abbrev SavedFds := List (Nat × Option Nat)

def openFault (creating : Bool) (path : List Char) (e : Errno) : List Char :=
  let verb := if creating then "cannot create " else "cannot open "
  let reason := match e with
    | .noEntry | .notDirectory => if creating then "Directory nonexistent" else "No such file"
    | e => e.reason
  verb.toList ++ path ++ ": ".toList ++ reason.toList

def cwdOf (m : Machine) (pid : Nat) : Host.Path :=
  (m.process? pid).elim [] Host.Process.cwd

/-- Opens the file of a redirection. Without permission to clobber, a regular file is not replaced. -/
def openTarget (m : Machine) (pid : Nat) (noClobber : Bool) (kind : RedirectKind) (name : List Char) :
    Except (List Char) (Machine × Fd) :=
  let cwd := cwdOf m pid
  let own := (m.process? pid).elim [] Host.Process.fds
  let opened (access : Access) : Except (List Char) (Machine × Fd) :=
    match m.openPath cwd own (toBytes name) access with
    | .ok r => .ok r
    | .error e => .error (openFault access.creates name e)
  match kind with
  | .append => opened .append
  | .both => opened .both
  | .clobber => opened .write
  | .output =>
    if noClobber && m.tree.isRegular cwd (toBytes name) then .error (openFault true name .alreadyThere)
    else opened .write
  | _ => opened .read

inductive Source where
  | opened (fd : Fd)
  | copied (fd : Nat)
  | closed
deriving Repr, DecidableEq, Inhabited

/-- Keeps a descriptor that is about to be replaced, unless it has been kept before. -/
def saveFd (m : Machine) (pid n : Nat) (saved : SavedFds) : Machine × SavedFds :=
  if (saved.lookup n).isSome then (m, saved)
  else
    match m.fd? pid n with
    | some old =>
      let k := m.freeFd pid privateFd
      ((m.setFd pid k old).closeFd pid n, (n, some k) :: saved)
    | none => (m, (n, none) :: saved)

/-- Gives a descriptor another meaning; the old one is kept if asked for. A descriptor that is a copy of
itself stays as it is. -/
def replaceFd (m : Machine) (pid n : Nat) (source : Source) (keep : Bool) (saved : SavedFds) :
    Machine × SavedFds × Option (List Char) :=
  if source = .copied n then (m, saved, none)
  else
    let (m, saved) := if keep then saveFd m pid n saved else (m, saved)
    match source with
    | .opened fd => (m.setFd pid n fd, saved, none)
    | .closed => (m.closeFd pid n, saved, none)
    | .copied k =>
      match m.fd? pid k with
      | some fd => (m.setFd pid n fd, saved, none)
      | none => (m, saved, some ((toString k).toList ++ ": Bad file descriptor".toList))

def restoreFds (m : Machine) (pid : Nat) (saved : SavedFds) : Machine :=
  saved.foldl
    (fun m (n, kept) =>
      match kept.bind (m.fd? pid) with
      | some fd => (m.setFd pid n fd).closeFd pid (kept.getD n)
      | none => m.closeFd pid n)
    m

def dropFds (m : Machine) (pid : Nat) (saved : SavedFds) : Machine :=
  saved.foldl (fun m (_, kept) => kept.elim m (m.closeFd pid)) m

/-- A pipe that holds a text; its end to be read. -/
def textFd (m : Machine) (text : List Char) : Machine × Fd :=
  let (m, index) := m.newPipe
  (m.setPipe index (Host.Pipe.empty.put (toBytes text)), .readEnd index)

end PartyBridge.Shell
