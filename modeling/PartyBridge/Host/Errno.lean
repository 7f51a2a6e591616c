import PartyBridge.Text.Integer

/-!
# Errors of the operating system
-/

namespace PartyBridge.Host

inductive Errno where
  | noEntry
  | argumentsTooLong
  | notExecutable
  | badDescriptor
  | accessDenied
  | alreadyThere
  | notDirectory
  | isDirectory
  | textBusy
  | noSpace
  | brokenPipe
  | nameTooLong
  | tooManyLinks
deriving Repr, DecidableEq, Inhabited

namespace Errno

def code : Errno → Nat
  | .noEntry => 2
  | .argumentsTooLong => 7
  | .notExecutable => 8
  | .badDescriptor => 9
  | .accessDenied => 13
  | .alreadyThere => 17
  | .notDirectory => 20
  | .isDirectory => 21
  | .textBusy => 26
  | .noSpace => 28
  | .brokenPipe => 32
  | .nameTooLong => 36
  | .tooManyLinks => 40

def reason : Errno → String
  | .noEntry => "No such file or directory"
  | .argumentsTooLong => "Argument list too long"
  | .notExecutable => "Exec format error"
  | .badDescriptor => "Bad file descriptor"
  | .accessDenied => "Permission denied"
  | .alreadyThere => "File exists"
  | .notDirectory => "Not a directory"
  | .isDirectory => "Is a directory"
  | .textBusy => "Text file busy"
  | .noSpace => "No space left on device"
  | .brokenPipe => "Broken pipe"
  | .nameTooLong => "File name too long"
  | .tooManyLinks => "Too many levels of symbolic links"

def text (e : Errno) : String :=
  e.reason ++ " (os error " ++ Text.decimalNat e.code ++ ")"

end Errno

end PartyBridge.Host
