import PartyBridge.Number.Floating

/-!
# Texts that commands print

What `echo` and `printf` write, as a function of their arguments.
-/

namespace PartyBridge.Shell

def isOctal (c : Char) : Bool :=
  '0' ≤ c && c ≤ '7'

/-- The character of an octal number, of which only the low byte counts. -/
def octalChar (digits : List Char) : Char :=
  Char.ofNat (digits.foldl (fun n c => n * 8 + (c.toNat - 48)) 0 % 256)

def escapeLetter? (c : Char) : Option Char :=
  match c with
  | 'a' => some (Char.ofNat 7)
  | 'b' => some (Char.ofNat 8)
  | 'e' => some (Char.ofNat 27)
  | 'f' => some (Char.ofNat 12)
  | 'n' => some '\n'
  | 'r' => some '\r'
  | 't' => some '\t'
  | 'v' => some (Char.ofNat 11)
  | '\x5c' => some '\x5c'
  | _ => none

/-- Text with its escapes replaced, newest character first, and whether it ends all output. An octal
number is written behind a zero. -/
def unescape : Nat → List Char → List Char → List Char × Bool
  | 0, acc, _ => (acc, false)
  | _ + 1, acc, [] => (acc, false)
  | fuel + 1, acc, '\x5c' :: 'c' :: _ => let _ := fuel; (acc, true)
  | fuel + 1, acc, '\x5c' :: '0' :: rest =>
    let digits := (rest.take 3).takeWhile isOctal
    unescape fuel (octalChar digits :: acc) (rest.drop digits.length)
  | fuel + 1, acc, '\x5c' :: c :: rest =>
    match escapeLetter? c with
    | some d => unescape fuel (d :: acc) rest
    | none =>
      if isOctal c then
        let digits := ((c :: rest).take 3).takeWhile isOctal
        unescape fuel (octalChar digits :: acc) ((c :: rest).drop digits.length)
      else unescape fuel (c :: '\x5c' :: acc) rest
  | fuel + 1, acc, c :: rest => unescape fuel (c :: acc) rest

/-- What `echo` of the shell writes: its arguments with escapes replaced, and a newline unless the first
one is `-n` or an escape ends the output. -/
def echoText (args : List (List Char)) : List Char :=
  let (newline, args) := match args with
    | ['-', 'n'] :: rest => (false, rest)
    | _ => (true, args)
  let text := [' '].intercalate args
  let (text, stopped) := unescape (text.length + 1) [] text
  text.reverse ++ if newline && !stopped then ['\n'] else []

/-- What the program `echo` writes: its arguments as they are, unless `-e` asks for escapes. -/
def plainEchoText : List (List Char) → Bool → Bool → List Char
  | ['-', 'n'] :: rest, _, escapes => plainEchoText rest false escapes
  | ['-', 'e'] :: rest, newline, _ => plainEchoText rest newline true
  | ['-', 'E'] :: rest, newline, _ => plainEchoText rest newline false
  | args, newline, escapes =>
    let text := [' '].intercalate args
    let (text, stopped) :=
      if escapes then (unescape (text.length + 1) [] text).map List.reverse id else (text, false)
    text ++ if newline && !stopped then ['\n'] else []

/-! ### Formatted output -/

/-- Formatted output so far, newest character first: the arguments to come, whether any was used, the
complaints, newest first, whether the output has ended, and whether the format is at fault. -/
structure Formatted where
  out : List Char
  args : List (List Char)
  used : Bool
  complaints : List (List Char)
  stopped : Bool
  faulty : Bool
deriving Repr, DecidableEq

structure Spec where
  left : Bool
  plus : Bool
  space : Bool
  zero : Bool
  alternate : Bool
  width : Nat
  precision : Option Nat
deriving Repr, DecidableEq

def Spec.pad (spec : Spec) (text : List Char) : List Char :=
  let fill := List.replicate (spec.width - text.length) ' '
  if spec.left then text ++ fill else fill ++ text

/-- A number's sign and digits up to the width; zeros fill it where that is asked for. -/
def Spec.padSigned (spec : Spec) (zeros : Bool) (sign digits : List Char) : List Char :=
  if zeros && spec.zero && !spec.left then
    sign ++ List.replicate (spec.width - sign.length - digits.length) '0' ++ digits
  else spec.pad (sign ++ digits)

/-- An integer's sign and digits up to the width and precision. Without any place zero has no digits. -/
def Spec.padNumber (spec : Spec) (sign digits : List Char) : List Char :=
  match spec.precision with
  | some p =>
    let digits := if p = 0 && digits == ['0'] then [] else digits
    spec.padSigned false sign (List.replicate (p - digits.length) '0' ++ digits)
  | none => spec.padSigned true sign digits

def Spec.sign (spec : Spec) (negative : Bool) : List Char :=
  if negative then ['-'] else if spec.plus then ['+'] else if spec.space then [' '] else []

def Spec.floating (spec : Spec) (letter : Char) (x : Number.Floating) : List Char :=
  let upper := letter.isUpper
  let word (text : String) : List Char := text.toList.map fun c => if upper then c.toUpper else c
  match x with
  | .infinite negative => spec.padSigned false (spec.sign negative) (word "inf")
  | .nan negative => spec.padSigned false (spec.sign negative) (word "nan")
  | .finite x =>
    let precision := spec.precision.getD 6
    let digits :=
      match letter.toLower with
      | 'f' => x.fixed precision spec.alternate
      | 'e' => x.scientific precision upper spec.alternate
      | 'g' => x.general precision upper spec.alternate
      | _ => x.hexadecimal spec.precision upper spec.alternate
    if letter.toLower == 'a' then
      spec.padSigned true (spec.sign x.negative ++ digits.take 2) (digits.drop 2)
    else spec.padSigned true (spec.sign x.negative) digits

def digitsIn (base : Nat) (upper : Bool) (n : Nat) : List Char :=
  go 64 n []
where
  go : Nat → Nat → List Char → List Char
    | 0, _, acc => acc
    | fuel + 1, n, acc =>
      let d := n % base
      let c := Char.ofNat (if d < 10 then 48 + d else if upper then 55 + d else 87 + d)
      if n < base then c :: acc else go fuel (n / base) (c :: acc)

/-- The digits at the start of a text in the base that its start names, their value, and what follows
them. -/
def leadingNumber (text : List Char) : Option (Nat × List Char) :=
  let digitsOf (base : Nat) (text : List Char) : Option (Nat × List Char) :=
    let value? (c : Char) : Option Nat :=
      let n :=
        if c.isDigit then c.toNat - 48
        else if 'a' ≤ c ∧ c ≤ 'f' then c.toNat - 87
        else if 'A' ≤ c ∧ c ≤ 'F' then c.toNat - 55
        else 99
      if n < base then some n else none
    let digits := text.takeWhile fun c => (value? c).isSome
    if digits.isEmpty then none
    else
      some (digits.foldl (fun n c => n * base + (value? c).getD 0) 0, text.drop digits.length)
  match text with
  | '0' :: 'x' :: rest | '0' :: 'X' :: rest => (digitsOf 16 rest).or (some (0, 'x' :: rest))
  | '0' :: rest => (digitsOf 8 ('0' :: rest))
  | text => digitsOf 10 text

/-- What is wrong with an argument that spells a number up to some rest. -/
def conversionFault (arg rest : List Char) (none' outOfRange : Bool) : Option (List Char) :=
  if none' && !arg.isEmpty then some (arg ++ ": expected numeric value".toList)
  else if !rest.isEmpty then some (arg ++ ": not completely converted".toList)
  else if outOfRange then some (arg ++ ": Numerical result out of range".toList)
  else none

/-- The number that an argument spells, and a complaint if it does not spell one. Numbers out of range
become the nearest one in it; without a sign of their own they are taken around the range. -/
def argNumber (signed : Bool) (arg : List Char) : Int × Option (List Char) :=
  match arg with
  | '\x27' :: rest | '\x22' :: rest => (rest.head?.elim 0 fun c => (c.toNat : Int), none)
  | _ =>
    let text := arg.dropWhile Number.isLeadingSpace
    let (negative, digits) := match text with
      | '-' :: rest => (true, rest)
      | '+' :: rest => (false, rest)
      | _ => (false, text)
    match leadingNumber digits with
    | none => (0, conversionFault arg [] true false)
    | some (n, rest) =>
      let value : Int := if negative then -n else n
      if signed then
        let inside := max Text.leastInt64 (min Text.greatestInt64 value)
        (inside, conversionFault arg rest false (inside != value))
      else if Text.greatestUInt64 < n then (Text.greatestUInt64, conversionFault arg rest false true)
      else (value % (Text.greatestUInt64 + 1), conversionFault arg rest false false)

def argFloating (arg : List Char) : Number.Floating × Option (List Char) :=
  match arg with
  | '\x27' :: rest | '\x22' :: rest =>
    ((Number.ofRatio false (rest.head?.elim 0 Char.toNat) 1).1, none)
  | _ =>
    match Number.readFloating arg with
    | none => (.finite (.zero false), conversionFault arg [] true false)
    | some r => (r.value, conversionFault arg r.rest false r.outOfRange)

def Formatted.take (f : Formatted) : Option (List Char) × Formatted :=
  match f.args with
  | [] => (none, { f with used := true })
  | arg :: rest => (some arg, { f with args := rest, used := true })

def Formatted.put (f : Formatted) (text : List Char) : Formatted :=
  { f with out := text.reverse ++ f.out }

def Formatted.fail (f : Formatted) (text : String) : Formatted :=
  { f with complaints := text.toList :: f.complaints, stopped := true, faulty := true }

def Formatted.number (f : Formatted) (signed : Bool) (write : Int → List Char) : Formatted :=
  let (arg, f) := f.take
  let (n, complaint) := argNumber signed (arg.getD [])
  { f with complaints := complaint.toList ++ f.complaints }.put (write n)

/-- One conversion; `text` is how it was written. -/
def Formatted.convert (f : Formatted) (spec : Spec) (text : List Char) (c : Char) : Formatted :=
  let cut (text : List Char) : List Char := spec.precision.elim text fun p => text.take p
  match c with
  | 's' =>
    let (arg, f) := f.take
    f.put (spec.pad (cut (arg.getD [])))
  | 'b' =>
    let (arg, f) := f.take
    let text := arg.getD []
    let (text, stopped) := unescape (text.length + 1) [] text
    { f with stopped }.put (spec.pad (cut text.reverse))
  | 'c' =>
    let (arg, f) := f.take
    f.put (spec.pad [(arg.getD []).head?.getD '\x00'])
  | 'd' | 'i' =>
    f.number true fun n => spec.padNumber (spec.sign (n < 0)) (digitsIn 10 false n.natAbs)
  | 'u' => f.number false fun n => spec.padNumber [] (digitsIn 10 false n.toNat)
  | 'o' =>
    f.number false fun n =>
      let digits := digitsIn 8 false n.toNat
      let zero := spec.alternate && (n != 0 || spec.precision == some 0)
      let wanted := if zero then some (max (digits.length + 1) (spec.precision.getD 0)) else spec.precision
      if zero && n = 0 then spec.padSigned false [] ['0']
      else if zero && spec.precision.isNone then spec.padSigned true [] ('0' :: digits)
      else { spec with precision := wanted }.padNumber [] digits
  | 'x' =>
    f.number false fun n =>
      spec.padNumber (if spec.alternate && n != 0 then ['0', 'x'] else []) (digitsIn 16 false n.toNat)
  | 'X' =>
    f.number false fun n =>
      spec.padNumber (if spec.alternate && n != 0 then ['0', 'X'] else []) (digitsIn 16 true n.toNat)
  | 'e' | 'E' | 'f' | 'F' | 'g' | 'G' | 'a' | 'A' =>
    let (arg, f) := f.take
    let (x, complaint) := argFloating (arg.getD [])
    { f with complaints := complaint.toList ++ f.complaints }.put (spec.floating c x)
  | _ => f.fail (String.ofList text ++ ": invalid directive")

def readFlags : Spec → List Char → Spec × List Char
  | spec, '-' :: rest => readFlags { spec with left := true } rest
  | spec, '+' :: rest => readFlags { spec with plus := true } rest
  | spec, ' ' :: rest => readFlags { spec with space := true } rest
  | spec, '0' :: rest => readFlags { spec with zero := true } rest
  | spec, '#' :: rest => readFlags { spec with alternate := true } rest
  | spec, rest => (spec, rest)

def Formatted.size (f : Formatted) : Int × Formatted :=
  let (arg, f) := f.take
  let (n, complaint) := argNumber true (arg.getD [])
  let low : Int := n % 4294967296
  (if low < 2147483648 then low else low - 4294967296, { f with complaints := complaint.toList ++ f.complaints })

def readSize (f : Formatted) (text : List Char) : Int × Formatted × List Char :=
  match text with
  | '*' :: rest =>
    let (n, f) := f.size
    (n, f, rest)
  | _ =>
    let digits := text.takeWhile Char.isDigit
    (digits.foldl (fun n c => n * 10 + (c.toNat - 48 : Nat)) 0, f, text.drop digits.length)

/-- The conversion behind a percent sign. A width below zero fills on the right, a precision below zero
is none. -/
def readSpec (f : Formatted) (text : List Char) : Spec × Formatted × List Char :=
  let (spec, rest) := readFlags ⟨false, false, false, false, false, 0, none⟩ text
  let (width, f, rest) := readSize f rest
  let spec := { spec with left := spec.left || width < 0, width := width.natAbs }
  match rest with
  | '.' :: rest =>
    let (p, f, rest) := readSize f rest
    ({ spec with precision := if p < 0 then none else some p.toNat }, f, rest)
  | rest => (spec, f, rest)

def formatOnce : Nat → Formatted → List Char → Formatted
  | 0, f, _ => f
  | _ + 1, f, [] => f
  | fuel + 1, f, '%' :: '%' :: rest => formatOnce fuel (f.put ['%']) rest
  | fuel + 1, f, '%' :: text =>
    let (spec, f, rest) := readSpec f text
    match rest with
    | [] => f.fail "missing format character"
    | c :: rest =>
      let f := f.convert spec ('%' :: text.take (text.length - rest.length)) c
      if f.stopped then f else formatOnce fuel f rest
  | fuel + 1, f, '\x5c' :: c :: rest =>
    match escapeLetter? c with
    | some d => formatOnce fuel (f.put [d]) rest
    | none =>
      if isOctal c then
        let digits := ((c :: rest).take 3).takeWhile isOctal
        formatOnce fuel (f.put [octalChar digits]) ((c :: rest).drop digits.length)
      else formatOnce fuel (f.put ['\x5c', c]) rest
  | fuel + 1, f, c :: rest => formatOnce fuel (f.put [c]) rest

def formatAll (format : List Char) : Nat → Formatted → Formatted
  | 0, f => f
  | fuel + 1, f =>
    let f := formatOnce (format.length + 1) { f with used := false } format
    if f.stopped || !f.used || f.args.isEmpty then f else formatAll format fuel f

/-- What `printf` writes, its complaints, and its status. -/
def printfText (format : List Char) (args : List (List Char)) : List Char × List (List Char) × Nat :=
  let f := formatAll format (args.length + 1) ⟨[], args, false, [], false, false⟩
  (f.out.reverse, f.complaints.reverse, if f.faulty then 2 else if f.complaints.isEmpty then 0 else 1)

end PartyBridge.Shell
