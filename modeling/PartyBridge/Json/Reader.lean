import PartyBridge.Json.Fault

/-!
# Reading JSON

`readValue` reads one value and leaves the cursor behind it. Integers that fit 64 bits are exact;
every other number becomes a double through at most twenty of its digits and rounded powers of ten.
Values nest at most 127 deep.
-/

namespace PartyBridge.Json

structure Cursor where
  rest : List Char
  line : Nat
  column : Nat
deriving Repr, DecidableEq

def Cursor.ofText (text : String) : Cursor :=
  ⟨text.toList, 1, 0⟩

/-- The place behind what has been read. -/
def Cursor.here (c : Cursor) : Position :=
  ⟨c.line, c.column⟩

def Cursor.next (c : Cursor) : Cursor :=
  match c.rest with
  | [] => c
  | ch :: rest =>
    if ch = '\n' then ⟨rest, c.line + 1, 0⟩ else ⟨rest, c.line, c.column + ch.utf8Size⟩

/-- The cursor behind `n` characters of one byte each, none of them a newline. -/
def Cursor.skip (c : Cursor) (n : Nat) : Cursor :=
  ⟨c.rest.drop n, c.line, c.column + n⟩

/-- The place `n` bytes further on, or at the end of the text. -/
def positionPast : Nat → List Char → Position → Position
  | 0, _, p => p
  | _, [], p => p
  | n + 1, ch :: rest, p =>
    if ch = '\n' then positionPast n rest ⟨p.line + 1, 0⟩
    else if ch.utf8Size ≤ n + 1 then
      positionPast (n + 1 - ch.utf8Size) rest ⟨p.line, p.column + ch.utf8Size⟩
    else ⟨p.line, p.column + (n + 1)⟩

def Cursor.past (c : Cursor) (n : Nat) : Position :=
  positionPast n c.rest c.here

/-- The place behind the byte that is looked at. -/
def Cursor.peeked (c : Cursor) : Position :=
  c.past 1

def Cursor.fault (c : Cursor) (cause : Cause) : Fault :=
  ⟨cause, some c.here⟩

def Cursor.peekFault (c : Cursor) (cause : Cause) : Fault :=
  ⟨cause, some c.peeked⟩

def isJsonBlank (c : Char) : Bool :=
  c == ' ' || c == '\n' || c == '\t' || c == '\r'

def skipBlanksFrom : List Char → Nat → Nat → Cursor
  | [], line, column => ⟨[], line, column⟩
  | ch :: rest, line, column =>
    if isJsonBlank ch then
      if ch = '\n' then skipBlanksFrom rest (line + 1) 0 else skipBlanksFrom rest line (column + 1)
    else ⟨ch :: rest, line, column⟩

def Cursor.skipBlanks (c : Cursor) : Cursor :=
  skipBlanksFrom c.rest c.line c.column

abbrev Read (α : Type) := Except Fault (α × Cursor)

/-! ### Numbers -/

def natLimit : Nat := Text.greatestUInt64

def exponentLimit : Nat := 2147483647

/-- Reads digits behind a significand while it stays within 64 bits: the new significand, the
number of digits, and the rest. -/
def absorbDigits : List Char → Nat → Nat → Nat × Nat × List Char
  | [], significand, taken => (significand, taken, [])
  | ch :: rest, significand, taken =>
    match Text.digit? ch with
    | none => (significand, taken, ch :: rest)
    | some d =>
      if natLimit < significand * 10 + d then (significand, taken, ch :: rest)
      else absorbDigits rest (significand * 10 + d) (taken + 1)

def countDigits : List Char → Nat → Nat
  | [], n => n
  | ch :: rest, n => if (Text.digit? ch).isSome then countDigits rest (n + 1) else n

def Cursor.skipDigits (c : Cursor) : Cursor :=
  c.skip (countDigits c.rest 0)

def Cursor.atDigit (c : Cursor) : Bool :=
  match c.rest with
  | [] => false
  | ch :: _ => (Text.digit? ch).isSome

def Cursor.atExponent (c : Cursor) : Bool :=
  match c.rest with
  | 'e' :: _ | 'E' :: _ => true
  | _ => false

/-- A double, and a fault where there is none. -/
def inRange (c : Cursor) : Option Number.Binary64 → Read Value
  | some x => .ok (.float x, c)
  | none => .error (c.fault .numberOutOfRange)

def readScaled (negative : Bool) (significand : Nat) (exponent : Int) (c : Cursor) : Read Value :=
  inRange c (Number.scaleByTen negative significand exponent)

/-- Reads the digits of an exponent. The second part tells whether it passed the limit. -/
def exponentDigits : List Char → Nat → Nat → Nat × Nat × Bool
  | [], exponent, taken => (exponent, taken, false)
  | ch :: rest, exponent, taken =>
    match Text.digit? ch with
    | none => (exponent, taken, false)
    | some d =>
      if exponentLimit < exponent * 10 + d then (exponent, taken + 1, true)
      else exponentDigits rest (exponent * 10 + d) (taken + 1)

/-- Reads an exponent; the cursor stands behind its mark. -/
def readExponent (negative : Bool) (significand : Nat) (start : Int) (c : Cursor) : Read Value :=
  let down := c.rest.head? == some '-'
  let c := if down || c.rest.head? == some '+' then c.next else c
  match c.rest with
  | [] => .error (c.fault .eofInValue)
  | ch :: _ =>
    match Text.digit? ch with
    | none => .error (c.peekFault .invalidNumber)
    | some d =>
      let c := c.next
      let (exponent, taken, beyond) := exponentDigits c.rest d 0
      let c := c.skip taken
      if beyond then
        if significand ≠ 0 ∧ !down then .error (c.fault .numberOutOfRange)
        else .ok (.float (Number.Binary64.zero negative), c.skipDigits)
      else
        let change : Int := if down then -Int.ofNat exponent else Int.ofNat exponent
        let least : Int := -2147483648
        let greatest : Int := 2147483647
        readScaled negative significand (max least (min greatest (start + change))) c

def readFraction (negative : Bool) (significand : Nat) (start : Int) (c : Cursor) : Read Value :=
  let (whole, taken, _) := absorbDigits c.rest significand 0
  let c := c.skip taken
  let exponent := start - Int.ofNat taken
  if c.atDigit then
    let c := c.skipDigits
    if c.atExponent then readExponent negative whole exponent c.next
    else readScaled negative whole exponent c
  else if taken = 0 then
    .error (c.peekFault (if c.rest.isEmpty then .eofInValue else .invalidNumber))
  else if c.atExponent then readExponent negative whole exponent c.next
  else readScaled negative whole exponent c

/-- An integer, or a double where it is below the range of 64 bits or is a negative zero. -/
def integerValue (negative : Bool) (significand : Nat) : Value :=
  if !negative then .int significand
  else if significand = 0 ∨ Text.greatestInt64.toNat + 1 < significand then
    match Number.Binary64.ofNat? significand with
    | some x => .float (x.withSign true)
    | none => .null
  else .int (-Int.ofNat significand)

def readNumberTail (negative : Bool) (significand : Nat) (c : Cursor) : Read Value :=
  if c.rest.head? == some '.' then readFraction negative significand 0 c.next
  else if c.atExponent then readExponent negative significand 0 c.next
  else .ok (integerValue negative significand, c)

def readNumber (negative : Bool) (c : Cursor) : Read Value :=
  match c.rest with
  | [] => .error (c.fault .eofInValue)
  | '0' :: _ =>
    let c := c.next
    if c.atDigit then .error (c.peekFault .invalidNumber) else readNumberTail negative 0 c
  | ch :: _ =>
    match Text.digit? ch with
    | none => .error (c.peekFault .invalidNumber)
    | some d =>
      let c := c.next
      let (significand, taken, _) := absorbDigits c.rest d 0
      let c := c.skip taken
      if c.atDigit then
        let more := countDigits c.rest 0
        let c := c.skip more
        if c.rest.head? == some '.' then readFraction negative significand more c.next
        else if c.atExponent then readExponent negative significand more c.next
        else readScaled negative significand more c
      else readNumberTail negative significand c

/-! ### Strings -/

def hexValue? (c : Char) : Option Nat :=
  if '0' ≤ c ∧ c ≤ '9' then some (c.toNat - 48)
  else if 'a' ≤ c ∧ c ≤ 'f' then some (c.toNat - 87)
  else if 'A' ≤ c ∧ c ≤ 'F' then some (c.toNat - 55)
  else none

def hexFour? (a b c d : Char) : Option Nat := do
  let a ← hexValue? a
  let b ← hexValue? b
  let c ← hexValue? c
  let d ← hexValue? d
  some (((a * 16 + b) * 16 + c) * 16 + d)

def hasBytes : Nat → List Char → Bool
  | 0, _ => true
  | _ + 1, [] => false
  | n + 1, ch :: rest => hasBytes (n + 1 - ch.utf8Size) rest

def readHex (c : Cursor) : Except Fault (Nat × Cursor) :=
  if hasBytes 4 c.rest then
    match c.rest with
    | d1 :: d2 :: d3 :: d4 :: _ =>
      match hexFour? d1 d2 d3 d4 with
      | some n => .ok (n, c.skip 4)
      | none => .error ⟨.invalidEscape, some (c.past 4)⟩
    | _ => .error ⟨.invalidEscape, some (c.past 4)⟩
  else .error ⟨.eofInString, some (c.past 4)⟩

def expectInEscape (wanted : Char) (c : Cursor) : Except Fault Cursor :=
  match c.rest with
  | [] => .error (c.fault .eofInString)
  | ch :: _ => if ch = wanted then .ok c.next else .error (c.peekFault .hexEscapeCut)

/-- Reads the digits of a hex escape, two of them where the first is a leading surrogate. -/
def readHexEscape (c : Cursor) : Except Fault (Char × Cursor) := do
  let (n, c) ← readHex c
  if 0xDC00 ≤ n ∧ n ≤ 0xDFFF then .error (c.fault .loneSurrogate)
  else if n < 0xD800 ∨ 0xDBFF < n then .ok (Char.ofNat n, c)
  else do
    let c ← expectInEscape '\x5c' c
    let c ← expectInEscape 'u' c
    let (m, c) ← readHex c
    if m < 0xDC00 ∨ 0xDFFF < m then .error (c.fault .loneSurrogate)
    else .ok (Char.ofNat ((n - 0xD800) * 1024 + (m - 0xDC00) + 0x10000), c)

def readEscape (c : Cursor) : Read Char :=
  match c.rest with
  | [] => .error (c.fault .eofInString)
  | ch :: _ =>
    if ch = '\x22' ∨ ch = '\x5c' ∨ ch = '/' then .ok (ch, c.next)
    else if ch = 'b' then .ok (Char.ofNat 8, c.next)
    else if ch = 'f' then .ok (Char.ofNat 12, c.next)
    else if ch = 'n' then .ok ('\n', c.next)
    else if ch = 'r' then .ok ('\r', c.next)
    else if ch = 't' then .ok ('\t', c.next)
    else if ch = 'u' then readHexEscape c.next
    else .error (c.peekFault .invalidEscape)

/-- Reads the rest of a string behind `done`, newest first. The fuel bounds the characters. -/
def readStringAfter : Nat → List Char → Cursor → Read String
  | 0, _, c => .error (c.fault .eofInString)
  | fuel + 1, done, c =>
    match c.rest with
    | [] => .error (c.fault .eofInString)
    | ch :: _ =>
      if ch = '\x22' then .ok (String.ofList done.reverse, c.next)
      else if ch = '\x5c' then
        match readEscape c.next with
        | .error fault => .error fault
        | .ok (e, c) => readStringAfter fuel (e :: done) c
      else if ch.toNat < 0x20 then .error (c.next.fault .controlCharacter)
      else readStringAfter fuel (ch :: done) c.next

def readString (c : Cursor) : Read String :=
  readStringAfter (c.rest.length + 1) [] c

/-! ### Values -/

def readIdent : List Char → Cursor → Except Fault Cursor
  | [], c => .ok c
  | wanted :: more, c =>
    match c.rest with
    | [] => .error (c.fault .eofInValue)
    | ch :: _ => if ch = wanted then readIdent more c.next else .error (c.peekFault .expectedIdent)

/-- How deep values may nest, one more than the greatest depth. -/
def depthLimit : Nat := 128

def readColon (c : Cursor) : Except Fault Cursor :=
  let c := c.skipBlanks
  match c.rest with
  | ':' :: _ => .ok c.next
  | [] => .error (c.peekFault .eofInObject)
  | _ => .error (c.peekFault .expectedColon)

/-- What comes next in a list or object: its end, or an item that the cursor stands at. -/
inductive Upcoming where
  | done (c : Cursor)
  | item (c : Cursor)

/-- Finds the next item of a list; the cursor stands behind the one before. -/
def nextItem (first : Bool) (c : Cursor) : Except Fault Upcoming :=
  let c := c.skipBlanks
  match c.rest with
  | [] => .error (c.peekFault .eofInList)
  | ']' :: _ => .ok (.done c)
  | ch :: _ =>
    if first then .ok (.item c)
    else if ch = ',' then
      let c := c.next.skipBlanks
      match c.rest with
      | [] => .error (c.peekFault .eofInValue)
      | ']' :: _ => .error (c.peekFault .trailingComma)
      | _ => .ok (.item c)
    else .error (c.peekFault .expectedListEnd)

/-- Reads a key that the cursor should stand at, with its opening quote. -/
def readKey (c : Cursor) : Read String :=
  match c.rest with
  | [] => .error (c.peekFault .eofInValue)
  | ch :: _ =>
    if ch = '\x22' then readString c.next
    else if ch = '\x7d' then .error (c.peekFault .trailingComma)
    else .error (c.peekFault .keyNotString)

/-- Finds the next key of an object; the cursor stands behind the member before. -/
def nextKey (first : Bool) (c : Cursor) : Except Fault (Option String × Cursor) :=
  let c := c.skipBlanks
  match c.rest with
  | [] => .error (c.peekFault .eofInObject)
  | ch :: _ =>
    if ch = '\x7d' then .ok (none, c)
    else if first then (readKey c).map fun (key, c) => (some key, c)
    else if ch = ',' then (readKey c.next.skipBlanks).map fun (key, c) => (some key, c)
    else .error (c.peekFault .expectedObjectEnd)

mutual

/-- Reads a value. `depth` is how deep it may still nest, one more than that. -/
def readValueWith : Nat → Nat → Cursor → Read Value
  | 0, _, c => .error (c.fault .eofInValue)
  | fuel + 1, depth, c =>
    let c := c.skipBlanks
    match c.rest with
    | [] => .error (c.peekFault .eofInValue)
    | ch :: _ =>
      if ch = 'n' then (readIdent ['u', 'l', 'l'] c.next).map fun c => (.null, c)
      else if ch = 't' then (readIdent ['r', 'u', 'e'] c.next).map fun c => (.bool true, c)
      else if ch = 'f' then (readIdent ['a', 'l', 's', 'e'] c.next).map fun c => (.bool false, c)
      else if ch = '-' then readNumber true c.next
      else if (Text.digit? ch).isSome then readNumber false c
      else if ch = '\x22' then (readString c.next).map fun (s, c) => (.str s, c)
      else if ch = '[' then
        if depth ≤ 1 then .error (c.peekFault .tooDeep)
        else (readItems fuel (depth - 1) true [] c.next).map fun (items, c) => (.arr items, c)
      else if ch = '\x7b' then
        if depth ≤ 1 then .error (c.peekFault .tooDeep)
        else
          (readMembers fuel (depth - 1) true [] c.next).map fun (members, c) => (.obj members, c)
      else .error (c.peekFault .expectedValue)

/-- Reads the items of a list behind `done`, newest first, up to its end. -/
def readItems : Nat → Nat → Bool → List Value → Cursor → Read (List Value)
  | 0, _, _, _, c => .error (c.fault .eofInList)
  | fuel + 1, depth, first, done, c =>
    match nextItem first c with
    | .error fault => .error fault
    | .ok (.done c) => .ok (done.reverse, c.next)
    | .ok (.item c) =>
      match readValueWith fuel depth c with
      | .error fault => .error fault
      | .ok (v, c) => readItems fuel depth false (v :: done) c

/-- Reads the members of an object behind `done`, newest first, up to its end. -/
def readMembers :
    Nat → Nat → Bool → List (String × Value) → Cursor → Read (List (String × Value))
  | 0, _, _, _, c => .error (c.fault .eofInObject)
  | fuel + 1, depth, first, done, c =>
    match nextKey first c with
    | .error fault => .error fault
    | .ok (none, c) => .ok (done.reverse, c.next)
    | .ok (some key, c) =>
      match readColon c with
      | .error fault => .error fault
      | .ok c =>
        match readValueWith fuel depth c with
        | .error fault => .error fault
        | .ok (v, c) => readMembers fuel depth false ((key, v) :: done) c

end

def readValue (outer : Nat) (c : Cursor) : Read Value :=
  readValueWith (2 * c.rest.length + 2) (depthLimit - outer) c

def expectEnd (c : Cursor) : Except Fault Unit :=
  let c := c.skipBlanks
  if c.rest.isEmpty then .ok () else .error (c.peekFault .trailingCharacters)

def parse (text : String) : Except Fault Value :=
  match readValue 0 (Cursor.ofText text) with
  | .error fault => .error fault
  | .ok (v, c) => (expectEnd c).map fun _ => v

end PartyBridge.Json
