import PartyBridge.Json.Value
import PartyBridge.Text.Quoted

/-!
# Why a JSON text is refused

A fault has a cause and, where the reader knew it, a place. Lines count from one and columns count
the bytes read of the line.
-/

namespace PartyBridge.Json

structure Position where
  line : Nat
  column : Nat
deriving Repr, DecidableEq

inductive Unexpected where
  | null
  | bool (b : Bool)
  | int (n : Int)
  | float (x : Number.Binary64)
  | str (s : String)
  | sequence
  | map
deriving Repr, DecidableEq

def Unexpected.describe : Unexpected → String
  | .null => "null"
  | .bool true => "boolean \x60true\x60"
  | .bool false => "boolean \x60false\x60"
  | .int n => "integer \x60" ++ Text.decimal n ++ "\x60"
  | .float x => "floating point \x60" ++ numberStyle.render x ++ "\x60"
  | .str s => "string " ++ Text.quoted s
  | .sequence => "sequence"
  | .map => "map"

def Value.unexpected : Value → Unexpected
  | .null => .null
  | .bool b => .bool b
  | .int n => .int n
  | .float x => .float x
  | .str s => .str s
  | .arr _ => .sequence
  | .obj _ => .map

inductive Mismatch where
  | wrongType (found : Unexpected) (wanted : String)
  | wrongLength (found : Nat) (wanted : String)
  | unknownVariant (name : String) (known : List String)
  | missingField (name : String)
  | duplicateField (name : String)
deriving Repr, DecidableEq

def backquoted (name : String) : String :=
  "\x60" ++ name ++ "\x60"

def Mismatch.message : Mismatch → String
  | .wrongType found wanted => "invalid type: " ++ found.describe ++ ", expected " ++ wanted
  | .wrongLength found wanted =>
    "invalid length " ++ Text.decimalNat found ++ ", expected " ++ wanted
  | .unknownVariant name known =>
    "unknown variant " ++ backquoted name ++ ", expected one of " ++
      ", ".intercalate (known.map backquoted)
  | .missingField name => "missing field " ++ backquoted name
  | .duplicateField name => "duplicate field " ++ backquoted name

inductive Cause where
  | eofInValue
  | eofInString
  | eofInList
  | eofInObject
  | expectedColon
  | expectedListEnd
  | expectedObjectEnd
  | expectedIdent
  | expectedValue
  | invalidEscape
  | invalidNumber
  | numberOutOfRange
  | loneSurrogate
  | hexEscapeCut
  | controlCharacter
  | keyNotString
  | trailingComma
  | trailingCharacters
  | tooDeep
  | mismatch (m : Mismatch)
deriving Repr, DecidableEq

def Cause.message : Cause → String
  | .eofInValue => "EOF while parsing a value"
  | .eofInString => "EOF while parsing a string"
  | .eofInList => "EOF while parsing a list"
  | .eofInObject => "EOF while parsing an object"
  | .expectedColon => "expected \x60:\x60"
  | .expectedListEnd => "expected \x60,\x60 or \x60]\x60"
  | .expectedObjectEnd => "expected \x60,\x60 or \x60\x7d\x60"
  | .expectedIdent => "expected ident"
  | .expectedValue => "expected value"
  | .invalidEscape => "invalid escape"
  | .invalidNumber => "invalid number"
  | .numberOutOfRange => "number out of range"
  | .loneSurrogate => "lone leading surrogate in hex escape"
  | .hexEscapeCut => "unexpected end of hex escape"
  | .controlCharacter => "control character (\\u0000-\\u001F) found while parsing a string"
  | .keyNotString => "key must be a string"
  | .trailingComma => "trailing comma"
  | .trailingCharacters => "trailing characters"
  | .tooDeep => "recursion limit exceeded"
  | .mismatch m => m.message

/-- The three sorts of causes: the text ends early, has the wrong form, or the wrong content. -/
inductive Category where
  | eof
  | malformed
  | data
deriving Repr, DecidableEq

def Cause.category : Cause → Category
  | .eofInValue | .eofInString | .eofInList | .eofInObject => .eof
  | .mismatch _ => .data
  | _ => .malformed

structure Fault where
  cause : Cause
  position : Option Position
deriving Repr, DecidableEq

def Fault.message (fault : Fault) : String :=
  match fault.position with
  | none => fault.cause.message
  | some p =>
    fault.cause.message ++ " at line " ++ Text.decimalNat p.line ++ " column " ++
      Text.decimalNat p.column

end PartyBridge.Json
