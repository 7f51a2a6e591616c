import PartyBridge.Shell.Syntax

/-!
# Patterns of the shell

A pattern is matched against a whole text: `*` stands for any text, `?` for any character, and a set in
brackets for one of its characters. A character behind a backslash stands for itself.
-/

namespace PartyBridge.Shell

/-- A byte as a number with a sign, which is how sets compare bytes. -/
def signed (c : Char) : Int :=
  if c.toNat < 128 then c.toNat else (c.toNat : Int) - 256

def charClasses : List (String × (Char → Bool)) :=
  let printable (c : Char) : Bool := 32 ≤ c.toNat && c.toNat < 127
  [("alnum", Char.isAlphanum), ("alpha", Char.isAlpha), ("blank", fun c => c == ' ' || c == '\t'),
    ("cntrl", fun c => c.toNat < 32 || c.toNat = 127), ("digit", Char.isDigit),
    ("graph", fun c => printable c && c != ' '), ("lower", Char.isLower), ("print", printable),
    ("punct", fun c => printable c && c != ' ' && !c.isAlphanum),
    ("space", fun c => c == ' ' || (9 ≤ c.toNat && c.toNat ≤ 13)), ("upper", Char.isUpper),
    ("xdigit", fun c => c.isDigit || ('a' ≤ c && c ≤ 'f') || ('A' ≤ c && c ≤ 'F'))]

/-- The class that is named behind an opening bracket, and what follows its end. -/
def leadingClass (text : List Char) : Option ((Char → Bool) × List Char) :=
  charClasses.findSome? fun (name, test) =>
    let spelled := ':' :: name.toList ++ [':', ']']
    if spelled.isPrefixOf text then some (test, text.drop spelled.length) else none

/-- Whether a set holds a character, and what follows the set; none if the set has no end. A bracket
at the start of a set does not end it. -/
def matchSet (c : Char) : Nat → (start found : Bool) → List Char → Option (Bool × List Char)
  | 0, _, _, _ => none
  | fuel + 1, start, found, pattern =>
    let item (low : Char) (rest : List Char) : Option (Bool × List Char) :=
      let range (high : Char) (rest : List Char) : Option (Bool × List Char) :=
        matchSet c fuel false (found || (signed low ≤ signed c && signed c ≤ signed high)) rest
      match rest with
      | ['-'] => none
      | '-' :: ']' :: _ => matchSet c fuel false (found || c == low) rest
      | '-' :: '\x5c' :: high :: rest => range high rest
      | '-' :: '\x5c' :: [] => none
      | '-' :: high :: rest => range high rest
      | rest => matchSet c fuel false (found || c == low) rest
    match pattern with
    | [] => none
    | ']' :: rest => if start then item ']' rest else some (found, rest)
    | '[' :: rest =>
      match leadingClass rest with
      | some (test, rest) => matchSet c fuel false (found || test c) rest
      | none => item '[' rest
    | '\x5c' :: low :: rest => item low rest
    | '\x5c' :: [] => none
    | low :: rest => item low rest

/-- Whether a text matches a pattern; the allowance bounds how many characters are looked at. -/
def matchWithin : Nat → List Char → List Char → Bool
  | 0, _, _ => false
  | _ + 1, [], text => text.isEmpty
  | fuel + 1, p :: pattern, text =>
    match p, text with
    | '*', [] => matchWithin fuel pattern []
    | '*', _ :: rest => pattern.isEmpty || matchWithin fuel pattern text || matchWithin fuel (p :: pattern) rest
    | '?', [] => false
    | '?', _ :: rest => matchWithin fuel pattern rest
    | '[', [] => false
    | '[', c :: rest =>
      let (inverted, set) := match pattern with
        | '!' :: set => (true, set)
        | set => (false, set)
      match matchSet c (set.length + 1) true false set with
      | some (found, behind) => found != inverted && matchWithin fuel behind rest
      | none => c == p && matchWithin fuel pattern rest
    | '\x5c', text =>
      match pattern, text with
      | d :: pattern, c :: rest => c == d && matchWithin fuel pattern rest
      | [], [c] => c == p
      | _, _ => false
    | p, c :: rest => c == p && matchWithin fuel pattern rest
    | _, [] => false

def matchPattern (pattern text : List Char) : Bool :=
  matchWithin (pattern.length + text.length + 1) pattern text

end PartyBridge.Shell
