import PartyBridge.Shell.Syntax

/-!
# Text to be read

The text of a script with the number of its line. The value of an alias is put in front of the text
that follows its name; while it is being read, the alias is not looked up again.
-/

namespace PartyBridge.Shell

/-- Text behind the value of an alias, the name of the alias, and whether its value ends in a blank. -/
structure Behind where
  chars : List Char
  name : List Char
  blank : Bool
deriving Repr, DecidableEq, Inhabited

/-- Text that has not been read yet, and the number of its line. `again` is set when the value of an
alias that ends in a blank has been read, so that the next word may be an alias too. -/
structure Input where
  chars : List Char
  line : Nat
  behind : List Behind
  again : Bool
deriving Repr, DecidableEq, Inhabited

structure SyntaxFault where
  text : List Char
  line : Nat
deriving Repr, DecidableEq, Inhabited

namespace Input

def ofText (chars : List Char) : Input :=
  ⟨chars, 1, [], false⟩

def size (inp : Input) : Nat :=
  inp.chars.length + (inp.behind.map fun b => b.chars.length + 1).foldr (· + ·) 0

/-- The next character of a text and of those behind it. -/
def nextOf (line : Nat) (again : Bool) : List Char → List Behind → Option (Char × Input)
  | c :: chars, behind => some (c, ⟨chars, if c == '\n' then line + 1 else line, behind, again⟩)
  | [], b :: behind => nextOf line (again || b.blank) b.chars behind
  | [], [] => none

def next (inp : Input) : Option (Char × Input) :=
  nextOf inp.line inp.again inp.chars inp.behind

theorem nextOf_size {line : Nat} {again : Bool} {chars : List Char} {behind : List Behind} {c : Char}
    {rest : Input} (h : nextOf line again chars behind = some (c, rest)) :
    rest.size < (⟨chars, line, behind, again⟩ : Input).size := by
  induction behind generalizing chars again with
  | nil =>
    cases chars with
    | nil => simp [nextOf] at h
    | cons d chars =>
      simp only [nextOf, Option.some.injEq, Prod.mk.injEq] at h
      obtain ⟨_, rfl⟩ := h
      simp [size]
  | cons b behind ih =>
    cases chars with
    | nil =>
      have := ih (by simpa [nextOf] using h)
      simp only [size, List.map_cons, List.foldr_cons, List.length_nil] at this ⊢
      omega
    | cons d chars =>
      simp only [nextOf, Option.some.injEq, Prod.mk.injEq] at h
      obtain ⟨_, rfl⟩ := h
      simp [size]

theorem next_size {inp rest : Input} {c : Char} (h : inp.next = some (c, rest)) :
    rest.size < inp.size :=
  nextOf_size h

/-- The next character; lines that end in a backslash are joined. -/
def nextJoined (inp : Input) : Option (Char × Input) :=
  match _h : inp.next with
  | some (c, rest) =>
    if c == '\x5c' then
      match _g : rest.next with
      | some (d, further) => if d == '\n' then nextJoined further else some (c, rest)
      | none => some (c, rest)
    else some (c, rest)
  | none => none
termination_by inp.size
decreasing_by exact Nat.lt_trans (next_size _g) (next_size _h)

def push (inp : Input) (name value : List Char) : Input :=
  let blank := value.getLast?.any fun c => c == ' ' || c == '\t'
  { inp with chars := value, behind := ⟨inp.chars, name, blank⟩ :: inp.behind }

/-- Whether the value of an alias is being read. -/
def reads (inp : Input) (name : List Char) : Bool :=
  inp.behind.any fun b => b.name == name

end Input

end PartyBridge.Shell
