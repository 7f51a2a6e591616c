import Mathlib.Data.List.TakeWhile
import PartyBridge.Driver.Lookup
import PartyBridge.Proofs.Text.Integer
import PartyBridge.Proofs.Text.Utf8

/-!
# Which driver is found

The driver of a party is its own file or the least of those that add one extension to its name, whatever the order
of the directory, and no two parties have the same one (`locate_law`).
-/

namespace PartyBridge.Driver
open Host (Tree Path)
open Journal (joinPath)

/-! ### Names -/

/-- A name that adds one extension to a stem; the extension may be empty, and need not be text. -/
def Extends (stem name : Bytes) : Prop :=
  ∃ extension, name = stem ++ 46 :: extension ∧ 46 ∉ extension

theorem hasStem_iff {stem name : Bytes} : hasStem stem name ↔ Extends stem name := by
  constructor
  · intro has
    unfold hasStem at has
    split at has
    · rename_i extension behind
      rw [Bool.and_eq_true, List.isPrefixOf_iff_prefix] at has
      obtain ⟨⟨rest, rfl⟩, single⟩ := has
      rw [List.drop_left] at behind
      exact ⟨extension, by rw [behind], by simpa using single⟩
    · cases has
  · rintro ⟨extension, rfl, single⟩
    simp [hasStem, single]

theorem leastName_eq_none {names : List Bytes} : leastName names = none ↔ names = [] := by
  cases names with
  | nil => simp [leastName]
  | cons name rest =>
    simp only [leastName]
    split
    · simp
    · split <;> simp

/-- The least name is one of the names, and none of them is below it. -/
theorem leastName_spec {names : List Bytes} {name : Bytes} (found : leastName names = some name) :
    name ∈ names ∧ ∀ other ∈ names, name ≤ other := by
  induction names generalizing name with
  | nil => cases found
  | cons first rest ih =>
    rw [leastName] at found
    split at found
    · rename_i none
      cases found
      rw [leastName_eq_none.mp none]
      simp
    · rename_i least some
      obtain ⟨member, below⟩ := ih some
      split at found
      · rename_i smaller
        cases found
        refine ⟨List.mem_cons_of_mem _ member, ?_⟩
        intro other listed
        rcases List.mem_cons.mp listed with rfl | later
        · exact List.le_of_lt smaller
        · exact below other later
      · rename_i larger
        cases found
        refine ⟨List.mem_cons_self, ?_⟩
        intro other listed
        rcases List.mem_cons.mp listed with rfl | later
        · exact List.le_refl _
        · exact List.le_trans (List.not_lt.mp larger) (below other later)

theorem leastName_eq_some {names : List Bytes} {name : Bytes} :
    leastName names = some name ↔ name ∈ names ∧ ∀ other ∈ names, name ≤ other := by
  refine ⟨leastName_spec, ?_⟩
  rintro ⟨member, below⟩
  cases found : leastName names with
  | none =>
    rw [leastName_eq_none.mp found] at member
    cases member
  | some least =>
    obtain ⟨listed, lower⟩ := leastName_spec found
    rw [List.le_antisymm (lower name member) (below least listed)]

/-! ### Choice -/

def stemBytes (party : Nat) : Bytes :=
  Utf8.encode (stem party)

section Choice
variable {entries : List Entry} {party : Nat} {name : Bytes}

theorem mem_files : name ∈ (entries.filter Entry.regular).map Entry.name ↔ ⟨name, true⟩ ∈ entries := by
  rw [List.mem_map]
  constructor
  · rintro ⟨⟨_, regular⟩, member, rfl⟩
    obtain ⟨listed, rfl⟩ := List.mem_filter.mp member
    exact listed
  · intro listed
    exact ⟨⟨name, true⟩, List.mem_filter.mpr ⟨listed, rfl⟩, rfl⟩

theorem chooseDriver_own (own : ⟨stemBytes party, true⟩ ∈ entries) :
    chooseDriver entries party = some (stemBytes party) := by
  have listed := List.contains_iff_mem.mpr (mem_files.mpr own)
  rw [chooseDriver]
  exact if_pos listed

theorem chooseDriver_other (absent : ⟨stemBytes party, true⟩ ∉ entries) :
    chooseDriver entries party =
      leastName (((entries.filter Entry.regular).map Entry.name).filter (hasStem (stemBytes party))) := by
  have unlisted : ¬ ((entries.filter Entry.regular).map Entry.name).contains (stemBytes party) := by
    rwa [List.contains_iff_mem, mem_files]
  rw [chooseDriver]
  exact if_neg unlisted

theorem mem_candidates :
    name ∈ ((entries.filter Entry.regular).map Entry.name).filter (hasStem (stemBytes party)) ↔
      ⟨name, true⟩ ∈ entries ∧ Extends (stemBytes party) name := by
  rw [List.mem_filter, mem_files, hasStem_iff]

theorem chooseDriver_eq_some :
    chooseDriver entries party = some name ↔
      (⟨stemBytes party, true⟩ ∈ entries ∧ name = stemBytes party) ∨
      (⟨stemBytes party, true⟩ ∉ entries ∧ (⟨name, true⟩ ∈ entries ∧ Extends (stemBytes party) name) ∧
        ∀ other, ⟨other, true⟩ ∈ entries → Extends (stemBytes party) other → name ≤ other) := by
  by_cases own : ⟨stemBytes party, true⟩ ∈ entries
  · rw [chooseDriver_own own]
    simp [own, eq_comm]
  · rw [chooseDriver_other own, leastName_eq_some]
    simp only [mem_candidates, own, false_and, not_false_eq_true, true_and, false_or, and_imp]

theorem chooseDriver_eq_none :
    chooseDriver entries party = none ↔
      ∀ name, ⟨name, true⟩ ∈ entries → name ≠ stemBytes party ∧ ¬ Extends (stemBytes party) name := by
  constructor
  · intro none name listed
    by_cases own : ⟨stemBytes party, true⟩ ∈ entries
    · rw [chooseDriver_own own] at none
      cases none
    · rw [chooseDriver_other own, leastName_eq_none] at none
      refine ⟨?_, ?_⟩
      · rintro rfl
        exact own listed
      · intro extended
        have candidate := mem_candidates.mpr ⟨listed, extended⟩
        rw [none] at candidate
        cases candidate
  · intro nobody
    have own : ⟨stemBytes party, true⟩ ∉ entries := fun listed => (nobody _ listed).1 rfl
    rw [chooseDriver_other own, leastName_eq_none, List.eq_nil_iff_forall_not_mem]
    intro name candidate
    obtain ⟨listed, extended⟩ := mem_candidates.mp candidate
    exact (nobody name listed).2 extended

/-- The choice depends on what is in a directory, and not on its order. -/
theorem chooseDriver_congr {entries' : List Entry} (same : ∀ entry, entry ∈ entries' ↔ entry ∈ entries) :
    chooseDriver entries' party = chooseDriver entries party := by
  apply Option.ext
  intro name
  rw [chooseDriver_eq_some, chooseDriver_eq_some]
  simp only [same]

end Choice

/-! ### Stems -/

theorem natDigits_inj {n m : Nat} (same : Text.natDigits n = Text.natDigits m) : n = m := by
  have first := Text.readMagnitude_natDigits .tooLarge (Nat.le_max_left n m)
  have second := Text.readMagnitude_natDigits .tooLarge (Nat.le_max_right n m)
  rw [same, second] at first
  exact (Except.ok.inj first).symm

theorem toList_stem (party : Nat) : (stem party).toList = "player_".toList ++ Text.natDigits party := by
  simp [stem, Text.decimalNat]

theorem stemBytes_inj {party other : Nat} (same : stemBytes party = stemBytes other) : party = other := by
  have texts : some (stem party) = some (stem other) := by
    rw [← Utf8.decode?_encode, ← Utf8.decode?_encode (stem other)]
    exact congrArg Utf8.decode? same
  have digits := congrArg String.toList (Option.some.inj texts)
  rw [toList_stem, toList_stem] at digits
  exact natDigits_inj (List.append_cancel_left digits)

theorem dot_not_mem_stemBytes (party : Nat) : 46 ∉ stemBytes party := by
  intro member
  have dot : '.' ∈ (stem party).toList := (Utf8.ascii_mem_encodeChars (a := '.') (by decide)).mp member
  rw [toList_stem] at dot
  rcases List.mem_append.mp dot with start | digit
  · revert start
    decide
  · have bounds := Text.digit_bounds (Text.digit?_of_mem_natDigits digit)
    revert bounds
    decide

/-- A name that a party's driver may have. -/
def Bears (party : Nat) (name : Bytes) : Prop :=
  name = stemBytes party ∨ Extends (stemBytes party) name

/-- The party can be read off the name. -/
theorem Bears.takeWhile {party : Nat} {name : Bytes} (bears : Bears party name) :
    name.takeWhile (· != 46) = stemBytes party := by
  have plain : ∀ b ∈ stemBytes party, (b != 46) = true := by
    intro b member
    rw [bne_iff_ne]
    rintro rfl
    exact dot_not_mem_stemBytes party member
  rcases bears with rfl | ⟨extension, rfl, -⟩
  · exact List.takeWhile_eq_self_iff.mpr plain
  · rw [List.takeWhile_append_of_pos plain]
    simp

theorem Bears.unique {party other : Nat} {name : Bytes} (bears : Bears party name) (bears' : Bears other name) :
    party = other :=
  stemBytes_inj (bears.takeWhile.symm.trans bears'.takeWhile)

theorem Bears.head {party : Nat} {name : Bytes} (bears : Bears party name) : name.head? = some 112 := by
  have start : ∃ rest, stemBytes party = 112 :: rest :=
    ⟨_, by rw [stemBytes, Utf8.encode, toList_stem, Utf8.encodeChars_append]; rfl⟩
  obtain ⟨rest, start⟩ := start
  rcases bears with rfl | ⟨extension, rfl, -⟩ <;> rw [start] <;> rfl

theorem chooseDriver_bears {entries : List Entry} {party : Nat} {name : Bytes}
    (chosen : chooseDriver entries party = some name) : Bears party name := by
  rcases chooseDriver_eq_some.mp chosen with ⟨-, own⟩ | ⟨-, ⟨-, extended⟩, -⟩
  · exact .inl own
  · exact .inr extended

theorem joinPath_inj {dir name name' : Bytes} (relative : name.head? ≠ some 47) (relative' : name'.head? ≠ some 47)
    (same : joinPath dir name = joinPath dir name') : name = name' := by
  rw [joinPath, if_neg relative, joinPath, if_neg relative'] at same
  split at same
  · exact List.append_cancel_left same
  · exact List.append_cancel_left same

/-! ### Directories -/

/-- A name that a party may find in a directory leads to a regular file, through any links. -/
def Holds (t : Tree) (cwd : Path) (dir : Bytes) (party : Nat) (name : Bytes) : Prop :=
  if dir = [] then name = stemBytes party ∧ t.isRegular cwd name
  else ∃ path, t.find cwd dir = .ok (.node path .directory) ∧ name ∈ t.list path ∧ t.isRegular path name

theorem mem_entriesOf {t : Tree} {cwd : Path} {dir name : Bytes} :
    ⟨name, true⟩ ∈ entriesOf t cwd dir ↔
      ∃ path, t.find cwd dir = .ok (.node path .directory) ∧ name ∈ t.list path ∧ t.isRegular path name := by
  unfold entriesOf
  split
  · rename_i path found
    rw [List.mem_map]
    constructor
    · rintro ⟨_, listed, same⟩
      obtain ⟨rfl, regular⟩ := Entry.mk.inj same
      exact ⟨path, found, listed, regular⟩
    · rintro ⟨path', found', listed, regular⟩
      cases found.symm.trans found'
      exact ⟨name, listed, by rw [regular]⟩
  · rename_i other
    constructor
    · intro listed
      cases listed
    · rintro ⟨path, found, -⟩
      exact absurd found (other path)

theorem mem_entriesFor {t : Tree} {cwd : Path} {dir name : Bytes} {party : Nat} :
    ⟨name, true⟩ ∈ entriesFor t cwd dir party ↔ Holds t cwd dir party name := by
  cases dir with
  | nil =>
    rw [Holds, if_pos rfl, entriesFor, List.mem_singleton]
    constructor
    · intro same
      obtain ⟨rfl, regular⟩ := Entry.mk.inj same
      exact ⟨rfl, regular.symm⟩
    · rintro ⟨rfl, regular⟩
      exact congrArg (Entry.mk _) regular.symm
  | cons b rest =>
    rw [Holds, if_neg (List.cons_ne_nil b rest)]
    exact mem_entriesOf

section Locate
variable {l : Loader} {t : Tree} {cwd : Path} {party : Nat}

theorem locate_eq_ok {path : Bytes} :
    l.locate t cwd party = .ok path ↔
      ∃ name, path = joinPath l.dir name ∧ chooseDriver (entriesFor t cwd l.dir party) party = some name := by
  unfold Loader.locate
  split
  · rename_i name chosen
    simp [chosen, eq_comm]
  · rename_i none
    simp [none]

theorem locate_eq_notFound :
    l.locate t cwd party = .error (.notFound (stem party) (Utf8.decodeLossy l.dir)) ↔
      chooseDriver (entriesFor t cwd l.dir party) party = none := by
  unfold Loader.locate
  split
  · rename_i name chosen
    simp [chosen]
  · rename_i none
    simp [none]

end Locate

/-- How a party's driver is found in a directory: it is the file that bears the party's name; where there is none, the
least of the files that add one extension to it; and nothing just if there is none of these either. The order of the
directory does not matter, and two parties never have the same driver. -/
theorem locate_law (l : Loader) (t : Tree) (cwd : Path) (party : Nat) :
    let own := Utf8.encode (stem party)
    (Holds t cwd l.dir party own → l.locate t cwd party = .ok (joinPath l.dir own)) ∧
    (¬ Holds t cwd l.dir party own → ∀ path, l.locate t cwd party = .ok path ↔
      ∃ name, path = joinPath l.dir name ∧ (Holds t cwd l.dir party name ∧ Extends own name) ∧
        ∀ other, Holds t cwd l.dir party other → Extends own other → name ≤ other) ∧
    (l.locate t cwd party = .error (.notFound (stem party) (Utf8.decodeLossy l.dir)) ↔
      ∀ name, Holds t cwd l.dir party name → name ≠ own ∧ ¬ Extends own name) ∧
    (∀ t', (entriesFor t' cwd l.dir party).Perm (entriesFor t cwd l.dir party) →
      l.locate t' cwd party = l.locate t cwd party) ∧
    ∀ other, other ≠ party → ∀ path path', l.locate t cwd party = .ok path → l.locate t cwd other = .ok path' →
      path ≠ path' := by
  intro own
  simp only [← mem_entriesFor]
  refine ⟨?_, ?_, ?_, ?_, ?_⟩
  · intro listed
    exact locate_eq_ok.mpr ⟨own, rfl, chooseDriver_own listed⟩
  · intro absent path
    rw [locate_eq_ok]
    have absent : ⟨stemBytes party, true⟩ ∉ entriesFor t cwd l.dir party := absent
    simp only [chooseDriver_eq_some, absent, false_and, not_false_eq_true, true_and, false_or]
    rfl
  · rw [locate_eq_notFound, chooseDriver_eq_none]
    rfl
  · intro t' reordered
    rw [Loader.locate, Loader.locate, chooseDriver_congr fun entry => reordered.mem_iff]
  · rintro other different path path' found found' rfl
    obtain ⟨name, joined, chosen⟩ := locate_eq_ok.mp found
    obtain ⟨name', joined', chosen'⟩ := locate_eq_ok.mp found'
    have bears := chooseDriver_bears chosen
    have bears' := chooseDriver_bears chosen'
    -- Neither name is an absolute path, and so the paths differ where the names do.
    have same : name = name' := by
      apply joinPath_inj _ _ (joined.symm.trans joined')
      · rw [bears.head]
        decide
      · rw [bears'.head]
        decide
    subst same
    exact different (bears'.unique bears)

/-- A directory in which the first party's own name is that of a directory, and a link with an empty extension is the
least of the others. -/
def shelf : List (Path × Host.Node) :=
  let dir := Utf8.encode "d"
  [([dir], .directory), ([dir, Utf8.encode "player_1.sh"], .file 0), ([dir, Utf8.encode "player_1"], .directory),
    ([dir, Utf8.encode "player_1." ++ [255]], .file 1), ([dir, Utf8.encode "player_1.a.b"], .file 2),
    ([dir, Utf8.encode "player_1."], .link (Utf8.encode "run")), ([dir, Utf8.encode "run"], .file 3),
    ([dir, Utf8.encode "player_10.sh"], .file 4)]

theorem locate_law_shelf :
    let l : Loader := ⟨Utf8.encode "d", none⟩
    let t : Tree := ⟨shelf, #[]⟩
    let t' : Tree := ⟨shelf.reverse, #[]⟩
    (¬ Holds t [] l.dir 1 (Utf8.encode (stem 1))) ∧
    l.locate t [] 1 = .ok (Utf8.encode "d/player_1.") ∧ l.locate t' [] 1 = .ok (Utf8.encode "d/player_1.") ∧
    (∃ name, Utf8.encode "d/player_1." = joinPath l.dir name ∧ ∀ other, Holds t [] l.dir 1 other →
      Extends (Utf8.encode (stem 1)) other → name ≤ other) ∧
    (∀ name, Holds t [] l.dir 0 name → ¬ Extends (Utf8.encode (stem 0)) name) ∧
    ∀ path, l.locate t [] 10 = .ok path → path ≠ Utf8.encode "d/player_1." := by
  intro l t t'
  have absent : ¬ Holds t [] l.dir 1 (Utf8.encode (stem 1)) := by
    rw [← mem_entriesFor]
    decide +kernel
  have found : l.locate t [] 1 = .ok (Utf8.encode "d/player_1.") := by decide +kernel
  have reordered : (entriesFor t' [] l.dir 1).Perm (entriesFor t [] l.dir 1) := by decide +kernel
  obtain ⟨-, least, -, order, apart⟩ := locate_law l t [] 1
  obtain ⟨-, -, nobody, -, -⟩ := locate_law l t [] 0
  have none : l.locate t [] 0 = .error (.notFound (stem 0) (Utf8.decodeLossy l.dir)) := by decide +kernel
  obtain ⟨name, joined, -, below⟩ := (least absent _).mp found
  refine ⟨absent, found, (order t' reordered).trans found, ⟨name, joined, below⟩, ?_, ?_⟩
  · intro name holds
    exact (nobody.mp none name holds).2
  · intro path other
    exact (apart 10 (by decide) _ path found other).symm

end PartyBridge.Driver
