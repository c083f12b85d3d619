import DeliveryCycle.Settings.Database
import Mathlib.Data.List.Basic

/-!
# The parts of a database address

An address that is put together has its five parts one behind the other, with a separator between
any two. Nothing marks a separator that a part has itself, so that a text can often be cut in
several ways. `Text.IsClear` says when it cannot: no separator occurs in a part next to it, but for
the one place where a cut would leave an empty part.

`settings_told_iff` says the same about settings: of all choices of five settings that are not empty
a choice is the only one with its address exactly if its parts are clear.
-/

namespace DeliveryCycle

namespace Text

variable {first other next before : List Char} {rest others : List (Char × List Char)}
variable {separator : Char}

/-- A part, and every further part behind its separator. -/
def separated : List Char → List (Char × List Char) → List Char
  | first, [] => first
  | first, (separator, next) :: rest => first ++ separator :: separated next rest

/-- No part is empty. -/
structure AreGiven (first : List Char) (rest : List (Char × List Char)) : Prop where
  first : first ≠ []
  rest : ∀ entry ∈ rest, entry.2 ≠ []

/-- A separator is at most the first character of the part in front of it and at most the last one
of the part behind it. -/
def IsClear : List Char → List (Char × List Char) → Prop
  | _, [] => True
  | first, (separator, next) :: rest =>
      separator ∉ first.tail ∧ separator ∉ next.dropLast ∧ IsClear next rest

theorem AreGiven.tail (given : AreGiven first ((separator, next) :: rest)) :
    AreGiven next rest where
  first := given.rest _ List.mem_cons_self
  rest := fun entry mem => given.rest entry (List.mem_cons_of_mem _ mem)

theorem AreGiven.cons (firstGiven : first ≠ []) (given : AreGiven next rest) :
    AreGiven first ((separator, next) :: rest) where
  first := firstGiven
  rest := by
    intro entry mem
    rcases List.mem_cons.mp mem with rfl | later
    · exact given.first
    · exact given.rest entry later

theorem AreGiven.append (left : List Char) (given : AreGiven first rest) :
    AreGiven (left ++ first) rest where
  first := List.append_ne_nil_of_right_ne_nil left given.first
  rest := given.rest

@[simp] theorem separated_cons (character : Char) (first : List Char)
    (rest : List (Char × List Char)) :
    separated (character :: first) rest = character :: separated first rest := by
  cases rest <;> simp [separated]

@[simp] theorem separated_append (left first : List Char) (rest : List (Char × List Char)) :
    separated (left ++ first) rest = left ++ separated first rest := by
  cases rest <;> simp [separated]

theorem mem_tail_iff {text : List Char} :
    separator ∈ text.tail ↔
      ∃ before after, before ≠ [] ∧ text = before ++ separator :: after := by
  constructor
  · intro mem
    cases text with
    | nil => contradiction
    | cons character text =>
        rcases List.mem_iff_append.mp mem with ⟨before, after, rfl⟩
        exact ⟨character :: before, after, List.cons_ne_nil _ _, rfl⟩
  · rintro ⟨before, after, given, rfl⟩
    rcases List.exists_cons_of_ne_nil given with ⟨character, before, rfl⟩
    simp

theorem mem_dropLast_iff {text : List Char} :
    separator ∈ text.dropLast ↔
      ∃ before after, after ≠ [] ∧ text = before ++ separator :: after := by
  constructor
  · intro mem
    rcases List.eq_nil_or_concat text with rfl | ⟨front, last, rfl⟩
    · contradiction
    · rw [List.concat_eq_append, List.dropLast_concat] at mem
      rcases List.mem_iff_append.mp mem with ⟨before, after, rfl⟩
      exact ⟨before, after ++ [last], by simp, by simp⟩
  · rintro ⟨before, after, given, rfl⟩
    rw [List.dropLast_append_cons, List.dropLast_cons_of_ne_nil given]
    simp

/-- In clear parts the separator in front of them cannot be found once more further behind. -/
theorem separated_ne_append (clear : IsClear next rest) (unmoved : separator ∉ next.dropLast)
    (given : AreGiven other others) (same : rest.map (·.1) = others.map (·.1)) :
    separated next rest ≠ before ++ separator :: separated other others := by
  induction rest generalizing next separator before other others with
  | nil =>
      rcases List.map_eq_nil_iff.mp same.symm with rfl
      intro equal
      exact unmoved (mem_dropLast_iff.mpr ⟨before, other, given.first, equal⟩)
  | cons entry rest ih =>
      rcases entry with ⟨following, behind⟩
      rcases others with _ | ⟨⟨otherFollowing, otherBehind⟩, others⟩
      · contradiction
      · simp only [List.map_cons, List.cons.injEq] at same
        rcases same with ⟨rfl, same⟩
        rcases clear with ⟨_, unmovedBehind, clearBehind⟩
        intro equal
        simp only [separated] at equal
        rw [← List.cons_append, ← List.append_assoc, List.append_eq_append_iff] at equal
        rcases equal with ⟨moved, split, rejoined⟩ | ⟨left, split, _⟩
        · rcases List.cons_eq_append_iff.mp rejoined with ⟨rfl, _⟩ | ⟨moved', rfl, cut⟩
          · rw [List.append_nil] at split
            exact unmoved (mem_dropLast_iff.mpr ⟨before, other, given.first, split.symm⟩)
          · exact ih clearBehind unmovedBehind given.tail same cut
        · rw [List.append_assoc, List.cons_append] at split
          have otherLeft : other ++ left ≠ [] := List.append_ne_nil_of_left_ne_nil given.first left
          exact unmoved (mem_dropLast_iff.mpr ⟨before, other ++ left, otherLeft, split⟩)

/-- Clear parts are the only parts with their text, among parts that are not empty. -/
theorem eq_of_separated_eq (clear : IsClear first rest) (given : AreGiven other others)
    (same : rest.map (·.1) = others.map (·.1))
    (equal : separated first rest = separated other others) : first = other ∧ rest = others := by
  induction rest generalizing first other others with
  | nil =>
      rcases List.map_eq_nil_iff.mp same.symm with rfl
      exact ⟨equal, rfl⟩
  | cons entry rest ih =>
      rcases entry with ⟨separator, next⟩
      rcases others with _ | ⟨⟨otherSeparator, otherNext⟩, others⟩
      · contradiction
      · simp only [List.map_cons, List.cons.injEq] at same
        rcases same with ⟨rfl, same⟩
        rcases clear with ⟨unmoved, unmovedNext, clearNext⟩
        have tailsEqual (tails : separated next rest = separated otherNext others) :
            (separator, next) :: rest = (separator, otherNext) :: others := by
          rcases ih clearNext given.tail same tails with ⟨rfl, rfl⟩
          rfl
        simp only [separated, List.append_eq_append_iff] at equal
        rcases equal with ⟨moved, rfl, rejoined⟩ | ⟨moved, rfl, rejoined⟩
        · rcases List.cons_eq_append_iff.mp rejoined with ⟨rfl, cut⟩ | ⟨moved', rfl, cut⟩
          · exact ⟨(List.append_nil _).symm, tailsEqual (List.cons.inj cut).2.symm⟩
          · exact absurd cut (separated_ne_append clearNext unmovedNext given.tail same)
        · rcases List.cons_eq_append_iff.mp rejoined with ⟨rfl, cut⟩ | ⟨moved', rfl, _⟩
          · exact ⟨List.append_nil _, tailsEqual (List.cons.inj cut).2⟩
          · exact absurd (mem_tail_iff.mpr ⟨other, moved', given.first, rfl⟩) unmoved

/-- If parts are not clear, a cut can be moved. -/
theorem exists_separated_eq (given : AreGiven first rest) (unclear : ¬IsClear first rest) :
    ∃ other others, AreGiven other others ∧ others.map (·.1) = rest.map (·.1) ∧
      separated other others = separated first rest ∧ (other, others) ≠ (first, rest) := by
  induction rest generalizing first with
  | nil => exact absurd trivial unclear
  | cons entry rest ih =>
      rcases entry with ⟨separator, next⟩
      by_cases inFirst : separator ∈ first.tail
      · rcases mem_tail_iff.mp inFirst with ⟨before, after, beforeGiven, rfl⟩
        refine ⟨before, (separator, after ++ separator :: next) :: rest, ?_, rfl, ?_, ?_⟩
        · exact .cons beforeGiven (.append after (.append [separator] given.tail))
        · simp [separated]
        · intro equal
          simpa using congrArg (·.1.length) equal
      · by_cases inNext : separator ∈ next.dropLast
        · rcases mem_dropLast_iff.mp inNext with ⟨before, after, afterGiven, rfl⟩
          refine ⟨first ++ separator :: before, (separator, after) :: rest, ?_, rfl, ?_, ?_⟩
          · have firstGiven := List.append_ne_nil_of_left_ne_nil given.first (separator :: before)
            exact .cons firstGiven ⟨afterGiven, given.tail.rest⟩
          · simp [separated]
          · intro equal
            simpa using congrArg (·.1.length) equal
        · have unclearNext : ¬IsClear next rest := fun clear => unclear ⟨inFirst, inNext, clear⟩
          rcases ih given.tail unclearNext with ⟨other, others, otherGiven, same, equal, differ⟩
          refine ⟨first, (separator, other) :: others, .cons given.first otherGiven, ?_, ?_, ?_⟩
          · rw [List.map_cons, List.map_cons, same]
          · rw [separated, separated, equal]
          · simpa using differ

end Text

namespace Settings

/-- The parts behind the user's name, with the separators in front of them. -/
def AddressParts.further (parts : AddressParts) : List (Char × List Char) :=
  [(':', parts.password.toList), ('@', parts.host.toList), (':', parts.port.toList),
    ('/', parts.database.toList)]

/-- No separator of an address stands where a cut could be moved to. -/
structure AddressParts.IsUnambiguous (parts : AddressParts) : Prop where
  user : ':' ∉ parts.user.toList.tail
  password : ':' ∉ parts.password.toList.dropLast ∧ '@' ∉ parts.password.toList.tail
  host : '@' ∉ parts.host.toList.dropLast ∧ ':' ∉ parts.host.toList.tail
  port : ':' ∉ parts.port.toList.dropLast ∧ '/' ∉ parts.port.toList.tail
  database : '/' ∉ parts.database.toList.dropLast

/-- The environment sets the five parts of the address, none of them to the empty text, and no
address as a whole. -/
structure Chooses (environment : Environment) (parts : AddressParts) : Prop where
  whole : environment.given? "DATABASE_URL" = none
  user : environment.given? "DB_USER" = some parts.user
  password : environment.given? "DB_PASSWORD" = some parts.password
  host : environment.given? "DB_HOST" = some parts.host
  port : environment.given? "DB_PORT" = some parts.port
  database : environment.given? "DB_NAME" = some parts.database

/-- An environment that sets the five parts of the address. -/
def partsEnvironment (parts : AddressParts) : Environment :=
  [("DB_USER", parts.user), ("DB_PASSWORD", parts.password), ("DB_HOST", parts.host),
    ("DB_PORT", parts.port), ("DB_NAME", parts.database)]

/-- Choices of settings with one address are one choice. -/
def TellsSettings : Prop :=
  ∀ (environment other : Environment) (parts otherParts : AddressParts),
    Chooses environment parts → Chooses other otherParts →
      databaseAddress environment = databaseAddress other → parts = otherParts

section Address

variable {environment : Environment} {parts other : AddressParts}

theorem isClear_iff :
    Text.IsClear parts.user.toList parts.further ↔ parts.IsUnambiguous := by
  simp only [Text.IsClear, AddressParts.further]
  constructor
  · rintro ⟨user, password, atPassword, host, colonHost, port, slashPort, database, _⟩
    exact ⟨user, ⟨password, atPassword⟩, ⟨host, colonHost⟩, ⟨port, slashPort⟩, database⟩
  · rintro ⟨user, ⟨password, atPassword⟩, ⟨host, colonHost⟩, ⟨port, slashPort⟩, database⟩
    exact ⟨user, password, atPassword, host, colonHost, port, slashPort, database, trivial⟩

theorem toList_address (parts : AddressParts) :
    parts.address.toList =
      "postgresql+asyncpg://".toList ++ Text.separated parts.user.toList parts.further := by
  have colon : ":".toList = [':'] := rfl
  have atSign : "@".toList = ['@'] := rfl
  have slash : "/".toList = ['/'] := rfl
  unfold AddressParts.address AddressParts.further
  generalize "postgresql+asyncpg://" = scheme
  simp only [Text.separated, String.toList_append, colon, atSign, slash, List.append_assoc,
    List.cons_append, List.nil_append]

theorem address_eq_iff :
    parts.address = other.address ↔
      Text.separated parts.user.toList parts.further =
        Text.separated other.user.toList other.further := by
  rw [← String.toList_inj, toList_address, toList_address, List.append_cancel_left_eq]

theorem eq_iff_further_eq :
    parts = other ↔ parts.user.toList = other.user.toList ∧ parts.further = other.further := by
  constructor
  · rintro rfl
    exact ⟨rfl, rfl⟩
  · rintro ⟨user, further⟩
    cases parts
    cases other
    simpa [AddressParts.further, String.toList_inj] using And.intro user further

/-- Every list of further parts with the separators of an address belongs to an address. -/
theorem exists_further_eq (first : List Char) {rest : List (Char × List Char)}
    (same : rest.map (·.1) = parts.further.map (·.1)) :
    ∃ other : AddressParts, other.user.toList = first ∧ other.further = rest := by
  simp only [AddressParts.further, List.map_eq_cons_iff, List.map_cons, List.map_nil,
    List.map_eq_nil_iff] at same
  rcases same with ⟨⟨_, password⟩, _, rfl, rfl, ⟨_, host⟩, _, rfl, rfl, ⟨_, port⟩, _, rfl, rfl,
    ⟨_, database⟩, _, rfl, rfl, rfl⟩
  refine ⟨⟨.ofList first, .ofList password, .ofList host, .ofList port, .ofList database⟩, ?_, ?_⟩
  · simp
  · simp [AddressParts.further]

theorem given?_eq_some_iff {name value : String} :
    environment.given? name = some value ↔ environment.get? name = some value ∧ value ≠ "" := by
  simp [Environment.given?, Option.filter_eq_some_iff]

theorem Chooses.areGiven (chosen : Chooses environment parts) :
    Text.AreGiven parts.user.toList parts.further := by
  have given {name value : String} (set : environment.given? name = some value) :
      value.toList ≠ [] := by
    simpa using (given?_eq_some_iff.mp set).2
  constructor
  · exact given chosen.user
  · simp only [AddressParts.further, List.forall_mem_cons]
    exact ⟨given chosen.password, given chosen.host, given chosen.port, given chosen.database,
      List.forall_mem_nil _⟩

theorem chooses_partsEnvironment (given : Text.AreGiven parts.user.toList parts.further) :
    Chooses (partsEnvironment parts) parts := by
  simp only [AddressParts.further] at given
  have rest := given.rest
  simp only [List.forall_mem_cons, ne_eq, String.toList_eq_nil_iff] at rest
  rcases rest with ⟨password, host, port, database, _⟩
  have user : parts.user ≠ "" := by simpa using given.first
  refine ⟨rfl, ?_, ?_, ?_, ?_, ?_⟩
  all_goals
    rw [given?_eq_some_iff]
    exact ⟨rfl, by assumption⟩

theorem Chooses.databaseAddress_eq (chosen : Chooses environment parts) :
    databaseAddress environment = parts.address := by
  have value {name value : String} (otherwise : String)
      (set : environment.given? name = some value) : environment.getD name otherwise = value := by
    simp [Environment.getD, (given?_eq_some_iff.mp set).1]
  have same : addressParts environment = parts := by
    simp [addressParts, value _ chosen.user, value _ chosen.password, value _ chosen.host,
      value _ chosen.port, value _ chosen.database]
  simp only [databaseAddress, chosen.whole, same]

end Address

/-- A choice of settings is the only one with its address exactly if no separator of the address
stands where a cut could be moved to. -/
theorem settings_told_iff {environment : Environment} {parts : AddressParts}
    (chosen : Chooses environment parts) :
    (∀ (other : Environment) (otherParts : AddressParts), Chooses other otherParts →
      databaseAddress environment = databaseAddress other → parts = otherParts) ↔
      parts.IsUnambiguous := by
  rw [← isClear_iff]
  constructor
  · intro only
    by_contra unclear
    rcases Text.exists_separated_eq chosen.areGiven unclear with
      ⟨first, rest, given, same, equal, differ⟩
    rcases exists_further_eq first same with ⟨otherParts, rfl, rfl⟩
    have otherChosen := chooses_partsEnvironment given
    have sameAddress : databaseAddress environment =
        databaseAddress (partsEnvironment otherParts) := by
      rw [chosen.databaseAddress_eq, otherChosen.databaseAddress_eq, address_eq_iff, equal]
    rcases only _ otherParts otherChosen sameAddress with rfl
    exact differ rfl
  · intro clear other otherParts otherChosen sameAddress
    rw [chosen.databaseAddress_eq, otherChosen.databaseAddress_eq, address_eq_iff] at sameAddress
    exact eq_iff_further_eq.mpr (Text.eq_of_separated_eq clear otherChosen.areGiven rfl sameAddress)

def guardedParts : AddressParts := ⟨":user", "@word:", "host", "5432", "name"⟩

/-- Separators in a part do no harm where a cut would leave an empty part. -/
theorem settings_told_of_guardedParts :
    Chooses (partsEnvironment guardedParts) guardedParts ∧ guardedParts.IsUnambiguous ∧
      ∀ (other : Environment) (otherParts : AddressParts), Chooses other otherParts →
        databaseAddress (partsEnvironment guardedParts) = databaseAddress other →
          guardedParts = otherParts := by
  have chosen : Chooses (partsEnvironment guardedParts) guardedParts :=
    ⟨rfl, rfl, rfl, rfl, rfl, rfl⟩
  have unambiguous : guardedParts.IsUnambiguous := by
    constructor <;> decide
  exact ⟨chosen, unambiguous, (settings_told_iff chosen).mpr unambiguous⟩

def atSignParts : AddressParts := ⟨"postgres", "p@ss", "host", "5432", "name"⟩

def otherHostParts : AddressParts := ⟨"postgres", "p", "ss@host", "5432", "name"⟩

/-- A password with the separator in front of the host is not told from a shorter password and
another host. -/
theorem not_tellsSettings : ¬TellsSettings := by
  intro tells
  have chosen : Chooses (partsEnvironment atSignParts) atSignParts :=
    ⟨rfl, rfl, rfl, rfl, rfl, rfl⟩
  have otherChosen : Chooses (partsEnvironment otherHostParts) otherHostParts :=
    ⟨rfl, rfl, rfl, rfl, rfl, rfl⟩
  have same : atSignParts = otherHostParts := tells _ _ _ _ chosen otherChosen (by decide)
  exact absurd same (by decide)

end Settings

end DeliveryCycle
