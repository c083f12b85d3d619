import DeliveryCycle.Proofs.Json.Fields
import DeliveryCycle.Proofs.Json.WrittenInteger
import DeliveryCycle.Proofs.Json.WrittenText
import Mathlib

/-!
# Written values, read back

A value that is written on one line is read as the value that it was, up to the surrogates in its
texts that make pairs: `readAll_render`. This holds for values of any size and any depth, so the
reader must set no limits. The line consists of printable characters of ASCII.

Numbers of double precision are left out.
-/

namespace DeliveryCycle

namespace Json

open Text

/-- The codes of the name of a field. -/
def nameCodes : String × Json → List Nat
  | (_, .unpairedName codes _) => codes
  | (name, _) => name.toList.map Char.toNat

/-- The value of a field without its name. -/
def namedValue : String × Json → Json
  | (_, .unpairedName _ value) => value
  | (_, value) => value

mutual

/-- A value as it is read: the surrogates that make pairs are joined. -/
def joined : Json → Json
  | .unpaired codes => ofCodes (Text.joined codes)
  | .unpairedName codes value => .unpairedName codes value.joined
  | .array items => .array (itemsJoined items)
  | .object fields => .object (fieldsJoined fields)
  | value => value

def itemsJoined : List Json → List Json
  | [] => []
  | item :: rest => item.joined :: itemsJoined rest

def fieldJoined : String × Json → String × Json
  | (name, value) => (name, value.joined)

def fieldsJoined : List (String × Json) → List (String × Json)
  | [] => []
  | field :: rest => fieldJoined field :: fieldsJoined rest

end

/-- The name of a field is accepted: it is a string, or it has surrogates without partners. -/
inductive Dialect.AcceptsName (dialect : Dialect) : String × Json → Prop
  | plain {name : String} {value : Json}
      (isString : ∀ codes inner, value ≠ .unpairedName codes inner) :
      dialect.AcceptsName (name, value)
  | unpaired {codes : List Nat} {value : Json} (surrogate : codes.any isSurrogate = true)
      (areCodes : AreCodes codes) (noPair : HasNoPair codes) (accepted : dialect.unpaired = true) :
      dialect.AcceptsName (Text.ofCodes codes, .unpairedName codes value)

/-- A value without numbers of double precision whose texts are accepted in a dialect. -/
inductive IsWritable (dialect : Dialect) : Json → Prop
  | null : IsWritable dialect .null
  | bool (value : Bool) : IsWritable dialect (.bool value)
  | int (value : Int) : IsWritable dialect (.int value)
  | string (text : String) : IsWritable dialect (.string text)
  | unpaired {codes : List Nat} (areCodes : AreCodes codes)
      (accepted : dialect.Accepts (Text.joined codes)) : IsWritable dialect (.unpaired codes)
  | array {items : List Json} (writable : ∀ item ∈ items, IsWritable dialect item) :
      IsWritable dialect (.array items)
  | object {fields : List (String × Json)} (distinct : (fields.map (·.1)).Nodup)
      (named : ∀ field ∈ fields, dialect.AcceptsName field)
      (writable : ∀ field ∈ fields, IsWritable dialect (namedValue field)) :
      IsWritable dialect (.object fields)

section Names

variable {dialect : Dialect} {field : String × Json}

theorem fieldsJoined_eq_map (fields : List (String × Json)) :
    fieldsJoined fields = fields.map fun field => (field.1, field.2.joined) := by
  induction fields with
  | nil => rfl
  | cons field rest ih => rw [fieldsJoined, ih, List.map_cons, fieldJoined]

theorem accepts_of_noSurrogate {codes : List Nat} (none : codes.any isSurrogate = false) :
    dialect.Accepts codes :=
  .inr fun code mem => Bool.eq_false_iff.mpr (List.any_eq_false.mp none code mem)

theorem nameCodes_of_ne {name : String} {value : Json}
    (isString : ∀ codes inner, value ≠ .unpairedName codes inner) :
    nameCodes (name, value) = name.toList.map Char.toNat := by
  cases value with
  | unpairedName codes inner => exact absurd rfl (isString codes inner)
  | _ => rfl

theorem namedValue_of_ne {name : String} {value : Json}
    (isString : ∀ codes inner, value ≠ .unpairedName codes inner) :
    namedValue (name, value) = value := by
  cases value with
  | unpairedName codes inner => exact absurd rfl (isString codes inner)
  | _ => rfl

namespace Dialect.AcceptsName

variable (accepted : dialect.AcceptsName field)

include accepted

theorem areCodes : AreCodes (nameCodes field) := by
  cases accepted with
  | plain isString =>
      rw [nameCodes_of_ne isString]
      exact areCodes_toNat _
  | unpaired _ areCodes => exact areCodes

theorem hasNoPair : HasNoPair (nameCodes field) := by
  cases accepted with
  | plain isString =>
      rw [nameCodes_of_ne isString]
      exact hasNoPair_of_noSurrogate (any_isSurrogate_toNat _)
  | unpaired _ _ noPair => exact noPair

theorem accepts : dialect.Accepts (nameCodes field) := by
  cases accepted with
  | plain isString =>
      rw [nameCodes_of_ne isString]
      exact accepts_of_noSurrogate (any_isSurrogate_toNat _)
  | unpaired _ _ _ unpaired => exact .inl unpaired

theorem ofCodes_nameCodes : Text.ofCodes (nameCodes field) = field.1 := by
  cases accepted with
  | plain isString => rw [nameCodes_of_ne isString, ofCodes_toNat]
  | unpaired => rfl

/-- The field that is made of what is read of it. -/
theorem fieldOfCodes_nameCodes :
    fieldOfCodes (nameCodes field) (namedValue field).joined = (field.1, field.2.joined) := by
  cases accepted with
  | plain isString =>
      rw [nameCodes_of_ne isString, namedValue_of_ne isString, fieldOfCodes, ofCodes_toNat,
        any_isSurrogate_toNat, if_neg Bool.false_ne_true]
  | unpaired surrogate =>
      change (_, ite _ _ _) = _
      rw [nameCodes, if_pos surrogate]
      rfl

end Dialect.AcceptsName

/-- A value that can be written can be written under any name. -/
theorem IsWritable.named {value : Json} (writable : value.IsWritable dialect) (name : String) :
    dialect.AcceptsName (name, value) ∧ (namedValue (name, value)).IsWritable dialect := by
  have isString : ∀ codes inner, value ≠ .unpairedName codes inner := by
    rintro codes inner rfl
    cases writable
  rw [namedValue_of_ne isString]
  exact ⟨.plain isString, writable⟩

theorem writeField_eq (field : String × Json) :
    writeField Layout.spaced field = writeCodes Layout.spaced (nameCodes field) ++
      (':' :: ' ' :: write Layout.spaced (namedValue field)) := by
  rcases field with ⟨name, value⟩
  by_cases isString : ∀ codes inner, value ≠ .unpairedName codes inner
  · rw [nameCodes_of_ne isString, namedValue_of_ne isString, ← writeText_eq_writeCodes, writeField]
    · rfl
    · exact isString
  · push Not at isString
    rcases isString with ⟨codes, inner, rfl⟩
    rfl

theorem writeField_start (field : String × Json) :
    ∃ behind, (writeField Layout.spaced field).map Char.toNat = Sign.quote :: behind := by
  rw [writeField_eq, writeCodes_spaced]
  exact ⟨_, rfl⟩

end Names

section Values

variable {dialect : Dialect} {rest : List Nat} {fuel : Nat}

/--
A value that was written is read back, whatever follows it on the line. Twice the number of its
characters is enough as a bound on the calls inside each other.
-/
structure ReadsBack (dialect : Dialect) (value : Json) : Prop where
  starts : ∃ first behind, (write Layout.spaced value).map Char.toNat = first :: behind ∧
    isGap first = false ∧ first ≠ Sign.closeList
  reads : ∀ {fuel : Nat} {rest : List Nat}, 2 * (write Layout.spaced value).length ≤ fuel →
    EndsValue rest →
    readValue dialect fuel none ((write Layout.spaced value).map Char.toNat ++ rest) =
      .ok (value.joined, rest)

theorem skipGap_of_not {first : Nat} (noGap : isGap first = false) (text : List Nat) :
    skipGap (first :: text) = first :: text := by
  rw [skipGap, List.dropWhile_cons, noGap]
  rfl

theorem ReadsBack.skipGap_blank {value : Json} (readsBack : ReadsBack dialect value)
    (text : List Nat) :
    skipGap (0x20 :: ((write Layout.spaced value).map Char.toNat ++ text)) =
      (write Layout.spaced value).map Char.toNat ++ text := by
  rcases readsBack.starts with ⟨first, behind, start, noGap, _⟩
  rw [start, List.cons_append]
  exact skipGap_of_not noGap _

theorem endsValue_writeItems (items : List Json) (text : List Nat) :
    EndsValue ((writeItems Layout.spaced items).map Char.toNat ++ text) := by
  cases items with
  | nil =>
      rintro code ⟨⟩
      exact .inr (.inl rfl)
  | cons item items =>
      rintro code ⟨⟩
      exact .inl rfl

theorem endsValue_writeFields (fields : List (String × Json)) (text : List Nat) :
    EndsValue ((writeFields Layout.spaced fields).map Char.toNat ++ text) := by
  cases fields with
  | nil =>
      rintro code ⟨⟩
      exact .inr (.inr rfl)
  | cons field fields =>
      rintro code ⟨⟩
      exact .inl rfl

/-- Behind a comma another item is read. -/
theorem readItems_comma {item : Json} {text behind : List Nat}
    (read : readValue dialect fuel none text = .ok (item, Sign.comma :: behind)) :
    readItems dialect (fuel + 1) none text =
      (readItems dialect fuel none (skipGap behind)).map fun result =>
        (item :: result.1, result.2) := by
  have next : skipGap (Sign.comma :: behind) = Sign.comma :: behind := rfl
  rw [readItems, read]
  simp only [bind, Except.bind, next]
  cases readItems dialect fuel none (skipGap behind) <;> rfl

/-- The items of a list are read one after the other, up to its closing bracket. -/
theorem readItems_write {first : Json} {later : List Json}
    (readBack : ∀ item ∈ first :: later, ReadsBack dialect item)
    (enough : 2 * (write Layout.spaced first ++ writeItems Layout.spaced later).length ≤ fuel)
    (rest : List Nat) :
    readItems dialect fuel none
        ((write Layout.spaced first ++ writeItems Layout.spaced later).map Char.toNat ++ rest) =
      .ok (itemsJoined (first :: later), rest) := by
  induction later generalizing first fuel with
  | nil =>
      have firstBack := readBack first List.mem_cons_self
      have length : (writeItems Layout.spaced []).length = 1 := rfl
      rw [List.length_append, length] at enough
      obtain ⟨fuel, rfl⟩ : ∃ less, fuel = less + 1 := ⟨fuel - 1, by omega⟩
      rw [readItems, List.map_append, List.append_assoc,
        firstBack.reads (by omega) (endsValue_writeItems [] rest)]
      rfl
  | cons next others ih =>
      have firstBack := readBack first List.mem_cons_self
      have laterBack : ∀ item ∈ next :: others, ReadsBack dialect item := fun item mem =>
        readBack item (List.mem_cons_of_mem _ mem)
      have length : (writeItems Layout.spaced (next :: others)).length =
          (write Layout.spaced next ++ writeItems Layout.spaced others).length + 2 := rfl
      rw [List.length_append, length] at enough
      obtain ⟨fuel, rfl⟩ : ∃ less, fuel = less + 1 := ⟨fuel - 1, by omega⟩
      have comma : (writeItems Layout.spaced (next :: others)).map Char.toNat ++ rest =
          Sign.comma :: 0x20 :: ((write Layout.spaced next ++
            writeItems Layout.spaced others).map Char.toNat ++ rest) := rfl
      have read := firstBack.reads (by omega : 2 * (write Layout.spaced first).length ≤ fuel)
        (endsValue_writeItems (next :: others) rest)
      rw [comma] at read
      have skipped : skipGap (0x20 ::
          ((write Layout.spaced next ++ writeItems Layout.spaced others).map Char.toNat ++ rest)) =
          (write Layout.spaced next ++ writeItems Layout.spaced others).map Char.toNat ++ rest := by
        rw [List.map_append, List.append_assoc]
        exact (laterBack next List.mem_cons_self).skipGap_blank _
      rw [List.map_append, List.append_assoc, comma, readItems_comma read, skipped,
        ih laterBack (by omega)]
      rfl

/-- What is read of a field: the codes of its name, and behind a colon its value. -/
theorem exists_read_writeField {field : String × Json} (accepted : dialect.AcceptsName field)
    (readsBack : ReadsBack dialect (namedValue field))
    (enough : 2 * (writeField Layout.spaced field).length ≤ fuel) (ends : EndsValue rest) :
    ∃ text behind, (writeField Layout.spaced field).map Char.toNat ++ rest = Sign.quote :: text ∧
      readCodes dialect fuel text = .ok (nameCodes field, Sign.colon :: behind) ∧
      readValue dialect fuel none (skipGap behind) = .ok ((namedValue field).joined, rest) := by
  have name := joined_of_hasNoPair accepted.hasNoPair
  have acceptsName : dialect.Accepts (Text.joined (nameCodes field)) := by
    rw [name]
    exact accepted.accepts
  rw [writeField_eq, List.length_append, List.length_cons, List.length_cons] at enough
  have enoughName : (writeCodes Layout.spaced (nameCodes field)).length ≤ fuel + 1 := by omega
  obtain ⟨text, start, read⟩ := readCodes_writeCodes accepted.areCodes acceptsName enoughName
    ((':' :: ' ' :: write Layout.spaced (namedValue field)).map Char.toNat ++ rest)
  rw [name] at read
  refine ⟨text, 0x20 :: ((write Layout.spaced (namedValue field)).map Char.toNat ++ rest), ?_,
    read, ?_⟩
  · rw [writeField_eq, List.map_append, List.append_assoc, start]
  · rw [readsBack.skipGap_blank]
    exact readsBack.reads (by omega) ends

section Fields

variable {codes text middle behind : List Nat} {value : Json}

/-- Behind a comma another field is read. -/
theorem readFields_comma
    (nameRead : readCodes dialect fuel text = .ok (codes, Sign.colon :: middle))
    (valueRead : readValue dialect fuel none (skipGap middle) = .ok (value, Sign.comma :: behind)) :
    readFields dialect (fuel + 1) none (Sign.quote :: text) =
      (readFields dialect fuel none (skipGap behind)).map fun result =>
        ((codes, value) :: result.1, result.2) := by
  have colon : skipGap (Sign.colon :: middle) = Sign.colon :: middle := rfl
  have next : skipGap (Sign.comma :: behind) = Sign.comma :: behind := rfl
  rw [readFields, nameRead]
  simp only [bind, Except.bind, colon, valueRead, next]
  cases readFields dialect fuel none (skipGap behind) <;> rfl

theorem readFields_closeObject
    (nameRead : readCodes dialect fuel text = .ok (codes, Sign.colon :: middle))
    (valueRead : readValue dialect fuel none (skipGap middle) =
      .ok (value, Sign.closeObject :: behind)) :
    readFields dialect (fuel + 1) none (Sign.quote :: text) = .ok ([(codes, value)], behind) := by
  have colon : skipGap (Sign.colon :: middle) = Sign.colon :: middle := rfl
  rw [readFields, nameRead]
  simp only [bind, Except.bind, colon, valueRead]
  rfl

end Fields

theorem readFields_write {first : String × Json} {later : List (String × Json)}
    (accepted : ∀ field ∈ first :: later, dialect.AcceptsName field)
    (readBack : ∀ field ∈ first :: later, ReadsBack dialect (namedValue field))
    (enough : 2 * (writeField Layout.spaced first ++ writeFields Layout.spaced later).length ≤ fuel)
    (rest : List Nat) :
    readFields dialect fuel none
        ((writeField Layout.spaced first ++ writeFields Layout.spaced later).map Char.toNat ++
          rest) =
      .ok ((first :: later).map fun field => (nameCodes field, (namedValue field).joined),
        rest) := by
  induction later generalizing first fuel with
  | nil =>
      have length : (writeFields Layout.spaced []).length = 1 := rfl
      rw [List.length_append, length] at enough
      obtain ⟨fuel, rfl⟩ : ∃ less, fuel = less + 1 := ⟨fuel - 1, by omega⟩
      obtain ⟨text, behind, start, name, value⟩ :=
        exists_read_writeField (accepted first List.mem_cons_self)
          (readBack first List.mem_cons_self) (by omega : _ ≤ fuel) (endsValue_writeFields [] rest)
      rw [List.map_append, List.append_assoc, start]
      exact readFields_closeObject name value
  | cons next others ih =>
      have laterAccepted : ∀ field ∈ next :: others, dialect.AcceptsName field := fun field mem =>
        accepted field (List.mem_cons_of_mem _ mem)
      have laterBack : ∀ field ∈ next :: others, ReadsBack dialect (namedValue field) :=
        fun field mem => readBack field (List.mem_cons_of_mem _ mem)
      have length : (writeFields Layout.spaced (next :: others)).length =
          (writeField Layout.spaced next ++ writeFields Layout.spaced others).length + 2 := rfl
      rw [List.length_append, length] at enough
      obtain ⟨fuel, rfl⟩ : ∃ less, fuel = less + 1 := ⟨fuel - 1, by omega⟩
      obtain ⟨text, behind, start, name, value⟩ :=
        exists_read_writeField (accepted first List.mem_cons_self)
          (readBack first List.mem_cons_self) (by omega : _ ≤ fuel)
          (endsValue_writeFields (next :: others) rest)
      have comma : (writeFields Layout.spaced (next :: others)).map Char.toNat ++ rest =
          Sign.comma :: 0x20 :: ((writeField Layout.spaced next ++
            writeFields Layout.spaced others).map Char.toNat ++ rest) := rfl
      rw [comma] at value
      have skipped : skipGap (0x20 :: ((writeField Layout.spaced next ++
            writeFields Layout.spaced others).map Char.toNat ++ rest)) =
          (writeField Layout.spaced next ++ writeFields Layout.spaced others).map Char.toNat ++
            rest := by
        rcases writeField_start next with ⟨behind, start⟩
        rw [List.map_append, start]
        rfl
      rw [List.map_append, List.append_assoc, start, readFields_comma name value, skipped,
        ih laterAccepted laterBack (by omega)]
      rfl

theorem readValue_eq_readScalar {first : Nat} (noQuote : first ≠ Sign.quote)
    (noList : first ≠ Sign.openList) (noObject : first ≠ Sign.openObject) (depth : Option Nat)
    (text : List Nat) :
    readValue dialect (fuel + 1) depth (first :: text) = readScalar dialect (first :: text) := by
  rw [readValue] <;> simp_all

theorem readValue_openList {first : Nat} (noGap : isGap first = false)
    (noEnd : first ≠ Sign.closeList) (text : List Nat) :
    readValue dialect (fuel + 1) none (Sign.openList :: first :: text) =
      (readItems dialect fuel none (first :: text)).map fun result =>
        (.array result.1, result.2) := by
  rw [readValue, depthInside]
  simp only [bind, Except.bind, skipGap_of_not noGap]
  split
  · rename_i same
    exact absurd (List.cons.inj same).1 noEnd
  · cases readItems dialect fuel none (first :: text) <;> rfl

theorem readValue_openObject (text : List Nat) :
    readValue dialect (fuel + 1) none (Sign.openObject :: Sign.quote :: text) =
      (readFields dialect fuel none (Sign.quote :: text)).map fun result =>
        (objectOfCodes result.1, result.2) := by
  have start : skipGap (Sign.quote :: text) = Sign.quote :: text := rfl
  rw [readValue, depthInside]
  simp only [bind, Except.bind, start]
  cases readFields dialect fuel none (Sign.quote :: text) <;> rfl

theorem objectOfCodes_map {fields : List (String × Json)} (distinct : (fields.map (·.1)).Nodup)
    (accepted : ∀ field ∈ fields, dialect.AcceptsName field) :
    objectOfCodes (fields.map fun field => (nameCodes field, (namedValue field).joined)) =
      (Json.object fields).joined := by
  have apart : (fields.map nameCodes).Nodup := by
    apply List.Nodup.of_map Text.ofCodes
    rw [List.map_map]
    have names : fields.map (Text.ofCodes ∘ nameCodes) = fields.map (·.1) :=
      List.map_congr_left fun field mem => (accepted field mem).ofCodes_nameCodes
    rwa [names]
  rw [objectOfCodes, setFields_of_nodup, List.nil_append, List.map_map, joined,
    fieldsJoined_eq_map]
  · congr 1
    apply List.map_congr_left
    intro field mem
    exact (accepted field mem).fieldOfCodes_nameCodes
  · rw [List.nil_append, List.map_map]
    exact apart

theorem readsBack_of_readScalar {value : Json} {first : Nat} {behind : List Nat}
    (written : (write Layout.spaced value).map Char.toNat = first :: behind)
    (noGap : isGap first = false)
    (noBracket : first ∉ [Sign.quote, Sign.openList, Sign.closeList, Sign.openObject])
    (reads : ∀ rest, EndsValue rest →
      readScalar dialect ((write Layout.spaced value).map Char.toNat ++ rest) =
        .ok (value.joined, rest)) : ReadsBack dialect value := by
  simp only [List.mem_cons, List.not_mem_nil, or_false, not_or] at noBracket
  refine ⟨⟨first, behind, written, noGap, noBracket.2.2.1⟩, fun {fuel rest} enough ends => ?_⟩
  have length := congrArg List.length written
  rw [List.length_map, List.length_cons] at length
  obtain ⟨fuel, rfl⟩ : ∃ less, fuel = less + 1 := ⟨fuel - 1, by omega⟩
  have read := reads rest ends
  rw [written, List.cons_append] at read ⊢
  rw [readValue_eq_readScalar noBracket.1 noBracket.2.1 noBracket.2.2.2, read]

theorem readsBack_codes {value : Json} {codes : List Nat} (areCodes : AreCodes codes)
    (accepted : dialect.Accepts (Text.joined codes))
    (written : write Layout.spaced value = writeCodes Layout.spaced codes)
    (isText : value.joined = ofCodes (Text.joined codes)) : ReadsBack dialect value := by
  refine ⟨?_, fun {fuel rest} enough ends => ?_⟩
  · rw [written]
    exact ⟨_, _, rfl, by decide, by decide⟩
  · rw [written] at enough ⊢
    have positive : 0 < (writeCodes Layout.spaced codes).length := Nat.zero_lt_succ _
    obtain ⟨fuel, rfl⟩ : ∃ less, fuel = less + 1 := ⟨fuel - 1, by omega⟩
    have enoughCodes : (writeCodes Layout.spaced codes).length ≤ fuel + 1 := by omega
    obtain ⟨behind, text, read⟩ := readCodes_writeCodes areCodes accepted enoughCodes rest
    rw [text, readValue, read, isText]
    rfl

theorem readsBack_object {fields : List (String × Json)} (distinct : (fields.map (·.1)).Nodup)
    (accepted : ∀ field ∈ fields, dialect.AcceptsName field)
    (readBack : ∀ field ∈ fields, ReadsBack dialect (namedValue field)) :
    ReadsBack dialect (.object fields) := by
  cases fields with
  | nil =>
      refine ⟨⟨_, _, rfl, by decide, by decide⟩, fun {fuel rest} enough _ => ?_⟩
      cases fuel with
      | zero => cases enough
      | succ fuel => rfl
  | cons first later =>
      refine ⟨⟨_, _, rfl, by decide, by decide⟩, fun {fuel rest} enough _ => ?_⟩
      rw [write, List.length_cons] at enough
      obtain ⟨fuel, rfl⟩ : ∃ less, fuel = less + 1 := ⟨fuel - 1, by omega⟩
      have read : readFields dialect fuel none _ = _ :=
        readFields_write accepted readBack (by omega) rest
      rcases writeField_start first with ⟨behind, start⟩
      rw [List.map_append, start, List.cons_append, List.cons_append] at read
      change readValue dialect (fuel + 1) none (Sign.openObject ::
        ((writeField Layout.spaced first ++ writeFields Layout.spaced later).map Char.toNat ++
          rest)) = _
      rw [List.map_append, start, List.cons_append, List.cons_append, readValue_openObject, read,
        ← objectOfCodes_map distinct accepted]
      rfl

theorem readsBack_array {items : List Json} (readBack : ∀ item ∈ items, ReadsBack dialect item) :
    ReadsBack dialect (.array items) := by
  cases items with
  | nil =>
      refine ⟨⟨_, _, rfl, by decide, by decide⟩, fun {fuel rest} enough _ => ?_⟩
      cases fuel with
      | zero => cases enough
      | succ fuel => rfl
  | cons first later =>
      refine ⟨⟨_, _, rfl, by decide, by decide⟩, fun {fuel rest} enough _ => ?_⟩
      rw [write, List.length_cons] at enough
      obtain ⟨fuel, rfl⟩ : ∃ less, fuel = less + 1 := ⟨fuel - 1, by omega⟩
      have read : readItems dialect fuel none _ = _ := readItems_write readBack (by omega) rest
      rcases (readBack first List.mem_cons_self).starts with ⟨code, behind, start, noGap, noEnd⟩
      rw [List.map_append, start, List.cons_append, List.cons_append] at read
      change readValue dialect (fuel + 1) none (Sign.openList ::
        ((write Layout.spaced first ++ writeItems Layout.spaced later).map Char.toNat ++ rest)) = _
      rw [List.map_append, start, List.cons_append, List.cons_append,
        readValue_openList noGap noEnd, read]
      rfl

/-- Every value whose texts are accepted is read back. -/
theorem IsWritable.readsBack (unlimited : dialect.IsUnlimited) {value : Json}
    (writable : value.IsWritable dialect) : ReadsBack dialect value := by
  induction writable with
  | null =>
      apply readsBack_of_readScalar rfl rfl (by decide)
      intro rest _
      have word : dropWord? "null".toList ("null".toList.map Char.toNat ++ rest) = some rest :=
        dropWord?_append _ rest
      rw [write, readScalar, word]
      rfl
  | bool value =>
      cases value with
      | false =>
          apply readsBack_of_readScalar rfl rfl (by decide)
          intro rest _
          rfl
      | true =>
          apply readsBack_of_readScalar rfl rfl (by decide)
          intro rest _
          rfl
  | int value =>
      rcases writeInt_start value with ⟨first, behind, digits, start⟩
      have written : (write Layout.spaced (.int value)).map Char.toNat = first :: behind := by
        rw [write]
        exact digits
      apply readsBack_of_readScalar written
      · rcases start with rfl | isDigit
        · decide
        · exact isGap_of_isDigitCode isDigit
      · intro bracket
        rcases start with rfl | isDigit
        · exact absurd bracket (by decide)
        · simp only [List.mem_cons, List.not_mem_nil, or_false] at bracket
          rcases bracket with rfl | rfl | rfl | rfl
          all_goals exact absurd isDigit (by decide)
      · intro rest ends
        exact readScalar_writeInt unlimited value ends
  | string text =>
      have noSurrogate := any_isSurrogate_toNat text.toList
      have alone := joined_of_hasNoPair (hasNoPair_of_noSurrogate noSurrogate)
      apply readsBack_codes (areCodes_toNat text.toList)
      · rw [alone]
        exact accepts_of_noSurrogate noSurrogate
      · exact writeText_eq_writeCodes text
      · rw [alone, ofCodes, noSurrogate, if_neg Bool.false_ne_true, ofCodes_toNat]
        rfl
  | unpaired areCodes accepted => exact readsBack_codes areCodes accepted rfl rfl
  | array _ readBack => exact readsBack_array readBack
  | object distinct named _ readBack => exact readsBack_object distinct named readBack

end Values

section Lines

variable {dialect : Dialect}

theorem isAsciiLine_writeItems {items : List Json}
    (isLine : ∀ item ∈ items, IsAsciiLine (write Layout.spaced item)) :
    IsAsciiLine (writeItems Layout.spaced items) := by
  induction items with
  | nil => decide
  | cons item rest ih =>
      rw [List.forall_mem_cons] at isLine
      rw [writeItems, isAsciiLine_append, isAsciiLine_append]
      exact ⟨by decide, isLine.1, ih isLine.2⟩

theorem isAsciiLine_writeField {field : String × Json} (accepted : dialect.AcceptsName field)
    (isLine : IsAsciiLine (write Layout.spaced (namedValue field))) :
    IsAsciiLine (writeField Layout.spaced field) := by
  rw [writeField_eq, isAsciiLine_append, isAsciiLine_cons, isAsciiLine_cons]
  exact ⟨isAsciiLine_writeCodes accepted.areCodes, by decide, by decide, isLine⟩

theorem isAsciiLine_writeFields {fields : List (String × Json)}
    (accepted : ∀ field ∈ fields, dialect.AcceptsName field)
    (isLine : ∀ field ∈ fields, IsAsciiLine (write Layout.spaced (namedValue field))) :
    IsAsciiLine (writeFields Layout.spaced fields) := by
  induction fields with
  | nil => decide
  | cons field rest ih =>
      rw [List.forall_mem_cons] at accepted isLine
      rw [writeFields, isAsciiLine_append, isAsciiLine_append]
      exact ⟨by decide, isAsciiLine_writeField accepted.1 isLine.1, ih accepted.2 isLine.2⟩

/-- A value is written on a single line, whatever its texts are. -/
theorem IsWritable.isAsciiLine {value : Json} (writable : value.IsWritable dialect) :
    IsAsciiLine (write Layout.spaced value) := by
  induction writable with
  | null => decide
  | bool value =>
      cases value with
      | false => decide
      | true => decide
  | int value =>
      rw [write]
      exact isAsciiLine_writeInt value
  | string text =>
      change IsAsciiLine (writeText true text)
      rw [writeText_eq_writeCodes]
      exact isAsciiLine_writeCodes (areCodes_toNat text.toList)
  | unpaired areCodes => exact isAsciiLine_writeCodes areCodes
  | @array items _ isLine =>
      cases items with
      | nil => decide
      | cons first later =>
          rw [List.forall_mem_cons] at isLine
          rw [write, isAsciiLine_cons, isAsciiLine_append]
          exact ⟨by decide, isLine.1, isAsciiLine_writeItems isLine.2⟩
  | @object fields _ accepted _ isLine =>
      cases fields with
      | nil => decide
      | cons first later =>
          rw [List.forall_mem_cons] at accepted isLine
          rw [write, isAsciiLine_cons, isAsciiLine_append]
          exact ⟨by decide, isAsciiLine_writeField accepted.1 isLine.1,
            isAsciiLine_writeFields accepted.2 isLine.2⟩

end Lines

end Json

end DeliveryCycle
