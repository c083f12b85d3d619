import DeliveryCycle.Json.Value

/-!
# Signatures

What is called by name takes a list of arguments of any kind. Its signature names the one parameter
that must have an argument and counts those that may have one. `Signature.bind` gives the first
argument and the others apart; it refuses too few and too many of them.
-/

namespace DeliveryCycle

/-- A name with its parameters. -/
structure Signature where
  name : String
  /-- The parameter that must have an argument. -/
  required : String
  /-- How many more parameters may have one. -/
  optional : Nat
  /-- How many arguments are given before those of the caller. -/
  implied : Nat
deriving DecidableEq, Repr

inductive ArgumentError where
  | missing (signature : Signature)
  | tooMany (signature : Signature) (given : Nat)
deriving DecidableEq, Repr

namespace Signature

/-- The least number of arguments, the implied ones included. -/
def least (signature : Signature) : Nat := signature.implied + 1

def taken (signature : Signature) : String :=
  if signature.optional = 0 then
    let noun := if signature.least = 1 then "argument" else "arguments"
    s!"{signature.least} positional {noun}"
  else s!"from {signature.least} to {signature.least + signature.optional} positional arguments"

/-- The first argument and the others. -/
def bind (signature : Signature) (arguments : List Json) :
    Except ArgumentError (Json × List Json) :=
  match arguments with
  | [] => .error (.missing signature)
  | first :: others =>
      if signature.optional < others.length then
        .error (.tooMany signature (signature.implied + arguments.length))
      else .ok (first, others)

/-- Arguments that are taken are split into the first and the others. -/
theorem eq_cons_of_bind {signature : Signature} {arguments others : List Json} {first : Json}
    (bound : signature.bind arguments = .ok (first, others)) : arguments = first :: others := by
  unfold bind at bound
  split at bound
  · simp at bound
  · split at bound
    · simp at bound
    · simp only [Except.ok.injEq, Prod.mk.injEq] at bound
      rw [bound.1, bound.2]

end Signature

def ArgumentError.message : ArgumentError → String
  | .missing signature =>
      s!"{signature.name}() missing 1 required positional argument: '{signature.required}'"
  | .tooMany signature given =>
      s!"{signature.name}() takes {signature.taken} but {given} were given"

end DeliveryCycle
