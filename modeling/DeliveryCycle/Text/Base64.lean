/-!
# Base 64

Bytes are written as letters, digits and two signs. Three bytes are four characters; if one or two
bytes are left at the end, equals signs fill up the last four.
-/

namespace DeliveryCycle.Text

/-- The sixty-four characters in the order of their values. -/
def base64Alphabet : List Char :=
  "ABCDEFGHIJKLMNOPQRSTUVWXYZabcdefghijklmnopqrstuvwxyz0123456789+/".toList

/-- The character of the last six bits of a number. -/
def base64Char (number : Nat) : Char := base64Alphabet.getD (number % 64) '='

/-- Bytes in characters. -/
def base64 : List Nat → List Char
  | [] => []
  | [first] => [base64Char (first / 4), base64Char (first * 16), '=', '=']
  | [first, second] =>
      let joined := first * 256 + second
      [base64Char (joined / 1024), base64Char (joined / 16), base64Char (joined * 4), '=']
  | first :: second :: third :: rest =>
      let joined := (first * 256 + second) * 256 + third
      base64Char (joined / 262144) :: base64Char (joined / 4096) :: base64Char (joined / 64) ::
        base64Char joined :: base64 rest

end DeliveryCycle.Text
