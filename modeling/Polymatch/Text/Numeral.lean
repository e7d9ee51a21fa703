/-! # Numerals in positional notation -/

namespace Polymatch.Text

def digitChar (upper : Bool) (d : Nat) : Char :=
  Char.ofNat (if d < 10 then 48 + d else if upper then 55 + d else 87 + d)

/-- Digits of `n` in base 16, most significant first, with at least one digit. -/
def hexDigits (upper : Bool) (n : Nat) : List Char :=
  if n < 16 then [digitChar upper n] else hexDigits upper (n / 16) ++ [digitChar upper (n % 16)]
termination_by n

/-- Hexadecimal numeral padded with zeros to `width` digits. -/
def hex (upper : Bool) (width n : Nat) : String :=
  let digits := hexDigits upper n
  String.ofList (List.replicate (width - digits.length) '0' ++ digits)

/-- The value of a run of decimal digits. -/
def decimalValue (digits : List Char) : Nat :=
  digits.foldl (fun n c => 10 * n + (c.toNat - 48)) 0

end Polymatch.Text
