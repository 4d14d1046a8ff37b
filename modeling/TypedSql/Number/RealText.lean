import TypedSql.Number.Shortest

/-!
# How a real number is written

Three writings share the shortest digits. The *plain* one is positional for every magnitude and
drops the point of a whole number; messages and text columns use it. The *source* one keeps a
fraction (`1.0`) and turns to an exponent below `1e-4` and from `1e16` on; literals in SQL text and
listings of arguments use it. Both write zero with its sign.
-/

namespace TypedSql.RealText

def zeros (n : Nat) : String := String.ofList (List.replicate n '0')

def digitText (n : Nat) : String := String.ofList (Nat.toDigits 10 n)

/-- The positional form; a whole number has no point. -/
def positional (d : Digits) : String :=
  let text := digitText d.digits
  if 0 ≤ d.exponent then text ++ zeros (if d.digits = 0 then 0 else d.exponent.toNat)
  else
    let places := d.exponent.natAbs
    if places < text.length then
      let cut := text.length - places
      String.ofList (text.toList.take cut) ++ "." ++ String.ofList (text.toList.drop cut)
    else "0." ++ zeros (places - text.length) ++ text

/-- One digit, the fraction if there is one, and the exponent without padding. -/
def scientific (d : Digits) : String :=
  let exponent := toString d.lead
  match (digitText d.digits).toList with
  | [] => ""
  | [c] => c.toString ++ "e" ++ exponent
  | c :: rest => c.toString ++ "." ++ String.ofList rest ++ "e" ++ exponent

def signed (negative : Bool) (text : String) : String :=
  if negative then "-" ++ text else text

/-- The plain writing. -/
def plain (x : Float) : String :=
  match Binary64.ofFloat x with
  | .nan => "NaN"
  | .infinite negative => signed negative "inf"
  | .finite negative m q => signed negative (positional (.shortest m q))

/-- The source writing of a finite number, sign apart. -/
def sourceDigits (d : Digits) : String :=
  if d.digits ≠ 0 ∧ (d.lead < -4 ∨ 16 ≤ d.lead) then scientific d
  else if 0 ≤ d.exponent then positional d ++ ".0"
  else positional d

/-- The source writing. -/
def source (x : Float) : String :=
  match Binary64.ofFloat x with
  | .nan => "NaN"
  | .infinite negative => signed negative "inf"
  | .finite negative m q => signed negative (sourceDigits (.shortest m q))

end TypedSql.RealText
