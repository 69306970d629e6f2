/-
  SqlPipeline/Text/Base64.lean
  ============================
  **Bytes written with sixty-four characters.**

  Four characters hold three bytes.  Characters outside the alphabet are skipped, and
  what follows the padding of the last group is not looked at.
-/
namespace SqlPipeline.Text.Base64

def value? (c : Char) : Option Nat :=
  if 'A' ≤ c && c ≤ 'Z' then some (c.toNat - 65)
  else if 'a' ≤ c && c ≤ 'z' then some (c.toNat - 71)
  else if '0' ≤ c && c ≤ '9' then some (c.toNat + 4)
  else if c == '+' then some 62
  else if c == '/' then some 63
  else none

/-- Reads characters; `held` are the bits of the group that are not yet in a byte, `taken` is
    the number of its characters and `pads` that of the padding signs after them. -/
def decodeFrom (held taken pads : Nat) : List Char → Option (List UInt8)
  | [] => if taken == 0 then some [] else none
  | c :: cs =>
      if c == '=' then
        if taken ≥ 2 && taken + pads + 1 ≥ 4 then some []
        else decodeFrom held taken (if taken ≥ 2 then pads + 1 else pads) cs
      else
        match value? c with
        | none => decodeFrom held taken pads cs
        | some v =>
            match taken with
            | 0 => decodeFrom v 1 0 cs
            | 1 => (decodeFrom (v % 16) 2 0 cs).map (UInt8.ofNat (held * 4 + v / 16) :: ·)
            | 2 => (decodeFrom (v % 4) 3 0 cs).map (UInt8.ofNat (held * 16 + v / 4) :: ·)
            | _ => (decodeFrom 0 0 0 cs).map (UInt8.ofNat (held * 64 + v) :: ·)

/-- The bytes of a text, unless its last group is incomplete. -/
def decode? (s : String) : Option (List UInt8) :=
  decodeFrom 0 0 0 s.toList

end SqlPipeline.Text.Base64
