/-
  SqlPipeline/Text/Utf8.lean
  ==========================
  **Reading UTF-8, with the place and the reason of a failure.**

  A character is one to four bytes.  Over-long forms, surrogates and code points
  beyond the last one are refused at the byte that first rules them out, so that a
  failure names exactly the bytes that cannot be part of any character.
-/
import SqlPipeline.Text.Quoted

namespace SqlPipeline.Text

/-- Why bytes are not UTF-8. -/
inductive Utf8Failure where
  | start (byte : UInt8) (position : Nat)             -- no character starts with this byte
  | continuation (byte : UInt8) (first last : Nat)    -- the byte after these fits no character
  | unexpectedEnd (byte : UInt8) (first last : Nat)   -- the bytes end inside a character
deriving Repr

/-- Where the failing bytes stand: one byte, or a span of several. -/
def Utf8Failure.place (byte : UInt8) (first last : Nat) : String :=
  if first = last then
    s!"byte 0x{String.ofList (hexDigits 2 byte.toNat)} in position {first}"
  else s!"bytes in position {first}-{last}"

def Utf8Failure.message (failure : Utf8Failure) : String :=
  let (place, reason) := match failure with
    | .start byte position => (place byte position position, "invalid start byte")
    | .continuation byte first last => (place byte first last, "invalid continuation byte")
    | .unexpectedEnd byte first last => (place byte first last, "unexpected end of data")
  "'utf-8' codec can't decode " ++ place ++ ": " ++ reason

/-- How many bytes a character with this first byte has, and the range of its second byte. -/
def utf8Shape? (first : UInt8) : Option (Nat × Nat × Nat) :=
  let b := first.toNat
  if b < 0x80 then some (1, 0, 0)
  else if b < 0xC2 then none
  else if b < 0xE0 then some (2, 0x80, 0xBF)
  else if b == 0xE0 then some (3, 0xA0, 0xBF)
  else if b == 0xED then some (3, 0x80, 0x9F)
  else if b < 0xF0 then some (3, 0x80, 0xBF)
  else if b == 0xF0 then some (4, 0x90, 0xBF)
  else if b < 0xF4 then some (4, 0x80, 0xBF)
  else if b == 0xF4 then some (4, 0x80, 0x8F)
  else none

/-- Reads the remaining `count` bytes of the character that started at `first`; `value` is
    what the bytes so far contribute, and the next byte must lie between `lo` and `hi`. -/
def utf8Tail (lead : UInt8) (first position lo hi : Nat) :
    (count value : Nat) → List UInt8 → Except Utf8Failure (Nat × List UInt8)
  | 0, value, rest => .ok (value, rest)
  | _ + 1, _, [] => .error (.unexpectedEnd lead first (position - 1))
  | count + 1, value, b :: rest =>
      if lo ≤ b.toNat ∧ b.toNat ≤ hi then
        utf8Tail lead first (position + 1) 0x80 0xBF count (value * 64 + b.toNat % 64) rest
      else .error (.continuation lead first (position - 1))

def utf8LeadValue (lead : UInt8) (length : Nat) : Nat :=
  if length == 1 then lead.toNat
  else if length == 2 then lead.toNat % 32
  else if length == 3 then lead.toNat % 16
  else lead.toNat % 8

/-- One failing span, replaced when damage is to be papered over. -/
def replacementChar : Char := Char.ofNat 0xFFFD

theorem utf8Tail_length {lead : UInt8} {first position lo hi count value : Nat}
    {bytes rest : List UInt8} {v : Nat}
    (h : utf8Tail lead first position lo hi count value bytes = .ok (v, rest)) :
    rest.length ≤ bytes.length := by
  induction count generalizing position lo hi value bytes with
  | zero => simp [utf8Tail] at h; simp [h.2]
  | succ count ih =>
    cases bytes with
    | nil => simp [utf8Tail] at h
    | cons b bs =>
      simp only [utf8Tail] at h
      split at h
      · have := ih h
        simp only [List.length_cons]
        omega
      · cases h

def decodeUtf8 (position : Nat) : List UInt8 → Except Utf8Failure (List Char)
  | [] => .ok []
  | lead :: bytes =>
      match utf8Shape? lead with
      | none => .error (.start lead position)
      | some (length, lo, hi) =>
          match _h : utf8Tail lead position (position + 1) lo hi (length - 1)
              (utf8LeadValue lead length) bytes with
          | .error failure => .error failure
          | .ok (value, rest) =>
              (decodeUtf8 (position + length) rest).map (Char.ofNat value :: ·)
termination_by bytes => bytes.length
decreasing_by
  have := utf8Tail_length _h
  simp only [List.length_cons]
  omega

/-- The bytes of a failing character that a replacement character stands for: those from
    its first byte to the last one that fitted. -/
def utf8Damage : Utf8Failure → Nat
  | .start _ _ => 1
  | .continuation _ first last => last + 1 - first
  | .unexpectedEnd _ first last => last + 1 - first

/-- Decodes bytes, writing one replacement character for each stretch that is no character. -/
def decodeUtf8Lossy : List UInt8 → List Char
  | [] => []
  | lead :: bytes =>
      match utf8Shape? lead with
      | none => replacementChar :: decodeUtf8Lossy bytes
      | some (length, lo, hi) =>
          match h : utf8Tail lead 0 1 lo hi (length - 1) (utf8LeadValue lead length) bytes with
          | .error failure => replacementChar :: decodeUtf8Lossy (bytes.drop (utf8Damage failure - 1))
          | .ok (value, rest) => Char.ofNat value :: decodeUtf8Lossy rest
termination_by bytes => bytes.length
decreasing_by
  · simp
  · simp only [List.length_drop, List.length_cons]
    omega
  · have := utf8Tail_length h
    simp only [List.length_cons]
    omega

end SqlPipeline.Text
