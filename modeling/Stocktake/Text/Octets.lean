/-!
# Texts as octets

UTF-8 in both directions.  Reading takes one character at a time; `decode?` fails at the first octet
that starts no character, and `decodeLossy` puts U+FFFD there, once for every longest start of a
character that does not go on as it must.
-/

namespace Stocktake.Text

/-- The octets of a text. -/
def octets (s : String) : List UInt8 := s.toUTF8.toList

/-- The range of the octet that may follow the first octet of a character, and how many octets
    follow in all. -/
def continuation? (first : UInt8) : Option (UInt8 × UInt8 × Nat) :=
  if first < 0x80 then some (0, 0, 0)
  else if first < 0xC2 then none
  else if first < 0xE0 then some (0x80, 0xBF, 1)
  else if first = 0xE0 then some (0xA0, 0xBF, 2)
  else if first = 0xED then some (0x80, 0x9F, 2)
  else if first < 0xF0 then some (0x80, 0xBF, 2)
  else if first = 0xF0 then some (0x90, 0xBF, 3)
  else if first < 0xF4 then some (0x80, 0xBF, 3)
  else if first = 0xF4 then some (0x80, 0x8F, 3)
  else none

/-- The payload bits of a first octet with `following` octets after it. -/
def leadBits (first : UInt8) (following : Nat) : Nat :=
  match following with
  | 0 => first.toNat
  | 1 => first.toNat % 32
  | 2 => first.toNat % 16
  | _ => first.toNat % 8

/-- Takes `following` more octets, the first of them between `low` and `high`, into the code point
    `code`; `none` if one is missing or out of range.  The count tells how many were good. -/
def takeFollowing (low high : UInt8) (code taken : Nat) :
    (following : Nat) → List UInt8 → Option Nat × Nat
  | 0, _ => (some code, taken)
  | _ + 1, [] => (none, taken)
  | n + 1, b :: rest =>
    if low ≤ b && b ≤ high then
      takeFollowing 0x80 0xBF (code * 64 + b.toNat % 64) (taken + 1) n rest
    else (none, taken)

/-- Reads the octets as text, putting `bad` for every ill-formed part; `none` for `bad` fails
    there. -/
def decodeWith (bad : Option Char) : (fuel : Nat) → List UInt8 → Option (List Char)
  | 0, _ => some []
  | _ + 1, [] => some []
  | fuel + 1, b :: rest =>
    match continuation? b with
    | none => bad.bind fun c => (decodeWith bad fuel rest).map (c :: ·)
    | some (low, high, following) =>
      match takeFollowing low high (leadBits b following) 0 following rest with
      | (some code, taken) =>
        (decodeWith bad fuel (rest.drop taken)).map (Char.ofNat code :: ·)
      | (none, taken) => bad.bind fun c => (decodeWith bad fuel (rest.drop taken)).map (c :: ·)

/-- The text that the octets spell, if they are well-formed. -/
def decode? (bytes : List UInt8) : Option String :=
  (decodeWith none bytes.length bytes).map String.ofList

/-- The text that the octets spell, ill-formed parts replaced. -/
def decodeLossy (bytes : List UInt8) : String :=
  String.ofList ((decodeWith (some (Char.ofNat 0xFFFD)) bytes.length bytes).getD [])

end Stocktake.Text
