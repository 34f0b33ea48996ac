namespace SearchFilter.Yaml.Base64

/-- The place of a character in the alphabet. -/
def digit? (c : Char) : Option Nat :=
  if 'A' ≤ c ∧ c ≤ 'Z' then some (c.toNat - 65)
  else if 'a' ≤ c ∧ c ≤ 'z' then some (c.toNat - 71)
  else if '0' ≤ c ∧ c ≤ '9' then some (c.toNat + 4)
  else if c = '+' then some 62
  else if c = '/' then some 63
  else none

/-- The bytes of a text, given how many digits of a group of four came before, the bits that they
leave over, and the padding since the last digit. A group that is not complete needs its padding. -/
def bytesFrom : (held : Nat) → (bits : Nat) → (padding : Nat) → List Char → Option (List UInt8)
  | held, _, _, [] => if held = 0 then some [] else none
  | held, bits, padding, c :: rest =>
    if c = '=' then
      if 2 ≤ held ∧ 4 ≤ held + padding + 1 then some []
      else bytesFrom held bits (if 2 ≤ held then padding + 1 else padding) rest
    else match digit? c with
      | none => bytesFrom held bits padding rest
      | some digit =>
        if held = 0 then bytesFrom 1 digit 0 rest
        else
          let kept := 2 * (3 - held)
          let byte := (bits * 64 + digit) / 2 ^ kept
          (bytesFrom ((held + 1) % 4) ((bits * 64 + digit) % 2 ^ kept) 0 rest).map
            (byte.toUInt8 :: ·)

def bytes? (text : List Char) : Option (List UInt8) :=
  bytesFrom 0 0 0 text

end SearchFilter.Yaml.Base64
