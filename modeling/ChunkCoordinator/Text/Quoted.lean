import ChunkCoordinator.Text.Category
import ChunkCoordinator.Text.Hex

/-!
# Quoted text

`Quoted.encode` writes a text between quotation marks so that every character can be seen:
characters that have no shape of their own, or would join the one before, are written by number.
-/

namespace ChunkCoordinator.Text.Quoted

/-- The characters without a shape behind the tilde: control and format characters, private ones
and white space (the categories `Cc`, `Cf`, `Co`, `Zl`, `Zp` and `Zs`). -/
def shapeless : CharSet := .ofText "
  7F-A0 AD 600-605 61C 6DD 70F 890-891 8E2 1680 180E 2000-200F 2028-202F 205F-2064 2066-206F 3000
  E000-F8FF FEFF FFF9-FFFB 110BD 110CD 13430-1343F 1BCA0-1BCA3 1D173-1D17A E0001 E0020-E007F
  F0000-FFFFD 100000-10FFFD"

/-- The marks that take up room and are still one letter with the character before: those of the
category `Mc` with the property `Grapheme_Extend`. -/
def extending : CharSet := .ofText "
  9BE 9D7 B3E B57 BBE BD7 CC0 CC2 CC7-CC8 CCA-CCB CD5-CD6 D3E D57 DCF DDF 1715 1734 1B35 1B3B 1B3D
  1B43-1B44 1BAA 1BF2-1BF3 302E-302F A953 A9C0 111C0 11235 1133E 1134D 11357 113B8 113C2 113C5
  113C7-113C9 113CF 114B0 114BD 115AF 116B6 11930 1193D 11F41 16FF0-16FF1 1D165-1D166 1D16D-1D172"

/-- The character has to be written by number. -/
def isHidden (c : Char) : Bool :=
  if c ≤ '~' then c < ' '
  else
    shapeless.contains c || Category.isUnassigned c || Category.isNonspacing c ||
      extending.contains c

/-- One character as it stands between quotation marks. -/
def encodeChar (c : Char) : List Char :=
  if c = '"' ∨ c = '\\' then ['\\', c]
  else if c = '\t' then ['\\', 't']
  else if c = '\n' then ['\\', 'n']
  else if c = '\r' then ['\\', 'r']
  else if c.toNat = 0 then ['\\', '0']
  else if isHidden c then ['\\', 'u', '{'] ++ Hex.minimal c.toNat ++ ['}']
  else [c]

/-- A text between quotation marks. -/
def encode (s : String) : String := .ofList ('"' :: s.toList.flatMap encodeChar ++ ['"'])

end ChunkCoordinator.Text.Quoted
