import ChunkCoordinator.Text.CombiningClass
import Std.Data.HashMap

/-!
# Composed text

Many letters with marks can be written in two ways, as one character or as a letter and marks.
`decomposed` takes the characters of a text apart and puts the marks in order, and `composed` writes
each letter with as many of its marks as one character can hold. Two texts that mean the same have
one composed form (the normalization form `NFC` of Unicode).

Characters that can be taken apart but never arise from their parts are left alone, so that the
form is `NFC` for texts without them.
-/

namespace ChunkCoordinator.Text

/-! ## Syllables -/

/-- A Korean syllable has one of 19 first letters, one of 21 vowels, and perhaps one of 27 last
letters. All the syllables come in the order of their parts. -/
structure Syllable where
  first : Nat
  vowel : Nat
  last : Nat

namespace Syllable

/-- The number of the first syllable. -/
def base : Nat := 0xAC00

/-- The number of the first one of the first letters. -/
def firstBase : Nat := 0x1100

/-- The number of the first vowel. -/
def vowelBase : Nat := 0x1161

/-- The number before the first one of the last letters. -/
def lastBase : Nat := 0x11A7

/-- The parts of a syllable. -/
def ofChar? (c : Char) : Option Syllable :=
  let n := c.toNat - base
  if base ≤ c.toNat ∧ n < 19 * 21 * 28 then some ⟨n / (21 * 28), n / 28 % 21, n % 28⟩ else none

/-- The syllable as one character. -/
def toChar (s : Syllable) : Char := .ofNat (base + (s.first * 21 + s.vowel) * 28 + s.last)

/-- The letters of a syllable. -/
def letters (s : Syllable) : List Char :=
  .ofNat (firstBase + s.first) :: .ofNat (vowelBase + s.vowel) ::
    if s.last = 0 then [] else [.ofNat (lastBase + s.last)]

/-- The syllable of two letters, or of a syllable without a last letter and that letter. -/
def join? (c d : Char) : Option Syllable :=
  match ofChar? c with
  | some s =>
    let last := d.toNat - lastBase
    if s.last = 0 ∧ lastBase < d.toNat ∧ last < 28 then some { s with last } else none
  | none =>
    let first := c.toNat - firstBase
    let vowel := d.toNat - vowelBase
    if firstBase ≤ c.toNat ∧ first < 19 ∧ vowelBase ≤ d.toNat ∧ vowel < 21 then
      some ⟨first, vowel, 0⟩
    else none

end Syllable

/-! ## Composites -/

/-- The other characters that arise from their parts, and all of their parts. -/
def composites : CharTable (List Char) := .ofText CharTable.chars "
  C0>41.300,41.301,41.302,41.303,41.308,41.30A C7>43.327,45.300,45.301,45.302,45.308,49.300,49.301
  CE>49.302,49.308 D1>4E.303,4F.300,4F.301,4F.302,4F.303,4F.308
  D9>55.300,55.301,55.302,55.308,59.301 E0>61.300,61.301,61.302,61.303,61.308,61.30A
  E7>63.327,65.300,65.301,65.302,65.308,69.300,69.301 EE>69.302,69.308
  F1>6E.303,6F.300,6F.301,6F.302,6F.303,6F.308 F9>75.300,75.301,75.302,75.308,79.301
  FF>79.308,41.304,61.304,41.306,61.306,41.328,61.328
  106>43.301,63.301,43.302,63.302,43.307,63.307,43.30C 10D>63.30C,44.30C,64.30C
  112>45.304,65.304,45.306,65.306,45.307,65.307,45.328
  119>65.328,45.30C,65.30C,47.302,67.302,47.306,67.306
  120>47.307,67.307,47.327,67.327,48.302,68.302
  128>49.303,69.303,49.304,69.304,49.306,69.306,49.328 12F>69.328,49.307
  134>4A.302,6A.302,4B.327,6B.327 139>4C.301,6C.301,4C.327,6C.327,4C.30C,6C.30C
  143>4E.301,6E.301,4E.327,6E.327,4E.30C,6E.30C 14C>4F.304,6F.304,4F.306,6F.306,4F.30B,6F.30B
  154>52.301,72.301,52.327,72.327,52.30C,72.30C,53.301
  15B>73.301,53.302,73.302,53.327,73.327,53.30C,73.30C 162>54.327,74.327,54.30C,74.30C
  168>55.303,75.303,55.304,75.304,55.306,75.306,55.30A
  16F>75.30A,55.30B,75.30B,55.328,75.328,57.302,77.302
  176>59.302,79.302,59.308,5A.301,7A.301,5A.307,7A.307 17D>5A.30C,7A.30C 1A0>4F.31B,6F.31B
  1AF>55.31B,75.31B 1CD>41.30C,61.30C,49.30C,69.30C,4F.30C,6F.30C,55.30C
  1D4>75.30C,55.308.304,75.308.304,55.308.301,75.308.301
  1D9>55.308.30C,75.308.30C,55.308.300,75.308.300
  1DE>41.308.304,61.308.304,41.307.304,61.307.304,C6.304 1E3>E6.304
  1E6>47.30C,67.30C,4B.30C,6B.30C,4F.328,6F.328,4F.328.304 1ED>6F.328.304,1B7.30C,292.30C,6A.30C
  1F4>47.301,67.301 1F8>4E.300,6E.300,41.30A.301,61.30A.301,C6.301,E6.301
  1FE>D8.301,F8.301,41.30F,61.30F,41.311,61.311,45.30F
  205>65.30F,45.311,65.311,49.30F,69.30F,49.311,69.311
  20C>4F.30F,6F.30F,4F.311,6F.311,52.30F,72.30F,52.311
  213>72.311,55.30F,75.30F,55.311,75.311,53.326,73.326 21A>54.326,74.326 21E>48.30C,68.30C
  226>41.307,61.307,45.327,65.327,4F.308.304,6F.308.304
  22C>4F.303.304,6F.303.304,4F.307,6F.307,4F.307.304 231>6F.307.304,59.304,79.304
  385>A8.301,391.301 388>395.301,397.301,399.301 38C>39F.301 38E>3A5.301,3A9.301,3B9.308.301
  3AA>399.308,3A5.308,3B1.301,3B5.301,3B7.301,3B9.301 3B0>3C5.308.301
  3CA>3B9.308,3C5.308,3BF.301,3C5.301,3C9.301 3D3>3D2.301,3D2.308 400>415.300,415.308 403>413.301
  407>406.308 40C>41A.301,418.300,423.306 419>418.306 439>438.306 450>435.300,435.308 453>433.301
  457>456.308 45C>43A.301,438.300,443.306 476>474.30F,475.30F 4C1>416.306,436.306
  4D0>410.306,430.306,410.308,430.308 4D6>415.306,435.306
  4DA>4D8.308,4D9.308,416.308,436.308,417.308,437.308
  4E2>418.304,438.304,418.308,438.308,41E.308,43E.308
  4EA>4E8.308,4E9.308,42D.308,44D.308,423.304,443.304
  4F0>423.308,443.308,423.30B,443.30B,427.308,447.308 4F8>42B.308,44B.308
  622>627.653,627.654,648.654,627.655,64A.654 6C0>6D5.654 6C2>6C1.654 6D3>6D2.654 929>928.93C
  931>930.93C 934>933.93C 9CB>9C7.9BE,9C7.9D7 B48>B47.B56 B4B>B47.B3E,B47.B57 B94>B92.BD7
  BCA>BC6.BBE,BC7.BBE,BC6.BD7 C48>C46.C56 CC0>CBF.CD5 CC7>CC6.CD5,CC6.CD6 CCA>CC6.CC2,CC6.CC2.CD5
  D4A>D46.D3E,D47.D3E,D46.D57 DDA>DD9.DCA DDC>DD9.DCF,DD9.DCF.DCA,DD9.DDF 1026>1025.102E
  1B06>1B05.1B35 1B08>1B07.1B35 1B0A>1B09.1B35 1B0C>1B0B.1B35 1B0E>1B0D.1B35 1B12>1B11.1B35
  1B3B>1B3A.1B35 1B3D>1B3C.1B35 1B40>1B3E.1B35,1B3F.1B35 1B43>1B42.1B35
  1E00>41.325,61.325,42.307,62.307,42.323,62.323,42.331
  1E07>62.331,43.327.301,63.327.301,44.307,64.307,44.323
  1E0D>64.323,44.331,64.331,44.327,64.327,44.32D,64.32D
  1E14>45.304.300,65.304.300,45.304.301,65.304.301,45.32D
  1E19>65.32D,45.330,65.330,45.327.306,65.327.306,46.307
  1E1F>66.307,47.304,67.304,48.307,68.307,48.323,68.323
  1E26>48.308,68.308,48.327,68.327,48.32E,68.32E,49.330
  1E2D>69.330,49.308.301,69.308.301,4B.301,6B.301,4B.323
  1E33>6B.323,4B.331,6B.331,4C.323,6C.323,4C.323.304
  1E39>6C.323.304,4C.331,6C.331,4C.32D,6C.32D,4D.301,6D.301
  1E40>4D.307,6D.307,4D.323,6D.323,4E.307,6E.307,4E.323
  1E47>6E.323,4E.331,6E.331,4E.32D,6E.32D,4F.303.301
  1E4D>6F.303.301,4F.303.308,6F.303.308,4F.304.300
  1E51>6F.304.300,4F.304.301,6F.304.301,50.301,70.301
  1E56>50.307,70.307,52.307,72.307,52.323,72.323,52.323.304
  1E5D>72.323.304,52.331,72.331,53.307,73.307,53.323,73.323
  1E64>53.301.307,73.301.307,53.30C.307,73.30C.307
  1E68>53.323.307,73.323.307,54.307,74.307,54.323,74.323
  1E6E>54.331,74.331,54.32D,74.32D,55.324,75.324,55.330
  1E75>75.330,55.32D,75.32D,55.303.301,75.303.301
  1E7A>55.304.308,75.304.308,56.303,76.303,56.323,76.323
  1E80>57.300,77.300,57.301,77.301,57.308,77.308,57.307
  1E87>77.307,57.323,77.323,58.307,78.307,58.308,78.308
  1E8E>59.307,79.307,5A.302,7A.302,5A.323,7A.323,5A.331 1E95>7A.331,68.331,74.308,77.30A,79.30A
  1E9B>17F.307 1EA0>41.323,61.323,41.309,61.309,41.302.301,61.302.301
  1EA6>41.302.300,61.302.300,41.302.309,61.302.309
  1EAA>41.302.303,61.302.303,41.323.302,61.323.302
  1EAE>41.306.301,61.306.301,41.306.300,61.306.300
  1EB2>41.306.309,61.306.309,41.306.303,61.306.303
  1EB6>41.323.306,61.323.306,45.323,65.323,45.309,65.309
  1EBC>45.303,65.303,45.302.301,65.302.301,45.302.300
  1EC1>65.302.300,45.302.309,65.302.309,45.302.303
  1EC5>65.302.303,45.323.302,65.323.302,49.309,69.309
  1ECA>49.323,69.323,4F.323,6F.323,4F.309,6F.309,4F.302.301
  1ED1>6F.302.301,4F.302.300,6F.302.300,4F.302.309
  1ED5>6F.302.309,4F.302.303,6F.302.303,4F.323.302
  1ED9>6F.323.302,4F.31B.301,6F.31B.301,4F.31B.300
  1EDD>6F.31B.300,4F.31B.309,6F.31B.309,4F.31B.303
  1EE1>6F.31B.303,4F.31B.323,6F.31B.323,55.323,75.323
  1EE6>55.309,75.309,55.31B.301,75.31B.301,55.31B.300
  1EEB>75.31B.300,55.31B.309,75.31B.309,55.31B.303
  1EEF>75.31B.303,55.31B.323,75.31B.323,59.300,79.300
  1EF4>59.323,79.323,59.309,79.309,59.303,79.303
  1F00>3B1.313,3B1.314,3B1.313.300,3B1.314.300,3B1.313.301
  1F05>3B1.314.301,3B1.313.342,3B1.314.342,391.313,391.314
  1F0A>391.313.300,391.314.300,391.313.301,391.314.301
  1F0E>391.313.342,391.314.342,3B5.313,3B5.314,3B5.313.300
  1F13>3B5.314.300,3B5.313.301,3B5.314.301
  1F18>395.313,395.314,395.313.300,395.314.300,395.313.301 1F1D>395.314.301
  1F20>3B7.313,3B7.314,3B7.313.300,3B7.314.300,3B7.313.301
  1F25>3B7.314.301,3B7.313.342,3B7.314.342,397.313,397.314
  1F2A>397.313.300,397.314.300,397.313.301,397.314.301
  1F2E>397.313.342,397.314.342,3B9.313,3B9.314,3B9.313.300
  1F33>3B9.314.300,3B9.313.301,3B9.314.301,3B9.313.342
  1F37>3B9.314.342,399.313,399.314,399.313.300,399.314.300
  1F3C>399.313.301,399.314.301,399.313.342,399.314.342
  1F40>3BF.313,3BF.314,3BF.313.300,3BF.314.300,3BF.313.301 1F45>3BF.314.301
  1F48>39F.313,39F.314,39F.313.300,39F.314.300,39F.313.301 1F4D>39F.314.301
  1F50>3C5.313,3C5.314,3C5.313.300,3C5.314.300,3C5.313.301
  1F55>3C5.314.301,3C5.313.342,3C5.314.342 1F59>3A5.314 1F5B>3A5.314.300 1F5D>3A5.314.301
  1F5F>3A5.314.342,3C9.313,3C9.314,3C9.313.300,3C9.314.300
  1F64>3C9.313.301,3C9.314.301,3C9.313.342,3C9.314.342
  1F68>3A9.313,3A9.314,3A9.313.300,3A9.314.300,3A9.313.301
  1F6D>3A9.314.301,3A9.313.342,3A9.314.342,3B1.300 1F72>3B5.300 1F74>3B7.300 1F76>3B9.300
  1F78>3BF.300 1F7A>3C5.300 1F7C>3C9.300 1F80>3B1.313.345,3B1.314.345,3B1.313.300.345
  1F83>3B1.314.300.345,3B1.313.301.345,3B1.314.301.345
  1F86>3B1.313.342.345,3B1.314.342.345,391.313.345
  1F89>391.314.345,391.313.300.345,391.314.300.345
  1F8C>391.313.301.345,391.314.301.345,391.313.342.345
  1F8F>391.314.342.345,3B7.313.345,3B7.314.345
  1F92>3B7.313.300.345,3B7.314.300.345,3B7.313.301.345
  1F95>3B7.314.301.345,3B7.313.342.345,3B7.314.342.345
  1F98>397.313.345,397.314.345,397.313.300.345
  1F9B>397.314.300.345,397.313.301.345,397.314.301.345
  1F9E>397.313.342.345,397.314.342.345,3C9.313.345
  1FA1>3C9.314.345,3C9.313.300.345,3C9.314.300.345
  1FA4>3C9.313.301.345,3C9.314.301.345,3C9.313.342.345
  1FA7>3C9.314.342.345,3A9.313.345,3A9.314.345
  1FAA>3A9.313.300.345,3A9.314.300.345,3A9.313.301.345
  1FAD>3A9.314.301.345,3A9.313.342.345,3A9.314.342.345
  1FB0>3B1.306,3B1.304,3B1.300.345,3B1.345,3B1.301.345
  1FB6>3B1.342,3B1.342.345,391.306,391.304,391.300 1FBC>391.345
  1FC1>A8.342,3B7.300.345,3B7.345,3B7.301.345 1FC6>3B7.342,3B7.342.345,395.300 1FCA>397.300
  1FCC>397.345,1FBF.300,1FBF.301,1FBF.342,3B9.306,3B9.304 1FD2>3B9.308.300
  1FD6>3B9.342,3B9.308.342,399.306,399.304,399.300 1FDD>1FFE.300,1FFE.301,1FFE.342,3C5.306,3C5.304
  1FE2>3C5.308.300 1FE4>3C1.313,3C1.314,3C5.342,3C5.308.342,3A5.306,3A5.304 1FEA>3A5.300
  1FEC>3A1.314,A8.300 1FF2>3C9.300.345,3C9.345,3C9.301.345 1FF6>3C9.342,3C9.342.345,39F.300
  1FFA>3A9.300 1FFC>3A9.345 219A>2190.338,2192.338 21AE>2194.338 21CD>21D0.338,21D4.338,21D2.338
  2204>2203.338 2209>2208.338 220C>220B.338 2224>2223.338 2226>2225.338 2241>223C.338
  2244>2243.338 2247>2245.338 2249>2248.338 2260>3D.338 2262>2261.338
  226D>224D.338,3C.338,3E.338,2264.338,2265.338 2274>2272.338,2273.338 2278>2276.338,2277.338
  2280>227A.338,227B.338 2284>2282.338,2283.338 2288>2286.338,2287.338
  22AC>22A2.338,22A8.338,22A9.338,22AB.338 22E0>227C.338,227D.338,2291.338,2292.338
  22EA>22B2.338,22B3.338,22B4.338,22B5.338 304C>304B.3099 304E>304D.3099 3050>304F.3099
  3052>3051.3099 3054>3053.3099 3056>3055.3099 3058>3057.3099 305A>3059.3099 305C>305B.3099
  305E>305D.3099 3060>305F.3099 3062>3061.3099 3065>3064.3099 3067>3066.3099 3069>3068.3099
  3070>306F.3099,306F.309A 3073>3072.3099,3072.309A 3076>3075.3099,3075.309A
  3079>3078.3099,3078.309A 307C>307B.3099,307B.309A 3094>3046.3099 309E>309D.3099 30AC>30AB.3099
  30AE>30AD.3099 30B0>30AF.3099 30B2>30B1.3099 30B4>30B3.3099 30B6>30B5.3099 30B8>30B7.3099
  30BA>30B9.3099 30BC>30BB.3099 30BE>30BD.3099 30C0>30BF.3099 30C2>30C1.3099 30C5>30C4.3099
  30C7>30C6.3099 30C9>30C8.3099 30D0>30CF.3099,30CF.309A 30D3>30D2.3099,30D2.309A
  30D6>30D5.3099,30D5.309A 30D9>30D8.3099,30D8.309A 30DC>30DB.3099,30DB.309A 30F4>30A6.3099
  30F7>30EF.3099,30F0.3099,30F1.3099,30F2.3099 30FE>30FD.3099 105C9>105D2.307 105E4>105DA.307
  1109A>11099.110BA 1109C>1109B.110BA 110AB>110A5.110BA 1112E>11131.11127,11132.11127
  1134B>11347.1133E,11347.11357 11383>11382.113C9 11385>11384.113BB 1138E>1138B.113C2
  11391>11390.113C9 113C5>113C2.113C2 113C7>113C2.113B8,113C2.113C9 114BB>114B9.114BA,114B9.114B0
  114BE>114B9.114BD 115BA>115B8.115AF,115B9.115AF 11938>11935.11930
  16121>1611E.1611E,1611E.16129,1611E.1611F,16129.1611F
  16125>1611E.16120,1611E.1611E.1611F,1611E.16129.1611F 16128>1611E.1611E.16120
  16D68>16D67.16D67,16D63.16D67,16D63.16D67.16D67"

/-- The parts of a character, which may be that one alone. -/
def parts (c : Char) : List Char :=
  if c < '\u00C0' then [c]
  else
    match Syllable.ofChar? c with
    | some s => s.letters
    | none => ((composites.find? c).map Stretch.value).getD [c]

/-- The characters that arise from their parts, by these. -/
def byParts : Std.HashMap String Char :=
  .ofList (composites.stretches.toList.map fun s => (.ofList s.value, .ofNat s.low))

/-- The character that arises from another one and what follows it. -/
def join? (c d : Char) : Option Char :=
  match Syllable.join? c d with
  | some s => some s.toChar
  | none => byParts[String.ofList (parts c ++ [d])]?

/-! ## Texts -/

/-- A text taken apart. -/
def decomposed (cs : List Char) : List Char := inOrder (cs.flatMap parts)

/-- Composes what follows a character that is no mark. The marks that cannot be joined with it are
kept, the last one first; behind them only marks of higher classes can be. -/
def composeFrom (letter : Char) (kept : List Char) : List Char → List Char
  | [] => letter :: kept.reverse
  | c :: cs =>
    let isBlocked := kept.head?.any fun d => combiningClass c ≤ combiningClass d
    match if isBlocked then none else join? letter c with
    | some joined => composeFrom joined kept cs
    | none =>
      if combiningClass c = 0 then letter :: kept.reverse ++ composeFrom c [] cs
      else composeFrom letter (c :: kept) cs

/-- Composes a text that has been taken apart. -/
def compose : List Char → List Char
  | [] => []
  | c :: cs => if combiningClass c = 0 then composeFrom c [] cs else c :: compose cs

/-- The composed form of a text. Without marks and such letters, a text is composed. -/
def composed (cs : List Char) : List Char :=
  if cs.all (· < '\u0300') then cs else compose (decomposed cs)

end ChunkCoordinator.Text
