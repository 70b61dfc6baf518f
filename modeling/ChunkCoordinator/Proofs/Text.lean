import ChunkCoordinator.Http.Server
import Mathlib.Algebra.GroupWithZero.Nat
import Mathlib.Tactic.SplitIfs

/-!
# Names and identifiers in paths

An identifier is read back from its text (`Uuid.parse?_toText`), and so is a text from its bytes
(`Utf8.decode_flatMap`). A name that is percent-encoded where it has to be stands for its own bytes,
if it has no escape to begin with (`Percent.decode_encode`): a percent sign with two digits behind
it is not encoded, but it is decoded. The name in a path is then the name that was put there
(`readParameter_encode`). With an escape it is a shorter one, if it can be read at all
(`Percent.length_decodeFrom_le`).
-/

namespace ChunkCoordinator

/-! ## Deciding -/

namespace Text

variable {p : Char → Prop} [DecidablePred p]

-- An instance of the library that goes through all characters there are would come first.

instance (priority := high) decidableForallMem (cs : List Char) : Decidable (∀ c ∈ cs, p c) :=
  List.decidableBAll p cs

instance (priority := high) decidableForallMemOption (c? : Option Char) :
    Decidable (∀ c ∈ c?, p c) :=
  Option.decidableForallMem c?

end Text

/-! ## Identifiers -/

theorem Text.Hex.mem_digits {c : Char} : ∀ {width n : Nat}, c ∈ digits width n →
    c ∈ "0123456789abcdef".toList
  | width + 1, n, h => by
    have hdigit : ∀ m : Fin 16, digit m ∈ "0123456789abcdef".toList := by decide
    rw [digits, List.mem_append, List.mem_singleton] at h
    rcases h with h | rfl
    · exact mem_digits h
    · exact hdigit ⟨n % 16, by omega⟩

namespace Uuid

variable {n m : Nat} {ns : List Nat} {cs : List Char}

theorem hyphenate_cons : hyphenate (n :: m :: ns) cs =
    cs.take n ++ '-' :: hyphenate (m :: ns) (cs.drop n) := rfl

theorem unhyphenate?_append (hlength : cs.length = n) (rest : List Char) :
    unhyphenate? (n :: m :: ns) (cs ++ '-' :: rest) =
      (unhyphenate? (m :: ns) rest).map (cs ++ ·) := by
  rw [unhyphenate?, List.drop_left' hlength, List.take_left' hlength]
  · rfl
  · exact List.cons_ne_nil _ _

theorem unhyphenate?_hyphenate : ∀ {ns : List Nat} {cs : List Char}, ns ≠ [] →
    cs.length = ns.sum → unhyphenate? ns (hyphenate ns cs) = some cs
  | [], _, h, _ => absurd rfl h
  | [n], cs, _, hlength => by simp_all [hyphenate, unhyphenate?]
  | n :: m :: ns, cs, _, hlength => by
    have hle : n ≤ cs.length := by simp [hlength]
    have hrest : unhyphenate? (m :: ns) (hyphenate (m :: ns) (cs.drop n)) = some (cs.drop n) :=
      unhyphenate?_hyphenate (by simp) (by rw [List.length_drop, hlength]; simp)
    rw [hyphenate_cons, unhyphenate?_append (List.length_take_of_le hle), hrest, Option.map_some,
      List.take_append_drop]

theorem length_hyphenate : ∀ {ns : List Nat} {cs : List Char}, ns ≠ [] → cs.length = ns.sum →
    (hyphenate ns cs).length + 1 = ns.sum + ns.length
  | [], _, h, _ => absurd rfl h
  | [n], cs, _, hlength => by simp_all [hyphenate]
  | n :: m :: ns, cs, _, hlength => by
    have hle : n ≤ cs.length := by simp [hlength]
    have hrest : (hyphenate (m :: ns) (cs.drop n)).length + 1 = (m :: ns).sum + (m :: ns).length :=
      length_hyphenate (by simp) (by rw [List.length_drop, hlength]; simp)
    rw [hyphenate_cons]
    simp only [List.length_append, List.length_take_of_le hle, List.length_cons, List.sum_cons]
      at hrest ⊢
    omega

theorem mem_hyphenate {c : Char} : ∀ {ns : List Nat} {cs : List Char}, c ∈ hyphenate ns cs →
    c = '-' ∨ c ∈ cs
  | [], _, h => .inr h
  | [_], _, h => .inr h
  | n :: m :: ns, cs, h => by
    rw [hyphenate_cons, List.mem_append, List.mem_cons] at h
    rcases h with h | rfl | h
    · exact .inr (List.mem_of_mem_take h)
    · exact .inl rfl
    · exact (mem_hyphenate h).imp_right List.mem_of_mem_drop

/-- The text of an identifier is made of lower-case digits and hyphens. -/
theorem mem_toText {u : Uuid} {c : Char} (h : c ∈ u.toText.toList) :
    c ∈ "-0123456789abcdef".toList := by
  rw [toText, String.toList_ofList, toChars] at h
  rcases mem_hyphenate h with rfl | h
  · decide
  · exact (by decide : "0123456789abcdef".toList ⊆ "-0123456789abcdef".toList)
      (Text.Hex.mem_digits h)

theorem ofDigits?_digits (u : Uuid) : ofDigits? (Text.Hex.digits 32 u.bits.toNat) = some u := by
  have hvalue : Text.Hex.value? (Text.Hex.digits 32 u.bits.toNat) = some u.bits.toNat :=
    Text.Hex.value?_digits u.bits.isLt
  rw [ofDigits?, if_pos (Text.Hex.length_digits _ _), hvalue, Option.map_some, BitVec.ofNat_toNat,
    BitVec.setWidth_eq]

theorem groups_ne_nil : groups ≠ [] := by decide

theorem length_digits_eq_sum (u : Uuid) :
    (Text.Hex.digits 32 u.bits.toNat).length = groups.sum := by
  rw [Text.Hex.length_digits]
  rfl

theorem length_toChars (u : Uuid) : u.toChars.length = 36 := by
  have hlength : u.toChars.length + 1 = groups.sum + groups.length :=
    length_hyphenate groups_ne_nil (length_digits_eq_sum u)
  exact Nat.succ.inj (hlength.trans rfl)

theorem toText_ne_nil (u : Uuid) : u.toText.toList ≠ [] := by
  rw [toText, String.toList_ofList]
  exact List.ne_nil_of_length_pos (by rw [length_toChars]; decide)

/-- An identifier is read back from its text. -/
theorem parse?_toText (u : Uuid) : parse? u.toText = some u := by
  have hlength := length_toChars u
  have hdigits : unhyphenate? groups u.toChars = some (Text.Hex.digits 32 u.bits.toNat) :=
    unhyphenate?_hyphenate groups_ne_nil (length_digits_eq_sum u)
  rw [parse?, toText, String.toList_ofList, ofChars?, if_neg (by omega), if_pos hlength,
    ofHyphenated?, hdigits, Option.bind_some, ofDigits?_digits]

end Uuid

/-! ## Splitting -/

namespace Text

variable {sep : Char → Bool} {s : Char} {cs ds part : List Char} {parts : List (List Char)}

/-- What stands in front of the first separator belongs to the first part. -/
theorem splitOn_append_of_not_sep (h : ∀ c ∈ cs, sep c = false) (hds : splitOn sep ds = part :: parts) :
    splitOn sep (cs ++ ds) = (cs ++ part) :: parts := by
  induction cs with
  | nil => exact hds
  | cons c cs ih =>
    rw [List.cons_append, splitOn, if_neg (by simp [h c]), ih fun d hd => h d (List.mem_cons_of_mem c hd)]
    rfl

theorem splitOn_append_sep (hs : sep s) (ds : List Char) :
    ∀ cs, splitOn sep (cs ++ s :: ds) = splitOn sep cs ++ splitOn sep ds
  | [] => by rw [List.nil_append, splitOn.eq_2, if_pos hs]; rfl
  | c :: cs => by
    rw [List.cons_append, splitOn.eq_2, splitOn.eq_2, splitOn_append_sep hs ds cs]
    split
    · rfl
    · obtain ⟨part, parts, hparts⟩ := List.exists_cons_of_ne_nil (splitOn_ne_nil sep cs)
      rw [hparts]
      rfl

/-- A part is taken out of the text and has no separators. -/
theorem of_mem_splitOn : ∀ {cs part : List Char}, part ∈ splitOn sep cs →
    part.Sublist cs ∧ ∀ c ∈ part, sep c = false
  | [], part, h => by
    obtain rfl := List.mem_singleton.1 h
    exact ⟨.slnil, fun c hc => nomatch hc⟩
  | c :: cs, part, h => by
    rw [splitOn] at h
    split at h
    · rcases List.mem_cons.1 h with rfl | h
      · exact ⟨List.nil_sublist _, fun c hc => nomatch hc⟩
      · exact (of_mem_splitOn h).imp_left (.cons c)
    · next hc =>
      obtain ⟨first, parts, hparts⟩ := List.exists_cons_of_ne_nil (splitOn_ne_nil sep cs)
      rw [hparts] at h
      rcases List.mem_cons.1 h with rfl | h
      · obtain ⟨hsub, hsep⟩ := of_mem_splitOn (hparts ▸ List.mem_cons_self : first ∈ splitOn sep cs)
        exact ⟨hsub.cons_cons c, List.forall_mem_cons.2 ⟨by simpa using hc, hsep⟩⟩
      · have hmem : part ∈ splitOn sep cs := hparts ▸ List.mem_cons_of_mem _ h
        exact (of_mem_splitOn hmem).imp_left (.cons c)

theorem fst_splitAtFirst : ∀ cs, (splitAtFirst s cs).1 = cs.takeWhile (· ≠ s)
  | [] => rfl
  | c :: cs => by
    rw [splitAtFirst, List.takeWhile_cons]
    by_cases hc : c = s
    · simp [hc]
    · simpa [hc] using fst_splitAtFirst cs

end Text

/-! ## Bytes -/

/-- A text without gaps is whole. -/
theorem Text.Received.whole?_map (cs : List Char) : whole? (cs.map some) = some (.ofList cs) := by
  have hall : (cs.map some).mapM id = some cs := by
    induction cs with
    | nil => rfl
    | cons c cs ih => rw [List.map_cons, List.mapM_cons, ih]; rfl
  rw [whole?, hall, Option.map_some]

/-- A whole text has no gaps. -/
theorem Text.Received.eq_of_whole? {r : Received} {s : String} (h : r.whole? = some s) :
    r = s.toList.map some := by
  obtain ⟨cs, hcs, rfl⟩ := Option.map_eq_some_iff.1 h
  rw [String.toList_ofList]
  clear h
  induction r generalizing cs with
  | nil =>
    obtain rfl := Option.some.inj hcs
    rfl
  | cons c r ih =>
    rw [List.mapM_cons] at hcs
    simp only [id, Option.bind_eq_bind, Option.bind_eq_some_iff] at hcs
    obtain ⟨d, rfl, ds, hds, hcs⟩ := hcs
    obtain rfl := Option.some.inj hcs
    rw [ih ds hds]
    rfl

theorem Text.Received.lossy_ofString (s : String) : (ofString s).lossy = s := by
  rw [lossy, ofString, List.map_map]
  exact (congrArg String.ofList (List.map_id _)).trans String.ofList_toList

namespace Text.Utf8

variable {n value low high after : Nat} {p : Partial}

theorem decodeFrom_whole (h : n < 0x80) (bs : List UInt8) :
    decodeFrom none (.ofNat n :: bs) = some (.ofNat n) :: decodeFrom none bs := by
  have hbyte : (UInt8.ofNat n).toNat = n := UInt8.toNat_ofNat_of_lt' (by simp only [UInt8.size]; omega)
  rw [decodeFrom, hbyte, step, first, Start.ofByte, if_pos h]
  rfl

theorem decodeFrom_first (hn : n < 0x100) (h : Start.ofByte n = .more p) (bs : List UInt8) :
    decodeFrom none (.ofNat n :: bs) = decodeFrom (some p) bs := by
  rw [decodeFrom, UInt8.toNat_ofNat_of_lt' hn, step, first, h]
  rfl

theorem decodeFrom_next (hlow : low ≤ n) (hhigh : n ≤ high) (hn : n < 0x100) (bs : List UInt8) :
    decodeFrom (some ⟨value, low, high, after + 1⟩) (.ofNat n :: bs) =
      decodeFrom (some ⟨64 * value + (n - 0x80), 0x80, 0xBF, after⟩) bs := by
  rw [decodeFrom, UInt8.toNat_ofNat_of_lt' hn, step, if_pos ⟨hlow, hhigh⟩]
  rfl

theorem decodeFrom_last (hlow : low ≤ n) (hhigh : n ≤ high) (hn : n < 0x100) (bs : List UInt8) :
    decodeFrom (some ⟨value, low, high, 0⟩) (.ofNat n :: bs) =
      some (.ofNat (64 * value + (n - 0x80))) :: decodeFrom none bs := by
  rw [decodeFrom, UInt8.toNat_ofNat_of_lt' hn, step, if_pos ⟨hlow, hhigh⟩]
  rfl

/-- The first of three bytes says which second ones may follow, and no surrogate is among them. -/
theorem ofByte_three (hlow : 0x800 ≤ n) (hhigh : n < 0x10000) (h : n < 0xD800 ∨ 0xDFFF < n) :
    ∃ low high, Start.ofByte (n / 4096 + 0xE0) = .more ⟨n / 4096, low, high, 1⟩ ∧
      low ≤ n / 64 % 64 + 0x80 ∧ n / 64 % 64 + 0x80 ≤ high ∧ high < 0x100 := by
  unfold Start.ofByte
  rw [if_neg (by omega), if_neg (by omega), if_neg (by omega)]
  split_ifs with hfirst hsurrogate
  · exact ⟨0xA0, 0xBF, by rw [show n / 4096 = 0 by omega], by omega, by omega, by omega⟩
  · exact ⟨0x80, 0x9F, by rw [show n / 4096 = 0xD by omega], by omega, by omega, by omega⟩
  · exact ⟨0x80, 0xBF, by rw [Nat.add_sub_cancel], by omega, by omega, by omega⟩
  all_goals omega

/-- The first of four bytes says which second ones may follow. -/
theorem ofByte_four (hlow : 0x10000 ≤ n) (hhigh : n < 0x110000) :
    ∃ low high, Start.ofByte (n / 262144 + 0xF0) = .more ⟨n / 262144, low, high, 2⟩ ∧
      low ≤ n / 4096 % 64 + 0x80 ∧ n / 4096 % 64 + 0x80 ≤ high ∧ high < 0x100 := by
  unfold Start.ofByte
  rw [if_neg (by omega), if_neg (by omega), if_neg (by omega), if_neg (by omega),
    if_neg (by omega), if_neg (by omega)]
  split_ifs with hfirst hmiddle hlast
  · exact ⟨0x90, 0xBF, by rw [show n / 262144 = 0 by omega], by omega, by omega, by omega⟩
  · exact ⟨0x80, 0xBF, by rw [Nat.add_sub_cancel], by omega, by omega, by omega⟩
  · exact ⟨0x80, 0x8F, by rw [show n / 262144 = 4 by omega], by omega, by omega, by omega⟩
  · omega

theorem encodeChar_ne_nil (c : Char) : String.utf8EncodeChar c ≠ [] := by
  rw [String.utf8EncodeChar.eq_1]
  split_ifs <;> simp

/-- A character is read back from its bytes. -/
theorem decodeFrom_encodeChar (c : Char) (bs : List UInt8) :
    decodeFrom none (String.utf8EncodeChar c ++ bs) = some c :: decodeFrom none bs := by
  have hvalid : c.val.toNat < 0xD800 ∨ 0xDFFF < c.val.toNat ∧ c.val.toNat < 0x110000 := c.valid
  have hchar : Char.ofNat c.val.toNat = c := Char.ofNat_toNat c
  rw [String.utf8EncodeChar.eq_1]
  generalize c.val.toNat = n at hvalid hchar
  split_ifs with hone htwo hthree
  · rw [List.singleton_append, decodeFrom_whole (by omega), hchar]
  · have hfirst : Start.ofByte (n / 64 % 32 + 192) = .more ⟨n / 64, 0x80, 0xBF, 0⟩ := by
      rw [Start.ofByte, if_neg (by omega), if_neg (by omega), if_pos (by omega)]
      rw [show n / 64 % 32 + 192 - 0xC0 = n / 64 by omega]
    have hvalue : 64 * (n / 64) + (n % 64 + 128 - 0x80) = n := by omega
    rw [List.cons_append, decodeFrom_first (by omega) hfirst, List.singleton_append,
      decodeFrom_last (by omega) (by omega) (by omega), hvalue, hchar]
  · obtain ⟨low, high, hfirst, hlow, hhigh, hbyte⟩ := ofByte_three (n := n) (by omega) (by omega)
      (by omega)
    have hvalue : 64 * (64 * (n / 4096) + (n / 64 % 64 + 128 - 0x80)) + (n % 64 + 128 - 0x80) = n := by
      omega
    rw [show n / 4096 % 16 = n / 4096 by omega]
    simp only [List.cons_append, List.nil_append]
    rw [decodeFrom_first (by omega) hfirst, decodeFrom_next hlow hhigh (by omega),
      decodeFrom_last (by omega) (by omega) (by omega), hvalue, hchar]
  · obtain ⟨low, high, hfirst, hlow, hhigh, hbyte⟩ := ofByte_four (n := n) (by omega) (by omega)
    have hvalue : 64 * (64 * (64 * (n / 262144) + (n / 4096 % 64 + 128 - 0x80)) +
        (n / 64 % 64 + 128 - 0x80)) + (n % 64 + 128 - 0x80) = n := by omega
    rw [show n / 262144 % 8 = n / 262144 by omega]
    simp only [List.cons_append, List.nil_append]
    rw [decodeFrom_first (by omega) hfirst, decodeFrom_next hlow hhigh (by omega),
      decodeFrom_next (by omega) (by omega) (by omega),
      decodeFrom_last (by omega) (by omega) (by omega), hvalue, hchar]

/-- A text is read back from its bytes. -/
theorem decode_flatMap : ∀ cs : List Char, decode (cs.flatMap String.utf8EncodeChar) = cs.map some
  | [] => rfl
  | c :: cs => by
    have hrest := decode_flatMap cs
    rw [decode] at hrest ⊢
    rw [List.flatMap_cons, decodeFrom_encodeChar, hrest, List.map_cons]

/-- Only a byte that begins no character goes on one. -/
structure Partial.Continuing (p : Partial) : Prop where
  low : 0x80 ≤ p.low
  high : p.high ≤ 0xBF

theorem Start.continuing {b : Nat} {p : Partial} (h : Start.ofByte b = .more p) : p.Continuing := by
  unfold Start.ofByte at h
  split_ifs at h <;> simp only [more.injEq] at h <;> subst h <;> exact ⟨by simp, by simp⟩

/-- A byte gives one character at most where there are no gaps. -/
theorem step_of_notMem {begun : Option Partial} (hbegun : ∀ p ∈ begun, p.Continuing) {b : Nat}
    (h : none ∉ (step begun b).1) :
    (step begun b).1.length ≤ 1 ∧ ∀ p ∈ (step begun b).2, p.Continuing := by
  cases begun with
  | none =>
    rw [step, first] at h ⊢
    split at h
    · exact ⟨Nat.le_refl 1, fun p hp => nomatch hp⟩
    · next p hp =>
      refine ⟨Nat.zero_le 1, fun q hq => ?_⟩
      obtain rfl := Option.some.inj hq
      exact Start.continuing hp
    · exact absurd List.mem_cons_self h
  | some p =>
    by_cases hrange : p.low ≤ b ∧ b ≤ p.high
    · obtain ⟨value, low, high, after⟩ := p
      rw [step, if_pos hrange]
      match after with
      | 0 => exact ⟨Nat.le_refl 1, fun p hp => nomatch hp⟩
      | after + 1 =>
        refine ⟨Nat.zero_le 1, fun q hq => ?_⟩
        obtain rfl := Option.some.inj hq
        exact ⟨Nat.le_refl _, Nat.le_refl _⟩
    · rw [step, if_neg hrange] at h
      exact absurd List.mem_cons_self h

/-- The first byte of a character goes on no other one. -/
theorem exists_encodeChar (c : Char) :
    ∃ b bs, String.utf8EncodeChar c = b :: bs ∧ (b.toNat < 0x80 ∨ 0xC0 ≤ b.toNat) := by
  rw [String.utf8EncodeChar.eq_1]
  generalize c.val.toNat = n
  have hbyte : ∀ m < 0x100, m.toUInt8.toNat = m := fun m hm => Nat.mod_eq_of_lt hm
  split_ifs with hone
  · exact ⟨_, _, rfl, .inl (by rw [hbyte] <;> omega)⟩
  all_goals exact ⟨_, _, rfl, .inr (by rw [hbyte] <;> omega)⟩

/-- A character within another one leaves a gap. -/
theorem mem_decodeFrom_encodeChar {p : Partial} (h : p.Continuing) (c : Char) (bs : List UInt8) :
    none ∈ decodeFrom (some p) (String.utf8EncodeChar c ++ bs) := by
  obtain ⟨b, rest, hbytes, hb⟩ := exists_encodeChar c
  have hlow := h.low
  have hhigh := h.high
  rw [hbytes, List.cons_append, decodeFrom, step, if_neg (by omega)]
  exact List.mem_cons_self

end Text.Utf8

/-! ## Percent encoding -/

namespace Text.Percent

variable {special : Char → Bool}

/-- The text has a percent sign with two digits behind it, which stands for a byte. -/
def hasEscape : List Char → Bool
  | [] => false
  | c :: cs => (c = '%' && (byte? cs).isSome) || hasEscape cs

theorem hasEscape_of_notMem : ∀ {cs : List Char}, '%' ∉ cs → hasEscape cs = false
  | [], _ => rfl
  | c :: cs, h => by
    rw [List.mem_cons, not_or] at h
    rw [hasEscape, hasEscape_of_notMem h.2, decide_eq_false (Ne.symm h.1)]
    rfl

theorem decodeFrom_drop : ∀ (cs rest : List Char), decodeFrom cs.length (cs ++ rest) = decode rest
  | [], _ => rfl
  | _ :: cs, rest => by
    rw [List.length_cons, List.cons_append, decodeFrom]
    exact decodeFrom_drop cs rest

/-- A byte is read back from its two digits. -/
theorem byte?_digits (b : UInt8) (rest : List Char) :
    byte? ((Hex.digits 2 b.toNat).map Char.toUpper ++ rest) = some b := by
  have hdigit : ∀ m : Fin 16, Hex.digit? (Hex.digit m).toUpper = some m.1 := by decide
  have hhigh := hdigit ⟨b.toNat / 16 % 16, by omega⟩
  have hlow := hdigit ⟨b.toNat % 16, by omega⟩
  have hbyte : b.toNat < 256 := b.toNat_lt
  have hdigits : Hex.digits 2 b.toNat = [Hex.digit (b.toNat / 16 % 16), Hex.digit (b.toNat % 16)] :=
    rfl
  rw [hdigits, List.map_cons, List.map_cons, List.map_nil, List.cons_append, List.cons_append, byte?]
  simp only [hhigh, hlow, Option.bind_eq_bind, Option.bind_some]
  rw [show 16 * (b.toNat / 16 % 16) + b.toNat % 16 = b.toNat by omega, UInt8.ofNat_toNat]
  rfl

theorem decode_encodeByte (b : UInt8) (rest : List Char) :
    decode (encodeByte b ++ rest) = b :: decode rest := by
  have hlength : ((Hex.digits 2 b.toNat).map Char.toUpper).length = 2 := by
    rw [List.length_map, Hex.length_digits]
  have hskip := decodeFrom_drop ((Hex.digits 2 b.toNat).map Char.toUpper) rest
  rw [hlength] at hskip
  rw [encodeByte, List.cons_append, decode, decodeFrom, if_pos rfl, byte?_digits]
  dsimp only
  rw [hskip]

theorem decode_flatMap_encodeByte : ∀ (bs : List UInt8) (rest : List Char),
    decode (bs.flatMap encodeByte ++ rest) = bs ++ decode rest
  | [], _ => rfl
  | b :: bs, rest => by
    rw [List.flatMap_cons, List.append_assoc, decode_encodeByte, decode_flatMap_encodeByte bs rest,
      List.cons_append]

theorem decode_cons {c : Char} {cs : List Char} (h : c = '%' → byte? cs = none) :
    decode (c :: cs) = String.utf8EncodeChar c ++ decode cs := by
  rw [decode, decodeFrom]
  split_ifs with hc
  · rw [h hc, hc]
    rfl
  · rfl

theorem encode_cons (special : Char → Bool) (c : Char) (cs : List Char) :
    encode special (c :: cs) =
      (if special c then (String.utf8EncodeChar c).flatMap encodeByte else [c]) ++
        encode special cs := rfl

/-- A character that is encoded begins with a percent sign. -/
theorem encode_of_special {c : Char} (h : special c) (cs : List Char) :
    ∃ rest, encode special (c :: cs) = '%' :: rest := by
  obtain ⟨b, bs, hbytes⟩ := List.exists_cons_of_ne_nil (Utf8.encodeChar_ne_nil c)
  rw [encode_cons, if_pos h, hbytes]
  exact ⟨_, rfl⟩

theorem encode_ne_nil {cs : List Char} (h : cs ≠ []) : encode special cs ≠ [] := by
  obtain ⟨c, cs, rfl⟩ := List.exists_cons_of_ne_nil h
  by_cases hc : special c
  · obtain ⟨rest, hrest⟩ := encode_of_special hc cs
    rw [hrest]
    exact List.cons_ne_nil _ _
  · rw [encode_cons, if_neg hc]
    exact List.cons_ne_nil _ _

theorem digit?_percent : Hex.digit? '%' = none := by decide

theorem byte?_of_head {a : Char} (h : Hex.digit? a = none) (cs : List Char) :
    byte? (a :: cs) = none := by
  cases cs with
  | nil => rfl
  | cons b cs => rw [byte?, h]; rfl

theorem byte?_of_second {a b : Char} (h : Hex.digit? b = none) (cs : List Char) :
    byte? (a :: b :: cs) = none := by
  rw [byte?, h]
  cases Hex.digit? a <;> rfl

/-- Encoding makes no byte of what was none. -/
theorem byte?_encode {cs : List Char} (h : byte? cs = none) : byte? (encode special cs) = none := by
  match cs with
  | [] => rfl
  | a :: cs =>
    by_cases ha : special a
    · obtain ⟨rest, hrest⟩ := encode_of_special ha cs
      rw [hrest, byte?_of_head digit?_percent]
    · rw [encode_cons, if_neg ha, List.singleton_append]
      match cs with
      | [] => rfl
      | b :: cs =>
        by_cases hb : special b
        · obtain ⟨rest, hrest⟩ := encode_of_special hb cs
          rw [hrest, byte?_of_second digit?_percent]
        · rw [encode_cons, if_neg hb, List.singleton_append]
          exact h

/-- A character that begins no escape stands for its own bytes when it has been encoded. -/
theorem decode_encode_cons {c : Char} {cs : List Char}
    (h : c = '%' → byte? cs = none) :
    decode (encode special (c :: cs)) = String.utf8EncodeChar c ++ decode (encode special cs) := by
  rw [encode_cons]
  by_cases hc : special c
  · rw [if_pos hc, decode_flatMap_encodeByte]
  · rw [if_neg hc, List.singleton_append, decode_cons fun heq => byte?_encode (h heq)]

/-- A text without escapes stands for its own bytes when it has been encoded. -/
theorem decode_encode : ∀ {cs : List Char}, hasEscape cs = false →
    decode (encode special cs) = cs.flatMap String.utf8EncodeChar
  | [], _ => rfl
  | c :: cs, h => by
    rw [hasEscape, Bool.or_eq_false_iff] at h
    have hnone : c = '%' → byte? cs = none := fun heq => by simpa [heq] using h.1
    rw [decode_encode_cons hnone, decode_encode h.2, List.flatMap_cons]

/-- An escape is left as it is where digits are not encoded. -/
theorem decode_encode_escape (hpercent : special '%' = false)
    (hdigits : ∀ c, (Hex.digit? c).isSome → special c = false) {cs : List Char} {byte : UInt8}
    (h : byte? cs = some byte) :
    decode (encode special ('%' :: cs)) = byte :: decode (encode special (cs.drop 2)) := by
  match cs, h with
  | a :: b :: cs, h =>
    have hencoded : encode special ('%' :: a :: b :: cs) = '%' :: a :: b :: encode special cs := by
      have hboth : (Hex.digit? a).isSome ∧ (Hex.digit? b).isSome := by
        rw [byte?] at h
        cases ha : Hex.digit? a <;> cases hb : Hex.digit? b <;> simp_all
      simp only [encode_cons, hpercent, hdigits _ hboth.1, hdigits _ hboth.2]
      rfl
    have hbyte : byte? (a :: b :: encode special cs) = some byte := h
    rw [hencoded, decode, decodeFrom, if_pos rfl, hbyte]
    rfl

/-- Bytes without gaps make no more characters than there are in the text that stands for them, and
fewer if it has an escape. -/
theorem length_decodeFrom_le (hpercent : special '%' = false)
    (hdigits : ∀ c, (Hex.digit? c).isSome → special c = false) {begun : Option Utf8.Partial}
    (hbegun : ∀ p ∈ begun, p.Continuing) (cs : List Char)
    (h : none ∉ Utf8.decodeFrom begun (decode (encode special cs))) :
    (Utf8.decodeFrom begun (decode (encode special cs))).length + (hasEscape cs).toNat ≤
      cs.length := by
  match cs with
  | [] =>
    have hnil : decode (encode special []) = [] := rfl
    rw [hnil, Utf8.decodeFrom] at h ⊢
    split_ifs at h ⊢
    · exact absurd List.mem_cons_self h
    · exact Nat.le_refl 0
  | c :: cs =>
    by_cases hc : c = '%' ∧ (byte? cs).isSome
    · obtain ⟨rfl, hsome⟩ := hc
      obtain ⟨byte, hbyte⟩ := Option.isSome_iff_exists.1 hsome
      rw [decode_encode_escape hpercent hdigits hbyte, Utf8.decodeFrom] at h ⊢
      dsimp only at h ⊢
      rw [List.mem_append, not_or] at h
      obtain ⟨hone, hrest⟩ := Utf8.step_of_notMem hbegun h.1
      have hle := length_decodeFrom_le hpercent hdigits hrest (cs.drop 2) h.2
      have hlong : 2 ≤ cs.length := by
        match cs, hbyte with
        | _ :: _ :: cs, _ => exact Nat.le_add_left 2 _
      rw [List.length_drop] at hle
      have hescape := Bool.toNat_le (hasEscape ('%' :: cs))
      rw [List.length_append, List.length_cons]
      omega
    · have hescape : hasEscape (c :: cs) = hasEscape cs := by
        rw [hasEscape, show (decide (c = '%') && (byte? cs).isSome) = false by simpa using hc]
        rfl
      have hnone : c = '%' → byte? cs = none := fun heq => by simpa [heq] using hc
      rw [decode_encode_cons hnone] at h ⊢
      rw [hescape]
      cases begun with
      | none =>
        rw [Utf8.decodeFrom_encodeChar] at h ⊢
        rw [List.mem_cons, not_or] at h
        have hnone : ∀ p ∈ (none : Option Utf8.Partial), p.Continuing := fun p hp => nomatch hp
        have hle := length_decodeFrom_le hpercent hdigits hnone cs h.2
        rw [List.length_cons, List.length_cons]
        omega
      | some p => exact absurd (Utf8.mem_decodeFrom_encodeChar (hbegun p rfl) c _) h
termination_by cs.length

end Text.Percent

/-! ## Names in paths -/

namespace Http.Server

open Text

/-- A text without escapes is read back from the path. -/
theorem readParameter_encode (parameter : String) {s : String}
    (h : Percent.hasEscape s.toList = false) :
    readParameter parameter (Percent.encode Target.isPathSpecial s.toList) = .ok s := by
  rw [readParameter, Percent.decode_encode h, Utf8.decode_flatMap, Received.whole?_map,
    String.ofList_toList]

end Http.Server

end ChunkCoordinator
