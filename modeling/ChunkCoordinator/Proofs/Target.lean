import ChunkCoordinator.Client
import ChunkCoordinator.Proofs.Text
import Mathlib.Data.List.Basic
import Mathlib.Data.List.Sections
import Mathlib.Data.List.TakeDrop
import Mathlib.Data.List.TakeWhile

/-!
# What the address of a call asks for

A call goes to an address that is put together from that of a server (`IsOrigin`) and a path. If the
segments of the path are plain (`Target.IsPlain`), the address names exactly this path, with the
characters encoded that have to be (`Target.ofUrl?_joinSegments`), and the segments are found again
in it (`Resource.ofPath?_joinSegments`).

A segment that is not plain means something in an address: it holds a separator, or something that is
dropped or decoded, or it stands for another place. An address shows such a text only in part
(`Target.shown`), and every segment of the path that it asks for (`Target.shownSegments`) comes from
what is shown of one that was put in (`Target.exists_segment`).
-/

namespace ChunkCoordinator.Http

open Text

/-! ## Splitting and trimming -/

theorem splitAtFirst_of_notMem {sep : Char} {cs : List Char} (h : sep ∉ cs) :
    splitAtFirst sep cs = (cs, none) := by
  induction cs with
  | nil => rfl
  | cons c cs ih =>
    rw [List.mem_cons, not_or] at h
    rw [splitAtFirst, if_neg (Ne.symm h.1), ih h.2]
    rfl

theorem splitAtFirst_append {sep : Char} {cs : List Char} (h : sep ∉ cs) (rest : List Char) :
    splitAtFirst sep (cs ++ sep :: rest) = (cs, some rest) := by
  induction cs with
  | nil => rw [List.nil_append, splitAtFirst, if_pos rfl]
  | cons c cs ih =>
    rw [List.mem_cons, not_or] at h
    rw [List.cons_append, splitAtFirst, if_neg (Ne.symm h.1), ih h.2]
    rfl

/-- A text with other characters at both ends is left as it is. -/
theorem trimList_of_ends {p : Char → Bool} {cs : List Char} (hfirst : ∀ c ∈ cs.head?, p c = false)
    (hlast : ∀ c ∈ cs.getLast?, p c = false) : trimList p cs = cs := by
  have hdrop : ∀ ds : List Char, (∀ c ∈ ds.head?, p c = false) → ds.dropWhile p = ds := by
    rintro (_ | ⟨d, ds⟩) hd
    · rfl
    · exact List.dropWhile_cons_of_neg (by simp [hd d rfl])
  rw [trimList, hdrop cs hfirst, hdrop cs.reverse (by rwa [List.head?_reverse]),
    List.reverse_reverse]

/-! ## Servers -/

/-- The characters that end the server of an address or are dropped from it. -/
def reserved : List Char := ['/', '\\', '?', '#', '\t', '\n', '\r']

/-- A scheme of the web and a server. -/
structure IsServed (scheme server : List Char) : Prop where
  scheme : scheme.map Char.toLower ∈ ["http".toList, "https".toList]
  isServer : ServerName.isServer server
  chars : ∀ c ∈ server, c ∉ reserved

/-- The text of an address that has nothing behind the server. -/
def originText (scheme server : List Char) : List Char := scheme ++ "://".toList ++ server

theorem IsServed.ne_nil {scheme server : List Char} (h : IsServed scheme server) : server ≠ [] := by
  rintro rfl
  exact absurd h.isServer (by decide +kernel)

theorem IsServed.scheme_ne_nil {scheme server : List Char} (h : IsServed scheme server) :
    scheme ≠ [] := by
  rintro rfl
  exact absurd h.scheme (by decide)

theorem IsServed.toLower_mem {scheme server : List Char} (h : IsServed scheme server) {c : Char}
    (hc : c ∈ scheme) : c.toLower ∈ "https".toList := by
  have hmem : c.toLower ∈ scheme.map Char.toLower := List.mem_map_of_mem hc
  have hscheme := h.scheme
  simp only [List.mem_cons, List.not_mem_nil, or_false] at hscheme
  rcases hscheme with heq | heq <;> rw [heq] at hmem
  · exact (by decide : "http".toList ⊆ "https".toList) hmem
  · exact hmem

/-- A character of the scheme is none of a few. -/
theorem IsServed.notMem_of_mem {scheme server : List Char} (h : IsServed scheme server) {c : Char}
    {cs : List Char} (hcs : ∀ d ∈ cs, d.toLower ∉ "https".toList) (hc : c ∈ scheme) : c ∉ cs :=
  fun hmem => hcs c hmem (h.toLower_mem hc)

namespace Target

/-! ## Addresses -/

/-- What is left out of addresses. -/
def isBreak (c : Char) : Bool := c ∈ ['\t', '\n', '\r']

/-- What a path and a query behind a server ask for. -/
def ofBehind (cs : List Char) : Target :=
  let (path, query) := splitAtFirst '?' (splitAtFirst '#' (cs.filter fun c => !isBreak c)).1
  ofParts path query

theorem splitAtFirst_cons {sep c : Char} (h : c ≠ sep) (cs : List Char) :
    splitAtFirst sep (c :: cs) = (c :: (splitAtFirst sep cs).1, (splitAtFirst sep cs).2) := by
  rw [splitAtFirst, if_neg h]
  rfl

theorem afterScheme?_originText {scheme server : List Char} (h : IsServed scheme server)
    (rest : List Char) :
    afterScheme? (originText scheme server ++ rest) = some ("//".toList ++ server ++ rest) := by
  have hnot : ∀ d ∈ [':'], d.toLower ∉ "https".toList := by decide
  have hcolon : ':' ∉ scheme := fun hmem => h.notMem_of_mem hnot hmem List.mem_cons_self
  have htext : originText scheme server ++ rest =
      scheme ++ ':' :: ("//".toList ++ server ++ rest) := by
    simp [originText]
  rw [htext, afterScheme?, splitAtFirst_append hcolon]
  exact if_pos h.scheme

/-- An address asks for what its path asks for. -/
theorem ofUrl?_of_isServed {scheme server cs : List Char} (h : IsServed scheme server)
    (hlast : ∀ c ∈ ('/' :: cs).getLast?, 0x20 < c.toNat) :
    ofUrl? (.ofList (originText scheme server ++ '/' :: cs)) = some (ofBehind cs) := by
  have htrim : trimList (·.toNat ≤ 0x20) (originText scheme server ++ '/' :: cs) =
      originText scheme server ++ '/' :: cs := by
    refine trimList_of_ends (fun c hc => ?_) fun c hc => ?_
    · obtain ⟨d, ds, hscheme⟩ := List.exists_cons_of_ne_nil h.scheme_ne_nil
      rw [originText, hscheme] at hc
      obtain rfl : d = c := by simpa using hc
      have hd := h.toLower_mem (hscheme ▸ List.mem_cons_self)
      have hsmall : ∀ n : Fin 0x21, (Char.ofNat n).toLower ∉ "https".toList := by decide
      refine decide_eq_false fun hle => hsmall ⟨d.toNat, by omega⟩ ?_
      rwa [Char.ofNat_toNat]
    · rw [List.getLast?_append_of_ne_nil _ (List.cons_ne_nil _ _)] at hc
      exact decide_eq_false (by simpa using hlast c hc)
  have hfilter : (originText scheme server ++ '/' :: cs).filter (fun c => c ∉ ['\t', '\n', '\r']) =
      originText scheme server ++ '/' :: cs.filter fun c => !isBreak c := by
    have hkept : ∀ c ∈ originText scheme server, c ∉ ['\t', '\n', '\r'] := by
      intro c hc
      simp only [originText, List.mem_append] at hc
      rcases hc with (hc | hc) | hc
      · exact h.notMem_of_mem (by decide) hc
      · exact (by decide : ∀ c ∈ "://".toList, c ∉ ['\t', '\n', '\r']) c hc
      · exact fun hmem => h.chars c hc ((by decide : ['\t', '\n', '\r'] ⊆ reserved) hmem)
    rw [List.filter_append, List.filter_eq_self.2 fun c hc => decide_eq_true (hkept c hc),
      List.filter_cons_of_pos (by decide)]
    simp [isBreak]
  have hslash : ("//".toList ++ server ++ '/' :: cs.filter fun c => !isBreak c).dropWhile isSlash =
      server ++ '/' :: cs.filter fun c => !isBreak c := by
    obtain ⟨d, ds, hserver⟩ := List.exists_cons_of_ne_nil h.ne_nil
    have hd := h.chars d (hserver ▸ List.mem_cons_self)
    have hkept : ¬isSlash d := fun hslash => hd (by
      simp only [isSlash, Bool.or_eq_true, decide_eq_true_eq] at hslash
      rcases hslash with rfl | rfl <;> decide)
    rw [hserver, List.append_assoc, List.cons_append]
    exact List.dropWhile_cons_of_neg hkept
  have hspan : (server ++ '/' :: cs.filter fun c => !isBreak c).span
      (fun c => !isSlash c && c ≠ '?' && c ≠ '#') =
        (server, '/' :: cs.filter fun c => !isBreak c) := by
    have hserver : ∀ c ∈ server, !isSlash c && c ≠ '?' && c ≠ '#' := by
      intro c hc
      have hnot := h.chars c hc
      simp only [reserved, List.mem_cons, not_or] at hnot
      simp [isSlash, hnot]
    rw [List.span_eq_takeWhile_dropWhile, List.takeWhile_append_of_pos hserver,
      List.dropWhile_append_of_pos hserver]
    simp [isSlash]
  rw [ofUrl?, String.toList_ofList, htrim, hfilter, afterScheme?_originText h]
  simp only [Option.bind_eq_bind, Option.bind_some]
  rw [hslash, hspan, if_pos h.isServer, splitAtFirst_cons (by decide), splitAtFirst_cons (by decide)]
  rfl

/-! ## Plain segments -/

/-- The segment means nothing in an address: nothing in it separates, is dropped or stands for a
byte, and it is not one of those that stand for other places. -/
structure IsPlain (segment : List Char) : Prop where
  chars : ∀ c ∈ segment, c ∉ reserved
  noEscape : Percent.hasEscape segment = false
  ne_dot : segment ≠ ['.']
  ne_dots : segment ≠ ['.', '.']

instance (segment : List Char) : Decidable (IsPlain segment) :=
  decidable_of_iff
    ((∀ c ∈ segment, c ∉ reserved) ∧ Percent.hasEscape segment = false ∧ segment ≠ ['.'] ∧
      segment ≠ ['.', '.'])
    ⟨fun ⟨h₁, h₂, h₃, h₄⟩ => ⟨h₁, h₂, h₃, h₄⟩, fun ⟨h₁, h₂, h₃, h₄⟩ => ⟨h₁, h₂, h₃, h₄⟩⟩

/-- The text of an identifier is plain. -/
theorem isPlain_toText (u : Uuid) : IsPlain u.toText.toList := by
  have hnone : ∀ c ∈ u.toText.toList, c ∉ '%' :: '.' :: reserved := fun c hc =>
    (by decide : ∀ c ∈ "-0123456789abcdef".toList, c ∉ '%' :: '.' :: reserved) c (Uuid.mem_toText hc)
  have hdot : '.' ∉ u.toText.toList := fun h => hnone '.' h (by decide)
  refine ⟨fun c hc hmem => hnone c hc ?_, Percent.hasEscape_of_notMem fun h => hnone '%' h (by decide),
    ?_, ?_⟩
  · exact List.mem_cons_of_mem _ (List.mem_cons_of_mem _ hmem)
  · exact fun heq => hdot (heq ▸ List.mem_cons_self)
  · exact fun heq => hdot (heq ▸ List.mem_cons_self)

theorem isSlash_of_notMem {c : Char} (h : c ∉ reserved) : isSlash c = false := by
  simp only [reserved, List.mem_cons, not_or] at h
  simp [isSlash, h]

/-- A character of an encoded text is one of the text, or stands for a byte of one. -/
theorem mem_encode {special : Char → Bool} {c : Char} : ∀ {cs : List Char},
    c ∈ Percent.encode special cs → c ∈ cs ∨ c ∈ "%0123456789ABCDEF".toList
  | d :: cs, h => by
    rw [Percent.encode_cons, List.mem_append] at h
    rcases h with h | h
    · split at h
      · obtain ⟨b, -, hb⟩ := List.mem_flatMap.1 h
        refine .inr ?_
        have hdigits : ∀ m : Fin 16, (Hex.digit m).toUpper ∈ "%0123456789ABCDEF".toList := by
          decide
        rcases List.mem_cons.1 hb with rfl | hb
        · decide
        · have hpair : Hex.digits 2 b.toNat =
              [Hex.digit (b.toNat / 16 % 16), Hex.digit (b.toNat % 16)] := rfl
          rw [hpair] at hb
          simp only [List.map_cons, List.map_nil, List.mem_cons, List.not_mem_nil, or_false] at hb
          rcases hb with rfl | rfl
          · exact hdigits ⟨b.toNat / 16 % 16, by omega⟩
          · exact hdigits ⟨b.toNat % 16, by omega⟩
      · exact .inl (List.mem_cons.2 (.inl (List.mem_singleton.1 h)))
    · exact (mem_encode h).imp_left (List.mem_cons_of_mem d)

theorem isSlash_encode {special : Char → Bool} {segment : List Char}
    (h : ∀ c ∈ segment, isSlash c = false) :
    ∀ c ∈ Percent.encode special segment, isSlash c = false := fun c hc =>
  (mem_encode hc).elim (h c) ((by decide : ∀ c ∈ "%0123456789ABCDEF".toList, isSlash c = false) c)

/-! ## Segments that stand for other places -/

/-- A character is its lower-case form or the upper-case form of that. -/
theorem mem_forms (c : Char) : c ∈ [c.toLower, c.toLower.toUpper] := by
  by_cases h : c.toNat < 0x80
  · have hsmall : ∀ n : Fin 0x80,
        Char.ofNat n ∈ [(Char.ofNat n).toLower, (Char.ofNat n).toLower.toUpper] := by decide
    have hc := hsmall ⟨c.toNat, h⟩
    rwa [Char.ofNat_toNat] at hc
  · have hlower : c.toLower = c := dif_neg fun hcase =>
      h (Nat.lt_of_le_of_lt (UInt32.le_iff_toNat_le.1 hcase.2) (by decide))
    rw [hlower]
    exact List.mem_cons_self

/-- The forms that a lower-case text may have. -/
def forms (cs : List Char) : List (List Char) := (cs.map fun c => [c, c.toUpper]).sections

theorem mem_forms_map (segment : List Char) : segment ∈ forms (segment.map Char.toLower) := by
  rw [forms, List.mem_sections, List.map_map]
  induction segment with
  | nil => exact .nil
  | cons c cs ih => exact .cons (mem_forms c) ih

/-- A segment that stands for another place stands for full stops. -/
theorem decode_of_isPlace {segment : List Char} (h : isHere segment ∨ isUp segment) :
    ∀ b ∈ Percent.decode segment, b = 0x2E := by
  have hforms : ∀ t ∈ [['.'], "%2e".toList] ++
      ["..".toList, ".%2e".toList, "%2e.".toList, "%2e%2e".toList],
      ∀ s ∈ forms t, ∀ b ∈ Percent.decode s, b = 0x2E := by decide +kernel
  exact hforms _ (List.mem_append.2 (h.imp of_decide_eq_true of_decide_eq_true)) segment
    (mem_forms_map segment)

/-- Only full stops have the byte of a full stop. -/
theorem eq_dot_of_bytes {c : Char} (h : ∀ b ∈ String.utf8EncodeChar c, b = 0x2E) : c = '.' := by
  obtain ⟨b, bs, hbytes⟩ := List.exists_cons_of_ne_nil (Utf8.encodeChar_ne_nil c)
  have hread := Utf8.decodeFrom_encodeChar c []
  have hwhole := Utf8.decodeFrom_whole (n := 0x2E) (by decide) (bs ++ [])
  obtain rfl := h b (hbytes ▸ List.mem_cons_self)
  rw [hbytes] at hread
  exact Option.some.inj (List.cons.inj (hread.symm.trans hwhole)).1

/-- A plain segment still stands for nothing else when it has been encoded. -/
theorem IsPlain.not_isPlace {segment : List Char} (h : IsPlain segment) :
    ¬(isHere (Percent.encode isPathSpecial segment) ∨ isUp (Percent.encode isPathSpecial segment)) := by
  intro hplace
  have hbytes := decode_of_isPlace hplace
  rw [Percent.decode_encode h.noEscape] at hbytes
  have hdots : ∀ c ∈ segment, c = '.' := fun c hc =>
    eq_dot_of_bytes fun b hb => hbytes b (List.mem_flatMap.2 ⟨c, hc, hb⟩)
  have hsame : Percent.encode isPathSpecial segment = segment :=
    Percent.encode_of_not_special fun c hc => hdots c hc ▸ by decide
  have hlower : segment.map Char.toLower = segment := by
    refine (List.map_congr_left fun c hc => ?_).trans (List.map_id segment)
    rw [hdots c hc]
    rfl
  have hnone : ∀ cs : List Char, '%' ∈ cs → segment ≠ cs := by
    rintro cs hcs rfl
    exact absurd (hdots '%' hcs) (by decide)
  simp only [hsame, isHere, isUp, hlower, decide_eq_true_eq, List.mem_cons, List.not_mem_nil,
    or_false] at hplace
  rcases hplace with (rfl | heq) | rfl | heq | heq | heq
  · exact h.ne_dot rfl
  · exact hnone _ (by decide) heq
  · exact h.ne_dots rfl
  all_goals exact hnone _ (by decide) heq

/-! ## Paths -/

theorem splitOn_joinSegments {sep : Char → Bool} (hsep : sep '/') : ∀ {segments : List (List Char)}
    {first : List Char}, (∀ s ∈ first :: segments, ∀ c ∈ s, sep c = false) →
      splitOn sep (first ++ joinSegments segments) = first :: segments
  | [], first, h => by
    rw [joinSegments, List.flatMap_nil, List.append_nil]
    exact splitOn_of_not_sep (h first List.mem_cons_self)
  | s :: segments, first, h => by
    obtain ⟨hfirst, hrest⟩ := List.forall_mem_cons.1 h
    have htext : joinSegments (s :: segments) = '/' :: (s ++ joinSegments segments) := rfl
    rw [htext, splitOn_append _ hfirst hsep, splitOn_joinSegments hsep hrest]

theorem mem_joinSegments {first : List Char} {segments : List (List Char)} {c : Char}
    (h : c ∈ first ++ joinSegments segments) : c = '/' ∨ ∃ s ∈ first :: segments, c ∈ s := by
  rcases List.mem_append.1 h with h | h
  · exact .inr ⟨first, List.mem_cons_self, h⟩
  · obtain ⟨s, hs, hc⟩ := List.mem_flatMap.1 h
    exact (List.mem_cons.1 hc).imp_right fun hc => ⟨s, List.mem_cons_of_mem _ hs, hc⟩

theorem encode_append (special : Char → Bool) (cs ds : List Char) :
    Percent.encode special (cs ++ ds) =
      Percent.encode special cs ++ Percent.encode special ds := List.flatMap_append

theorem encode_joinSegments : ∀ segments : List (List Char),
    Percent.encode isPathSpecial (joinSegments segments) =
      joinSegments (segments.map (Percent.encode isPathSpecial))
  | [] => rfl
  | s :: segments => by
    have htext : joinSegments (s :: segments) = '/' :: (s ++ joinSegments segments) := rfl
    rw [htext, Percent.encode_cons, if_neg (by decide), encode_append, encode_joinSegments segments]
    rfl

/-- Where no segment stands for another place, the path stays as it is. -/
theorem resolve_of_not_isPlace : ∀ {segments above : List (List Char)},
    (∀ s ∈ segments, ¬(isHere s ∨ isUp s)) → resolve above segments = above ++ segments
  | [], above, _ => by rw [resolve, List.append_nil]
  | s :: segments, above, h => by
    obtain ⟨hs, hsegments⟩ := List.forall_mem_cons.1 h
    rw [not_or] at hs
    rw [resolve, if_neg hs.2, if_neg hs.1, resolve_of_not_isPlace hsegments, List.append_assoc,
      List.singleton_append]

/-- A query as it stands behind a path. -/
def queryText : Option (List Char) → List Char
  | none => []
  | some query => '?' :: query

/-- Nothing in a query is dropped or has to be encoded. -/
def IsPlainQuery (query : List Char) : Prop :=
  ∀ c ∈ query, isBreak c = false ∧ isQuerySpecial c = false

/-- Plain segments and a plain query ask for just these. -/
theorem ofBehind_joinSegments {first : List Char} {segments : List (List Char)}
    {query : Option (List Char)} (h : ∀ s ∈ first :: segments, IsPlain s)
    (hquery : ∀ q ∈ query, IsPlainQuery q) :
    ofBehind (first ++ joinSegments segments ++ queryText query) =
      ⟨joinSegments ((first :: segments).map (Percent.encode isPathSpecial)), query⟩ := by
  have hpath : ∀ c ∈ first ++ joinSegments segments, c ≠ '?' ∧ c ≠ '#' ∧ isBreak c = false := by
    intro c hc
    rcases mem_joinSegments hc with rfl | ⟨s, hs, hc⟩
    · decide
    · have hnot := (h s hs).chars c hc
      simp only [reserved, List.mem_cons, not_or] at hnot
      simp [isBreak, hnot]
  have htail : ∀ c ∈ queryText query, c ≠ '#' ∧ isBreak c = false := by
    cases query with
    | none => exact fun c hc => nomatch hc
    | some q =>
      refine List.forall_mem_cons.2 ⟨by decide, fun c hc => ⟨?_, (hquery q rfl c hc).1⟩⟩
      rintro rfl
      exact absurd (hquery q rfl _ hc).2 (by decide)
  have hkept : ∀ c ∈ first ++ joinSegments segments ++ queryText query, c ≠ '#' ∧ isBreak c = false :=
    fun c hc => (List.mem_append.1 hc).elim (fun hc => (hpath c hc).2) (htail c)
  have hsplit : splitAtFirst '?' (first ++ joinSegments segments ++ queryText query) =
      (first ++ joinSegments segments, query) := by
    have hmark : '?' ∉ first ++ joinSegments segments := fun hmem => (hpath _ hmem).1 rfl
    cases query with
    | none => rw [queryText, List.append_nil, splitAtFirst_of_notMem hmark]
    | some q => exact splitAtFirst_append hmark q
  have hparts : splitOn isSlash (Percent.encode isPathSpecial (first ++ joinSegments segments)) =
      (first :: segments).map (Percent.encode isPathSpecial) := by
    rw [encode_append, encode_joinSegments, List.map_cons]
    refine splitOn_joinSegments rfl fun s hs => ?_
    obtain ⟨t, ht, rfl⟩ := List.mem_map.1 (List.map_cons ▸ hs)
    exact isSlash_encode fun c hc => isSlash_of_notMem ((h t ht).chars c hc)
  have hplace : ∀ s ∈ (first :: segments).map (Percent.encode isPathSpecial),
      ¬(isHere s ∨ isUp s) := by
    intro s hs
    obtain ⟨t, ht, rfl⟩ := List.mem_map.1 hs
    exact (h t ht).not_isPlace
  have hencoded : query.map (Percent.encode isQuerySpecial) = query := by
    cases query with
    | none => rfl
    | some q =>
      exact congrArg some (Percent.encode_of_not_special fun c hc => (hquery q rfl c hc).2)
  rw [ofBehind, List.filter_eq_self.2 fun c hc => by rw [(hkept c hc).2]; rfl,
    splitAtFirst_of_notMem fun hmem => (hkept _ hmem).1 rfl, hsplit]
  dsimp only
  rw [ofParts, hparts, resolve_of_not_isPlace hplace, hencoded, List.nil_append]

/-! ## Whatever the segments -/

/-- Digits are not encoded. -/
theorem isPathSpecial_of_digit (c : Char) (h : (Hex.digit? c).isSome) :
    isPathSpecial c = false := by
  have hsmall : ∀ n : Fin 0x80, (Hex.digit? (Char.ofNat n)).isSome →
      isPathSpecial (Char.ofNat n) = false := by decide
  have hlt : c.toNat < 0x80 := by
    rw [Hex.digit?] at h
    have hle : ∀ {d : Char}, c ≤ d → c.toNat ≤ d.toNat := fun h => UInt32.le_iff_toNat_le.1 h
    split_ifs at h with hc hc hc
    · exact Nat.lt_of_le_of_lt (hle hc.2) (by decide)
    · exact Nat.lt_of_le_of_lt (hle hc.2) (by decide)
    · exact Nat.lt_of_le_of_lt (hle hc.2) (by decide)
    · cases h
  have hc := hsmall ⟨c.toNat, hlt⟩
  rw [Char.ofNat_toNat] at hc
  exact hc h

/-- Encoding keeps the segments apart. -/
theorem splitOn_encode : ∀ cs : List Char, splitOn isSlash (Percent.encode isPathSpecial cs) =
    (splitOn isSlash cs).map (Percent.encode isPathSpecial)
  | [] => rfl
  | c :: cs => by
    have hrest := splitOn_encode cs
    have hcons := encode_append isPathSpecial [c] cs
    rw [List.singleton_append] at hcons
    by_cases hc : isSlash c
    · have hencode : Percent.encode isPathSpecial [c] = [c] := by
        simp only [isSlash, Bool.or_eq_true, decide_eq_true_eq] at hc
        rcases hc with rfl | rfl <;> decide
      rw [hcons, hencode, List.singleton_append, splitOn, if_pos hc, splitOn, if_pos hc, hrest,
        List.map_cons]
      rfl
    · obtain ⟨part, parts, hparts⟩ := List.exists_cons_of_ne_nil (splitOn_ne_nil isSlash cs)
      have hone : ∀ d ∈ [c], isSlash d = false := by simpa using hc
      rw [hparts, List.map_cons] at hrest
      have hsplit : splitOn isSlash (c :: cs) = ([c] ++ part) :: parts :=
        splitOn_append_of_not_sep hone hparts
      rw [hcons, splitOn_append_of_not_sep (isSlash_encode hone) hrest, ← encode_append, hsplit,
        List.map_cons]

theorem mem_of_mem_parent {above : List (List Char)} {s : List Char} (h : s ∈ parent above) :
    s ∈ above := by
  rw [parent] at h
  split at h
  · exact h
  · exact List.dropLast_subset above h

/-- A segment of a path that has been resolved is empty, or was there before and stands for no other
place. -/
theorem mem_resolve : ∀ {segments above : List (List Char)} {s : List Char},
    s ∈ resolve above segments → s = [] ∨ s ∈ above ∨ s ∈ segments ∧ ¬(isHere s ∨ isUp s)
  | [], _, _, h => .inr (.inl h)
  | t :: segments, above, s, h => by
    have hlast : s ∈ (if segments.isEmpty then [[]] else []) → s = [] := by
      split
      · exact List.mem_singleton.1
      · exact fun h => nomatch h
    have hrest : ∀ {above'}, s ∈ resolve above' segments →
        (s ∈ above' → s = [] ∨ s ∈ above ∨ s ∈ t :: segments ∧ ¬(isHere s ∨ isUp s)) →
        s = [] ∨ s ∈ above ∨ s ∈ t :: segments ∧ ¬(isHere s ∨ isUp s) := by
      intro above' h habove
      rcases mem_resolve h with h | h | ⟨h, hplace⟩
      · exact .inl h
      · exact habove h
      · exact .inr (.inr ⟨List.mem_cons_of_mem t h, hplace⟩)
    rw [resolve] at h
    split at h
    · exact hrest h fun h => (List.mem_append.1 h).elim
        (fun h => .inr (.inl (mem_of_mem_parent h))) fun h => .inl (hlast h)
    · next hup =>
      split at h
      · exact hrest h fun h => (List.mem_append.1 h).elim (fun h => .inr (.inl h))
          fun h => .inl (hlast h)
      · next hhere =>
        refine hrest h fun h => .inr ((List.mem_append.1 h).imp_right fun h => ?_)
        obtain rfl := List.mem_singleton.1 h
        exact ⟨List.mem_cons_self, not_or.2 ⟨hhere, hup⟩⟩

/-- What an address shows of a text: no line breaks, and nothing from a query or a fragment on. -/
def shown (cs : List Char) : List Char :=
  (cs.filter fun c => !isBreak c).takeWhile fun c => c ≠ '?' ∧ c ≠ '#'

theorem shown_sublist (cs : List Char) : (shown cs).Sublist cs :=
  (List.takeWhile_sublist _).trans List.filter_sublist

theorem of_mem_shown {cs : List Char} {c : Char} (h : c ∈ shown cs) :
    isBreak c = false ∧ c ≠ '?' ∧ c ≠ '#' := by
  have hbreak := (List.mem_filter.1 ((List.takeWhile_sublist _).subset h)).2
  exact ⟨by simpa using hbreak, by simpa using List.mem_takeWhile_imp h⟩

/-- The segments of the path that an address asks for. -/
def shownSegments (cs : List Char) : List (List Char) :=
  resolve [] ((splitOn isSlash (shown cs)).map (Percent.encode isPathSpecial))

/-- The path that an address asks for is what it shows, encoded and resolved. -/
theorem path_ofBehind (cs : List Char) : (ofBehind cs).path = joinSegments (shownSegments cs) := by
  have hshown : (splitAtFirst '?' (splitAtFirst '#' (cs.filter fun c => !isBreak c)).1).1 =
      shown cs := by
    rw [fst_splitAtFirst, fst_splitAtFirst, List.takeWhile_takeWhile, shown]
    congr 1
    funext c
    simp
  rw [shownSegments, ← splitOn_encode, ← hshown]
  rfl

/-- A segment of the path is empty, or a segment of what is shown that stands for no other place. -/
theorem mem_shownSegments {cs s : List Char} (h : s ∈ shownSegments cs) :
    s = [] ∨ ∃ t ∈ splitOn isSlash (shown cs), s = Percent.encode isPathSpecial t ∧
      ¬(isHere s ∨ isUp s) := by
  rcases mem_resolve h with h | h | ⟨h, hplace⟩
  · exact .inl h
  · cases h
  · obtain ⟨t, ht, rfl⟩ := List.mem_map.1 h
    exact .inr ⟨t, ht, rfl, hplace⟩

theorem isSlash_shownSegments {cs : List Char} :
    ∀ s ∈ shownSegments cs, ∀ c ∈ s, isSlash c = false := by
  intro s hs
  rcases mem_shownSegments hs with rfl | ⟨t, ht, rfl, -⟩
  · exact fun c hc => absurd hc List.not_mem_nil
  · exact isSlash_encode (of_mem_splitOn ht).2

/-- A segment of what is shown is plain, if nothing in it stands for a byte and it stands for no other
place. -/
theorem isPlain_of_mem_shown {cs t : List Char} (h : t ∈ splitOn isSlash (shown cs))
    (hescape : Percent.hasEscape t = false)
    (hplace : ¬(isHere (Percent.encode isPathSpecial t) ∨ isUp (Percent.encode isPathSpecial t))) :
    IsPlain t := by
  obtain ⟨hsub, hslash⟩ := of_mem_splitOn h
  have hreserved : ∀ c ∈ reserved, ¬(isSlash c = false ∧ isBreak c = false ∧ c ≠ '?' ∧ c ≠ '#') := by
    decide
  refine ⟨fun c hc hmem => ?_, hescape, ?_, ?_⟩
  · exact hreserved c hmem ⟨hslash c hc, of_mem_shown (hsub.subset hc)⟩
  · rintro rfl
    exact hplace (.inl (by decide))
  · rintro rfl
    exact hplace (.inr (by decide))

/-- What is shown of two texts is what is shown of the first, perhaps with what is shown of the
second. -/
theorem shown_append (cs ds : List Char) :
    shown (cs ++ ds) = shown cs ∨ shown (cs ++ ds) = shown cs ++ shown ds := by
  rw [shown, List.filter_append, List.takeWhile_append]
  split
  · next hall => exact .inr (by rw [shown, shown, (List.takeWhile_sublist _).eq_of_length hall])
  · exact .inl rfl

theorem shown_queryText : ∀ query : Option (List Char), shown (queryText query) = []
  | none => rfl
  | some query => by
    rw [queryText, shown, List.filter_cons_of_pos (by decide), List.takeWhile_cons_of_neg (by decide)]

theorem shown_slash (cs : List Char) : shown ('/' :: cs) = '/' :: shown cs := by
  rw [shown, List.filter_cons_of_pos (by decide), List.takeWhile_cons_of_pos (by decide), shown]

/-- A segment of the path of an address comes from a segment that has been put into it. -/
theorem exists_segment : ∀ {segments : List (List Char)} {first t : List Char},
    t ∈ splitOn isSlash (shown (first ++ joinSegments segments)) →
      ∃ s ∈ first :: segments, t ∈ splitOn isSlash (shown s)
  | [], first, t, h => by
    rw [joinSegments, List.flatMap_nil, List.append_nil] at h
    exact ⟨first, List.mem_cons_self, h⟩
  | s :: segments, first, t, h => by
    have htext : joinSegments (s :: segments) = '/' :: (s ++ joinSegments segments) := rfl
    rcases shown_append first (joinSegments (s :: segments)) with heq | heq <;> rw [heq] at h
    · exact ⟨first, List.mem_cons_self, h⟩
    · rw [htext, shown_slash, splitOn_append_sep rfl, List.mem_append] at h
      rcases h with h | h
      · exact ⟨first, List.mem_cons_self, h⟩
      · obtain ⟨s', hs', ht⟩ := exists_segment h
        exact ⟨s', List.mem_cons_of_mem first hs', ht⟩

end Target

/-- The segments of a path are found in it again. -/
theorem Resource.ofPath?_joinSegments {first : List Char} {segments : List (List Char)}
    (h : ∀ s ∈ first :: segments, ∀ c ∈ s, Target.isSlash c = false) :
    ofPath? (Target.joinSegments (first :: segments)) = ofSegments? (first :: segments) := by
  have htext : Target.joinSegments (first :: segments) =
      '/' :: (first ++ Target.joinSegments segments) := rfl
  have hsep : ∀ s ∈ first :: segments, ∀ c ∈ s, decide (c = '/') = false := fun s hs c hc =>
    (Bool.or_eq_false_iff.1 (h s hs c hc)).1
  rw [htext, ofPath?, Target.splitOn_joinSegments (by decide) hsep]

end ChunkCoordinator.Http
