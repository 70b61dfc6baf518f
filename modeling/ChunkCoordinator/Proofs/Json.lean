import ChunkCoordinator.Json.Reader
import Mathlib.Data.List.Forall2

/-!
# JSON as written is JSON as read

A reader reads a text (`Json.Reads`) if it gives the value that the text stands for and leaves what
follows, whatever that is; white space in front of the text does not matter, and a number must not
be followed by what could be more of it (`Json.Ends`). Numbers, texts, truth values, words, options,
lists and records are read back as they are written, in every layout that puts nothing but white
space between the parts.

A record is read from an object whose members are the fields in order (`Json.readsBack_record`).
Records as arrays, members in other orders and unknown members are not written, so nothing is said
about them.
-/

namespace ChunkCoordinator.Json

open Text (Received)

/-! ## Steps of a reader -/

namespace Reader

variable {α β : Type} {s s' : Received}

theorem bind_of_ok {x : Reader α} {a : α} (h : x s = .ok (a, s')) (f : α → Reader β) :
    (x >>= f) s = f a s' := by
  simp [bind, StateT.bind, h, Except.bind]

theorem map_of_ok {x : Reader α} {a : α} (h : x s = .ok (a, s')) (f : α → β) :
    (f <$> x) s = .ok (f a, s') := by
  simp [Functor.map, StateT.map, h, bind, Except.bind, pure, Except.pure]

end Reader

open Reader

/-- White space that may stand between the parts of a value. -/
def Blank (cs : List Char) : Prop := ∀ c ∈ cs, isSpace (some c)

/-- What follows is not more of a number. -/
def Ends (rest : Received) : Prop :=
  ∀ c, rest.head? = some (some c) → c.isDigit = false ∧ c ∉ ['.', 'e', 'E']

theorem Blank.nil : Blank [] := fun _ h => by cases h

theorem Ends.nil : Ends [] := fun _ h => by cases h

/-- White space ends a number. -/
theorem ends_of_isSpace {c : Char} (h : isSpace (some c)) (rest : Received) :
    Ends (some c :: rest) := by
  intro d hd
  obtain rfl : c = d := by simpa using hd
  simp only [isSpace, Bool.or_eq_true, decide_eq_true_eq, Option.some.injEq] at h
  rcases h with ((rfl | rfl) | rfl) | rfl <;> decide

theorem ends_blank {blank : List Char} (h : Blank blank) {rest : Received} (hrest : Ends rest) :
    Ends (blank.map some ++ rest) := by
  cases blank with
  | nil => exact hrest
  | cons c cs => exact ends_of_isSpace (h c List.mem_cons_self) _

/-- The reader gives the value that a text stands for and leaves what follows. -/
def Reads {α : Type} (r : Reader α) (cs : List Char) (a : α) : Prop :=
  ∀ blank rest, Blank blank → Ends rest → r ((blank ++ cs).map some ++ rest) = .ok (a, rest)

theorem dropWhile_blank {blank : List Char} (h : Blank blank) (s : Received) :
    (blank.map some ++ s).dropWhile isSpace = s.dropWhile isSpace := by
  induction blank with
  | nil => rfl
  | cons c cs ih =>
    obtain ⟨hc, hcs⟩ := List.forall_mem_cons.1 h
    rw [List.map_cons, List.cons_append, List.dropWhile_cons_of_pos hc]
    exact ih hcs

/-- The first character behind white space is looked at and left. -/
theorem peek_blank {blank : List Char} (h : Blank blank) {c : Char} (hc : isSpace (some c) = false)
    (cs : List Char) (rest : Received) :
    peek ((blank ++ c :: cs).map some ++ rest) = .ok (c, (c :: cs).map some ++ rest) := by
  have hdrop : ((blank ++ c :: cs).map some ++ rest).dropWhile isSpace =
      (c :: cs).map some ++ rest := by
    rw [List.map_append, List.append_assoc, dropWhile_blank h, List.map_cons, List.cons_append,
      List.dropWhile_cons_of_neg (by simp [hc])]
  rw [peek, hdrop]
  rfl

theorem peek_cons {c : Char} (hc : isSpace (some c) = false) (cs : List Char) (rest : Received) :
    peek ((c :: cs).map some ++ rest) = .ok (c, (c :: cs).map some ++ rest) :=
  peek_blank .nil hc cs rest

theorem skip_cons (c : Char) (cs : List Char) (rest : Received) :
    skip ((c :: cs).map some ++ rest) = .ok ((), cs.map some ++ rest) := rfl

theorem accept?_of_mem {cs : List Char} {c : Char} (h : c ∈ cs) (s : Received) :
    accept? cs (some c :: s) = .ok (some c, s) := by
  rw [accept?]
  simp [h]

theorem accept?_of_head {cs : List Char} {s : Received}
    (h : ∀ c, s.head? = some (some c) → c ∉ cs) : accept? cs s = .ok (none, s) := by
  unfold accept?
  split
  · next c rest => rw [if_neg (h c rfl)]
  · rfl

theorem literal_append : ∀ (cs : List Char) (s : Received),
    literal cs (cs.map some ++ s) = .ok ((), s)
  | [], _ => rfl
  | c :: cs, s => by
    rw [literal, List.map_cons, List.cons_append,
      bind_of_ok (accept?_of_mem List.mem_cons_self _)]
    exact literal_append cs s

theorem punctuation_blank {blank : List Char} (h : Blank blank) {c : Char}
    (hc : isSpace (some c) = false) (cs : List Char) (rest : Received) :
    punctuation c ((blank ++ c :: cs).map some ++ rest) = .ok ((), cs.map some ++ rest) := by
  rw [punctuation, bind_of_ok (peek_blank h hc cs rest), if_pos rfl]
  rfl

theorem punctuation_cons {c : Char} (hc : isSpace (some c) = false) (cs : List Char)
    (rest : Received) : punctuation c ((c :: cs).map some ++ rest) = .ok ((), cs.map some ++ rest) :=
  punctuation_blank .nil hc cs rest

/-! ## Numbers -/

theorem valueFrom_cons (value : Nat) (c : Char) (cs : List Char) :
    Numeral.valueFrom value (c :: cs) = Numeral.valueFrom (10 * value + Numeral.digit c) cs := (rfl)

theorem valueFrom_eq (value : Nat) (cs : List Char) :
    Numeral.valueFrom value cs = Nat.ofDigitChars 10 cs value := by
  induction cs generalizing value with
  | nil => exact Nat.ofDigitChars_nil.symm
  | cons c cs ih => rw [valueFrom_cons, ih, Numeral.digit, Nat.ofDigitChars_cons]

theorem isDigit_of_mem_toDigits {n : Nat} {c : Char} (h : c ∈ Nat.toDigits 10 n) : c.isDigit :=
  Nat.isDigit_of_mem_toDigits (by decide) (by decide) h

/-- A number that is not zero begins with another digit. -/
theorem head?_toDigits_ne {n : Nat} (h : n ≠ 0) : (Nat.toDigits 10 n).head? ≠ some '0' := by
  induction n using Nat.strongRecOn with
  | ind n ih =>
    rw [Nat.toDigits_eq_if (by decide)]
    split
    · next hlt =>
      have hdigit : ∀ m : Fin 10, m.1 ≠ 0 → m.1.digitChar ≠ '0' := by decide
      simpa using hdigit ⟨n, hlt⟩ h
    · next hge =>
      rw [List.head?_append_of_ne_nil _ Nat.toDigits_ne_nil]
      exact ih (n / 10) (by omega) (by omega)

theorem spanDigits_append {cs : List Char} (h : ∀ c ∈ cs, c.isDigit) {rest : Received}
    (hrest : Ends rest) : spanDigits (cs.map some ++ rest) = (cs, rest) := by
  induction cs with
  | nil =>
    rw [List.map_nil, List.nil_append]
    match rest with
    | [] => rfl
    | none :: _ => rfl
    | some c :: _ => rw [spanDigits, if_neg (by simp [(hrest c rfl).1])]
  | cons c cs ih =>
    obtain ⟨hc, hcs⟩ := List.forall_mem_cons.1 h
    rw [List.map_cons, List.cons_append, spanDigits, if_pos hc, ih hcs]
    rfl

theorem not_mem_of_ends {rest : Received} (h : Ends rest) {cs : List Char}
    (hcs : cs ⊆ ['.', 'e', 'E']) : ∀ c, rest.head? = some (some c) → c ∉ cs :=
  fun c hc hmem => (h c hc).2 (hcs hmem)

theorem numeral_toDigits (n : Nat) {rest : Received} (h : Ends rest) :
    numeral ((Nat.toDigits 10 n).map some ++ rest) =
      .ok (⟨false, Nat.toDigits 10 n, none, none⟩, rest) := by
  obtain ⟨c, cs, hdigits⟩ := List.exists_cons_of_ne_nil (Nat.toDigits_ne_nil (n := n) (b := 10))
  have hall : ∀ d ∈ c :: cs, d.isDigit := fun d hd => isDigit_of_mem_toDigits (hdigits ▸ hd)
  have hminus : c ≠ '-' := by
    rintro rfl
    exact absurd (hall '-' List.mem_cons_self) (by decide)
  have hzero : ((c :: cs).head? = some '0' && 1 < (c :: cs).length) = false := by
    by_cases hn : n = 0
    · subst hn
      rw [← hdigits]
      decide
    · have hhead := head?_toDigits_ne hn
      rw [hdigits] at hhead
      rw [decide_eq_false hhead, Bool.false_and]
  have hsome : someDigits ((c :: cs).map some ++ rest) = .ok (c :: cs, rest) := by
    have hspan : digits ((c :: cs).map some ++ rest) = .ok (c :: cs, rest) := by
      rw [digits, spanDigits_append hall h]
    rw [someDigits, bind_of_ok hspan]
    rfl
  rw [hdigits, numeral, bind_of_ok (accept?_of_head (by simpa using hminus)),
    bind_of_ok hsome, hzero]
  simp only [Bool.false_eq_true, if_false]
  rw [bind_of_ok (accept?_of_head (not_mem_of_ends h (by simp)))]
  simp only [Option.isSome_none, Bool.false_eq_true, if_false]
  rw [bind_of_ok (a := none) rfl, bind_of_ok (accept?_of_head (not_mem_of_ends h (by simp)))]
  rfl

/-- The first character of a value is looked at and left. -/
theorem peek_reads {blank : List Char} (h : Blank blank) {c : Char} (hc : isSpace (some c) = false)
    {text cs : List Char} (htext : text = c :: cs) (rest : Received) :
    peek ((blank ++ text).map some ++ rest) = .ok (c, text.map some ++ rest) := by
  rw [htext]
  exact peek_blank h hc cs rest

theorem isSpace_of_isDigit {c : Char} (h : c.isDigit) : isSpace (some c) = false := by
  rw [← Bool.not_eq_true]
  intro hspace
  rw [(ends_of_isSpace hspace []  c rfl).1] at h
  cases h

theorem reads_natural {n bound : Nat} (h : n < bound) :
    Reads (natural bound) (Nat.toDigits 10 n) (.number n) := by
  intro blank rest hblank hrest
  obtain ⟨c, cs, hdigits⟩ := List.exists_cons_of_ne_nil (Nat.toDigits_ne_nil (n := n) (b := 10))
  have hc : c.isDigit := isDigit_of_mem_toDigits (n := n) (hdigits ▸ List.mem_cons_self)
  have hvalue : Numeral.valueFrom 0 (Nat.toDigits 10 n) = n := by
    rw [valueFrom_eq, Nat.ofDigitChars_ten_toDigits]
  have hplain : (⟨false, Nat.toDigits 10 n, none, none⟩ : Numeral).plain? bound = some n := by
    have hbelow := Numeral.below?_of_lt (hvalue.symm ▸ h)
    rw [hvalue] at hbelow
    exact hbelow
  rw [natural, bind_of_ok (peek_reads hblank (isSpace_of_isDigit hc) hdigits rest), hc,
    Bool.or_true, if_pos rfl, bind_of_ok (numeral_toDigits n hrest), hplain]
  rfl

/-! ## Texts -/

/-- The part of a string that stands for a character when it is written. -/
def piece (c : Char) : Piece :=
  if c.toNat < 0x20 ∧ c ∉ ['\n', '\r', '\t', '\x08', '\x0C'] then .unit c.toNat else .char c

theorem pieces?_plain {c : Char} (hquote : c ≠ '"') (hslash : c ≠ '\\') (hcontrol : ¬c.toNat < 0x20)
    (s : Received) :
    pieces? (some c :: s) = (pieces? s).map fun (ps, rest) => (.char c :: ps, rest) := by
  rw [pieces?]
  · simp [hslash, hcontrol]
  · simpa using hquote
  · intros; simp_all
  · intros; simp_all

theorem pieces?_named {c d : Char} (h : escaped? c = some d) (s : Received) :
    pieces? (some '\\' :: some c :: s) =
      (pieces? s).map fun (ps, rest) => (.char d :: ps, rest) := by
  rw [pieces?, h]
  · cases pieces? s <;> rfl
  · rintro _ _ _ _ _ - rfl
    have hnone : escaped? 'u' = none := rfl
    rw [hnone] at h
    cases h

theorem pieces?_numbered {n : Nat} (h : n < 0x10000) (s : Received) :
    pieces? (some '\\' :: some 'u' :: (Text.Hex.digits 4 n).map some ++ s) =
      (pieces? s).map fun (ps, rest) => (.unit n :: ps, rest) := by
  have hvalue : Text.Hex.value? (Text.Hex.digits 4 n) = some n := Text.Hex.value?_digits h
  obtain ⟨a, b, c, d, hdigits⟩ : ∃ a b c d, Text.Hex.digits 4 n = [a, b, c, d] :=
    ⟨_, _, _, _, rfl⟩
  rw [hdigits] at hvalue ⊢
  have hunit : unit? (some a) (some b) (some c) (some d) = some n := hvalue
  simp only [List.map_cons, List.map_nil, List.cons_append, List.nil_append]
  rw [pieces?, hunit]
  cases pieces? s <;> rfl

/-- A character is written by a letter, by number or as it is. -/
theorem escape_cases (c : Char) :
    (∃ d, escape c = ['\\', d] ∧ escaped? d = some c ∧ piece c = .char c) ∨
      (escape c = '\\' :: 'u' :: Text.Hex.digits 4 c.toNat ∧ c.toNat < 0x20 ∧
        piece c = .unit c.toNat) ∨
      escape c = [c] ∧ c ≠ '"' ∧ c ≠ '\\' ∧ ¬c.toNat < 0x20 ∧ piece c = .char c := by
  by_cases hnamed : c ∈ ['"', '\\', '\n', '\r', '\t', '\x08', '\x0C']
  · left
    simp only [List.mem_cons, List.not_mem_nil, or_false] at hnamed
    rcases hnamed with rfl | rfl | rfl | rfl | rfl | rfl | rfl <;> exact ⟨_, rfl, rfl, rfl⟩
  · have hbackspace : c.toNat ≠ 0x08 := fun h => hnamed (by
      rw [show c = '\x08' from Char.toNat_inj.1 h]; decide)
    have hfeed : c.toNat ≠ 0x0C := fun h => hnamed (by
      rw [show c = '\x0C' from Char.toNat_inj.1 h]; decide)
    simp only [List.mem_cons, List.not_mem_nil, or_false, not_or] at hnamed
    obtain ⟨hquote, hslash, hline, hreturn, htab, hb, hf⟩ := hnamed
    right
    unfold escape piece
    simp only [hquote, hslash, hline, hreturn, htab, hbackspace, hfeed, if_false]
    by_cases hcontrol : c.toNat < 0x20
    · left
      simp [hcontrol, hline, hreturn, htab, hb, hf]
    · right
      simp [hcontrol, hquote, hslash]

/-- A character is read as it is written. -/
theorem pieces?_escape (c : Char) (s : Received) :
    pieces? ((escape c).map some ++ s) =
      (pieces? s).map fun (ps, rest) => (piece c :: ps, rest) := by
  rcases escape_cases c with ⟨d, hescape, hd, hpiece⟩ | ⟨hescape, hcontrol, hpiece⟩ |
    ⟨hescape, hquote, hslash, hcontrol, hpiece⟩
  · rw [hescape, hpiece]
    exact pieces?_named hd s
  · rw [hescape, hpiece]
    exact pieces?_numbered (by omega) s
  · rw [hescape, hpiece]
    exact pieces?_plain hquote hslash hcontrol s

theorem pieces?_flatMap : ∀ (cs : List Char) (rest : Received),
    pieces? ((cs.flatMap escape).map some ++ some '"' :: rest) = some (cs.map piece, rest)
  | [], rest => by simp [pieces?]
  | c :: cs, rest => by
    rw [List.flatMap_cons, List.map_append, List.append_assoc, pieces?_escape,
      pieces?_flatMap cs rest]
    rfl

theorem join?_pieces : ∀ cs : List Char, join? (cs.map piece) = some cs
  | [] => rfl
  | c :: cs => by
    rw [List.map_cons, piece]
    split
    · next hcontrol =>
      unfold join?
      rw [if_pos (.inl (by omega)), join?_pieces cs, Option.map_some, Char.ofNat_toNat]
    · rw [join?, join?_pieces cs, Option.map_some]

theorem quotedText_quoted (s : String) (rest : Received) :
    quotedText ((quoted s).map some ++ rest) = .ok (s, rest) := by
  have hpieces : pieces ((quoted s).map some ++ rest) = .ok (s.toList.map piece, rest) := by
    have htext : (quoted s).map some ++ rest =
        ('"' :: s.toList.flatMap escape).map some ++ some '"' :: rest := by
      simp [quoted]
    rw [htext, pieces, bind_of_ok (skip_cons _ _ _), pieces?_flatMap]
  rw [quotedText, bind_of_ok hpieces, join?_pieces]
  dsimp only
  rw [String.ofList_toList]
  rfl

/-- A text begins with its quotation mark. -/
theorem quoted_eq (s : String) : quoted s = '"' :: (s.toList.flatMap escape ++ ['"']) := rfl

theorem reads_text (s : String) : Reads text (quoted s) s := by
  intro blank rest hblank _
  rw [text, bind_of_ok (peek_reads hblank (by decide) (quoted_eq s) rest), if_pos rfl]
  exact quotedText_quoted s rest

/-! ## Words and values of one letter -/

theorem reads_word {words : List String} {s : String} (h : s ∈ words) :
    Reads (word words) (quoted s) (.string s) := by
  intro blank rest hblank _
  rw [word, bind_of_ok (peek_reads hblank (by decide) (quoted_eq s) rest)]
  refine (bind_of_ok (quotedText_quoted s rest) _).trans ?_
  dsimp only
  rw [if_pos h]
  rfl

theorem reads_truth (l : Layout) (depth : Nat) (b : Bool) :
    Reads truth (render l depth (.bool b)) (.bool b) := by
  intro blank rest hblank _
  cases b with
  | true =>
    have htext : render l depth (.bool true) = ['t', 'r', 'u', 'e'] := by rw [render]
    rw [truth, bind_of_ok (peek_reads hblank (by decide) htext rest), htext]
    exact bind_of_ok (literal_append ['t', 'r', 'u', 'e'] rest) _
  | false =>
    have htext : render l depth (.bool false) = ['f', 'a', 'l', 's', 'e'] := by rw [render]
    rw [truth, bind_of_ok (peek_reads hblank (by decide) htext rest), htext]
    exact bind_of_ok (literal_append ['f', 'a', 'l', 's', 'e'] rest) _

/-! ## Values as written -/

/-- The layout puts nothing but white space between the parts of a value. -/
structure Layout.IsBlank (l : Layout) : Prop where
  gap : ∀ depth, Blank (l.gap depth)
  space : Blank l.space

theorem Layout.isBlank_compact : Layout.compact.IsBlank := ⟨fun _ => .nil, .nil⟩

theorem Layout.isBlank_pretty : Layout.pretty.IsBlank where
  gap depth := by
    intro c hc
    rcases List.mem_cons.1 hc with rfl | hc
    · rfl
    · rw [List.eq_of_mem_replicate hc]
      rfl
  space := List.forall_mem_singleton.2 rfl

/-- The reader gives a value back that is written in any layout. -/
def ReadsBack (r : Reader Json) (j : Json) : Prop :=
  ∀ (l : Layout) (depth : Nat), l.IsBlank → Reads r (j.render l depth) j

/-- What a value begins with is no white space and no end of a list, and only nothing begins as
`null` does. -/
theorem exists_render (l : Layout) (depth : Nat) (j : Json) :
    ∃ c cs, j.render l depth = c :: cs ∧ isSpace (some c) = false ∧ c ≠ ']' ∧
      (j ≠ .null → c ≠ 'n') := by
  cases j with
  | null => exact ⟨'n', _, by rw [render], by decide, by decide, fun h => absurd rfl h⟩
  | bool b => cases b <;> exact ⟨_, _, by rw [render], by decide, by decide, fun _ => by decide⟩
  | number n =>
    obtain ⟨c, cs, hdigits⟩ := List.exists_cons_of_ne_nil (Nat.toDigits_ne_nil (n := n) (b := 10))
    have hc : c.isDigit := isDigit_of_mem_toDigits (n := n) (hdigits ▸ List.mem_cons_self)
    refine ⟨c, cs, by rw [render, hdigits], isSpace_of_isDigit hc, ?_, fun _ => ?_⟩
    · rintro rfl
      cases hc
    · rintro rfl
      cases hc
  | string s => exact ⟨'"', _, by rw [render, quoted_eq], by decide, by decide, fun _ => by decide⟩
  | array js =>
    cases js with
    | nil => exact ⟨'[', _, by rw [render], by decide, by decide, fun _ => by decide⟩
    | cons j js => exact ⟨'[', _, by rw [render]; rfl, by decide, by decide, fun _ => by decide⟩
  | object ms =>
    cases ms with
    | nil => exact ⟨'\x7b', _, by rw [render], by decide, by decide, fun _ => by decide⟩
    | cons m ms => exact ⟨'\x7b', _, by rw [render]; rfl, by decide, by decide, fun _ => by decide⟩

theorem readsBack_null (r : Reader Json) : ReadsBack (Reader.optional r) .null := by
  intro l depth _ blank rest hblank _
  have htext : render l depth .null = ['n', 'u', 'l', 'l'] := by rw [render]
  rw [Reader.optional, bind_of_ok (peek_reads hblank (by decide) htext rest), if_pos rfl, htext]
  exact bind_of_ok (literal_append ['n', 'u', 'l', 'l'] rest) _

theorem readsBack_optional {r : Reader Json} {j : Json} (h : ReadsBack r j) (hj : j ≠ .null) :
    ReadsBack (Reader.optional r) j := by
  intro l depth hl blank rest hblank hrest
  obtain ⟨c, cs, htext, hc, -, hn⟩ := exists_render l depth j
  rw [Reader.optional, bind_of_ok (peek_reads hblank hc htext rest), if_neg (hn hj)]
  exact h l depth hl [] rest .nil hrest

/-! ## Lists -/

section

variable {l : Layout} {r : Reader Json}

/-- What follows an item of a list ends a number. -/
theorem ends_renderItems (hl : l.IsBlank) (depth : Nat) (js : List Json) (rest : Received) :
    Ends ((renderItems l depth js).map some ++ rest) := by
  cases js with
  | nil =>
    rw [renderItems, List.map_append, List.append_assoc]
    refine ends_blank (hl.gap depth) fun c hc => ?_
    obtain rfl : ']' = c := by simpa using hc
    decide
  | cons j js =>
    rw [renderItems]
    intro c hc
    obtain rfl : ',' = c := by simpa using hc
    decide

theorem length_renderItems (l : Layout) (depth : Nat) : ∀ js : List Json,
    js.length < (renderItems l depth js).length
  | [] => by
    rw [renderItems]
    simp
  | j :: js => by
    have hrest := length_renderItems l depth js
    rw [renderItems]
    simp only [List.length_append, List.length_cons]
    omega

theorem items_render (hl : l.IsBlank) (depth : Nat) : ∀ (js : List Json) (j : Json) (n : Nat)
    (blank : List Char) (rest : Received), (∀ j' ∈ j :: js, ReadsBack r j') → js.length < n →
    Blank blank →
      items r n ((blank ++ (j.render l (depth + 1) ++ renderItems l depth js)).map some ++ rest) =
        .ok (j :: js, rest)
  | js, j, 0, _, _, _, hn, _ => absurd hn (Nat.not_lt_zero _)
  | js, j, n + 1, blank, rest, hread, hn, hblank => by
    obtain ⟨hj, hjs⟩ := List.forall_mem_cons.1 hread
    have hfirst : r ((blank ++ (j.render l (depth + 1) ++ renderItems l depth js)).map some ++ rest) =
        .ok (j, (renderItems l depth js).map some ++ rest) := by
      have hitem := hj l (depth + 1) hl blank _ hblank (ends_renderItems hl depth js rest)
      rw [← hitem]
      simp only [List.map_append, List.append_assoc]
    rw [items, bind_of_ok hfirst]
    cases js with
    | nil =>
      have hpeek := peek_blank (hl.gap depth) (c := ']') (by decide) [] rest
      rw [renderItems, bind_of_ok hpeek]
      rfl
    | cons j' js =>
      have hpeek := peek_cons (c := ',') (by decide)
        (l.gap (depth + 1) ++ (j'.render l (depth + 1) ++ renderItems l depth js)) rest
      have hnext := items_render hl depth js j' n (l.gap (depth + 1)) rest hjs
        (by simpa using hn) (hl.gap _)
      have htext : renderItems l depth (j' :: js) =
          ',' :: (l.gap (depth + 1) ++ (j'.render l (depth + 1) ++ renderItems l depth js)) := by
        rw [renderItems]
        simp
      rw [htext, bind_of_ok hpeek]
      exact (bind_of_ok (skip_cons _ _ _) _).trans (bind_of_ok hnext _)

end

/-- A list is read back if its items are. -/
theorem readsBack_list {r : Reader Json} {js : List Json} (h : ∀ j ∈ js, ReadsBack r j) :
    ReadsBack (list r) (.array js) := by
  intro l depth hl blank rest hblank _
  cases js with
  | nil =>
    have htext : render l depth (.array []) = ['[', ']'] := by rw [render]
    rw [list, bind_of_ok (peek_reads hblank (by decide) htext rest), if_pos rfl, htext,
      bind_of_ok (skip_cons _ _ _), bind_of_ok (peek_cons (by decide) [] rest), if_pos rfl]
    exact bind_of_ok (skip_cons _ _ _) _
  | cons j js =>
    obtain ⟨c, cs, hitem, hc, hend, -⟩ := exists_render l (depth + 1) j
    have htext : render l depth (.array (j :: js)) =
        '[' :: (l.gap (depth + 1) ++ (j.render l (depth + 1) ++ renderItems l depth js)) := by
      rw [render]
      simp
    have hbehind : j.render l (depth + 1) ++ renderItems l depth js =
        c :: (cs ++ renderItems l depth js) := by rw [hitem, List.cons_append]
    rw [list, bind_of_ok (peek_reads hblank (by decide) htext rest), if_pos rfl, htext,
      bind_of_ok (skip_cons _ _ _), bind_of_ok (peek_reads (hl.gap (depth + 1)) hc hbehind rest),
      if_neg hend]
    have hfuel : js.length <
        ((j.render l (depth + 1) ++ renderItems l depth js).map some ++ rest).length := by
      have hlength := length_renderItems l depth js
      simp only [List.length_append, List.length_map]
      omega
    have hitems := items_render hl depth js j _ [] rest h hfuel .nil
    refine (bind_of_ok (s := (j.render l (depth + 1) ++ renderItems l depth js).map some ++ rest)
      (a := (j.render l (depth + 1) ++ renderItems l depth js).map some ++ rest) rfl _).trans ?_
    exact map_of_ok hitems _

/-! ## Records -/

section

variable {l : Layout} {fields : List Field}

/-- What follows a member of an object ends a number. -/
theorem ends_renderMembers (hl : l.IsBlank) (depth : Nat) (ms : List (String × Json))
    (rest : Received) :
    Ends ((renderMembers l depth ms).map some ++ rest) := by
  cases ms with
  | nil =>
    rw [renderMembers, List.map_append, List.append_assoc]
    refine ends_blank (hl.gap depth) fun c hc => ?_
    obtain rfl : '\x7d' = c := by simpa using hc
    decide
  | cons m ms =>
    rw [renderMembers]
    intro c hc
    obtain rfl : ',' = c := by simpa using hc
    decide

theorem length_renderMembers (l : Layout) (depth : Nat) : ∀ ms : List (String × Json),
    ms.length < (renderMembers l depth ms).length
  | [] => by
    rw [renderMembers]
    simp
  | (name, j) :: ms => by
    have hrest := length_renderMembers l depth ms
    rw [renderMembers]
    simp only [List.length_append, List.length_cons]
    omega

/-- The member is one of the fields, and its value is read back. -/
def Belongs (fields : List Field) (m : String × Json) : Prop :=
  ∃ f, fields.find? (fun f => f.name = m.1) = some f ∧ ReadsBack f.reader m.2

/-- A member and all that follow, the name behind white space. -/
def membersText (l : Layout) (depth : Nat) (m : String × Json) (ms : List (String × Json)) :
    List Char :=
  memberText l m.1 (m.2.render l (depth + 1)) ++ renderMembers l depth ms

theorem lookup_of_notMem {found : List (String × Json)} {name : String}
    (h : name ∉ found.map Prod.fst) : found.lookup name = none := by
  refine List.lookup_eq_none_iff.2 fun p hp => ?_
  rw [bne_iff_ne]
  rintro rfl
  exact h (List.mem_map_of_mem hp)

/-- A member is found under its name, if no other has the same. -/
theorem lookup_of_mem {ms : List (String × Json)} (hnames : (ms.map Prod.fst).Nodup)
    {m : String × Json} (hm : m ∈ ms) : ms.lookup m.1 = some m.2 := by
  obtain ⟨before, after, rfl⟩ := List.append_of_mem hm
  refine List.lookup_eq_some_iff.2 ⟨before, after, rfl, fun p hp => ?_⟩
  rw [List.map_append, List.map_cons] at hnames
  rw [bne_iff_ne]
  intro heq
  exact (List.nodup_append.1 hnames).2.2 _ (List.mem_map_of_mem hp) _ List.mem_cons_self heq.symm

/-- The text begins with the quotation mark of the name. -/
theorem membersText_eq (l : Layout) (depth : Nat) (m : String × Json) (ms : List (String × Json)) :
    membersText l depth m ms = '"' :: ((m.1.toList.flatMap escape ++ ['"']) ++
      (':' :: (l.space ++ m.2.render l (depth + 1) ++ renderMembers l depth ms))) := by
  simp [membersText, memberText, quoted]

theorem members_render (hl : l.IsBlank) (depth : Nat) : ∀ (ms : List (String × Json))
    (m : String × Json) (n : Nat) (blank : List Char) (rest : Received)
    (found : List (String × Json)),
    (∀ m' ∈ m :: ms, Belongs fields m') → ((found ++ m :: ms).map Prod.fst).Nodup →
    ms.length < n → Blank blank →
      members fields n found ((blank ++ membersText l depth m ms).map some ++ rest) =
        .ok (found ++ m :: ms, ['\x7d'].map some ++ rest)
  | ms, m, 0, _, _, _, _, _, hn, _ => absurd hn (Nat.not_lt_zero _)
  | ms, m, n + 1, blank, rest, found, hfields, hnames, hn, hblank => by
    obtain ⟨⟨f, hfind, hread⟩, hfields⟩ := List.forall_mem_cons.1 hfields
    have hnew : found.lookup m.1 = none := by
      rw [List.map_append, List.map_cons] at hnames
      exact lookup_of_notMem fun hmem =>
        (List.nodup_append.1 hnames).2.2 _ hmem _ List.mem_cons_self rfl
    -- the name, the colon, the value, and what follows
    have hquote := membersText_eq l depth m ms
    have hname : (membersText l depth m ms).map some ++ rest = (quoted m.1).map some ++
        ((':' :: (l.space ++ m.2.render l (depth + 1) ++ renderMembers l depth ms)).map some ++
          rest) := by
      rw [hquote, quoted_eq, ← List.append_assoc, ← List.map_append]
      rfl
    have hvalue : f.reader ((l.space ++ m.2.render l (depth + 1) ++ renderMembers l depth ms).map
        some ++ rest) = .ok (m.2, (renderMembers l depth ms).map some ++ rest) := by
      have hread := hread l (depth + 1) hl l.space _ hl.space
        (ends_renderMembers hl depth ms rest)
      rw [← hread, List.map_append, List.append_assoc]
    rw [members, bind_of_ok (peek_reads hblank (by decide) hquote rest), if_pos rfl, hname,
      bind_of_ok (quotedText_quoted _ _), hfind]
    dsimp only
    rw [hnew]
    simp only [Option.isSome_none, Bool.false_eq_true, if_false]
    rw [bind_of_ok (punctuation_cons (by decide) _ _), bind_of_ok hvalue,
      bind_of_ok (a := found ++ [m]) rfl]
    cases ms with
    | nil =>
      rw [renderMembers, bind_of_ok (peek_blank (hl.gap depth) (by decide) [] rest)]
      rfl
    | cons m' ms =>
      have hnext : renderMembers l depth (m' :: ms) =
          ',' :: (l.gap (depth + 1) ++ membersText l depth m' ms) := by
        rw [renderMembers, membersText]
        simp
      have hmore := members_render hl depth ms m' n (l.gap (depth + 1)) rest (found ++ [m]) hfields
        (by simpa using hnames) (by simpa using hn) (hl.gap _)
      rw [hnext, bind_of_ok (peek_cons (by decide) _ _)]
      refine (bind_of_ok (skip_cons _ _ _) _).trans (hmore.trans ?_)
      rw [List.append_assoc]
      rfl

theorem complete_of_lookup {found : List (String × Json)} : ∀ {fields : List Field}
    {ms : List (String × Json)}, ms.map Prod.fst = fields.map Field.name →
    (∀ m ∈ ms, found.lookup m.1 = some m.2) → ∀ s, complete found fields s = .ok (ms, s)
  | [], [], _, _, _ => rfl
  | f :: fields, m :: ms, hnames, hfound, s => by
    obtain ⟨hname, hnames⟩ := List.cons.inj hnames
    obtain ⟨hm, hms⟩ := List.forall_mem_cons.1 hfound
    have hrest := complete_of_lookup hnames hms s
    have hname : m.1 = f.name := hname
    rw [complete, ← hname, hm, Option.some_or]
    exact bind_of_ok hrest _

end

/-- Each member belongs to the field in its place. -/
theorem belongs_of_forall₂ {ms : List (String × Json)} : ∀ {fields : List Field},
    List.Forall₂ (fun f m => f.name = m.1 ∧ ReadsBack f.reader m.2) fields ms →
    (fields.map Field.name).Nodup → ∀ m ∈ ms, Belongs fields m
  | _, .nil, _, m, hm => by cases hm
  | f :: fields, .cons hfirst hrest, hnames, m, hm => by
    obtain ⟨hnew, hnames⟩ := List.nodup_cons.1 hnames
    rcases List.mem_cons.1 hm with rfl | hm
    · exact ⟨f, List.find?_cons_of_pos (decide_eq_true hfirst.1), hfirst.2⟩
    · obtain ⟨g, hfind, hread⟩ := belongs_of_forall₂ hrest hnames m hm
      have hname : g.name = m.1 := by simpa using List.find?_some hfind
      have hother : ¬f.name = m.1 := fun heq =>
        hnew (heq ▸ hname ▸ List.mem_map_of_mem (List.mem_of_find?_eq_some hfind))
      exact ⟨g, (List.find?_cons_of_neg (by simpa using hother)).trans hfind, hread⟩

/-- A record is read back if its members are the fields in order, each with another name, and their
values are read back. -/
theorem readsBack_record {fields : List Field} {ms : List (String × Json)}
    (hfields : List.Forall₂ (fun f m => f.name = m.1 ∧ ReadsBack f.reader m.2) fields ms)
    (hnames : (fields.map Field.name).Nodup) : ReadsBack (record fields) (.object ms) := by
  have heq : ms.map Prod.fst = fields.map Field.name := by
    clear hnames
    induction hfields with
    | nil => rfl
    | cons h _ ih => rw [List.map_cons, List.map_cons, ih, h.1]
  have hbelongs := belongs_of_forall₂ hfields hnames
  intro l depth hl blank rest hblank hrest
  have hcomplete := complete_of_lookup heq fun m hm => lookup_of_mem (heq ▸ hnames) hm
  cases ms with
  | nil =>
    have htext : render l depth (.object []) = ['\x7b', '\x7d'] := by rw [render]
    rw [record, bind_of_ok (peek_reads hblank (by decide) htext rest), htext]
    refine (bind_of_ok (skip_cons _ _ _) _).trans ?_
    rw [bind_of_ok (peek_cons (by decide) [] rest), if_pos rfl]
    refine (bind_of_ok (a := []) rfl _).trans ?_
    dsimp only
    rw [bind_of_ok (hcomplete _)]
    exact bind_of_ok (punctuation_cons (by decide) [] rest) _
  | cons m ms =>
    have htext : render l depth (.object (m :: ms)) =
        '\x7b' :: (l.gap (depth + 1) ++ membersText l depth m ms) := by
      rw [render, membersText]
      simp
    have hquote := membersText_eq l depth m ms
    have hfuel : ms.length < ((membersText l depth m ms).map some ++ rest).length := by
      have hlength := length_renderMembers l depth ms
      simp only [membersText, List.length_append, List.length_map]
      omega
    have hmembers := members_render hl depth ms m _ [] rest [] hbelongs
      (by rw [List.nil_append, heq]; exact hnames) hfuel .nil
    rw [record, bind_of_ok (peek_reads hblank (by decide) htext rest), htext]
    refine (bind_of_ok (skip_cons _ _ _) _).trans ?_
    rw [bind_of_ok (peek_reads (hl.gap (depth + 1)) (by decide) hquote rest), if_neg (by decide)]
    refine (bind_of_ok (s := (membersText l depth m ms).map some ++ rest)
      (a := (membersText l depth m ms).map some ++ rest) rfl _).trans ?_
    rw [List.nil_append, List.nil_append] at hmembers
    rw [bind_of_ok hmembers]
    dsimp only
    rw [bind_of_ok (hcomplete _)]
    exact bind_of_ok (punctuation_cons (by decide) [] rest) _

/-! ## Whole texts -/

/-- A text that holds nothing but a value is read as this value. -/
theorem document_render {r : Reader Json} {j : Json} (h : ReadsBack r j) {l : Layout}
    (hl : l.IsBlank) : document r (.ofString (.ofList (j.render l 0))) = .ok j := by
  have hread := h l 0 hl [] [] .nil .nil
  rw [List.nil_append, List.append_nil] at hread
  have hrun : r.run (Text.Received.ofString (.ofList (j.render l 0))) = .ok (j, []) := by
    rw [Text.Received.ofString, String.toList_ofList]
    exact hread
  rw [document, hrun]
  rfl

end ChunkCoordinator.Json
