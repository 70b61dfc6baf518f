import ChunkCoordinator.Settings
import Mathlib.Algebra.GroupWithZero.Nat
import Mathlib.Data.List.Nodup

/-!
# Settings that are read

Which settings are read is said on the texts alone. A text is `Malformed` if it is no address, or no
numeral of a word (`IsNumeral`), and `Zero` if it is a numeral of zero where a size or a period is
wanted; the settings are `Said` by the texts and the defaults.

Reading goes through the names in order and stops at the first malformed text (`Reads`,
`reads_readAll`). If there is none, the first zero is reported (`Said.find?_positives`). Otherwise the
settings are accepted, and then they are `Usable`: no timer has the period zero, and an instruction
stays good for a sweep interval at least.

There is one exception (`Answers.gaveUp`): settings with a heartbeat interval of `2 ^ 63` or more are
not refused with a name, but given up because twice the interval is no word
(`not_named_of_largeInterval`). `read_answers` is the main statement.
-/

set_option linter.unusedSectionVars false

namespace ChunkCoordinator.Settings

/-! ## Numerals -/

/-- The characters are a numeral of the number: decimal digits, at least one, perhaps with a plus sign
in front. -/
def IsNumeral (cs : List Char) (n : Nat) : Prop :=
  ∃ digits, digits ≠ [] ∧ (∀ c ∈ digits, c.isDigit) ∧ (cs = digits ∨ cs = '+' :: digits) ∧
    Nat.ofDigitChars 10 digits 0 = n

/-- A numeral has one value. -/
theorem IsNumeral.unique {cs : List Char} {n m : Nat} (h : IsNumeral cs n) (h' : IsNumeral cs m) :
    n = m := by
  obtain ⟨digits, -, hall, hcs, rfl⟩ := h
  obtain ⟨digits', -, hall', hcs', rfl⟩ := h'
  -- a plus sign is no digit
  have hplus : ∀ {l l' : List Char}, (∀ c ∈ l, c.isDigit) → l ≠ '+' :: l' := by
    intro l l' hl heq
    have := hl '+' (heq ▸ List.mem_cons_self)
    revert this
    decide
  rcases hcs with rfl | rfl <;> rcases hcs' with heq | heq
  · rw [heq]
  · exact absurd heq (hplus hall)
  · exact absurd heq.symm (hplus hall')
  · rw [(List.cons.inj heq).2]

theorem le_ofDigitChars (cs : List Char) (value : Nat) : value ≤ Nat.ofDigitChars 10 cs value := by
  rw [Nat.ofDigitChars_eq_ofDigitChars_zero]
  have hpow : 0 < 10 ^ cs.length := Nat.pow_pos (by decide)
  exact Nat.le_trans (Nat.le_mul_of_pos_left value hpow) (Nat.le_add_right _ _)

/-- Digits are read if there is nothing else and their value is a word. -/
theorem readWord_eq_ok_iff {w : UInt64} : ∀ {cs : List Char} {value : Nat}, value < UInt64.size →
    (readWord value cs = .ok w ↔
      (∀ c ∈ cs, c.isDigit) ∧ Nat.ofDigitChars 10 cs value = w.toNat)
  | [], value, hvalue => by
    rw [readWord, Except.ok.injEq, Nat.ofDigitChars_nil]
    constructor
    · rintro rfl
      exact ⟨by simp, (UInt64.toNat_ofNat_of_lt' hvalue).symm⟩
    · rintro ⟨-, rfl⟩
      exact UInt64.ofNat_toNat
  | c :: cs, value, hvalue => by
    rw [readWord, Nat.ofDigitChars_cons]
    by_cases hdigit : c.isDigit
    · rw [if_pos hdigit]
      dsimp only
      split
      · next hfits =>
        rw [readWord_eq_ok_iff hfits]
        simp [hdigit]
      · next hlarge =>
        have hle := le_ofDigitChars cs (10 * value + (c.toNat - '0'.toNat))
        have hlt : w.toNat < UInt64.size := w.toNat_lt
        refine iff_of_false (fun h => by cases h) fun ⟨_, h⟩ => ?_
        omega
    · rw [if_neg hdigit]
      exact iff_of_false (fun h => by cases h) fun ⟨h, _⟩ => hdigit (h c List.mem_cons_self)

theorem parseWord_eq_ok_iff {s : String} {w : UInt64} :
    parseWord s = .ok w ↔ IsNumeral s.toList w.toNat := by
  have hplus : ('+' : Char).isDigit = false := by decide
  unfold parseWord
  split
  · next hempty =>
    rw [hempty]
    refine iff_of_false (fun h => by cases h) ?_
    rintro ⟨digits, hne, -, h | h, -⟩
    · exact hne h.symm
    · cases h
  · next c cs hsigned =>
    rw [hsigned, readWord_eq_ok_iff (by decide)]
    constructor
    · rintro ⟨hall, hvalue⟩
      exact ⟨c :: cs, List.cons_ne_nil _ _, hall, .inr rfl, hvalue⟩
    · rintro ⟨digits, -, hall, rfl | h, hvalue⟩
      · have := hall '+' List.mem_cons_self
        rw [hplus] at this
        cases this
      · rw [(List.cons.inj h).2]
        exact ⟨hall, hvalue⟩
  · next hnonempty hunsigned =>
    rw [readWord_eq_ok_iff (by decide)]
    constructor
    · rintro ⟨hall, hvalue⟩
      exact ⟨s.toList, hnonempty, hall, .inl rfl, hvalue⟩
    · rintro ⟨digits, hne, hall, h | h, hvalue⟩
      · rw [h]
        exact ⟨hall, hvalue⟩
      · obtain ⟨c, cs, rfl⟩ := List.exists_cons_of_ne_nil hne
        exact absurd h (hunsigned c cs)

/-! ## What the texts say -/

variable {lookup : String → Option String}

/-- The names of the sizes and periods. -/
def numberNames : List String := default.positives.map Prod.fst

/-- The text is no address or no numeral of a word, where one is wanted. -/
def Malformed (lookup : String → Option String) (name : String) : Prop :=
  ∃ raw, lookup name = some raw ∧
    ((name = "CHUNKVAULT_MASTER_BIND" ∧ SocketAddress.parse? (Text.trim raw) = none) ∨
      (name ∈ numberNames ∧ ∀ n < 2 ^ 64, ¬IsNumeral (Text.trim raw).toList n))

/-- The text is a numeral of zero, where a size or a period is wanted. -/
def Zero (lookup : String → Option String) (name : String) : Prop :=
  name ∈ numberNames ∧ ∃ raw, lookup name = some raw ∧ IsNumeral (Text.trim raw).toList 0

/-- A name stands for a number: what its text says, or the default. -/
def SaidNumber (lookup : String → Option String) (p : String × UInt64) : Prop :=
  match lookup p.1 with
  | some raw => IsNumeral (Text.trim raw).toList p.2.toNat
  | none => p ∈ default.positives

/-- The address to listen at is what the text says, or the default. -/
def SaidAddress (lookup : String → Option String) (address : SocketAddress) : Prop :=
  match lookup "CHUNKVAULT_MASTER_BIND" with
  | some raw => SocketAddress.parse? (Text.trim raw) = some address
  | none => address = default.bindAddress

/-- The settings are what the texts say, and the defaults elsewhere. -/
structure Said (lookup : String → Option String) (s : Settings) : Prop where
  bindAddress : SaidAddress lookup s.bindAddress
  dataDir : s.dataDir = (lookup "CHUNKVAULT_DATA_DIR").filter fun dir => !Text.blank dir
  numbers : ∀ p ∈ s.positives, SaidNumber lookup p

/-- The first name of a list with a property. -/
def FirstOf (names : List String) (p : String → Prop) (name : String) : Prop :=
  p name ∧ ∃ before after, names = before ++ name :: after ∧ ∀ n ∈ before, ¬p n

namespace FirstOf

variable {names : List String} {p : String → Prop} {name n : String}

theorem head (h : p name) (names : List String) : FirstOf (name :: names) p name :=
  ⟨h, [], names, rfl, by simp⟩

theorem cons (hn : ¬p n) (h : FirstOf names p name) : FirstOf (n :: names) p name := by
  obtain ⟨hname, before, after, rfl, hbefore⟩ := h
  exact ⟨hname, n :: before, after, rfl, List.forall_mem_cons.2 ⟨hn, hbefore⟩⟩

end FirstOf

/-! ## Reading in order -/

/-- Reading stops at the first malformed text of a list of names, or it comes to the end. -/
inductive Reads {α : Type} (lookup : String → Option String) (P : α → Prop) (names : List String) :
    Except Flaw α → Prop where
  | stops {name raw : String} {cause : Malformation} (first : FirstOf names (Malformed lookup) name)
      (text : lookup name = some raw) : Reads lookup P names (.error (.malformed name raw cause))
  | yields {a : α} (wellFormed : ∀ n ∈ names, ¬Malformed lookup n) (said : P a) :
      Reads lookup P names (.ok a)

namespace Reads

variable {α β : Type} {P : α → Prop} {Q : β → Prop} {names : List String} {name : String}
  {x : Except Flaw α} {f : α → Except Flaw β}

theorem pure {a : α} (h : P a) : Reads lookup P [] (.ok a) := .yields (by simp) h

/-- A text that is not malformed is passed over. -/
theorem skip (hname : ¬Malformed lookup name) (hx : Reads lookup P names x) :
    Reads lookup P (name :: names) x := by
  cases hx with
  | stops first text => exact .stops (first.cons hname) text
  | yields wellFormed said => exact .yields (List.forall_mem_cons.2 ⟨hname, wellFormed⟩) said

/-- First one text is read, then the others. -/
theorem bind (hx : Reads lookup P [name] x) (hf : ∀ a, P a → Reads lookup Q names (f a)) :
    Reads lookup Q (name :: names) (x >>= f) := by
  cases hx with
  | @stops name' _ _ first text =>
    obtain ⟨hmalformed, before, after, heq, -⟩ := first
    have hmem : name' ∈ [name] := heq ▸ by simp
    obtain rfl := List.mem_singleton.1 hmem
    exact .stops (.head hmalformed names) text
  | @yields a wellFormed said => exact (hf a said).skip (wellFormed name List.mem_cons_self)

end Reads

theorem reads_address (lookup : String → Option String) :
    Reads lookup (SaidAddress lookup) ["CHUNKVAULT_MASTER_BIND"]
      (readOr lookup "CHUNKVAULT_MASTER_BIND" default.bindAddress parseAddress) := by
  have hnumber : "CHUNKVAULT_MASTER_BIND" ∉ numberNames := by decide
  unfold readOr parseAddress
  split
  · next habsent =>
    refine .yields (List.forall_mem_singleton.2 ?_) (by rw [SaidAddress, habsent])
    rintro ⟨raw, hraw, -⟩
    rw [habsent] at hraw
    cases hraw
  · next raw hraw =>
    cases hparse : SocketAddress.parse? (Text.trim raw) with
    | none => exact .stops (.head ⟨raw, hraw, .inl ⟨rfl, hparse⟩⟩ []) hraw
    | some address =>
      refine .yields (List.forall_mem_singleton.2 ?_) (by rw [SaidAddress, hraw]; exact hparse)
      rintro ⟨raw', hraw', ⟨-, hnone⟩ | ⟨hmem, -⟩⟩
      · obtain rfl := Option.some.inj (hraw.symm.trans hraw')
        rw [hparse] at hnone
        cases hnone
      · exact hnumber hmem

theorem reads_number (lookup : String → Option String) {name : String} {fallback : UInt64}
    (hname : (name, fallback) ∈ default.positives) :
    Reads lookup (fun w => SaidNumber lookup (name, w)) [name]
      (readOr lookup name fallback parseWord) := by
  have hmem : name ∈ numberNames := List.mem_map_of_mem hname
  unfold readOr
  split
  · next habsent =>
    refine .yields (List.forall_mem_singleton.2 ?_) (by rw [SaidNumber, habsent]; exact hname)
    rintro ⟨raw, hraw, -⟩
    rw [habsent] at hraw
    cases hraw
  · next raw hraw =>
    cases hparse : parseWord (Text.trim raw) with
    | error cause =>
      refine .stops (.head ⟨raw, hraw, .inr ⟨hmem, fun n hn hnumeral => ?_⟩⟩ []) hraw
      have hok : parseWord (Text.trim raw) = .ok (.ofNat n) := by
        rw [parseWord_eq_ok_iff, UInt64.toNat_ofNat_of_lt' hn]
        exact hnumeral
      rw [hparse] at hok
      cases hok
    | ok w =>
      have hnumeral := parseWord_eq_ok_iff.1 hparse
      refine .yields (List.forall_mem_singleton.2 ?_) (by rw [SaidNumber, hraw]; exact hnumeral)
      rintro ⟨raw', hraw', ⟨hbind, -⟩ | ⟨-, hnone⟩⟩
      · revert hmem
        rw [hbind]
        decide
      · obtain rfl := Option.some.inj (hraw.symm.trans hraw')
        exact hnone w.toNat w.toNat_lt hnumeral

/-- All texts are read in the order of the names. -/
theorem reads_readAll (lookup : String → Option String) :
    Reads lookup (Said lookup) names (readAll lookup) := by
  have hdir : ¬Malformed lookup "CHUNKVAULT_DATA_DIR" := by
    rintro ⟨raw, -, ⟨h, -⟩ | ⟨h, -⟩⟩ <;> revert h <;> decide
  have hnumber : ∀ {name : String} {fallback : UInt64}, (name, fallback) ∈ default.positives →
      Reads lookup (fun w => SaidNumber lookup (name, w)) [name]
        (readOr lookup name fallback parseWord) := fun h => reads_number lookup h
  refine (reads_address lookup).bind fun address haddress => .skip hdir ?_
  refine (hnumber (by decide)).bind fun chunkSize h₁ => ?_
  refine (hnumber (by decide)).bind fun replication h₂ => ?_
  refine (hnumber (by decide)).bind fun heartbeatInterval h₃ => ?_
  refine (hnumber (by decide)).bind fun heartbeatTimeout h₄ => ?_
  refine (hnumber (by decide)).bind fun rebalanceInterval h₅ => ?_
  refine (hnumber (by decide)).bind fun instructionTtlSweeps h₆ => ?_
  refine (hnumber (by decide)).bind fun snapshotInterval h₇ => ?_
  refine .pure ⟨haddress, rfl, ?_⟩
  simp only [positives, List.forall_mem_cons]
  exact ⟨h₁, h₂, h₃, h₄, h₅, h₆, h₇, by simp⟩

/-! ## Zeros -/

namespace Said

variable {s : Settings}

/-- A size or period is zero if its text says so. -/
theorem eq_zero_iff (h : Said lookup s) {p : String × UInt64} (hp : p ∈ s.positives) :
    p.2 = 0 ↔ Zero lookup p.1 := by
  have hsaid := h.numbers p hp
  have hname : p.1 ∈ s.positives.map Prod.fst := List.mem_map_of_mem hp
  have hdefault : ∀ p ∈ default.positives, p.2 ≠ 0 := by decide
  unfold SaidNumber at hsaid
  split at hsaid
  · next raw hraw =>
    constructor
    · intro hzero
      rw [hzero] at hsaid
      exact ⟨hname, raw, hraw, hsaid⟩
    · rintro ⟨-, raw', hraw', hzero⟩
      obtain rfl := Option.some.inj (hraw.symm.trans hraw')
      exact UInt64.toNat_inj.1 (hsaid.unique hzero)
  · next habsent =>
    refine iff_of_false (hdefault p hsaid) ?_
    rintro ⟨-, raw, hraw, -⟩
    rw [habsent] at hraw
    cases hraw

/-- The zero that is found first is the first one in reading order. -/
theorem find?_positives (h : Said lookup s) :
    (∃ name value, s.positives.find? (fun p => p.2 = 0) = some (name, value) ∧
      FirstOf names (Zero lookup) name) ∨
      (s.positives.find? (fun p => p.2 = 0) = none ∧ (∀ n ∈ names, ¬Zero lookup n) ∧
        ∀ p ∈ s.positives, p.2 ≠ 0) := by
  have hnames : names =
      "CHUNKVAULT_MASTER_BIND" :: "CHUNKVAULT_DATA_DIR" :: s.positives.map Prod.fst := rfl
  have haddress : ¬Zero lookup "CHUNKVAULT_MASTER_BIND" := fun hzero =>
    absurd hzero.1 (by decide)
  have hdir : ¬Zero lookup "CHUNKVAULT_DATA_DIR" := fun hzero => absurd hzero.1 (by decide)
  rw [hnames]
  cases hfind : s.positives.find? (fun p => p.2 = 0) with
  | none =>
    have hnone : ∀ p ∈ s.positives, p.2 ≠ 0 := fun p hp hzero =>
      List.find?_eq_none.1 hfind p hp (decide_eq_true hzero)
    refine .inr ⟨rfl, ?_, hnone⟩
    simp only [List.forall_mem_cons]
    refine ⟨haddress, hdir, fun n hn hzero => ?_⟩
    obtain ⟨p, hp, rfl⟩ := List.mem_map.1 hn
    exact hnone p hp ((h.eq_zero_iff hp).2 hzero)
  | some found =>
    obtain ⟨hzero, before, after, hsplit, hbefore⟩ := List.find?_eq_some_iff_append.1 hfind
    have hmem : ∀ p ∈ before ++ found :: after, p ∈ s.positives := fun p hp => hsplit ▸ hp
    refine .inl ⟨found.1, found.2, rfl, .cons haddress (.cons hdir ⟨?_, before.map Prod.fst,
      after.map Prod.fst, ?_, fun n hn => ?_⟩)⟩
    · exact (h.eq_zero_iff (hmem found (by simp))).1 (of_decide_eq_true hzero)
    · rw [hsplit, List.map_append, List.map_cons]
    · obtain ⟨p, hp, rfl⟩ := List.mem_map.1 hn
      intro hzero
      have hfirst := hbefore p hp
      rw [(h.eq_zero_iff (hmem p (by simp [hp]))).2 hzero] at hfirst
      exact absurd hfirst (by decide)

end Said

/-! ## Accepted settings -/

/-- No size or period is zero, the sweeps for timeouts have a period that is not longer than the
timeout, and an instruction stays good from one sweep to the next. -/
structure Usable (s : Settings) : Prop where
  positive : ∀ p ∈ s.positives, 1 ≤ p.2
  ticks : 1 ≤ s.timeoutSweepInterval
  patient : s.timeoutSweepInterval ≤ s.heartbeatTimeout
  outlives : s.rebalanceInterval ≤ s.instructionTtl

theorem usable_of_ne_zero {s : Settings} (h : ∀ p ∈ s.positives, p.2 ≠ 0) : s.Usable := by
  have hpositive : ∀ p ∈ s.positives, 1 ≤ p.2.toNat := fun p hp => UInt64.toNat_pos (h p hp)
  have htimeout : 1 ≤ s.heartbeatTimeout.toNat :=
    hpositive ("CHUNKVAULT_HEARTBEAT_TIMEOUT_SECS", s.heartbeatTimeout) (by simp [positives])
  have hsweeps : 1 ≤ s.instructionTtlSweeps.toNat :=
    hpositive ("CHUNKVAULT_INSTRUCTION_TTL_SWEEPS", s.instructionTtlSweeps) (by simp [positives])
  have hperiod : s.timeoutSweepInterval.toNat = max (s.heartbeatTimeout.toNat / 2) 1 := by
    rw [timeoutSweepInterval, UInt64.toNat_max, UInt64.toNat_div]
    rfl
  have hlonger : s.rebalanceInterval.toNat ≤
      s.rebalanceInterval.toNat * s.instructionTtlSweeps.toNat := Nat.le_mul_of_pos_right _ hsweeps
  have hword := s.rebalanceInterval.toNat_lt
  constructor
  case positive => exact fun p hp => UInt64.le_iff_toNat_le.2 (hpositive p hp)
  case ticks =>
    rw [UInt64.le_iff_toNat_le, hperiod]
    exact Nat.le_max_right _ _
  case patient =>
    rw [UInt64.le_iff_toNat_le, hperiod]
    omega
  case outlives =>
    rw [UInt64.le_iff_toNat_le, instructionTtl, UInt64.toNat_satMul]
    simp only [UInt64.size]
    omega

theorem isSome_double?_iff (w : UInt64) : w.double?.isSome ↔ w.toNat < 2 ^ 63 := by
  have hdouble := UInt64.toNat_add? w w
  unfold UInt64.double?
  rw [← Option.isSome_map, hdouble]
  simp only [UInt64.size]
  split <;> simp <;> omega

/-- The first message of a flaw contains the name. -/
def Flaw.Names (flaw : Flaw) (name : String) : Prop :=
  ∃ before after, flaw.chain.head? = some (before ++ name ++ after)

theorem names_malformed (name raw : String) (cause : Malformation) :
    (Flaw.malformed name raw cause).Names name :=
  ⟨"invalid value for ", ": " ++ Text.Quoted.encode raw, by
    simp [Flaw.chain, toString, String.append_assoc]⟩

theorem names_zero (name : String) : (Flaw.zero name).Names name :=
  ⟨"", " must be greater than zero", by simp [Flaw.chain, toString]⟩

/-- What becomes of the texts. -/
inductive Answers (lookup : String → Option String) : Except Flaw Settings → Prop where
  /-- The first malformed text is named, whatever else is wrong. -/
  | malformed {name raw : String} {cause : Malformation}
      (first : FirstOf names (Malformed lookup) name) (text : lookup name = some raw)
      (named : (Flaw.malformed name raw cause).Names name) :
      Answers lookup (.error (.malformed name raw cause))
  /-- If there is none, the first zero is named. -/
  | zero {name : String} (wellFormed : ∀ n ∈ names, ¬Malformed lookup n)
      (first : FirstOf names (Zero lookup) name) (named : (Flaw.zero name).Names name) :
      Answers lookup (.error (.zero name))
  /-- Otherwise the settings are accepted if twice the heartbeat interval is a word. -/
  | accepted {s : Settings} (wellFormed : ∀ n ∈ names, ¬Malformed lookup n)
      (positive : ∀ n ∈ names, ¬Zero lookup n) (said : Said lookup s)
      (doubles : s.heartbeatInterval.toNat < 2 ^ 63) (usable : s.Usable) : Answers lookup (.ok s)
  /-- If it is not, they are given up without a name. -/
  | gaveUp {s : Settings} (wellFormed : ∀ n ∈ names, ¬Malformed lookup n)
      (positive : ∀ n ∈ names, ¬Zero lookup n) (said : Said lookup s)
      (large : 2 ^ 63 ≤ s.heartbeatInterval.toNat) (usable : s.Usable) :
      Answers lookup (.error .overflow)

/-- Whatever the texts are, the first malformed one is named, or else the first zero, or else the
settings are as the texts say and can be used. Reading gives up only on such settings, and only if
their heartbeat interval is `2 ^ 63` or more. -/
theorem read_answers (lookup : String → Option String) : Answers lookup (read lookup) := by
  have hreads := reads_readAll lookup
  unfold read
  generalize readAll lookup = x at hreads
  cases hreads with
  | @stops name raw cause first text => exact .malformed first text (names_malformed name raw cause)
  | @yields s wellFormed said =>
    have hread : Answers lookup s.validate := by
      unfold validate
      rcases said.find?_positives with ⟨name, value, hfind, hfirst⟩ | ⟨hfind, hzero, hpositive⟩
      · rw [hfind]
        exact .zero wellFormed hfirst (names_zero name)
      · rw [hfind]
        dsimp only
        split
        · next hdouble =>
          exact .accepted wellFormed hzero said ((isSome_double?_iff _).1 hdouble)
            (usable_of_ne_zero hpositive)
        · next hdouble =>
          rw [isSome_double?_iff, Nat.not_lt] at hdouble
          exact .gaveUp wellFormed hzero said hdouble (usable_of_ne_zero hpositive)
    exact hread

/-- The heartbeat interval is the least word whose double is none. -/
def largeInterval (name : String) : Option String :=
  if name = "CHUNKVAULT_HEARTBEAT_INTERVAL_SECS" then some "9223372036854775808" else none

/-- It is neither accepted nor refused by name. -/
theorem not_named_of_largeInterval : ¬((∃ s, read largeInterval = .ok s) ∨
    ∃ flaw, read largeInterval = .error flaw ∧ ∃ name ∈ names, flaw.Names name) := by
  have hread : read largeInterval = .error .overflow := by rfl
  rw [hread]
  rintro (⟨s, h⟩ | ⟨flaw, h, name, -, before, after, hnames⟩)
  · cases h
  · obtain rfl := Except.error.inj h
    cases hnames

end ChunkCoordinator.Settings
