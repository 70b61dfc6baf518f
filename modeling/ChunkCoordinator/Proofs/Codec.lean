import ChunkCoordinator.Json.Codec
import ChunkCoordinator.Proofs.Json
import ChunkCoordinator.Proofs.Text

/-!
# Values are read back as they are written

A codec is faithful to a value if the value is read back from what is written of it
(`Codec.Faithful`). This is a matter of its parts: a list is kept if its items are, a record if its
fields are and no two of them have the same name (`Fields.Faithful`). The simple codecs keep every
value they are meant for; a number has to be below its bound, and an option must not hold a value
that is written as nothing.

A value that a codec is faithful to comes back from its text, with and without space
(`Codec.Faithful.read_text`, `Codec.Faithful.read_pretty`).
-/

namespace ChunkCoordinator

open Json (ReadsBack Blank)
open Json.Reader (bind_of_ok map_of_ok)

variable {α β : Type}

/-- The value is read back from what is written of it. -/
structure Codec.Faithful (c : Codec α) (value : α) : Prop where
  /-- The reader gives back what is written, in any layout. -/
  readsBack : ReadsBack c.reader (c.encode value)
  /-- What is written stands for the value. -/
  decode : c.decode? (c.encode value) = some value

namespace Codec

/-! ## Whole texts -/

namespace Faithful

variable {c : Codec α} {value : α}

theorem read_render (h : c.Faithful value) {l : Json.Layout} (hl : l.IsBlank) :
    c.read (.ofString (.ofList ((c.encode value).render l 0))) = .ok value := by
  rw [read, Json.document_render h.readsBack hl]
  dsimp only
  rw [h.decode]

theorem read_text (h : c.Faithful value) : c.read (.ofString (c.text value)) = .ok value :=
  h.read_render Json.Layout.isBlank_compact

theorem read_pretty (h : c.Faithful value) : c.read (.ofString (c.pretty value)) = .ok value :=
  h.read_render Json.Layout.isBlank_pretty

end Faithful

/-! ## Simple values -/

theorem faithful_natural {n bound : Nat} (h : n < bound) : (natural bound).Faithful n where
  readsBack l depth hl := by
    have htext : Json.render l depth (.number n) = Nat.toDigits 10 n := by rw [Json.render]
    rw [natural, htext]
    exact Json.reads_natural h
  decode := rfl

theorem faithful_count {n : Nat} (h : n < UInt64.size) : count.Faithful n := faithful_natural h

/-- A codec for another form of a type keeps what can be brought back from this form. -/
theorem Faithful.convert {c : Codec α} {project : β → α} {build : α → β} {value : β}
    (h : c.Faithful (project value)) (hbuild : build (project value) = value) :
    (c.convert project build).Faithful value where
  readsBack := h.readsBack
  decode := by
    have hdecode : (c.convert project build).decode? ((c.convert project build).encode value) =
        (c.decode? (c.encode (project value))).map build := rfl
    rw [hdecode, h.decode, Option.map_some, hbuild]

theorem faithful_word (n : UInt64) : word.Faithful n :=
  (faithful_natural n.toNat_lt_size).convert UInt64.ofNat_toNat

theorem faithful_word32 (n : UInt32) : word32.Faithful n :=
  (faithful_natural n.toNat_lt_size).convert UInt32.ofNat_toNat

theorem faithful_word16 (n : UInt16) : word16.Faithful n :=
  (faithful_natural n.toNat_lt_size).convert UInt16.ofNat_toNat

theorem faithful_truth (b : Bool) : truth.Faithful b where
  readsBack l depth _ := Json.reads_truth l depth b
  decode := rfl

theorem render_string (l : Json.Layout) (depth : Nat) (s : String) :
    Json.render l depth (.string s) = Json.quoted s := by rw [Json.render]

theorem faithful_string (s : String) : string.Faithful s where
  readsBack l depth _ blank rest hblank hrest := by
    have htext : string.encode s = .string s := rfl
    rw [htext, render_string]
    exact map_of_ok (Json.reads_text s blank rest hblank hrest) _
  decode := rfl

theorem faithful_uuid (u : Uuid) : uuid.Faithful u where
  readsBack l depth _ blank rest hblank hrest := by
    have htext : uuid.encode u = .string u.toText := rfl
    rw [htext, render_string, uuid]
    dsimp only
    rw [bind_of_ok (Json.reads_text u.toText blank rest hblank hrest), Uuid.parse?_toText]
    rfl
  decode := by
    rw [uuid]
    dsimp only
    rw [Uuid.parse?_toText]

/-- One of some values is found by its name, if no two have the same. -/
theorem faithful_named {all : List α} {name : α → String} {value : α} (hmem : value ∈ all)
    (hname : ∀ a ∈ all, name a = name value → a = value) : (named all name).Faithful value where
  readsBack l depth _ := by
    have htext : (named all name).encode value = .string (name value) := rfl
    rw [htext, render_string]
    exact Json.reads_word (List.mem_map_of_mem hmem)
  decode := by
    have hsome : (all.find? fun a => name a = name value).isSome :=
      List.find?_isSome.2 ⟨value, hmem, decide_eq_true rfl⟩
    obtain ⟨a, ha⟩ := Option.isSome_iff_exists.1 hsome
    have heq := hname a (List.mem_of_find?_eq_some ha) (by simpa using List.find?_some ha)
    exact ha.trans (congrArg some heq)

/-! ## Lists and options -/

theorem Faithful.list {c : Codec α} {values : List α} (h : ∀ v ∈ values, c.Faithful v) :
    c.list.Faithful values where
  readsBack := Json.readsBack_list fun j hj => by
    obtain ⟨v, hv, rfl⟩ := List.mem_map.1 hj
    exact (h v hv).readsBack
  decode := by
    have hdecode : c.list.decode? (c.list.encode values) = (values.map c.encode).mapM c.decode? := rfl
    rw [hdecode]
    induction values with
    | nil => rfl
    | cons v values ih =>
      obtain ⟨hv, hvalues⟩ := List.forall_mem_cons.1 h
      rw [List.map_cons, List.mapM_cons, hv.decode, ih hvalues]
      · rfl
      · rfl

theorem faithful_optional {c : Codec α} {value : Option α}
    (h : ∀ v, value = some v → c.Faithful v ∧ c.encode v ≠ .null) : c.optional.Faithful value := by
  cases value with
  | none => exact ⟨Json.readsBack_null _, rfl⟩
  | some v =>
    obtain ⟨hv, hnull⟩ := h v rfl
    refine ⟨Json.readsBack_optional hv.readsBack hnull, ?_⟩
    have hdecode : c.optional.decode? (c.encode v) = (c.decode? (c.encode v)).map some := by
      unfold optional
      dsimp only
      split
      · next hj => exact absurd hj hnull
      · rfl
    exact hdecode.trans (by rw [hv.decode]; rfl)

end Codec

/-! ## Records -/

namespace Fields

/-- The values are read back from the members that are written for them. -/
structure Faithful (fs : Fields α) (values : α) : Prop where
  /-- Each member is for the field in its place and is read back. -/
  members : List.Forall₂ (fun f m => f.name = m.1 ∧ ReadsBack f.reader m.2) fs.fields (fs.encode values)
  /-- The members stand for the values. -/
  decode : fs.decode? (fs.encode values) = some values

theorem faithful_none : none.Faithful () := ⟨.nil, rfl⟩

theorem Faithful.field {name : String} {c : Codec α} {rest : Fields β} {value : α} {values : β}
    (presence : Json.Reader.Presence) (h : c.Faithful value) (hrest : rest.Faithful values) :
    (Fields.field name presence c rest).Faithful (value, values) where
  members := .cons ⟨rfl, h.readsBack⟩ hrest.members
  decode := by
    have hdecode : (Fields.field name presence c rest).decode?
        ((Fields.field name presence c rest).encode (value, values)) =
          (c.decode? (c.encode value)).bind fun v =>
            (rest.decode? (rest.encode values)).bind fun vs => some (v, vs) := rfl
    rw [hdecode, h.decode, hrest.decode]
    rfl

theorem Faithful.need {name : String} {c : Codec α} {rest : Fields β} {value : α} {values : β}
    (h : c.Faithful value) (hrest : rest.Faithful values) :
    (Fields.need name c rest).Faithful (value, values) := field .required h hrest

/-- A record is read back if its fields are, no two have one name, and it can be built from them. -/
theorem Faithful.record {fs : Fields α} {project : β → α} {build : α → β} {value : β}
    (h : fs.Faithful (project value)) (hbuild : build (project value) = value)
    (hnames : (fs.fields.map Json.Reader.Field.name).Nodup) :
    (Fields.record fs project build).Faithful value where
  readsBack := Json.readsBack_record h.members hnames
  decode := by
    have hdecode : (Fields.record fs project build).decode?
        ((Fields.record fs project build).encode value) = (fs.decode? (fs.encode (project value))).map build := rfl
    rw [hdecode, h.decode, Option.map_some, hbuild]

end Fields

end ChunkCoordinator
