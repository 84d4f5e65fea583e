import AssetSync.Json.Decode
import AssetSync.Proofs.Json.Reading

namespace AssetSync.Json

namespace Decoder

variable {α : Type}

def Restores (decode : Decoder α) (write : α → Json) : Prop :=
  ∀ value, decode (write value) = .ok value

theorem count_integer {limit n : Nat} {i : Integer} (expected : String) (h : i.toNat? = some n)
    (hlimit : n < limit) : count limit expected (.num (.integer i)) = .ok n := by
  simp only [count, h, if_pos hlimit]

theorem uint32_ofUInt32 : uint32.Restores .ofUInt32 := by
  intro n
  have hcount : count UInt32.size "u32" (.ofUInt32 n) = .ok n.toNat :=
    count_integer _ rfl n.toNat_lt_size
  rw [uint32, hcount, Except.map, UInt32.ofNat_toNat]

theorem uint64_ofUInt64 : uint64.Restores .ofUInt64 := by
  intro n
  have hcount : count UInt64.size "u64" (.ofUInt64 n) = .ok n.toNat :=
    count_integer _ rfl n.toNat_lt_size
  rw [uint64, hcount, Except.map, UInt64.ofNat_toNat]

theorem Restores.list {decode : Decoder α} {write : α → Json} (h : decode.Restores write)
    (values : List α) : list decode (.arr (values.map write)) = .ok values := by
  change (values.map write).mapM decode = .ok values
  induction values with
  | nil => rfl
  | cons value values ih =>
    rw [List.map_cons, List.mapM_cons, ih, h]
    rfl

theorem variant_lookup {variants : List (String × α)} {name : String} {value : α}
    (h : variants.lookup name = some value) : variant variants (.str name) = .ok value := by
  simp only [variant, find, h]

end Decoder

section

variable {fields : List (String × Json)}

theorem lookup_cons (name other : String) (value : Json) (fields : List (String × Json)) :
    ((name, value) :: fields).lookup other =
      if other = name then some value else fields.lookup other := by
  by_cases h : other = name
  · rw [if_pos h, h, List.lookup_cons_self]
  · rw [if_neg h, List.lookup_cons, beq_false_of_ne h]

theorem lookup_eq_none {name : String} (h : name ∉ fields.map Prod.fst) :
    fields.lookup name = none := by
  rw [List.lookup_eq_none_iff]
  intro field hfield
  rw [bne_iff_ne]
  rintro rfl
  exact h (List.mem_map_of_mem hfield)

theorem lookup_insertField (name other : String) (value : Json) (fields : List (String × Json)) :
    (insertField name value fields).lookup other =
      if other = name then some value else fields.lookup other := by
  induction fields with
  | nil => exact lookup_cons name other value []
  | cons field fields ih =>
    rw [insertField]
    by_cases hlt : name < field.1
    · rw [if_pos hlt, lookup_cons]
    rw [if_neg hlt]
    by_cases heq : name = field.1
    · rw [if_pos heq, lookup_cons, lookup_cons, ← heq]
      by_cases h : other = name <;> simp [h]
    · rw [if_neg heq, lookup_cons, lookup_cons, ih]
      by_cases h : other = field.1
      · simp [h, Ne.symm heq]
      · simp [h]

theorem field?_ofFields (h : (fields.map Prod.fst).Nodup) (name : String) :
    (ofFields fields).field? name = fields.lookup name := by
  have hfold : ∀ more placed : List (String × Json), (more.map Prod.fst).Nodup →
      (more.foldl (fun placed field => insertField field.1 field.2 placed) placed).lookup name =
        (more.lookup name).or (placed.lookup name) := by
    intro more
    induction more with
    | nil => exact fun _ _ => rfl
    | cons field more ih =>
      intro placed hdistinct
      obtain ⟨hnew, hmore⟩ := List.nodup_cons.mp hdistinct
      rw [List.foldl_cons, ih _ hmore, lookup_insertField, lookup_cons]
      by_cases hname : name = field.1
      · rw [if_pos hname, if_pos hname, hname, lookup_eq_none hnew]
        rfl
      · rw [if_neg hname, if_neg hname]
  have hall := hfold fields [] h
  rwa [List.lookup_nil, Option.or_none] at hall

end

namespace Shape

variable {shape : Shape} {fields : List (String × Json)}

theorem find?_field (distinct : (shape.fields.map Field.name).Nodup) {field : Field}
    (h : field ∈ shape.fields) : shape.fields.find? (·.name == field.name) = some field := by
  generalize shape.fields = all at distinct h
  induction all with
  | nil => cases h
  | cons first all ih =>
    obtain ⟨hfirst, hall⟩ := List.nodup_cons.mp distinct
    rcases List.mem_cons.mp h with rfl | hmem
    · exact List.find?_cons_of_pos (beq_self_eq_true _)
    · have hne : first.name ≠ field.name := fun heq => hfirst (heq ▸ List.mem_map_of_mem hmem)
      rw [List.find?_cons_of_neg (by simpa using hne), ih hall hmem]

theorem checkGiven_ok (distinct : (shape.fields.map Field.name).Nodup)
    (h : ∀ entry ∈ fields, ∃ field ∈ shape.fields,
      field.name = entry.1 ∧ field.check entry.2 = .ok ()) :
    shape.checkGiven fields = .ok () := by
  induction fields with
  | nil => rfl
  | cons entry fields ih =>
    rw [List.forall_mem_cons] at h
    obtain ⟨⟨field, hfield, hname, hcheck⟩, hfields⟩ := h
    have hfind := find?_field distinct hfield
    rw [hname] at hfind
    simp only [checkGiven, hfind, hcheck]
    exact ih hfields

theorem checkMissing_ok {all : List Field}
    (h : ∀ field ∈ all, field.optional = false → (fields.lookup field.name).isSome) :
    checkMissing fields all = .ok () := by
  induction all with
  | nil => rfl
  | cons field all ih =>
    rw [List.forall_mem_cons] at h
    rw [checkMissing, if_pos, ih h.2]
    cases hoptional : field.optional with
    | true => rfl
    | false => simpa using h.1 hoptional

end Shape

/-- Each field has a value that can be read, but a defaulted one may be left out. -/
inductive Written : List Field → List (String × Json) → Prop
  | nil : Written [] []
  | required {α : Type} {decode : Decoder α} {json : Json} {value : α} {all : List Field}
      {fields : List (String × Json)} (name : String) (read : decode json = .ok value)
      (rest : Written all fields) :
    Written (.required name decode :: all) ((name, json) :: fields)
  | defaulted {α : Type} {decode : Decoder α} {json : Json} {value : α} {all : List Field}
      {fields : List (String × Json)} (name : String) (read : decode json = .ok value)
      (rest : Written all fields) :
    Written (.defaulted name decode :: all) ((name, json) :: fields)
  | omitted {α : Type} {decode : Decoder α} {all : List Field} {fields : List (String × Json)}
      (name : String) (rest : Written all fields) :
    Written (.defaulted name decode :: all) fields

namespace Written

variable {all : List Field} {fields : List (String × Json)}

theorem sublist (h : Written all fields) :
    (fields.map Prod.fst).Sublist (all.map Field.name) := by
  induction h with
  | nil => exact .slnil
  | required name _ _ ih | defaulted name _ _ ih => exact ih.cons_cons name
  | omitted name _ ih => exact ih.cons name

theorem checked (h : Written all fields) :
    ∀ entry ∈ fields, ∃ field ∈ all, field.name = entry.1 ∧ field.check entry.2 = .ok () := by
  induction h with
  | nil => simp
  | required name read _ ih | defaulted name read _ ih =>
    intro entry hentry
    rcases List.mem_cons.mp hentry with rfl | hmem
    · refine ⟨_, List.mem_cons_self, rfl, ?_⟩
      simp only [Field.required, Field.defaulted, read, Except.map]
    · obtain ⟨field, hfield, hcheck⟩ := ih entry hmem
      exact ⟨field, List.mem_cons_of_mem _ hfield, hcheck⟩
  | omitted name _ ih =>
    intro entry hentry
    obtain ⟨field, hfield, hcheck⟩ := ih entry hentry
    exact ⟨field, List.mem_cons_of_mem _ hfield, hcheck⟩

theorem whole (h : Written all fields) :
    ∀ field ∈ all, field.optional = false → (fields.lookup field.name).isSome := by
  induction h with
  | nil => simp
  | required name _ _ ih | defaulted name _ _ ih =>
    intro field hfield hrequired
    rw [lookup_cons]
    by_cases hname : field.name = name
    · simp [hname]
    · rw [if_neg hname]
      rcases List.mem_cons.mp hfield with rfl | hmem
      · exact absurd rfl hname
      · exact ih field hmem hrequired
  | omitted name _ ih =>
    intro field hfield hrequired
    rcases List.mem_cons.mp hfield with rfl | hmem
    · cases hrequired
    · exact ih field hmem hrequired

theorem given {shape : Shape} (h : Written shape.fields fields)
    (distinct : (shape.fields.map Field.name).Nodup) :
    ∃ placed, shape.given (ofFields fields) = .ok placed ∧
      ∀ name, placed.lookup name = fields.lookup name := by
  obtain ⟨placed, hplaced, -, hsubset⟩ := ofFields_eq_obj fields
  have hlookup : ∀ name, placed.lookup name = fields.lookup name := by
    intro name
    rw [← field?_ofFields (distinct.sublist h.sublist), hplaced]
    rfl
  refine ⟨placed, ?_, hlookup⟩
  have hgiven := Shape.checkGiven_ok distinct fun entry hentry => h.checked entry (hsubset hentry)
  have hmissing : Shape.checkMissing placed shape.fields = .ok () := by
    apply Shape.checkMissing_ok
    intro field hfield hrequired
    rw [hlookup]
    exact h.whole field hfield hrequired
  rw [hplaced, Shape.given, hgiven, hmissing]
  rfl

end Written

end AssetSync.Json
