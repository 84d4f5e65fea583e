import AssetSync.Proofs.Asset.Open

namespace AssetSync

inductive AssetId.Given : AssetId → Json → Prop
  | text {id : AssetId} (h : id ≠ "") : Given id (.str id)
  | number (n : Number) : Given (Json.num n).text (.num n)

inductive RetriesGiven : UInt32 → Option Json → Prop
  | noData : RetriesGiven 0 none
  | noFields {data : Json} (h : ∀ fields, data ≠ .obj fields) : RetriesGiven 0 (some data)
  | noCount {fields : List (String × Json)} (h : fields.lookup "retry_count" = none) :
      RetriesGiven 0 (some (.obj fields))
  | null {fields : List (String × Json)} (h : fields.lookup "retry_count" = some .null) :
      RetriesGiven 0 (some (.obj fields))
  | count {n : UInt32} {i : Integer} {fields : List (String × Json)} (hi : i.val = n.toNat)
      (h : fields.lookup "retry_count" = some (.num (.integer i))) :
      RetriesGiven n (some (.obj fields))

structure Asset.Recorded (asset : Asset) (fields : List (String × Json)) : Prop where
  id : ∃ json, fields.lookup "asset_uri" = some json ∧ asset.id.Given json
  state : fields.lookup "state" = some (.str asset.state.name)
  retries : RetriesGiven asset.retryCount (fields.lookup "data")

theorem AssetId.Given.eq_text {id : AssetId} {text : String} (h : id.Given (.str text)) :
    id = text := by
  cases h
  rfl

theorem AssetId.ofJson?_eq_some_iff {json : Json} {id : AssetId} :
    ofJson? json = some id ↔ id.Given json := by
  have htext : ∀ n : Number, (Json.num n).text = String.ofList n.chars := by
    intro n
    rw [Json.text, Json.chars, Json.charsOnto, List.append_nil]
  constructor
  · intro h
    have hne := ofJson?_ne_empty h
    cases json with
    | str text =>
      simp only [ofJson?] at h
      split at h
      · cases h
      · cases h
        exact .text hne
    | num n =>
      obtain rfl := Option.some.inj h
      exact htext n ▸ .number n
    | _ => cases h
  · rintro (h | n)
    · simp [ofJson?, h]
    · rw [ofJson?, htext]

theorem AssetState.ofName?_eq_some_iff {name : String} {state : AssetState} :
    ofName? name = some state ↔ name = state.name := by
  constructor
  · intro h
    have hname := List.find?_some h
    exact (beq_iff_eq.mp hname).symm
  · rintro rfl
    exact ofName?_name state

theorem retryCountOfJson?_integer {i : Integer} {n : UInt32} :
    retryCountOfJson? (some (.num (.integer i))) = some n ↔ i.val = n.toNat := by
  have hn := n.toNat_lt_size
  simp only [retryCountOfJson?, Integer.toNat?]
  by_cases h : 0 ≤ i.val
  · simp only [if_pos h]
    by_cases hsize : i.val.toNat < UInt32.size
    · rw [if_pos hsize, Option.some.injEq, ← UInt32.toNat_inj,
        UInt32.toNat_ofNat_of_lt' hsize]
      omega
    · rw [if_neg hsize]
      simp only [reduceCtorEq, false_iff]
      omega
  · simp only [if_neg h, reduceCtorEq, false_iff]
    omega

theorem retriesGiven_iff {data : Option Json} {n : UInt32} :
    retryCountOfJson? (data.bind (·.field? "retry_count")) = some n ↔ RetriesGiven n data := by
  constructor
  · intro h
    cases data with
    | none =>
      obtain rfl := Option.some.inj h
      exact .noData
    | some data =>
      cases data with
      | obj fields =>
        rw [Option.bind_some, Json.field?] at h
        cases hcount : fields.lookup "retry_count" with
        | none =>
          rw [hcount] at h
          obtain rfl := Option.some.inj h
          exact .noCount hcount
        | some json =>
          rw [hcount] at h
          cases json with
          | null =>
            obtain rfl := Option.some.inj h
            exact .null hcount
          | num given =>
            cases given with
            | integer i => exact .count (retryCountOfJson?_integer.mp h) hcount
            | real => cases h
          | _ => cases h
      | _ =>
        obtain rfl := Option.some.inj h
        exact .noFields (by simp)
  · intro h
    cases h with
    | noData => rfl
    | @noFields data h =>
      cases data with
      | obj fields => exact absurd rfl (h fields)
      | _ => rfl
    | noCount h | null h =>
      rw [Option.bind_some, Json.field?, h]
      rfl
    | count hi h =>
      rw [Option.bind_some, Json.field?, h]
      exact retryCountOfJson?_integer.mpr hi

theorem Asset.ofRecord_obj_iff {fields : List (String × Json)} {asset : Asset} :
    ofRecord (.obj fields) = .ok asset ↔ asset.Recorded fields := by
  constructor
  · intro h
    simp only [ofRecord, Json.field?] at h
    split at h
    · cases h
    rename_i id hid
    split at h
    · rename_i name hname
      split at h
      · cases h
      rename_i state hstate
      split at h
      · rename_i n hcount
        obtain rfl := Except.ok.inj h
        obtain ⟨json, hjson, hgiven⟩ := Option.bind_eq_some_iff.mp hid
        refine ⟨⟨json, hjson, AssetId.ofJson?_eq_some_iff.mp hgiven⟩, ?_, retriesGiven_iff.mp hcount⟩
        rw [hname, AssetState.ofName?_eq_some_iff.mp hstate]
      · cases h
    · cases h
  · rintro ⟨⟨json, hjson, hgiven⟩, hstate, hretries⟩
    have hid := AssetId.ofJson?_eq_some_iff.mpr hgiven
    have hcount := retriesGiven_iff.mpr hretries
    simp only [Json.field?] at hcount
    simp only [ofRecord, Json.field?, hjson, Option.bind_some, hid, hstate,
      AssetState.ofName?_name, hcount]

theorem Asset.ofRecord_eq_ok_iff {record : Json} {asset : Asset} :
    ofRecord record = .ok asset ↔ ∃ fields, record = .obj fields ∧ asset.Recorded fields := by
  constructor
  · intro h
    cases record with
    | obj fields => exact ⟨fields, rfl, ofRecord_obj_iff.mp h⟩
    | _ => cases h
  · rintro ⟨fields, rfl, h⟩
    exact ofRecord_obj_iff.mpr h

theorem Asset.recorded_toRecord {asset : Asset} (h : asset.id ≠ "") :
    ∃ fields, asset.toRecord = .obj fields ∧ asset.Recorded fields := by
  rw [toRecord, looseRecord_eq]
  refine ⟨_, rfl, ⟨_, rfl, .text h⟩, ?_, ?_⟩
  · simp [List.lookup_cons]
  · have hcount : (Integer.ofUInt32 asset.retryCount).val = asset.retryCount.toNat := rfl
    exact .count hcount rfl

theorem Asset.id_ne_empty_of_recorded {asset : Asset} {fields : List (String × Json)}
    (h : asset.Recorded fields) : asset.id ≠ "" := by
  obtain ⟨json, -, hgiven⟩ := h.id
  exact AssetId.ofJson?_ne_empty (AssetId.ofJson?_eq_some_iff.mpr hgiven)

theorem Asset.record_grammar (record : Json) :
    (∀ asset, ofRecord record = .ok asset ↔
        ∃ fields, record = .obj fields ∧ asset.Recorded fields) ∧
      ((∃ reason, ofRecord record = .error reason) ↔
        ∀ (asset : Asset) fields, record = .obj fields → ¬ asset.Recorded fields) ∧
      (∀ asset : Asset, asset.id ≠ "" → ofRecord asset.toRecord = .ok asset) ∧
      ∀ asset, ofRecord record = .ok asset → ofRecord asset.toRecord = .ok asset := by
  have hwritten : ∀ asset : Asset, asset.id ≠ "" → ofRecord asset.toRecord = .ok asset :=
    fun asset h => ofRecord_eq_ok_iff.mpr (recorded_toRecord h)
  refine ⟨fun asset => ofRecord_eq_ok_iff, ?_, hwritten, ?_⟩
  · constructor
    · rintro ⟨reason, hreason⟩ asset fields rfl h
      rw [ofRecord_obj_iff.mpr h] at hreason
      cases hreason
    · intro h
      cases hread : ofRecord record with
      | error reason => exact ⟨reason, rfl⟩
      | ok asset =>
        obtain ⟨fields, hfields, hrecorded⟩ := ofRecord_eq_ok_iff.mp hread
        exact absurd hrecorded (h asset fields hfields)
  · intro asset h
    obtain ⟨fields, -, hrecorded⟩ := ofRecord_eq_ok_iff.mp h
    exact hwritten asset (id_ne_empty_of_recorded hrecorded)

theorem Asset.record_grammar_number :
    let count (json : Json) : Json := .obj [("retry_count", json)]
    let record (json : Json) : Json :=
      .obj [("asset_uri", .num (.integer (.ofInt64 (-3)))), ("data", count json),
        ("state", .str "failed_request")]
    let one : Json := .num (.real (.ofNat 1))
    ofRecord (record .null) = .ok ⟨"-3", .failedRequest, 0⟩ ∧
      (∃ reason, ofRecord (record one) = .error reason) ∧
      ofRecord (Asset.toRecord ⟨"-3", .failedRequest, 0⟩) = .ok ⟨"-3", .failedRequest, 0⟩ := by
  intro count record one
  obtain ⟨hread, -, -, hagain⟩ := record_grammar (record .null)
  obtain ⟨-, hskipped, -, -⟩ := record_grammar (record one)
  have htext : "-3" = (Json.num (.integer (.ofInt64 (-3)))).text := by decide +kernel
  have hgiven : AssetId.Given "-3" (.num (.integer (.ofInt64 (-3)))) := htext ▸ .number _
  have hrecorded : ofRecord (record .null) = .ok ⟨"-3", .failedRequest, 0⟩ :=
    (hread _).mpr ⟨_, rfl, ⟨_, rfl, hgiven⟩, rfl, .null rfl⟩
  refine ⟨hrecorded, hskipped.mpr ?_, hagain _ hrecorded⟩
  rintro ⟨id, state, n⟩ fields hfields ⟨-, -, hretries⟩
  cases hfields
  have hcount : none = some n := retriesGiven_iff.mpr hretries
  cases hcount

end AssetSync
