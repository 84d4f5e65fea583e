import AssetSync.Codec
import AssetSync.Proofs.Json.Shape

namespace AssetSync

open Json

theorem AssetState.decode_name : decode.Restores fun state => .str state.name := by
  intro state
  apply Decoder.variant_lookup
  cases state <;> rfl

theorem CursorLabel.decode_name : decode.Restores fun label => .str label.name := by
  intro label
  apply Decoder.variant_lookup
  cases label <;> rfl

theorem CycleStatus.decode_name : decode.Restores fun status => .str status.name := by
  intro status
  apply Decoder.variant_lookup
  cases status <;> rfl

theorem ErrorCategory.decode_name : decode.Restores fun category => .str category.name := by
  intro category
  apply Decoder.variant_lookup
  cases category <;> rfl

theorem Json.Decoder.string_str : string.Restores .str :=
  fun _ => rfl

section

variable {fields placed : List (String × Json)} {name : String}

theorem Json.Written.optional {α : Type} {decode : Decoder α} {all : List Field} (name : String)
    {given : Option Json} (read : ∀ json ∈ given, ∃ value, decode json = .ok value)
    (rest : Written all fields) :
    Written (.defaulted name decode :: all) (optionalField name given ++ fields) := by
  cases given with
  | none => exact .omitted name rest
  | some json =>
    obtain ⟨value, hread⟩ := read json rfl
    exact .defaulted name hread rest

theorem lookup_optionalField (given : Option Json) (h : fields.lookup name = none) :
    (optionalField name given ++ fields).lookup name = given := by
  cases given with
  | none => exact h
  | some json => exact List.lookup_cons_self

theorem lookup_optionalField_of_ne {other : String} (given : Option Json) (h : other ≠ name) :
    (optionalField name given ++ fields).lookup other = fields.lookup other := by
  cases given with
  | none => rfl
  | some json => rw [optionalField, List.singleton_append, lookup_cons, if_neg h]

theorem fieldOr_text {text : Option String} (h : placed.lookup name = text.map .str) :
    fieldOr placed name (Decoder.option Decoder.string) none = .ok text := by
  rw [fieldOr, h]
  cases text <;> rfl

theorem fieldOr_payload {data : Option Json} (h : placed.lookup name = data) :
    fieldOr placed name (Decoder.option Decoder.any) none = .ok (data.filter (!·.isNull)) := by
  rw [fieldOr, h]
  rcases data with _ | _ | _ <;> rfl

end

attribute [local simp] requiredField fieldOr List.lookup_cons bind Except.bind

theorem Asset.decode_toJson : decode.Restores toJson := by
  intro asset
  have hid := Decoder.string_str asset.id
  have hstate := AssetState.decode_name asset.state
  have hretries := Decoder.uint32_ofUInt32 asset.retryCount
  have hwritten : Written shape.fields [("asset_id", .str asset.id),
      ("state", .str asset.state.name), ("retry_count", .ofUInt32 asset.retryCount)] :=
    .required _ hid (.required _ hstate (.defaulted _ hretries .nil))
  obtain ⟨placed, hgiven, hlookup⟩ := hwritten.given (by decide)
  rw [decode, toJson, hgiven]
  simp [hlookup, hid, hstate, hretries]

def Json.without (json : Json) (name : String) : Json :=
  match json with
  | .obj fields => .obj (fields.filter (·.1 != name))
  | other => other

theorem Asset.decode_without_retryCount (asset : Asset) :
    decode (asset.toJson.without "retry_count") = .ok { asset with retryCount := 0 } := by
  have hid := Decoder.string_str asset.id
  have hstate := AssetState.decode_name asset.state
  have hwritten : Written shape.fields [("asset_id", .str asset.id),
      ("state", .str asset.state.name)] :=
    .required _ hid (.required _ hstate (.omitted _ .nil))
  have hwithout : asset.toJson.without "retry_count" =
      .ofFields [("asset_id", .str asset.id), ("state", .str asset.state.name)] := by
    have hstate : ¬ "state" < "asset_id" := by decide
    have hcount : ¬ "retry_count" < "asset_id" ∧ "retry_count" < "state" := by decide
    simp [toJson, ofFields, insertField, without, hstate, hcount]
  obtain ⟨placed, hgiven, hlookup⟩ := hwritten.given (by decide)
  rw [decode, hwithout, hgiven]
  simp [hlookup, hid, hstate]

theorem Batch.decode_toJson (batch : Batch) :
    decode batch.toJson = .ok ⟨batch.data.filter (!·.isNull), batch.assets⟩ := by
  have hassets := Asset.decode_toJson.list batch.assets
  have hdata : ∀ json ∈ batch.data, ∃ value, Decoder.option Decoder.any json = .ok value := by
    intro json _
    cases json <;> exact ⟨_, rfl⟩
  have hwritten : Written shape.fields (optionalField "data" batch.data ++
      [("assets_to_state", .arr (batch.assets.map Asset.toJson))]) :=
    .optional _ hdata (.required _ hassets .nil)
  obtain ⟨placed, hgiven, hlookup⟩ := hwritten.given (by decide)
  have hpayload := fieldOr_payload ((hlookup "data").trans (lookup_optionalField _ (by simp)))
  have hrest := (hlookup "assets_to_state").trans (lookup_optionalField_of_ne _ (by decide))
  rw [decode, toJson, hgiven]
  simp [hpayload, hrest, hassets, -fieldOr]

theorem Cursor.decode_toJson : decode.Restores toJson :=
  fun _ => rfl

theorem Checkpoint.decode_toJson : decode.Restores toJson := by
  intro checkpoint
  have hcursor := Cursor.decode_toJson checkpoint.cursor
  have hlabel := CursorLabel.decode_name checkpoint.label
  have hupdated := Decoder.string_str checkpoint.updatedAt
  have hwritten : Written shape.fields [("cursor", checkpoint.cursor.toJson),
      ("label", .str checkpoint.label.name), ("updated_at", .str checkpoint.updatedAt)] :=
    .required _ hcursor (.required _ hlabel (.required _ hupdated .nil))
  obtain ⟨placed, hgiven, hlookup⟩ := hwritten.given (by decide)
  rw [decode, toJson, hgiven]
  simp [hlookup, hcursor, hlabel, hupdated]

theorem CycleRecord.decode_toJson : decode.Restores toJson := by
  intro record
  have hstatus := CycleStatus.decode_name record.status
  have hcount := Decoder.uint64_ofUInt64
  have htext : ∀ text : Option String, ∀ json ∈ text.map Json.str,
      ∃ value, Decoder.option Decoder.string json = .ok value := by
    rintro (_ | text) json hjson
    · cases hjson
    · cases hjson
      exact ⟨_, rfl⟩
  have hwritten : Written shape.fields (("status", .str record.status.name) ::
      ("assets_total", .ofUInt64 record.assetsTotal) ::
      ("assets_finished", .ofUInt64 record.assetsFinished) ::
      ("assets_active", .ofUInt64 record.assetsActive) ::
      ("assets_failed", .ofUInt64 record.assetsFailed) ::
      ("bytes_sent", .ofUInt64 record.bytesSent) ::
      ("duration_ms", .ofUInt64 record.durationMs) ::
      (optionalField "error_message" (record.errorMessage.map .str) ++
        (optionalField "finished_at" (record.finishedAt.map .str) ++ []))) :=
    .required _ hstatus <| .required _ (hcount _) <| .required _ (hcount _) <|
      .required _ (hcount _) <| .required _ (hcount _) <| .required _ (hcount _) <|
      .required _ (hcount _) <| .optional _ (htext _) <| .optional _ (htext _) .nil
  obtain ⟨placed, hgiven, hlookup⟩ := hwritten.given (by decide)
  have herror : placed.lookup "error_message" = record.errorMessage.map .str := by
    have hlast : (optionalField "finished_at" (record.finishedAt.map .str) ++ []).lookup
        "error_message" = none := lookup_optionalField_of_ne _ (by decide)
    rw [hlookup]
    simpa using lookup_optionalField (record.errorMessage.map .str) hlast
  have hfinished : placed.lookup "finished_at" = record.finishedAt.map .str := by
    have hend : ([] : List (String × Json)).lookup "finished_at" = none := rfl
    rw [hlookup]
    simpa [lookup_optionalField_of_ne] using
      lookup_optionalField (record.finishedAt.map .str) hend
  have hjson : toJson record = .ofFields _ := congrArg ofFields (List.append_assoc _ _ _)
  rw [List.append_nil] at hgiven
  rw [decode, hjson]
  simp only [List.cons_append, List.nil_append, hgiven]
  simp [hlookup, hstatus, hcount _, fieldOr_text herror, fieldOr_text hfinished, -fieldOr]

theorem SyncerKey.decode_toJson : decode.Restores toJson := by
  intro key
  have hintegration := Decoder.string_str key.integrationId
  have hinstance := Decoder.string_str key.instanceId
  have hwritten : Written shape.fields [("integration_id", .str key.integrationId),
      ("syncer_instance_id", .str key.instanceId)] :=
    .required _ hintegration (.required _ hinstance .nil)
  obtain ⟨placed, hgiven, hlookup⟩ := hwritten.given (by decide)
  rw [decode, toJson, hgiven]
  simp [hlookup, hintegration, hinstance]

theorem SourceError.decode_toJson : decode.Restores toJson := by
  intro e
  have hcategory := ErrorCategory.decode_name e.category
  have hcode := Decoder.string_str e.code
  have hmessage := Decoder.string_str e.message
  have hwritten : Written shape.fields [("category", .str e.category.name), ("code", .str e.code),
      ("message", .str e.message)] :=
    .required _ hcategory (.required _ hcode (.required _ hmessage .nil))
  obtain ⟨placed, hgiven, hlookup⟩ := hwritten.given (by decide)
  rw [decode, toJson, hgiven]
  simp [hlookup, hcategory, hcode, hmessage]

theorem written_values_restored :
    Asset.decode.Restores Asset.toJson ∧
      (∀ asset : Asset, Asset.decode (asset.toJson.without "retry_count") =
        .ok { asset with retryCount := 0 }) ∧
      (∀ batch : Batch, ∃ back, Batch.decode batch.toJson = .ok back ∧
        (back = batch ↔ batch.data ≠ some .null) ∧
        (batch.data = some .null → back.data = none) ∧
        back.assets = batch.assets ∧ back.hasData = batch.hasData ∧
        Batch.decode back.toJson = .ok back) ∧
      Cursor.decode.Restores Cursor.toJson ∧
      Checkpoint.decode.Restores Checkpoint.toJson ∧
      CycleRecord.decode.Restores CycleRecord.toJson ∧
      SyncerKey.decode.Restores SyncerKey.toJson ∧
      SourceError.decode.Restores SourceError.toJson := by
  refine ⟨Asset.decode_toJson, Asset.decode_without_retryCount, fun batch => ?_,
    Cursor.decode_toJson, Checkpoint.decode_toJson, CycleRecord.decode_toJson,
    SyncerKey.decode_toJson, SourceError.decode_toJson⟩
  obtain ⟨data, assets⟩ := batch
  refine ⟨_, Batch.decode_toJson _, ?_⟩
  rw [Batch.decode_toJson]
  rcases data with _ | _ | _ <;> simp [Batch.hasData, Batch.carries, isNull, Option.filter]

theorem written_values_restored_null :
    ∃ back, Batch.decode (Batch.toJson ⟨some .null, [⟨"a", .init, 3⟩]⟩) = .ok back ∧
      back.data = none ∧ back.assets = [⟨"a", .init, 3⟩] := by
  obtain ⟨-, -, hbatch, -⟩ := written_values_restored
  obtain ⟨back, hback, -, hnone, hassets, -⟩ := hbatch ⟨some .null, [⟨"a", .init, 3⟩]⟩
  exact ⟨back, hback, hnone rfl, hassets⟩

end AssetSync
