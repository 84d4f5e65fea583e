import AssetSync.Proofs.Cycle.Order
import AssetSync.Proofs.Cycle.Replies
import AssetSync.Proofs.Json.Reading
import AssetSync.Proofs.Store.Isolation
import Mathlib.Data.List.DropRight

namespace AssetSync

namespace Embedded

def payloadRow (key : SyncerKey) (data : Json) : PayloadRow :=
  ⟨key, data.text⟩

variable {key : SyncerKey} {sent : List Json} {db db' : Embedded}

theorem payloadValues_cons (row : PayloadRow) (rest : List PayloadRow) :
    payloadValues (row :: rest) =
      ((Json.parse row.text).mapError .serialization).bind fun data =>
        (payloadValues rest).map (data :: ·) := by
  rw [payloadValues, List.mapM_cons]
  cases Json.parse row.text with
  | error => rfl
  | ok data =>
    cases hrest : payloadValues rest <;> rw [payloadValues] at hrest <;> rw [hrest] <;> rfl

theorem payloadValues_eq (h : ∀ data ∈ sent, Json.parse data.text = .ok data) :
    payloadValues (sent.map (payloadRow key)) = .ok sent := by
  induction sent with
  | nil => rfl
  | cons data rest ih =>
    have hrest := ih fun other hother => h other (List.mem_cons_of_mem _ hother)
    have hfirst : Json.parse (payloadRow key data).text = .ok data := h data List.mem_cons_self
    rw [List.map_cons, payloadValues_cons, hfirst, hrest]
    rfl

theorem payloadValues_error (key : SyncerKey) {data : Json} {fault : Json.SyntaxError}
    (hdata : data ∈ sent) (h : Json.parse data.text = .error fault) :
    ∃ reported, payloadValues (sent.map (payloadRow key)) = .error (.serialization reported) := by
  induction sent with
  | nil => cases hdata
  | cons first rest ih =>
    rw [List.map_cons, payloadValues_cons]
    cases hfirst : Json.parse (payloadRow key first).text with
    | error reported => exact ⟨reported, rfl⟩
    | ok value =>
      rcases List.mem_cons.mp hdata with rfl | hrest
      · cases hfirst.symm.trans h
      · obtain ⟨reported, hreported⟩ := ih hrest
        rw [hreported]
        exact ⟨reported, rfl⟩

theorem payloads_answer
    (stored : db.tables.payloads.filter (·.key == key) = sent.map (payloadRow key))
    (there : .payloads ∉ db.missing) (now : String) (limit : Nat) :
    ((service now).payloads key limit db).1 =
      (payloadValues ((sent.rtake (rowLimit limit)).reverse.map (payloadRow key))).map
        List.reverse := by
  have hthere : db.missing.contains .payloads = false := by simpa using there
  have hwindow : (sent.rtake (rowLimit limit)).reverse = newest limit sent := by
    rw [List.rtake_eq_reverse_take_reverse, List.reverse_reverse, newest]
  simp only [service, query, hthere, stored, newest_map, hwindow, Bool.false_eq_true, if_false]

theorem payloads_of_plain
    (stored : db.tables.payloads.filter (·.key == key) = sent.map (payloadRow key))
    (there : .payloads ∉ db.missing) (now : String) {limit : Nat}
    (plain : ∀ data ∈ sent.rtake (rowLimit limit), data.Plain Json.maxDepth) :
    ((service now).payloads key limit db).1 = .ok (sent.rtake (rowLimit limit)) := by
  rw [payloads_answer stored there, payloadValues_eq]
  · exact congrArg Except.ok (List.reverse_reverse _)
  · intro data hdata
    exact Json.parse_text (plain data (List.mem_reverse.mp hdata))

theorem payloads_of_deep
    (stored : db.tables.payloads.filter (·.key == key) = sent.map (payloadRow key))
    (there : .payloads ∉ db.missing) (now : String) {limit depth : Nat} {data : Json}
    (hdata : data ∈ sent.rtake (rowLimit limit)) (plain : data.Plain depth)
    (deep : ¬ data.Plain Json.maxDepth) :
    ∃ fault, ((service now).payloads key limit db).1 = .error (.serialization fault) := by
  obtain ⟨fault, hfault⟩ := Json.parse_text_error plain deep
  obtain ⟨reported, hreported⟩ := payloadValues_error key (List.mem_reverse.mpr hdata) hfault
  rw [payloads_answer stored there, hreported]
  exact ⟨reported, rfl⟩

theorem writeStates_payloads {rejected : List AssetId} {assets : List Asset}
    {tables written : Tables} (h : writeStates key rejected assets tables = .ok written) :
    written.payloads = tables.payloads := by
  induction assets generalizing tables with
  | nil => exact congrArg Tables.payloads (Except.ok.inj h).symm
  | cons asset rest ih =>
    unfold writeStates at h
    split at h
    · cases h
    · have hrest := ih h
      exact hrest

theorem saveStates_payloads (key : SyncerKey) (assets : List Asset) (db : Embedded) :
    (saveStates key assets db).2.tables.payloads = db.tables.payloads := by
  unfold saveStates
  split
  · rfl
  split
  · rfl
  split
  · rename_i hwritten
    exact writeStates_payloads hwritten
  · rfl

theorem answers_payloads {now : String} {call : Event} (h : (service now).Answers call db db')
    (hkey : ∀ other, call.key? = some other → other = key) :
    db'.tables.payloads = db.tables.payloads ++ call.accepted?.toList.map (payloadRow key) := by
  cases h with
  | loadCheckpoint h | loadActive h =>
    simp only [service] at h
    rw [(query_answer h).1]
    exact (List.append_nil _).symm
  | savePayload h =>
    obtain rfl := hkey _ rfl
    simp only [service] at h
    obtain ⟨rfl, hfailed⟩ | ⟨rfl, rfl⟩ := execute_answer h
    · rename_i answer
      cases answer with
      | error => exact (List.append_nil _).symm
      | ok => exact absurd rfl hfailed
    · rfl
  | @saveStates saved assets _ _ _ h =>
    have hpayloads := saveStates_payloads saved assets db
    simp only [service] at h
    rw [h] at hpayloads
    exact hpayloads.trans (List.append_nil _).symm
  | saveCursor h | recordCycle h =>
    simp only [service] at h
    obtain ⟨rfl, -⟩ | ⟨rfl, -⟩ := execute_answer h <;> exact (List.append_nil _).symm

end Embedded

open Embedded (payloadRow)

variable {σ : Type} {source : Source σ} {service : TrackingService (Refusing Embedded)}
  {key : SyncerKey}

theorem Refusing.Serves.payloads (serves : Refusing.Serves Embedded.service service)
    {call : Event} {x y : σ × Refusing Embedded} (h : call.Performed source service x y)
    (hkey : ∀ other, call.key? = some other → other = key) :
    y.2.inner.tables.payloads =
      x.2.inner.tables.payloads ++ call.accepted?.toList.map (payloadRow key) := by
  obtain ⟨now, refusals, rfl⟩ := serves
  cases h with
  | tracked h =>
    obtain hrun | ⟨hinner, hrefused⟩ := Refusing.answers_cases h
    · exact Embedded.answers_payloads hrun hkey
    · have hnone : call.accepted? = none := by
        unfold Refused at hrefused
        split at hrefused
        all_goals first | rfl | exact hrefused.elim
      rw [hinner, hnone]
      exact (List.append_nil _).symm
  | asked h => cases h <;> exact (List.append_nil _).symm
  | metric => exact (List.append_nil _).symm

theorem Chain.payloads (serves : Refusing.Serves Embedded.service service) {calls : List Event}
    {x z : σ × Refusing Embedded} (h : Chain (Event.Performed source service) calls x z)
    (hkeys : ∀ call ∈ calls, ∀ other, call.key? = some other → other = key) :
    z.2.inner.tables.payloads =
      x.2.inner.tables.payloads ++ (calls.filterMap Event.accepted?).map (payloadRow key) := by
  induction calls generalizing x with
  | nil =>
    rw [← show x = z from h]
    exact (List.append_nil _).symm
  | cons call rest ih =>
    obtain ⟨y, hcall, hrest⟩ := h
    have hfirst := serves.payloads hcall (hkeys call List.mem_cons_self)
    have hlater := ih hrest fun other hother => hkeys other (List.mem_cons_of_mem _ hother)
    have hsplit : (call :: rest).filterMap Event.accepted? =
        call.accepted?.toList ++ rest.filterMap Event.accepted? := by
      rw [List.filterMap_eq_flatMap_toList, List.flatMap_cons, ← List.filterMap_eq_flatMap_toList]
    rw [hlater, hfirst, hsplit, List.map_append, List.append_assoc]

theorem runCycle_payloads (source : Source σ) (serves : Refusing.Serves Embedded.service service)
    (settings : SyncSettings) (s : σ) (t : Refusing Embedded) :
    let run := runCycle source service settings s t
    run.store.inner.tables.payloads = t.inner.tables.payloads ++
      (run.trace.filterMap Event.accepted?).map (payloadRow settings.key) := by
  intro run
  obtain ⟨-, hperformed, horderly, -⟩ := runCycle_orderly source service settings s t
  exact hperformed.payloads serves horderly.keys

end AssetSync
