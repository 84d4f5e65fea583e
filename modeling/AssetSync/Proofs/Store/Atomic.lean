import AssetSync.Proofs.Store.Ledger
import AssetSync.Store.Refusing
import AssetSync.Store.Server

namespace AssetSync

namespace Embedded

variable {α : Type} {table : TableName} {db db' : Embedded}

theorem query_answer {answer : Tables → Except StoreError α} {result : Except StoreError α}
    (h : query table answer db = (result, db')) :
    db' = db ∧ ∀ value, result = .ok value → answer db.tables = .ok value := by
  unfold query at h
  split at h
  · obtain ⟨rfl, rfl⟩ := Prod.mk.inj h
    exact ⟨rfl, by simp⟩
  · obtain ⟨rfl, rfl⟩ := Prod.mk.inj h
    exact ⟨rfl, fun _ hvalue => hvalue⟩

theorem execute_answer {change : Tables → Tables} {result : Except StoreError Unit}
    (h : execute table change db = (result, db')) :
    (db' = db ∧ result ≠ .ok ()) ∨
      (db' = { db with tables := change db.tables } ∧ result = .ok ()) := by
  unfold execute at h
  split at h
  · obtain ⟨rfl, rfl⟩ := Prod.mk.inj h
    exact .inl ⟨rfl, by simp⟩
  · obtain ⟨rfl, rfl⟩ := Prod.mk.inj h
    exact .inr ⟨rfl, rfl⟩

theorem writeStates_ledger {key : SyncerKey} {rejected : List AssetId} {assets : List Asset}
    {tables written : Tables} (h : writeStates key rejected assets tables = .ok written) :
    written.ledger = tables.ledger.putStates key assets := by
  induction assets generalizing tables with
  | nil => exact congrArg Tables.ledger (Except.ok.inj h).symm
  | cons asset rest ih =>
    unfold writeStates at h
    split at h
    · cases h
    · exact ih h

theorem saveStates_answer {key : SyncerKey} {assets : List Asset} {result : Except StoreError Unit}
    (h : saveStates key assets db = (result, db')) :
    (db' = db ∧ result ≠ .ok ()) ∨
      (db'.tables.ledger = db.tables.ledger.putStates key assets ∧ db'.missing = db.missing ∧
        result = .ok ()) := by
  unfold saveStates at h
  split at h
  · rename_i hempty
    obtain ⟨rfl, rfl⟩ := Prod.mk.inj h
    obtain rfl := List.isEmpty_iff.mp hempty
    exact .inr ⟨rfl, rfl, rfl⟩
  split at h
  · obtain ⟨rfl, rfl⟩ := Prod.mk.inj h
    exact .inl ⟨rfl, by simp⟩
  split at h
  · rename_i hwritten
    obtain ⟨rfl, rfl⟩ := Prod.mk.inj h
    exact .inr ⟨writeStates_ledger hwritten, rfl, rfl⟩
  · obtain ⟨rfl, rfl⟩ := Prod.mk.inj h
    exact .inl ⟨rfl, by simp⟩

theorem holds_of_checkpoint {tables : Tables} {key : SyncerKey} {found : Option Checkpoint}
    (h : (tables.cursors.find? (·.key == key)).mapM checkpoint = .ok found) :
    tables.ledger.Holds key found := by
  rcases hrow : tables.cursors.find? (·.key == key) with _ | row
  · rw [hrow] at h
    obtain rfl := Except.ok.inj h
    exact Ledger.holds_none_iff.mpr hrow
  · rw [hrow] at h
    simp only [Option.mapM_some, checkpoint] at h
    rcases hparse : Json.parse row.cursorText with _ | cursor
    · rw [hparse] at h
      cases h
    · rw [hparse] at h
      rcases hlabel : CursorLabel.ofName? row.label with _ | label
      · simp only [hlabel] at h
        cases h
      · simp only [hlabel] at h
        obtain rfl := Except.ok.inj h
        exact Ledger.holds_iff.mpr ⟨row, hrow, hparse, hlabel⟩

theorem service_atomic (now : String) : (service now).Atomic fun db => db.tables.ledger := by
  refine .of fun h => ?_
  cases h with
  | loadCheckpoint h =>
    simp only [service] at h
    obtain ⟨rfl, hfound⟩ := query_answer h
    exact ⟨⟨rfl, fun found hok => holds_of_checkpoint (hfound found hok)⟩, fun _ => rfl⟩
  | loadActive h =>
    simp only [service] at h
    obtain ⟨rfl, hrecords⟩ := query_answer h
    refine ⟨⟨rfl, fun records hok => ?_⟩, fun _ => rfl⟩
    rw [← Except.ok.inj (hrecords records hok), Ledger.openRecords, Ledger.rows,
      List.filter_filter]
    simp only [Tables.ledger, Bool.and_comm]
  | savePayload h =>
    simp only [service] at h
    obtain ⟨rfl, -⟩ | ⟨rfl, -⟩ := execute_answer h
    · exact ⟨rfl, fun _ => rfl⟩
    · exact ⟨rfl, fun _ => rfl⟩
  | saveStates h =>
    obtain ⟨rfl, hfailed⟩ | ⟨hledger, -, rfl⟩ := saveStates_answer h
    · exact ⟨⟨[], List.nil_sublist _, fun hok => absurd hok hfailed, rfl⟩, fun _ => rfl⟩
    · exact ⟨⟨_, List.Sublist.refl _, fun _ => rfl, hledger⟩, False.elim⟩
  | saveCursor h =>
    simp only [service] at h
    obtain ⟨rfl, hfailed⟩ | ⟨rfl, rfl⟩ := execute_answer h
    · exact ⟨.inl ⟨rfl, hfailed⟩, fun _ => rfl⟩
    · exact ⟨.inr ⟨now, rfl⟩, False.elim⟩
  | recordCycle h =>
    simp only [service] at h
    obtain ⟨rfl, -⟩ | ⟨rfl, -⟩ := execute_answer h
    · exact ⟨rfl, False.elim⟩
    · exact ⟨rfl, False.elim⟩

theorem answers_missing {now : String} {call : Event} (h : (service now).Answers call db db') :
    db'.missing = db.missing ∧
      ∀ key records, call = .loadActive key (.ok records) → .states ∉ db.missing := by
  cases h with
  | loadCheckpoint h =>
    simp only [service] at h
    exact ⟨by rw [(query_answer h).1], by simp⟩
  | loadActive h =>
    simp only [service] at h
    refine ⟨by rw [(query_answer h).1], ?_⟩
    rintro key records ⟨⟩ hmissing
    simp [query, hmissing] at h
  | savePayload h | saveCursor h | recordCycle h =>
    simp only [service] at h
    obtain ⟨rfl, -⟩ | ⟨rfl, -⟩ := execute_answer h <;> exact ⟨rfl, by simp⟩
  | saveStates h =>
    obtain ⟨rfl, -⟩ | ⟨-, hmissing, -⟩ := saveStates_answer h
    · exact ⟨rfl, by simp⟩
    · exact ⟨hmissing, by simp⟩

end Embedded

namespace Server

variable {server server' : Server}

theorem statement_answer {α : Type} {run : Tables → Except StoreError α × Tables}
    {result : Except StoreError α} (h : statement run server = (result, server')) :
    (server'.tables = server.tables ∧ ∃ e, result = .error e) ∨
      (result, server'.tables) = run server.tables := by
  unfold statement at h
  simp only at h
  split at h
  · obtain ⟨rfl, rfl⟩ := Prod.mk.inj h
    exact .inl ⟨rfl, _, rfl⟩
  split at h
  · obtain ⟨rfl, rfl⟩ := Prod.mk.inj h
    exact .inl ⟨rfl, _, rfl⟩
  · obtain ⟨rfl, rfl⟩ := Prod.mk.inj h
    exact .inr rfl

theorem query_answer {α : Type} {answer : Tables → Except StoreError α}
    {result : Except StoreError α} (h : query answer server = (result, server')) :
    server'.tables = server.tables ∧
      ∀ value, result = .ok value → answer server.tables = .ok value := by
  obtain ⟨htables, e, rfl⟩ | hrun := statement_answer h
  · exact ⟨htables, by simp⟩
  · obtain ⟨rfl, htables⟩ := Prod.mk.inj hrun
    exact ⟨htables, fun _ hvalue => hvalue⟩

theorem update_answer {change : Tables → Tables} {result : Except StoreError Unit}
    (h : update change server = (result, server')) :
    (server'.tables = server.tables ∧ result ≠ .ok ()) ∨
      (server'.tables = change server.tables ∧ result = .ok ()) := by
  obtain ⟨htables, e, rfl⟩ | hrun := statement_answer h
  · exact .inl ⟨htables, by simp⟩
  · obtain ⟨rfl, htables⟩ := Prod.mk.inj hrun
    exact .inr ⟨htables, rfl⟩

theorem executeEach_tables {key : SyncerKey} {assets : List Asset} {tables changed : Tables}
    {faults : List ServerFault} (h : (executeEach key assets tables faults).1 = some changed) :
    changed.ledger = tables.ledger.putStates key assets := by
  induction assets generalizing tables faults with
  | nil => exact congrArg Tables.ledger (Option.some.inj h).symm
  | cons asset rest ih =>
    unfold executeEach at h
    simp only at h
    split at h
    · simp at h
    · exact ih h

theorem saveStates_answer {key : SyncerKey} {assets : List Asset} {result : Except StoreError Unit}
    (h : saveStates key assets server = (result, server')) :
    (server'.tables = server.tables ∧ result ≠ .ok ()) ∨
      (server'.tables.ledger = server.tables.ledger.putStates key assets ∧ result = .ok ()) := by
  unfold saveStates at h
  simp only at h
  split at h
  · rename_i hempty
    obtain ⟨rfl, rfl⟩ := Prod.mk.inj h
    obtain rfl := List.isEmpty_iff.mp hempty
    exact .inr ⟨rfl, rfl⟩
  split at h
  · obtain ⟨rfl, rfl⟩ := Prod.mk.inj h
    exact .inl ⟨rfl, by simp⟩
  split at h
  · obtain ⟨rfl, rfl⟩ := Prod.mk.inj h
    exact .inl ⟨rfl, by simp⟩
  split at h
  · obtain ⟨rfl, rfl⟩ := Prod.mk.inj h
    exact .inl ⟨rfl, by simp⟩
  rename_i hchanged
  split at h
  · obtain ⟨rfl, rfl⟩ := Prod.mk.inj h
    exact .inl ⟨rfl, by simp⟩
  · obtain ⟨rfl, rfl⟩ := Prod.mk.inj h
    exact .inr ⟨executeEach_tables hchanged, rfl⟩

theorem holds_of_checkpointOf {tables : Tables} {key : SyncerKey} {found : Option Checkpoint}
    (h : (match tables.cursors.filter (·.key == key) with
      | [] => Except.ok none
      | row :: _ => (checkpointOf row).map some) = .ok found) :
    tables.ledger.Holds key found := by
  have hfind : (tables.cursors.filter (·.key == key)).head? = tables.cursors.find? (·.key == key) :=
    List.head?_filter
  rcases hrows : tables.cursors.filter (·.key == key) with _ | ⟨row, rest⟩
  · rw [hrows] at h hfind
    obtain rfl := Except.ok.inj h
    exact Ledger.holds_none_iff.mpr hfind.symm
  · rw [hrows] at h hfind
    simp only [checkpointOf] at h
    rcases hparse : Json.parse row.cursorText with _ | cursor
    · simp only [hparse] at h
      cases h
    · rcases hlabel : CursorLabel.ofName? row.label with _ | label
      · simp only [hparse, hlabel] at h
        cases h
      · simp only [hparse, hlabel] at h
        obtain rfl := Except.ok.inj h
        exact Ledger.holds_iff.mpr ⟨row, hfind.symm, hparse, hlabel⟩

theorem service_atomic (now : String) :
    (service now).Atomic fun server => server.tables.ledger := by
  refine .of fun h => ?_
  cases h with
  | loadCheckpoint h =>
    simp only [service] at h
    obtain ⟨htables, hfound⟩ := query_answer h
    rw [htables]
    exact ⟨⟨rfl, fun found hok => holds_of_checkpointOf (hfound found hok)⟩, fun _ => rfl⟩
  | loadActive h =>
    simp only [service] at h
    obtain ⟨htables, hrecords⟩ := query_answer h
    rw [htables]
    exact ⟨⟨rfl, fun records hok => (Except.ok.inj (hrecords records hok)).symm⟩, fun _ => rfl⟩
  | savePayload h =>
    simp only [service] at h
    obtain ⟨htables, -⟩ | ⟨htables, -⟩ := update_answer h <;> rw [htables]
    · exact ⟨rfl, fun _ => rfl⟩
    · exact ⟨rfl, fun _ => rfl⟩
  | saveStates h =>
    obtain ⟨htables, hfailed⟩ | ⟨hledger, rfl⟩ := saveStates_answer h
    · rw [htables]
      exact ⟨⟨[], List.nil_sublist _, fun hok => absurd hok hfailed, rfl⟩, fun _ => rfl⟩
    · exact ⟨⟨_, List.Sublist.refl _, fun _ => rfl, hledger⟩, False.elim⟩
  | saveCursor h =>
    simp only [service] at h
    obtain ⟨htables, hfailed⟩ | ⟨htables, rfl⟩ := update_answer h <;> rw [htables]
    · exact ⟨.inl ⟨rfl, hfailed⟩, fun _ => rfl⟩
    · exact ⟨.inr ⟨now, rfl⟩, False.elim⟩
  | recordCycle h =>
    simp only [service] at h
    obtain ⟨htables, -⟩ | ⟨htables, -⟩ := update_answer h <;> rw [htables]
    · exact ⟨rfl, False.elim⟩
    · exact ⟨rfl, False.elim⟩

end Server

namespace Refusing

variable {τ α : Type}

theorem guard_answer {refusals : Refusals} {call : TrackingCall} {run : StoreCall τ α}
    {s s' : Refusing τ} {result : Except StoreError α}
    (h : guard refusals call run s = (result, s')) :
    (s'.inner = s.inner ∧ ∃ e, result = .error e) ∨ run s.inner = (result, s'.inner) := by
  unfold guard at h
  simp only at h
  split at h
  · obtain ⟨rfl, rfl⟩ := Prod.mk.inj h
    exact .inl ⟨rfl, _, rfl⟩
  · obtain ⟨rfl, rfl⟩ := Prod.mk.inj h
    exact .inr rfl

def Refused : Event → Prop
  | .loadCheckpoint _ (.error _) | .loadActive _ (.error _) | .savePayload _ _ (.error _)
  | .saveStates _ _ (.error _) | .saveCursor _ _ _ (.error _) | .recordCycle _ _ (.error _) => True
  | _ => False

theorem Refused.effect {call : Event} (h : Refused call) (l : Ledger) : call.Effect l l := by
  unfold Refused at h
  split at h
  · exact ⟨rfl, by simp⟩
  · exact ⟨rfl, by simp⟩
  · exact rfl
  · exact ⟨[], List.nil_sublist _, by simp, rfl⟩
  · exact .inl ⟨rfl, by simp⟩
  · exact rfl
  · exact h.elim

variable {behind : TrackingService τ} {ledger : τ → Ledger}

theorem answers_cases {refusals : Refusals} {call : Event} {s s' : Refusing τ}
    (h : (service behind refusals).Answers call s s') :
    behind.Answers call s.inner s'.inner ∨ (s'.inner = s.inner ∧ Refused call) := by
  cases h with
  | loadCheckpoint h =>
    obtain ⟨hinner, e, rfl⟩ | hrun := guard_answer h
    · exact .inr ⟨hinner, trivial⟩
    · exact .inl (.loadCheckpoint hrun)
  | loadActive h =>
    obtain ⟨hinner, e, rfl⟩ | hrun := guard_answer h
    · exact .inr ⟨hinner, trivial⟩
    · exact .inl (.loadActive hrun)
  | savePayload h =>
    obtain ⟨hinner, e, rfl⟩ | hrun := guard_answer h
    · exact .inr ⟨hinner, trivial⟩
    · exact .inl (.savePayload hrun)
  | saveStates h =>
    obtain ⟨hinner, e, rfl⟩ | hrun := guard_answer h
    · exact .inr ⟨hinner, trivial⟩
    · exact .inl (.saveStates hrun)
  | saveCursor h =>
    obtain ⟨hinner, e, rfl⟩ | hrun := guard_answer h
    · exact .inr ⟨hinner, trivial⟩
    · exact .inl (.saveCursor hrun)
  | recordCycle h =>
    obtain ⟨hinner, e, rfl⟩ | hrun := guard_answer h
    · exact .inr ⟨hinner, trivial⟩
    · exact .inl (.recordCycle hrun)

theorem service_atomic (laws : behind.Atomic ledger) (refusals : Refusals) :
    (service behind refusals).Atomic fun s => ledger s.inner where
  effect h := by
    obtain hrun | ⟨hinner, hrefused⟩ := answers_cases h
    · exact laws.effect hrun
    · rw [hinner]
      exact hrefused.effect _
  unchanged h failed := by
    obtain hrun | ⟨hinner, -⟩ := answers_cases h
    · exact laws.unchanged hrun failed
    · rw [hinner]

def Serves (store : String → TrackingService τ) (refusing : TrackingService (Refusing τ)) : Prop :=
  ∃ now refusals, refusing = service (store now) refusals

theorem Serves.atomic {store : String → TrackingService τ} (laws : ∀ now, (store now).Atomic ledger)
    {refusing : TrackingService (Refusing τ)} (h : Serves store refusing) :
    refusing.Atomic fun s => ledger s.inner := by
  obtain ⟨now, refusals, rfl⟩ := h
  exact service_atomic (laws now) refusals

end Refusing

end AssetSync
