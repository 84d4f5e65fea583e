import AssetSync.Lines.Source
import AssetSync.Proofs.Asset.Ids
import AssetSync.Proofs.Cycle.Trace
import AssetSync.Proofs.Lines.Complete
import AssetSync.Proofs.Lines.Cursor

namespace AssetSync

namespace LinesConfig

variable (config : LinesConfig)

def records (lines : List Line) : List LineRecord :=
  lines.filterMap config.record?

def ids (lines : List Line) : List AssetId :=
  (config.records lines).map LineRecord.id

theorem ids_cons_of_some {config : LinesConfig} {line : Line} {rest : List Line} {r : LineRecord}
    (h : config.record? line = some r) :
    config.ids (line :: rest) = r.id :: config.ids rest := by
  simp [ids, records, h]

theorem ids_cons_of_none {config : LinesConfig} {line : Line} {rest : List Line}
    (h : config.record? line = none) :
    config.ids (line :: rest) = config.ids rest := by
  simp [ids, records, h]

theorem ids_append (lines more : List Line) :
    config.ids (lines ++ more) = config.ids lines ++ config.ids more := by
  simp [ids, records]

theorem ids_subset {config : LinesConfig} {part lines : List Line} (h : part.Sublist lines) :
    config.ids part ⊆ config.ids lines :=
  ((h.filterMap config.record?).map LineRecord.id).subset

theorem foldl_addLine (ids : List AssetId) (lines : List Line) :
    lines.foldl config.addLine ids = addIds ids (config.ids lines) := by
  induction lines generalizing ids with
  | nil => rfl
  | cons line rest ih =>
    rw [List.foldl_cons, ih]
    cases hrecord : config.record? line with
    | none => simp only [addLine, hrecord, ids_cons_of_none hrecord]
    | some r =>
      rw [ids_cons_of_some hrecord, addIds_cons]
      simp [addLine, hrecord, addId]

theorem pagesAfter_eq_cons (size count : Nat) (ids : List AssetId) (begun : Bool)
    (lines : List Line) (h : begun ∨ lines ≠ []) :
    ∃ n ≤ lines.length, (lines ≠ [] → 0 < n) ∧
      config.pagesAfter size count ids begun lines =
        page (addIds ids (config.ids (lines.take n))) (count + n) ::
          config.pagesAfter size (count + n) [] false (lines.drop n) := by
  induction lines generalizing count ids begun with
  | nil =>
    obtain rfl : begun = true := by simpa using h
    exact ⟨0, Nat.le_refl 0, fun hne => absurd rfl hne, rfl⟩
  | cons line rest ih =>
    simp only [pagesAfter]
    split
    · refine ⟨1, by simp, fun _ => Nat.one_pos, ?_⟩
      rw [← foldl_addLine]
      rfl
    · obtain ⟨n, hn, -, hpages⟩ := ih (count + 1) (config.addLine ids line) true (.inl rfl)
      refine ⟨n + 1, by simp [hn], fun _ => Nat.succ_pos n, ?_⟩
      rw [hpages, ← foldl_addLine, ← foldl_addLine, List.take_succ_cons, List.foldl_cons,
        List.drop_succ_cons, Nat.add_assoc, Nat.add_comm 1 n]

def reader : TextReader String := fun _ text => .ok text

def pageIds (lines : List Line) (start next : Nat) : List AssetId :=
  addIds [] (config.ids ((lines.drop start).take (next - start)))

theorem pagesFrom_of_length_le {lines : List Line} {start : Nat} (h : lines.length ≤ start)
    (size : Nat) : config.pagesFrom lines start size = [] := by
  rw [pagesFrom, List.drop_eq_nil_of_le h]
  rfl

theorem pagesFrom_of_lt_length {lines : List Line} {start : Nat} (h : start < lines.length)
    (size : Nat) :
    ∃ next, start < next ∧ next ≤ lines.length ∧
      config.pagesFrom lines start size =
        page (config.pageIds lines start next) next :: config.pagesFrom lines next size := by
  have hrest : (lines.drop start).length = lines.length - start := List.length_drop
  have hne : lines.drop start ≠ [] := by
    apply List.ne_nil_of_length_pos
    omega
  obtain ⟨n, hn, hpos, hpages⟩ :=
    config.pagesAfter_eq_cons (Nat.max size 1) start [] false (lines.drop start) (.inr hne)
  have hpos := hpos hne
  refine ⟨start + n, by omega, by omega, ?_⟩
  rw [pagesFrom, hpages, pagesFrom, pageIds, Nat.add_sub_cancel_left, List.drop_drop]

theorem head?_pages (size : Nat) {text : String} {start : Nat}
    (h : start ≤ (Line.complete text).length)
    (hcount : (lineCursor start).count? = some start) :
    ∃ next, start ≤ next ∧ next ≤ (Line.complete text).length ∧
      (start < (Line.complete text).length → start < next) ∧
      (config.pages reader (lineCursor start) size text).head? =
        if start < next then some (.ok (page (config.pageIds (Line.complete text) start next) next))
        else none := by
  simp only [pages, hcount, readLines, reader, List.head?_map]
  rcases Nat.lt_or_eq_of_le h with hlt | hend
  · obtain ⟨next, hnext, hlast, hpages⟩ := config.pagesFrom_of_lt_length hlt size
    refine ⟨next, Nat.le_of_lt hnext, hlast, fun _ => hnext, ?_⟩
    rw [hpages, if_pos hnext]
    rfl
  · refine ⟨start, Nat.le_refl _, h, fun hlt => absurd hend (Nat.ne_of_lt hlt), ?_⟩
    rw [config.pagesFrom_of_length_le (Nat.le_of_eq hend.symm), if_neg (Nat.lt_irrefl _)]
    rfl

theorem discovery_pages (size : Nat) {text : String} {start : Nat}
    (h : start ≤ (Line.complete text).length) :
    ∃ next, start ≤ next ∧ next ≤ (Line.complete text).length ∧
      Cycle.discovery (lineCursor start)
          (config.pages reader (lineCursor start) size text).head? =
        ((config.pageIds (Line.complete text) start next).map .discovered, lineCursor next) := by
  cases hcount : (lineCursor start).count? with
  | none =>
    refine ⟨start, Nat.le_refl _, h, ?_⟩
    simp [pages, hcount, Cycle.discovery, pageIds, ids, records]
  | some count =>
    obtain rfl := count?_lineCursor hcount
    obtain ⟨next, hstart, hnext, -, hpage⟩ := config.head?_pages size h hcount
    refine ⟨next, hstart, hnext, ?_⟩
    rw [hpage]
    split
    · rfl
    · obtain rfl : next = start := by omega
      simp [Cycle.discovery, pageIds, ids, records]

end LinesConfig

end AssetSync
