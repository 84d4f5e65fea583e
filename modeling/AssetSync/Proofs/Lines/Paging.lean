import AssetSync.Proofs.Lines.Pages

namespace AssetSync

namespace LinesConfig

variable (config : LinesConfig)

@[simp] theorem ids_page (ids : List AssetId) (count : Nat) : (page ids count).batch.ids = ids := by
  simp [page, Batch.pending, Batch.ids, Asset.discovered, Function.comp_def]

theorem length_addLine_le (ids : List AssetId) (line : Line) :
    (config.addLine ids line).length ≤ ids.length + 1 := by
  unfold addLine
  split
  · split
    · exact Nat.le_succ _
    · simp
  · exact Nat.le_succ _

structure Paged (size : Nat) (whole last : List Page) : Prop where
  full : ∀ p ∈ whole, p.batch.ids.length = size
  single : last.length ≤ 1
  short : ∀ p ∈ last, p.batch.ids.length < size

namespace Paged

variable {size : Nat} {whole last : List Page}

theorem cons {p : Page} (h : Paged size whole last) (hfull : p.batch.ids.length = size) :
    Paged size (p :: whole) last where
  full other hother := by
    rcases List.mem_cons.mp hother with rfl | hmem
    · exact hfull
    · exact h.full other hmem
  single := h.single
  short := h.short

theorem length_le (h : Paged size whole last) :
    ∀ p ∈ whole ++ last, p.batch.ids.length ≤ size := by
  intro p hp
  rcases List.mem_append.mp hp with hwhole | hlast
  · exact Nat.le_of_eq (h.full p hwhole)
  · exact Nat.le_of_lt (h.short p hlast)

theorem length_of_mem_dropLast (h : Paged size whole last) :
    ∀ p ∈ (whole ++ last).dropLast, p.batch.ids.length = size := by
  intro p hp
  apply h.full
  match last, h.single with
  | [], _ =>
    rw [List.append_nil] at hp
    exact List.dropLast_subset _ hp
  | [_], _ => rwa [List.dropLast_concat] at hp

theorem filter_full (h : Paged size whole last) :
    (whole ++ last).filter (·.batch.ids.length = size) = whole := by
  have hwhole : whole.filter (·.batch.ids.length = size) = whole :=
    List.filter_eq_self.mpr fun p hp => decide_eq_true (h.full p hp)
  have hlast : last.filter (·.batch.ids.length = size) = [] :=
    List.filter_eq_nil_iff.mpr fun p hp => by simpa using Nat.ne_of_lt (h.short p hp)
  rw [List.filter_append, hwhole, hlast, List.append_nil]

end Paged

theorem pagesAfter_paged {size : Nat} (count : Nat) {ids : List AssetId} (begun : Bool)
    (lines : List Line) (h : ids.length < size) :
    ∃ whole last, config.pagesAfter size count ids begun lines = whole ++ last ∧
      Paged size whole last ∧
      ∀ more, whole <+: config.pagesAfter size count ids begun (lines ++ more) := by
  induction lines generalizing count ids begun with
  | nil =>
    refine ⟨[], config.pagesAfter size count ids begun [], rfl, ?_, fun _ => List.nil_prefix⟩
    cases begun with
    | false => exact ⟨by simp, by simp [pagesAfter], by simp [pagesAfter]⟩
    | true => exact ⟨by simp, by simp [pagesAfter], by simpa [pagesAfter] using h⟩
  | cons line rest ih =>
    by_cases hfull : (config.addLine ids line).length = size
    · have hpos : ([] : List AssetId).length < size := Nat.lt_of_le_of_lt (Nat.zero_le _) h
      obtain ⟨whole, last, hpages, hpaged, hmore⟩ := ih (count + 1) false hpos
      have hlength : (page (config.addLine ids line) (count + 1)).batch.ids.length = size := by
        rw [ids_page, hfull]
      refine ⟨page (config.addLine ids line) (count + 1) :: whole, last, ?_, hpaged.cons hlength,
        fun more => ?_⟩
      · simp only [pagesAfter, if_pos hfull, hpages, List.cons_append]
      · simp only [List.cons_append, pagesAfter, if_pos hfull]
        exact List.cons_prefix_cons.mpr ⟨rfl, hmore more⟩
    · have hlength := config.length_addLine_le ids line
      have hroom : (config.addLine ids line).length < size := by omega
      obtain ⟨whole, last, hpages, hpaged, hmore⟩ := ih (count + 1) true hroom
      refine ⟨whole, last, ?_, hpaged, fun more => ?_⟩
      · simp only [pagesAfter, if_neg hfull, hpages]
      · simp only [List.cons_append, pagesAfter, if_neg hfull]
        exact hmore more

theorem pages_resumable (config : LinesConfig) (lines : List Line) (start size : Nat) :
    let most := Nat.max size 1
    let pages := config.pagesFrom lines start size
    (pages = [] ↔ lines.length ≤ start) ∧
      (start < lines.length → ∃ p next, start < next ∧ next ≤ lines.length ∧
        p.nextCursor = lineCursor next ∧ p.batch.data = none ∧
        p.batch.assets =
          (config.ids ((lines.drop start).take (next - start))).eraseDups.map (⟨·, .init, 0⟩) ∧
        pages = p :: config.pagesFrom lines next size) ∧
      (∀ p ∈ pages, p.batch.ids.length ≤ most) ∧
      (∀ p ∈ pages.dropLast, p.batch.ids.length = most) ∧
      ∀ more, pages.filter (·.batch.ids.length = most) <+:
        config.pagesFrom (lines ++ more) start size := by
  intro most pages
  have hmost : ([] : List AssetId).length < most := Nat.le_max_right size 1
  obtain ⟨whole, last, hpages, hpaged, hmore⟩ :=
    config.pagesAfter_paged start false (lines.drop start) hmost
  have hsplit : pages = whole ++ last := hpages
  refine ⟨⟨fun hnil => ?_, fun hle => config.pagesFrom_of_length_le hle size⟩, fun hlt => ?_, ?_, ?_,
    fun more => ?_⟩
  · apply Nat.le_of_not_lt
    intro hlt
    obtain ⟨next, -, -, hcons⟩ := config.pagesFrom_of_lt_length hlt size
    exact List.cons_ne_nil _ _ (hcons.symm.trans hnil)
  · obtain ⟨next, hnext, hend, hcons⟩ := config.pagesFrom_of_lt_length hlt size
    refine ⟨_, next, hnext, hend, rfl, rfl, ?_, hcons⟩
    rw [← addIds_nil_left]
    rfl
  · rw [hsplit]
    exact hpaged.length_le
  · rw [hsplit]
    exact hpaged.length_of_mem_dropLast
  · rw [hsplit, hpaged.filter_full, pagesFrom, List.drop_append]
    exact hmore _

theorem pages_resumable_second :
    let config : LinesConfig := ⟨"assets", .fileBeginning, ["done"], "id", "state"⟩
    let lines := Line.complete
      "\x7b\"id\":1\x7d\n\x7b\"id\":\"1\"\x7d\nunusable\n\x7b\"id\":2\x7d\n\x7b\"id\":1\x7d\n"
    0 < lines.length ∧ ∃ p, p.batch.ids = ["1", "2"] ∧ p.nextCursor = lineCursor 4 ∧
      config.pagesFrom lines 0 2 = p :: config.pagesFrom lines 4 2 ∧
      (config.pagesFrom lines 4 2).map (·.batch.ids) = [["1"]] ∧
      ∀ more, [p] <+: config.pagesFrom (lines ++ more) 0 2 := by
  intro config lines
  have hlines : 0 < lines.length := by decide +kernel
  have hids : (config.pagesFrom lines 0 2).map (·.batch.ids) = [["1", "2"], ["1"]] := by
    decide +kernel
  have hcursors : (config.pagesFrom lines 0 2).map (·.nextCursor.count?) = [some 4, some 5] := by
    decide +kernel
  obtain ⟨-, hfirst, -, -, hmore⟩ := pages_resumable config lines 0 2
  obtain ⟨p, next, -, -, hcursor, -, -, hpages⟩ := hfirst hlines
  rw [hpages, List.map_cons, List.cons.injEq] at hids hcursors
  obtain rfl : next = 4 := by
    rw [hcursor] at hcursors
    exact count?_lineCursor hcursors.1
  refine ⟨hlines, p, hids.1, hcursor, hpages, hids.2, fun more => ?_⟩
  have hfull : [p] <+: (config.pagesFrom lines 0 2).filter (·.batch.ids.length = Nat.max 2 1) := by
    rw [hpages, List.filter_cons_of_pos (by simp [hids.1])]
    exact List.prefix_append [p] _
  exact hfull.trans (hmore more)

end LinesConfig

end AssetSync
