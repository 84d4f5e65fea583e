import AssetSync.Proofs.Lines.Pages
import Mathlib.Tactic.Choose

namespace AssetSync

open AssetSync.Cycle

/-- The contents of a file that text is appended to, with no more lines than a cursor counts. -/
structure GrowingFile where
  text : Nat → String
  grows (i : Nat) : ∃ more, text (i + 1) = text i ++ more
  countable (i : Nat) : (Line.complete (text i)).length < 0x10000000000000000

namespace GrowingFile

variable (file : GrowingFile)

def lines (i : Nat) : List Line :=
  Line.complete (file.text i)

theorem lines_prefix {i n : Nat} (h : i ≤ n) : file.lines i <+: file.lines n := by
  induction n, h using Nat.le_induction with
  | base => exact List.prefix_rfl
  | succ n _ ih =>
    obtain ⟨more, hmore⟩ := file.grows n
    obtain ⟨added, hadded⟩ := Line.complete_append (file.text n) more
    refine ih.trans ⟨added, ?_⟩
    rw [lines, lines, hmore, hadded]

theorem length_lines_le {i n : Nat} (h : i ≤ n) : (file.lines i).length ≤ (file.lines n).length :=
  (file.lines_prefix h).length_le

def ofParts (text more : String)
    (h : (Line.complete (text ++ more)).length < 0x10000000000000000) : GrowingFile where
  text i := if i = 0 then text else text ++ more
  grows i := by
    cases i with
    | zero => exact ⟨more, rfl⟩
    | succ i => exact ⟨"", by simp⟩
  countable i := by
    cases i with
    | zero =>
      obtain ⟨added, hadded⟩ := Line.complete_append text more
      rw [hadded, List.length_append] at h
      exact Nat.lt_of_le_of_lt (Nat.le_add_right _ _) h
    | succ i => exact h

end GrowingFile

theorem drop_take_of_prefix {α : Type} {part whole : List α} (h : part <+: whole) {start next : Nat}
    (hstart : start ≤ next) (hnext : next ≤ part.length) :
    (whole.drop start).take (next - start) = (part.drop start).take (next - start) := by
  obtain ⟨added, rfl⟩ := h
  rw [List.drop_append_of_le_length (hstart.trans hnext), List.take_append_of_le_length]
  rw [List.length_drop]
  omega

theorem flatMap_range_parts {α : Type} (xs : List α) {k : Nat → Nat} (n : Nat)
    (hk : ∀ i < n, k i ≤ k (i + 1)) :
    ((List.range n).flatMap fun i => (xs.drop (k i)).take (k (i + 1) - k i)) =
        (xs.drop (k 0)).take (k n - k 0) ∧ k 0 ≤ k n := by
  induction n with
  | zero => simp
  | succ n ih =>
    obtain ⟨hparts, hle⟩ := ih fun i hi => hk i (by omega)
    have hlast := hk n (by omega)
    have hsum : k (n + 1) - k 0 = (k n - k 0) + (k (n + 1) - k n) := by omega
    refine ⟨?_, hle.trans hlast⟩
    rw [List.range_succ, List.flatMap_append, hparts, List.flatMap_singleton, hsum, List.take_add,
      List.drop_drop, Nat.add_sub_cancel' hle]

theorem count?_lineCursor_of_lt {n : Nat} (h : n < 0x10000000000000000) :
    (lineCursor n).count? = some n := by
  simp [lineCursor, Integer.ofNat?, h, Cursor.count?, Integer.toNat?]

theorem lineCursor_injective {m n : Nat} (hm : m < 0x10000000000000000)
    (h : lineCursor m = lineCursor n) : m = n := by
  have hcount := count?_lineCursor_of_lt hm
  rw [h] at hcount
  exact (count?_lineCursor hcount).symm

namespace LinesConfig

variable (config : LinesConfig) (file : GrowingFile) (size : Nat) (first : Cursor)

def cursorAt : Nat → Cursor
  | 0 => first
  | i + 1 =>
    (discovery (cursorAt i) (config.pages reader (cursorAt i) size (file.text i)).head?).2

def pageAt? (i : Nat) : Option (Except SourceError Page) :=
  (config.pages reader (config.cursorAt file size first i) size (file.text i)).head?

variable {config file size first} {start : Nat}

theorem cursorAt_succ {i n : Nat} (hcursor : config.cursorAt file size first i = lineCursor n)
    (hn : n ≤ (file.lines i).length) :
    ∃ next, n ≤ next ∧ next ≤ (file.lines i).length ∧
      (n < (file.lines i).length → n < next) ∧
      config.cursorAt file size first (i + 1) = lineCursor next ∧
      config.pageAt? file size first i =
        if n < next then some (.ok (page (config.pageIds (file.lines i) n next) next))
        else none := by
  have hcount := count?_lineCursor_of_lt (Nat.lt_of_le_of_lt hn (file.countable i))
  obtain ⟨next, hle, hend, hpos, hpage⟩ := config.head?_pages size hn hcount
  refine ⟨next, hle, hend, hpos, ?_, ?_⟩
  · rw [cursorAt, hcursor, hpage]
    split
    · rfl
    · obtain rfl : next = n := by omega
      rfl
  · rw [pageAt?, hcursor, hpage]
    rfl

theorem cursorAt_counts (config : LinesConfig) (size : Nat)
    (hstart : start ≤ (file.lines 0).length) (i : Nat) :
    ∃ n ≤ (file.lines i).length, config.cursorAt file size (lineCursor start) i = lineCursor n := by
  induction i with
  | zero => exact ⟨start, hstart, rfl⟩
  | succ i ih =>
    obtain ⟨n, hn, hcursor⟩ := ih
    obtain ⟨next, -, hend, -, hnext, -⟩ := cursorAt_succ hcursor hn
    exact ⟨next, hend.trans (file.length_lines_le (Nat.le_succ i)), hnext⟩

theorem lines_read_once (config : LinesConfig) (file : GrowingFile) (size : Nat) {start : Nat}
    (hstart : start ≤ (file.lines 0).length) :
    ∃ k : Nat → Nat, k 0 = start ∧
      (∀ i, config.cursorAt file size (lineCursor start) i = lineCursor (k i) ∧
        k i ≤ k (i + 1) ∧ k (i + 1) ≤ (file.lines i).length ∧
        (k i < (file.lines i).length → k i < k (i + 1)) ∧
        ∀ n ≥ i, config.pageAt? file size (lineCursor start) i =
          if k i < k (i + 1) then
            some (.ok (page
              (config.ids (((file.lines n).drop (k i)).take (k (i + 1) - k i))).eraseDups
              (k (i + 1))))
          else none) ∧
      ∀ n, ((List.range n).flatMap fun i => ((file.lines n).drop (k i)).take (k (i + 1) - k i)) =
        ((file.lines n).drop start).take (k n - start) := by
  choose k hend hcursor using fun i => cursorAt_counts config size hstart i
  have hsmall : ∀ i, k i < 0x10000000000000000 := fun i =>
    Nat.lt_of_le_of_lt (hend i) (file.countable i)
  have hfirst : k 0 = start := lineCursor_injective (hsmall 0) (hcursor 0).symm
  have hstep : ∀ i, k i ≤ k (i + 1) ∧ k (i + 1) ≤ (file.lines i).length ∧
      (k i < (file.lines i).length → k i < k (i + 1)) ∧
      config.pageAt? file size (lineCursor start) i =
        if k i < k (i + 1) then
          some (.ok (page (config.pageIds (file.lines i) (k i) (k (i + 1))) (k (i + 1))))
        else none := by
    intro i
    obtain ⟨next, hle, hlast, hpos, hnext, hpage⟩ := cursorAt_succ (hcursor i) (hend i)
    obtain rfl : k (i + 1) = next :=
      lineCursor_injective (hsmall (i + 1)) ((hcursor (i + 1)).symm.trans hnext)
    exact ⟨hle, hlast, hpos, hpage⟩
  refine ⟨k, hfirst, fun i => ?_, fun n => ?_⟩
  · obtain ⟨hle, hlast, hpos, hpage⟩ := hstep i
    refine ⟨hcursor i, hle, hlast, hpos, fun n hn => ?_⟩
    have hids := addIds_eraseDups [] (config.ids (((file.lines n).drop (k i)).take (k (i + 1) - k i)))
    rw [hpage, pageIds, ← drop_take_of_prefix (file.lines_prefix hn) hle hlast]
    rw [List.eraseDups_nil, List.nil_append] at hids
    rw [hids]
  · rw [← hfirst]
    exact (flatMap_range_parts (file.lines n) n fun i _ => (hstep i).1).1

theorem lines_read_once_unfinished :
    let config : LinesConfig := ⟨"assets", .fileBeginning, ["done"], "id", "state"⟩
    let file := GrowingFile.ofParts "\x7b\"id\":1\x7d\r\n\x7b\"id\":2" "\x7d\nunusable\n"
      (by decide +kernel)
    0 ≤ (file.lines 0).length ∧
      config.pageAt? file 2 (lineCursor 0) 0 = some (.ok (page ["1"] 1)) ∧
      config.pageAt? file 2 (lineCursor 0) 1 = some (.ok (page ["2"] 3)) ∧
      config.pageAt? file 2 (lineCursor 0) 2 = none := by
  intro config file
  have hstart := Nat.zero_le (file.lines 0).length
  obtain ⟨k, hfirst, hpages, -⟩ := lines_read_once config file 2 hstart
  have hlengths : (file.lines 0).length = 1 ∧ (file.lines 1).length = 3 ∧
      (file.lines 2).length = 3 := by
    decide +kernel
  obtain ⟨-, -, hend, hpos, hpage⟩ := hpages 0
  obtain ⟨-, -, hend', hpos', hpage'⟩ := hpages 1
  obtain ⟨hcursor, -, hend'', -, hpage''⟩ := hpages 2
  simp only [Nat.reduceAdd] at hend hpos hpage hend' hpos' hpage' hend'' hpage''
  have hsecond : k 1 = 1 := by omega
  have hthird : k 2 = 3 := by
    have hcount : (config.cursorAt file 2 (lineCursor 0) 2).count? = some 3 := by decide +kernel
    rw [hcursor, count?_lineCursor_of_lt (by omega)] at hcount
    exact Option.some.inj hcount
  have hids : (config.ids (((file.lines 1).drop 0).take 1)).eraseDups = ["1"] ∧
      (config.ids (((file.lines 1).drop 1).take 2)).eraseDups = ["2"] := by
    decide +kernel
  refine ⟨hstart, ?_, ?_, ?_⟩
  · rw [hpage 1 (by omega), if_pos (by omega), hsecond, hfirst, hids.1]
  · rw [hpage' 1 le_rfl, if_pos (by omega), hthird, hsecond, hids.2]
  · rw [hpage'' 2 le_rfl, if_neg (by omega)]

end LinesConfig

end AssetSync
