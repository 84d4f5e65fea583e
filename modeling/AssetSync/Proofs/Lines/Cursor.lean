import AssetSync.Lines.Pages
import AssetSync.Proofs.Json.RoundTrip

namespace AssetSync

theorem Cursor.parse_text {cursor : Cursor} (h : cursor.count?.isSome) :
    Json.parse cursor.text = .ok cursor := by
  unfold count? at h
  split at h
  · exact Json.parse_text (.integer _ _)
  · cases h

theorem parse_lineCursor (n : Nat) : Json.parse (lineCursor n).text = .ok (lineCursor n) := by
  by_cases h : n < 0x10000000000000000
  · simp only [lineCursor, Integer.ofNat?, h, dite_true]
    exact Json.parse_text (.integer _ _)
  · simp only [lineCursor, Integer.ofNat?, h, dite_false]
    exact Json.parse_text (.null _)

theorem count?_lineCursor {n count : Nat} (h : (lineCursor n).count? = some count) : n = count := by
  by_cases hn : n < 0x10000000000000000
  · simp only [lineCursor, Integer.ofNat?, hn, dite_true, Cursor.count?, Integer.toNat?] at h
    simpa using h
  · simp only [lineCursor, Integer.ofNat?, hn, dite_false, Cursor.count?] at h
    cases h

end AssetSync
