/-
What the chunks of a text hold.

An overlap below the chunk size makes the loop one over windows, a stride apart, and with an
overlap that is not negative the stride is at most the size.  With a larger overlap the loop is
left after the first chunk.  To say where a chunk stands, the characters are numbered first: the
loop does not look at them, so it cuts the numbered text as it cuts the text.
-/
import GaiaOS.Workers.LiteratureIngestionJob
import GaiaOS.Lib.Windows

namespace GaiaOS

namespace LiteratureIngestion

variable {α β : Type} {text : List α} {chunkSize chunkOverlap : Int}

/-! ### The loop -/

theorem slice_eq (text : List α) (start size : Nat) :
    slice text start (start + size) = (text.drop start).take size := by
  unfold slice
  rw [List.drop_take]
  congr 1
  omega

/-- With a stride the loop cuts windows. -/
theorem chunkLoop_eq_windows (text : List α) (size step start : Nat) :
    chunkLoop text size (size - (step + 1)) start =
      Windows.windows size step (text.drop start) := by
  induction hrest : text.length - start using Nat.strong_induction_on generalizing start with
  | _ rest ih =>
      unfold chunkLoop
      by_cases hstart : start < text.length
      · have hne : text.drop start ≠ [] := by
          rw [Ne, List.drop_eq_nil_iff]
          omega
        have hnext : (start : Int) + (size - (size - (step + 1))) =
            ((start + (step + 1) : Nat) : Int) := by
          push_cast
          ring
        rw [if_pos (by exact_mod_cast hstart), Windows.windows_of_ne_nil hne, List.drop_drop]
        simp only [hnext]
        rw [slice_eq]
        congr 1
        by_cases hout : text.length ≤ start + (step + 1)
        · rw [if_pos (.inl (by exact_mod_cast hout)), List.drop_eq_nil_of_le hout,
            Windows.windows_nil]
        · rw [if_neg (by omega)]
          exact ih _ (by omega) _ rfl
      · rw [if_neg (by exact_mod_cast hstart), List.drop_eq_nil_of_le (by omega),
          Windows.windows_nil]

/-- An overlap below the size is a stride. -/
theorem chunkText_eq_windows (hsize : 0 < chunkSize) (hoverlap : chunkOverlap < chunkSize) :
    chunkText text chunkSize chunkOverlap =
      Windows.windows chunkSize.toNat (chunkSize - chunkOverlap - 1).toNat text := by
  have hloop := chunkLoop_eq_windows text chunkSize.toNat (chunkSize - chunkOverlap - 1).toNat 0
  have hs : (chunkSize.toNat : Int) = chunkSize := by omega
  have ho : (chunkSize.toNat : Int) - (((chunkSize - chunkOverlap - 1).toNat : Int) + 1) =
      chunkOverlap := by omega
  rw [ho, hs, List.drop_zero] at hloop
  unfold chunkText
  rw [if_neg (by omega)]
  exact hloop

/-- With a larger overlap the loop is left after a chunk. -/
theorem chunkText_eq_first (hsize : 0 < chunkSize) (hoverlap : chunkSize ≤ chunkOverlap)
    (hne : text ≠ []) :
    chunkText text chunkSize chunkOverlap = [text.take chunkSize.toNat] := by
  unfold chunkText chunkLoop
  rw [if_neg (by omega), if_pos (by exact_mod_cast List.length_pos_of_ne_nil hne)]
  dsimp only
  rw [if_pos (.inr hoverlap)]
  unfold slice
  rw [zero_add]
  rfl

theorem chunkText_nil (hsize : 0 < chunkSize) :
    chunkText ([] : List α) chunkSize chunkOverlap = [] := by
  unfold chunkText chunkLoop
  rw [if_neg (by omega), if_neg (by simp)]

theorem chunkText_whole (hsize : chunkSize ≤ 0) : chunkText text chunkSize chunkOverlap = [text] :=
  if_pos hsize

/-- The three ways a text is cut. -/
theorem chunkText_cases (chunkSize chunkOverlap : Int) :
    chunkSize ≤ 0 ∨ (0 < chunkSize ∧ chunkSize ≤ chunkOverlap) ∨
      (0 < chunkSize ∧ chunkOverlap < chunkSize) := by
  omega

/-- The loop does not look at the characters. -/
theorem chunkText_map (f : α → β) (text : List α) (chunkSize chunkOverlap : Int) :
    chunkText (text.map f) chunkSize chunkOverlap =
      (chunkText text chunkSize chunkOverlap).map (List.map f) := by
  rcases chunkText_cases chunkSize chunkOverlap with hsize | ⟨hsize, hlarge⟩ | ⟨hsize, hlt⟩
  · rw [chunkText_whole hsize, chunkText_whole hsize]
    rfl
  · by_cases hne : text = []
    · rw [hne, List.map_nil, chunkText_nil hsize, chunkText_nil hsize, List.map_nil]
    · rw [chunkText_eq_first hsize hlarge (by simpa using hne),
        chunkText_eq_first hsize hlarge hne, ← List.map_take]
      rfl
  · rw [chunkText_eq_windows hsize hlt, chunkText_eq_windows hsize hlt, Windows.windows_map]

/-! ### Positions -/

/-- The chunks of the text with its characters numbered. -/
def numberedChunks (text : List α) (chunkSize chunkOverlap : Int) : List (List (α × Nat)) :=
  chunkText text.zipIdx chunkSize chunkOverlap

/-- Some chunk holds the character at a position. -/
def Holds (text : List α) (chunkSize chunkOverlap : Int) (p : Nat) : Prop :=
  ∃ chunk ∈ numberedChunks text chunkSize chunkOverlap, p ∈ chunk.map Prod.snd

theorem nodup_zipIdx (text : List α) : text.zipIdx.Nodup := by
  refine List.Nodup.of_map Prod.snd ?_
  rw [List.zipIdx_map_snd]
  exact List.nodup_range'

theorem mem_zipIdx_self {p : Nat} (hp : p < text.length) : (text[p], p) ∈ text.zipIdx :=
  List.mem_iff_getElem.mpr ⟨p, by simpa using hp, by simp⟩

theorem holds_of_mem {p : Nat} {c : α} {chunk : List (α × Nat)}
    (hchunk : chunk ∈ numberedChunks text chunkSize chunkOverlap) (hmem : (c, p) ∈ chunk) :
    Holds text chunkSize chunkOverlap p :=
  ⟨chunk, hchunk, List.mem_map.mpr ⟨_, hmem, rfl⟩⟩

/-- The numbered chunks are the chunks. -/
theorem numberedChunks_fst (text : List α) (chunkSize chunkOverlap : Int) :
    (numberedChunks text chunkSize chunkOverlap).map (List.map Prod.fst) =
      chunkText text chunkSize chunkOverlap := by
  unfold numberedChunks
  rw [← chunkText_map, List.zipIdx_map_fst]

/-- A text that fits into the first chunk is held by it. -/
theorem holds_of_fits (hsize : 0 < chunkSize) (hfits : text.length ≤ chunkSize) {p : Nat}
    (hp : p < text.length) : Holds text chunkSize chunkOverlap p := by
  have hne : text.zipIdx ≠ [] := List.ne_nil_of_mem (mem_zipIdx_self hp)
  have hfirst : text.zipIdx.take chunkSize.toNat = text.zipIdx :=
    List.take_of_length_le (by rw [List.length_zipIdx]; omega)
  refine ⟨text.zipIdx, ?_, List.mem_map.mpr ⟨_, mem_zipIdx_self hp, rfl⟩⟩
  unfold numberedChunks
  by_cases hlt : chunkOverlap < chunkSize
  · rw [chunkText_eq_windows hsize hlt, Windows.windows_of_ne_nil hne, hfirst]
    exact List.mem_cons_self
  · rw [chunkText_eq_first hsize (not_lt.mp hlt) hne, hfirst]
    exact List.mem_cons_self

/-- What is behind the first chunk is lost, if the loop is left there. -/
theorem not_holds_of_large (hsize : 0 < chunkSize) (hlarge : chunkSize ≤ chunkOverlap)
    (hlong : chunkSize < text.length) : ¬ Holds text chunkSize chunkOverlap chunkSize.toNat := by
  rintro ⟨chunk, hchunk, hmem⟩
  have hne : text.zipIdx ≠ [] := by
    rw [← List.length_pos_iff, List.length_zipIdx]
    omega
  unfold numberedChunks at hchunk
  rw [chunkText_eq_first hsize hlarge hne, List.mem_singleton] at hchunk
  rw [hchunk, List.map_take, List.zipIdx_map_snd, List.mem_take_iff_getElem] at hmem
  obtain ⟨i, hi, hget⟩ := hmem
  rw [List.getElem_range'] at hget
  omega

/-- The character behind the first chunk is lost, if the next one starts behind it. -/
theorem not_holds_of_gap (hsize : 0 < chunkSize) (hgap : chunkOverlap < 0)
    (hlong : chunkSize < text.length) : ¬ Holds text chunkSize chunkOverlap chunkSize.toNat := by
  rintro ⟨chunk, hchunk, hmem⟩
  obtain ⟨⟨c, p⟩, hc, rfl⟩ := List.mem_map.mp hmem
  have hlt : chunkSize.toNat < text.zipIdx.length := by
    rw [List.length_zipIdx]
    omega
  unfold numberedChunks at hchunk
  rw [chunkText_eq_windows hsize (by omega)] at hchunk
  refine Windows.not_mem_windows_of_gap (nodup_zipIdx text) (by omega) hlt hchunk ?_
  have hin := Windows.mem_of_mem_windows hchunk hc
  rw [List.mk_mem_zipIdx_iff_getElem?] at hin
  obtain ⟨hp, hget⟩ := List.getElem?_eq_some_iff.mp hin
  rw [List.getElem_zipIdx, Nat.zero_add, hget]
  exact hc

/-- When every position is held. -/
theorem holds_all_iff (text : List α) (chunkSize chunkOverlap : Int) :
    (∀ p < text.length, Holds text chunkSize chunkOverlap p) ↔
      chunkSize ≤ 0 ∨ (0 ≤ chunkOverlap ∧ chunkOverlap < chunkSize) ∨
        text.length ≤ chunkSize := by
  rcases lt_or_ge 0 chunkSize with hsize | hsize
  · rcases le_or_gt (text.length : Int) chunkSize with hfits | hlong
    · exact ⟨fun _ => .inr (.inr hfits), fun _ p hp => holds_of_fits hsize hfits hp⟩
    have hbehind : chunkSize.toNat < text.length := by omega
    by_cases hlarge : chunkSize ≤ chunkOverlap
    · exact ⟨fun h => absurd (h _ hbehind) (not_holds_of_large hsize hlarge hlong),
        fun h => by omega⟩
    by_cases hgap : chunkOverlap < 0
    · exact ⟨fun h => absurd (h _ hbehind) (not_holds_of_gap hsize hgap hlong),
        fun h => by omega⟩
    · refine ⟨fun _ => .inr (.inl ⟨by omega, by omega⟩), fun _ p hp => ?_⟩
      have hstep : (chunkSize - chunkOverlap - 1).toNat + 1 ≤ chunkSize.toNat := by omega
      obtain ⟨chunk, hchunk, hmem⟩ := Windows.exists_mem_windows hstep (mem_zipIdx_self hp)
      refine holds_of_mem ?_ hmem
      unfold numberedChunks
      rw [chunkText_eq_windows hsize (by omega)]
      exact hchunk
  · refine ⟨fun _ => .inl hsize, fun _ p hp => holds_of_mem ?_ (mem_zipIdx_self hp)⟩
    unfold numberedChunks
    rw [chunkText_whole hsize]
    exact List.mem_cons_self

/-! ### The text from its chunks -/

/-- A loop makes no more chunks than there are characters. -/
theorem length_chunkText_le (text : List α) (chunkSize chunkOverlap : Int) :
    (chunkText text chunkSize chunkOverlap).length ≤ max 1 text.length := by
  rcases chunkText_cases chunkSize chunkOverlap with hsize | ⟨hsize, hlarge⟩ | ⟨hsize, hlt⟩
  · rw [chunkText_whole hsize]
    exact le_max_left 1 _
  · by_cases hne : text = []
    · rw [hne, chunkText_nil hsize]
      exact Nat.zero_le _
    · rw [chunkText_eq_first hsize hlarge hne]
      exact le_max_left 1 _
  · rw [chunkText_eq_windows hsize hlt]
    exact (Windows.length_windows_le _).trans (le_max_right 1 _)

/-- The text is the first chunk and what is behind the overlap in each later one. -/
theorem rejoin_chunkText (h0 : 0 ≤ chunkOverlap) (hlt : chunkOverlap < chunkSize) :
    Windows.rejoin chunkOverlap.toNat (chunkText text chunkSize chunkOverlap) = text := by
  have hoverlap : chunkOverlap.toNat =
      chunkSize.toNat - ((chunkSize - chunkOverlap - 1).toNat + 1) := by omega
  rw [chunkText_eq_windows (by omega) hlt, hoverlap]
  exact Windows.rejoin_windows (by omega) text

/--
**What chunking keeps of a text.**  For any integers the loop ends, with at most as many chunks as
there are characters, or with one.  Every position is in a chunk exactly if the text is not cut,
fits into a chunk, or is cut with an overlap from zero to below the chunk size; and then the text
is the first chunk followed by the later ones without their first `chunkOverlap` characters.  With
an overlap of the chunk size or more, the loop is left after the first chunk.
-/
theorem chunk_text_keeps_text (text : List Char) (chunkSize chunkOverlap : Int) :
    (chunkText text chunkSize chunkOverlap).length ≤ max 1 text.length ∧
    (numberedChunks text chunkSize chunkOverlap).map (List.map Prod.fst) =
      chunkText text chunkSize chunkOverlap ∧
    ((∀ p < text.length, Holds text chunkSize chunkOverlap p) ↔
      chunkSize ≤ 0 ∨ (0 ≤ chunkOverlap ∧ chunkOverlap < chunkSize) ∨
        text.length ≤ chunkSize) ∧
    (0 ≤ chunkOverlap ∧ chunkOverlap < chunkSize →
      Windows.rejoin chunkOverlap.toNat (chunkText text chunkSize chunkOverlap) = text) ∧
    (0 < chunkSize ∧ chunkSize ≤ chunkOverlap ∧ text ≠ [] →
      chunkText text chunkSize chunkOverlap = [text.take chunkSize.toNat]) :=
  ⟨length_chunkText_le text chunkSize chunkOverlap, numberedChunks_fst text chunkSize chunkOverlap,
    holds_all_iff text chunkSize chunkOverlap, fun h => rejoin_chunkText h.1 h.2,
    fun h => chunkText_eq_first h.1 h.2.1 h.2.2⟩

/-- With an overlap of the chunk size the third character of a text of three is lost. -/
theorem chunk_text_drops_the_rest :
    chunkText "abc".toList 2 2 = ["ab".toList] ∧ ¬ Holds "abc".toList 2 2 2 :=
  ⟨chunkText_eq_first (by decide) (by decide) (by decide),
    not_holds_of_large (by decide) (by decide) (by decide)⟩

end LiteratureIngestion

end GaiaOS
