import DualSlot.Proofs.Firmware.Header
import DualSlot.Proofs.Text.Utf8

/-!
# The version string of a header

The field of the version string has 16 bytes. A text is cut behind the last byte that fits, filled up with
NUL, and read back up to the first NUL as UTF-8. Whether that gives the longest prefix that fits depends on
the sixteenth byte only: if a character straddles it, nothing at all is read back, however much of the text
would have fitted (`Header.versionText_eq_fitting_iff`).
-/

namespace DualSlot.Header

variable {h : Header} {text : List Char}

theorem toList_field_eq {n : Nat} (bs : List UInt8) :
    (field n bs).toList = bs.take n ++ List.replicate (n - bs.length) 0 := by
  apply List.ext_getElem
  · rw [Vector.length_toList, List.length_append, List.length_take, List.length_replicate]
    omega
  · intro i hleft hright
    rw [Vector.length_toList] at hleft
    by_cases hi : i < bs.length
    · rw [List.getElem_append_left (by rw [List.length_take]; omega)]
      simp [field, patch, hi]
    · rw [List.getElem_append_right (by rw [List.length_take]; omega)]
      simp [field, patch, Nat.le_of_not_lt hi]

/-- Without zero bytes in a string, what stands before the first zero of a field is the string. -/
theorem takeWhile_field {n : Nat} {bs : List UInt8} (hnonzero : ∀ b ∈ bs, b ≠ 0) :
    (field n bs).toList.takeWhile (· != 0) = bs.take n := by
  rw [toList_field_eq, List.takeWhile_append_of_pos]
  · cases n - bs.length with
    | zero => rw [List.replicate_zero, List.takeWhile_nil, List.append_nil]
    | succ count =>
      rw [List.replicate_succ, List.takeWhile_cons_of_neg (by decide), List.append_nil]
  · intro b hb
    exact bne_iff_ne.mpr (hnonzero b (List.mem_of_mem_take hb))

/-- What is read back of a text without NUL is what its first 16 bytes spell. -/
theorem versionText_withVersionString (h : Header) (hnul : '\x00' ∉ text) :
    (h.withVersionString text).versionText
      = (Utf8.decode? ((Utf8.encode text).take versionStringLength)).getD "" := by
  unfold versionText withVersionString
  dsimp only
  rw [takeWhile_field fun b hb => Utf8.ne_zero_of_mem_encode hnul hb]

theorem versionText_of_whole (h : Header) (hnul : '\x00' ∉ text)
    (hwhole : ¬ Utf8.Straddles versionStringLength text) :
    (h.withVersionString text).versionText
      = String.ofList (Utf8.fitting versionStringLength text) := by
  rw [versionText_withVersionString h hnul, Utf8.take_encode_of_whole hwhole, Utf8.decode?_encode]
  rfl

theorem versionText_of_straddles (h : Header) (hnul : '\x00' ∉ text)
    (hstraddles : Utf8.Straddles versionStringLength text) :
    (h.withVersionString text).versionText = "" := by
  rw [versionText_withVersionString h hnul, Utf8.decode?_take_of_straddles hstraddles]
  rfl

/-- A text without NUL is read back as its longest prefix that fits into the field just if no character
straddles the end of the field. If one does, nothing is read back although something would have fitted. In
particular a text that fits is read back as it is. All of this holds of the header as it was set, and after
it was encoded and decoded. -/
theorem versionText_eq_fitting_iff (h : Header) (text : List Char) (hnul : '\x00' ∉ text) :
    let stored := h.withVersionString text
    let kept := Utf8.fitting versionStringLength text
    Utf8.LongestWithin versionStringLength text kept
      ∧ decode stored.encode = stored
      ∧ (stored.versionText = String.ofList kept ↔ ¬ Utf8.Straddles versionStringLength text)
      ∧ (stored.versionText ≠ String.ofList kept → stored.versionText = "" ∧ kept ≠ [])
      ∧ ((Utf8.encode text).length ≤ versionStringLength → stored.versionText = String.ofList text) := by
  intro stored kept
  have hlongest := Utf8.longest_fitting versionStringLength text
  have hround := stored.decode_encode_append []
  rw [List.append_nil] at hround
  have hkept : Utf8.Straddles versionStringLength text → kept ≠ [] := by
    intro hstraddles
    -- Any single character would fit, so something of the text does.
    refine Utf8.fitting_ne_nil (by decide) ?_
    rintro rfl
    exact (Utf8.straddles_iff.mp hstraddles).2 rfl
  refine ⟨hlongest, hround, ⟨fun heq hstraddles => ?_, versionText_of_whole h hnul⟩, ?_, fun hfits => ?_⟩
  · have hnothing := versionText_of_straddles h hnul hstraddles
    exact hkept hstraddles (String.ofList_eq_empty_iff.mp (heq.symm.trans hnothing))
  · intro hne
    have hstraddles : Utf8.Straddles versionStringLength text :=
      Classical.byContradiction fun hwhole => hne (versionText_of_whole h hnul hwhole)
    exact ⟨versionText_of_straddles h hnul hstraddles, hkept hstraddles⟩
  · have hwhole := Utf8.whole_of_fits hfits
    have htext := versionText_of_whole h hnul hwhole
    rwa [Utf8.fitting_of_fits hfits] at htext

/-- A header to put version strings into. -/
def sample : Header := describe ⟨1, 0, 0⟩ [1, 2, 3, 4] (flashBase + 0x4000)

/-- A text of which the sixteenth byte ends a character is cut there. -/
theorem versionText_cut_behind :
    '\x00' ∉ "naïve-candidate-2".toList
      ∧ (sample.withVersionString "naïve-candidate-2".toList).versionText = "naïve-candidate" := by
  have hnul : '\x00' ∉ "naïve-candidate-2".toList := by decide
  obtain ⟨_, _, hiff, _⟩ := versionText_eq_fitting_iff sample "naïve-candidate-2".toList hnul
  exact ⟨hnul, hiff.mpr (by decide)⟩

/-- Of a text whose last character straddles the sixteenth byte, not even the fifteen bytes before that
character are read back. -/
theorem versionText_lost :
    let stored := sample.withVersionString "release-candidaé".toList
    '\x00' ∉ "release-candidaé".toList
      ∧ Utf8.fitting versionStringLength "release-candidaé".toList = "release-candida".toList
      ∧ stored.versionText = "" ∧ (decode stored.encode).versionText = "" := by
  intro stored
  have hnul : '\x00' ∉ "release-candidaé".toList := by decide
  have hlost : stored.versionText = "" := versionText_of_straddles _ hnul (by decide)
  have hround := stored.decode_encode_append []
  rw [List.append_nil] at hround
  exact ⟨hnul, by decide, hlost, by rw [hround, hlost]⟩

end DualSlot.Header
