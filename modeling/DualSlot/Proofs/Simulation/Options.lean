import Mathlib.Data.List.Forall2
import DualSlot.Simulation.Options
import DualSlot.Proofs.Text.Numeral

/-!
# Versions as users type them

A user may put any number of `v` in front of a version. What follows must be three written numbers with dots
between them (`Version.Written`), and nothing else is read: `Options.readVersion_exact`. Numbers may
be written in several ways, and the one that is printed is among them, so a version is read back from its own
text.
-/

namespace DualSlot

/-! ## Reading one after the other -/

/-- A list is read as a whole just if every item of it is. -/
theorem mapM_eq_ok_iff {α β ε : Type} {read : α → Except ε β} {items : List α} {values : List β} :
    items.mapM read = .ok values
      ↔ List.Forall₂ (fun item value => read item = .ok value) items values := by
  induction items generalizing values with
  | nil =>
    rw [List.mapM_nil, List.forall₂_nil_left_iff]
    constructor
    · intro h
      cases h
      rfl
    · rintro rfl
      rfl
  | cons item rest ih =>
    rw [List.mapM_cons, List.forall₂_cons_left_iff]
    constructor
    · -- Reading goes from left to right, and stops at the first item that cannot be read.
      intro h
      cases hitem : read item with
      | error e =>
        rw [hitem] at h
        cases h
      | ok value =>
        cases hrest : rest.mapM read with
        | error e =>
          rw [hitem, hrest] at h
          cases h
        | ok more =>
          rw [hitem, hrest] at h
          cases h
          exact ⟨value, more, rfl, ih.mp hrest, rfl⟩
    · rintro ⟨value, more, hitem, hmore, rfl⟩
      rw [hitem, ih.mpr hmore]
      rfl

theorem mapError_eq_ok_iff {α ε ε' : Type} {f : ε → ε'} {r : Except ε α} {a : α} :
    r.mapError f = .ok a ↔ r = .ok a := by
  cases r with
  | error e => exact iff_of_false (fun h => nomatch h) fun h => nomatch h
  | ok b => exact ⟨fun h => by cases h; rfl, fun h => by cases h; rfl⟩

namespace Version

/-! ## Fields -/

/-- The forms of a version: its three numbers in any of their forms, with dots between them. -/
inductive Written (v : Version) : List Char → Prop where
  | fields {major minor patch : List Char} :
      Text.Numeral v.major.toNat major → Text.Numeral v.minor.toNat minor →
      Text.Numeral v.patch.toNat patch → Written v (major ++ '.' :: minor ++ '.' :: patch)

theorem fields_eq_splitOn (text : List Char) : fields text = text.splitOn '.' := by
  induction text with
  | nil => rw [fields, List.splitOn_nil]
  | cons c rest ih =>
    rw [fields, ih, List.splitOn_cons_eq_if_modifyHead]
    by_cases hc : c = '.'
    · rw [if_pos hc, if_pos (beq_iff_eq.mpr hc)]
    · rw [if_neg hc, if_neg (fun h => hc (beq_iff_eq.mp h))]
      cases hrest : rest.splitOn '.' with
      | nil => exact absurd hrest (List.splitOn_ne_nil '.' rest)
      | cons field more => rfl

/-- No number has a dot in it. -/
theorem dot_notMem_of_numeral {n : Nat} {field : List Char} (h : Text.Numeral n field) :
    '.' ∉ field := h.notMem rfl (by decide)

theorem fields_joined {major minor patch : List Char} (hmajor : '.' ∉ major) (hminor : '.' ∉ minor)
    (hpatch : '.' ∉ patch) : fields (major ++ '.' :: minor ++ '.' :: patch) = [major, minor, patch] := by
  rw [fields_eq_splitOn, List.append_assoc, List.cons_append,
    List.splitOn_append_cons_self_of_not_mem hmajor, List.splitOn_append_cons_self_of_not_mem hminor,
    List.splitOn_eq_singleton hpatch]

theorem joined_of_fields {text major minor patch : List Char} (h : fields text = [major, minor, patch]) :
    text = major ++ '.' :: minor ++ '.' :: patch := by
  rw [fields_eq_splitOn] at h
  have hjoined : ['.'].intercalate (text.splitOn '.') = text := List.intercalate_splitOn '.'
  rw [h] at hjoined
  simpa using hjoined.symm

/-- The forms of a version are the texts that have forms of its three numbers as fields. -/
theorem written_iff {v : Version} {text : List Char} :
    v.Written text
      ↔ List.Forall₂ (fun field (w : UInt32) => Text.Numeral w.toNat field) (fields text)
          [v.major, v.minor, v.patch] := by
  constructor
  · intro h
    cases h with
    | fields hmajor hminor hpatch =>
      rw [fields_joined (dot_notMem_of_numeral hmajor) (dot_notMem_of_numeral hminor)
        (dot_notMem_of_numeral hpatch)]
      exact .cons hmajor (.cons hminor (.cons hpatch .nil))
  · intro h
    -- Three fields are needed for three numbers; joined by dots, they are the text.
    generalize hfields : fields text = parts at h
    match parts, h with
    | [major, minor, patch], .cons hmajor (.cons hminor (.cons hpatch .nil)) =>
      rw [joined_of_fields hfields]
      exact .fields hmajor hminor hpatch

/-! ## Reading a version -/

theorem parseField_eq_ok_iff {field : List Char} {w : UInt32} :
    parseField field = .ok w ↔ Text.Numeral w.toNat field := by
  rw [parseField, mapError_eq_ok_iff, Text.readWord_eq_ok_iff]

/-- A version is read where its three numbers are. -/
theorem parse_eq_ok_iff_mapM {v : Version} {text : List Char} :
    parse text = .ok v
      ↔ (fields (text.dropWhile (· = 'v'))).mapM parseField = .ok [v.major, v.minor, v.patch] := by
  unfold parse
  cases (fields (text.dropWhile (· = 'v'))).mapM parseField with
  | error e => exact iff_of_false (fun h => nomatch h) fun h => nomatch h
  | ok words =>
    -- With more or fewer than three numbers nothing is answered.
    constructor
    · intro h
      dsimp only [bind, Except.bind] at h
      split at h
      · cases h
        rfl
      · cases h
    · intro h
      cases h
      rfl

/-- What is read, behind any number of `v`, are the forms of versions. -/
theorem parse_eq_ok_iff {v : Version} {text : List Char} :
    parse text = .ok v ↔ v.Written (text.dropWhile (· = 'v')) := by
  rw [parse_eq_ok_iff_mapM, mapM_eq_ok_iff, written_iff]
  simp only [parseField_eq_ok_iff]

/-! ## Reading what was printed -/

theorem written_chars (v : Version) : v.Written v.chars :=
  .fields (.of_toDigits _) (.of_toDigits _) (.of_toDigits _)

/-- A form of a version begins with a digit or a sign, so there is nothing to take off. -/
theorem Written.dropWhile_eq {v : Version} {text : List Char} (h : v.Written text) :
    text.dropWhile (· = 'v') = text := by
  cases h with
  -- The first character is that of the first number.
  | @fields major minor patch hmajor _ _ =>
    cases major with
    | nil => exact absurd hmajor Text.not_numeral_nil
    | cons c rest =>
      have hc : c ≠ 'v' := by
        rintro rfl
        exact hmajor.notMem rfl (by decide) List.mem_cons_self
      exact List.dropWhile_cons_of_neg (by simpa using hc)

end Version

namespace Options

theorem readVersion_eq_ok_iff {text : String} {v : Version} :
    readVersion text = .ok v ↔ v.Written (text.toList.dropWhile (· = 'v')) := by
  rw [readVersion, mapError_eq_ok_iff, Version.parse_eq_ok_iff]

/-- A text is read as a version just if it is one of the forms of this version, with any number of `v` in
front. One of these forms is the text that is printed for the version, as it is and with a `v`. -/
theorem readVersion_exact (text : String) (v : Version) :
    (readVersion text = .ok v ↔ v.Written (text.toList.dropWhile (· = 'v')))
      ∧ readVersion v.text = .ok v ∧ readVersion ("v" ++ v.text) = .ok v := by
  have hprinted : v.text.toList = v.chars := String.toList_ofList
  have hlabel : ("v" ++ v.text).toList = 'v' :: v.chars := by
    rw [String.toList_append, hprinted]
    rfl
  have hwritten := v.written_chars
  refine ⟨readVersion_eq_ok_iff, readVersion_eq_ok_iff.mpr ?_, readVersion_eq_ok_iff.mpr ?_⟩
  · rwa [hprinted, hwritten.dropWhile_eq]
  · rwa [hlabel, List.dropWhile_cons_of_pos rfl, hwritten.dropWhile_eq]

example : readVersion "vv+1.02.4294967295" = .ok ⟨1, 2, 4294967295⟩ := by decide +kernel

end Options

end DualSlot
