import Mathlib.Data.List.Forall2
import DualSlot.Flash.Dump
import DualSlot.Proofs.Bytes.Pieces
import DualSlot.Proofs.Flash.Alignment
import DualSlot.Proofs.Text.Hex

/-!
# What a dump shows

A dump is a text, and what it shows is what can be read from it. A line is read by the places of its parts:
the address before the colon, sixteen columns of two characters behind it, with a gap in the middle, and
then the marks of the bytes.

`Dump.Shows` says of lines that, read like this, they show some bytes at their addresses.
`Flash.dump_shows`: there is a dump of each region that is not empty and lies inside the flash, and its
lines show the bytes of the region.
-/

namespace DualSlot

namespace Dump

variable {address k : Nat}

/-! ## Reading a line -/

/-- What stands behind the address of a line, the colon, and a blank. -/
def body (line : List Char) : List Char := (line.dropWhile (· ≠ ':')).drop 2

/-- Where a column begins. All take three characters, and there is one more behind the first eight. -/
def columnStart (k : Nat) : Nat := 3 * k + if k < 8 then 0 else 1

/-- The two characters of a column. -/
def column (line : List Char) (k : Nat) : List Char := ((body line).drop (columnStart k)).take 2

/-- The bytes in the columns of a line. A column without two digits shows none. -/
def shownBytes (line : List Char) : List UInt8 :=
  (List.range 16).filterMap fun k => Text.hexByte? (column line k)

/-- What stands behind the columns, and a blank. -/
def marks (line : List Char) : List Char := (body line).drop (columnStart 16 + 1)

/-- A byte that is a printable ASCII character or a blank is marked by that character, any other one by
a dot. -/
def MarkOf (b : UInt8) (mark : Char) : Prop :=
  if 0x20 ≤ b ∧ b ≤ 0x7E then mark.toNat = b.toNat else mark = '.'

/-- The lines show some bytes, sixteen on a line, and where they stand. -/
structure Shows (base : Nat) (bytes : List UInt8) (lines : List (List Char)) : Prop where
  /-- Each line begins with the address of its first byte. -/
  address : ∀ i line, lines[i]? = some line → ∃ digits, '0' :: 'x' :: digits ++ [':', ' '] <+: line
    ∧ 8 ≤ digits.length ∧ Text.hexNumber? digits = some (base + 16 * i)
  /-- Its columns show the sixteen bytes from there on, or as many as are left. -/
  bytes_at : ∀ i line, lines[i]? = some line → shownBytes line = (bytes.drop (16 * i)).take 16
  /-- The lines together show all bytes. -/
  bytes_eq : lines.flatMap shownBytes = bytes
  /-- There is one mark for each byte of a line. -/
  marked : ∀ line ∈ lines, List.Forall₂ MarkOf (shownBytes line) (marks line)

/-! ## A line -/

/-- The address of a line, with a colon and a blank behind it. -/
def front (address : Nat) : List Char := (Text.address address).toList ++ [':', ' ']

/-- The columns of a line, with a blank behind them, and the marks. -/
def back (bytes : List UInt8) : List Char :=
  (List.range 16).flatMap (cell bytes) ++ ' ' :: bytes.map glyph

/-- A line without its end. -/
def row (address : Nat) (bytes : List UInt8) : List Char := front address ++ back bytes

/-- A line is its row and the end of a line. -/
theorem line_eq_row (address : Nat) (bytes : List UInt8) :
    line address bytes = row address bytes ++ ['\n'] := by
  simp [line, row, front, back, width]

/-! ### The address -/

/-- An address is written as `0x` and at least eight hexadecimal digits. -/
theorem toList_address (address : Nat) :
    (Text.address address).toList = '0' :: 'x' :: (Nat.toDigits 16 address).leftpad 8 '0' := by
  simp [Text.address, Text.hexPadded]

/-- Neither a colon nor the end of a line is among the characters of an address. -/
theorem ne_of_mem_address {c d : Char} (hc : c ∈ (Text.address address).toList)
    (hd : Text.hexValue? d = none) (hx : d ≠ 'x') : c ≠ d := by
  rintro rfl
  rw [toList_address] at hc
  -- What is left are the digits after `0x`.
  rcases List.mem_cons.mp hc with rfl | hc
  · cases hd
  · rcases List.mem_cons.mp hc with rfl | hc
    · exact hx rfl
    · have hdigit := Text.hexValue?_isSome_of_mem (Text.hexNumber?_leftpad 8 address) hc
      rw [hd] at hdigit
      cases hdigit

/-- What stands behind the first colon of a row is its back: there is no colon in the address. -/
theorem body_row (address : Nat) (bytes : List UInt8) : body (row address bytes) = back bytes := by
  have haddress : ∀ c ∈ (Text.address address).toList, decide (c ≠ ':') = true :=
    fun c hc => decide_eq_true (ne_of_mem_address hc rfl (by decide))
  rw [body, row, front, List.append_assoc, List.dropWhile_append_of_pos haddress]
  rfl

/-! ### The columns -/

/-- The eighth column has the gap in the middle of the line behind it. -/
theorem length_cell (bytes : List UInt8) (k : Nat) :
    (cell bytes k).length = if k = 7 then 4 else 3 := by
  unfold cell
  cases bytes[k]? <;> by_cases hk : k = 7 <;> simp [hk, Text.length_byteDigits]

/-- A column begins where the one before it ends. -/
theorem columnStart_succ (k : Nat) : columnStart (k + 1) = columnStart k + if k = 7 then 4 else 3 := by
  unfold columnStart
  split <;> split <;> split <;> omega

/-- The columns before a column take the place up to its start. -/
theorem length_columns (bytes : List UInt8) (k : Nat) :
    ((List.range k).flatMap (cell bytes)).length = columnStart k := by
  induction k with
  | zero => rfl
  | succ k ih =>
    rw [List.range_succ, List.flatMap_append, List.length_append, ih, List.flatMap_singleton, length_cell,
      columnStart_succ]

/-- Cut off where a column begins, the back of a line begins with that column. -/
theorem drop_back (bytes : List UInt8) (hk : k < 16) :
    ∃ rest, (back bytes).drop (columnStart k) = cell bytes k ++ rest := by
  have hrange : List.range 16 = List.range k ++ k :: (List.range 16).drop (k + 1) := by
    have hcut := List.take_append_drop k (List.range 16)
    rw [List.take_range, Nat.min_eq_left (Nat.le_of_lt hk),
      List.drop_eq_getElem_cons (by rwa [List.length_range]), List.getElem_range] at hcut
    exact hcut.symm
  refine ⟨((List.range 16).drop (k + 1)).flatMap (cell bytes) ++ ' ' :: bytes.map glyph, ?_⟩
  rw [back, hrange, List.flatMap_append, List.flatMap_cons, List.append_assoc,
    List.drop_left' (length_columns bytes k), List.append_assoc, ← hrange]

/-- The two characters of a column are the digits of its byte, if the line has that many. -/
theorem hexByte?_take_cell (bytes : List UInt8) (k : Nat) (rest : List Char) :
    Text.hexByte? ((cell bytes k ++ rest).take 2) = bytes[k]? := by
  unfold cell
  cases bytes[k]? with
  | none => rfl
  | some b =>
    rw [List.append_assoc, List.take_left' (Text.length_byteDigits b), Text.hexByte?_byteDigits]

theorem hexByte?_column_row (address : Nat) (bytes : List UInt8) (hk : k < 16) :
    Text.hexByte? (column (row address bytes) k) = bytes[k]? := by
  obtain ⟨rest, hrest⟩ := drop_back bytes hk
  rw [column, body_row, hrest, hexByte?_take_cell]

/-- The elements at the first places of a list are the first elements. -/
theorem filterMap_getElem?_range {α : Type} (xs : List α) (n : Nat) :
    (List.range n).filterMap (xs[·]?) = xs.take n := by
  induction n with
  | zero => rfl
  | succ n ih =>
    rw [List.range_succ, List.filterMap_append, ih, List.take_add_one, List.filterMap_cons]
    cases xs[n]? <;> rfl

/-- The columns of a line show its bytes. -/
theorem shownBytes_row (address : Nat) (bytes : List UInt8) :
    shownBytes (row address bytes) = bytes.take 16 := by
  have hcolumns : ∀ k ∈ List.range 16,
      Text.hexByte? (column (row address bytes) k) = bytes[k]? :=
    fun k hk => hexByte?_column_row address bytes (List.mem_range.mp hk)
  rw [shownBytes, List.filterMap_congr hcolumns, filterMap_getElem?_range]

/-! ### The marks -/

/-- Behind its columns a row has the glyphs of its bytes. -/
theorem marks_row (address : Nat) (bytes : List UInt8) :
    marks (row address bytes) = bytes.map glyph := by
  rw [marks, body_row, ← List.drop_drop, back, List.drop_left' (length_columns bytes 16)]
  rfl

/-- The glyph of a byte marks it. -/
theorem markOf_glyph (b : UInt8) : MarkOf b (glyph b) := by
  unfold MarkOf glyph
  by_cases hb : 0x20 ≤ b ∧ b ≤ 0x7E
  · have hbyte : b.toNat < 256 := b.toNat_lt_size
    have hvalid : b.toNat.isValidChar := .inl (by omega)
    rw [if_pos hb, if_pos hb, Char.ofNat, dif_pos hvalid]
    rfl
  · rw [if_neg hb, if_neg hb]

/-! ### The end of a line -/

/-- A column has no end of a line in it, be it the one of a byte or blank. -/
theorem newline_notMem_cell (bytes : List UInt8) (k : Nat) : '\n' ∉ cell bytes k := by
  have hdigits : ∀ b : UInt8, '\n' ∉ Text.byteDigits b := by
    intro b hmem
    cases Text.hexValue?_isSome_of_mem (Text.hexNumber?_byteDigits b) hmem
  have hgap : '\n' ∉ if k = 7 then [' ', ' '] else [' '] := by
    split <;> decide
  -- A column is two digits or two blanks, and then the gap.
  unfold cell
  intro hmem
  rcases List.mem_append.mp hmem with hmem | hmem
  · cases hbyte : bytes[k]? with
    | none =>
      rw [hbyte] at hmem
      exact absurd hmem (by decide)
    | some b =>
      rw [hbyte] at hmem
      exact hdigits b hmem
  · exact hgap hmem

/-- An end of a line is no glyph, for a glyph is printable. -/
theorem glyph_ne_newline (b : UInt8) : glyph b ≠ '\n' := by
  intro heq
  have hmarks := markOf_glyph b
  rw [heq] at hmarks
  unfold MarkOf at hmarks
  split at hmarks
  · -- A byte that is printed as itself is not below the blank, and an end of a line is.
    next hb =>
    have hlow : 0x20 ≤ b.toNat := UInt8.le_iff_toNat_le.mp hb.1
    have hnewline : '\n'.toNat = 10 := rfl
    omega
  · cases hmarks

/-- A row has no end of a line in it. -/
theorem newline_notMem_row (address : Nat) (bytes : List UInt8) : '\n' ∉ row address bytes := by
  intro hmem
  -- It would be in the address, behind it, in a column, between these and the marks, or among the
  -- marks.
  rcases List.mem_append.mp hmem with hfront | hback
  · rcases List.mem_append.mp hfront with haddress | hcolon
    · exact ne_of_mem_address haddress rfl (by decide) rfl
    · exact absurd hcolon (by decide)
  · rcases List.mem_append.mp hback with hcolumns | hmarks
    · obtain ⟨k, _, hcell⟩ := List.mem_flatMap.mp hcolumns
      exact newline_notMem_cell bytes k hcell
    · rcases List.mem_cons.mp hmarks with hblank | hglyph
      · cases hblank
      · obtain ⟨b, _, hb⟩ := List.mem_map.mp hglyph
        exact glyph_ne_newline b hb

/-! ## The lines together -/

/-- The lines without their ends. -/
def rows (dump : Dump) : List (List Char) :=
  (pieces 16 dump.bytes).zipIdx.map fun (bytes, i) => row (dump.base + i * 16) bytes

/-- The text is its rows, with an end of a line behind each. -/
theorem toList_text (dump : Dump) : dump.text.toList = dump.rows.flatMap (· ++ ['\n']) := by
  have hlines : dump.lines = dump.rows.map (· ++ ['\n']) := by
    rw [lines, rows, List.map_map]
    exact List.map_congr_left fun (bytes, i) _ => line_eq_row (dump.base + i * width) bytes
  rw [text, String.toList_ofList, hlines, List.flatMap_def]

/-- Cut at the ends of its lines, a text gives its lines, and nothing behind the last end. -/
theorem splitOn_newline {lines : List (List Char)} (h : ∀ line ∈ lines, '\n' ∉ line) :
    (lines.flatMap (· ++ ['\n'])).splitOn '\n' = lines ++ [[]] := by
  induction lines with
  | nil => rfl
  | cons line rest ih =>
    have hrest : ∀ line ∈ rest, '\n' ∉ line :=
      fun other hother => h other (List.mem_cons_of_mem line hother)
    rw [List.flatMap_cons, List.append_assoc, List.singleton_append,
      List.splitOn_append_cons_self_of_not_mem (h line List.mem_cons_self), ih hrest, List.cons_append]

/-- Every sixteen bytes take a row, and so do those that are left. -/
theorem length_rows (dump : Dump) : dump.rows.length = (dump.bytes.length + 15) / 16 := by
  rw [rows, List.length_map, List.length_zipIdx, length_pieces]
  rfl

/-- Every row is made of an address and of sixteen bytes at most. -/
theorem exists_of_mem_rows {dump : Dump} {line : List Char} (h : line ∈ dump.rows) :
    ∃ address bytes, line = row address bytes ∧ bytes.length ≤ 16 := by
  obtain ⟨⟨bytes, i⟩, hpiece, rfl⟩ := List.mem_map.mp h
  exact ⟨_, bytes, rfl, length_le_of_mem_pieces (List.fst_mem_of_mem_zipIdx hpiece)⟩

/-- A row is made of its address and of the bytes from there on. -/
theorem eq_of_getElem?_rows {dump : Dump} {i : Nat} {line : List Char}
    (h : dump.rows[i]? = some line) :
    line = row (dump.base + 16 * i) ((dump.bytes.drop (16 * i)).take 16) := by
  rw [rows, List.getElem?_map, List.getElem?_zipIdx, Option.map_map] at h
  obtain ⟨bytes, hpiece, rfl⟩ := Option.map_eq_some_iff.mp h
  rw [eq_of_getElem?_pieces hpiece, Nat.mul_comm 16 i]
  simp only [Function.comp_apply, Nat.zero_add]

/-- Cut at the ends of its lines, the text of a dump gives its rows. -/
theorem splitOn_text (dump : Dump) : dump.text.toList.splitOn '\n' = dump.rows ++ [[]] := by
  rw [toList_text]
  refine splitOn_newline fun line hline => ?_
  obtain ⟨address, bytes, rfl, _⟩ := exists_of_mem_rows hline
  exact newline_notMem_row address bytes

/-- Each line shows one piece of the bytes, and the pieces together are the bytes. -/
theorem flatMap_shownBytes_rows (dump : Dump) : dump.rows.flatMap shownBytes = dump.bytes := by
  have hpieces : dump.rows.map shownBytes = pieces 16 dump.bytes := by
    rw [rows, List.map_map]
    conv_rhs => rw [← List.zipIdx_map_fst 0 (pieces 16 dump.bytes)]
    refine List.map_congr_left fun entry hentry => ?_
    have hlength := length_le_of_mem_pieces (List.fst_mem_of_mem_zipIdx hentry)
    simp only [Function.comp_apply, shownBytes_row, List.take_of_length_le hlength]
  rw [List.flatMap_def, hpieces, flatten_pieces (by decide)]

/-- The rows of a dump show its bytes. -/
theorem shows_rows (dump : Dump) : Shows dump.base dump.bytes dump.rows where
  address i line h := by
    refine ⟨(Nat.toDigits 16 (dump.base + 16 * i)).leftpad 8 '0', ?_, ?_,
      Text.hexNumber?_leftpad 8 (dump.base + 16 * i)⟩
    · rw [eq_of_getElem?_rows h, row, front, toList_address]
      exact List.prefix_append _ _
    · rw [List.length_leftpad]
      exact Nat.le_max_left _ _
  bytes_at i line h := by
    rw [eq_of_getElem?_rows h, shownBytes_row, List.take_take, Nat.min_self]
  bytes_eq := flatMap_shownBytes_rows dump
  marked line h := by
    obtain ⟨address, bytes, rfl, hlength⟩ := exists_of_mem_rows h
    rw [shownBytes_row, marks_row, List.take_of_length_le hlength, List.forall₂_map_right_iff]
    exact List.forall₂_same.mpr fun b _ => markOf_glyph b

end Dump

/-! ## Dumps of a flash -/

namespace Flash

variable {g : Geometry}

/-- A region is dumped just if it is not empty and lies inside of the flash. -/
theorem dump_eq_ok_iff {flash : Flash g} {offset length : Nat} {dump : Dump} :
    flash.dump offset length = .ok dump
      ↔ (0 < length ∧ offset + length ≤ g.capacity) ∧ dump = ⟨offset, flash.slice offset length⟩ := by
  unfold Flash.dump
  by_cases hroom : length = 0 ∨ g.capacity < offset + length
  · rw [if_pos hroom]
    refine iff_of_false (fun h => nomatch h) ?_
    rintro ⟨⟨hpos, hle⟩, _⟩
    omega
  · rw [if_neg hroom, Except.ok.injEq]
    constructor
    · rintro rfl
      exact ⟨by omega, rfl⟩
    · rintro ⟨_, rfl⟩
      rfl

/-- A region is dumped just if it is not empty and lies inside the flash, its end being a 64-bit number.
The text of its dump, cut at the ends of lines, gives one line for every sixteen bytes, and these lines
show exactly the bytes of the region, each at its address. -/
theorem dump_shows (flash : Flash g) (offset length : Nat) :
    ((∃ dump, flash.dump offset length = .ok dump)
        ↔ 0 < length ∧ offset + length < UInt64.size ∧ offset + length ≤ g.capacity)
      ∧ ∀ dump, flash.dump offset length = .ok dump →
          ∃ lines, dump.text.toList.splitOn '\n' = lines ++ [[]]
            ∧ lines.length = (length + 15) / 16
            ∧ Dump.Shows offset (flash.slice offset length) lines := by
  have hcapacity : g.capacity < UInt64.size := g.capacity_lt
  refine ⟨⟨?_, ?_⟩, fun dump hdump => ?_⟩
  · rintro ⟨dump, hdump⟩
    obtain ⟨⟨hpos, hroom⟩, _⟩ := dump_eq_ok_iff.mp hdump
    exact ⟨hpos, Nat.lt_of_le_of_lt hroom hcapacity, hroom⟩
  · rintro ⟨hpos, _, hroom⟩
    exact ⟨_, dump_eq_ok_iff.mpr ⟨⟨hpos, hroom⟩, rfl⟩⟩
  · obtain ⟨⟨_, hroom⟩, rfl⟩ := dump_eq_ok_iff.mp hdump
    -- The rows of the dump are its lines.
    have hshows := Dump.shows_rows ⟨offset, flash.slice offset length⟩
    refine ⟨_, Dump.splitOn_text _, ?_, hshows⟩
    rw [Dump.length_rows, length_slice flash offset length hroom]

end Flash

/-! ## A greeting -/

namespace Halfwords

/-- The device with seven bytes from an odd offset on. -/
def greeting : Flash geometry :=
  (Flash.erased geometry).splice 33 [0x48, 0x65, 0x6C, 0x6C, 0x6F, 0x0A, 0x7E]

/-- A dump does not mind that reads are aligned, and its last line may be short. -/
def greetingDump : Dump where
  base := 33
  bytes := [0x48, 0x65, 0x6C, 0x6C, 0x6F, 0x0A, 0x7E] ++ List.replicate 11 erasedByte

theorem dump_shows_greeting :
    greeting.dump 33 18 = .ok greetingDump
      ∧ ∃ lines, greetingDump.text.toList.splitOn '\n' = lines ++ [[]]
          ∧ lines.length = 2 ∧ Dump.Shows 33 greetingDump.bytes lines := by
  have hslice : greeting.slice 33 18 = greetingDump.bytes := by decide +kernel
  have hdump : greeting.dump 33 18 = .ok greetingDump :=
    Flash.dump_eq_ok_iff.mpr ⟨by decide, by rw [hslice]; rfl⟩
  obtain ⟨lines, hsplit, hcount, hshows⟩ := (Flash.dump_shows greeting 33 18).2 greetingDump hdump
  rw [hslice] at hshows
  exact ⟨hdump, lines, hsplit, hcount, hshows⟩

example : greetingDump.text
    = "0x00000021: 48 65 6c 6c 6f 0a 7e ff  ff ff ff ff ff ff ff ff  Hello.~.........\n"
      ++ "0x00000031: ff ff                                             ..\n" := by
  decide +kernel

end Halfwords

end DualSlot
