import Mathlib.Logic.ExistsUnique
import DualSlot.Firmware.Header
import DualSlot.Proofs.Bytes.LittleEndian
import DualSlot.Proofs.Flash.Region

/-!
# The header codec

A header is a row of ten parts. The table of their offsets and widths says where each part stands in the
80 bytes, and that is all the codec is proved from:

* the parts tile the 80 bytes (`Part.tiles_all`), so that each byte belongs to one of them;
* encoding puts every part in its place (`slice_encode`), and decoding takes it from there
  (`Part.bytes_decode`);
* a header is known by its parts (`ext_of_bytes`).

Hence decoding and encoding are inverse to each other, `decode_encode_append` and `encode_decode`, and
the bytes come out the same in whatever order the parts are written (`putAll_eq_encode`).
-/

namespace DualSlot.Header

attribute [ext] Version Header

/-! ## The table of the parts -/

/-- A part of the encoded header. -/
inductive Part where
  | magic | major | minor | patch | versionString | timestamp | size | crc32 | entryPoint | reserved
  deriving DecidableEq

namespace Part

/-- The place of the first byte. -/
def offset : Part → Nat
  | magic => 0
  | major => 4
  | minor => 8
  | patch => 12
  | versionString => 16
  | timestamp => 32
  | size => 36
  | crc32 => 40
  | entryPoint => 44
  | reserved => 48

/-- The number of bytes. -/
def width : Part → Nat
  | versionString => versionStringLength
  | reserved => reservedLength
  | magic | major | minor | patch | timestamp | size | crc32 | entryPoint => 4

/-- What a header writes in the part. -/
def bytes (h : Header) : Part → List UInt8
  | magic => LittleEndian.ofWord h.magic
  | major => LittleEndian.ofWord h.version.major
  | minor => LittleEndian.ofWord h.version.minor
  | patch => LittleEndian.ofWord h.version.patch
  | versionString => h.versionString.toList
  | timestamp => LittleEndian.ofWord h.timestamp
  | size => LittleEndian.ofWord h.size
  | crc32 => LittleEndian.ofWord h.crc32
  | entryPoint => LittleEndian.ofWord h.entryPoint
  | reserved => h.reserved.toList

/-- What stands in the part's place in a byte string. -/
def slice (part : Part) (bs : List UInt8) : List UInt8 := (bs.drop part.offset).take part.width

/-- The parts in the order of their offsets. -/
def all : List Part :=
  [magic, major, minor, patch, versionString, timestamp, size, crc32, entryPoint, reserved]

/-- No part is missing in the row. -/
theorem mem_all (part : Part) : part ∈ all := by
  cases part <;> decide

/-- What a header writes in a part is as wide as the part. -/
@[simp] theorem length_bytes (h : Header) (part : Part) : (part.bytes h).length = part.width := by
  cases part <;> simp [bytes, width]

/-- What follows behind a part changes nothing about it. -/
theorem slice_append (part : Part) {bs rest : List UInt8}
    (h : part.offset + part.width ≤ bs.length) : part.slice (bs ++ rest) = part.slice bs := by
  unfold slice
  rw [List.drop_append_of_le_length (by omega),
    List.take_append_of_le_length (by rw [List.length_drop]; omega)]

/-! ## Tilings -/

/-- The parts lie end to end and fill the bytes from `start` up to `stop`. -/
def Tiles (start : Nat) : List Part → (stop : Nat) → Prop
  | [], stop => start = stop
  | part :: rest, stop => part.offset = start ∧ Tiles (start + part.width) rest stop

/-- The ten parts fill the 80 bytes of the header. -/
theorem tiles_all : Tiles 0 all Header.length := by
  simp [all, Tiles, offset, width, versionStringLength, Version.labelLength, reservedLength,
    Header.length]

namespace Tiles

variable {parts : List Part} {start stop : Nat}

/-- Where parts are tiled, the end does not come before the start. -/
theorem start_le (h : Tiles start parts stop) : start ≤ stop := by
  -- By the parts, as all that follows about tilings.
  induction parts generalizing start with
  | nil => exact Nat.le_of_eq h
  | cons part rest ih => exact Nat.le_trans (Nat.le_add_right _ _) (ih h.2)

/-- Every part lies inside. -/
theorem bounds (h : Tiles start parts stop) {part : Part} (hmem : part ∈ parts) :
    start ≤ part.offset ∧ part.offset + part.width ≤ stop := by
  induction parts generalizing start with
  | nil => cases hmem
  | cons first rest ih =>
    obtain ⟨hfirst, hrest⟩ := h
    rcases List.mem_cons.mp hmem with rfl | hlater
    · exact ⟨Nat.le_of_eq hfirst.symm, hfirst ▸ hrest.start_le⟩
    · obtain ⟨hlow, hhigh⟩ := ih hrest hlater
      exact ⟨Nat.le_trans (Nat.le_add_right _ _) hlow, hhigh⟩

/-- Each byte belongs to one part, and to no other. -/
theorem existsUnique (h : Tiles start parts stop) {i : Nat} (hlow : start ≤ i) (hhigh : i < stop) :
    ∃! part, part ∈ parts ∧ part.offset ≤ i ∧ i < part.offset + part.width := by
  induction parts generalizing start with
  | nil =>
    have hempty : start = stop := h
    omega
  | cons first rest ih =>
    obtain ⟨hfirst, hrest⟩ := h
    -- The byte is in the first part or behind it; the first part ends where the others begin.
    by_cases hin : i < start + first.width
    · refine ⟨first, ⟨List.mem_cons_self, by omega, by omega⟩, ?_⟩
      rintro other ⟨hmem, hbegin, -⟩
      rcases List.mem_cons.mp hmem with rfl | hlater
      · rfl
      · -- The parts behind the first one begin after this byte.
        have := (hrest.bounds hlater).1
        omega
    · obtain ⟨part, ⟨hmem, hplace⟩, honly⟩ := ih hrest (by omega)
      refine ⟨part, ⟨List.mem_cons_of_mem _ hmem, hplace⟩, ?_⟩
      rintro other ⟨hmem', hbegin, hend⟩
      rcases List.mem_cons.mp hmem' with rfl | hlater
      · -- The first part ends before this byte.
        omega
      · exact honly other ⟨hlater, hbegin, hend⟩

/-- What stands in the parts, one after the other, is what stands between the bounds. -/
theorem flatMap_slice (h : Tiles start parts stop) (bs : List UInt8) :
    parts.flatMap (fun part => part.slice bs) = (bs.drop start).take (stop - start) := by
  induction parts generalizing start with
  | nil =>
    have hempty : start = stop := h
    simp [hempty]
  | cons first rest ih =>
    obtain ⟨hfirst, hrest⟩ := h
    have hsplit : stop - start = first.width + (stop - (start + first.width)) := by
      have := hrest.start_le
      omega
    rw [List.flatMap_cons, ih hrest, slice, hfirst, hsplit, List.take_add, List.drop_drop]

/-- Strings of the parts' widths, one after the other, each stand in the place of their part. -/
theorem slice_flatMap (h : Tiles start parts stop) {content : Part → List UInt8}
    (hwidth : ∀ part, (content part).length = part.width) {part : Part} (hmem : part ∈ parts) :
    ((parts.flatMap content).drop (part.offset - start)).take part.width = content part := by
  induction parts generalizing start with
  | nil => cases hmem
  | cons first rest ih =>
    obtain ⟨hfirst, hrest⟩ := h
    rw [List.flatMap_cons]
    by_cases heq : part = first
    · -- The part is the first one, so its string is at the front.
      subst heq
      rw [hfirst, Nat.sub_self, List.drop_zero]
      exact List.take_left' (hwidth part)
    · -- The part is behind the first one, whose string is skipped.
      have hlater : part ∈ rest := (List.mem_cons.mp hmem).resolve_left heq
      have hbehind := (hrest.bounds hlater).1
      have hskip : part.offset - start
          = (content first).length + (part.offset - (start + first.width)) := by
        rw [hwidth]
        omega
      rw [hskip, List.drop_length_add_append]
      exact ih hrest hlater

end Tiles

/-- Every part ends inside of the 80 bytes. -/
theorem end_le_length (part : Part) : part.offset + part.width ≤ Header.length :=
  (tiles_all.bounds part.mem_all).2

/-- Each of the 80 bytes belongs to one part, and to no other. -/
theorem existsUnique_of_lt {i : Nat} (h : i < Header.length) :
    ∃! part : Part, part.offset ≤ i ∧ i < part.offset + part.width := by
  simpa only [mem_all, true_and] using tiles_all.existsUnique (Nat.zero_le i) h

end Part

/-! ## Encoding -/

/-- The encoding is the row of the parts. -/
theorem encode_eq_flatMap (h : Header) : h.encode = Part.all.flatMap (fun part => part.bytes h) := by
  simp only [encode, Part.all, List.flatMap_cons, List.flatMap_nil, Part.bytes, List.append_assoc,
    List.append_nil]

@[simp] theorem length_encode (h : Header) : h.encode.length = length := by
  simp only [encode, List.length_append, LittleEndian.length_ofWord, Vector.length_toList]
  rfl

/-- Each part stands in its place. -/
theorem slice_encode (h : Header) (part : Part) : part.slice h.encode = part.bytes h := by
  have hplace := Part.tiles_all.slice_flatMap (Part.length_bytes h) part.mem_all
  rw [← encode_eq_flatMap, Nat.sub_zero] at hplace
  exact hplace

/-! ## Decoding -/

/-- A field of the header is the first bytes of what it is read from. -/
theorem toList_field {n : Nat} {bs : List UInt8} (h : n ≤ bs.length) :
    (field n bs).toList = bs.take n := by
  apply List.ext_getElem
  · rw [Vector.length_toList, List.length_take_of_le h]
  · intro i hleft hright
    have hi : i < bs.length := by
      rw [List.length_take_of_le h] at hright
      omega
    simp [field, patch, hi]

/-- Decoding takes each part from its place. -/
theorem Part.bytes_decode (part : Part) {bs : List UInt8} (h : Header.length ≤ bs.length) :
    part.bytes (decode bs) = part.slice bs := by
  have hroom : part.offset + part.width ≤ bs.length := Nat.le_trans part.end_le_length h
  have hbehind : part.width ≤ (bs.drop part.offset).length := by
    rw [List.length_drop]
    omega
  unfold Part.slice
  -- A part is a number or a row of bytes.
  cases part with
  | magic | major | minor | patch | timestamp | size | crc32 | entryPoint =>
    exact LittleEndian.ofWord_word hbehind
  | versionString | reserved => exact toList_field hbehind

/-- A header is known by its parts. -/
theorem ext_of_bytes {h h' : Header} (heq : ∀ part : Part, part.bytes h = part.bytes h') : h = h' := by
  have hversion : h.version = h'.version :=
    Version.ext (LittleEndian.ofWord_inj (heq .major)) (LittleEndian.ofWord_inj (heq .minor))
      (LittleEndian.ofWord_inj (heq .patch))
  exact Header.ext (LittleEndian.ofWord_inj (heq .magic)) hversion
    (Vector.toList_inj.mp (heq .versionString)) (LittleEndian.ofWord_inj (heq .timestamp))
    (LittleEndian.ofWord_inj (heq .size)) (LittleEndian.ofWord_inj (heq .crc32))
    (LittleEndian.ofWord_inj (heq .entryPoint)) (Vector.toList_inj.mp (heq .reserved))

/-! ## Round trips -/

/-- Decoding an encoded header gives it back, whatever follows it. -/
theorem decode_encode_append (h : Header) (rest : List UInt8) : decode (h.encode ++ rest) = h := by
  apply ext_of_bytes
  intro part
  have hroom : part.offset + part.width ≤ h.encode.length := by
    rw [length_encode]
    exact part.end_le_length
  calc part.bytes (decode (h.encode ++ rest))
      = part.slice (h.encode ++ rest) := part.bytes_decode (by simp)
    _ = part.slice h.encode := part.slice_append hroom
    _ = part.bytes h := h.slice_encode part

/-- Encoding what was decoded gives the first 80 bytes back. -/
theorem encode_decode {bs : List UInt8} (h : length ≤ bs.length) : (decode bs).encode = bs.take length := by
  have hparts : (fun part : Part => part.bytes (decode bs)) = fun part => part.slice bs :=
    funext fun part => part.bytes_decode h
  rw [encode_eq_flatMap, hparts, Part.tiles_all.flatMap_slice, List.drop_zero, Nat.sub_zero]

/-! ## Writing part by part -/

/-- The cells with a part of the header written over what stood in its place. -/
def put (h : Header) (cells : Vector UInt8 length) (part : Part) : Vector UInt8 length :=
  Cells.splice cells part.offset (part.bytes h)

/-- Writing a part sets the bytes in its place to those of the encoding, and no others. -/
theorem getElem?_put (h : Header) (cells : Vector UInt8 length) (part : Part) (i : Nat) :
    (h.put cells part)[i]?
      = if part.offset ≤ i ∧ i < part.offset + part.width then h.encode[i]? else cells[i]? := by
  have hroom := part.end_le_length
  rw [put, Cells.getElem?_splice, Part.length_bytes]
  by_cases hin : part.offset ≤ i ∧ i < part.offset + part.width
  · have hsub : i - part.offset < part.width := by omega
    rw [if_pos hin, if_pos ⟨hin.1, hin.2, by omega⟩, ← slice_encode, Part.slice,
      List.getElem?_take_of_lt hsub, List.getElem?_drop, Nat.add_sub_cancel' hin.1]
  · rw [if_neg hin, if_neg fun hplace => hin ⟨hplace.1, hplace.2.1⟩]

/-- A byte is as in the encoding once its part is written, and no later part touches it. -/
theorem getElem?_putAll (h : Header) (order : List Part) (cells : Vector UInt8 length) (i : Nat) :
    (order.foldl h.put cells)[i]?
      = if ∃ part ∈ order, part.offset ≤ i ∧ i < part.offset + part.width then h.encode[i]?
        else cells[i]? := by
  -- By the parts in their order, the cells being those so far.
  induction order generalizing cells with
  | nil => simp
  | cons part rest ih =>
    rw [List.foldl_cons, ih, getElem?_put h cells part i]
    by_cases hlater : ∃ later ∈ rest, later.offset ≤ i ∧ i < later.offset + later.width
    · simp [hlater]
    · by_cases hin : part.offset ≤ i ∧ i < part.offset + part.width
      · simp [hin]
      · simp [hlater, hin]

/-- Written in any order over any 80 bytes, the parts give the encoding. -/
theorem putAll_eq_encode (h : Header) (order : List Part) (hall : ∀ part, part ∈ order)
    (cells : Vector UInt8 length) : (order.foldl h.put cells).toList = h.encode := by
  apply List.ext_getElem?
  intro i
  rw [Vector.getElem?_toList]
  by_cases hi : i < length
  · -- Some part covers this byte, and it was written at some time.
    obtain ⟨part, hplace, -⟩ := Part.existsUnique_of_lt hi
    rw [getElem?_putAll, if_pos ⟨part, hall part, hplace⟩]
  · rw [Vector.getElem?_eq_none (Nat.le_of_not_lt hi), List.getElem?_eq_none]
    rw [length_encode]
    exact Nat.le_of_not_lt hi

/-! ## The codec as a whole -/

/-- Headers and strings of 80 bytes are the same thing: decoding undoes encoding, encoding undoes
decoding, and the parts stand where the table says, each byte in exactly one of them. -/
theorem codec_bijective :
    (∀ h : Header, h.encode.length = length ∧ decode h.encode = h)
    ∧ (∀ bytes : Vector UInt8 length, (decode bytes.toList).encode = bytes.toList)
    ∧ (∀ (h : Header) (part : Part), part.slice h.encode = part.bytes h)
    ∧ (∀ (bytes : Vector UInt8 length) (part : Part),
        part.bytes (decode bytes.toList) = part.slice bytes.toList)
    ∧ (∀ part : Part, part.offset + part.width ≤ length)
    ∧ (∀ i : Fin length, ∃! part : Part, part.offset ≤ i ∧ i < part.offset + part.width)
    ∧ (∀ (h : Header) (order : List Part), (∀ part, part ∈ order) →
        ∀ cells : Vector UInt8 length, (order.foldl h.put cells).toList = h.encode) := by
  have hfull : ∀ bytes : Vector UInt8 length, length ≤ bytes.toList.length :=
    fun bytes => Nat.le_of_eq bytes.length_toList.symm
  refine ⟨fun h => ⟨h.length_encode, ?_⟩, fun bytes => ?_, slice_encode,
    fun bytes part => part.bytes_decode (hfull bytes), Part.end_le_length,
    fun i => Part.existsUnique_of_lt i.isLt, putAll_eq_encode⟩
  · have hround := h.decode_encode_append []
    rw [List.append_nil] at hround
    exact hround
  · rw [encode_decode (hfull bytes)]
    exact List.take_of_length_le (Nat.le_of_eq bytes.length_toList)

end DualSlot.Header
