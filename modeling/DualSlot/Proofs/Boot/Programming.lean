import DualSlot.Proofs.Boot.Effect
import DualSlot.Proofs.Bytes.Pieces
import DualSlot.Proofs.Flash.Writing

/-!
# Writing the update slot

The boot loader writes the update slot a word at a time, and fills a short word up with erased bytes.
So a string reaches a little further than its own bytes: up to `footprintEnd`.

* `Board.programFrom_ok`: a string that is programmed stands in the flash, and nothing else
  changed. The padding leaves no trace.
* `Board.programFrom_error`: a string that fails halfway leaves whole words of itself behind.
* `Board.effect_programFrom`: without planned faults a string is stored up to its first word that needs a
  programmed byte (`Board.firstBlocked`). So it is programmed just if all bytes of its footprint are
  erased (`Board.programFrom_answers_iff`), and then it is stored as a whole
  (`Board.effect_programFrom_of_erased`).
* `Board.eraseUpdateSlot_cases`: the pages of the update slot are erased, or nothing is.
-/

namespace DualSlot.Board

open DualSlot.Action

variable {g : Geometry} {board : Board g}

/-! ## One word -/

/-- The bytes that are written for a word of up to four bytes. -/
def footprint (g : Geometry) (offset : Nat) (bytes : List UInt8) : List UInt8 :=
  if offset + 4 ≤ g.capacity then bytes.rightpad 4 erasedByte else bytes

/-- Where the bytes written for a string of `length` bytes end. -/
def footprintEnd (g : Geometry) (offset length : Nat) : Nat :=
  if offset + ceilDiv length 4 * 4 ≤ g.capacity then offset + ceilDiv length 4 * 4
  else offset + length

/-- Nothing is written for the empty string. -/
theorem footprintEnd_zero (g : Geometry) (offset : Nat) : footprintEnd g offset 0 = offset := by
  unfold footprintEnd ceilDiv
  simp

/-- The padding of the last word is left away where it would pass the end of the flash. -/
theorem footprintEnd_le {offset length : Nat} (hroom : offset + length ≤ g.capacity) :
    footprintEnd g offset length ≤ g.capacity := by
  unfold footprintEnd
  split <;> assumption

/-- All words of a string but the last one are full. -/
theorem footprintEnd_of_gt (g : Geometry) {offset length : Nat} (h : 4 < length) :
    footprintEnd g offset length = footprintEnd g (offset + 4) (length - 4) := by
  have hpiece : ceilDiv length 4 = ceilDiv (length - 4) 4 + 1 :=
    ceilDiv_of_pos (by decide) (by omega)
  unfold footprintEnd
  rw [hpiece, Nat.succ_mul]
  -- Both sides end at the same place, so they fit or do not fit together.
  split <;> split <;> omega

/-- A string of one word ends where the footprint of that word does. -/
theorem footprint_end {offset : Nat} {bytes : List UInt8} (hlow : bytes ≠ [])
    (hhigh : bytes.length ≤ 4) :
    offset + (footprint g offset bytes).length = footprintEnd g offset bytes.length := by
  have hlength := List.length_pos_iff.mpr hlow
  have hone : ceilDiv bytes.length 4 = 1 := by
    unfold ceilDiv
    omega
  unfold footprint footprintEnd
  rw [hone]
  split
  · -- The word is padded, or stands alone at the end of the flash.
    rw [List.rightpad, List.length_append, List.length_replicate]
    omega
  · rfl

/-- The footprint of a word is a matter of its length. -/
theorem length_footprint_congr (g : Geometry) (offset : Nat) {bytes bytes' : List UInt8}
    (hlength : bytes'.length = bytes.length) :
    (footprint g offset bytes').length = (footprint g offset bytes).length := by
  unfold footprint
  split
  · rw [List.rightpad, List.rightpad, List.length_append, List.length_append, hlength]
  · exact hlength

/-- The padding of a word leaves no trace. -/
theorem splice_footprint {flash : Flash g} {offset : Nat} {bytes : List UInt8}
    (herased : flash.Erased offset (offset + (footprint g offset bytes).length)) :
    flash.splice offset (footprint g offset bytes) = flash.splice offset bytes := by
  unfold footprint at herased ⊢
  split at herased
  · rename_i hroom
    rw [if_pos hroom]
    rw [List.rightpad, List.length_append, List.length_replicate] at herased
    unfold Flash.splice List.rightpad
    rw [Cells.splice_append, Cells.splice_erased]
    -- The padding lies behind the bytes, where storing them changed nothing.
    intro i hlow hhigh
    have hagree : Flash.AgreeOn (offset + bytes.length) (i + 1) flash (flash.splice offset bytes) :=
      Flash.AgreeOn.splice flash (.inr (Nat.le_refl _))
    have hi : flash.Erased (offset + bytes.length) (i + 1) := herased.mono (by omega) (by omega)
    exact hi.of_agreeOn hagree i hlow (Nat.lt_succ_self i)
  · rename_i hroom
    rw [if_neg hroom]

/-- What is written for a word is its footprint, and only the flash can change. -/
theorem effect_programWord (offset : Nat) (bytes : List UInt8) (board : Board g) :
    effect (programWord offset bytes) board
      = (((effect (Flash.write offset (footprint g offset bytes)) board.flash).1.mapError
            .flashWrite),
          ⟨(effect (Flash.write offset (footprint g offset bytes)) board.flash).2,
            board.loader⟩) := by
  unfold programWord
  rw [effect_bind, effect_attempt, effect_onFlash, resume_ok]
  unfold footprint
  rcases effect (Flash.write offset _) board.flash with ⟨_ | _, flash⟩ <;> rfl

/-- The bytes of a word have room, so its footprint has. -/
theorem footprint_room {offset : Nat} {bytes : List UInt8}
    (hroom : offset + bytes.length ≤ g.capacity) (hshort : bytes.length ≤ 4) :
    offset + (footprint g offset bytes).length ≤ g.capacity := by
  unfold footprint
  split
  · rw [List.rightpad, List.length_append, List.length_replicate]
    omega
  · exact hroom

/-- A word that is admitted is stored where all of its footprint is erased. -/
theorem effect_programWord_of_erased {offset : Nat} {bytes : List UInt8}
    (hfault : board.flash.writeFault = none)
    (hroom : offset + (footprint g offset bytes).length ≤ g.capacity)
    (herased : board.flash.Erased offset (offset + (footprint g offset bytes).length)) :
    effect (programWord offset bytes) board
      = (.ok (), ⟨board.flash.afterWrite.splice offset bytes, board.loader⟩) := by
  -- All is erased there, so the padding does not show.
  have hsplice : board.flash.afterWrite.splice offset (footprint g offset bytes)
      = board.flash.afterWrite.splice offset bytes := splice_footprint herased
  rw [effect_programWord, Flash.effect_write_of_erased hfault hroom herased, hsplice]
  rfl

/-- A word that is admitted is refused where not all of its footprint is erased. -/
theorem effect_programWord_of_programmed {offset : Nat} {bytes : List UInt8}
    (hfault : board.flash.writeFault = none)
    (hroom : offset + (footprint g offset bytes).length ≤ g.capacity)
    (hprogrammed : ¬ board.flash.Erased offset (offset + (footprint g offset bytes).length)) :
    effect (programWord offset bytes) board
      = (.error (.flashWrite .notErased), ⟨board.flash.afterWrite, board.loader⟩) := by
  rw [effect_programWord, Flash.effect_write_of_programmed hfault hroom hprogrammed]
  rfl

/-- A word is stored where all of its footprint was erased, or fails and stores nothing. -/
theorem programWord_cases (offset : Nat) (bytes : List UInt8) (board : Board g) :
    (∃ e, effect (programWord offset bytes) board
        = (.error e, ⟨board.flash.afterWrite, board.loader⟩))
      ∨ (effect (programWord offset bytes) board
          = (.ok (), ⟨board.flash.afterWrite.splice offset bytes, board.loader⟩)
        ∧ board.flash.writeFault = none
        ∧ offset + (footprint g offset bytes).length ≤ g.capacity
        ∧ board.flash.Erased offset (offset + (footprint g offset bytes).length)) := by
  rcases Flash.write_cases board.flash offset (footprint g offset bytes) with
    ⟨e, herror⟩ | ⟨_, hfault, hroom, herased⟩
  · rw [effect_programWord, herror]
    exact .inl ⟨.flashWrite e, rfl⟩
  · exact .inr ⟨effect_programWord_of_erased hfault hroom herased, hfault, hroom, herased⟩

/-! ## All words -/

/-- The loop over the words of a string. -/
def programFrom (offset : Nat) (data : List UInt8) : BoardAction g Unit :=
  Action.forEach (pieces 4 data).zipIdx fun (bytes, i) => programWord (offset + i * 4) bytes

/-- The numbers of the words may start anywhere if the offset makes up for it. -/
theorem forEach_zipIdx_programWord (offset k : Nat) (words : List (List UInt8)) :
    (Action.forEach (words.zipIdx k) fun (bytes, i) => programWord (offset + i * 4) bytes
        : BoardAction g Unit)
      = Action.forEach words.zipIdx fun (bytes, i) =>
          programWord (offset + k * 4 + i * 4) bytes := by
  induction words generalizing offset k with
  | nil => simp only [List.zipIdx_nil, forEach_nil]
  | cons word rest ih =>
    -- Both sides are brought to the form that numbers its words from zero.
    have hnext : offset + (k + 1) * 4 = offset + k * 4 + 1 * 4 := by omega
    simp only [List.zipIdx_cons, forEach_cons, Nat.zero_mul, Nat.add_zero, Nat.zero_add]
    rw [ih offset (k + 1), ih (offset + k * 4) 1, hnext]

/-- The empty string has no words. -/
theorem programFrom_nil (offset : Nat) : (programFrom offset [] : BoardAction g Unit) = pure () := by
  unfold programFrom
  rw [pieces_nil (by decide)]
  rfl

/-- The first word, then the rest of the string. -/
theorem programFrom_of_ne_nil (offset : Nat) {data : List UInt8} (hdata : data ≠ []) :
    (programFrom offset data : BoardAction g Unit)
      = programWord offset (data.take 4) >>= fun _ => programFrom (offset + 4) (data.drop 4) := by
  unfold programFrom
  rw [pieces_of_ne_nil (by decide) hdata, List.zipIdx_cons, forEach_cons,
    forEach_zipIdx_programWord]
  simp

/-- The first word, then the rest: together the whole string. -/
theorem splice_take_drop (flash : Flash g) (offset : Nat) (data : List UInt8) :
    (flash.splice offset (data.take 4)).splice (offset + 4) (data.drop 4)
      = flash.splice offset data := by
  -- A short word is the last one, and then there is no rest.
  by_cases hlength : 4 ≤ data.length
  · have hend : offset + 4 = offset + (data.take 4).length := by
      rw [List.length_take_of_le hlength]
    rw [hend, ← Flash.splice_append, List.take_append_drop]
  · rw [List.take_of_length_le (by omega), List.drop_eq_nil_of_le (by omega)]
    rfl

/-- A word and so many words of the rest are one word more of the string. -/
theorem splice_take_words (flash : Flash g) (offset : Nat) (data : List UInt8) (words : Nat) :
    (flash.splice offset (data.take 4)).splice (offset + 4) ((data.drop 4).take (4 * words))
      = flash.splice offset (data.take (4 * (words + 1))) := by
  have hstored := splice_take_drop flash offset (data.take (4 * (words + 1)))
  rwa [List.take_take, Nat.min_eq_left (Nat.le_mul_of_pos_right 4 (Nat.succ_pos words)),
    List.drop_take, Nat.mul_succ, Nat.add_sub_cancel] at hstored

/-- The footprint of a string is the one of its first word and then the one of the rest, which the
first word does not touch. -/
theorem erased_footprint_iff (flash : Flash g) (offset : Nat) {data : List UInt8}
    (hdata : data ≠ []) :
    flash.Erased offset (footprintEnd g offset data.length)
      ↔ flash.Erased offset (offset + (footprint g offset (data.take 4)).length)
        ∧ (flash.splice offset (data.take 4)).Erased (offset + 4)
            (footprintEnd g (offset + 4) (data.drop 4).length) := by
  have hword : data.take 4 ≠ [] := by simpa using hdata
  have hshort : (data.take 4).length ≤ 4 := List.length_take_le 4 data
  rw [footprint_end hword hshort, List.length_take, List.length_drop]
  by_cases hlast : data.length ≤ 4
  · -- The last word: the rest is empty and has no footprint.
    rw [Nat.min_eq_right hlast, Nat.sub_eq_zero_of_le hlast, footprintEnd_zero]
    constructor
    · intro h
      refine ⟨h, fun i hlow hhigh => ?_⟩
      exact absurd hhigh (Nat.not_lt_of_le hlow)
    · exact fun h => h.1
  · -- A full word is its own footprint, and the rest begins right behind it.
    have hfour : footprintEnd g offset 4 = offset + 4 := by
      unfold footprintEnd ceilDiv
      simp
    have hrest : offset + 4 ≤ footprintEnd g (offset + 4) (data.length - 4) := by
      unfold footprintEnd
      split <;> omega
    have hagree : Flash.AgreeOn (offset + 4) (footprintEnd g (offset + 4) (data.length - 4)) flash
        (flash.splice offset (data.take 4)) :=
      Flash.AgreeOn.splice flash (.inr (Nat.add_le_add_left hshort offset))
    rw [footprintEnd_of_gt g (Nat.lt_of_not_le hlast), Nat.min_eq_left (by omega), hfour,
      ← Flash.erased_congr hagree]
    exact Flash.erased_append (Nat.le_add_right offset 4) hrest

/-! ## Words in the way -/

variable {flash : Flash g}

/-- Where the bytes end that are needed for word `k` of a string. They are the four from its place on, or
those of the string alone where the four would pass the end of the flash. -/
def wordEnd (g : Geometry) (base length k : Nat) : Nat :=
  if base + 4 * k + 4 ≤ g.capacity then base + 4 * k + 4 else base + min (4 * k + 4) length

/-- The first word of a string that needs a byte which is not erased. -/
def firstBlocked (flash : Flash g) (base length : Nat) : Option Nat :=
  (List.range (ceilDiv length 4)).find? fun k =>
    ¬ flash.Erased (base + 4 * k) (wordEnd g base length k)

/-- The first word of a string needs just its footprint. -/
theorem wordEnd_zero (g : Geometry) (base : Nat) (data : List UInt8) :
    wordEnd g base data.length 0 = base + (footprint g base (data.take 4)).length := by
  unfold wordEnd footprint
  split
  · rw [List.rightpad, List.length_append, List.length_replicate, List.length_take]
    omega
  · rw [List.length_take]

/-- The second word of a string is the first one of what is left of it. -/
theorem wordEnd_succ {base length : Nat} (k : Nat) (hlength : 4 ≤ length) :
    wordEnd g base length (k + 1) = wordEnd g (base + 4) (length - 4) k := by
  unfold wordEnd
  -- The places agree, and so does the end of the string if the word reaches it.
  split <;> split <;> omega

/-- No word of the empty string is blocked, for there is none. -/
theorem firstBlocked_zero (base : Nat) : firstBlocked flash base 0 = none := by
  unfold firstBlocked
  rw [ceilDiv_zero (by decide)]
  rfl

/-- A word that is blocked at the start is the first one. -/
theorem firstBlocked_of_programmed {base length : Nat} (hlength : 0 < length)
    (hword : ¬ flash.Erased base (wordEnd g base length 0)) :
    firstBlocked flash base length = some 0 := by
  unfold firstBlocked
  rw [ceilDiv_of_pos (by decide) hlength, List.range_succ_eq_map, List.find?_cons_of_pos]
  exact decide_eq_true hword

/-- Storing the first word changes nothing for those after it. -/
theorem firstBlocked_of_erased {base : Nat} {data : List UInt8} (hdata : data ≠ [])
    (hword : flash.Erased base (wordEnd g base data.length 0)) :
    firstBlocked flash base data.length
      = (firstBlocked (flash.splice base (data.take 4)) (base + 4) (data.drop 4).length).map
          (· + 1) := by
  have hlength := List.length_pos_iff.mpr hdata
  unfold firstBlocked
  rw [ceilDiv_of_pos (by decide) hlength, List.range_succ_eq_map, List.find?_cons_of_neg,
    List.find?_map, List.length_drop]
  · -- The first word is not blocked, so the search goes on behind it.
    by_cases hlast : data.length ≤ 4
    · rw [Nat.sub_eq_zero_of_le hlast, ceilDiv_zero (by decide)]
      rfl
    · -- The words behind the first one are looked for in the flash with that one stored.
      have hshort : (data.take 4).length ≤ 4 := List.length_take_le 4 data
      congr 2
      funext k
      have hplace : base + 4 * (k + 1) = base + 4 + 4 * k := by omega
      have hagree : Flash.AgreeOn (base + 4 + 4 * k) (wordEnd g (base + 4) (data.length - 4) k) flash
          (flash.splice base (data.take 4)) :=
        Flash.AgreeOn.splice flash (.inr (by omega))
      rw [Function.comp_apply, hplace, wordEnd_succ k (by omega)]
      exact decide_eq_decide.mpr (not_congr (Flash.erased_congr hagree))
  · exact fun hblocked => of_decide_eq_true hblocked hword

/-- No word of a string is blocked just if its footprint is erased. -/
theorem firstBlocked_eq_none_iff {base : Nat} {data : List UInt8} :
    firstBlocked flash base data.length = none
      ↔ flash.Erased base (footprintEnd g base data.length) := by
  induction data using piecewise 4 (by decide) generalizing base flash with
  | nil =>
    rw [List.length_nil, firstBlocked_zero, footprintEnd_zero]
    exact iff_of_true rfl fun i hlow hhigh => absurd hhigh (Nat.not_lt_of_le hlow)
  | piece data hdata ih =>
    have hlength := List.length_pos_iff.mpr hdata
    -- The footprint splits as the search does: the first word and what is behind it.
    rw [erased_footprint_iff flash base hdata, ← wordEnd_zero]
    by_cases hword : flash.Erased base (wordEnd g base data.length 0)
    · rw [firstBlocked_of_erased hdata hword, Option.map_eq_none_iff, ih, and_iff_right hword]
    · rw [firstBlocked_of_programmed hlength hword]
      exact iff_of_false nofun fun h => hword h.1

/-! ## The loop -/

/-- A string that is programmed stands in the flash, and all other bytes are as before. -/
theorem programFrom_ok {offset : Nat} {data : List UInt8} {board' : Board g}
    (h : effect (programFrom offset data) board = (.ok (), board')) :
    board'.flash.cells = (board.flash.splice offset data).cells
      ∧ board'.loader = board.loader
      ∧ board.flash.Erased offset (footprintEnd g offset data.length) := by
  induction data using piecewise 4 (by decide) generalizing offset board with
  | nil =>
    rw [programFrom_nil] at h
    cases h
    refine ⟨rfl, rfl, fun i hlow hhigh => ?_⟩
    rw [List.length_nil, footprintEnd_zero] at hhigh
    exact absurd hhigh (Nat.not_lt_of_le hlow)
  | piece data hdata ih =>
    rw [programFrom_of_ne_nil offset hdata, effect_bind] at h
    rcases programWord_cases offset (data.take 4) board with ⟨e, herror⟩ | ⟨hok, _, _, herased⟩
    · -- Had the first word failed, the whole would have.
      rw [herror] at h
      cases h
    · -- The first word is stored, and the induction speaks of the rest on the flash that has it.
      rw [hok, resume_ok] at h
      obtain ⟨hcells, hloader, hrest⟩ := ih h
      refine ⟨?_, hloader, ?_⟩
      · rw [hcells, splice_take_drop]
        rfl
      · exact (erased_footprint_iff board.flash offset hdata).mpr ⟨herased, hrest⟩

/-- A string that fails halfway leaves the words before the failure behind, and nothing else. -/
theorem programFrom_error {offset : Nat} {data : List UInt8} {e : BootError} {board' : Board g}
    (h : effect (programFrom offset data) board = (.error e, board')) :
    ∃ words, 4 * words < data.length
      ∧ board'.flash.cells = (board.flash.splice offset (data.take (4 * words))).cells := by
  induction data using piecewise 4 (by decide) generalizing offset board with
  | nil =>
    rw [programFrom_nil] at h
    cases h
  | piece data hdata ih =>
    have hlength := List.length_pos_iff.mpr hdata
    rw [programFrom_of_ne_nil offset hdata, effect_bind] at h
    rcases programWord_cases offset (data.take 4) board with ⟨e', herror⟩ | ⟨hok, _⟩
    · -- The first word failed, and nothing was stored.
      rw [herror] at h
      cases h
      exact ⟨0, hlength, rfl⟩
    · -- The first word is stored, so the failure is in the rest.
      rw [hok, resume_ok] at h
      obtain ⟨words, hwords, hcells⟩ := ih h
      rw [List.length_drop] at hwords
      refine ⟨words + 1, by omega, ?_⟩
      rw [hcells, ← splice_take_words]
      rfl

/-- What comes of programming a string: it is stored as a whole, or up to the first word that is
blocked. -/
def spliced (board : Board g) (base : Nat) (data : List UInt8) : Except BootError Unit × Board g :=
  match firstBlocked board.flash base data.length with
  | none => (.ok (), ⟨board.flash.splice base data, board.loader⟩)
  | some k =>
    (.error (.flashWrite .notErased), ⟨board.flash.splice base (data.take (4 * k)), board.loader⟩)

/-- Without planned faults the loop does what `spliced` says. -/
theorem effect_programFrom (hplan : board.flash.writePlan = none) {base : Nat} {data : List UInt8}
    (hroom : data ≠ [] → base + data.length ≤ g.capacity) :
    effect (programFrom base data) board = board.spliced base data := by
  induction data using piecewise 4 (by decide) generalizing base board with
  | nil =>
    unfold spliced
    rw [programFrom_nil, List.length_nil, firstBlocked_zero]
    rfl
  | piece data hdata ih =>
    have hlength := List.length_pos_iff.mpr hdata
    have hshort : (data.take 4).length ≤ 4 := List.length_take_le 4 data
    have hfault := Flash.writeFault_of_unplanned hplan
    -- The room of the string is enough for each of its words.
    have hfit : base + (footprint g base (data.take 4)).length ≤ g.capacity := by
      have hbytes := hroom hdata
      refine footprint_room ?_ hshort
      rw [List.length_take]
      omega
    rw [programFrom_of_ne_nil base hdata, effect_bind]
    by_cases hword : board.flash.Erased base (wordEnd g base data.length 0)
    · -- The first word is stored, and what comes of the rest comes of the whole.
      let begun : Board g := ⟨board.flash.splice base (data.take 4), board.loader⟩
      have hunplanned : begun.flash.writePlan = none := hplan
      have hbehind : data.drop 4 ≠ [] → base + 4 + (data.drop 4).length ≤ g.capacity := by
        intro hrest
        have hbytes := hroom hdata
        have hmore := List.length_pos_iff.mpr hrest
        rw [List.length_drop] at hmore ⊢
        omega
      have hnext := firstBlocked_of_erased hdata hword
      rw [wordEnd_zero] at hword
      rw [effect_programWord_of_erased hfault hfit hword, resume_ok,
        Flash.afterWrite_of_unplanned hplan, ih hunplanned hbehind]
      unfold spliced
      rw [hnext]
      cases firstBlocked begun.flash (base + 4) (data.drop 4).length with
      | none => simp only [Option.map_none, splice_take_drop, begun]
      | some k => simp only [Option.map_some, splice_take_words, begun]
    · -- The first word is blocked: nothing is stored.
      have hnow := firstBlocked_of_programmed hlength hword
      rw [wordEnd_zero] at hword
      unfold spliced
      rw [effect_programWord_of_programmed hfault hfit hword, Flash.afterWrite_of_unplanned hplan,
        hnow]
      rfl

/-- Without planned faults a string is stored as a whole where its footprint is erased. -/
theorem effect_programFrom_of_erased {offset : Nat} {data : List UInt8}
    (hplan : board.flash.writePlan = none) (hroom : offset + data.length ≤ g.capacity)
    (herased : board.flash.Erased offset (footprintEnd g offset data.length)) :
    effect (programFrom offset data) board
      = (.ok (), ⟨board.flash.splice offset data, board.loader⟩) := by
  rw [effect_programFrom hplan fun _ => hroom, spliced, firstBlocked_eq_none_iff.mpr herased]

/-- Without planned faults a string is programmed just if its footprint is erased. -/
theorem programFrom_answers_iff {offset : Nat} {data : List UInt8}
    (hplan : board.flash.writePlan = none) (hroom : offset + data.length ≤ g.capacity) :
    (effect (programFrom offset data) board).1 = .ok ()
      ↔ board.flash.Erased offset (footprintEnd g offset data.length) := by
  rw [effect_programFrom hplan fun _ => hroom, ← firstBlocked_eq_none_iff, spliced]
  cases firstBlocked board.flash offset data.length with
  | none => exact iff_of_true rfl rfl
  | some k => exact iff_of_false nofun nofun

/-! ## The calls -/

/-- The boot loader tests the room in front, and then programs word by word. -/
theorem effect_programUpdateSlot (offset : Nat) (data : List UInt8) (board : Board g) :
    effect (programUpdateSlot offset data) board
      = if board.loader.layout.slotB + offset + data.length ≤ g.capacity
        then effect (programFrom (board.loader.layout.slotB + offset) data) board
        else (.error .invalidSize, board) := by
  unfold programUpdateSlot Loader.updateSlot
  rw [effect_bind, effect_look, resume_ok, effect_bind]
  by_cases hroom : board.loader.layout.slotB + offset + data.length ≤ g.capacity
  · rw [effect_require_of_true (decide_eq_true hroom), if_pos hroom, resume_ok]
    rfl
  · rw [effect_require_of_false (decide_eq_false hroom), if_neg hroom]
    rfl

/-- Where all is erased up to the end of the flash, whatever has room is stored. -/
theorem effect_programUpdateSlot_of_erased {offset : Nat} {data : List UInt8}
    (hplan : board.flash.writePlan = none)
    (hroom : board.loader.layout.slotB + offset + data.length ≤ g.capacity)
    (herased : board.flash.Erased (board.loader.layout.slotB + offset) g.capacity) :
    effect (programUpdateSlot offset data) board
      = (.ok (), ⟨board.flash.splice (board.loader.layout.slotB + offset) data, board.loader⟩) := by
  rw [effect_programUpdateSlot, if_pos hroom]
  exact effect_programFrom_of_erased hplan hroom
    (herased.mono (Nat.le_refl _) (footprintEnd_le hroom))

/-- Programming is the business of the flash alone, whether it succeeds or fails. -/
theorem loader_programUpdateSlot (offset : Nat) (data : List UInt8) (board : Board g) :
    (effect (programUpdateSlot offset data) board).2.loader = board.loader := by
  have hword : ∀ offset bytes, Keeps (fun after : Board g => after.loader = board.loader)
      (programWord offset bytes) := by
    intro offset bytes after hafter
    rcases programWord_cases offset bytes after with ⟨e, herror⟩ | ⟨hok, _⟩
    · rw [herror]
      exact hafter
    · rw [hok]
      exact hafter
  rw [effect_programUpdateSlot]
  split
  · refine Keeps.forEach (I := fun after => after.loader = board.loader) ?_ _ board rfl
    rintro ⟨bytes, i⟩
    exact hword _ bytes
  · rfl

/-- Programming stores the whole string, or a part from its start on. -/
theorem programUpdateSlot_prefix (offset : Nat) (data : List UInt8) (board : Board g) :
    ∃ stored ≤ data.length, (effect (programUpdateSlot offset data) board).2.flash.cells
      = (board.flash.splice (board.loader.layout.slotB + offset) (data.take stored)).cells := by
  rw [effect_programUpdateSlot]
  split
  · -- A string that fails has stored a part of itself, and one that is refused has stored
    -- nothing.
    rcases hr : effect (programFrom (board.loader.layout.slotB + offset) data) board with
      ⟨e | _, board'⟩
    · obtain ⟨words, hwords, hcells⟩ := programFrom_error hr
      exact ⟨4 * words, Nat.le_of_lt hwords, hcells⟩
    · obtain ⟨hcells, _, _⟩ := programFrom_ok hr
      refine ⟨data.length, Nat.le_refl _, ?_⟩
      rw [List.take_length]
      exact hcells
  · exact ⟨0, Nat.zero_le _, rfl⟩

/-- The pages of the update slot are erased and no update is pending, or the board stays as it is. -/
theorem eraseUpdateSlot_cases (length : Nat) (board : Board g) :
    (∃ e, effect (eraseUpdateSlot length) board = (.error e, board))
      ∨ (effect (eraseUpdateSlot length) board
          = (.ok (),
              ⟨board.flash.blank board.loader.layout.slotB
                  (pageEnd (board.loader.layout.slotB + length) g.eraseSize),
                { board.loader with
                  context := { board.loader.context with updatePending := false } }⟩)
        ∧ 0 < length
        ∧ board.loader.layout.slotB + length ≤ g.capacity) := by
  unfold eraseUpdateSlot
  rw [effect_bind, effect_look, resume_ok, effect_bind]
  -- The length is tested before the flash is asked.
  cases hcheck : decide (0 < length) && decide (board.loader.updateSlot + length ≤ g.capacity) with
  | false =>
    rw [effect_require_of_false rfl]
    exact .inl ⟨.invalidSize, rfl⟩
  | true =>
    obtain ⟨hpos, hroom⟩ := Bool.and_eq_true_iff.mp hcheck
    rw [effect_require_of_true rfl, resume_ok, effect_bind, effect_report, resume_ok, effect_bind,
      effect_onFlash]
    rcases Flash.erase_cases board.flash board.loader.updateSlot
      (pageEnd (board.loader.updateSlot + length) g.eraseSize) with ⟨e, herror⟩ | ⟨hok, _⟩
    · rw [herror]
      exact .inl ⟨.flashErase e, rfl⟩
    · rw [hok]
      exact .inr ⟨rfl, of_decide_eq_true hpos, of_decide_eq_true hroom⟩

end DualSlot.Board
