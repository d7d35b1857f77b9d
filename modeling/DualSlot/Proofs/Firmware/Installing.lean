import DualSlot.Proofs.Flash.Installing
import DualSlot.Proofs.Update.Delivery

/-!
# Generated images on a flash

A generated image can be put anywhere on a flash by a factory programmer, and is valid there. This goes
through all that makes an image: its header, the encoding of it, the pages that are erased, the bytes
stored in them, the decoding, and the checksum read back piece by piece.

* `ImageSpec.Made.holdsImage`: the image that was made stands there as a valid one.
* `Image.numbered_chunks`: in chunks of any size the image is whole.
* `Flash.install_validates`: both, for every image and every place.
-/

namespace DualSlot

open DualSlot.Action

/-! ## The image in its place -/

/-- An image that was made is valid wherever it stands as a whole. -/
theorem ImageSpec.Made.holdsImage {spec : ImageSpec} {image : Image} (hmade : spec.Made image)
    {g : Geometry} {flash : Flash g} {offset : Nat} (hbytes : g.readSize = 1)
    (hroom : offset + image.bytes.length ≤ g.capacity)
    (hstands : flash.slice offset image.bytes.length = image.bytes) :
    flash.HoldsImage offset image.header := by
  obtain ⟨hheader, hpayload⟩ := Flash.holdsHeader_of_sealed hmade.sealed hbytes rfl hroom hstands
  exact
    { hheader with
      crc32_eq := by rw [hpayload, hmade.sealed.crc32_eq] }

/-! ## The image in chunks -/

namespace Image

variable {image : Image} {size : Nat}

/-- The chunks of an image are numbered from zero in words, have the same size but for the last one, and
are together the image. -/
structure Chunked (size : Nat) (image : Image) : Prop where
  numbers_eq : (image.chunks size).map Prod.snd = List.range (image.chunks size).length
  numbers_lt : ∀ chunk ∈ image.chunks size, chunk.2 < UInt32.size
  length_pos : ∀ chunk ∈ image.chunks size, 0 < chunk.1.length
  length_le : ∀ chunk ∈ image.chunks size, chunk.1.length ≤ size
  length_eq : ∀ chunk ∈ (image.chunks size).dropLast, chunk.1.length = size
  bytes_eq : ((image.chunks size).map Prod.fst).flatten = image.bytes

theorem map_fst_chunks (image : Image) (size : Nat) :
    (image.chunks size).map Prod.fst = pieces size image.bytes := List.zipIdx_map_fst 0 _

theorem numbered_chunks (hsize : 0 < size) (hfits : image.bytes.length < UInt32.size) :
    image.Chunked size where
  numbers_eq := by
    rw [List.range_eq_range', chunks, List.zipIdx_map_snd, List.length_zipIdx]
  numbers_lt chunk hchunk := by
    -- There are no more chunks than bytes.
    have hcount := ceilDiv_le hsize image.bytes.length
    have hnumber := List.snd_lt_of_mem_zipIdx hchunk
    rw [length_pieces] at hnumber
    omega
  length_pos chunk hchunk := length_pos_of_mem_pieces hsize (List.fst_mem_of_mem_zipIdx hchunk)
  length_le chunk hchunk := length_le_of_mem_pieces (List.fst_mem_of_mem_zipIdx hchunk)
  length_eq chunk hchunk := by
    have hpiece := List.mem_map_of_mem (f := Prod.fst) hchunk
    rw [List.map_dropLast, map_fst_chunks] at hpiece
    exact length_of_mem_dropLast_pieces hsize hpiece
  bytes_eq := by rw [map_fst_chunks, flatten_pieces hsize]

end Image

/-! ## All together -/

/-- On a flash that is read by bytes, without planned faults of reads, and that can be erased, every image
that can be made, from payload bytes of any source, can be installed wherever there is room, whatever is on
the flash. The check of the boot loader then answers its header. Of the pages that it touches all other
bytes are erased, and the rest of the flash is as before. Cut into chunks it is still the image. What cannot
be installed changes nothing, whatever the flash and the string. -/
theorem Flash.install_validates (source : ByteSource) (g : Geometry) (flash : Flash g) :
    (g.readSize = 1 → flash.readPlan = none → flash.eraseBroken = false →
      ∀ (spec : ImageSpec) (offset : Nat), Header.length < spec.size → spec.size < UInt32.size →
        offset + spec.size ≤ g.capacity →
        ∃ image flash', spec.build source = .ok image
          ∧ image.bytes.length = spec.size
          ∧ effect (install offset image.bytes) flash = (.ok (), flash')
          ∧ (∀ loader : Loader g, effect (Board.validate offset) ⟨flash', loader⟩
              = (.ok image.header, ⟨flash', loader⟩))
          ∧ (∀ i : Nat, flash'.cells[i]?
              = if offset ≤ i ∧ i < offset + spec.size then image.bytes[i - offset]?
                else if pageBase offset g.eraseSize ≤ i
                  ∧ i < pageEnd (offset + spec.size) g.eraseSize then some erasedByte
                else flash.cells[i]?)
          ∧ ∀ size, 0 < size → image.Chunked size)
      ∧ ∀ (offset : Nat) (data : List UInt8) (e : FlashError) (flash' : Flash g),
          effect (install offset data) flash = (.error e, flash') → flash' = flash := by
  refine ⟨fun hbytes hmuted hworks spec offset hlow hhigh hroom => ?_,
    fun _ _ _ _ herror => install_of_error herror⟩
  -- Nothing is asked of the source but that it gives as many bytes as are wanted.
  obtain ⟨image, hbuild, hmade⟩ := ImageSpec.build_of_fits source hlow hhigh
  have hlength := hmade.length_eq
  rw [← hlength] at hroom hhigh
  have hstands : (flash.installed offset image.bytes).slice offset image.bytes.length = image.bytes :=
    slice_splice _ offset image.bytes hroom
  have hholds := hmade.holdsImage hbytes hroom hstands
  refine ⟨image, flash.installed offset image.bytes, hbuild, hlength, effect_install hworks hroom,
    fun loader => Board.effect_validate_of_holdsImage hmuted hholds, ?_,
    fun size hsize => Image.numbered_chunks hsize hhigh⟩
  rw [← hlength]
  exact getElem?_installed hroom flash

/-- An image with four bytes of payload, put across the pages of another one. -/
theorem Factory.install_validates_across :
    ∃ image flash', ImageSpec.build { size := 84 } Random.source = .ok image
      ∧ effect (Flash.install 5 image.bytes) flash = (.ok (), flash')
      ∧ effect (Board.validate 5) ⟨flash', loader⟩ = (.ok image.header, ⟨flash', loader⟩)
      ∧ flash.cells[0]? ≠ some erasedByte ∧ flash'.cells[0]? = some erasedByte := by
  obtain ⟨image, flash', hbuild, _, hinstall, hvalidate, hcells, _⟩ :=
    (Flash.install_validates Random.source .tiny flash).1 rfl rfl rfl { size := 84 } 5 (by decide)
      (by decide) (by decide)
  refine ⟨image, flash', hbuild, hinstall, hvalidate loader, by decide +kernel, ?_⟩
  rw [hcells 0]
  rfl

end DualSlot
