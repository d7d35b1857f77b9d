import DualSlot.Firmware.Image
import DualSlot.Proofs.Firmware.Header

/-!
# Generated images

An image is generated from any settings whose size leaves room for a payload and fits into the header
(`ImageSpec.build_of_fits`). It is as large as they say, and its header tells the truth about the
payload behind it (`Image.Sealed`). The payload may come from any source: nothing of it is used but its
length.
-/

namespace DualSlot

/-! ## Sealed images -/

namespace Image

/-- There is a payload, and the header tells its size and its checksum. -/
structure Sealed (image : Image) : Prop where
  payload_ne : image.payload ≠ []
  magic_eq : image.header.magic = firmwareMagic
  size_eq : image.header.size.toNat = image.bytes.length
  crc32_eq : image.header.crc32 = Crc32.checksum image.payload

theorem length_bytes (image : Image) :
    image.bytes.length = Header.length + image.payload.length := by
  rw [bytes, List.length_append, Header.length_encode]

namespace Sealed

variable {image : Image}

theorem length_lt (h : image.Sealed) : Header.length < image.bytes.length := by
  have hpayload := List.length_pos_iff.mpr h.payload_ne
  rw [length_bytes]
  omega

/-- With an entry point the header is one that a session takes. -/
theorem wellShaped (h : image.Sealed) (hentry : image.header.entryPoint ≠ 0) :
    image.header.wellShaped = true := by
  have hlength := h.length_lt
  have hsize : image.header.size ≠ 0 := by
    intro hzero
    have hnone := h.size_eq
    rw [hzero, UInt32.toNat_zero] at hnone
    omega
  simp [Header.wellShaped, h.magic_eq, hsize, hentry]

end Sealed

end Image

/-! ## Generating -/

namespace ImageSpec

variable {spec : ImageSpec}

/-- The image that the settings ask for. -/
structure Made (spec : ImageSpec) (image : Image) : Prop where
  sealed : image.Sealed
  length_eq : image.bytes.length = spec.size
  version_eq : image.header.version = spec.version
  entryPoint_eq : image.header.entryPoint = spec.entryPoint

theorem build_of_noPayload (source : ByteSource) (h : spec.size ≤ Header.length) :
    spec.build source = .error (.noPayload spec.size) := by
  unfold build
  rw [if_pos h]

/-- Another version string is all that can tell the header from the plain one of its payload. -/
theorem header_eq (spec : ImageSpec) (payload : List UInt8) :
    ∃ versionString, spec.header payload
      = { Header.describe spec.version payload spec.entryPoint with
          timestamp := spec.timestamp, versionString } := by
  unfold header
  cases spec.versionString with
  | none => exact ⟨_, rfl⟩
  | some text => exact ⟨_, rfl⟩

theorem build_of_fits (source : ByteSource) (hlow : Header.length < spec.size)
    (hhigh : spec.size < UInt32.size) :
    ∃ image, spec.build source = .ok image ∧ spec.Made image := by
  let payload := source.bytes spec.seed (spec.size - Header.length)
  have hlength : payload.length = spec.size - Header.length := source.length_bytes _ _
  have hpos : 0 < payload.length := by omega
  have hwhole : Header.length + payload.length = spec.size := by omega
  obtain ⟨versionString, hheader⟩ := header_eq spec payload
  -- With the bounds on the size neither refusal applies.
  have hbuild : spec.build source = .ok ⟨spec.header payload, payload⟩ := by
    unfold build
    rw [if_neg (Nat.not_le_of_lt hlow), if_neg (Nat.not_le_of_lt hhigh)]
  refine ⟨_, hbuild, ⟨?_, ?_, ?_, ?_⟩, ?_, ?_, ?_⟩
  · exact List.length_pos_iff.mp hpos
  · rw [hheader]
    rfl
  · rw [hheader, Image.length_bytes]
    exact UInt32.toNat_ofNat_of_lt' (hwhole ▸ hhigh)
  · rw [hheader]
    rfl
  · exact (Image.length_bytes _).trans hwhole
  · rw [hheader]
    rfl
  · rw [hheader]
    rfl

end ImageSpec

end DualSlot
