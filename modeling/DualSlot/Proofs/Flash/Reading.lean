import DualSlot.Flash.Checksum
import DualSlot.Proofs.Action
import DualSlot.Proofs.Flash.Region

/-!
# Calls that only read

A read may be made to fail by a fault plan, and moves the plan on by one call; it touches nothing
else. `Action.OnlyReads` says so of a whole call, and says in addition that planned faults are the only
difference to a flash without a plan: a call whose reads all go through answers as it does there.

* `Flash.afterReads` is the flash after some reads, and `Flash.Admits` says that these go through.
* `Action.OnlyReads.bind` and its companions: calls made of reads only read.
* `Flash.checksum_of_ok` and `Flash.effect_checksum`: a checksum that is answered is the CRC-32 of
  the region, however it is cut into reads.
-/

namespace DualSlot

/-! ## Fault plans moved on -/

namespace Flash

variable {g : Geometry}

/-- The flash after a number of reads. -/
def afterReads (flash : Flash g) (count : Nat) : Flash g :=
  { flash with
    readPlan := flash.readPlan.map fun plan => { plan with calls := plan.calls + count } }

/-- The flash without planned faults of reads. -/
def mute (flash : Flash g) : Flash g := { flash with readPlan := none }

/-- The next `count` reads are not made to fail. -/
def Admits (flash : Flash g) (count : Nat) : Prop :=
  ∀ plan, flash.readPlan = some plan →
    ∀ call, plan.calls ≤ call → call < plan.calls + count → plan.verdict call = none

/-- Reads change no byte. -/
@[simp] theorem cells_afterReads (flash : Flash g) (count : Nat) :
    (flash.afterReads count).cells = flash.cells := rfl

@[simp] theorem cells_mute (flash : Flash g) : flash.mute.cells = flash.cells := rfl

@[simp] theorem slice_mute (flash : Flash g) (offset length : Nat) :
    flash.mute.slice offset length = flash.slice offset length := rfl

@[simp] theorem afterReads_zero (flash : Flash g) : flash.afterReads 0 = flash := by
  rcases flash with ⟨cells, eraseBroken, _ | plan, writePlan⟩ <;> rfl

/-- Some reads and some more are so many reads together. -/
theorem afterReads_add (flash : Flash g) (m n : Nat) :
    flash.afterReads (m + n) = (flash.afterReads m).afterReads n := by
  rcases flash with ⟨cells, eraseBroken, _ | plan, writePlan⟩
  · rfl
  · simp [afterReads, Nat.add_assoc]

/-- Without a plan there is nothing to move on. -/
theorem afterReads_of_muted {flash : Flash g} (h : flash.readPlan = none) (count : Nat) :
    flash.afterReads count = flash := by
  rcases flash with ⟨cells, eraseBroken, _ | plan, writePlan⟩
  · rfl
  · cases h

@[simp] theorem mute_afterReads (flash : Flash g) (count : Nat) :
    (flash.afterReads count).mute = flash.mute := rfl

/-- Without a plan all reads go through. -/
theorem admits_of_muted {flash : Flash g} (h : flash.readPlan = none) (count : Nat) :
    flash.Admits count := by
  intro plan hplan
  cases h.symm.trans hplan

/-- Reads go through if the first ones do, and the others on the plan that was moved on by the
first. -/
theorem admits_add {flash : Flash g} {m n : Nat} :
    flash.Admits (m + n) ↔ flash.Admits m ∧ (flash.afterReads m).Admits n := by
  constructor
  · intro h
    refine ⟨fun plan hplan call hlow hhigh => h plan hplan call hlow (by omega), ?_⟩
    intro plan hplan call hlow hhigh
    -- The plan after the first reads counts its calls from there.
    obtain ⟨before, hbefore, rfl⟩ := Option.map_eq_some_iff.mp hplan
    simp only at hlow hhigh
    exact h before hbefore call (by omega) (by omega)
  · rintro ⟨hfirst, hsecond⟩ plan hplan call hlow hhigh
    have hmid : (flash.afterReads m).readPlan = some { plan with calls := plan.calls + m } := by
      rw [afterReads, hplan]
      rfl
    -- A call is one of the first ones or one of the others.
    by_cases hin : call < plan.calls + m
    · exact hfirst plan hplan call hlow hin
    · exact hsecond _ hmid call (Nat.le_of_not_lt hin) (by rwa [Nat.add_assoc])

end Flash

/-! ## Only reading -/

/-- A state with a flash in it. -/
class OverFlash (σ : Type) (g : outParam Geometry) where
  flash : σ → Flash g
  /-- The same state with no planned faults of reads. -/
  mute : σ → σ

instance {g : Geometry} : OverFlash (Flash g) g where
  flash := id
  mute := Flash.mute

namespace Action

variable {ω σ ε ε' α β : Type} {g : Geometry} [OverFlash σ g]

/-- The call does nothing to the flash but read. If all its reads go through, it answers as without a
fault plan, and leaves the same state but for the plan. -/
def OnlyReads (x : Action ω σ ε α) : Prop :=
  ∀ s, ∃ count, OverFlash.flash (effect x s).2 = (OverFlash.flash s).afterReads count
    ∧ ((OverFlash.flash s).Admits count →
        effect x (OverFlash.mute s) = ((effect x s).1, OverFlash.mute (effect x s).2))

/-- A call that does not touch the flash only reads, with no read at all. -/
theorem onlyReads_of_untouched {x : Action ω σ ε α}
    (h : ∀ s, OverFlash.flash (effect x s).2 = OverFlash.flash s
      ∧ effect x (OverFlash.mute s) = ((effect x s).1, OverFlash.mute (effect x s).2)) :
    OnlyReads x := by
  intro s
  refine ⟨0, ?_, fun _ => (h s).2⟩
  rw [Flash.afterReads_zero]
  exact (h s).1

/-- To answer is not to read. -/
theorem onlyReads_pure (a : α) : OnlyReads (pure a : Action ω σ ε α) :=
  onlyReads_of_untouched fun _ => ⟨rfl, rfl⟩

theorem onlyReads_fail (e : ε) : OnlyReads (fail e : Action ω σ ε α) :=
  onlyReads_of_untouched fun _ => ⟨rfl, rfl⟩

theorem onlyReads_say (event : ω) : OnlyReads (say event : Action ω σ ε Unit) :=
  onlyReads_of_untouched fun _ => ⟨rfl, rfl⟩

/-- A call that only reads and goes on with such calls only reads. -/
theorem OnlyReads.bind {x : Action ω σ ε α} {f : α → Action ω σ ε β} (hx : OnlyReads x)
    (hf : ∀ a, OnlyReads (f a)) : OnlyReads (x >>= f) := by
  intro s
  -- The reads of both calls add up.
  obtain ⟨m, hflash, hmute⟩ := hx s
  simp only [effect_bind]
  rcases hr : effect x s with ⟨r, s'⟩
  rw [hr] at hflash hmute
  cases r with
  | error e =>
    refine ⟨m, hflash, fun hadmits => ?_⟩
    rw [hmute hadmits]
    rfl
  | ok a =>
    -- The second call goes on with the plan where the first one left it.
    obtain ⟨n, hflash', hmute'⟩ := hf a s'
    refine ⟨m + n, ?_, fun hadmits => ?_⟩
    · rw [Flash.afterReads_add, ← hflash]
      exact hflash'
    · obtain ⟨hfirst, hsecond⟩ := Flash.admits_add.mp hadmits
      rw [← hflash] at hsecond
      rw [hmute hfirst]
      exact hmute' hsecond

/-- To catch an error is not to read. -/
theorem OnlyReads.attempt {x : Action ω σ ε α} (hx : OnlyReads x) :
    OnlyReads (x.attempt : Action ω σ ε' (Except ε α)) := by
  intro s
  obtain ⟨count, hflash, hmute⟩ := hx s
  refine ⟨count, hflash, fun hadmits => ?_⟩
  rw [effect_attempt, hmute hadmits]
  rfl

/-- A call that only reads changes no byte. -/
theorem OnlyReads.cells_eq {x : Action ω (Flash g) ε α} (hx : OnlyReads x) (flash : Flash g) :
    (effect x flash).2.cells = flash.cells := by
  obtain ⟨count, hafter, _⟩ := hx flash
  rw [show (effect x flash).2 = flash.afterReads count from hafter]
  rfl

end Action

/-! ## The reads of a flash -/

namespace Flash

open DualSlot.Action

variable {g : Geometry} {ε : Type}

/-- The planned fault of the next read. -/
def readFault (flash : Flash g) : Option FlashError := flash.readPlan.bind (·.now)

/-- The next read has no fault just if it is admitted. -/
theorem readFault_eq_none_iff (flash : Flash g) : flash.readFault = none ↔ flash.Admits 1 := by
  rcases flash with ⟨cells, eraseBroken, _ | plan, writePlan⟩
  · exact iff_of_true rfl fun plan hplan => nomatch hplan
  · constructor
    · intro h plan' hplan call hlow hhigh
      obtain rfl := Option.some.inj hplan
      -- Of the calls in question there is one, the next one.
      obtain rfl : call = plan.calls := by omega
      exact h
    · exact fun h => h plan rfl plan.calls (Nat.le_refl _) (Nat.lt_succ_self _)

/-- A read asks the plan first, and moves it on. -/
theorem effect_admitRead (flash : Flash g) :
    effect admitRead flash
      = (match flash.readFault with
          | none => .ok ()
          | some e => .error e, flash.afterReads 1) := by
  rcases flash with ⟨cells, eraseBroken, _ | plan, writePlan⟩
  · rfl
  · unfold effect admitRead readFault
    simp only [Option.bind_some]
    cases plan.now <;> rfl

/-- A read answers the bytes of the region, unless it is made to fail or its place is wrong. -/
theorem effect_read (flash : Flash g) (offset length : Nat) :
    effect (read offset length) flash
      = (match flash.readFault with
          | none => (g.checkRead offset length).map fun _ => flash.slice offset length
          | some e => .error e, flash.afterReads 1) := by
  unfold read
  rw [effect_bind, effect_admitRead]
  cases flash.readFault with
  | some e => rfl
  | none =>
    simp only [resume_ok, effect_bind, effect_ofExcept]
    cases g.checkRead offset length <;> rfl

/-- A read that is admitted answers the bytes of the region, if its place is proper. -/
theorem effect_read_of_admits {flash : Flash g} (hadmits : flash.Admits 1) {offset length : Nat}
    (hplace : g.checkRead offset length = .ok ()) :
    effect (read offset length) flash = (.ok (flash.slice offset length), flash.afterReads 1) := by
  rw [effect_read, flash.readFault_eq_none_iff.mpr hadmits, hplace]
  rfl

/-- Bytes that are answered were admitted and are those of the region. -/
theorem read_answers {flash flash' : Flash g} {offset length : Nat} {bytes : List UInt8}
    (h : effect (read offset length) flash = (.ok bytes, flash')) :
    flash.Admits 1 ∧ g.checkRead offset length = .ok () ∧ bytes = flash.slice offset length
      ∧ flash' = flash.afterReads 1 := by
  rw [effect_read] at h
  obtain ⟨hanswer, rfl⟩ := Prod.mk.inj h
  -- A fault and a wrong place are both no answer.
  cases hfault : flash.readFault with
  | some e =>
    rw [hfault] at hanswer
    cases hanswer
  | none =>
    rw [hfault] at hanswer
    cases hplace : g.checkRead offset length with
    | error e =>
      rw [hplace] at hanswer
      cases hanswer
    | ok _ =>
      rw [hplace] at hanswer
      exact ⟨flash.readFault_eq_none_iff.mp hfault, rfl, (Except.ok.inj hanswer).symm, rfl⟩

/-- A read only reads, whatever it answers. -/
theorem onlyReads_read (offset length : Nat) :
    OnlyReads (read offset length : FlashAction g (List UInt8)) := by
  intro flash
  refine ⟨1, ?_, fun hadmits => ?_⟩
  · rw [effect_read]
    rfl
  · -- A read that is admitted has no fault of its own, just as without a plan.
    have hmuted : flash.mute.readFault = none := rfl
    have hfault : flash.readFault = none := flash.readFault_eq_none_iff.mpr hadmits
    simp only [OverFlash.mute, effect_read, hmuted, hfault, slice_mute]
    rfl

/-- So does the read of a word, which answers in any case. -/
theorem onlyReads_readWord (offset : Nat) :
    OnlyReads (readWord offset : Action FlashMessage (Flash g) ε UInt32) := by
  unfold readWord
  refine (onlyReads_read offset 4).attempt.bind fun answer => ?_
  cases answer with
  | ok bytes => exact onlyReads_pure _
  | error e => exact onlyReads_pure _

/-- The streaming loop reads piece by piece. -/
theorem onlyReads_feed (count offset length : Nat) (register : UInt32) :
    OnlyReads (feed count offset length register : FlashAction g UInt32) := by
  induction count generalizing offset length register with
  | zero => exact onlyReads_pure register
  | succ count ih =>
    unfold feed
    exact (onlyReads_read _ _).bind fun piece => ih _ _ _

/-- A checksum is the loop, and what is made of its register. -/
theorem onlyReads_checksum (offset length : Nat) :
    OnlyReads (checksum offset length : FlashAction g UInt32) := by
  unfold checksum
  exact (onlyReads_feed _ _ _ _).bind fun register => onlyReads_pure _

end Flash

/-! ## Checksums -/

namespace Geometry

/-- A region can be read in the pieces of a checksum: each of them has a proper place. -/
def Feeds (g : Geometry) : (count offset length : Nat) → Prop
  | 0, _, _ => True
  | count + 1, offset, length =>
    g.checkRead offset (min Flash.checksumBuffer length) = .ok ()
      ∧ g.Feeds count (offset + Flash.checksumBuffer) (length - Flash.checksumBuffer)

/-- What passes the check of its place lies inside the flash. -/
theorem le_capacity_of_checkSlice {g : Geometry} {alignment offset length : Nat}
    (h : g.checkSlice alignment offset length = .ok ()) : offset + length ≤ g.capacity := by
  unfold checkSlice at h
  split at h
  · cases h
  · omega

end Geometry

namespace Flash

open DualSlot.Action

variable {g : Geometry}

/-- The number of reads of a checksum. -/
def checksumReads (length : Nat) : Nat := (length + checksumBuffer - 1) / checksumBuffer

/-- So many reads are enough for the whole region. -/
theorem le_checksumReads (length : Nat) : length ≤ checksumReads length * checksumBuffer := by
  unfold checksumReads checksumBuffer
  omega

/-- One read less is enough for what the first one leaves. -/
theorem le_of_le_succ_mul {count length : Nat} (h : length ≤ (count + 1) * checksumBuffer) :
    length - checksumBuffer ≤ count * checksumBuffer := by
  rw [Nat.succ_mul] at h
  omega

/-- The first piece of a region, and the rest of it. -/
theorem slice_piece (flash : Flash g) {offset length : Nat}
    (h : g.checkRead offset (min checksumBuffer length) = .ok ()) :
    flash.slice offset length
      = flash.slice offset (min checksumBuffer length)
        ++ flash.slice (offset + checksumBuffer) (length - checksumBuffer) := by
  have hroom := Geometry.le_capacity_of_checkSlice h
  -- The last piece may be shorter than the buffer, and then it is the whole region.
  by_cases hlast : length ≤ checksumBuffer
  · rw [Nat.min_eq_right hlast, Nat.sub_eq_zero_of_le hlast, slice_zero, List.append_nil]
  · have hfull : min checksumBuffer length = checksumBuffer := Nat.min_eq_left (by omega)
    have hsplit : length = checksumBuffer + (length - checksumBuffer) := by omega
    rw [hfull] at hroom ⊢
    rw [← slice_append flash offset _ _ hroom, ← hsplit]

/-- Whatever faults are planned: an answer of the streaming loop comes from the bytes of the region, by
reads that were all admitted. -/
theorem feed_of_ok {count offset length : Nat} {register answer : UInt32} {flash : Flash g}
    (hcover : length ≤ count * checksumBuffer)
    (h : (effect (feed count offset length register) flash).1 = .ok answer) :
    flash.Admits count ∧ g.Feeds count offset length
      ∧ answer = Crc32.update register (flash.slice offset length) := by
  -- The register carries the checksum of what was read before.
  induction count generalizing offset length register flash with
  | zero =>
    have hempty : length = 0 := by omega
    subst hempty
    rw [slice_zero]
    exact ⟨fun _ _ call hlow hhigh => by omega, trivial, (Except.ok.inj h).symm⟩
  | succ count ih =>
    unfold feed at h
    obtain ⟨piece, flash', hread, h⟩ := bind_answers h
    obtain ⟨hadmits, hcheck, rfl, rfl⟩ := read_answers hread
    -- The first piece is the one in the flash, so the register goes on with it.
    obtain ⟨hlater, hrest, hanswer⟩ := ih (le_of_le_succ_mul hcover) h
    refine ⟨?_, ⟨hcheck, hrest⟩, ?_⟩
    · rw [Nat.add_comm]
      exact admits_add.mpr ⟨hadmits, hlater⟩
    · rw [slice_piece flash hcheck, Crc32.update_append]
      exact hanswer

/-- If its reads are admitted, the streaming loop answers wherever they have a proper place. -/
theorem effect_feed {count offset length : Nat} {register : UInt32} {flash : Flash g}
    (hadmits : flash.Admits count) (hcover : length ≤ count * checksumBuffer)
    (h : g.Feeds count offset length) :
    effect (feed count offset length register) flash
      = (.ok (Crc32.update register (flash.slice offset length)), flash.afterReads count) := by
  -- The bytes of the flash are the same in every round; only the plan moves on.
  induction count generalizing offset length register flash with
  | zero =>
    have hempty : length = 0 := by omega
    subst hempty
    rw [slice_zero, afterReads_zero]
    rfl
  | succ count ih =>
    obtain ⟨hcheck, hrest⟩ := h
    rw [Nat.add_comm] at hadmits
    obtain ⟨hfirst, hlater⟩ := admits_add.mp hadmits
    unfold feed
    rw [effect_bind, effect_read_of_admits hfirst hcheck, resume_ok,
      ih hlater (le_of_le_succ_mul hcover) hrest, slice_piece flash hcheck, Crc32.update_append,
      ← afterReads_add, Nat.add_comm 1]
    rfl

/-- A checksum that was answered is that of the region, all reads of which went through. -/
theorem checksum_of_ok {offset length : Nat} {answer : UInt32} {flash : Flash g}
    (h : (effect (checksum offset length) flash).1 = .ok answer) :
    flash.Admits (checksumReads length) ∧ g.Feeds (checksumReads length) offset length
      ∧ answer = Crc32.checksum (flash.slice offset length) := by
  obtain ⟨register, flash', hfeed, hanswer⟩ := bind_answers h
  have hok : (effect (feed (checksumReads length) offset length Crc32.start) flash).1
      = .ok register := congrArg Prod.fst hfeed
  obtain ⟨hadmits, hfeeds, hregister⟩ := feed_of_ok (le_checksumReads length) hok
  refine ⟨hadmits, hfeeds, ?_⟩
  rw [← Except.ok.inj hanswer, hregister, Crc32.checksum]

/-- A checksum is answered where its reads are admitted and have proper places. -/
theorem effect_checksum {offset length : Nat} {flash : Flash g}
    (hadmits : flash.Admits (checksumReads length)) (h : g.Feeds (checksumReads length) offset length) :
    effect (checksum offset length) flash
      = (.ok (Crc32.checksum (flash.slice offset length)),
          flash.afterReads (checksumReads length)) := by
  have hfeed : effect (feed (checksumReads length) offset length Crc32.start) flash
      = (.ok (Crc32.update Crc32.start (flash.slice offset length)),
          flash.afterReads (checksumReads length)) :=
    effect_feed hadmits (le_checksumReads length) h
  rw [checksumReads] at hfeed
  unfold checksum
  rw [effect_bind, hfeed]
  rfl

end Flash

end DualSlot
