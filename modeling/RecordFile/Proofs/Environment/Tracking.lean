/-
How an environment lags behind its file, and what refreshing makes of it.

An environment tracks the contents of its file when it maps no more than the map and its
snapshot was read some commits ago. Generations are counted modulo `UInt64.size`, so only
fewer missed commits than that tell a snapshot that is out of date from a current one.
That the records of a snapshot can be written does not depend on its age.
-/

import RecordFile.Proofs.Contents

namespace RecordFile

structure Snapshot.Sound (snapshot : Snapshot) : Prop where
  dataLength_eq : snapshot.dataLength = snapshot.records.encodedLength
  storable : snapshot.records.Storable

structure Snapshot.Shows (snapshot : Snapshot) (contents : Contents) : Prop where
  records_eq : snapshot.records = contents.records
  dataOffset_eq : snapshot.dataOffset = contents.header.dataOffset.toNat
  dataLength_eq : snapshot.dataLength = contents.header.dataLength.toNat

namespace Environment

/-- The environment maps no more than the map, and what it has read is at most `age` commits
old. -/
structure Tracks (env : Environment) (contents : Contents) (age : Nat) : Prop where
  mapSize_le : env.mapSize ≤ contents.header.mapSize
  sound : env.snapshot.generation? ≠ none → env.snapshot.Sound
  lag : ∀ generation, env.snapshot.generation? = some generation →
    ∃ missed ≤ age, contents.header.generation = generation + UInt64.ofNat missed ∧
      (missed = 0 → env.snapshot.Shows contents)

structure UpToDate (env : Environment) (contents : Contents) : Prop where
  mapSize_eq : env.mapSize = contents.header.mapSize
  generation?_eq : env.snapshot.generation? = some contents.header.generation

structure Kin (env env' : Environment) : Prop where
  flags_eq : env'.flags = env.flags
  room_eq : env'.room = env.room

theorem Kin.refl (env : Environment) : env.Kin env :=
  ⟨rfl, rfl⟩

theorem Kin.trans {first second third : Environment} (before : first.Kin second)
    (after : second.Kin third) : first.Kin third :=
  ⟨after.flags_eq.trans before.flags_eq, after.room_eq.trans before.room_eq⟩

def Mappable (room : Nat) (size : UInt64) : Prop :=
  size.toNat ≤ Image.longest ∧ size.toNat ≤ room

theorem Mappable.mono {room : Nat} {size top : UInt64} (mappable : Mappable room top)
    (below : size ≤ top) : Mappable room size := by
  have less := UInt64.le_iff_toNat_le.mp below
  exact ⟨Nat.le_trans less mappable.1, Nat.le_trans less mappable.2⟩

variable {env env' : Environment} {file file' : Image} {contents after : Contents}
  {age bumps : Nat}

/-! ### Lagging -/

/-- With fewer missed commits than there are generations, the same generation means that none was
missed. -/
theorem missed_eq_zero {generation : UInt64} {missed : Nat} (short : missed < UInt64.size)
    (same : generation = generation + UInt64.ofNat missed) : missed = 0 := by
  have balance : generation + 0 = generation + UInt64.ofNat missed := by
    rw [UInt64.add_zero]
    exact same
  have none : UInt64.ofNat missed = 0 := ((UInt64.add_right_inj _).mp balance).symm
  have small := congrArg UInt64.toNat none
  rw [UInt64.toNat_ofNat_of_lt' short] at small
  exact small

namespace Tracks

theorem mono (tracks : env.Tracks contents age) {later : Nat} (older : age ≤ later) :
    env.Tracks contents later where
  mapSize_le := tracks.mapSize_le
  sound := tracks.sound
  lag := by
    intro generation read
    obtain ⟨missed, bound, rest⟩ := tracks.lag generation read
    exact ⟨missed, Nat.le_trans bound older, rest⟩

theorem withRoom (tracks : env.Tracks contents age) (room : Nat) :
    Tracks { env with room := room } contents age :=
  ⟨tracks.mapSize_le, tracks.sound, tracks.lag⟩

/-- What somebody else does to the file makes an environment older, at most. -/
theorem advance (tracks : env.Tracks contents age)
    (advances : Advances bumps file contents file' after) : env.Tracks after (age + bumps) where
  mapSize_le := UInt64.le_trans tracks.mapSize_le advances.mapSize_le
  sound := tracks.sound
  lag := by
    intro generation read
    obtain ⟨missed, bound, behind, shows⟩ := tracks.lag generation read
    refine ⟨missed + bumps, by omega, ?_, ?_⟩
    · rw [advances.generation_eq, behind, UInt64.ofNat_add, UInt64.add_assoc]
    · intro none
      have still := shows (by omega)
      have sameHeader := advances.header_eq (by omega)
      refine ⟨?_, ?_, ?_⟩
      · rw [advances.records_eq (by omega)]
        exact still.records_eq
      · rw [sameHeader]
        exact still.dataOffset_eq
      · rw [sameHeader]
        exact still.dataLength_eq

/-- With fewer missed commits than there are generations, a snapshot of the generation in
the file is what the file holds. -/
theorem shows (tracks : env.Tracks contents age) (short : age < UInt64.size)
    (current : env.snapshot.generation? = some contents.header.generation) :
    env.snapshot.Shows contents := by
  obtain ⟨missed, bound, behind, shows⟩ := tracks.lag _ current
  exact shows (missed_eq_zero (by omega) behind)

end Tracks

theorem tracks_forget (le : env.mapSize ≤ contents.header.mapSize) (age : Nat) :
    env.forget.Tracks contents age where
  mapSize_le := le
  sound := fun read => absurd rfl read
  lag := fun _ read => nomatch read

/-! ### Refreshing -/

/-- A remapping is made, or refused for a size that cannot be mapped. The refusal is not the
one that setting a length gives. -/
theorem remap_cases (env : Environment) (size : UInt64) :
    (Mappable env.room size ∧ env.remap size = .ok { env with mapSize := size }) ∨
      (¬ Mappable env.room size ∧
        ∃ cause, cause ≠ .lengthTooLarge ∧ env.remap size = .error cause) := by
  unfold remap Mappable
  split
  · exact Or.inr ⟨by omega, _, by decide, rfl⟩
  · split
    · exact Or.inr ⟨by omega, _, by decide, rfl⟩
    · exact Or.inl ⟨by omega, rfl⟩

theorem follow_cases (env : Environment) (header : Header) (le : env.mapSize ≤ header.mapSize) :
    (∃ env', env.follow header = .ok env' ∧ env'.mapSize = header.mapSize ∧
      env'.snapshot = env.snapshot ∧ env.Kin env') ∨
      (¬ Mappable env.room header.mapSize ∧
        ∃ cause, cause ≠ .lengthTooLarge ∧ env.follow header = .error cause) := by
  unfold follow
  split
  · rcases env.remap_cases header.mapSize with ⟨_, done⟩ | ⟨far, cause, other, refused⟩
    · rw [done]
      exact Or.inl ⟨_, rfl, rfl, rfl, rfl, rfl⟩
    · rw [refused]
      exact Or.inr ⟨far, cause, other, rfl⟩
  · next mapped =>
      exact Or.inl ⟨env, rfl, UInt64.le_antisymm le (UInt64.not_lt.mp mapped), rfl, Kin.refl env⟩

/-- Refreshing brings an environment up to date, or is refused a mapping and changes
nothing. -/
theorem refresh_cases (holds : file.Holds contents) (tracks : env.Tracks contents age) :
    (∃ env', env.refresh file = (.ok (), env') ∧ env'.Tracks contents age ∧
      env'.UpToDate contents ∧ env.Kin env') ∨
      (¬ Mappable env.room contents.header.mapSize ∧ ∃ cause, cause ≠ .lengthTooLarge ∧
        env.refresh file = (.error (.io cause), env)) := by
  unfold refresh
  rw [holds.readable]
  dsimp only
  rcases env.follow_cases contents.header tracks.mapSize_le with
    ⟨env', followed, mapped, same, kin⟩ | ⟨far, cause, other, refused⟩
  · rw [followed]
    left
    dsimp only
    split
    · next current =>
        refine ⟨env', rfl, ⟨UInt64.le_of_eq mapped, ?_, ?_⟩, ⟨mapped, current⟩, kin⟩
        · rw [same]
          exact tracks.sound
        · rw [same]
          exact tracks.lag
    · rw [holds.decoded]
      refine ⟨_, rfl, ⟨UInt64.le_of_eq mapped, ?_, ?_⟩, ⟨mapped, rfl⟩, kin.flags_eq, kin.room_eq⟩
      · exact fun _ => ⟨holds.dataLength_eq, holds.storable⟩
      · intro generation read
        cases read
        exact ⟨0, Nat.zero_le _, (UInt64.add_zero _).symm, fun _ => ⟨rfl, rfl, rfl⟩⟩
  · rw [refused]
    exact Or.inr ⟨far, cause, other, rfl⟩

def news? (mapped size : UInt64) : Option UInt64 :=
  if mapped < size then some size else none

theorem news?_self (size : UInt64) : news? size size = none :=
  if_neg (UInt64.lt_irrefl size)

structure Notices (env : Environment) (size : UInt64) (env' : Environment) : Prop where
  mapSize_eq : env'.mapSize = size
  resized?_eq : env'.resized? = news? env.mapSize size

theorem refresh_notices (holds : file.Holds contents)
    (within : env.mapSize ≤ contents.header.mapSize) (taken : env.resized? = none)
    (refreshed : env.refresh file = (.ok (), env')) :
    env.Notices contents.header.mapSize env' := by
  have followed : ∀ {next}, env.follow contents.header = .ok next →
      env.Notices contents.header.mapSize next := by
    intro next followed
    unfold follow at followed
    split at followed
    · next less =>
        rcases env.remap_cases contents.header.mapSize with ⟨_, done⟩ | ⟨_, _, _, refused⟩
        · rw [done] at followed
          cases followed
          exact ⟨rfl, (if_pos less).symm⟩
        · rw [refused] at followed
          cases followed
    · next enough =>
        cases followed
        exact ⟨UInt64.le_antisymm within (UInt64.not_lt.mp enough),
          taken.trans (if_neg enough).symm⟩
  unfold refresh at refreshed
  rw [holds.readable] at refreshed
  dsimp only at refreshed
  split at refreshed
  · cases refreshed
  · next next mapped =>
      obtain ⟨mapSizeEq, resizedEq⟩ := followed mapped
      split at refreshed
      · cases refreshed
        exact ⟨mapSizeEq, resizedEq⟩
      · rw [holds.decoded] at refreshed
        cases refreshed
        exact ⟨mapSizeEq, resizedEq⟩

theorem Tracks.sound_transaction (tracks : env.Tracks contents age)
    (current : env.UpToDate contents) : env.transaction.Sound := by
  have sound := tracks.sound (by rw [current.generation?_eq]; exact Option.some_ne_none _)
  exact ⟨sound.dataLength_eq, sound.storable⟩

theorem beginWrite_cases (holds : file.Holds contents) (tracks : env.Tracks contents age) :
    (env.flags.readOnly = true ∧ env.beginWrite file = (.error .readOnly, env)) ∨
    (env.flags.readOnly = false ∧ ∃ env', env.beginWrite file = (.ok env'.transaction, env') ∧
      env'.Tracks contents age ∧ env'.UpToDate contents ∧ env.Kin env') ∨
    (env.flags.readOnly = false ∧ ¬ Mappable env.room contents.header.mapSize ∧
      ∃ cause, env.beginWrite file = (.error (.io cause), env)) := by
  unfold beginWrite
  split
  · next reader => exact Or.inl ⟨reader, rfl⟩
  · next writer =>
      have writer : env.flags.readOnly = false := by simpa using writer
      rcases refresh_cases holds tracks with
        ⟨env', refreshed, tracks', current, kin⟩ | ⟨far, cause, _, refused⟩
      · rw [refreshed]
        exact Or.inr (Or.inl ⟨writer, env', rfl, tracks', current, kin⟩)
      · rw [refused]
        exact Or.inr (Or.inr ⟨writer, far, cause, rfl⟩)

/-! ### Committing -/

def published (env : Environment) (header : Header) (offset : Nat) (txn : Transaction) :
    Environment :=
  { env with
    snapshot :=
      { generation? := some (header.generation + 1)
        records := txn.records
        dataOffset := offset
        dataLength := txn.dataLength } }

/-- A commit is refused to a reader or for want of a place, and otherwise publishes. -/
theorem commit_cases (env : Environment) (txn : Transaction) (holds : file.Holds contents) :
    (env.flags.readOnly = true ∧ env.commit txn file = (.error .readOnly, env.forget, file)) ∨
    (env.flags.readOnly = false ∧
      Placement.place? env.mapSize.toNat contents.header.dataOffset.toNat
        contents.header.dataLength.toNat txn.dataLength = none ∧
      env.commit txn file = (.error (.mapFull
        (Layout.headerSize + contents.header.dataLength.toNat + txn.dataLength)
        env.mapSize.toNat), env.forget, file)) ∨
    (env.flags.readOnly = false ∧ ∃ offset,
      Placement.place? env.mapSize.toNat contents.header.dataOffset.toNat
        contents.header.dataLength.toNat txn.dataLength = some offset ∧
      env.commit txn file = (.ok (), env.published contents.header offset txn,
        publish env.flags (successor contents.header offset txn) txn.records.encode file)) := by
  unfold commit
  split
  · next reader => exact Or.inl ⟨reader, rfl⟩
  · next writer =>
      rw [holds.readable]
      dsimp only
      split
      · next full => exact Or.inr (Or.inl ⟨by simpa using writer, full, rfl⟩)
      · next offset found =>
          exact Or.inr (Or.inr ⟨by simpa using writer, offset, found, rfl⟩)

theorem tracks_published (env : Environment) {txn : Transaction} {offset mapSize : Nat}
    (placed : Placed contents txn mapSize offset) (le : env.mapSize ≤ contents.header.mapSize)
    (age : Nat) :
    (env.published contents.header offset txn).Tracks
      ⟨successor contents.header offset txn, txn.records⟩ age where
  mapSize_le := le
  sound := fun _ => ⟨placed.sound.dataLength_eq, placed.sound.storable⟩
  lag := by
    intro generation read
    cases read
    exact ⟨0, Nat.zero_le _, (UInt64.add_zero _).symm, fun _ =>
      ⟨rfl, placed.dataOffset_eq.symm, placed.dataLength_eq.symm⟩⟩

end Environment

end RecordFile
