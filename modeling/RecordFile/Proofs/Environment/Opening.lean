/-
What opening a file comes to.

A writable open raises the map size to the one asked for and discards the records when it
truncates, and only then maps the file. A mapping that is refused leaves a file that was
prepared; a length that is refused leaves it untouched. A read-only open changes nothing,
whatever its flags.
-/

import RecordFile.Proofs.Environment.Tracking
import RecordFile.Word

namespace RecordFile

def OpenFlags.discards (flags : OpenFlags) : Bool :=
  flags.truncate && !flags.readOnly

namespace Environment

open Image

variable {file : Image} {contents : Contents}

/-! ### Preparing the file -/

/-- The map size that a file has once it was prepared for an open. -/
def openedSize (flags : OpenFlags) (asked current : UInt64) : UInt64 :=
  if flags.readOnly then current else max current (max asked Layout.minimumMapSize)

structure Prepared (flags : OpenFlags) (asked : UInt64) (bumps : Nat) (file : Image)
    (before : Contents) (file' : Image) (after : Contents) : Prop where
  advances : Advances bumps file before file' after
  once : bumps ≤ 1
  bumps_eq : flags.discards = false → bumps = 0
  mapSize_eq : after.header.mapSize = openedSize flags asked before.header.mapSize
  records_eq : after.records = if flags.discards then Records.empty else before.records

theorem widen_cases (holds : file.Holds contents) (wanted : UInt64) :
    (∃ file' after, widen contents.header wanted file = .ok (after.header, file') ∧
      Advances 0 file contents file' after ∧
      after.header.mapSize = max contents.header.mapSize wanted ∧
      after.records = contents.records) ∨
    (longest < (max contents.header.mapSize wanted).toNat ∧
      widen contents.header wanted file = .error (.io .lengthTooLarge)) := by
  have larger := left_le_max contents.header.mapSize wanted
  unfold widen
  dsimp only
  split
  · by_cases short : (max contents.header.mapSize wanted).toNat ≤ longest
    · rw [setMapSize_of_le contents.header file short]
      exact Or.inl ⟨_, _, rfl, advances_resized holds larger short, rfl, rfl⟩
    · have beyond := Nat.lt_of_not_le short
      exact Or.inr ⟨beyond, setMapSize_of_lt contents.header file beyond⟩
  · next wide =>
      have same : contents.header.mapSize = max contents.header.mapSize wanted :=
        UInt64.le_antisymm larger (UInt64.not_lt.mp fun less => wide (Or.inl less))
      exact Or.inl ⟨file, contents, rfl, Advances.refl holds, same, rfl⟩

theorem discard_cases (holds : file.Holds contents) :
    ∃ bumps file' after, discard contents.header file = (after.header, file') ∧
      Advances bumps file contents file' after ∧ bumps ≤ 1 ∧
      after.header.mapSize = contents.header.mapSize ∧ after.records = Records.empty := by
  by_cases some : 0 < contents.header.entries
  · obtain ⟨discarded, headerEq⟩ := advances_discard holds some
    refine ⟨1, _, _, ?_, discarded, Nat.le_refl 1, rfl, rfl⟩
    rw [← headerEq]
  · have none : contents.header.entries.toNat = 0 := by
      rw [UInt64.lt_iff_toNat_lt] at some
      exact Nat.eq_zero_of_not_pos some
    refine ⟨0, file, contents, ?_, Advances.refl holds, Nat.zero_le 1, rfl, ?_⟩
    · rw [discard, if_neg some]
    · exact holds.records_eq_empty none

theorem prepare_cases (holds : file.Holds contents) (flags : OpenFlags) (asked : UInt64)
    (writer : flags.readOnly = false) :
    (∃ bumps file' after,
      prepare flags (max asked Layout.minimumMapSize) contents.header file =
        .ok (after.header, file') ∧
      Prepared flags asked bumps file contents file' after) ∨
    (longest < (openedSize flags asked contents.header.mapSize).toNat ∧
      prepare flags (max asked Layout.minimumMapSize) contents.header file =
        .error (.io .lengthTooLarge)) := by
  have sizeEq : openedSize flags asked contents.header.mapSize =
      max contents.header.mapSize (max asked Layout.minimumMapSize) := by
    rw [openedSize, writer]
    rfl
  unfold prepare
  rcases widen_cases holds (max asked Layout.minimumMapSize) with
    ⟨file', after, widened, advances, mapEq, recordsEq⟩ | ⟨beyond, refused⟩
  · rw [widened]
    dsimp only
    left
    have mapEq' := mapEq.trans sizeEq.symm
    by_cases truncates : flags.truncate = true
    · have discards : flags.discards = true := by
        rw [OpenFlags.discards, truncates, writer]
        rfl
      obtain ⟨bumps, file'', last, done, discarded, once, sameMap, recordsEq'⟩ :=
        discard_cases advances.holds
      have both := advances.trans discarded
      rw [Nat.zero_add] at both
      rw [if_pos truncates, done]
      refine ⟨bumps, file'', last, rfl, both, once, ?_, sameMap.trans mapEq', ?_⟩
      · intro keeps
        rw [discards] at keeps
        cases keeps
      · rw [if_pos discards]
        exact recordsEq'
    · have keeps : ¬ flags.discards = true := by
        simp only [OpenFlags.discards, truncates, Bool.false_and]
        exact Bool.false_ne_true
      refine ⟨0, file', after, ?_, advances, Nat.zero_le 1, fun _ => rfl, mapEq', ?_⟩
      · rw [if_neg truncates]
      · rw [if_neg keeps]
        exact recordsEq
  · rw [refused]
    exact Or.inr ⟨sizeEq ▸ beyond, rfl⟩

/-! ### Mapping the file -/

structure Attached (env : Environment) (flags : OpenFlags) (contents : Contents) : Prop where
  flags_eq : env.flags = flags
  tracks : env.Tracks contents 0
  current : env.UpToDate contents
  taken : env.resized? = none

theorem Attached.shows {env : Environment} {flags : OpenFlags}
    (attached : env.Attached flags contents) : env.snapshot.Shows contents :=
  attached.tracks.shows (by decide) attached.current.generation?_eq

theorem attach_cases (holds : file.Holds contents) (path : String) (flags : OpenFlags)
    (room : Nat) :
    (∃ env, attach path flags room contents.header file = .ok env ∧
      env.Attached flags contents) ∨
    (¬ Mappable room contents.header.mapSize ∧ ∃ cause, cause ≠ .lengthTooLarge ∧
      attach path flags room contents.header file = .error (.io cause)) := by
  unfold attach
  rcases (unmapped path flags room).remap_cases contents.header.mapSize with
    ⟨mappable, done⟩ | ⟨far, cause, other, refused⟩
  · rw [done]
    dsimp only
    have fresh : ({ unmapped path flags room with mapSize := contents.header.mapSize } :
        Environment).Tracks contents 0 :=
      ⟨UInt64.le_refl _, fun read => absurd rfl read, fun _ read => nomatch read⟩
    rcases refresh_cases holds fresh with
      ⟨env, refreshed, tracks, current, kin⟩ | ⟨far, _⟩
    · have notices := refresh_notices holds (UInt64.le_refl _) rfl refreshed
      rw [refreshed]
      exact Or.inl ⟨env, rfl, kin.flags_eq, tracks, current,
        notices.resized?_eq.trans (news?_self contents.header.mapSize)⟩
    · exact absurd mappable far
  · rw [refused]
    exact Or.inr ⟨far, cause, other, rfl⟩

/-! ### Opening -/

/-- What opening a file that holds contents comes to. The two refusals differ in their
cause: a length is refused before anything has happened. -/
inductive Opening (flags : OpenFlags) (asked : UInt64) (room : Nat) (file : Image)
    (contents : Contents) : Except EngineError Environment × Image → Prop
  | ok {env : Environment} {bumps : Nat} {file' : Image} {after : Contents}
      (prepared : Prepared flags asked bumps file contents file' after)
      (attached : env.Attached flags after) :
      Opening flags asked room file contents (.ok env, file')
  | unmapped {cause : SystemError} {bumps : Nat} {file' : Image} {after : Contents}
      (prepared : Prepared flags asked bumps file contents file' after)
      (far : ¬ Mappable room after.header.mapSize) (other : cause ≠ .lengthTooLarge) :
      Opening flags asked room file contents (.error (.io cause), file')
  | tooLong (writer : flags.readOnly = false)
      (beyond : longest < (openedSize flags asked contents.header.mapSize).toNat) :
      Opening flags asked room file contents (.error (.io .lengthTooLarge), file)

theorem Prepared.opening {flags : OpenFlags} {asked : UInt64} {bumps : Nat} {file' : Image}
    {after : Contents} (prepared : Prepared flags asked bumps file contents file' after)
    (path : String) (room : Nat) :
    Opening flags asked room file contents (attach path flags room after.header file', file') := by
  rcases attach_cases prepared.advances.holds path flags room with
    ⟨env, opened, attached⟩ | ⟨far, cause, other, refused⟩
  · rw [opened]
    exact .ok prepared attached
  · rw [refused]
    exact .unmapped prepared far other

theorem prepare_opening (holds : file.Holds contents) (path : String) (flags : OpenFlags)
    (asked : UInt64) (room : Nat) (writer : flags.readOnly = false) :
    Opening flags asked room file contents
      (match prepare flags (max asked Layout.minimumMapSize) contents.header file with
        | .error failure => (.error failure, file)
        | .ok (header, file) => (attach path flags room header file, file)) := by
  rcases prepare_cases holds flags asked writer with
    ⟨bumps, file', after, done, prepared⟩ | ⟨beyond, refused⟩
  · rw [done]
    exact prepared.opening path room
  · rw [refused]
    exact .tooLong writer beyond

theorem openingHeader_of_holds (holds : file.Holds contents) (path : String) (readOnly : Bool)
    (asked : UInt64) : openingHeader path readOnly asked file = .ok (contents.header, file) := by
  have large := holds.headerSize_le
  change 64 ≤ file.size at large
  have some : ¬ file.size = 0 := by omega
  have long : ¬ file.size < Layout.headerSize := Nat.not_lt_of_le large
  unfold openingHeader
  rw [if_neg some, if_neg long, holds.readable]

theorem open_opening (holds : file.Holds contents) (path : String) (flags : OpenFlags)
    (asked : UInt64) (room : Nat) :
    Opening flags asked room file contents (Environment.open path flags asked room file) := by
  unfold «open»
  dsimp only
  rw [openingHeader_of_holds holds]
  dsimp only
  split
  · next reader =>
      have covered : ¬ file.size < contents.header.mapSize.toNat := Nat.not_lt_of_le holds.covered
      rw [if_neg covered]
      have untouched : Prepared flags asked 0 file contents file contents :=
        { advances := Advances.refl holds
          once := Nat.zero_le 1
          bumps_eq := fun _ => rfl
          mapSize_eq := by rw [openedSize, if_pos reader]
          records_eq := by
            rw [OpenFlags.discards, reader, Bool.not_true, Bool.and_false]
            rfl }
      exact untouched.opening path room
  · next writer => exact prepare_opening holds path flags asked room (by simpa using writer)

/-- A file without bytes is refused to a reader, and for a size that no file has. Otherwise
it is made a database without records, and then opened. -/
theorem open_of_nothing (nothing : file.size = 0) (path : String) (flags : OpenFlags)
    (asked : UInt64) (room : Nat) :
    (∃ failure, Environment.open path flags asked room file = (.error failure, file) ∧
      (flags.readOnly = false → longest < (max asked Layout.minimumMapSize).toNat)) ∨
    (flags.readOnly = false ∧ (max asked Layout.minimumMapSize).toNat ≤ longest ∧
      ∃ fresh, fresh.size = (max asked Layout.minimumMapSize).toNat ∧
        fresh.Holds ⟨Header.empty (max asked Layout.minimumMapSize), Records.empty⟩ ∧
        Opening flags asked room fresh
          ⟨Header.empty (max asked Layout.minimumMapSize), Records.empty⟩
          (Environment.open path flags asked room file)) := by
  have least := right_le_max asked Layout.minimumMapSize
  unfold «open» openingHeader
  dsimp only
  rw [if_pos nothing]
  cases mode : flags.readOnly with
  | true => exact Or.inl ⟨_, rfl, nofun⟩
  | false =>
      by_cases short : (max asked Layout.minimumMapSize).toNat ≤ longest
      · have holds := holds_initialized least file
        rw [setMapSize_of_le _ file short]
        exact Or.inr ⟨rfl, short, _, size_resized _ file least, holds,
          prepare_opening holds path flags asked room mode⟩
      · have beyond := Nat.lt_of_not_le short
        rw [setMapSize_of_lt _ file beyond]
        exact Or.inl ⟨_, rfl, fun _ => beyond⟩

end Environment

end RecordFile
