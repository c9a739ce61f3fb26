/-
What a transaction admits has a place when it is committed.

A transaction that begins reads the header and bounds its payload by the room beside the live
one, in all that its environment maps. While nobody commits and nothing grows the header stays what
it was, and what was accepted within that bound is never refused for want of a place. The
environment that commits has to map as much. The one that began the transaction does, since a
mapping never shrinks, even where the map has been cut back under it.
-/

import RecordFile.Proofs.Environment.Keeping
import RecordFile.Proofs.Environment.Widening
import RecordFile.Proofs.Placement.Words
import RecordFile.Proofs.Transaction.Edits

namespace RecordFile

open Transaction (Edit Stores edited)

/-! ### One commit -/

namespace Environment

variable {env env' : Environment} {file : Image} {header : Header} {txn : Transaction} {age : Nat}

/-- The limit of a transaction that begins now, by what the header announces. -/
theorem limit_of_beginWrite (kept : env.Kept file age) (recent : age < UInt64.size)
    (read : readHeader file = .ok header) (began : env.beginWrite file = (.ok txn, env')) :
    header.mapSize ≤ env'.mapSize ∧
      txn.limit = Layout.headerSize + Placement.capacity env'.mapSize.toNat
        header.dataOffset.toNat header.dataLength.toNat := by
  obtain ⟨refreshed, rfl⟩ := beginWrite_eq_ok began
  have after := kept.refresh
  rw [refreshed] at after
  obtain ⟨found, read', enough, current, _⟩ := refresh_eq_ok refreshed
  rw [read] at read'
  cases read'
  obtain ⟨offsetEq, lengthEq⟩ := after.located recent read current
  refine ⟨enough, ?_⟩
  rw [← offsetEq, ← lengthEq]
  rfl

theorem commit_of_roomy (read : readHeader file = .ok header)
    (enough : header.mapSize ≤ env.mapSize)
    (roomy : txn.dataLength ≤ Placement.capacity env.mapSize.toNat header.dataOffset.toNat
      header.dataLength.toNat) :
    (env.commit txn file).1 = if env.flags.readOnly then .error .readOnly else .ok () := by
  have fits := Header.fits_of_parse read
  have enough := UInt64.le_iff_toNat_le.mp enough
  have large := Nat.le_trans fits.headerSize_le_mapSize enough
  have inside := Nat.le_trans fits.stop_le_mapSize enough
  have place := (Placement.place?_isSome_iff large fits.dataOffset_ge inside).mpr roomy
  obtain ⟨offset, found⟩ := Option.isSome_iff_exists.mp place
  unfold Environment.commit
  split
  · rfl
  · rw [read]
    dsimp only
    rw [found]

end Environment

namespace Environments

open Environment (readHeader)

variable {world : Environments} {contents : Contents} {index : Nat} {size : UInt64}

/-! ### What stays mapped -/

def Maps (world : Environments) (index : Nat) (size : UInt64) : Prop :=
  ∀ env, world.env? index = some env → size ≤ env.mapSize

/-- Nobody puts another environment in the place of this one. -/
def Keeps (index : Nat) (requests : List Request) : Prop :=
  ∀ request ∈ requests, ∀ path flags asked, request.call ≠ .open index path flags asked

theorem maps_keep (world : Environments) (index : Nat) {env : Environment}
    (enough : size ≤ env.mapSize) (file : Image) : (world.keep index env file).Maps index size := by
  intro found here
  have same : some env = some found := (Function.update_self index _ world.env?).symm.trans here
  cases same
  exact enough

theorem Maps.keep (maps : world.Maps index size) {other : Nat} {env : Environment}
    (enough : other = index → size ≤ env.mapSize) (file : Image) :
    (world.keep other env file).Maps index size := by
  by_cases same : other = index
  · subst same
    exact maps_keep world other (enough rfl) file
  · intro found here
    change Function.update world.env? other (some env) index = some found at here
    rw [Function.update_of_ne (Ne.symm same)] at here
    exact maps found here

theorem Maps.at? (maps : world.Maps index size) {room : Nat} {env : Environment}
    (here : world.at? room index = some env) : size ≤ env.mapSize := by
  obtain ⟨found, there, rfl⟩ := Option.map_eq_some_iff.mp here
  exact maps found there

theorem Maps.operated (maps : world.Maps index size) {room other : Nat} {env env' : Environment}
    (here : world.at? room other = some env) (widens : env.mapSize ≤ env'.mapSize) (file : Image) :
    (world.keep other env' file).Maps index size := by
  apply maps.keep
  intro same
  subst same
  exact UInt64.le_trans (maps.at? here) widens

theorem Maps.step (maps : world.Maps index size) {request : Request}
    (stays : ∀ path flags asked, request.call ≠ .open index path flags asked) :
    (world.step request).Maps index size := by
  obtain ⟨call, room⟩ := request
  have comes := world.step_comes ⟨call, room⟩
  generalize world.step ⟨call, room⟩ = next at comes ⊢
  dsimp only at comes stays
  cases comes with
  | idle => exact maps
  | @opened other path flags asked =>
      have different : other ≠ index := fun same => stays path flags asked (by rw [same])
      rcases Environment.open path flags asked room world.file with ⟨failure | env, file⟩
      · exact maps
      · exact maps.keep (fun same => absurd same different) file
  | @began _ _ env _ _ here began =>
      have widens := (env.beginWrite_widens world.file).mapSize_le
      rw [began] at widens
      exact maps.operated here widens world.file
  | @refused _ _ env _ _ here refused =>
      have widens := (env.beginWrite_widens world.file).mapSize_le
      rw [refused] at widens
      exact maps.operated here widens world.file
  | copied _ => exact maps
  | stored _ _ => exact maps
  | removed _ => exact maps
  | @refreshed _ env here =>
      exact maps.operated here (env.refresh_widens world.file).mapSize_le world.file
  | @committed _ _ env txn _ here =>
      exact maps.operated here (env.commit_widens txn world.file).mapSize_le _
  | @put _ key value keepExisting env here =>
      exact maps.operated here (env.put_widens key value keepExisting world.file).mapSize_le _
  | @deleted _ key env here =>
      exact maps.operated here (env.delete_widens key world.file).mapSize_le _
  | @grown _ size env here =>
      exact maps.operated here (env.grow_widens size world.file).1.mapSize_le _

theorem Maps.run (maps : world.Maps index size) {requests : List Request}
    (keeps : Keeps index requests) : (run requests world).Maps index size := by
  induction requests generalizing world with
  | nil => exact maps
  | cons request rest ih =>
      apply ih
      · exact maps.step (keeps request List.mem_cons_self)
      · exact fun later member => keeps later (List.mem_cons_of_mem request member)

/-! ### From beginning to commit -/

def beginning (index slot room : Nat) : Request :=
  ⟨.beginWrite index slot, room⟩

/-- A transaction that began on a header which is still the one in the file, so nothing was
committed and nothing has grown since, whatever else was called. This much was mapped when it
began. A generation is told from an older one in runs of fewer calls than there are generations. -/
structure Pending (start : Environments) (before between : List Request) (index slot room : Nat)
    (txn : Transaction) (header : Header) (mapped : UInt64) : Prop where
  noEnv : ∀ index, start.env? index = none
  noTxn : ∀ slot, start.txn? slot = none
  recent : before.length < UInt64.size
  begun : ∃ env env', (run before start).at? room index = some env ∧
    env.beginWrite (run before start).file = (.ok txn, env') ∧ env'.mapSize = mapped
  announced : readHeader (run before start).file = .ok header
  unchanged :
    readHeader (run (before ++ beginning index slot room :: between) start).file = .ok header

variable {start : Environments} {before between : List Request} {slot room : Nat}
  {txn : Transaction} {header : Header} {mapped : UInt64}

/-- Beginning reads the header: the limit is its room in what gets mapped. -/
theorem Pending.bounds (pending : start.Pending before between index slot room txn header mapped) :
    header.mapSize ≤ mapped ∧
      txn.limit = Layout.headerSize + Placement.capacity mapped.toNat header.dataOffset.toNat
        header.dataLength.toNat ∧
      ((run before start).step (beginning index slot room)).Maps index mapped := by
  obtain ⟨env, env', here, began, rfl⟩ := pending.begun
  have measures := (measures_of_closed pending.noEnv pending.noTxn).run before
  rw [Nat.zero_add] at measures
  obtain ⟨enough, limit⟩ := Environment.limit_of_beginWrite (measures.at? here) pending.recent
    pending.announced began
  refine ⟨enough, limit, ?_⟩
  unfold beginning Environments.step
  simp only [here, began]
  exact maps_keep (run before start) index (UInt64.le_refl _) (run before start).file

theorem Pending.mapped_le (pending : start.Pending before between index slot room txn header mapped)
    (keeps : Keeps index between) {later : Nat} {writer : Environment}
    (here : (run (before ++ beginning index slot room :: between) start).at? later index =
      some writer) : mapped ≤ writer.mapSize := by
  obtain ⟨_, _, maps⟩ := pending.bounds
  have least := maps.run keeps
  have same : run between ((run before start).step (beginning index slot room)) =
      run (before ++ beginning index slot room :: between) start := by
    rw [run_append]
    rfl
  rw [same] at least
  exact least.at? here

/-- As long as no map size is set back, nobody maps more than the header announces. -/
theorem Pending.mapSize_le
    (pending : start.Pending before between index slot room txn header mapped)
    (starts : start.Starts before)
    (permitted : Permitted (before ++ beginning index slot room :: between) start) :
    mapped ≤ header.mapSize ∧ ∀ later other writer,
      (run (before ++ beginning index slot room :: between) start).at? later other =
        some writer → writer.mapSize ≤ header.mapSize := by
  obtain ⟨early, late⟩ := permitted_append.mp permitted
  obtain ⟨contents, valid⟩ := starts.valid early
  obtain ⟨after, done⟩ := valid.run late
  rw [← run_append] at done
  constructor
  · obtain ⟨env, env', here, began, rfl⟩ := pending.begun
    have announced := pending.announced
    rw [valid.holds.readable] at announced
    cases announced
    obtain ⟨refreshed, _⟩ := Environment.beginWrite_eq_ok began
    exact valid.mapSize_le_of_refresh here refreshed
  · intro later other writer here
    have unchanged := pending.unchanged
    rw [done.holds.readable] at unchanged
    cases unchanged
    exact (done.at? here).mapSize_le

/-- The capacity and the place draw one boundary, so a transaction that has accepted a put is
published by whoever maps what was mapped when it began, and whoever began it does. Unless a map
size is set back this is what the header announces. -/
theorem admission_agrees_with_placement :
    (∀ mapSize liveOffset liveLength : UInt64, Layout.headerSize ≤ mapSize.toNat →
      Layout.headerSize ≤ liveOffset.toNat →
      liveOffset.toNat + liveLength.toNat ≤ mapSize.toNat →
      Placement.Agree mapSize liveOffset liveLength) ∧
    ∀ (start : Environments) (before between : List Request) (index slot room : Nat)
      (txn : Transaction) (header : Header) (mapped : UInt64),
      start.Pending before between index slot room txn header mapped →
      (Keeps index between → ∀ later writer,
        (run (before ++ beginning index slot room :: between) start).at? later index =
          some writer → mapped ≤ writer.mapSize) ∧
      (∀ edits, Stores edits txn → ∀ writer : Environment, mapped ≤ writer.mapSize →
        (writer.commit (edited edits txn)
          (run (before ++ beginning index slot room :: between) start).file).1 =
            if writer.flags.readOnly then .error .readOnly else .ok ()) ∧
      (start.Starts before → Permitted (before ++ beginning index slot room :: between) start →
        mapped = header.mapSize ∧ (Keeps index between → ∀ later writer,
          (run (before ++ beginning index slot room :: between) start).at? later index =
            some writer → writer.mapSize = header.mapSize)) := by
  constructor
  · intro mapSize liveOffset liveLength large behind inside
    exact Placement.agree large behind inside
  · intro start before between index slot room txn header mapped pending
    obtain ⟨enough, limit, _⟩ := pending.bounds
    refine ⟨?_, ?_, ?_⟩
    · intro keeps later writer here
      exact pending.mapped_le keeps here
    · intro edits stores writer maps
      apply Environment.commit_of_roomy pending.unchanged (UInt64.le_trans enough maps)
      have within := stores.within
      unfold Transaction.Within at within
      rw [Transaction.limit_edited, limit] at within
      have more := Placement.capacity_mono (UInt64.le_iff_toNat_le.mp maps)
        header.dataOffset.toNat header.dataLength.toNat
      omega
    · intro starts permitted
      obtain ⟨most, atMost⟩ := pending.mapSize_le starts permitted
      have same := UInt64.le_antisymm most enough
      refine ⟨same, ?_⟩
      intro keeps later writer here
      have least := pending.mapped_le keeps here
      rw [same] at least
      exact UInt64.le_antisymm (atMost later index writer here) least

/-- A database of the least size with one record, whose environment begins a transaction and
refreshes. -/
def waiting : List Request :=
  [⟨.open 0 "x.mdb" { create := true } 4096, 65536⟩, ⟨.put 0 [1] [2] false, 65536⟩]

set_option maxRecDepth 10000 in
theorem admission_agrees_with_placement_of_waiting :
    Placement.Agree 4096 64 10 ∧
      ∃ txn header, Pending untouched waiting [⟨.refresh 0, 65536⟩] 0 0 65536 txn header 4096 ∧
        header.dataLength = 10 ∧ Stores [.put [3] [4] false, .delete [5]] txn ∧
        (edited [.put [3] [4] false, .delete [5]] txn).dataLength = 20 ∧
        ∀ writer : Environment, writer.mapSize = 4096 → writer.flags.readOnly = false →
          (writer.commit (edited [.put [3] [4] false, .delete [5]] txn)
            (run (waiting ++ [beginning 0 0 65536, ⟨.refresh 0, 65536⟩]) untouched).file).1 =
              .ok () := by
  obtain ⟨txn, header, pending, live, stores, length⟩ : ∃ txn header,
      Pending untouched waiting [⟨.refresh 0, 65536⟩] 0 0 65536 txn header 4096 ∧
        header.dataLength = 10 ∧ Stores [.put [3] [4] false, .delete [5]] txn ∧
        (edited [.put [3] [4] false, .delete [5]] txn).dataLength = 20 :=
    ⟨_, _,
      { noEnv := fun _ => rfl
        noTxn := fun _ => rfl
        recent := by decide
        begun := ⟨_, _, rfl, rfl, rfl⟩
        announced := rfl
        unchanged := rfl },
      rfl, Or.inl ⟨_, rfl⟩, rfl⟩
  refine ⟨admission_agrees_with_placement.1 4096 64 10 (by decide) (by decide) (by decide),
    txn, header, pending, live, stores, length, ?_⟩
  intro writer mapped mode
  obtain ⟨_, commits, _⟩ := admission_agrees_with_placement.2 _ _ _ _ _ _ _ _ _ pending
  have done := commits _ stores writer (UInt64.le_of_eq mapped.symm)
  rw [mode] at done
  exact done

end Environments

end RecordFile
