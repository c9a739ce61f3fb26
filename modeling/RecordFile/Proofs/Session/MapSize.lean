/-
When the map of a shared file only grows.

Sessions start from a file without bytes. As long as no bulk transaction is restarted over a
map smaller than the one in the header, file and map never get smaller and what is committed
stays readable. A restart that cuts back is the only call that makes the file shorter, so the
law holds of a run exactly when none of its calls cuts back.
-/

import RecordFile.Proofs.Session.Sharing

namespace RecordFile

namespace Sessions

open Environment (readHeader)
open Session (Call Lands)

/-! ### The law -/

/-- The call makes neither the file nor its map smaller, and committed records stay readable.
When it fails they are the same, unless it was to discard them. -/
structure KeepsMap (world : Sessions) (request : Request) : Prop where
  size_le : world.file.size ≤ (world.step request).file.size
  readable : ∀ header records, readHeader world.file = .ok header →
    world.file.recordsOf header = .ok records →
      ∃ header' records', readHeader (world.step request).file = .ok header' ∧
        (world.step request).file.recordsOf header' = .ok records' ∧
        header.mapSize ≤ header'.mapSize ∧
        ((world.reply request).Failed → ¬ request.call.Discards → records' = records)

/-- A call in which the map got larger leaves alone every record but the one it is for. -/
def KeepsOthers (world : Sessions) (request : Request) : Prop :=
  ∀ header records header' records', readHeader world.file = .ok header →
    world.file.recordsOf header = .ok records →
    readHeader (world.step request).file = .ok header' →
    (world.step request).file.recordsOf header' = .ok records' →
      header.mapSize < header'.mapSize → ¬ request.call.Discards →
        ∀ key, ¬ request.call.Touches key → records'.find? key = records.find? key

/-- The call restarts a bulk transaction over a map smaller than the one in the header. -/
def CutsBack (world : Sessions) (request : Request) : Prop :=
  (world.caller request).CutsBack request.call world.file

/-! ### The invariant -/

structure Compact (world : Sessions) (contents : Contents) (age : Nat) : Prop where
  valid : world.Valid contents age
  exact : world.file.size = contents.header.mapSize.toNat
  short : world.file.size ≤ Image.longest

structure Blank (world : Sessions) : Prop where
  nothing : world.file.size = 0
  closed : ∀ who, (world.session who).Closed

variable {world : Sessions} {contents after : Contents} {age bumps : Nat} {call : Call}
  {file file' : Image} {outcome : Session.Reply × Session × Image} {request : Request}

theorem Compact.land (compact : Compact ⟨file, world.session⟩ contents age)
    (lands : Lands call file contents age outcome bumps after) (who : Nat) :
    Compact ⟨outcome.2.2, Function.update world.session who outcome.2.1⟩ after (age + 1) := by
  have exact := compact.exact
  have short := compact.short
  refine ⟨compact.valid.land lands who, ?_, ?_⟩
  · rcases lands.advances.size_eq with ⟨sameSize, sameMap⟩ | ⟨larger, _⟩
    · rw [sameMap]
      exact sameSize.trans exact
    · exact larger
  · rcases lands.advances.size_eq with ⟨sameSize, _⟩ | ⟨_, fits⟩
    · change outcome.2.2.size ≤ _
      rw [sameSize]
      exact short
    · exact fits

theorem Compact.keepsMap (compact : world.Compact contents age)
    (lands : Lands request.call world.file contents age (world.outcome request) bumps after) :
    world.KeepsMap request where
  size_le := by
    have next := compact.land lands request.who
    have larger := UInt64.le_iff_toNat_le.mp lands.advances.mapSize_le
    rw [← compact.exact, ← next.exact] at larger
    exact larger
  readable := by
    intro header records read decoded
    have holds := compact.valid.holds
    rw [holds.readable] at read
    cases read
    rw [holds.decoded] at decoded
    cases decoded
    exact ⟨after.header, after.records, lands.advances.holds.readable,
      lands.advances.holds.decoded, lands.advances.mapSize_le,
      fun failed keeps => lands.advances.records_eq (lands.kept failed keeps)⟩

theorem keepsOthers_of_lands (holds : world.file.Holds contents) (recent : age < UInt64.size)
    (lands : Lands request.call world.file contents age (world.outcome request) bumps after) :
    world.KeepsOthers request := by
  intro header records header' records' read decoded read' decoded'
  have holds' : (world.step request).file.Holds after := lands.advances.holds
  rw [holds.readable] at read
  cases read
  rw [holds.decoded] at decoded
  cases decoded
  rw [holds'.readable] at read'
  cases read'
  rw [holds'.decoded] at decoded'
  cases decoded'
  exact lands.others recent

/-- On a compact file the law holds of every call but one that cuts back. -/
theorem Compact.keepsMap_iff (compact : world.Compact contents age) (request : Request) :
    world.KeepsMap request ↔ ¬ world.CutsBack request := by
  constructor
  · intro keeps cuts
    have shorter := Session.act_of_cutsBack compact.valid.holds
      ((compact.valid.follows request.who).withRoom request.room) compact.exact compact.short
      request.room cuts
    exact Nat.not_le_of_lt shorter keeps.size_le
  · intro safe
    obtain ⟨bumps, after, lands⟩ := compact.valid.lands safe
    exact compact.keepsMap lands

/-! ### Before the first open -/

theorem Blank.not_cutsBack (blank : world.Blank) (request : Request) :
    ¬ world.CutsBack request := by
  rintro ⟨_, _, _, _, env, here, _⟩
  have closed := blank.closed request.who
  unfold Sessions.caller at here
  rw [closed.withRoom_eq, closed.noEnv] at here
  cases here

theorem Blank.keeps (blank : world.Blank) (request : Request) :
    world.KeepsMap request ∧ world.KeepsOthers request := by
  have unreadable : ∀ header, readHeader world.file ≠ .ok header := by
    intro header read
    have fits := Header.fits_of_parse read
    have behind := fits.dataOffset_ge
    have inside := fits.stop_le_length
    have nothing := blank.nothing
    unfold Header.payloadStop at inside
    change 64 ≤ _ at behind
    omega
  constructor
  · refine ⟨?_, ?_⟩
    · rw [blank.nothing]
      exact Nat.zero_le _
    · intro header _ read
      exact absurd read (unreadable header)
  · intro header _ _ _ read
    exact absurd read (unreadable header)

theorem Blank.step_of_eq (blank : world.Blank) {reply : Session.Reply}
    (same : world.outcome request = (reply, world.session request.who, world.file)) :
    (world.step request).Blank where
  nothing := by
    change (world.outcome request).2.2.size = 0
    rw [same]
    exact blank.nothing
  closed := by
    intro who
    change (Function.update world.session request.who (world.outcome request).2.1 who).Closed
    rw [same, Function.update_eq_self]
    exact blank.closed who

/-- The first open for writing makes a compact file, and until then nothing happens. -/
theorem Blank.step (blank : world.Blank) (request : Request) (age : Nat) :
    (world.step request).Blank ∨ ∃ after, (world.step request).Compact after (age + 1) := by
  obtain ⟨who, call, room⟩ := request
  have closed := blank.closed who
  have callerEq : world.caller ⟨who, call, room⟩ = world.session who := closed.withRoom_eq room
  by_cases opens : ∃ path flags bulk, call = .open path flags bulk
  · obtain ⟨path, flags, bulk, rfl⟩ := opens
    rcases Environment.open_of_nothing blank.nothing path flags
        (world.session who).config.initialMapSize room with
      ⟨failure, refused, _⟩ | ⟨_, short, fresh, size_eq, holds, opening⟩
    · have same : world.outcome ⟨who, .open path flags bulk, room⟩ =
          (.failed failure, world.session who, world.file) := by
        unfold Sessions.outcome
        rw [callerEq]
        unfold Session.act Session.open
        dsimp only
        rw [refused]
        rfl
      exact Or.inl (blank.step_of_eq same)
    · right
      have compact : Compact ⟨fresh, world.session⟩ _ age :=
        ⟨⟨holds, fun other => (blank.closed other).follows _ _⟩, size_eq, size_eq ▸ short⟩
      obtain ⟨bumps, after, lands⟩ :=
        Session.open_lands holds (closed.follows _ age) opening bulk
      rw [← callerEq] at lands
      exact ⟨after, compact.land lands who⟩
  · obtain ⟨reply, acted, _⟩ := closed.act_eq
      (fun path flags bulk same => opens ⟨path, flags, bulk, same⟩) room world.file
    have same : world.outcome ⟨who, call, room⟩ = (reply, world.session who, world.file) := by
      unfold Sessions.outcome
      rw [callerEq]
      exact acted
    exact Or.inl (blank.step_of_eq same)

/-! ### Runs -/

/-- A file without bytes stays one or becomes a database, and that stays one. -/
theorem step_valid (created : world.Blank ∨ ∃ contents, world.Valid contents age)
    (safe : ¬ world.CutsBack request) :
    (world.step request).Blank ∨ ∃ after, (world.step request).Valid after (age + 1) := by
  rcases created with blank | ⟨contents, valid⟩
  · rcases blank.step request age with still | ⟨after, compact⟩
    · exact Or.inl still
    · exact Or.inr ⟨after, compact.valid⟩
  · obtain ⟨bumps, after, lands⟩ := valid.lands safe
    exact Or.inr ⟨after, valid.land lands request.who⟩

theorem run_valid {requests : List Request}
    (created : world.Blank ∨ ∃ contents, world.Valid contents age)
    (safe : Along step (fun world request => ¬ world.CutsBack request) requests world) :
    (run requests world).Blank ∨
      ∃ after, (run requests world).Valid after (age + requests.length) := by
  induction requests generalizing world age with
  | nil => exact created
  | cons request rest ih =>
      have later := ih (step_valid created safe.1) safe.2
      rw [List.length_cons, Nat.add_comm rest.length, ← Nat.add_assoc]
      exact later

def Created (world : Sessions) (age : Nat) : Prop :=
  world.Blank ∨ ∃ contents, world.Compact contents age

theorem Created.keepsMap_iff (created : world.Created age) (request : Request) :
    world.KeepsMap request ↔ ¬ world.CutsBack request := by
  rcases created with blank | ⟨contents, compact⟩
  · exact iff_of_true (blank.keeps request).1 (blank.not_cutsBack request)
  · exact compact.keepsMap_iff request

theorem Created.step (created : world.Created age) (safe : ¬ world.CutsBack request) :
    (world.step request).Created (age + 1) := by
  rcases created with blank | ⟨contents, compact⟩
  · exact blank.step request age
  · obtain ⟨bumps, after, lands⟩ := compact.valid.lands safe
    exact Or.inr ⟨after, compact.land lands request.who⟩

theorem Created.keepsOthers (created : world.Created age) (recent : age < UInt64.size)
    (safe : ¬ world.CutsBack request) : world.KeepsOthers request := by
  rcases created with blank | ⟨contents, compact⟩
  · exact (blank.keeps request).2
  · obtain ⟨bumps, after, lands⟩ := compact.valid.lands safe
    exact keepsOthers_of_lands compact.valid.holds recent lands

theorem Created.along_keepsMap_iff (created : world.Created age) (requests : List Request) :
    Along Sessions.step KeepsMap requests world ↔
      Along Sessions.step (fun world request => ¬ world.CutsBack request) requests world := by
  induction requests generalizing world age with
  | nil => exact Iff.rfl
  | cons request rest ih =>
      constructor
      · rintro ⟨keeps, later⟩
        have safe := (created.keepsMap_iff request).mp keeps
        exact ⟨safe, (ih (created.step safe)).mp later⟩
      · rintro ⟨safe, later⟩
        exact ⟨(created.keepsMap_iff request).mpr safe, (ih (created.step safe)).mpr later⟩

theorem Created.along_keepsOthers (created : world.Created age) {requests : List Request}
    (recent : age + requests.length < UInt64.size)
    (safe : Along Sessions.step (fun world request => ¬ world.CutsBack request) requests world) :
    Along Sessions.step KeepsOthers requests world := by
  induction requests generalizing world age with
  | nil => trivial
  | cons request rest ih =>
      rw [List.length_cons] at recent
      exact ⟨created.keepsOthers (by omega) safe.1, ih (created.step safe.1) (by omega) safe.2⟩

/-- For sessions on a file that they create: file and map never get smaller and committed
records stay readable along a run exactly when none of its calls cuts back. As long as the
generations do not run out, a call that enlarges the map then leaves alone every record but
the one that it is for. -/
theorem run_keepsMap_iff {requests : List Request} (nothing : world.file.size = 0)
    (fresh : ∀ who, (world.session who).Fresh) :
    (Along step KeepsMap requests world ↔
      Along step (fun world request => ¬ world.CutsBack request) requests world) ∧
    (requests.length < UInt64.size →
      Along step (fun world request => ¬ world.CutsBack request) requests world →
        Along step KeepsOthers requests world) := by
  have created : world.Created 0 := Or.inl ⟨nothing, fun who => (fresh who).closed.1⟩
  refine ⟨created.along_keepsMap_iff requests, ?_⟩
  intro recent safe
  exact created.along_keepsOthers (by omega) safe

def unequal : Sessions where
  file := Image.empty
  session who := Session.idle { initialMapSize := if who = 0 then 4096 else 16384 }

def overtaken : List Request :=
  [⟨0, .open "x.mdb" { create := true } true, 65536⟩, ⟨0, .put [1] [2] false, 65536⟩,
    ⟨1, .open "x.mdb" {} false, 65536⟩,
    ⟨0, .put [3] (List.replicate 4100 0) false, 65536⟩]

set_option maxRecDepth 20000 in
theorem run_keepsMap_iff_overtaken :
    unequal.file.size = 0 ∧ (∀ who, (unequal.session who).Fresh) ∧
      ¬ Along step KeepsMap overtaken unequal := by
  have fresh : ∀ who, (unequal.session who).Fresh := by
    intro who
    apply Session.fresh_idle
    refine ⟨(by decide : (2 : UInt64) ≤ 2), ?_, ?_⟩
    · change _ ≤ if who = 0 then _ else _
      split
      · decide
      · decide
    · change (if who = 0 then _ else _) ≤ _
      split
      · decide
      · decide
  refine ⟨rfl, fresh, ?_⟩
  intro keeps
  obtain ⟨_, _, _, last, _⟩ := (run_keepsMap_iff rfl fresh).1.mp keeps
  apply last
  exact ⟨⟨rfl, _, _, rfl, rfl, rfl⟩, _, rfl, by decide, _, rfl, by decide, by decide⟩

end Sessions

end RecordFile
