/-
What somebody who listens to a session is told.

Whatever order the calls of all sessions come in, the sizes that are reported get larger from what
was mapped at first to what is mapped at last, so no size is reported twice. A size that a call of
the session has grown the map to is reported as grown, and one that another session has grown it to
as found.

There is one exception. The size is written into the header before it is mapped, and when the system
refuses to map it the call fails and reports nothing. A session whose own growth was refused in this
way finds the size later, once it can be mapped, and reports it as if somebody else had grown the
map.
-/

import RecordFile.Proofs.Session.Reporting
import RecordFile.Proofs.Session.Scanning

namespace RecordFile

namespace Sessions

open Session (Moves)

/-! ### What is told -/

def mapSize (world : Sessions) : UInt64 :=
  match Environment.readHeader world.file with
  | .ok header => header.mapSize
  | .error _ => 0

def listen (world : Sessions) (who : Nat) : Sessions where
  file := world.file
  session := Function.update world.session who ((world.session who).control .notify)

def Somewhere (law : Sessions → Request → Prop) : List Request → Sessions → Prop
  | [], _ => False
  | request :: rest, world => law world request ∨ Somewhere law rest (world.step request)

def Denied (world : Sessions) (request : Request) : Prop :=
  ∃ cause, world.reply request = .failed (.io cause)

def Passes (who : Nat) (size : UInt64) (world : Sessions) (request : Request) : Prop :=
  request.who = who ∧ world.mapSize < size ∧ size ≤ (world.step request).mapSize

/-- A call takes the map to a size. If it is one of the session then the size was refused. -/
def Leads (who : Nat) (size : UInt64) (world : Sessions) (request : Request) : Prop :=
  world.mapSize < size ∧ (world.step request).mapSize = size ∧
    (request.who = who → world.Denied request)

/-- When a call of the session makes the map larger its size is reported, unless it was refused. -/
def Announces (who : Nat) (notes : List Notification) (world : Sessions) (request : Request) :
    Prop :=
  request.who = who → world.mapSize < (world.step request).mapSize →
    .mapFull (world.step request).mapSize ∈ notes ∨ world.Denied request

/-- After a call that succeeds the session has mapped all of the map. A commit maps nothing. -/
def Catches (who : Nat) (world : Sessions) (request : Request) : Prop :=
  request.who = who → request.call ≠ .commit → ¬ (world.reply request).Failed →
    ((world.step request).session who).limit? = some (world.step request).mapSize

inductive Hears (who : Nat) (config : SessionConfig) :
    Sessions → List Request → UInt64 → List Notification → UInt64 → Prop
  | nil {world : Sessions} {mapped : UInt64} : Hears who config world [] mapped [] mapped
  | own {world : Sessions} {request : Request} {rest : List Request}
      {mapped mapped' last : UInt64} {notes notes' : List Notification}
      (mine : request.who = who) (least : Layout.minimumMapSize ≤ world.mapSize)
      (within : mapped ≤ world.mapSize)
      (moves : Moves config (world.Denied request) mapped world.mapSize notes mapped'
        (world.step request).mapSize)
      (limit : ((world.step request).session who).limit? = some mapped')
      (catches : world.Catches who request)
      (later : Hears who config (world.step request) rest mapped' notes' last) :
      Hears who config world (request :: rest) mapped (notes ++ notes') last
  | other {world : Sessions} {request : Request} {rest : List Request} {mapped last : UInt64}
      {notes : List Notification} (theirs : request.who ≠ who)
      (larger : world.mapSize ≤ (world.step request).mapSize)
      (later : Hears who config (world.step request) rest mapped notes last) :
      Hears who config world (request :: rest) mapped notes last

variable {who : Nat} {config : SessionConfig} {world : Sessions} {request : Request}
  {requests : List Request} {notes : List Notification} {mapped last size : UInt64}

theorem Hears.ascends (hears : Hears who config world requests mapped notes last)
    (valid : config.Valid) : Ascends mapped (notes.filterMap Notification.size?) last := by
  induction hears with
  | nil => exact .nil
  | own _ least _ moves _ _ _ ih =>
      rw [List.filterMap_append]
      exact (moves.ascends valid least).append ih
  | other _ _ _ ih => exact ih

theorem Hears.catches (hears : Hears who config world requests mapped notes last) :
    Along Sessions.step (Catches who) requests world := by
  induction hears with
  | nil => trivial
  | own _ _ _ _ _ catches _ ih => exact ⟨catches, ih⟩
  | other theirs _ _ ih => exact ⟨fun mine => absurd mine theirs, ih⟩

theorem Hears.announces (hears : Hears who config world requests mapped notes last)
    (valid : config.Valid) : Along Sessions.step (Announces who notes) requests world := by
  induction hears with
  | nil => trivial
  | own _ least _ moves _ _ _ ih =>
      refine ⟨fun _ larger => ?_, ih.imp fun world request announces mine larger => ?_⟩
      · exact (moves.told valid least larger).imp_left (List.mem_append_left _)
      · exact (announces mine larger).imp_left (List.mem_append_right _)
  | other theirs _ _ ih => exact ⟨fun mine => absurd mine theirs, ih⟩

theorem Hears.of_mapFull (hears : Hears who config world requests mapped notes last)
    (valid : config.Valid) (told : .mapFull size ∈ notes) :
    Somewhere (Passes who size) requests world := by
  induction hears with
  | nil => cases told
  | own mine least within moves _ _ _ ih =>
      rcases List.mem_append.mp told with here | later
      · obtain ⟨past, reached⟩ := moves.of_mapFull valid least here
        exact .inl ⟨mine, past, UInt64.le_trans reached (moves.size_le valid least within).2⟩
      · exact .inr (ih later)
  | other _ _ _ ih => exact .inr (ih told)

/-- A size that is reported as found was in the header at first, or a call of the run has taken the
map to it. -/
theorem Hears.of_mapResized (hears : Hears who config world requests mapped notes last)
    (valid : config.Valid) (told : .mapResized size ∈ notes) :
    (size = world.mapSize ∧ mapped < size) ∨ Somewhere (Leads who size) requests world := by
  induction hears with
  | nil => cases told
  | @own world request rest mapped mapped' last notes notes' mine least within moves _ _ _ ih =>
      rcases List.mem_append.mp told with here | later
      · obtain ⟨rfl, news⟩ := moves.of_mapResized here
        exact .inl ⟨rfl, news⟩
      · rcases ih later with ⟨rfl, behind⟩ | leads
        · by_cases larger : world.mapSize < (world.step request).mapSize
          · have refused := moves.refuses_of_lt valid least larger behind
            exact .inr (.inl ⟨larger, rfl, fun _ => refused⟩)
          · have kept := (moves.size_le valid least within).1
            have same := UInt64.le_antisymm (UInt64.not_lt.mp larger) kept
            have risen := (moves.ascends valid least).le
            exact .inl ⟨same, UInt64.lt_of_le_of_lt risen behind⟩
        · exact .inr (.inr leads)
  | @other world request rest mapped last notes theirs larger _ ih =>
      rcases ih told with ⟨rfl, behind⟩ | leads
      · by_cases same : world.mapSize = (world.step request).mapSize
        · exact .inl ⟨same.symm, behind⟩
        · exact .inr (.inl ⟨UInt64.lt_of_le_of_ne larger same, rfl,
            fun mine => absurd mine theirs⟩)
      · exact .inr (.inr leads)

/-! ### A session that is listened to -/

theorem mapSize_of_holds {contents : Contents} (holds : world.file.Holds contents) :
    world.mapSize = contents.header.mapSize := by
  rw [mapSize, holds.readable]

structure Listens (world : Sessions) (who : Nat) (contents : Contents) (age : Nat)
    (mapped : UInt64) : Prop where
  valid : world.Valid contents age
  watched : (world.session who).Watched world.file contents age mapped

variable {contents : Contents} {age : Nat} {bulk : Bool}

theorem Listens.within (listens : world.Listens who contents age mapped) :
    mapped ≤ world.mapSize := by
  rw [mapSize_of_holds listens.valid.holds]
  exact listens.watched.within

theorem Listens.least (listens : world.Listens who contents age mapped) :
    Layout.minimumMapSize ≤ world.mapSize := by
  rw [mapSize_of_holds listens.valid.holds]
  exact listens.valid.holds.fits.mapSize_ge

/-- A call of the session: what it reports, and how much is mapped after it. -/
theorem Listens.step_own (listens : world.Listens who contents age mapped)
    (mine : request.who = who) (stays : ¬ request.call.Opens) :
    ∃ after notes mapped', (world.step request).Listens who after (age + 1) mapped' ∧
      Session.Reported (world.caller request) contents mapped request.call (world.outcome request)
        after notes mapped' := by
  subst mine
  have watched : (world.caller request).Watched world.file contents age mapped :=
    listens.watched.withRoom request.room
  obtain ⟨bumps, landed, lands⟩ := listens.valid.lands (watched.not_cutsBack request.call)
  obtain ⟨after, notes, mapped', reported⟩ := watched.act_reported stays request.room
  have same := reported.holds.unique lands.advances.holds
  subst same
  have valid := listens.valid.land lands request.who
  have acted : (world.step request).session request.who = (world.outcome request).2.1 :=
    session_step rfl
  refine ⟨after, notes, mapped', ⟨valid, ?_⟩, reported⟩
  exact
    { holds := valid.holds
      follows := valid.follows request.who
      orderly := acted ▸ watched.orderly.act request.call request.room world.file
      attends := acted ▸ reported.tells.attends
      whole := acted ▸ reported.whole }

/-- A call of another session: nothing is reported, and while a transaction is pending in bulk mode
the map stays as it is. -/
theorem Listens.step_other (listens : world.Listens who contents age mapped)
    (theirs : request.who ≠ who) (safe : ¬ world.CutsBack request)
    (quiet : (world.session who).bulk = true → request.call.Looks) :
    ∃ after, (world.step request).Listens who after (age + 1) mapped ∧
      contents.header.mapSize ≤ after.header.mapSize := by
  obtain ⟨bumps, after, lands⟩ := listens.valid.lands safe
  have valid := listens.valid.land lands request.who
  have untouched : (world.step request).session who = world.session who :=
    Function.update_of_ne (Ne.symm theirs) _ _
  have whole : (world.session who).pending? = none ∨ mapped = after.header.mapSize := by
    cases mode : (world.session who).bulk with
    | false => exact .inl (listens.watched.orderly mode)
    | true =>
        have kept : (world.outcome request).2.2 = world.file :=
          Session.act_looks (quiet mode) listens.valid.holds
        have same := listens.valid.holds.unique (kept ▸ lands.advances.holds)
        rw [← same]
        exact listens.watched.whole
  refine ⟨after, ⟨valid, ?_⟩, lands.advances.mapSize_le⟩
  exact
    { holds := valid.holds
      follows := valid.follows who
      orderly := untouched ▸ listens.watched.orderly
      attends := untouched ▸ listens.watched.attends
      whole := untouched ▸ whole }

/-- What is reported in a run. Nobody cuts the map back, and nobody writes beside a session in bulk
mode. -/
theorem Listens.run (listens : world.Listens who contents age mapped)
    (settings : (world.session who).config = config ∧ (world.session who).bulk = bulk)
    (stays : ∀ request ∈ requests, Stays who request)
    (safe : Along Sessions.step
      (fun world request => request.who ≠ who → ¬ world.CutsBack request) requests world)
    (quiet : ∀ request ∈ requests, request.who ≠ who → bulk = true → request.call.Looks) :
    ∃ notes last, Hears who config world requests mapped notes last ∧
      ((Sessions.run requests world).session who).limit? = some last ∧
      ((Sessions.run requests world).session who).notifications =
        (world.session who).notifications ++ notes := by
  induction requests generalizing world contents age mapped with
  | nil => exact ⟨[], mapped, .nil, listens.watched.attends.limit?_eq, (List.append_nil _).symm⟩
  | cons request rest ih =>
      have staysLater := fun later member => stays later (List.mem_cons_of_mem request member)
      have quietLater := fun later member => quiet later (List.mem_cons_of_mem request member)
      by_cases mine : request.who = who
      · have stay := stays request List.mem_cons_self mine
        obtain ⟨after, notes, mapped', stepped, reported⟩ := listens.step_own mine stay
        have acted : (world.step request).session who = (world.outcome request).2.1 :=
          session_step mine
        have retains := (world.caller request).retains_act world.file
          (Session.not_opens_iff.mp stay) request.room
        have callerEq : (world.caller request).config = config ∧
            (world.caller request).bulk = bulk ∧
            (world.caller request).notifications = (world.session who).notifications := by
          subst mine
          exact ⟨settings.1, settings.2, rfl⟩
        obtain ⟨notes', last, hears, limitEq, notesEq⟩ := ih stepped
          (acted ▸ ⟨retains.config_eq.trans callerEq.1, retains.bulk_eq.trans callerEq.2.1⟩)
          staysLater safe.2 quietLater
        have moves := reported.moves
        rw [callerEq.1, ← mapSize_of_holds listens.valid.holds,
          ← mapSize_of_holds stepped.valid.holds] at moves
        refine ⟨notes ++ notes', last, .own mine listens.least listens.within moves
          stepped.watched.attends.limit?_eq ?_ hears, limitEq, ?_⟩
        · intro _ asks succeeds
          rw [stepped.watched.attends.limit?_eq, mapSize_of_holds stepped.valid.holds,
            reported.upToDate asks succeeds]
        · have told := reported.tells.notifications_eq
          rw [callerEq.2.2, ← acted] at told
          rw [← List.append_assoc, ← told]
          exact notesEq
      · obtain ⟨after, stepped, larger⟩ := listens.step_other mine (safe.1 mine) fun mode =>
          quiet request List.mem_cons_self mine (settings.2.symm.trans mode)
        have untouched : (world.step request).session who = world.session who :=
          Function.update_of_ne (Ne.symm mine) _ _
        obtain ⟨notes, last, hears, limitEq, notesEq⟩ := ih stepped (untouched ▸ settings)
          staysLater safe.2 quietLater
        rw [← mapSize_of_holds listens.valid.holds, ← mapSize_of_holds stepped.valid.holds]
          at larger
        rw [untouched] at notesEq
        exact ⟨notes, last, .other mine larger hears, limitEq, notesEq⟩

/-! ### Runs -/

structure Notified (who : Nat) (world : Sessions) (requests : List Request)
    (notes : List Notification) : Prop where
  notifications_eq : ((run requests world).session who).notifications =
    (world.session who).notifications ++ notes
  /-- The sizes lead from what is mapped at first to what is mapped at last. -/
  hears : ∃ first last, (world.session who).limit? = some first ∧
    ((run requests world).session who).limit? = some last ∧
    Hears who (world.session who).config world requests first notes last ∧
    Ascends first (notes.filterMap Notification.size?) last
  catches : Along step (Catches who) requests world
  announces : Along step (Announces who notes) requests world
  mapFull : ∀ size, .mapFull size ∈ notes → Somewhere (Passes who size) requests world
  mapResized : ∀ size, .mapResized size ∈ notes → Somewhere (Leads who size) requests world

/-- A session that has mapped all of the map has nothing to find at first. -/
theorem Listens.notified (listens : world.Listens who contents age contents.header.mapSize)
    (stays : ∀ request ∈ requests, Stays who request)
    (safe : Along Sessions.step
      (fun world request => request.who ≠ who → ¬ world.CutsBack request) requests world)
    (quiet : ∀ request ∈ requests, request.who ≠ who → (world.session who).bulk = true →
      request.call.Looks) :
    ∃ notes, world.Notified who requests notes := by
  have valid := (listens.valid.follows who).valid
  obtain ⟨notes, last, hears, limitEq, notesEq⟩ := listens.run ⟨rfl, rfl⟩ stays safe quiet
  refine ⟨notes,
    { notifications_eq := notesEq
      hears := ⟨_, last, listens.watched.attends.limit?_eq, limitEq, hears, hears.ascends valid⟩
      catches := hears.catches
      announces := hears.announces valid
      mapFull := fun _ told => hears.of_mapFull valid told
      mapResized := ?_ }⟩
  intro size told
  rcases hears.of_mapResized valid told with ⟨rfl, behind⟩ | leads
  · rw [mapSize_of_holds listens.valid.holds] at behind
    exact absurd behind (UInt64.lt_irrefl _)
  · exact leads

theorem Valid.listen (valid : world.Valid contents age) (who : Nat) :
    (world.listen who).Valid contents age where
  holds := valid.holds
  follows := by
    apply (Function.forall_update_iff world.session fun _ found =>
      found.Follows contents age).mpr
    have follows := valid.follows who
    exact ⟨⟨follows.valid, follows.tracks, follows.sound, follows.writer⟩,
      fun other _ => valid.follows other⟩

/-- A session that is listened to right after it was opened has mapped all of the map. -/
theorem listens_of_open {opening : Request} {path : String} {flags : OpenFlags}
    (created : world.Blank ∨ ∃ contents, world.Valid contents age)
    (opens : opening.call = .open path flags bulk) (opened : world.reply opening = .done) :
    ∃ contents, ((world.step opening).listen opening.who).Listens opening.who contents (age + 1)
        contents.header.mapSize ∧
      (((world.step opening).listen opening.who).session opening.who).bulk = bulk := by
  have usable : world.file.Usable :=
    created.imp Blank.nothing fun ⟨contents, valid⟩ => ⟨contents, valid.holds⟩
  have configured : (world.session opening.who).config.Valid := by
    rcases created with blank | ⟨contents, valid⟩
    · exact (blank.closed opening.who).valid
    · exact (valid.follows opening.who).valid
  obtain ⟨contents, env, holds, _, here, attached, mode, idle⟩ :=
    step_opened usable configured opens opened
  have safe : ¬ world.CutsBack opening := by
    apply Session.Call.Opens.not_cutsBack
    rw [opens]
    trivial
  rcases step_valid created safe with blank | ⟨found, valid⟩
  · rw [(blank.closed opening.who).noEnv] at here
    cases here
  · have same := valid.holds.unique holds
    subst same
    have told : ((world.step opening).listen opening.who).session opening.who =
        ((world.step opening).session opening.who).control .notify := Function.update_self _ _ _
    have listened := valid.listen opening.who
    have follows := listened.follows opening.who
    have waits : (((world.step opening).session opening.who).control .notify).pending? = none :=
      idle
    rw [told] at follows
    refine ⟨found, ⟨listened, ?_⟩, ?_⟩
    · rw [told]
      exact Session.watched_of_idle listened.holds follows waits
        ⟨rfl, env, here, attached.current.mapSize_eq, attached.taken⟩
    · rw [told]
      exact mode

theorem listen_plain (plain : ∀ who, (world.session who).Plain) (who : Nat) :
    ∀ other, ((world.listen who).session other).Plain := by
  apply (Function.forall_update_iff world.session fun _ found => found.Plain).mpr
  exact ⟨⟨(plain who).single, (plain who).idle⟩, fun other _ => plain other⟩

/-- What a session reports that is listened to right after it was opened. Nobody is in bulk mode, or
the session is the only one that writes. Sizes get larger, and what is mapped has been reported. A
growth step is reported as such by the session that took it and by nobody else. A size that is
reported as found is one to which another session has grown the map, or one to which this session
has grown it when the system refused to map it. -/
theorem run_notifies {start : Sessions} {history : List Request} {opening : Request}
    {path : String} {flags : OpenFlags}
    (usable : start.file.Usable) (fresh : ∀ who, (start.session who).Fresh)
    (opens : opening.call = .open path flags bulk)
    (opened : (run history start).reply opening = .done)
    (begins : ((run history start).step opening).listen opening.who = world)
    (stays : ∀ request ∈ requests, Stays opening.who request)
    (quiet : NoBulk (history ++ opening :: requests) ∨
      (Along step (fun world request => ¬ world.CutsBack request) history start ∧
        SoleWriter opening.who requests)) :
    ∃ notes, world.Notified opening.who requests notes := by
  have plain : ∀ who, (start.session who).Plain := fun who =>
    ⟨(fresh who).closed.2, (fresh who).closed.1.idle⟩
  rcases quiet with noBulk | ⟨safe, alone⟩
  · obtain ⟨before, rest⟩ := List.forall_mem_append.mp noBulk
    obtain ⟨here, late⟩ := List.forall_mem_cons.mp rest
    have single : bulk = false := here path flags bulk opens
    have safe := NoBulk.along_not_cutsBack before plain
    have plain' := listen_plain (step_plain (NoBulk.run_plain before plain) here) opening.who
    rw [begins] at plain'
    obtain ⟨contents, listens, mode⟩ :=
      listens_of_open (run_valid (created_of_fresh usable fresh) safe) opens opened
    rw [begins] at listens mode
    apply listens.notified stays
    · exact (NoBulk.along_not_cutsBack late plain').imp fun _ _ safe _ => safe
    · intro _ _ _ bulk
      rw [mode, single] at bulk
      cases bulk
  · obtain ⟨contents, listens, mode⟩ :=
      listens_of_open (run_valid (created_of_fresh usable fresh) safe) opens opened
    rw [begins] at listens mode
    apply listens.notified stays
    · exact along_of_forall fun request member _ theirs =>
        ((alone request member).2 theirs).not_cutsBack
    · exact fun request member theirs _ => (alone request member).2 theirs

def madeByOther : List Request :=
  [⟨1, .open "x.mdb" { create := true } false, 65536⟩]

def opensBeside : Request :=
  ⟨0, .open "x.mdb" {} false, 65536⟩

def besideOther : Sessions :=
  ((run madeByOther (small Image.empty)).step opensBeside).listen 0

def growInTurn : List Request :=
  [⟨1, .put [107] (List.replicate 4100 118) false, 65536⟩, ⟨0, .get [107], 65536⟩,
    ⟨0, .put [108] (List.replicate 4100 119) false, 65536⟩, ⟨0, .delete [107], 65536⟩,
    ⟨1, .get [108], 65536⟩]

set_option maxRecDepth 20000 in
theorem run_notifies_growInTurn :
    (small Image.empty).file.Usable ∧ (∀ who, ((small Image.empty).session who).Fresh) ∧
      (run madeByOther (small Image.empty)).reply opensBeside = .done ∧
      (∀ request ∈ growInTurn, Stays 0 request) ∧
      NoBulk (madeByOther ++ opensBeside :: growInTurn) ∧
      besideOther.Notified 0 growInTurn [.mapResized 8192, .mapFull 16384] := by
  have usable : (small Image.empty).file.Usable := .inl rfl
  have fresh : ∀ who, ((small Image.empty).session who).Fresh := by
    intro who
    apply Session.fresh_idle
    exact ⟨by decide, by decide, by decide⟩
  have opened : (run madeByOther (small Image.empty)).reply opensBeside = .done := by
    decide +kernel
  have stays : ∀ request ∈ growInTurn, Stays 0 request := by
    simp [Stays, Session.Call.Opens, growInTurn, -List.reduceReplicate]
  have noBulk : NoBulk (madeByOther ++ opensBeside :: growInTurn) := by
    simp [NoBulk, madeByOther, opensBeside, growInTurn, -List.reduceReplicate]
  obtain ⟨notes, notified⟩ := run_notifies usable fresh rfl opened rfl stays (.inl noBulk)
  have told : ((run growInTurn besideOther).session 0).notifications =
      [.mapResized 8192, .mapFull 16384] := by
    decide +kernel
  have same : [.mapResized 8192, .mapFull 16384] = notes :=
    told.symm.trans notified.notifications_eq
  exact ⟨usable, fresh, opened, stays, noBulk, same ▸ notified⟩

def grownBeyond : Request :=
  ⟨0, .put [108] (List.replicate 5000 121) false, 65536⟩

set_option maxRecDepth 20000 in
/-- The session alone takes the map from 4096 bytes to a size that the system refuses to map. When
there are addresses for it the next read reports that size as one that has been found. -/
theorem ownGrowth_reported_as_found :
    ((greedy.step opensPlainly).listen 0).reply grownBeyond = .failed (.io .outOfAddresses) ∧
    ((((greedy.step opensPlainly).listen 0).step grownBeyond).session 0).notifications = [] ∧
    ((run [grownBeyond, ⟨0, .get [108], 4503599627370496⟩]
      ((greedy.step opensPlainly).listen 0)).session 0).notifications =
        [.mapResized 4503599627370496] := by
  refine ⟨?_, ?_, ?_⟩
  · decide +kernel
  · decide +kernel
  · decide +kernel

end Sessions

end RecordFile
