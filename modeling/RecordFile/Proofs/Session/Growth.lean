/-
What a write comes to that grows the map when it does not fit.

A write is tried again only after the environment has seen that the map is full, and then it
maps all of the map, so a growth step is never a step back. The records are not touched by
growing. What the budget does not suffice for is refused, and then there is no place for the
payload even in the largest map that the budget reaches.
-/

import RecordFile.Proofs.Environment.Opening
import RecordFile.Proofs.Environment.Writing
import RecordFile.Session

namespace RecordFile

/-! ### Configurations -/

structure SessionConfig.Valid (config : SessionConfig) : Prop where
  two_le : 2 ≤ config.growthMultiplier
  minimum_le : Layout.minimumMapSize ≤ config.initialMapSize
  initial_le : config.initialMapSize ≤ config.maxMapSize

namespace Session

open Environment (Mappable Kin)

variable {config : SessionConfig}

theorem init_eq_ok {session : Session} (made : init config = .ok session) :
    config.Valid ∧ session.config = config ∧ session.env? = none ∧ session.pending? = none ∧
      session.bulk = false := by
  unfold init at made
  split at made
  · cases made
  · next multiplies =>
      split at made
      · cases made
      · next sized =>
          cases made
          refine ⟨⟨UInt64.not_lt.mp multiplies, ?_, ?_⟩, rfl, rfl, rfl, rfl⟩
          · exact UInt64.not_lt.mp fun less => sized (Or.inl less)
          · exact UInt64.not_lt.mp fun less => sized (Or.inr less)

theorem toNat_nextSize (config : SessionConfig) (current : UInt64) :
    (nextSize config current).toNat =
      min (current.toNat * config.growthMultiplier.toNat) config.maxMapSize.toNat := by
  have bound := config.maxMapSize.toNat_lt
  apply UInt64.toNat_ofNat_of_lt'
  change _ < UInt64.size at bound
  omega

theorem nextSize_le (config : SessionConfig) (current : UInt64) :
    nextSize config current ≤ config.maxMapSize := by
  rw [UInt64.le_iff_toNat_le, toNat_nextSize]
  exact Nat.min_le_right _ _

/-- A growth step is not a step back. -/
theorem le_nextSize (valid : config.Valid) {current : UInt64}
    (smaller : current < config.maxMapSize) : current ≤ nextSize config current := by
  have multiplier := UInt64.le_iff_toNat_le.mp valid.two_le
  change 2 ≤ _ at multiplier
  have less := UInt64.lt_iff_toNat_lt.mp smaller
  have enough : current.toNat ≤ current.toNat * config.growthMultiplier.toNat :=
    Nat.le_mul_of_pos_right _ (by omega)
  rw [UInt64.le_iff_toNat_le, toNat_nextSize]
  omega

/-- The map size after so many growth steps, unless it has its largest size before. -/
def grownSize (config : SessionConfig) : Nat → UInt64 → UInt64
  | 0, current => current
  | steps + 1, current =>
      if config.maxMapSize ≤ current then current
      else grownSize config steps (nextSize config current)

theorem grownSize_succ {current : UInt64} (smaller : current < config.maxMapSize)
    (steps : Nat) :
    grownSize config (steps + 1) current = grownSize config steps (nextSize config current) := by
  rw [grownSize, if_neg (UInt64.not_le.mpr smaller)]

/-! ### What operations leave alone -/

structure Alike (session session' : Session) : Prop where
  config_eq : session'.config = session.config
  bulk_eq : session'.bulk = session.bulk
  pending?_eq : session'.pending? = session.pending?
  bulkRetries_eq : session'.bulkRetries = session.bulkRetries
  apiRetryLimit_eq : session'.apiRetryLimit = session.apiRetryLimit
  bulkRetryLimit_eq : session'.bulkRetryLimit = session.bulkRetryLimit
  cursor?_eq : session'.cursor? = session.cursor?
  env : ∀ env, session.env? = some env → ∃ env', session'.env? = some env' ∧ env.Kin env'

variable {session session' session'' : Session} {env env' : Environment}

theorem Alike.refl (session : Session) : session.Alike session :=
  ⟨rfl, rfl, rfl, rfl, rfl, rfl, rfl, fun env here => ⟨env, here, Kin.refl env⟩⟩

theorem Alike.trans (before : session.Alike session') (after : session'.Alike session'') :
    session.Alike session'' where
  config_eq := after.config_eq.trans before.config_eq
  bulk_eq := after.bulk_eq.trans before.bulk_eq
  pending?_eq := after.pending?_eq.trans before.pending?_eq
  bulkRetries_eq := after.bulkRetries_eq.trans before.bulkRetries_eq
  apiRetryLimit_eq := after.apiRetryLimit_eq.trans before.apiRetryLimit_eq
  bulkRetryLimit_eq := after.bulkRetryLimit_eq.trans before.bulkRetryLimit_eq
  cursor?_eq := after.cursor?_eq.trans before.cursor?_eq
  env := by
    intro env here
    obtain ⟨env', there, kin⟩ := before.env env here
    obtain ⟨env'', last, further⟩ := after.env env' there
    exact ⟨env'', last, kin.trans further⟩

theorem alike_withEnv (here : session.env? = some env) (kin : env.Kin env') :
    session.Alike { session with env? := some env' } where
  config_eq := rfl
  bulk_eq := rfl
  pending?_eq := rfl
  bulkRetries_eq := rfl
  apiRetryLimit_eq := rfl
  bulkRetryLimit_eq := rfl
  cursor?_eq := rfl
  env := by
    intro found there
    rw [here] at there
    cases there
    exact ⟨env', rfl, kin⟩

theorem env?_emit (session : Session) (notification : Notification) :
    (session.emit notification).env? = session.env? := by
  unfold emit
  split
  · rfl
  · rfl

theorem alike_emit (session : Session) (notification : Notification) :
    session.Alike (session.emit notification) := by
  unfold emit
  split
  · exact ⟨rfl, rfl, rfl, rfl, rfl, rfl, rfl, fun env here => ⟨env, here, Kin.refl env⟩⟩
  · exact Alike.refl session

/-- Reporting takes note of a growth, and neither mapping nor snapshot changes. -/
theorem reportResize_cases (session : Session) (here : session.env? = some env) :
    ∃ env', session.reportResize.env? = some env' ∧ env'.mapSize = env.mapSize ∧
      env'.snapshot = env.snapshot ∧ session.Alike session.reportResize := by
  unfold reportResize
  rw [here]
  dsimp only [Environment.takeResized]
  cases env.resized? with
  | none => exact ⟨env, here, rfl, rfl, Alike.refl session⟩
  | some size =>
      have taken : session.Alike { session with env? := some { env with resized? := none } } :=
        alike_withEnv here ⟨rfl, rfl⟩
      exact ⟨_, env?_emit _ _, rfl, rfl, taken.trans (alike_emit _ _)⟩

/-! ### Tracking -/

def Tracks (session : Session) (contents : Contents) (age : Nat) : Prop :=
  ∀ env, session.env? = some env → env.Tracks contents age

variable {file : Image} {contents : Contents} {age : Nat}

theorem tracks_reportResize (tracks : session.Tracks contents age) :
    session.reportResize.Tracks contents age := by
  cases here : session.env? with
  | none =>
      intro env there
      unfold reportResize at there
      rw [here] at there
      dsimp only at there
      rw [here] at there
      cases there
  | some found =>
      obtain ⟨env', there, mapEq, snapshotEq, _⟩ := reportResize_cases session here
      have before := tracks found here
      intro env same
      rw [there] at same
      cases same
      refine ⟨?_, ?_, ?_⟩
      · rw [mapEq]
        exact before.mapSize_le
      · rw [snapshotEq]
        exact before.sound
      · rw [snapshotEq]
        exact before.lag

theorem tracks_of_env (here : session.env? = some env) (tracks : env.Tracks contents age) :
    session.Tracks contents age := by
  intro found there
  rw [here] at there
  cases there
  exact tracks

theorem tracks_withEnv (session : Session) (tracks : env.Tracks contents age) :
    Tracks { session with env? := some env } contents age := by
  intro found here
  cases here
  exact tracks

/-! ### One growth step -/

/-- A growth step is not taken at the largest size. Otherwise it comes to what growing the
environment comes to, as long as the map is not larger than the size it leads to. -/
theorem grow_cases (holds : file.Holds contents) (here : session.env? = some env)
    (tracks : env.Tracks contents age)
    (larger : env.mapSize < session.config.maxMapSize →
      contents.header.mapSize ≤ nextSize session.config env.mapSize) :
    (session.config.maxMapSize ≤ env.mapSize ∧ session.grow file = (.ok false, session, file)) ∨
    (env.mapSize < session.config.maxMapSize ∧ ∃ result session' env' file' after,
      session.grow file = (result, session', file') ∧ Advances 0 file contents file' after ∧
      session.Alike session' ∧ session'.env? = some env' ∧ env.Kin env' ∧ env'.Tracks after age ∧
      ((result = .ok true ∧ env'.mapSize = nextSize session.config env.mapSize ∧
          after.header.mapSize = nextSize session.config env.mapSize) ∨
        (env.flags.readOnly = true ∧ result = .error .readOnly) ∨
        (env.flags.readOnly = false ∧ ¬ Mappable env.room (nextSize session.config env.mapSize) ∧
          ∃ cause, result = .error (.io cause)))) := by
  unfold grow
  rw [here]
  dsimp only
  split
  · next largest => exact Or.inl ⟨largest, rfl⟩
  · next smaller =>
      have smaller := UInt64.not_le.mp smaller
      obtain ⟨result, env', file', after, grown, advances, kin, tracks', came⟩ :=
        env.grow_outcome holds tracks (larger smaller)
      have alike := alike_withEnv here kin
      right
      refine ⟨smaller, ?_⟩
      rw [grown]
      rcases came with ⟨rfl, mapEq, headerEq⟩ | ⟨reader, rfl⟩ | ⟨writer, far, cause, rfl⟩
      · exact ⟨_, _, env', file', after, rfl, advances, alike.trans (alike_emit _ _),
          env?_emit _ _, kin, tracks', Or.inl ⟨rfl, mapEq, headerEq⟩⟩
      · exact ⟨_, _, env', file', after, rfl, advances, alike, rfl, kin, tracks',
          Or.inr (Or.inl ⟨reader, rfl⟩)⟩
      · exact ⟨_, _, env', file', after, rfl, advances, alike, rfl, kin, tracks',
          Or.inr (Or.inr ⟨writer, far, cause, rfl⟩)⟩

/-! ### Growing until it fits -/

inductive Outcome {α : Type} (session : Session) (file : Image) (contents : Contents)
    (age : Nat) (done : α → Records → Prop) (refused : EngineError → Prop) :
    Except EngineError α × Session × Image → Prop
  | ok {value : α} {session' : Session} {file' : Image} {after : Contents} {bumps : Nat}
      (advances : Advances bumps file contents file' after) (once : bumps ≤ 1)
      (alike : session.Alike session') (tracks : session'.Tracks after (age + bumps))
      (does : age < UInt64.size → done value after.records) :
      Outcome session file contents age done refused (.ok value, session', file')
  | error {failure : EngineError} {session' : Session} {file' : Image} {after : Contents}
      (advances : Advances 0 file contents file' after) (alike : session.Alike session')
      (tracks : session'.Tracks after age) (refuses : age < UInt64.size → refused failure) :
      Outcome session file contents age done refused (.error failure, session', file')

/-- A call is to take so many growth steps: there are as many, and before each of them there is no
place for a payload of this length. -/
structure Climbs (session : Session) (contents : Contents) (budget length steps : Nat) :
    Prop where
  within : steps ≤ budget
  smaller : ∀ earlier < steps,
    grownSize session.config earlier contents.header.mapSize < session.config.maxMapSize
  cramped : ∀ earlier < steps,
    contents.Cramped (grownSize session.config earlier contents.header.mapSize) length

theorem climbs_zero (session : Session) (contents : Contents) (budget length : Nat) :
    session.Climbs contents budget length 0 :=
  ⟨Nat.zero_le _, fun _ none => absurd none (Nat.not_lt_zero _),
    fun _ none => absurd none (Nat.not_lt_zero _)⟩

theorem climbs_one (within : 1 ≤ budget)
    (smaller : contents.header.mapSize < session.config.maxMapSize)
    (cramped : contents.Cramped contents.header.mapSize length) :
    session.Climbs contents budget length 1 where
  within := within
  smaller := by
    intro earlier before
    rw [Nat.lt_one_iff.mp before]
    exact smaller
  cramped := by
    intro earlier before
    rw [Nat.lt_one_iff.mp before]
    exact cramped

theorem Climbs.of_grown (climbs : session'.Climbs after budget length steps)
    (advances : Advances 0 file contents file' after) (configEq : session'.config = session.config)
    (smaller : contents.header.mapSize < session.config.maxMapSize)
    (mapSizeEq : after.header.mapSize = nextSize session.config contents.header.mapSize)
    (cramped : contents.Cramped contents.header.mapSize length) :
    session.Climbs contents (budget + 1) length (steps + 1) where
  within := Nat.succ_le_succ climbs.within
  smaller := by
    intro earlier before
    cases earlier with
    | zero => exact smaller
    | succ earlier =>
        have less := climbs.smaller earlier (Nat.lt_of_succ_lt_succ before)
        rw [configEq, mapSizeEq] at less
        rw [grownSize_succ smaller]
        exact less
  cramped := by
    intro earlier before
    cases earlier with
    | zero => exact cramped
    | succ earlier =>
        have still := climbs.cramped earlier (Nat.lt_of_succ_lt_succ before)
        rw [configEq, mapSizeEq, cramped_iff_of_advances advances] at still
        rw [grownSize_succ smaller]
        exact still

/-- Why a write that does not fit is given up: the failure says how often it may be tried, and
there is no place for the payload in the largest map that this many growth steps reach. -/
def GivesUp (session : Session) (contents : Contents) (budget length : Nat)
    (failure : EngineError) : Prop :=
  (∃ cause, cause.isMapFull = true ∧ failure = .retryLimit session.apiRetryLimit cause) ∧
    contents.Cramped (grownSize session.config budget contents.header.mapSize) length

/-- The system refuses the size of the map, or the one that the next growth step leads to of a write
that is admitted and has no place in the map as it is. -/
def OutOfReach (session : Session) (contents : Contents) (admits : Prop)
    (room budget length : Nat) : Prop :=
  ¬ Mappable room contents.header.mapSize ∨
    admits ∧ ∃ steps, session.Climbs contents budget length (steps + 1) ∧
      ¬ Mappable room (grownSize session.config (steps + 1) contents.header.mapSize)

def Refuses (session : Session) (contents : Contents) (readOnly : Bool) (rules : Rules)
    (room budget length : Nat) : EngineError → Prop :=
  Refused readOnly rules (session.OutOfReach contents rules.admits room budget length)
    (session.GivesUp contents budget length)

def Writes {α : Type} (readOnly : Bool) (records : Records) (age length : Nat)
    (done : α → Records → Prop) (rules : Rules)
    (operation : Environment → Image → Except EngineError α × Environment × Image) : Prop :=
  ∀ (env : Environment) (file : Image) (contents : Contents), file.Holds contents →
    env.Tracks contents age → contents.records = records → env.flags.readOnly = readOnly →
      env.Outcome file contents age done
        (Refused readOnly rules (¬ Mappable env.room contents.header.mapSize)
          (fun failure => failure.isMapFull = true ∧
            contents.Cramped contents.header.mapSize length)) (operation env file)

variable {α : Type} {done : α → Records → Prop} {refused refused' : EngineError → Prop}
  {readOnly : Bool} {rules : Rules} {room budget length : Nat}

theorem Outcome.after_growth {file' : Image} {after : Contents}
    {result : Except EngineError α × Session × Image}
    (grown : Advances 0 file contents file' after) (alike : session.Alike session')
    (outcome : session'.Outcome file' after age done refused result)
    (weaken : age < UInt64.size → ∀ failure, refused failure → refused' failure) :
    session.Outcome file contents age done refused' result := by
  cases outcome with
  | @ok _ _ _ _ bumps advances once further tracks does =>
      have both := grown.trans advances
      rw [Nat.zero_add] at both
      exact .ok both once (alike.trans further) tracks does
  | error advances further tracks refuses =>
      exact .error (grown.trans advances) (alike.trans further) tracks
        (fun short => weaken short _ (refuses short))

/-- A refusal after a growth step is one with that step more to go. -/
theorem Refuses.of_grown {file' : Image} {after : Contents}
    (advances : Advances 0 file contents file' after) (alike : session.Alike session')
    (smaller : contents.header.mapSize < session.config.maxMapSize)
    (mapSize_eq : after.header.mapSize = nextSize session.config contents.header.mapSize)
    (admitted : rules.admits) (cramped : contents.Cramped contents.header.mapSize length)
    {failure : EngineError}
    (refuses : session'.Refuses after readOnly rules room budget length failure) :
    session.Refuses contents readOnly rules room (budget + 1) length failure := by
  have reached : ∀ steps, grownSize session'.config steps after.header.mapSize =
      grownSize session.config (steps + 1) contents.header.mapSize := by
    intro steps
    rw [grownSize_succ smaller, alike.config_eq, mapSize_eq]
  apply refuses.weaken
  · rintro (far | ⟨_, steps, climbs, far⟩)
    · refine Or.inr ⟨admitted, 0, climbs_one (Nat.le_add_left 1 budget) smaller cramped, ?_⟩
      rw [← reached]
      exact far
    · refine Or.inr ⟨admitted, steps + 1,
        climbs.of_grown advances alike.config_eq smaller mapSize_eq cramped, ?_⟩
      rw [← reached]
      exact far
  · rintro failure ⟨⟨cause, isFull, rfl⟩, still⟩
    rw [reached] at still
    exact ⟨⟨cause, isFull, by rw [alike.apiRetryLimit_eq]⟩,
      (cramped_iff_of_advances advances _ _).mp still⟩

/-- A map that is full is given up when the retries that are left lead to no other size. -/
theorem refuses_of_full {failure : EngineError} (alike : session.Alike session')
    (isFull : failure.isMapFull = true)
    (full : readOnly = false ∧ rules.admits ∧ contents.Cramped contents.header.mapSize length)
    (reached : grownSize session.config budget contents.header.mapSize =
      contents.header.mapSize) :
    session.Refuses contents readOnly rules room budget length
      (.retryLimit session'.apiRetryLimit failure) := by
  obtain ⟨writer, admitted, cramped⟩ := full
  refine .full writer admitted ⟨⟨failure, isFull, by rw [alike.apiRetryLimit_eq]⟩, ?_⟩
  rw [reached]
  exact cramped

def regrow (operation : Environment → Image → Except EngineError α × Environment × Image) :
    Nat → Session → EngineError → Image → Except EngineError α × Session × Image
  | 0, session, failure, file =>
      (.error (.retryLimit session.apiRetryLimit failure), session, file)
  | budget + 1, session, failure, file =>
      match session.grow file with
      | (.error failure, session, file) => (.error failure, session, file)
      | (.ok false, session, file) =>
          (.error (.retryLimit session.apiRetryLimit failure), session, file)
      | (.ok true, session, file) => growing operation budget session file

/-- One attempt ends the call, or the map is full. Then all of the map is mapped. -/
theorem attempt_cases {records : Records}
    {operation : Environment → Image → Except EngineError α × Environment × Image}
    (writes : Writes readOnly records age length done rules operation) (budget : Nat)
    (holds : file.Holds contents) (same : contents.records = records)
    (here : session.env? = some env) (tracks : env.Tracks contents age)
    (mode : env.flags.readOnly = readOnly) :
    session.Outcome file contents age done
      (session.Refuses contents readOnly rules env.room budget length)
      (growing operation budget session file) ∨
    ∃ failure session' env', failure.isMapFull = true ∧
      growing operation budget session file = regrow operation budget session' failure file ∧
      session.Alike session' ∧ session'.env? = some env' ∧ env.Kin env' ∧
      env'.Tracks contents age ∧ env'.mapSize = contents.header.mapSize ∧
      (age < UInt64.size → readOnly = false ∧ rules.admits ∧
        contents.Cramped contents.header.mapSize length) := by
  have attempt := writes env file contents holds tracks same mode
  unfold growing
  rw [here]
  dsimp only
  generalize operation env file = result at attempt
  cases attempt with
  | @ok value env' _ _ _ advances once _ kin tracks' does =>
      obtain ⟨_, _, _, _, reported⟩ :=
        reportResize_cases { session with env? := some env' } rfl
      left
      exact .ok advances once ((alike_withEnv here kin).trans reported)
        (tracks_reportResize (tracks_withEnv session tracks')) does
  | @error failure env' kin tracks' refuses fresh =>
      obtain ⟨last, there, mapEq, _, reported⟩ :=
        reportResize_cases { session with env? := some env' } rfl
      have alike := (alike_withEnv here kin).trans reported
      have after := tracks_reportResize (tracks_withEnv session tracks')
      dsimp only
      split
      · next isFull =>
          obtain ⟨found, again, lastKin⟩ := alike.env env here
          rw [there] at again
          cases again
          right
          refine ⟨failure, _, last, isFull, ?_, alike, there, lastKin, after last there,
            mapEq.trans (fresh isFull), fun short => (refuses short).of_isMapFull isFull⟩
          cases budget with
          | zero => rfl
          | succ budget => rfl
      · next other =>
          left
          exact .error (Advances.refl holds) alike after fun short =>
            (refuses short).of_not_isMapFull other Or.inl

theorem growing_outcome {records : Records}
    {operation : Environment → Image → Except EngineError α × Environment × Image}
    (writes : Writes readOnly records age length done rules operation) (budget : Nat)
    (holds : file.Holds contents) (same : contents.records = records)
    (here : session.env? = some env) (tracks : env.Tracks contents age)
    (mode : env.flags.readOnly = readOnly) (valid : session.config.Valid) :
    session.Outcome file contents age done
      (session.Refuses contents readOnly rules env.room budget length)
      (growing operation budget session file) := by
  -- The session and its header are those that the steps before have left.
  induction budget generalizing session env file contents with
  | zero =>
      rcases attempt_cases writes 0 holds same here tracks mode with
        outcome | ⟨failure, session', env', isFull, grows, alike, here', _, tracks', _, full⟩
      · exact outcome
      · rw [grows]
        exact .error (Advances.refl holds) alike (tracks_of_env here' tracks')
          fun short => refuses_of_full alike isFull (full short) rfl
  | succ budget ih =>
      rcases attempt_cases writes (budget + 1) holds same here tracks mode with
        outcome | ⟨failure, session', env', isFull, grows, alike, here', kin, tracks', mapEq, full⟩
      · exact outcome
      · have stays := tracks_of_env here' tracks'
        -- No step cuts the map back: the environment maps what the header announces.
        have larger : env'.mapSize < session'.config.maxMapSize →
            contents.header.mapSize ≤ nextSize session'.config env'.mapSize := by
          intro smaller
          rw [← mapEq]
          exact le_nextSize (alike.config_eq ▸ valid) smaller
        rw [grows]
        unfold regrow
        dsimp only
        rcases grow_cases holds here' tracks' larger with
          ⟨largest, ended⟩ | ⟨smaller, result, session'', env'', file', after, grown, advances,
            alike', here'', kin', tracks'', came⟩
        · rw [ended]
          rw [alike.config_eq, mapEq] at largest
          exact .error (Advances.refl holds) alike stays
            fun short => refuses_of_full alike isFull (full short) (if_pos largest)
        · have both := alike.trans alike'
          rw [alike.config_eq, mapEq] at smaller came
          rw [grown]
          rcases came with ⟨rfl, _, headerEq⟩ | ⟨reader, rfl⟩ | ⟨_, far, cause, rfl⟩
          · have mode' : env''.flags.readOnly = readOnly := by
              rw [kin'.flags_eq, kin.flags_eq, mode]
            have rest := ih advances.holds ((advances.records_eq rfl).trans same) here'' tracks''
              mode' (both.config_eq ▸ valid)
            rw [kin'.room_eq, kin.room_eq] at rest
            apply rest.after_growth advances both
            intro short failure refuses
            obtain ⟨_, admitted, cramped⟩ := full short
            exact refuses.of_grown advances both smaller headerEq admitted cramped
          · apply Outcome.error advances both (tracks_of_env here'' tracks'')
            intro short
            rw [kin.flags_eq, mode, (full short).1] at reader
            cases reader
          · apply Outcome.error advances both (tracks_of_env here'' tracks'')
            intro short
            obtain ⟨writer, admitted, cramped⟩ := full short
            refine .io writer (Or.inr ⟨admitted, 0,
              climbs_one (Nat.le_add_left 1 budget) smaller cramped, ?_⟩)
            rw [kin.room_eq] at far
            rw [grownSize_succ smaller]
            exact far

end Session

end RecordFile
