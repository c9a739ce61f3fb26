/-
How far a write grows the map.

A write that does not fit grows the map one step and is tried again, and growing leaves the
committed payload where it is. So the write takes exactly the steps to the first size with room
for its payload beside the live one, if there is such a size within the budget and below the
largest map, and otherwise all the steps that there are. What the records decide alone grows
nothing, and neither does a deletion that fits. Since a map that has been doubled has as much room
behind the live payload as it had altogether, a deletion takes one step at most.
-/

import RecordFile.Proofs.Environment.Fitting
import RecordFile.Proofs.Session.Closing
import RecordFile.Proofs.Session.Searching

namespace RecordFile

def Notification.grownTo? : Notification → Option UInt64
  | .mapFull size => some size
  | _ => none

namespace Session

open Environment (Mappable Kin Refreshes Current Attempt)

variable {session session' session'' : Session} {env env' : Environment} {file file' : Image}
  {contents after : Contents} {config : SessionConfig} {current size : UInt64}
  {α : Type} {change : Change α} {budget length steps room : Nat}

/-! ### Growth steps -/

def grownSizes (config : SessionConfig) (steps : Nat) (current : UInt64) : List UInt64 :=
  (List.range steps).map fun step => grownSize config (step + 1) current

theorem grownSizes_succ (smaller : current < config.maxMapSize) (steps : Nat) :
    grownSizes config (steps + 1) current =
      nextSize config current :: grownSizes config steps (nextSize config current) := by
  unfold grownSizes
  rw [List.range_succ_eq_map, List.map_cons, List.map_map, grownSize_succ smaller]
  congr 1
  apply List.map_congr_left
  intro step _
  exact grownSize_succ smaller (step + 1)

/-! ### Reports -/

def growths (session : Session) : List UInt64 :=
  session.notifications.filterMap Notification.grownTo?

structure Reports (session session' : Session) (sizes : List UInt64) : Prop where
  alike : session.Alike session'
  listening_eq : session'.listening = session.listening
  growths_eq : session.listening = true → session'.growths = session.growths ++ sizes

theorem Reports.trans {first second : List UInt64} (before : session.Reports session' first)
    (later : session'.Reports session'' second) :
    session.Reports session'' (first ++ second) where
  alike := before.alike.trans later.alike
  listening_eq := later.listening_eq.trans before.listening_eq
  growths_eq := by
    intro listening
    rw [later.growths_eq (before.listening_eq.trans listening), before.growths_eq listening,
      List.append_assoc]

theorem reports_refreshed (here : session.env? = some env) (kin : env.Kin env') :
    session.Reports (session.refreshed env') [] :=
  ⟨alike_withEnv here kin, rfl, fun _ => (List.append_nil _).symm⟩

theorem reports_emit (session : Session) (notification : Notification) :
    session.Reports (session.emit notification) notification.grownTo?.toList := by
  refine ⟨alike_emit session notification, ?_, ?_⟩
  · unfold emit
    split
    · rfl
    · rfl
  · intro listening
    unfold emit growths
    rw [if_pos listening, List.filterMap_append]
    cases notification with
    | mapFull _ => rfl
    | _ => rfl

theorem reports_reportResize (here : session.env? = some env) :
    session.Reports session.reportResize [] := by
  cases grown : env.resized? with
  | none =>
      rw [reportResize_of_none here grown]
      exact ⟨Alike.refl session, rfl, fun _ => (List.append_nil _).symm⟩
  | some size =>
      rw [reportResize_of_some here grown]
      have taken : session.Reports (session.refreshed (env.withResized none)) [] :=
        reports_refreshed here ⟨rfl, rfl⟩
      exact taken.trans (reports_emit _ (.mapResized size))

/-- An attempt leaves the session with what its environment has mapped. -/
theorem attempt_reports (here : session.env? = some env) (kin : env.Kin env') :
    session.Reports (session.refreshed env').reportResize [] ∧
      (session.refreshed env').reportResize.limit? = some env'.mapSize := by
  obtain ⟨last, there, mapEq, _, _⟩ := reportResize_cases (session.refreshed env') rfl
  refine ⟨(reports_refreshed here kin).trans (reports_reportResize rfl), ?_⟩
  unfold limit?
  rw [there]
  exact congrArg some mapEq

theorem grow_reports (here : session.env? = some env) (alike : session.Alike session')
    (grown : session.grow file = (.ok true, session', file')) :
    session.Reports session' [nextSize session.config env.mapSize] := by
  unfold grow at grown
  rw [here] at grown
  dsimp only at grown
  split at grown
  · cases grown
  · split at grown
    · cases grown
    · next env' _ _ =>
        cases grown
        have told := reports_emit (session.refreshed env')
          (.mapFull (nextSize session.config env.mapSize))
        exact ⟨alike, told.listening_eq, told.growths_eq⟩

theorem grow_reports_none {failure : EngineError} (alike : session.Alike session')
    (refused : session.grow file = (.error failure, session', file')) :
    session.Reports session' [] := by
  unfold grow at refused
  split at refused
  · cases refused
    exact ⟨alike, rfl, fun _ => (List.append_nil _).symm⟩
  · split at refused
    · cases refused
    · dsimp only at refused
      split at refused
      · cases refused
        exact ⟨alike, rfl, fun _ => (List.append_nil _).symm⟩
      · cases refused

/-! ### Growing until it fits -/

inductive Grows (session : Session) (file : Image) (contents : Contents) (room : Nat)
    (change : Change α) (budget : Nat) : Except EngineError α × Session × Image → Prop
  /-- The records decide the answer alone. -/
  | decided {answer : Except EngineError α} {session' : Session}
      (decided : change.decided? = some answer) (reports : session.Reports session' [])
      (limit : session'.limit? = some contents.header.mapSize) :
      Grows session file contents room change budget (answer, session', file)
  /-- The map has grown to the first size with room for the payload. -/
  | stored {steps : Nat} {session' : Session} {file' : Image} {after : Contents}
      (undecided : change.decided? = none)
      (climbs : session.Climbs contents budget change.records.encodedLength steps)
      (fits : ¬ contents.Cramped (grownSize session.config steps contents.header.mapSize)
        change.records.encodedLength)
      (advances : Advances 1 file contents file' after)
      (records_eq : after.records = change.records)
      (mapSize_eq : after.header.mapSize =
        grownSize session.config steps contents.header.mapSize)
      (reports : session.Reports session'
        (grownSizes session.config steps contents.header.mapSize))
      (limit : session'.limit? =
        some (grownSize session.config steps contents.header.mapSize)) :
      Grows session file contents room change budget (.ok change.answer, session', file')
  /-- There is no room in the largest map that the steps lead to. -/
  | exhausted {steps needed bound : Nat} {session' : Session} {file' : Image} {after : Contents}
      (undecided : change.decided? = none)
      (climbs : session.Climbs contents budget change.records.encodedLength steps)
      (cramped : contents.Cramped (grownSize session.config steps contents.header.mapSize)
        change.records.encodedLength)
      (last : steps = budget ∨ session.config.maxMapSize ≤
        grownSize session.config steps contents.header.mapSize)
      (advances : Advances 0 file contents file' after)
      (mapSize_eq : after.header.mapSize =
        grownSize session.config steps contents.header.mapSize)
      (reports : session.Reports session'
        (grownSizes session.config steps contents.header.mapSize))
      (limit : session'.limit? =
        some (grownSize session.config steps contents.header.mapSize)) :
      Grows session file contents room change budget
        (.error (.retryLimit session.apiRetryLimit (.mapFull needed bound)), session', file')
  /-- The system refuses to give or map the next size. -/
  | refused {steps : Nat} {cause : SystemError} {session' : Session} {file' : Image}
      {after : Contents} (undecided : change.decided? = none)
      (climbs : session.Climbs contents budget change.records.encodedLength (steps + 1))
      (far : ¬ Mappable room (grownSize session.config (steps + 1) contents.header.mapSize))
      (advances : Advances 0 file contents file' after)
      (reports : session.Reports session'
        (grownSizes session.config steps contents.header.mapSize)) :
      Grows session file contents room change budget (.error (.io cause), session', file')

theorem Grows.of_reports {result : Except EngineError α × Session × Image}
    (grows : session'.Grows file contents room change budget result)
    (reports : session.Reports session' []) :
    session.Grows file contents room change budget result := by
  have configEq := reports.alike.config_eq
  have climbed : ∀ {steps}, session'.Climbs contents budget change.records.encodedLength steps →
      session.Climbs contents budget change.records.encodedLength steps :=
    fun climbs => ⟨climbs.within, configEq ▸ climbs.smaller, configEq ▸ climbs.cramped⟩
  cases grows with
  | decided decided later limit => exact .decided decided (reports.trans later) limit
  | stored undecided climbs fits advances recordsEq mapSizeEq later limit =>
      rw [configEq] at fits mapSizeEq later limit
      exact .stored undecided (climbed climbs) fits advances recordsEq mapSizeEq
        (reports.trans later) limit
  | exhausted undecided climbs cramped last advances mapSizeEq later limit =>
      rw [configEq] at cramped last mapSizeEq later limit
      rw [reports.alike.apiRetryLimit_eq]
      exact .exhausted undecided (climbed climbs) cramped last advances mapSizeEq
        (reports.trans later) limit
  | refused undecided climbs far advances later =>
      rw [configEq] at far later
      exact .refused undecided (climbed climbs) far advances (reports.trans later)

/-- What is left to do after a growth step is done from there. -/
theorem Grows.of_grown {result : Except EngineError α × Session × Image}
    (grows : session'.Grows file' after room change budget result)
    (undecided : change.decided? = none) (advances : Advances 0 file contents file' after)
    (smaller : contents.header.mapSize < session.config.maxMapSize)
    (mapSizeEq : after.header.mapSize = nextSize session.config contents.header.mapSize)
    (cramped : contents.Cramped contents.header.mapSize change.records.encodedLength)
    (reports : session.Reports session' [nextSize session.config contents.header.mapSize]) :
    session.Grows file contents room change (budget + 1) result := by
  have configEq := reports.alike.config_eq
  have size : ∀ steps, grownSize session'.config steps after.header.mapSize =
      grownSize session.config (steps + 1) contents.header.mapSize := by
    intro steps
    rw [configEq, mapSizeEq, grownSize_succ smaller]
  have sizes : ∀ steps, nextSize session.config contents.header.mapSize ::
      grownSizes session'.config steps after.header.mapSize =
        grownSizes session.config (steps + 1) contents.header.mapSize := by
    intro steps
    rw [configEq, mapSizeEq, grownSizes_succ smaller]
  cases grows with
  | decided decided _ _ =>
      rw [undecided] at decided
      cases decided
  | @stored steps _ _ _ _ climbs fits further recordsEq mapEq later limit =>
      rw [size, cramped_iff_of_advances advances] at fits
      rw [size] at mapEq limit
      have all := reports.trans later
      rw [List.singleton_append, sizes] at all
      exact .stored undecided (climbs.of_grown advances configEq smaller mapSizeEq cramped) fits
        (Nat.zero_add 1 ▸ advances.trans further) recordsEq mapEq all limit
  | @exhausted steps needed bound _ _ _ _ climbs still last further mapEq later limit =>
      rw [size, cramped_iff_of_advances advances] at still
      rw [size, configEq] at last
      rw [size] at mapEq limit
      have all := reports.trans later
      rw [List.singleton_append, sizes] at all
      rw [reports.alike.apiRetryLimit_eq]
      exact .exhausted undecided (climbs.of_grown advances configEq smaller mapSizeEq cramped)
        still (last.imp_left (congrArg (· + 1))) (advances.trans further) mapEq all limit
  | @refused steps _ _ _ _ _ climbs far further later =>
      rw [size] at far
      have all := reports.trans later
      rw [List.singleton_append, sizes] at all
      exact .refused undecided (climbs.of_grown advances configEq smaller mapSizeEq cramped) far
        (advances.trans further) all

/-- An operation that does this to the records of an environment that is up to date. -/
def Attempts (operation : Environment → Image → Except EngineError α × Environment × Image)
    (change : Records → Change α) : Prop :=
  ∀ env file contents, Current env file contents →
    Attempt env file contents (change contents.records) (operation env file)

/-- The first attempt settles the call, or the map is full, and its size is what is mapped. -/
theorem growing_cases {operation : Environment → Image → Except EngineError α × Environment × Image}
    {changes : Records → Change α} (attempts : Attempts operation changes)
    (here : session.env? = some env) (upToDate : env.Current file contents) (budget : Nat) :
    session.Grows file contents env.room (changes contents.records) budget
      (growing operation budget session file) ∨
    ∃ needed limit session' env',
      growing operation budget session file =
        regrow operation budget session' (.mapFull needed limit) file ∧
      session.Reports session' [] ∧ session'.env? = some env' ∧ env.Kin env' ∧
      env'.mapSize = contents.header.mapSize ∧ env'.Tracks contents 0 ∧
      (changes contents.records).decided? = none ∧
      contents.Cramped contents.header.mapSize
        (changes contents.records).records.encodedLength := by
  have attempt := attempts env file contents upToDate
  unfold growing
  rw [here]
  dsimp only
  generalize operation env file = result at attempt
  cases attempt with
  | @decided answer decided other =>
      obtain ⟨reports, limit⟩ := attempt_reports here (Kin.refl env)
      rw [upToDate.upToDate.mapSize_eq] at limit
      left
      cases answer with
      | ok value => exact .decided decided reports limit
      | error failure =>
          dsimp only
          rw [if_neg (by rw [other failure rfl]; exact Bool.false_ne_true)]
          exact .decided decided reports limit
  | @stored env' file' after undecided fits advances recordsEq mapSizeEq kin mapped =>
      obtain ⟨reports, limit⟩ := attempt_reports here kin
      rw [mapped] at limit
      exact .inl (.stored undecided (climbs_zero _ _ _ _) fits advances recordsEq mapSizeEq
        reports limit)
  | @full env' needed limit undecided cramped kin mapped tracks =>
      right
      obtain ⟨last, there, mapEq, snapshotEq, alike⟩ :=
        reportResize_cases (session.refreshed env') rfl
      obtain ⟨reports, _⟩ := attempt_reports here kin
      obtain ⟨found, again, lastKin⟩ := reports.alike.env env here
      rw [there] at again
      cases again
      have stays := tracks_reportResize (tracks_withEnv session tracks)
      refine ⟨needed, limit, (session.refreshed env').reportResize, last, ?_, reports, there,
        lastKin, mapEq.trans mapped, stays last there, undecided, cramped⟩
      cases budget with
      | zero => rfl
      | succ budget => rfl

theorem growing_grows {operation : Environment → Image → Except EngineError α × Environment × Image}
    {changes : Records → Change α} (attempts : Attempts operation changes)
    (refreshes : Refreshes operation) (budget : Nat) (here : session.env? = some env)
    (upToDate : env.Current file contents) (valid : session.config.Valid) :
    session.Grows file contents env.room (changes contents.records) budget
      (growing operation budget session file) := by
  induction budget generalizing session env file contents with
  | zero =>
      rcases growing_cases attempts here upToDate 0 with
        grows | ⟨needed, limit, session', env', fails, reports, here', _, mapped, _, undecided,
          cramped⟩
      · exact grows
      · rw [fails]
        unfold regrow
        dsimp only
        rw [reports.alike.apiRetryLimit_eq]
        exact .exhausted undecided (climbs_zero _ _ _ _) cramped (.inl rfl)
          (Advances.refl upToDate.holds) rfl reports
          (by rw [limit?, here', ← mapped]; rfl)
  | succ budget ih =>
      rcases growing_cases attempts here upToDate (budget + 1) with
        grows | ⟨needed, limit, session', env', fails, reports, here', kin, mapped, tracks,
          undecided, cramped⟩
      · exact grows
      · have configEq := reports.alike.config_eq
        have larger : env'.mapSize < session'.config.maxMapSize →
            contents.header.mapSize ≤ nextSize session'.config env'.mapSize := by
          intro smaller
          rw [← mapped]
          exact le_nextSize (configEq ▸ valid) smaller
        rw [fails]
        unfold regrow
        dsimp only
        rcases grow_cases upToDate.holds here' tracks larger with
          ⟨largest, ended⟩ | ⟨smaller, result, session'', env'', file', after, grown, advances,
            alike, here'', kin', tracks', came⟩
        · rw [ended]
          dsimp only
          rw [reports.alike.apiRetryLimit_eq]
          rw [configEq, mapped] at largest
          exact .exhausted undecided (climbs_zero _ _ _ _) cramped (.inr largest)
            (Advances.refl upToDate.holds) rfl reports (by rw [limit?, here', ← mapped]; rfl)
        · rw [configEq, mapped] at smaller came
          have roomEq : env''.room = env.room := kin'.room_eq.trans kin.room_eq
          have writer : env''.flags.readOnly = false := by
            rw [kin'.flags_eq, kin.flags_eq, upToDate.writer]
          rw [grown]
          rcases came with ⟨rfl, mapEq, headerEq⟩ | ⟨reader, _⟩ | ⟨_, far, cause, rfl⟩
          · have grew := reports.trans (grow_reports here' alike grown)
            rw [configEq, mapped, List.nil_append] at grew
            obtain ⟨env₃, renewed, upToDate', kin₃⟩ :=
              Environment.refresh_of_mapped advances.holds tracks' (by decide)
                (mapEq.trans headerEq.symm) writer
            have there : (session''.refreshed env₃).env? = some env₃ := rfl
            have rest := ih there upToDate' (grew.alike.config_eq ▸ valid)
            rw [advances.records_eq rfl, kin₃.room_eq, roomEq] at rest
            dsimp only
            rw [growing_refreshed refreshes here'' writer renewed]
            have all := grew.trans (reports_refreshed here'' kin₃)
            rw [List.append_nil] at all
            exact rest.of_grown undecided advances smaller headerEq cramped all
          · rw [kin.flags_eq, upToDate.writer] at reader
            cases reader
          · have told := reports.trans (grow_reports_none alike grown)
            rw [kin.room_eq] at far
            have size : grownSize session.config 1 contents.header.mapSize =
                nextSize session.config contents.header.mapSize :=
              grownSize_succ smaller 0
            exact .refused undecided (climbs_one (Nat.le_add_left 1 budget) smaller cramped)
              (size ▸ far) advances told

/-! ### Calls that write -/

def Unmapped (file : Image) (contents : Contents) (room : Nat)
    (result : Except EngineError α × Session × Image) : Prop :=
  ¬ Mappable room contents.header.mapSize ∧
    ∃ cause session', result = (.error (.io cause), session', file)

variable {age : Nat}

theorem Follows.growing_grows
    {operation : Environment → Image → Except EngineError α × Environment × Image}
    {changes : Records → Change α} (attempts : Attempts operation changes)
    (refreshes : Refreshes operation)
    (refuses : ∀ env env' file failure, env.flags.readOnly = false →
      env.refresh file = (.error failure, env') → operation env file = (.error failure, env', file))
    (follows : session.Follows contents age) (holds : file.Holds contents)
    (recent : age < UInt64.size) (here : session.env? = some env)
    (mayWrite : env.flags.readOnly = false) (budget : Nat) :
    Unmapped file contents env.room (growing operation budget session file) ∨
      session.Grows file contents env.room (changes contents.records) budget
        (growing operation budget session file) := by
  rcases Environment.refresh_cases holds (follows.tracks env here) with
    ⟨env', renewed, tracks, upToDate, kin⟩ | ⟨far, cause, _, refused⟩
  · have current : env'.Current file contents :=
      ⟨by rw [kin.flags_eq, mayWrite], holds, tracks.renew recent upToDate, upToDate,
        Environment.refresh_refresh renewed⟩
    have there : (session.refreshed env').env? = some env' := rfl
    have grows := Session.growing_grows attempts refreshes budget there current follows.valid
    rw [kin.room_eq] at grows
    rw [growing_refreshed refreshes here mayWrite renewed]
    exact .inr (grows.of_reports (reports_refreshed here kin))
  · obtain ⟨session', failed⟩ :=
      growing_of_error operation here (refuses env env file _ mayWrite refused) rfl budget
    exact .inl ⟨far, cause, session', failed⟩

theorem attempts_put (key value : Bytes) (keepExisting : Bool) :
    Attempts (fun env file => env.put key value keepExisting file)
      (fun records => putChange records key value keepExisting) :=
  fun _ _ _ current => Environment.put_attempt current key value keepExisting

theorem attempts_delete (key : Bytes) :
    Attempts (fun env file => env.delete key file) (fun records => deleteChange records key) :=
  fun _ _ _ current => Environment.delete_attempt current key

theorem Follows.put_grows (follows : session.Follows contents age) (holds : file.Holds contents)
    (recent : age < UInt64.size) (here : session.env? = some env)
    (mayWrite : env.flags.readOnly = false) (single : session.bulk = false) (key value : Bytes)
    (keepExisting : Bool) :
    Unmapped file contents env.room (session.put key value keepExisting file) ∨
      session.Grows file contents env.room (putChange contents.records key value keepExisting)
        session.apiRetryLimit (session.put key value keepExisting file) := by
  unfold put
  rw [if_neg (by rw [single]; exact Bool.false_ne_true)]
  exact follows.growing_grows (attempts_put key value keepExisting)
    (Environment.refreshes_put key value keepExisting)
    (fun _ _ _ _ mayWrite refused => Environment.put_of_refresh_error mayWrite refused _ _ _) holds
    recent here mayWrite session.apiRetryLimit

theorem Follows.delete_grows (follows : session.Follows contents age)
    (holds : file.Holds contents) (recent : age < UInt64.size) (here : session.env? = some env)
    (mayWrite : env.flags.readOnly = false) (single : session.bulk = false) (key : Bytes) :
    Unmapped file contents env.room (session.delete key file) ∨
      session.Grows file contents env.room (deleteChange contents.records key)
        session.apiRetryLimit (session.delete key file) := by
  unfold delete
  rw [if_neg (by rw [single]; exact Bool.false_ne_true)]
  exact follows.growing_grows (attempts_delete key) (Environment.refreshes_delete key)
    (fun _ _ _ _ mayWrite refused => Environment.delete_of_refresh_error mayWrite refused _) holds
    recent here mayWrite session.apiRetryLimit

/-! ### Deletions -/

inductive Deletes (session : Session) (file : Image) (contents : Contents) (room : Nat)
    (key : Bytes) : Except EngineError Bool × Session × Image → Prop
  | unmapped {result : Except EngineError Bool × Session × Image}
      (unmapped : Unmapped file contents room result) :
      Deletes session file contents room key result
  | absent {session' : Session} (absent : contents.records.find? key = none)
      (reports : session.Reports session' [])
      (limit : session'.limit? = some contents.header.mapSize) :
      Deletes session file contents room key (.ok false, session', file)
  | removed {session' : Session} {file' : Image} {after : Contents}
      (present : contents.records.find? key ≠ none)
      (fits : (contents.records.erase key).encodedLength ≤ contents.capacity)
      (advances : Advances 1 file contents file' after)
      (records_eq : after.records = contents.records.erase key)
      (mapSize_eq : after.header.mapSize = contents.header.mapSize)
      (reports : session.Reports session' []) :
      Deletes session file contents room key (.ok true, session', file')
  | grown {session' : Session} {file' : Image} {after : Contents}
      (present : contents.records.find? key ≠ none)
      (cramped : contents.capacity < (contents.records.erase key).encodedLength)
      (advances : Advances 1 file contents file' after)
      (records_eq : after.records = contents.records.erase key)
      (mapSize_eq : after.header.mapSize = nextSize session.config contents.header.mapSize)
      (reports : session.Reports session' [nextSize session.config contents.header.mapSize]) :
      Deletes session file contents room key (.ok true, session', file')
  | refused {cause : SystemError} {session' : Session} {file' : Image} {after : Contents}
      (present : contents.records.find? key ≠ none)
      (cramped : contents.capacity < (contents.records.erase key).encodedLength)
      (far : ¬ Mappable room (nextSize session.config contents.header.mapSize))
      (advances : Advances 0 file contents file' after)
      (reports : session.Reports session' []) :
      Deletes session file contents room key (.error (.io cause), session', file')

/-- A map of twice the size has room for what is left of the payload. -/
theorem not_cramped_erase (holds : file.Holds contents) (key : Bytes)
    (doubled : 2 * contents.header.mapSize.toNat ≤ size.toNat) :
    ¬ contents.Cramped size (contents.records.erase key).encodedLength := by
  have total := Records.encodedLength_erase contents.records key
  have live := holds.dataLength_eq
  have stop := holds.fits.stop_le_mapSize
  unfold Header.payloadStop at stop
  unfold Contents.Cramped Placement.capacity
  rw [Nat.not_lt]
  split
  · omega
  · apply Nat.le_trans _ (Nat.le_max_right _ _)
    omega

theorem decided?_of_present {records : Records} {key : Bytes}
    (undecided : (deleteChange records key).decided? = none) : records.find? key ≠ none := by
  intro absent
  unfold deleteChange at undecided
  rw [absent] at undecided
  cases undecided

theorem Grows.deletes {key : Bytes} {result : Except EngineError Bool × Session × Image}
    (grows : session.Grows file contents room (deleteChange contents.records key) budget result)
    (holds : file.Holds contents) (valid : session.config.Valid) (retries : 1 ≤ budget)
    (half : 2 * contents.header.mapSize.toNat ≤ session.config.maxMapSize.toNat) :
    session.Deletes file contents room key result := by
  have least := UInt64.le_iff_toNat_le.mp holds.fits.mapSize_ge
  change 4096 ≤ _ at least
  have multiplier := UInt64.le_iff_toNat_le.mp valid.two_le
  change 2 ≤ _ at multiplier
  have smaller : contents.header.mapSize < session.config.maxMapSize := by
    rw [UInt64.lt_iff_toNat_lt]
    omega
  have first : grownSize session.config 1 contents.header.mapSize =
      nextSize session.config contents.header.mapSize := grownSize_succ smaller 0
  have doubled : 2 * contents.header.mapSize.toNat ≤
      (nextSize session.config contents.header.mapSize).toNat := by
    have more := Nat.mul_le_mul_left contents.header.mapSize.toNat multiplier
    rw [toNat_nextSize]
    omega
  have enough : ¬ contents.Cramped (grownSize session.config 1 contents.header.mapSize)
      (contents.records.erase key).encodedLength :=
    first ▸ not_cramped_erase holds key doubled
  -- No step is taken from a map that has been doubled.
  have few : ∀ {steps}, session.Climbs contents budget
      (contents.records.erase key).encodedLength steps → steps ≤ 1 :=
    fun climbs => Nat.le_of_not_lt fun more => enough (climbs.cramped 1 more)
  cases grows with
  | decided decided reports limit =>
      cases absent : contents.records.find? key with
      | none =>
          unfold deleteChange at decided
          rw [absent] at decided
          cases decided
          exact .absent absent reports limit
      | some value =>
          unfold deleteChange at decided
          rw [absent] at decided
          cases decided
  | @stored steps _ _ _ undecided climbs fits advances recordsEq mapSizeEq reports limit =>
      have present := decided?_of_present undecided
      have taken := few climbs
      rcases Nat.le_one_iff_eq_zero_or_eq_one.mp taken with rfl | rfl
      · exact .removed present (Nat.le_of_not_lt fits) advances recordsEq mapSizeEq reports
      · rw [first] at mapSizeEq
        exact .grown present (climbs.cramped 0 Nat.zero_lt_one) advances recordsEq mapSizeEq
          (first ▸ reports)
  | @exhausted steps _ _ _ _ _ undecided climbs cramped last _ _ _ _ =>
      have taken := few climbs
      rcases Nat.le_one_iff_eq_zero_or_eq_one.mp taken with rfl | rfl
      · rcases last with none | largest
        · omega
        · exact absurd smaller (UInt64.not_lt.mpr largest)
      · exact absurd cramped enough
  | @refused steps cause _ _ _ undecided climbs far advances reports =>
      have taken := few climbs
      have none : steps = 0 := by omega
      subst none
      rw [first] at far
      exact .refused (decided?_of_present undecided) (climbs.cramped 0 Nat.zero_lt_one) far
        advances reports

theorem Follows.deletes (follows : session.Follows contents age) (holds : file.Holds contents)
    (recent : age < UInt64.size) (here : session.env? = some env)
    (mayWrite : env.flags.readOnly = false) (single : session.bulk = false)
    (retries : 1 ≤ session.apiRetryLimit)
    (half : 2 * contents.header.mapSize.toNat ≤ session.config.maxMapSize.toNat) (key : Bytes) :
    session.Deletes file contents env.room key (session.delete key file) := by
  rcases follows.delete_grows holds recent here mayWrite single key with unmapped | grows
  · exact .unmapped unmapped
  · exact grows.deletes holds follows.valid retries half

end Session

namespace Sessions

open Session (Call Reply)

/-! ### Runs -/

structure Reaches (start : Sessions) (history : List Request) (world : Sessions) (who : Nat) :
    Prop where
  usable : start.file.Usable
  fresh : ∀ who, (start.session who).Fresh
  safe : Along step (fun world request => ¬ world.CutsBack request) history start
  recent : history.length < UInt64.size
  ends : run history start = world
  single : (world.session who).bulk = false
  opened : ∃ env, (world.session who).env? = some env ∧ env.flags.readOnly = false

variable {start world : Sessions} {history : List Request} {who room : Nat} {session : Session}

theorem created_of_fresh (usable : start.file.Usable)
    (fresh : ∀ who, (start.session who).Fresh) :
    start.Blank ∨ ∃ contents, start.Valid contents 0 := by
  have closed := fun who => (fresh who).closed.1
  rcases usable with nothing | ⟨contents, holds⟩
  · exact .inl ⟨nothing, closed⟩
  · exact .inr ⟨contents, holds, fun who => (closed who).follows contents 0⟩

theorem Reaches.follows (reaches : start.Reaches history world who)
    (caller : session = (world.session who).withRoom room) :
    ∃ contents env, world.file.Holds contents ∧ session.Follows contents history.length ∧
      session.env? = some env ∧ env.flags.readOnly = false ∧ env.room = room ∧
      session.bulk = false := by
  subst caller
  have last := run_valid (created_of_fresh reaches.usable reaches.fresh) reaches.safe
  rw [reaches.ends, Nat.zero_add] at last
  obtain ⟨env, here, mayWrite⟩ := reaches.opened
  rcases last with blank | ⟨contents, valid⟩
  · rw [(blank.closed who).noEnv] at here
    cases here
  · refine ⟨contents, { env with room := room }, valid.holds, (valid.follows who).withRoom room,
      ?_, mayWrite, rfl, reaches.single⟩
    unfold Session.withRoom
    rw [here]
    rfl

theorem Reaches.deletes (reaches : start.Reaches history world who)
    (caller : session = (world.session who).withRoom room) (retries : 1 ≤ session.apiRetryLimit)
    (key : Bytes) :
    ∃ contents, world.file.Holds contents ∧
      (2 * contents.header.mapSize.toNat ≤ session.config.maxMapSize.toNat →
        session.Deletes world.file contents room key (session.delete key world.file)) := by
  obtain ⟨contents, env, holds, follows, here, mayWrite, roomEq, single⟩ := reaches.follows caller
  refine ⟨contents, holds, fun half => ?_⟩
  rw [← roomEq]
  exact follows.deletes holds reaches.recent here mayWrite single retries half key

/-- A put outside bulk mode grows the map by the least number of steps that make room for its
payload beside the live one. When the steps that there are do not suffice it takes all of them and
gives up, and a put that the records decide takes none. -/
theorem run_growsToFit (reaches : start.Reaches history world who)
    (caller : session = (world.session who).withRoom room) (key value : Bytes)
    (keepExisting : Bool) :
    ∃ contents, world.file.Holds contents ∧
      (Session.Unmapped world.file contents room
          (session.put key value keepExisting world.file) ∨
        session.Grows world.file contents room
          (putChange contents.records key value keepExisting) session.apiRetryLimit
          (session.put key value keepExisting world.file)) := by
  obtain ⟨contents, env, holds, follows, here, mayWrite, roomEq, single⟩ := reaches.follows caller
  refine ⟨contents, holds, ?_⟩
  rw [← roomEq]
  exact follows.put_grows holds reaches.recent here mayWrite single key value keepExisting

def opensPlainly : Request :=
  ⟨0, .open "x.mdb" { create := true } false, 65536⟩

theorem reaches_opensPlainly (usable : start.file.Usable)
    (fresh : ∀ who, (start.session who).Fresh)
    (single : ((start.step opensPlainly).session 0).bulk = false)
    (opened : ((start.step opensPlainly).session 0).env?.map (·.flags.readOnly) = some false) :
    start.Reaches [opensPlainly] (start.step opensPlainly) 0 where
  usable := usable
  fresh := fresh
  safe := ⟨Call.Opens.not_cutsBack trivial, trivial⟩
  recent := by decide
  ends := rfl
  single := single
  opened := Option.map_eq_some_iff.mp opened

def listened : Sessions where
  file := Image.empty
  session _ := (Session.idle { initialMapSize := 4096 }).control .notify

theorem fresh_listened (who : Nat) : (listened.session who).Fresh := by
  have idle : (Session.idle { initialMapSize := 4096 }).Fresh :=
    Session.fresh_idle ⟨by decide, by decide, by decide⟩
  obtain ⟨config, base, controls, made, same⟩ := idle
  refine ⟨config, base, controls ++ [.notify], made, ?_⟩
  rw [List.foldl_append, ← same]
  rfl

def putsLarge : Except EngineError Unit × Session × Image :=
  (((listened.step opensPlainly).session 0).withRoom 65536).put [107] (List.replicate 9000 118)
    false (listened.step opensPlainly).file

set_option maxRecDepth 20000 in
/-- The map is doubled twice, which is as often as the call may retry. -/
theorem run_growsToFit_putsLarge :
    listened.Reaches [opensPlainly] (listened.step opensPlainly) 0 ∧
      (∃ contents, (listened.step opensPlainly).file.Holds contents ∧
        (Session.Unmapped (listened.step opensPlainly).file contents 65536 putsLarge ∨
          (((listened.step opensPlainly).session 0).withRoom 65536).Grows
            (listened.step opensPlainly).file contents 65536
            (putChange contents.records [107] (List.replicate 9000 118) false) 2 putsLarge)) ∧
      putsLarge.1.toOption = some () ∧ putsLarge.2.1.limit? = some 16384 ∧
      putsLarge.2.1.growths = [8192, 16384] := by
  have reaches : listened.Reaches [opensPlainly] (listened.step opensPlainly) 0 :=
    reaches_opensPlainly (.inl rfl) fresh_listened (by decide +kernel) (by decide +kernel)
  refine ⟨reaches, run_growsToFit reaches rfl _ _ _, ?_, ?_, ?_⟩
  · decide +kernel
  · decide +kernel
  · decide +kernel

set_option maxRecDepth 20000 in
/-- One growth step leads to a size with room for the payload, and the system refuses it. -/
theorem greedyPut_fits_and_fails :
    (Environment.readHeader (greedy.step opensPlainly).file).toOption.map
        (fun header => (header.mapSize, header.dataOffset, header.dataLength)) =
      some (4096, 64, 0) ∧
    ((greedy.step opensPlainly).session 0).apiRetryLimit = 2 ∧
    Session.nextSize ((greedy.step opensPlainly).session 0).config 4096 = 4503599627370496 ∧
    (Records.empty.insert [108] (List.replicate 5000 121)).encodedLength ≤
      Placement.capacity 4503599627370496 64 0 ∧
    (greedy.step opensPlainly).reply ⟨0, .put [108] (List.replicate 5000 121) false, 65536⟩ =
      .failed (.io .outOfAddresses) := by
  refine ⟨?_, ?_, ?_, ?_, ?_⟩
  · decide +kernel
  · decide +kernel
  · decide +kernel
  · decide +kernel
  · decide +kernel

end Sessions

end RecordFile
