/-
What a bulk load comes to.

A routine runs to its end, breaks off by itself, or is stopped by an operation that loses the
draft. Only a run that was stopped has left nothing behind, and the next one starts from what
is committed. A run that breaks off leaves its writes in the draft. They are not committed by
the load, and whoever commits next commits them.
-/

import RecordFile.Dictionary.Load
import RecordFile.Proofs.Dictionary.BulkHandle

namespace RecordFile

/-- A routine: its end, a failure of its own, or an operation and how to go on with the answer.
A failed operation ends the routine. -/
inductive Script (σ : Type) where
  | finish (state : σ)
  | fail (failure : DictionaryError) (state : σ)
  | ask (operation : Operation) (stopped : DictionaryError → σ) (next : Answer → Script σ)

namespace Script

variable {σ : Type}

def run : Script σ → Dictionary → SharedFile →
    Except DictionaryError Unit × σ × Dictionary × SharedFile
  | .finish state, dict, file => (.ok (), state, dict, file)
  | .fail failure state, dict, file => (.error failure, state, dict, file)
  | .ask operation stopped next, dict, file =>
      match dict.perform operation file with
      | (.error failure, dict, file) => (.error failure, stopped failure, dict, file)
      | (.ok answer, dict, file) => (next answer).run dict file

def play (profile : Profile) : Script σ → Shelf → Except DictionaryError Unit × σ × Shelf
  | .finish state, shelf => (.ok (), state, shelf)
  | .fail failure state, shelf => (.error failure, state, shelf)
  | .ask operation stopped next, shelf =>
      match profile.apply shelf operation with
      | (.error failure, shelf) => (.error failure, stopped failure, shelf)
      | (.ok answer, shelf) => (next answer).play profile shelf

inductive Stops (profile : Profile) : Script σ → Shelf → σ → Encoding → Prop
  | here {operation : Operation} {stopped : DictionaryError → σ} {next : Answer → Script σ}
      {shelf : Shelf} {failure : DictionaryError} (givesUp : profile.GivesUp failure) :
      Stops profile (.ask operation stopped next) shelf (stopped failure)
        (profile.tried shelf.encoding operation)
  | later {operation : Operation} {stopped : DictionaryError → σ} {next : Answer → Script σ}
      {shelf shelf' : Shelf} {answer : Answer} {state : σ} {encoding : Encoding}
      (applied : profile.apply shelf operation = (.ok answer, shelf'))
      (stops : Stops profile (next answer) shelf' state encoding) :
      Stops profile (.ask operation stopped next) shelf state encoding
  | atEnd {script : Script σ} {shelf shelf' : Shelf} {state : σ}
      (played : script.play profile shelf = (.ok (), state, shelf')) :
      Stops profile script shelf state shelf'.encoding

end Script

namespace Dictionary

variable {σ : Type} {dict dict' : Dictionary} {file file' : SharedFile} {contents after : Contents}
  {image : Image}

/-! ### One run -/

inductive Runs (dict : Dictionary) (image : Image) (contents : Contents) (script : Script σ) :
    Except DictionaryError Unit → σ → Dictionary → Image → Prop
  | played {result : Except DictionaryError Unit} {state : σ} {dict' : Dictionary}
      (owns : dict'.Owns image contents)
      (played : script.play dict.profile (dict.shelf contents) =
        (result, state, dict'.shelf contents)) :
      Runs dict image contents script result state dict' image
  | stopped {failure : DictionaryError} {state : σ} {dict' : Dictionary} {image' : Image}
      {after : Contents} (givesUp : dict.profile.GivesUp failure)
      (loses : dict'.Loses image contents image' after)
      (stops : script.Stops dict.profile (dict.shelf contents) state dict'.encoding) :
      Runs dict image contents script (.error failure) state dict' image'

theorem run_runs (script : Script σ) (owns : dict.Owns file.image contents) :
    ∃ result state dict' file', script.run dict file = (result, state, dict', file') ∧
      dict'.profile = dict.profile ∧
      dict.Runs file.image contents script result state dict' file'.image := by
  induction script generalizing dict file with
  | finish state => exact ⟨_, _, dict, file, rfl, rfl, .played owns rfl⟩
  | fail failure state => exact ⟨_, _, dict, file, rfl, rfl, .played owns rfl⟩
  | ask operation stopped next ih =>
      obtain ⟨result, dict', file', performed, profileEq, performs⟩ :=
        perform_performs owns operation
      unfold Script.run
      rw [performed]
      generalize imageEq : file'.image = image' at performs
      cases performs with
      | dropped givesUp loses encodingEq =>
          refine ⟨_, _, dict', file', rfl, profileEq, ?_⟩
          rw [imageEq]
          refine .stopped givesUp loses ?_
          rw [encodingEq]
          exact .here givesUp
      | answered owns' applied =>
          cases result with
          | error failure =>
              refine ⟨_, _, dict', file', rfl, profileEq, ?_⟩
              rw [imageEq]
              refine .played owns' ?_
              unfold Script.play
              rw [applied]
          | ok answer =>
              rw [← imageEq] at owns'
              obtain ⟨result', state, dict'', file'', ran, profileEq', runs⟩ :=
                ih answer owns'
              refine ⟨result', state, dict'', file'', ran, profileEq'.trans profileEq, ?_⟩
              rw [imageEq] at runs
              generalize file''.image = image'' at runs ⊢
              cases runs with
              | played owns'' played =>
                  refine .played owns'' ?_
                  unfold Script.play
                  rw [applied, ← profileEq]
                  exact played
              | stopped givesUp loses stops =>
                  rw [profileEq] at givesUp stops
                  exact .stopped givesUp loses (.later applied stops)

inductive FillsOnce (dict : Dictionary) (image : Image) (contents : Contents)
    (script : Script σ) : Except DictionaryError Unit → σ → Dictionary → Image → Prop
  | committed {state : σ} {dict' : Dictionary} {image' : Image} {after : Contents}
      (owns : dict'.Owns image' after)
      (played : script.play dict.profile (dict.shelf contents) =
        (.ok (), state, dict'.shelf after))
      (records_eq : after.records = (dict'.shelf after).records) :
      FillsOnce dict image contents script (.ok ()) state dict' image'
  | broke {failure : DictionaryError} {state : σ} {dict' : Dictionary}
      (owns : dict'.Owns image contents)
      (played : script.play dict.profile (dict.shelf contents) =
        (.error failure, state, dict'.shelf contents)) :
      FillsOnce dict image contents script (.error failure) state dict' image
  | stopped {failure : DictionaryError} {state : σ} {dict' : Dictionary} {image' : Image}
      {after : Contents} (givesUp : dict.profile.GivesUp failure)
      (loses : dict'.Loses image contents image' after)
      (stops : script.Stops dict.profile (dict.shelf contents) state dict'.encoding) :
      FillsOnce dict image contents script (.error failure) state dict' image'

theorem fillAndCommit_fillsOnce (fill : σ → Script σ) (state : σ)
    (owns : dict.Owns file.image contents) :
    ∃ result state' dict' file',
      fillAndCommit (fun state => (fill state).run) state dict file =
        (result, state', dict', file') ∧
      dict'.profile = dict.profile ∧
      dict.FillsOnce file.image contents (fill state) result state' dict' file'.image := by
  obtain ⟨result, state', dict', file', ran, profileEq, runs⟩ := run_runs (fill state) owns
  unfold fillAndCommit
  dsimp only
  rw [ran]
  generalize imageEq : file'.image = image' at runs
  cases runs with
  | stopped givesUp loses stops =>
      refine ⟨_, _, dict', file', rfl, profileEq, ?_⟩
      rw [imageEq]
      exact .stopped givesUp loses stops
  | played owns' played =>
      cases result with
      | error failure =>
          refine ⟨_, _, dict', file', rfl, profileEq, ?_⟩
          rw [imageEq]
          exact .broke owns' played
      | ok done =>
          rw [← imageEq] at owns'
          obtain ⟨result, dict'', file'', committed, profileEq', commits⟩ := commit_commits owns'
          dsimp only
          rw [committed]
          refine ⟨_, _, dict'', file'', rfl, profileEq'.trans profileEq, ?_⟩
          rw [imageEq] at commits
          generalize file''.image = image'' at commits ⊢
          cases commits with
          | published owns'' recordsEq shelfEq idle =>
              rw [← shelfEq] at played recordsEq
              exact .committed owns'' played recordsEq
          | dropped givesUp loses encodingEq =>
              rw [profileEq] at givesUp
              refine .stopped givesUp loses ?_
              rw [encodingEq]
              exact .atEnd played

/-! ### Replays -/

theorem loadFrom_of_ok {fill : Routine σ} {before state : σ} {replays budget : Nat}
    (filled : fillAndCommit fill before dict file = (.ok (), state, dict', file')) :
    loadFrom fill replays budget before dict file = (.ok replays, state, dict', file') := by
  unfold loadFrom
  rw [filled]

theorem loadFrom_of_retry {fill : Routine σ} {before state : σ}
    {failure : DictionaryError} {replays budget : Nat}
    (filled : fillAndCommit fill before dict file = (.error failure, state, dict', file'))
    (asks : failure.isRetry = true) :
    loadFrom fill replays (budget + 1) before dict file =
      loadFrom fill (replays + 1) budget state dict' file' := by
  rw [loadFrom, filled]
  exact if_pos asks

theorem loadFrom_of_failed {fill : Routine σ} {before state : σ}
    {failure : DictionaryError} {replays budget : Nat}
    (filled : fillAndCommit fill before dict file = (.error failure, state, dict', file'))
    (other : failure.isRetry = false) :
    loadFrom fill replays budget before dict file = (.error failure, state, dict', file') := by
  unfold loadFrom
  rw [filled]
  dsimp only
  rw [if_neg (Bool.eq_false_iff.mp other)]

/-- Where a run of the load begins, after so many replays. A run that was stopped is replayed
from the committed records. A failure that asks for a replay without that leaves the writes of
its run where they are. -/
inductive Course (profile : Profile) (fill : σ → Script σ) (committed : Records) (state : σ)
    (shelf : Shelf) : Nat → σ → Shelf → Prop
  | start : Course profile fill committed state shelf 0 state shelf
  | restarted {replays : Nat} {state' state'' : σ} {shelf' : Shelf} {encoding : Encoding}
      (before : Course profile fill committed state shelf replays state' shelf')
      (stops : (fill state').Stops profile shelf' state'' encoding) :
      Course profile fill committed state shelf (replays + 1) state'' ⟨encoding, committed⟩
  | asked {replays : Nat} {state' state'' : σ} {shelf' shelf'' : Shelf}
      {failure : DictionaryError}
      (before : Course profile fill committed state shelf replays state' shelf')
      (played : (fill state').play profile shelf' = (.error failure, state'', shelf''))
      (asks : failure.isRetry = true) :
      Course profile fill committed state shelf (replays + 1) state'' shelf''

inductive Loads (profile : Profile) (fill : σ → Script σ) (committed : Records) (state : σ)
    (shelf : Shelf) : Except DictionaryError Nat → Shelf → Records → Prop
  | loaded {replays : Nat} {state' last : σ} {start shelf' : Shelf}
      (course : Course profile fill committed state shelf replays state' start)
      (played : (fill state').play profile start = (.ok (), last, shelf')) :
      Loads profile fill committed state shelf (.ok replays) shelf' shelf'.records
  | broke {replays : Nat} {failure : DictionaryError} {state' last : σ} {start shelf' : Shelf}
      (course : Course profile fill committed state shelf replays state' start)
      (played : (fill state').play profile start = (.error failure, last, shelf')) :
      Loads profile fill committed state shelf (.error failure) shelf' committed
  | gaveUp {replays : Nat} {failure : DictionaryError} {state' last : σ} {start : Shelf}
      {encoding : Encoding}
      (course : Course profile fill committed state shelf replays state' start)
      (givesUp : profile.GivesUp failure)
      (stops : (fill state').Stops profile start last encoding) :
      Loads profile fill committed state shelf (.error failure) ⟨encoding, committed⟩ committed

theorem Loses.shelf_eq {image' : Image} (loses : dict'.Loses image contents image' after) :
    dict'.shelf after = ⟨dict'.encoding, contents.records⟩ := by
  unfold shelf
  rw [Session.draft_of_idle loses.idle, loses.advances.records_eq rfl]

theorem owns_note (owns : dict.Owns image contents) (line : LogLine) :
    (dict.note line).Owns image contents :=
  ⟨owns.holds, owns.drafts, owns.mapped⟩

variable {profile : Profile} {fill : σ → Script σ} {committed : Records} {state state' last : σ}
  {shelf : Shelf} {replays : Nat} {failure : DictionaryError} {image' : Image}

theorem FillsOnce.loaded
    (fills : dict.FillsOnce image contents (fill state') (.ok ()) last dict' image')
    (profileEq : dict.profile = profile)
    (course : Course profile fill committed state shelf replays state' (dict.shelf contents)) :
    ∃ after, dict'.Owns image' after ∧
      Loads profile fill committed state shelf (.ok replays) (dict'.shelf after)
        after.records := by
  cases fills with
  | @committed _ _ _ after owns played recordsEq =>
      rw [profileEq] at played
      refine ⟨after, owns, ?_⟩
      rw [recordsEq]
      exact .loaded course played

/-- A failed run that is not replayed is the last one of its load. -/
theorem FillsOnce.loads
    (fills : dict.FillsOnce image contents (fill state') (.error failure) last dict' image')
    (profileEq : dict.profile = profile) (committedEq : contents.records = committed)
    (course : Course profile fill committed state shelf replays state' (dict.shelf contents)) :
    ∃ after, dict'.Owns image' after ∧
      Loads profile fill committed state shelf (.error failure) (dict'.shelf after)
        after.records := by
  cases fills with
  | broke owns played =>
      rw [profileEq] at played
      refine ⟨contents, owns, ?_⟩
      rw [committedEq]
      exact .broke course played
  | @stopped _ _ _ _ after givesUp loses stops =>
      rw [profileEq] at givesUp stops
      refine ⟨after, loses.owns, ?_⟩
      rw [loses.shelf_eq, loses.advances.records_eq rfl, committedEq]
      exact .gaveUp course givesUp stops

theorem FillsOnce.course
    (fills : dict.FillsOnce image contents (fill state') (.error failure) last dict' image')
    (profileEq : dict.profile = profile) (committedEq : contents.records = committed)
    (course : Course profile fill committed state shelf replays state' (dict.shelf contents))
    (asks : failure.isRetry = true) :
    ∃ after, dict'.Owns image' after ∧ after.records = committed ∧
      Course profile fill committed state shelf (replays + 1) last (dict'.shelf after) := by
  cases fills with
  | broke owns played =>
      rw [profileEq] at played
      exact ⟨contents, owns, committedEq, .asked course played asks⟩
  | @stopped _ _ _ _ after givesUp loses stops =>
      rw [profileEq] at stops
      refine ⟨after, loses.owns, (loses.advances.records_eq rfl).trans committedEq, ?_⟩
      rw [loses.shelf_eq, committedEq]
      exact .restarted course stops

theorem loadFrom_loads (replays budget : Nat) (owns : dict.Owns file.image contents)
    (profileEq : dict.profile = profile) (committedEq : contents.records = committed)
    (course : Course profile fill committed state shelf replays state' (dict.shelf contents)) :
    ∃ result last dict' file',
      loadFrom (fun state => (fill state).run) replays budget state' dict file =
        (result, last, dict', file') ∧
      dict'.profile = profile ∧ ∃ after, dict'.Owns file'.image after ∧
        Loads profile fill committed state shelf result (dict'.shelf after) after.records := by
  -- `course` tells what the runs before have lost, and with which state the next one begins.
  induction budget generalizing dict file contents replays state' with
  | zero =>
      obtain ⟨result, last, dict', file', filled, profileEq', fills⟩ :=
        fillAndCommit_fillsOnce fill state' owns
      cases result with
      | ok done =>
          exact ⟨_, last, dict', file', loadFrom_of_ok filled, profileEq'.trans profileEq,
            fills.loaded profileEq course⟩
      | error failure =>
          obtain ⟨after, owns', loads⟩ := fills.loads profileEq committedEq course
          unfold loadFrom
          rw [filled]
          dsimp only
          split
          · exact ⟨_, last, _, file', rfl, profileEq'.trans profileEq, after,
              owns_note owns' _, loads⟩
          · exact ⟨_, last, dict', file', rfl, profileEq'.trans profileEq, after, owns', loads⟩
  | succ budget ih =>
      obtain ⟨result, last, dict', file', filled, profileEq', fills⟩ :=
        fillAndCommit_fillsOnce fill state' owns
      cases result with
      | ok done =>
          exact ⟨_, last, dict', file', loadFrom_of_ok filled, profileEq'.trans profileEq,
            fills.loaded profileEq course⟩
      | error failure =>
          cases asks : failure.isRetry with
          | true =>
              obtain ⟨after, owns', recordsEq, course'⟩ :=
                fills.course profileEq committedEq course asks
              rw [loadFrom_of_retry filled asks]
              exact ih (replays + 1) owns' (profileEq'.trans profileEq) recordsEq course'
          | false =>
              obtain ⟨after, owns', loads⟩ := fills.loads profileEq committedEq course
              exact ⟨_, last, dict', file', loadFrom_of_failed filled asks,
                profileEq'.trans profileEq, after, owns', loads⟩

/-- What a load comes to, from the state of its routine and the shelf that it finds. -/
theorem load_loads (fill : σ → Script σ) (state : σ) (owns : dict.Owns file.image contents) :
    ∃ result last dict' file',
      dict.load (fun state => (fill state).run) state file = (result, last, dict', file') ∧
      dict'.profile = dict.profile ∧ ∃ after, dict'.Owns file'.image after ∧
        Loads dict.profile fill contents.records state (dict.shelf contents) result
          (dict'.shelf after) after.records :=
  loadFrom_loads 0 replayLimit owns rfl rfl .start

/-! ### Runs that do not break off -/

/-- No run that the load can come to asks for its replay by itself. -/
def Honest (profile : Profile) (fill : σ → Script σ) (committed : Records) (state : σ)
    (shelf : Shelf) : Prop :=
  ∀ replays state' start failure last shelf',
    Course profile fill committed state shelf replays state' start →
      (fill state').play profile start = (.error failure, last, shelf') →
        failure.isRetry = false

/-- No run that the load can come to breaks off by itself. -/
def Unbroken (profile : Profile) (fill : σ → Script σ) (committed : Records) (state : σ)
    (shelf : Shelf) : Prop :=
  ∀ replays state' start failure last shelf',
    Course profile fill committed state shelf replays state' start →
      (fill state').play profile start ≠ (.error failure, last, shelf')

theorem Unbroken.honest (unbroken : Unbroken profile fill committed state shelf) :
    Honest profile fill committed state shelf :=
  fun _ _ _ _ _ _ course played => absurd played (unbroken _ _ _ _ _ _ course)

/-- Then every run of a load that begins with nothing unpublished begins with the committed
records. -/
theorem Course.records_eq {start : Shelf}
    (course : Course profile fill committed state shelf replays state' start)
    (still : shelf.records = committed) (honest : Honest profile fill committed state shelf) :
    start.records = committed := by
  cases course with
  | start => exact still
  | restarted before stops => rfl
  | asked before played asks =>
      rw [honest _ _ _ _ _ _ before played] at asks
      cases asks

/-- The load that succeeds has made a complete run on the records before it, if it was not
replayed or began with nothing unpublished. -/
theorem Loads.complete {shelf' : Shelf} {committed' : Records}
    (loads : Loads profile fill committed state shelf (.ok replays) shelf' committed')
    (tidy : replays = 0 ∨
      (shelf.records = committed ∧ Honest profile fill committed state shelf)) :
    committed' = shelf'.records ∧ ∃ state' encoding last',
      (fill state').play profile ⟨encoding, shelf.records⟩ = (.ok (), last', shelf') := by
  cases loads with
  | @loaded _ state' last' start _ course played =>
      refine ⟨rfl, state', start.encoding, last', ?_⟩
      have same : start.records = shelf.records := by
        rcases tidy with none | ⟨still, honest⟩
        · subst none
          cases course
          rfl
        · exact (course.records_eq still honest).trans still.symm
      rw [← same]
      exact played

/-- A load that begins with nothing unpublished and never breaks off by itself makes a complete
run or leaves nothing. -/
theorem Loads.all_or_nothing {result : Except DictionaryError Nat} {shelf' : Shelf}
    {committed' : Records}
    (loads : Loads profile fill committed state shelf result shelf' committed')
    (still : shelf.records = committed) (unbroken : Unbroken profile fill committed state shelf) :
    committed' = shelf'.records ∧ (committed' = committed ∨ ∃ state' encoding last',
      (fill state').play profile ⟨encoding, committed⟩ = (.ok (), last', shelf')) := by
  cases result with
  | ok replays =>
      obtain ⟨recordsEq, run⟩ := loads.complete (Or.inr ⟨still, unbroken.honest⟩)
      rw [still] at run
      exact ⟨recordsEq, Or.inr run⟩
  | error failure =>
      cases loads with
      | broke course played => exact absurd played (unbroken _ _ _ _ _ _ course)
      | gaveUp _ _ _ => exact ⟨rfl, Or.inl rfl⟩

end Dictionary

end RecordFile
