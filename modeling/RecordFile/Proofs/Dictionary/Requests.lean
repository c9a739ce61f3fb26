/-
A bulk handle from its opening on.

Requests are served one after another while nobody else writes the file. Each of them tells
what it makes of the committed records and of the shelf of the handle. A load that had to be
replayed begins again from the committed records, so what was in the draft before the load is
lost, and the load succeeds all the same. A load that breaks off by itself leaves its writes
in the draft, where the next commit finds them.
-/

import RecordFile.Proofs.Dictionary.Load
import RecordFile.Proofs.Dictionary.Opening

namespace RecordFile

namespace Dictionary

variable {dict dict' : Dictionary} {file file' : SharedFile} {contents after : Contents}
  {image : Image} {session : Session} {path : String} {mode : OpenMode}
  {flags : DictionaryFlags} {config : DictionaryConfig} {descriptor : Descriptor}
  {owner : Owner} {room : Nat} {source? : Option Nat} {now : Nat}

/-! ### Requests -/

inductive Request where
  | perform (operation : Operation)
  | scan (move : CursorMove)
  | commit
  | load {σ : Type} (fill : σ → Script σ) (state : σ)

/-- The result is the number of replays, which is zero for all but a load. -/
def serve (dict : Dictionary) (request : Request) (file : SharedFile) :
    Except DictionaryError Nat × Dictionary × SharedFile :=
  match request with
  | .perform operation =>
      let outcome := dict.perform operation file
      (outcome.1.map fun _ => 0, outcome.2)
  | .scan move =>
      let outcome := dict.sequence move file
      (outcome.1.map fun _ => 0, outcome.2)
  | .commit =>
      let outcome := dict.commit file
      (outcome.1.map fun _ => 0, outcome.2)
  | .load fill state =>
      let outcome := dict.load (fun state => (fill state).run) state file
      (outcome.1, outcome.2.2)

inductive Serves (profile : Profile) (committed : Records) (shelf : Shelf) :
    Request → Except DictionaryError Nat → Records → Shelf → Prop
  | performed {operation : Operation} {result : Except DictionaryError Answer} {shelf' : Shelf}
      (applied : profile.apply shelf operation = (result, shelf')) :
      Serves profile committed shelf (.perform operation) (result.map fun _ => 0) committed shelf'
  | scanned {move : CursorMove} :
      Serves profile committed shelf (.scan move) (.ok 0) committed shelf
  | committed : Serves profile committed shelf .commit (.ok 0) shelf.records shelf
  | loaded {σ : Type} {fill : σ → Script σ} {state : σ} {result : Except DictionaryError Nat}
      {shelf' : Shelf} {committed' : Records}
      (loads : Loads profile fill committed state shelf result shelf' committed') :
      Serves profile committed shelf (.load fill state) result committed' shelf'
  | dropped {request : Request} {failure : DictionaryError} {encoding : Encoding}
      (givesUp : profile.GivesUp failure) :
      Serves profile committed shelf request (.error failure) committed ⟨encoding, committed⟩

theorem sequence_serves (owns : dict.Owns file.image contents) (move : CursorMove) :
    ∃ result dict' file', dict.serve (.scan move) file = (result, dict', file') ∧
      dict'.profile = dict.profile ∧ ∃ after, dict'.Owns file'.image after ∧
        Serves dict.profile contents.records (dict.shelf contents) (.scan move) result
          after.records (dict'.shelf after) := by
  obtain ⟨found, dict', file', ran, same, engages⟩ := engine_engages (owns.lock .shared) .seek
    (fun session image => ((session.seek move image).1, (session.seek move image).2, image))
    (.seek move) .record (by simp) fun _ _ => rfl
  unfold serve sequence locked engineRead
  dsimp only
  rw [ran]
  rw [image_lock] at engages
  generalize imageEq : file'.image = image' at engages
  cases found with
  | ok record? =>
      refine ⟨_, dict', _, rfl, same.profile_eq, contents, ?_⟩
      rw [image_unlock, imageEq]
      cases engages with
      | edited owns' edits =>
          have shelfEq : dict'.shelf contents = dict.shelf contents := by
            unfold shelf
            rw [same.encoding_eq, edits.seek_eq.2]
          rw [shelfEq]
          exact ⟨owns', .scanned⟩
  | error failure =>
      refine ⟨_, dict', _, rfl, same.profile_eq, ?_⟩
      rw [image_unlock, imageEq]
      cases engages with
      | edited owns' edits =>
          obtain ⟨_, answer⟩ := edits.seek_eq.1
          cases answer
      | @dropped _ _ _ _ after drops loses =>
          refine ⟨after, loses.owns, ?_⟩
          rw [loses.shelf_eq, loses.advances.records_eq rfl]
          exact .dropped ⟨_, _, drops, rfl⟩

/-- What is asked of the owner of a file, it does. -/
theorem serve_serves (owns : dict.Owns file.image contents) (request : Request) :
    ∃ result dict' file', dict.serve request file = (result, dict', file') ∧
      dict'.profile = dict.profile ∧ ∃ after, dict'.Owns file'.image after ∧
        Serves dict.profile contents.records (dict.shelf contents) request result
          after.records (dict'.shelf after) := by
  cases request with
  | perform operation =>
      obtain ⟨result, dict', file', performed, profileEq, performs⟩ :=
        perform_performs owns operation
      unfold serve
      dsimp only
      rw [performed]
      refine ⟨_, dict', file', rfl, profileEq, ?_⟩
      generalize file'.image = image' at performs
      cases performs with
      | answered owns' applied => exact ⟨contents, owns', .performed applied⟩
      | @dropped _ _ _ after givesUp loses _ =>
          refine ⟨after, loses.owns, ?_⟩
          rw [loses.shelf_eq, loses.advances.records_eq rfl]
          exact .dropped givesUp
  | scan move => exact sequence_serves owns move
  | commit =>
      obtain ⟨result, dict', file', committed, profileEq, commits⟩ := commit_commits owns
      unfold serve
      dsimp only
      rw [committed]
      refine ⟨_, dict', file', rfl, profileEq, ?_⟩
      generalize file'.image = image' at commits
      cases commits with
      | @published _ _ after owns' recordsEq shelfEq _ =>
          refine ⟨after, owns', ?_⟩
          rw [shelfEq, recordsEq]
          exact .committed
      | @dropped _ _ _ after givesUp loses _ =>
          refine ⟨after, loses.owns, ?_⟩
          rw [loses.shelf_eq, loses.advances.records_eq rfl]
          exact .dropped givesUp
  | load fill state =>
      obtain ⟨result, last, dict', file', loaded, profileEq, after, owns', loads⟩ :=
        load_loads fill state owns
      unfold serve
      dsimp only
      rw [loaded]
      exact ⟨_, dict', file', rfl, profileEq, after, owns', .loaded loads⟩

/-! ### Runs -/

structure Turn where
  request : Request
  room : Nat

def run : List Turn → Dictionary → SharedFile →
    List (Except DictionaryError Nat) × Dictionary × SharedFile
  | [], dict, file => ([], dict, file)
  | turn :: rest, dict, file =>
      let served := (dict.withRoom turn.room).serve turn.request file
      let later := run rest served.2.1 served.2.2
      (served.1 :: later.1, later.2)

/-- The accounts of a run: every request with its result, from the committed records and the
shelf before it to those after it. -/
inductive Accounts (profile : Profile) :
    List Turn → List (Except DictionaryError Nat) → Records → Shelf → Records → Shelf → Prop
  | nil {committed : Records} {shelf : Shelf} :
      Accounts profile [] [] committed shelf committed shelf
  | cons {turn : Turn} {rest : List Turn} {result : Except DictionaryError Nat}
      {results : List (Except DictionaryError Nat)} {committed committed' last : Records}
      {shelf shelf' lastShelf : Shelf}
      (serves : Serves profile committed shelf turn.request result committed' shelf')
      (later : Accounts profile rest results committed' shelf' last lastShelf) :
      Accounts profile (turn :: rest) (result :: results) committed shelf last lastShelf

theorem Owns.withRoom (owns : dict.Owns image contents) (room : Nat) :
    (dict.withRoom room).Owns image contents :=
  ⟨owns.holds, owns.drafts.withRoom room, owns.mapped.withRoom room⟩

theorem run_accounts_of_owns (turns : List Turn) (owns : dict.Owns file.image contents) :
    ∃ results dict' file', run turns dict file = (results, dict', file') ∧
      dict'.profile = dict.profile ∧ ∃ after, dict'.Owns file'.image after ∧
        Accounts dict.profile turns results contents.records (dict.shelf contents)
          after.records (dict'.shelf after) := by
  induction turns generalizing dict file contents with
  | nil => exact ⟨[], dict, file, rfl, rfl, contents, owns, .nil⟩
  | cons turn rest ih =>
      obtain ⟨result, dict', file', served, profileEq, after, owns', serves⟩ :=
        serve_serves (owns.withRoom turn.room) turn.request
      obtain ⟨results, dict'', file'', ran, profileEq', last, owns'', accounts⟩ := ih owns'
      unfold run
      dsimp only
      rw [served]
      dsimp only
      rw [ran]
      rw [profileEq] at accounts
      exact ⟨_, dict'', file'', rfl, profileEq'.trans profileEq, last, owns'',
        .cons serves accounts⟩

/-! ### Updates in order -/

/-- All updates and deletions in order, each load as one complete run of its routine. The state
of the routine and the encoding may be those of a replay. -/
inductive InOrder (profile : Profile) : List Turn → Shelf → Shelf → Prop
  | nil {shelf : Shelf} : InOrder profile [] shelf shelf
  | performed {operation : Operation} {room : Nat} {rest : List Turn} {answer : Answer}
      {shelf shelf' last : Shelf} (applied : profile.apply shelf operation = (.ok answer, shelf'))
      (later : InOrder profile rest shelf' last) :
      InOrder profile (⟨.perform operation, room⟩ :: rest) shelf last
  | scanned {move : CursorMove} {room : Nat} {rest : List Turn} {shelf last : Shelf}
      (later : InOrder profile rest shelf last) :
      InOrder profile (⟨.scan move, room⟩ :: rest) shelf last
  | committed {room : Nat} {rest : List Turn} {shelf last : Shelf}
      (later : InOrder profile rest shelf last) :
      InOrder profile (⟨.commit, room⟩ :: rest) shelf last
  | loaded {σ : Type} {fill : σ → Script σ} {state state' last' : σ} {room : Nat}
      {rest : List Turn} {encoding : Encoding} {shelf shelf' last : Shelf}
      (played : (fill state').play profile ⟨encoding, shelf.records⟩ = (.ok (), last', shelf'))
      (later : InOrder profile rest shelf' last) :
      InOrder profile (⟨.load fill state, room⟩ :: rest) shelf last

def NeverAsks {σ : Type} (profile : Profile) (fill : σ → Script σ) : Prop :=
  ∀ state shelf failure last shelf',
    (fill state).play profile shelf = (.error failure, last, shelf') → failure.isRetry = false

/-- A load that is replayed begins with nothing in the draft that is not committed: there was
no update and no deletion since the last commit or load. -/
def Tidy (profile : Profile) : Prop → List Turn → List (Except DictionaryError Nat) → Prop
  | clean, ⟨.perform operation, _⟩ :: rest, _ :: results =>
      Tidy profile (clean ∧ operation.Reads) rest results
  | clean, ⟨.scan _, _⟩ :: rest, _ :: results => Tidy profile clean rest results
  | _, ⟨.commit, _⟩ :: rest, _ :: results => Tidy profile True rest results
  | clean, ⟨.load fill _, _⟩ :: rest, result :: results =>
      (result = .ok 0 ∨ (clean ∧ NeverAsks profile fill)) ∧ Tidy profile True rest results
  | _, _, _ => True

variable {profile : Profile} {turns : List Turn} {results : List (Except DictionaryError Nat)}
  {committed last : Records} {shelf lastShelf : Shelf}

theorem Accounts.inOrder
    (accounts : Accounts profile turns results committed shelf last lastShelf)
    (succeeds : ∀ result ∈ results, ∃ replays, result = .ok replays) {clean : Prop}
    (still : clean → shelf.records = committed) (tidy : Tidy profile clean turns results) :
    InOrder profile turns shelf lastShelf := by
  induction accounts generalizing clean with
  | nil => exact .nil
  | @cons turn rest result results _ _ _ _ shelf' _ serves later ih =>
      obtain ⟨request, room⟩ := turn
      obtain ⟨replays, rfl⟩ := succeeds result List.mem_cons_self
      have succeeds' := fun result member => succeeds result (List.mem_cons_of_mem _ member)
      generalize resultEq : Except.ok replays = result at serves
      cases serves with
      | @performed operation answer _ applied =>
          cases answer with
          | error failure => cases resultEq
          | ok answer =>
              refine .performed applied (ih succeeds' ?_ tidy)
              rintro ⟨unchanged, reads⟩
              rw [← still unchanged]
              exact Profile.records_of_reads reads applied
      | scanned => exact .scanned (ih succeeds' still tidy)
      | committed => exact .committed (ih succeeds' (fun _ => rfl) tidy)
      | loaded loads =>
          subst resultEq
          obtain ⟨tidy, tidies⟩ := tidy
          obtain ⟨recordsEq, state', encoding, last', played⟩ := loads.complete
            (tidy.imp Except.ok.inj fun ⟨unchanged, neverAsks⟩ =>
              ⟨still unchanged, fun _ _ _ _ _ _ _ played => neverAsks _ _ _ _ _ played⟩)
          exact .loaded played (ih succeeds' (fun _ => recordsEq.symm) tidies)
      | dropped _ => cases resultEq

def Request.Publishes : Request → Prop
  | .commit => True
  | .load _ _ => True
  | _ => False

def Publishes : List Turn → Prop
  | [] => False
  | [turn] => turn.request.Publishes
  | _ :: next :: rest => Publishes (next :: rest)

theorem Serves.published {request : Request} {replays : Nat} {committed' : Records}
    {shelf' : Shelf}
    (serves : Serves profile committed shelf request (.ok replays) committed' shelf')
    (publishes : request.Publishes) : committed' = shelf'.records := by
  generalize resultEq : Except.ok replays = result at serves
  cases serves with
  | performed _ => exact publishes.elim
  | scanned => exact publishes.elim
  | committed => rfl
  | loaded loads =>
      subst resultEq
      cases loads
      rfl
  | dropped _ => cases resultEq

theorem Accounts.published
    (accounts : Accounts profile turns results committed shelf last lastShelf)
    (succeeds : ∀ result ∈ results, ∃ replays, result = .ok replays)
    (publishes : Publishes turns) : last = lastShelf.records := by
  induction accounts with
  | nil => exact publishes.elim
  | @cons turn rest result results _ _ _ _ shelf' _ serves later ih =>
      have succeeds' := fun result member => succeeds result (List.mem_cons_of_mem _ member)
      cases later with
      | nil =>
          obtain ⟨replays, rfl⟩ := succeeds result List.mem_cons_self
          exact serves.published publishes
      | cons _ _ => exact ih succeeds' publishes

/-! ### Ending -/

inductive Ending where
  | commit
  | close

def finish (dict : Dictionary) (ending : Ending) (file : SharedFile) :
    Except DictionaryError Unit × SharedFile :=
  match ending with
  | .commit =>
      let outcome := dict.commit file
      (outcome.1, outcome.2.2)
  | .close =>
      let outcome := dict.close file
      (outcome.1, outcome.2.2)

/-- The commit decides, whether a close follows or not. -/
theorem finish_of_commit (orderly : dict.session.bulk = false → dict.session.pending? = none)
    {result : Except DictionaryError Unit} (committed : dict.commit file = (result, dict', file'))
    (ending : Ending) :
    ∃ last, dict.finish ending file = (result, last) ∧ last.image = file'.image := by
  unfold finish
  cases ending with
  | commit =>
      dsimp only
      rw [committed]
      exact ⟨file', rfl, rfl⟩
  | close =>
      obtain ⟨_, last, _, closed, _, _, imageEq⟩ := close_of_commit orderly committed
      dsimp only
      rw [closed]
      exact ⟨last, rfl, imageEq⟩

/-- A handle that finishes publishes its shelf or fails, and then it publishes nothing. -/
theorem finish_publishes (owns : dict.Owns file.image contents) (ending : Ending) :
    ∃ result last, dict.finish ending file = (result, last) ∧
      ∃ after, last.image.Holds after ∧
        ((result = .ok () ∧ after.records = (dict.shelf contents).records) ∨
          ((∃ failure, result = .error failure) ∧ after.records = contents.records)) := by
  obtain ⟨result, dict', file', committed, _, commits⟩ := commit_commits owns
  have orderly : dict.session.bulk = false → dict.session.pending? = none := by
    intro single
    rw [owns.drafts.bulk] at single
    cases single
  obtain ⟨last, finished, lastEq⟩ := finish_of_commit orderly committed ending
  refine ⟨result, last, finished, ?_⟩
  rw [lastEq]
  generalize file'.image = image' at commits
  cases commits with
  | @published _ _ after owns' recordsEq _ _ =>
      exact ⟨after, owns'.holds, Or.inl ⟨rfl, recordsEq⟩⟩
  | @dropped failure _ _ after _ loses _ =>
      exact ⟨after, loses.owns.holds, Or.inr ⟨⟨failure, rfl⟩, loses.advances.records_eq rfl⟩⟩

/-! ### Loads that finish -/

section

variable (made : newSession config = .ok session) (bulk : flags.bulk = true)
  (writes : mode.canWrite = true) (usable : file.image.Usable)
  (opened : Dictionary.open session path mode flags config descriptor owner room source? now
    file = (.ok dict, file'))

include made bulk writes usable opened

/-- A load that begins with nothing unpublished, and then a commit or a close. What is committed
at the end is what the load has left on the shelf if that succeeds. This is a complete run of the
routine or nothing, unless a run breaks off by itself: what that has written is published. -/
theorem load_finish {σ : Type} {earlier : List Turn} {results : List (Except DictionaryError Nat)}
    {dict₁ dict₂ : Dictionary} {file₁ file₂ file₃ last : SharedFile}
    (ran : run earlier dict file' = (results, dict₁, file₁))
    (clean : ∀ before, file₁.image.committed = .ok before → dict₁.session.draft before = before)
    {fill : σ → Script σ} {state state' : σ} {loaded : Except DictionaryError Nat} {room₁ : Nat}
    (loading : (dict₁.withRoom room₁).load (fun state => (fill state).run) state file₁ =
      (loaded, state', dict₂, file₂))
    (still : file₃.image = file₂.image) {ending : Ending}
    {finished : Except DictionaryError Unit} {room₂ : Nat}
    (finishing : (dict₂.withRoom room₂).finish ending file₃ = (finished, last)) :
    ∃ before shelf published after, file₁.image.committed = .ok before ∧
      last.image.committed = .ok after ∧
      Loads dict.profile fill before state ⟨dict₁.encoding, before⟩ loaded shelf published ∧
      ((finished = .ok () ∧ after = shelf.records) ∨
        ((∃ failure, finished = .error failure) ∧ after = published)) ∧
      (Unbroken dict.profile fill before state ⟨dict₁.encoding, before⟩ →
        after = before ∨ ∃ state' encoding end' shelf',
          (fill state').play dict.profile ⟨encoding, before⟩ = (.ok (), end', shelf') ∧
            after = shelf'.records) := by
  obtain ⟨contents, owns, _⟩ := open_owns made bulk writes usable opened
  obtain ⟨_, _, _, ran', profileEq, contents₁, owns₁, _⟩ := run_accounts_of_owns earlier owns
  rw [ran] at ran'
  cases ran'
  obtain ⟨_, _, _, _, loading', _, contents₂, owns₂, loads⟩ :=
    load_loads fill state (owns₁.withRoom room₁)
  rw [loading] at loading'
  cases loading'
  rw [← still] at owns₂
  obtain ⟨_, _, finishing', after, holds, ends⟩ :=
    finish_publishes (owns₂.withRoom room₂) ending
  rw [finishing] at finishing'
  cases finishing'
  have shelfEq : (dict₁.withRoom room₁).shelf contents₁ =
      ⟨dict₁.encoding, contents₁.records⟩ :=
    congrArg (Shelf.mk dict₁.encoding) (clean _ owns₁.holds.committed_eq)
  have loads : Loads dict.profile fill contents₁.records state
      ⟨dict₁.encoding, contents₁.records⟩ loaded (dict₂.shelf contents₂) contents₂.records := by
    rw [← shelfEq, ← profileEq]
    exact loads
  refine ⟨contents₁.records, dict₂.shelf contents₂, contents₂.records, after.records,
    owns₁.holds.committed_eq, holds.committed_eq, loads, ends, ?_⟩
  intro unbroken
  obtain ⟨published, complete⟩ := loads.all_or_nothing rfl unbroken
  have afterEq : after.records = contents₂.records := by
    rcases ends with ⟨_, all⟩ | ⟨_, none⟩
    · rw [published]
      exact all
    · exact none
  rcases complete with unchanged | ⟨state', encoding, end', played⟩
  · exact Or.inl (afterEq.trans unchanged)
  · exact Or.inr ⟨state', encoding, end', _, played, afterEq.trans published⟩

end

/-! #### A duplicate halfway -/

def bulkFlags : DictionaryFlags where
  tryBare := true
  bulk := true

def smallSession : Session :=
  Session.idle
    { initialMapSize := 4096, growthMultiplier := growthMultiplier, maxMapSize := largestMapSize }

def opening : Except OpenError Dictionary × SharedFile :=
  Dictionary.open smallSession "t" .create bulkFlags { mapSize := 4096 } 3 (Owner.ofUser 0) 65536
    none 0 (SharedFile.empty 0)

theorem isSome_opening : opening.1.toOption.isSome = true := by
  decide +kernel

def bulkHandle : Dictionary :=
  opening.1.toOption.get isSome_opening

theorem eq_ok_get {ε α β : Type} (outcome : Except ε α × β)
    (opened : outcome.1.toOption.isSome = true) :
    outcome = (.ok (outcome.1.toOption.get opened), outcome.2) := by
  rcases outcome with ⟨result, rest⟩
  cases result with
  | error failure => cases opened
  | ok value => rfl

def oneStored : List (Except DictionaryError Nat) × Dictionary × SharedFile :=
  run [⟨.perform (.update "a" [49]), 65536⟩, ⟨.commit, 65536⟩] bulkHandle opening.2

def updateTwo (state : Unit) : Script Unit :=
  .ask (.update "b" [50]) (fun _ => state) fun _ =>
    .ask (.update "a" [51]) (fun _ => state) fun _ => .finish state

def brokenOff : Except DictionaryError Nat × Unit × Dictionary × SharedFile :=
  (oneStored.2.1.withRoom 65536).load (fun state => (updateTwo state).run) () oneStored.2.2

def closedOff : Except DictionaryError Unit × SharedFile :=
  (brokenOff.2.2.1.withRoom 65536).finish .close brokenOff.2.2.2

theorem bulkHandle_opened :
    Dictionary.open smallSession "t" .create bulkFlags { mapSize := 4096 } 3 (Owner.ofUser 0) 65536
      none 0 (SharedFile.empty 0) = (.ok bulkHandle, opening.2) :=
  eq_ok_get opening isSome_opening

set_option maxRecDepth 20000 in
/-- The second update fails, and the first one is published by the close. -/
theorem load_finish_duplicate :
    closedOff.2.image.committed = .ok ((Records.empty.insert [97] [49]).insert [98] [50]) ∧
      ∃ shelf published,
        Loads bulkHandle.profile updateTwo (Records.empty.insert [97] [49]) ()
          ⟨.settled .bare, Records.empty.insert [97] [49]⟩
          (.error (.duplicate "mapstore:t" "a")) shelf published ∧
        shelf.records = (Records.empty.insert [97] [49]).insert [98] [50] := by
  have stored : oneStored.2.2.image.committed = .ok (Records.empty.insert [97] [49]) := by
    decide +kernel
  have closed : closedOff.2.image.committed =
      .ok ((Records.empty.insert [97] [49]).insert [98] [50]) := by
    decide +kernel
  have finished : closedOff.1 = .ok () := by decide +kernel
  have settled : oneStored.2.1.encoding = .settled .bare := by decide +kernel
  have failed : brokenOff.1 = .error (.duplicate "mapstore:t" "a") := by decide +kernel
  have clean : ∀ before, oneStored.2.2.image.committed = .ok before →
      oneStored.2.1.session.draft before = before := by
    intro before committed
    rw [stored] at committed
    cases committed
    decide +kernel
  rcases closing : closedOff with ⟨result, last⟩
  rw [closing] at closed finished
  unfold closedOff at closing
  rcases loading : brokenOff with ⟨loaded, state', dict₂, file₂⟩
  rw [loading] at closing failed
  unfold brokenOff at loading
  rcases ran : oneStored with ⟨results, dict₁, file₁⟩
  rw [ran] at loading stored settled clean
  unfold oneStored at ran
  obtain ⟨before, shelf, published, after, begun, ended, loads, ends, _⟩ :=
    load_finish rfl rfl rfl (Or.inl rfl) bulkHandle_opened ran clean
      loading rfl closing
  dsimp only at stored closed finished settled failed
  rw [stored] at begun
  cases begun
  rw [closed] at ended
  cases ended
  rw [settled, failed] at loads
  refine ⟨closed, shelf, published, loads, ?_⟩
  rcases ends with ⟨_, all⟩ | ⟨⟨failure, refused⟩, _⟩
  · exact all.symm
  · rw [finished] at refused
    cases refused

section

variable (made : newSession config = .ok session) (bulk : flags.bulk = true)
  (writes : mode.canWrite = true) (usable : file.image.Usable)
  (opened : Dictionary.open session path mode flags config descriptor owner room source? now
    file = (.ok dict, file'))

include made bulk writes usable opened

/-- When every request of a run succeeds and the last one commits, what is committed is what
the accounts of the run say. These have all updates in order if every load that was replayed
began with nothing unpublished and never asked for the replay by itself. -/
theorem run_accounts {turns : List Turn} {results : List (Except DictionaryError Nat)}
    {dict' : Dictionary} {file'' : SharedFile}
    (ran : run turns dict file' = (results, dict', file''))
    (succeeds : ∀ result ∈ results, ∃ replays, result = .ok replays)
    (publishes : Publishes turns) :
    ∃ before after shelf, file'.image.committed = .ok before ∧
      file''.image.committed = .ok after ∧
      Accounts dict.profile turns results before ⟨Encoding.ofFlags flags, before⟩ after shelf ∧
      after = shelf.records ∧
      (Tidy dict.profile True turns results →
        InOrder dict.profile turns ⟨Encoding.ofFlags flags, before⟩ shelf) := by
  obtain ⟨contents, owns, shelfEq⟩ := open_owns made bulk writes usable opened
  obtain ⟨results', dict'', file''', ran', _, after, owns', accounts⟩ :=
    run_accounts_of_owns turns owns
  rw [ran] at ran'
  cases ran'
  rw [shelfEq] at accounts
  exact ⟨contents.records, after.records, _, owns.holds.committed_eq, owns'.holds.committed_eq,
    accounts, accounts.published succeeds publishes,
    fun tidy => accounts.inOrder succeeds (fun _ => rfl) tidy⟩

end

def updateLong (state : Unit) : Script Unit :=
  .ask (.update "b" (List.replicate 4100 50)) (fun _ => state) fun _ => .finish state

def outgrown : List (Except DictionaryError Nat) × Dictionary × SharedFile :=
  run [⟨.perform (.update "a" [49]), 65536⟩, ⟨.load updateLong (), 65536⟩] bulkHandle opening.2

set_option maxRecDepth 20000 in
/-- The load is replayed without the update that came before it. -/
theorem run_accounts_outgrown :
    outgrown.1 = [.ok 0, .ok 1] ∧
      outgrown.2.2.image.committed =
        .ok (Records.empty.insert [98] (List.replicate 4100 50)) ∧
      ∃ shelf, Accounts bulkHandle.profile
        [⟨.perform (.update "a" [49]), 65536⟩, ⟨.load updateLong (), 65536⟩] [.ok 0, .ok 1]
        Records.empty ⟨.settled .bare, Records.empty⟩
        (Records.empty.insert [98] (List.replicate 4100 50)) shelf := by
  have results : outgrown.1 = [.ok 0, .ok 1] := by decide +kernel
  have lost : outgrown.2.2.image.committed =
      .ok (Records.empty.insert [98] (List.replicate 4100 50)) := by
    decide +kernel
  have empty : opening.2.image.committed = .ok Records.empty := by decide +kernel
  rcases ran : outgrown with ⟨replies, last, file⟩
  rw [ran] at results lost
  unfold outgrown at ran
  dsimp only at results lost
  cases results
  have succeeds : ∀ result ∈ [Except.ok 0, Except.ok 1],
      ∃ replays, result = (Except.ok replays : Except DictionaryError Nat) := by
    simp
  obtain ⟨before, after, shelf, begun, ended, accounts, _, _⟩ :=
    run_accounts rfl rfl rfl (Or.inl rfl) bulkHandle_opened ran succeeds trivial
  rw [empty] at begun
  cases begun
  rw [lost] at ended
  cases ended
  exact ⟨rfl, lost, shelf, accounts⟩

end Dictionary

end RecordFile
