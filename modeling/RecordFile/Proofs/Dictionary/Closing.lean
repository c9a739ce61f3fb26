/-
Publishing what a bulk handle has written.

All that a handle does with its session are calls of a writer who is bounded by what the file
holds, and a search that tries two forms is two of them. So a handle that has stored something
publishes it when it is committed or closed. One that has only looked up and deleted, or kept the
values of duplicates, publishes if there is room beside the committed payload.
-/

import RecordFile.Proofs.Dictionary.Requests
import RecordFile.Proofs.Dictionary.Updates
import RecordFile.Proofs.Session.Closing

namespace RecordFile

namespace Dictionary

open Session (Bounded Call Reply)

variable {dict dict' : Dictionary} {file file' : SharedFile} {contents after : Contents}
  {image : Image} {session : Session}

/-- A bulk handle that is bounded by what the file holds. -/
def Confined (dict : Dictionary) (image : Image) : Prop :=
  ∃ contents, image.Holds contents ∧ dict.session.Bounded contents

theorem Confined.of_session (confined : dict.Confined image)
    (same : dict'.session = dict.session) : dict'.Confined image := by
  unfold Confined
  rw [same]
  exact confined

theorem bounded_of_session {session session' : Session} {notifications : List Notification}
    (bounded : session'.Bounded contents)
    (same : session = { session' with notifications := notifications }) :
    session.Bounded contents := by
  subst same
  exact ⟨bounded.drafts.retold _ _, bounded.mapped, bounded.limit_eq⟩

/-! ### Calls of the engine -/

theorem engine_confined {α : Type} (confined : dict.Confined file.image) (name : EngineCall)
    (run : Session → Image → Except EngineError α × Session × Image) (call : Call)
    (answer : α → Reply) (other : ∀ path flags bulk, call ≠ .open path flags bulk)
    (acts : ∀ session image, session.act call 0 image =
      (Reply.of answer (run session image).1, (run session image).2)) :
    (dict.engine name run file).2.1.Confined (dict.engine name run file).2.2.image := by
  obtain ⟨contents, holds, bounded⟩ := confined
  obtain ⟨after, holds', bounded'⟩ := bounded.act holds other 0
  rw [acts] at holds' bounded'
  obtain ⟨dict', file', engaged, _, sessionEq, imageEq⟩ := dict.engine_eq name run file rfl
  rw [engaged]
  exact ⟨after, imageEq ▸ holds', bounded_of_session bounded' sessionEq⟩

theorem fetch_confined (key : Bytes) (dict : Dictionary) (file : SharedFile)
    (confined : dict.Confined file.image) :
    (fetch key dict file).2.1.Confined (fetch key dict file).2.2.image :=
  engine_confined confined .get
    (fun session image => ((session.get key image).1, (session.get key image).2, image))
    (.get key) .value (by simp) fun _ _ => rfl

theorem remove_confined (key : Bytes) (dict : Dictionary) (file : SharedFile)
    (confined : dict.Confined file.image) :
    (remove key dict file).2.1.Confined (remove key dict file).2.2.image :=
  engine_confined confined .delete (removal key) (.delete key)
    (fun hit? => .found hit?.isSome) (by simp) (act_delete key)

def putting (key value : Bytes) (dict : Dictionary) (file : SharedFile) :
    Except EngineError Unit × Dictionary × SharedFile :=
  dict.engine .put
    (fun session image => session.put key value (!dict.policy.overwrites) image) file

theorem putting_confined (key value : Bytes) (dict : Dictionary) (file : SharedFile)
    (confined : dict.Confined file.image) :
    (putting key value dict file).2.1.Confined (putting key value dict file).2.2.image :=
  engine_confined confined .put
    (fun session image => session.put key value (!dict.policy.overwrites) image)
    (.put key value (!dict.policy.overwrites)) (fun _ => .done) (by simp) fun _ _ => rfl

theorem tryForms_confined {α : Type} (key : Bytes) (action : EngineAction)
    {attempt : Bytes → Dictionary → SharedFile →
      Except EngineError (Option α) × Dictionary × SharedFile}
    (attempts : ∀ key dict file, Confined dict file.image →
      (attempt key dict file).2.1.Confined (attempt key dict file).2.2.image)
    (forms : List Form) (confined : dict.Confined file.image) :
    (tryForms key action attempt forms dict file).2.1.Confined
      (tryForms key action attempt forms dict file).2.2.image := by
  induction forms generalizing dict file with
  | nil => exact confined
  | cons form rest ih =>
      have tried := attempts (form.encode key) dict file confined
      unfold tryForms
      split
      · next failed => rw [failed] at tried; exact tried
      · next missed => rw [missed] at tried; exact ih tried
      · next hit => rw [hit] at tried; exact tried

/-! ### Commands -/

theorem Confined.lock (confined : dict.Confined file.image) (mode : LockMode) :
    dict.Confined (dict.lock mode file).image := by
  rw [image_lock]
  exact confined

theorem locked_confined {α : Type} (mode : LockMode)
    {operation : Dictionary → SharedFile → α × Dictionary × SharedFile}
    (confined : dict.Confined file.image)
    (operates : ∀ file, dict.Confined file.image →
      (operation dict file).2.1.Confined (operation dict file).2.2.image) :
    (dict.locked mode operation file).2.1.Confined (dict.locked mode operation file).2.2.image := by
  have operated := operates _ (confined.lock mode)
  unfold locked
  dsimp only
  rw [image_unlock]
  exact operated

theorem lookup_confined (confined : dict.Confined file.image) (name : String) :
    (dict.lookup name file).2.1.Confined (dict.lookup name file).2.2.image := by
  refine locked_confined .shared confined fun file confined => ?_
  have searched := tryForms_confined (Bytes.ofText (dict.fold name)) .reading fetch_confined
    dict.encoding.candidates confined
  split
  · next failed => rw [failed] at searched; exact searched
  · next found => rw [found] at searched; exact searched

theorem delete_confined (confined : dict.Confined file.image) (name : String) :
    (dict.delete name file).2.1.Confined (dict.delete name file).2.2.image := by
  refine locked_confined .exclusive confined fun file confined => ?_
  have searched := tryForms_confined (Bytes.ofText (dict.fold name)) .deletingFrom remove_confined
    dict.encoding.candidates confined
  split
  · next failed => rw [failed] at searched; exact searched
  · next found => rw [found] at searched; exact searched

theorem sequence_confined (confined : dict.Confined file.image) (move : CursorMove) :
    (dict.sequence move file).2.1.Confined (dict.sequence move file).2.2.image := by
  refine locked_confined .shared confined fun file confined => ?_
  have sought := engine_confined confined .seek
    (fun session image => ((session.seek move image).1, (session.seek move image).2, image))
    (.seek move) .record (by simp) fun _ _ => rfl
  unfold engineRead
  split
  · next failed => rw [failed] at sought; exact sought
  · next found => rw [found] at sought; exact sought

theorem update_confined (confined : dict.Confined file.image) (name : String) (value : Bytes) :
    (dict.update name value file).2.1.Confined (dict.update name value file).2.2.image := by
  have ready : Confined { dict with encoding := dict.encoding.forWrite dict.defaultForm }
      file.image := confined
  exact (locked_confined .exclusive ready (putting_confined _ _ _)).of_session
    (session_updateResult _ _ _)

theorem commit_confined (confined : dict.Confined file.image) :
    (dict.commit file).2.1.Confined (dict.commit file).2.2.image := by
  unfold commit
  split
  · refine locked_confined .exclusive confined fun file confined => ?_
    have committed := engine_confined confined .commit
      (fun session image => session.commit image) .commit (fun _ => .done) (by simp) fun _ _ => rfl
    split
    · next failed => rw [failed] at committed; exact committed
    · next done => rw [done] at committed; exact committed
  · exact confined

theorem obey_confined (confined : dict.Confined file.image) (command : Command) :
    (dict.obey command file).2.1.Confined (dict.obey command file).2.2.image := by
  cases command with
  | perform operation =>
      cases operation with
      | lookup name => exact lookup_confined confined name
      | update name value => exact update_confined confined name value
      | delete name => exact delete_confined confined name
  | scan move => exact sequence_confined confined move
  | commit => exact commit_confined confined
  | close =>
      have orderly : dict.session.bulk = false → dict.session.pending? = none := by
        intro single
        obtain ⟨_, _, bounded⟩ := confined
        rw [bounded.drafts.bulk] at single
        cases single
      have committed := commit_confined confined
      rcases ran : dict.commit file with ⟨result, dict', file'⟩
      rw [ran] at committed
      obtain ⟨contents, holds, bounded⟩ := committed
      obtain ⟨dict'', last, _, closed, _, sessionEq, imageEq⟩ := close_of_commit orderly ran
      unfold obey
      dsimp only
      rw [closed]
      exact ⟨contents, imageEq ▸ holds, bounded_of_session bounded sessionEq⟩
  | drop => exact confined

/-! ### Commands that succeed -/

def Result.Succeeds : Result → Prop
  | .answered (.ok _) => True
  | .scanned (.ok _) => True
  | _ => False

def Command.makes (profile : Profile) (shelf : Shelf) : Command → Shelf
  | .perform operation => (profile.apply shelf operation).2
  | _ => shelf

theorem image_locked {α : Type} (mode : LockMode)
    {operation : Dictionary → SharedFile → α × Dictionary × SharedFile}
    (leaves : ∀ file, (operation dict file).2.2.image = file.image) :
    (dict.locked mode operation file).2.2.image = file.image := by
  unfold locked
  dsimp only
  rw [image_unlock, leaves, image_lock]

theorem image_sequence (dict : Dictionary) (move : CursorMove) (file : SharedFile) :
    (dict.sequence move file).2.2.image = file.image := by
  refine image_locked .shared fun file => ?_
  have same : (dict.engineRead .seek (fun session image => session.seek move image)
      file).2.2.image = file.image := rfl
  split
  · next failed => rw [failed] at same; exact same
  · next found => rw [found] at same; exact same

theorem putting_fits (bounded : dict.session.Bounded contents)
    (holds : file.image.Holds contents) {key value : Bytes}
    (stored : (putting key value dict file).1 = .ok ()) :
    ((putting key value dict file).2.1.session.draft contents.records).encodedLength ≤
      contents.capacity := by
  have put : (dict.session.put key value (!dict.policy.overwrites) file.image).1 = .ok () := stored
  have succeeds : ¬ (dict.session.act (.put key value (!dict.policy.overwrites)) 0
      file.image).1.Failed := by
    unfold Session.act
    dsimp only
    rw [put]
    rintro ⟨_, failed⟩
    cases failed
  exact (bounded.writes holds (by simp) (by simp) succeeds).2.2.2 trivial

theorem updateResult_eq_stored {key : String} {stored : Except EngineError Unit}
    (result : (dict.updateResult key stored).1 = .ok .stored) : stored = .ok () := by
  unfold updateResult at result
  split at result
  · rfl
  · split at result
    · cases result
    · cases result
    · cases result
    · cases result
  · cases result

theorem update_fits (bounded : dict.session.Bounded contents)
    (holds : file.image.Holds contents) {name : String} {value : Bytes}
    (result : (dict.update name value file).1 = .ok .stored) :
    ((dict.update name value file).2.1.shelf contents).records.encodedLength ≤
      contents.capacity := by
  obtain ⟨ready, readyEq⟩ : ∃ ready : Dictionary,
      ready = { dict with encoding := dict.encoding.forWrite dict.defaultForm } := ⟨_, rfl⟩
  have bounded' : ready.session.Bounded contents := by
    rw [readyEq]
    exact bounded
  have holds' : (ready.lock .exclusive file).image.Holds contents := by
    rw [image_lock]
    exact holds
  subst readyEq
  have fits := putting_fits bounded' holds' (updateResult_eq_stored result)
  change (Session.draft (updateResult _ _ _).2.session contents.records).encodedLength ≤ _
  rw [session_updateResult]
  exact fits

/-- Only what is stored takes more room. -/
theorem encodedLength_apply_le {profile : Profile} {shelf shelf' : Shelf}
    {operation : Operation} {result : Except DictionaryError Answer}
    (applied : profile.apply shelf operation = (result, shelf'))
    (keeps : result ≠ .ok (.updated .stored)) :
    shelf'.records.encodedLength ≤ shelf.records.encodedLength := by
  cases operation with
  | lookup name =>
      have reads : (Operation.lookup name).Reads := trivial
      exact Nat.le_of_eq (congrArg Records.encodedLength (Profile.records_of_reads reads applied))
  | update name value =>
      unfold Profile.apply Profile.store at applied
      dsimp only at applied
      split at applied
      · cases applied
        exact Nat.le_refl _
      · split at applied
        · cases applied
          exact absurd rfl keeps
        · cases applied
          exact absurd rfl keeps
        · cases applied
          exact Nat.le_refl _
        · cases applied
          exact Nat.le_refl _
        · cases applied
          exact Nat.le_refl _
  | delete name =>
      cases applied
      unfold Shelf.searched
      split
      · exact Nat.le_refl _
      · next form _ _ =>
          have total := Records.encodedLength_erase shelf.records
            (form.encode (Bytes.ofText (profile.fold name)))
          dsimp only
          omega

theorem perform_fits (bounded : dict.session.Bounded contents)
    (holds : file.image.Holds contents) {operation : Operation}
    (result : (dict.perform operation file).1 = .ok (.updated .stored)) :
    ((dict.perform operation file).2.1.shelf contents).records.encodedLength ≤
      contents.capacity := by
  cases operation with
  | lookup name =>
      change (dict.lookup name file).1.map Answer.value = _ at result
      cases found : (dict.lookup name file).1 with
      | error failure => rw [found] at result; cases result
      | ok value? => rw [found] at result; cases result
  | update name value =>
      change (dict.update name value file).1.map Answer.updated = _ at result
      apply update_fits bounded holds
      cases stored : (dict.update name value file).1 with
      | error failure => rw [stored] at result; cases result
      | ok outcome => rw [stored] at result; cases result; rfl
  | delete name =>
      change (dict.delete name file).1.map Answer.deleted = _ at result
      cases found : (dict.delete name file).1 with
      | error failure => rw [found] at result; cases result
      | ok present => rw [found] at result; cases result

/-- What a command that succeeds leaves of its handle. The file keeps what it holds, and nothing
but the shelf changes. What has been stored has room. -/
structure Furthers (dict : Dictionary) (contents : Contents) (command : Command)
    (outcome : Result × Dictionary × SharedFile) : Prop where
  holds : outcome.2.2.image.Holds contents
  bounded : outcome.2.1.session.Bounded contents
  profile_eq : outcome.2.1.profile = dict.profile
  shelf_eq : outcome.2.1.shelf contents = command.makes dict.profile (dict.shelf contents)
  fits : outcome.1 = .answered (.ok (.updated .stored)) ∨
      (dict.shelf contents).records.encodedLength ≤ contents.capacity →
    (outcome.2.1.shelf contents).records.encodedLength ≤ contents.capacity

theorem bounded_obey (bounded : dict.session.Bounded contents) (holds : file.image.Holds contents)
    (command : Command) (still : (dict.obey command file).2.2.image.Holds contents) :
    (dict.obey command file).2.1.session.Bounded contents := by
  obtain ⟨after, left, bounded'⟩ := obey_confined ⟨contents, holds, bounded⟩ command
  rw [still.unique left]
  exact bounded'

theorem perform_furthers (bounded : dict.session.Bounded contents)
    (holds : file.image.Holds contents) {operation : Operation}
    (succeeds : (dict.obey (.perform operation) file).1.Succeeds) :
    dict.Furthers contents (.perform operation) (dict.obey (.perform operation) file) := by
  have owns : dict.Owns file.image contents := ⟨holds, bounded.drafts, bounded.mapped⟩
  have within := bounded_obey bounded holds (.perform operation)
  have stored : (dict.perform operation file).1 = .ok (.updated .stored) → _ :=
    fun result => perform_fits bounded holds result
  obtain ⟨result, dict', file', performed, profileEq, performs⟩ := perform_performs owns operation
  have obeyed : dict.obey (.perform operation) file = (.answered result, dict', file') := by
    unfold obey
    dsimp only
    rw [performed]
  rw [performed] at stored
  rw [obeyed] at succeeds within ⊢
  generalize imageEq : file'.image = image' at performs
  cases performs with
  | answered owns' applied =>
      have still : file'.image.Holds contents := by
        rw [imageEq]
        exact owns'.holds
      refine ⟨still, within still, profileEq, (congrArg Prod.snd applied).symm, ?_⟩
      intro before
      by_cases stores : result = .ok (.updated .stored)
      · exact stored stores
      · rcases before with stores' | room
        · exact absurd (Result.answered.inj stores') stores
        · exact Nat.le_trans (encodedLength_apply_le applied stores) room
  | dropped _ _ _ => exact succeeds.elim

theorem scan_furthers (bounded : dict.session.Bounded contents)
    (holds : file.image.Holds contents) {move : CursorMove}
    (succeeds : (dict.obey (.scan move) file).1.Succeeds) :
    dict.Furthers contents (.scan move) (dict.obey (.scan move) file) := by
  have owns : dict.Owns file.image contents := ⟨holds, bounded.drafts, bounded.mapped⟩
  have still : (dict.obey (.scan move) file).2.2.image.Holds contents := by
    change (dict.sequence move file).2.2.image.Holds contents
    rw [image_sequence]
    exact holds
  obtain ⟨result, dict', file', served, profileEq, after, owns', serves⟩ :=
    sequence_serves owns move
  rcases scanned : dict.sequence move file with ⟨found, found', left⟩
  have obeyed : dict.obey (.scan move) file = (.scanned found, found', left) := by
    unfold obey
    dsimp only
    rw [scanned]
  unfold serve at served
  dsimp only at served
  rw [scanned] at served
  cases served
  have within := bounded_obey bounded holds (.scan move) still
  rw [obeyed] at succeeds still within ⊢
  cases found with
  | error failure => exact succeeds.elim
  | ok record? =>
      have same := owns'.holds.unique still
      subst same
      have shelfEq : dict'.shelf after = dict.shelf after := by
        generalize shelfEq : dict'.shelf after = shelf' at serves ⊢
        generalize resultEq : Except.map (fun _ => 0) (Except.ok record?) = result at serves
        cases serves with
        | scanned => rfl
        | dropped _ => cases resultEq
      refine ⟨still, within, profileEq, shelfEq, ?_⟩
      rintro (stores | room)
      · cases stores
      · change (dict'.shelf after).records.encodedLength ≤ after.capacity
        rw [shelfEq]
        exact room

theorem obey_furthers (bounded : dict.session.Bounded contents)
    (holds : file.image.Holds contents) {command : Command}
    (succeeds : (dict.obey command file).1.Succeeds) :
    dict.Furthers contents command (dict.obey command file) := by
  cases command with
  | perform operation => exact perform_furthers bounded holds succeeds
  | scan move => exact scan_furthers bounded holds succeeds
  | commit => exact succeeds.elim
  | close => exact succeeds.elim
  | drop => exact succeeds.elim

/-! ### Publishing -/

theorem commit_closes (bounded : dict.session.Bounded contents)
    (holds : file.image.Holds contents) :
    ∃ result dict' file' after,
      dict.commit file = (result.mapError (.ofEngine .committing dict.label), dict', file') ∧
      file'.image.Holds after ∧
      Closes contents (dict.shelf contents).records (dict.session.pending? = none)
        (dict.session.Growable contents)
        (Session.nextSize dict.session.config contents.header.mapSize) result after := by
  obtain ⟨after, holds', closes⟩ := bounded.closes holds
  rcases ran : dict.session.commit file.image with ⟨result, session', image'⟩
  rw [ran] at holds' closes
  have ran' : dict.session.commit (dict.lock .exclusive file).image =
      (result, session', image') := by
    rw [image_lock]
    exact ran
  obtain ⟨dict', file', engaged, same, _, imageEq⟩ :=
    dict.engine_eq .commit (fun session image => session.commit image) _ ran'
  have left : (dict.unlock file').image.Holds after := by
    rw [image_unlock, imageEq]
    exact holds'
  unfold commit locked
  rw [if_pos bounded.drafts.bulk]
  dsimp only
  rw [engaged]
  cases result with
  | error failure =>
      rw [← same.label_eq]
      exact ⟨_, _, _, after, rfl, left, closes⟩
  | ok done => exact ⟨_, _, _, after, rfl, left, closes⟩

/-- A handle that is closed or committed publishes its shelf, if there is room for it. -/
theorem obey_closes (bounded : dict.session.Bounded contents)
    (holds : file.image.Holds contents) {command : Command} (commits : command.Commits) :
    ∃ result after,
      (dict.obey command file).1 =
        .committed (result.mapError (.ofEngine .committing dict.label)) ∧
      (dict.obey command file).2.2.image.Holds after ∧
      Closes contents (dict.shelf contents).records (dict.session.pending? = none)
        (dict.session.Growable contents)
        (Session.nextSize dict.session.config contents.header.mapSize) result after := by
  obtain ⟨result, dict', file', after, committed, left, closes⟩ := commit_closes bounded holds
  unfold obey
  cases command with
  | commit =>
      dsimp only
      rw [committed]
      exact ⟨result, after, rfl, left, closes⟩
  | close =>
      have orderly : dict.session.bulk = false → dict.session.pending? = none := by
        intro single
        rw [bounded.drafts.bulk] at single
        cases single
      obtain ⟨_, last, _, closed, _, _, imageEq⟩ := close_of_commit orderly committed
      dsimp only
      rw [closed]
      exact ⟨result, after, rfl, imageEq ▸ left, closes⟩
  | perform _ => exact commits.elim
  | scan _ => exact commits.elim
  | drop => exact commits.elim

/-! ### Looking -/

def Command.Looks : Command → Prop
  | .perform (.lookup _) => True
  | .scan _ => True
  | .drop => True
  | _ => False

theorem image_tryForms (key : Bytes) (forms : List Form) (dict : Dictionary)
    (file : SharedFile) :
    (tryForms key .reading fetch forms dict file).2.2.image = file.image := by
  induction forms generalizing dict file with
  | nil => rfl
  | cons form rest ih =>
      have same : (fetch (form.encode key) dict file).2.2.image = file.image := rfl
      unfold tryForms
      split
      · next failed => rw [failed] at same; exact same
      · next missed => rw [missed] at same; exact (ih _ _).trans same
      · next hit => rw [hit] at same; exact same

theorem image_lookup (dict : Dictionary) (name : String) (file : SharedFile) :
    (dict.lookup name file).2.2.image = file.image := by
  refine image_locked .shared fun file => ?_
  have same := image_tryForms (Bytes.ofText (dict.fold name)) dict.encoding.candidates dict file
  split
  · next failed => rw [failed] at same; exact same
  · next found => rw [found] at same; exact same

theorem image_of_looks {command : Command} (looks : command.Looks) (dict : Dictionary)
    (file : SharedFile) : (dict.obey command file).2.2.image = file.image := by
  cases command with
  | perform operation =>
      cases operation with
      | lookup name => exact image_lookup dict name file
      | update _ _ => exact looks.elim
      | delete _ => exact looks.elim
  | scan move => exact image_sequence dict move file
  | drop => rfl
  | commit => exact looks.elim
  | close => exact looks.elim

end Dictionary

namespace Handles

open Dictionary (Command Result)

/-! ### Runs -/

def Turn.Looks (turn : Turn) : Prop :=
  match turn.deed with
  | .open opening => opening.mode.canWrite = false
  | .obey command => command.Looks

def Turn.Opens (turn : Turn) : Prop :=
  match turn.deed with
  | .open _ => True
  | .obey _ => False

def SoleWriter : Descriptor → List Turn → Prop :=
  RecordFile.SoleWriter Turn.who Turn.Opens Turn.Looks

def Writes (who : Descriptor) (world : Handles) (turn : Turn) : Prop :=
  turn.who = who → ∃ result, world.result? turn = some result ∧ result.Succeeds

def Stores (who : Descriptor) (world : Handles) (turn : Turn) : Prop :=
  turn.who = who ∧ world.result? turn = some (.answered (.ok (.updated .stored)))

def Sometime (law : Handles → Turn → Prop) : List Turn → Handles → Prop
  | [], _ => False
  | turn :: rest, world => law world turn ∨ Sometime law rest (world.step turn)

def written (who : Descriptor) (profile : Profile) : List Turn → Shelf → Shelf
  | [], shelf => shelf
  | turn :: rest, shelf =>
      written who profile rest <|
        match turn.deed with
        | .open _ => shelf
        | .obey command => if turn.who = who then command.makes profile shelf else shelf

structure Bounds (world : Handles) (who : Descriptor) (contents : Contents) : Prop where
  holds : world.file.image.Holds contents
  bounded : ∀ dict, world.handle? who = some dict → dict.session.Bounded contents

variable {world start last : Handles} {who : Descriptor} {contents : Contents} {turn : Turn}
  {turns : List Turn} {dict : Dictionary}

theorem readOnly_openFlags {mode : OpenMode} (reads : mode.canWrite = false)
    (flags : DictionaryFlags) : (Dictionary.openFlags mode flags).readOnly = true := by
  cases mode with
  | readOnly => rfl
  | readWrite => cases reads
  | create => cases reads
  | truncate => cases reads

theorem image_open_of_looks {opening : Opening} (holds : world.file.image.Holds contents)
    (reads : opening.mode.canWrite = false) (room : Nat) :
    (opening.run who room world.file).2.image = world.file.image := by
  unfold Opening.run
  split
  · rfl
  · next session _ =>
      have looks : (Session.Call.open (Dictionary.databasePath opening.path)
          (Dictionary.openFlags opening.mode opening.flags) opening.flags.bulk).Looks :=
        readOnly_openFlags reads opening.flags
      have same : (session.act (.open (Dictionary.databasePath opening.path)
          (Dictionary.openFlags opening.mode opening.flags) opening.flags.bulk) room
            world.file.image).2.2 = world.file.image := Session.act_looks looks holds
      rw [Dictionary.image_open]
      exact same

theorem image_step (holds : world.file.image.Holds contents) (looks : turn.Looks) :
    (world.step turn).file.image = world.file.image := by
  unfold Turn.Looks at looks
  cases asks : turn.deed with
  | «open» opening =>
      rw [asks] at looks
      have same : (opening.run turn.who turn.room world.file).2.image = world.file.image :=
        image_open_of_looks holds looks turn.room
      unfold step
      rw [asks]
      dsimp only
      split
      · next failed => rw [failed] at same; exact same
      · next opened => rw [opened] at same; exact same
  | obey command =>
      rw [asks] at looks
      cases here : world.user? turn with
      | none => rw [step_of_absent asks here]
      | some dict =>
          rw [(obey_eq asks here rfl).2]
          exact Dictionary.image_of_looks looks dict world.file

theorem Bounds.step_other (bounds : world.Bounds who contents) (theirs : turn.who ≠ who)
    (looks : turn.Looks) :
    (world.step turn).Bounds who contents ∧ (world.step turn).handle? who = world.handle? who := by
  have same : (world.step turn).handle? who = world.handle? who := handle?_step (Ne.symm theirs)
  refine ⟨⟨?_, ?_⟩, same⟩
  · rw [image_step bounds.holds looks]
    exact bounds.holds
  · rw [same]
    exact bounds.bounded

theorem Bounds.user (bounds : world.Bounds turn.who contents)
    (here : world.user? turn = some dict) : dict.session.Bounded contents := by
  obtain ⟨found, there, rfl⟩ := Option.map_eq_some_iff.mp here
  exact (bounds.bounded found there).withRoom turn.room

theorem asks_of_not_opens (other : ¬ turn.Opens) : ∃ command, turn.deed = .obey command := by
  unfold Turn.Opens at other
  cases asks : turn.deed with
  | «open» opening =>
      rw [asks] at other
      exact absurd trivial other
  | obey command => exact ⟨command, rfl⟩

theorem handle?_obey {command : Command} (asks : turn.deed = .obey command)
    (here : world.user? turn = some dict) {left : Dictionary}
    (there : (world.step turn).handle? turn.who = some left) :
    left = (dict.obey command world.file).2.1 := by
  rw [(obey_eq asks here rfl).2] at there
  exact Command.eq_of_next? ((Function.update_self turn.who _ world.handle?).symm.trans there)

theorem Bounds.step (bounds : world.Bounds who contents) (mine : turn.who = who)
    (other : ¬ turn.Opens) : ∃ after, (world.step turn).Bounds who after := by
  subst mine
  obtain ⟨command, asks⟩ := asks_of_not_opens other
  cases here : world.user? turn with
  | none =>
      rw [step_of_absent asks here]
      exact ⟨contents, bounds⟩
  | some dict =>
      obtain ⟨after, holds, bounded⟩ :=
        Dictionary.obey_confined ⟨contents, bounds.holds, bounds.user here⟩ command
      refine ⟨after, ?_, fun left there => ?_⟩
      · rw [(obey_eq asks here rfl).2]
        exact holds
      · rw [handle?_obey asks here there]
        exact bounded

theorem Bounds.of_run (bounds : world.Bounds who contents) (alone : SoleWriter who turns) :
    ∃ after, (run turns world).Bounds who after := by
  induction turns generalizing world contents with
  | nil => exact ⟨contents, bounds⟩
  | cons turn rest ih =>
      obtain ⟨mine, theirs⟩ := alone turn List.mem_cons_self
      have later := fun later member => alone later (List.mem_cons_of_mem turn member)
      by_cases same : turn.who = who
      · obtain ⟨after, stepped⟩ := bounds.step same (mine same)
        exact ih stepped later
      · exact ih (bounds.step_other same (theirs same)).1 later

theorem next?_of_succeeds {command : Command} {file : SharedFile}
    (succeeds : (dict.obey command file).1.Succeeds) (left : Dictionary) :
    command.next? left = some left := by
  cases command with
  | perform _ => rfl
  | scan _ => rfl
  | commit => rfl
  | close => exact succeeds.elim
  | drop => exact succeeds.elim

structure Wrote (world : Handles) (who : Descriptor) (contents : Contents) (turns : List Turn)
    (dict : Dictionary) (last : Handles) (left : Dictionary) : Prop where
  bounds : last.Bounds who contents
  here : last.handle? who = some left
  profile_eq : left.profile = dict.profile
  shelf_eq : left.shelf contents = written who dict.profile turns (dict.shelf contents)
  fits : (dict.shelf contents).records.encodedLength ≤ contents.capacity ∨
      Sometime (Stores who) turns world →
    (left.shelf contents).records.encodedLength ≤ contents.capacity

theorem Bounds.step_writes (bounds : world.Bounds who contents) (mine : turn.who = who)
    (here : world.handle? who = some dict) (writes : world.Writes who turn) :
    ∃ left, world.Wrote who contents [turn] dict (world.step turn) left := by
  subst mine
  obtain ⟨result, resulted, succeeds⟩ := writes rfl
  have user : world.user? turn = some (dict.withRoom turn.room) := by
    unfold user?
    rw [here]
    rfl
  cases asks : turn.deed with
  | «open» opening =>
      unfold result? at resulted
      rw [asks] at resulted
      cases resulted
  | obey command =>
      obtain ⟨resultEq, stepped⟩ := obey_eq asks user rfl
      rw [resultEq] at resulted
      cases resulted
      have furthers := Dictionary.obey_furthers (bounds.user user) bounds.holds succeeds
      have left : (world.step turn).handle? turn.who =
          some ((dict.withRoom turn.room).obey command world.file).2.1 := by
        rw [stepped]
        change Function.update _ _ _ _ = _
        rw [Function.update_self]
        exact next?_of_succeeds succeeds _
      refine ⟨_, ⟨?_, fun found there => ?_⟩, left, furthers.profile_eq, ?_, ?_⟩
      · rw [stepped]
        exact furthers.holds
      · rw [left] at there
        cases there
        exact furthers.bounded
      · unfold written written
        rw [asks]
        dsimp only
        rw [if_pos rfl]
        exact furthers.shelf_eq
      · intro before
        apply furthers.fits
        rcases before with room | ⟨_, stores⟩ | later
        · exact Or.inr room
        · rw [resultEq] at stores
          exact Or.inl (Option.some.inj stores)
        · exact later.elim

theorem Bounds.step_looks (bounds : world.Bounds who contents) (theirs : turn.who ≠ who)
    (here : world.handle? who = some dict) (looks : turn.Looks) :
    world.Wrote who contents [turn] dict (world.step turn) dict := by
  obtain ⟨bounds', same⟩ := bounds.step_other theirs looks
  refine ⟨bounds', same.trans here, rfl, ?_, ?_⟩
  · unfold written written
    cases turn.deed with
    | «open» opening => rfl
    | obey command => exact (congrArg (Dictionary.shelf dict contents = ·) (if_neg theirs)).mpr rfl
  · rintro (room | ⟨mine, _⟩ | later)
    · exact room
    · exact absurd mine theirs
    · exact later.elim

theorem Wrote.cons {middle left : Dictionary}
    (first : world.Wrote who contents [turn] dict (world.step turn) middle)
    (later : (world.step turn).Wrote who contents turns middle last left) :
    world.Wrote who contents (turn :: turns) dict last left where
  bounds := later.bounds
  here := later.here
  profile_eq := later.profile_eq.trans first.profile_eq
  shelf_eq := by
    rw [later.shelf_eq, first.profile_eq, first.shelf_eq]
    rfl
  fits := by
    rintro (room | stores | stores)
    · exact later.fits (Or.inl (first.fits (Or.inl room)))
    · exact later.fits (Or.inl (first.fits (Or.inr (Or.inl stores))))
    · exact later.fits (Or.inr stores)

/-- While the commands of the writer succeed and none is a commit, the file keeps what it holds,
and the writes wait on the shelf. -/
theorem Bounds.run_writes (bounds : world.Bounds who contents) (alone : SoleWriter who turns)
    (here : world.handle? who = some dict) (writes : Along Handles.step (Writes who) turns world) :
    ∃ left, world.Wrote who contents turns dict (run turns world) left := by
  -- `contents` stays fixed, and the handle is that which the turns before have left.
  induction turns generalizing world dict with
  | nil =>
      refine ⟨dict, bounds, here, rfl, rfl, ?_⟩
      rintro (room | never)
      · exact room
      · exact never.elim
  | cons turn rest ih =>
      have rests := fun later member => alone later (List.mem_cons_of_mem turn member)
      obtain ⟨middle, first⟩ :
          ∃ middle, world.Wrote who contents [turn] dict (world.step turn) middle := by
        by_cases same : turn.who = who
        · exact bounds.step_writes same here writes.1
        · exact ⟨dict, bounds.step_looks same here ((alone turn List.mem_cons_self).2 same)⟩
      obtain ⟨left, later⟩ := ih first.bounds rests first.here writes.2
      exact ⟨left, first.cons later⟩

/-- A bulk handle is opened for writing, and from then on nobody else writes. It comes to a world in
which nothing is pending. Then its commands succeed up to the last world, and none of them is a
commit. -/
structure Fills (start : Handles) (opening : Turn) (earlier : List Turn) (world : Handles)
    (asked : List Turn) (last : Handles) : Prop where
  usable : start.file.image.Usable
  opens : ∃ how : Opening, opening.deed = .open how ∧ how.flags.bulk = true ∧
    how.mode.canWrite = true ∧
      ∃ dict file, how.run opening.who opening.room start.file = (.ok dict, file)
  alone : SoleWriter opening.who (earlier ++ asked)
  begins : run earlier (start.step opening) = world
  idle : ∀ dict, world.handle? opening.who = some dict → dict.session.pending? = none
  succeeds : Along step (Writes opening.who) asked world
  ends : run asked world = last

variable {opening : Turn} {earlier asked : List Turn}

theorem Fills.bounds (fills : start.Fills opening earlier world asked last) :
    ∃ contents, (start.step opening).Bounds opening.who contents := by
  obtain ⟨how, opens, bulk, writes, dict, file, ran⟩ := fills.opens
  have stepped : start.step opening =
      ⟨file, Function.update start.handle? opening.who (some dict)⟩ := by
    unfold step
    rw [opens]
    dsimp only
    rw [ran]
  unfold Opening.run at ran
  cases made : Dictionary.newSession how.config with
  | error failure =>
      rw [made] at ran
      cases ran
  | ok session =>
      rw [made] at ran
      obtain ⟨contents, opened, _⟩ := Dictionary.open_opened made fills.usable ran
      have drafts : dict.session.Drafts contents 0 :=
        ⟨opened.bulk_eq.trans bulk, opened.follows, opened.writer writes⟩
      rw [stepped]
      refine ⟨contents, opened.holds, fun found there => ?_⟩
      change Function.update _ _ _ _ = _ at there
      rw [Function.update_self] at there
      cases there
      exact Session.bounded_of_idle drafts opened.idle

/-- What committing or closing comes to in the last world: whatever memory there is to map, what the
writer has written since `world`, where it was `dict`, is published, if there is room for it beside
the committed payload. There is if the writer has stored something. -/
def Settles (world : Handles) (who : Descriptor) (dict : Dictionary) (asked : List Turn)
    (last : Handles) : Prop :=
  ∃ before writes, world.file.image.Holds before ∧
    writes = (written who dict.profile asked ⟨dict.encoding, before.records⟩).records ∧
    (Sometime (Stores who) asked world → writes.encodedLength ≤ before.capacity) ∧
    ∀ room command, command.Commits → ∃ left result after,
      last.user? ⟨who, .obey command, room⟩ = some left ∧
      last.result? ⟨who, .obey command, room⟩ =
        some (.committed (result.mapError (.ofEngine .committing dict.label))) ∧
      (last.step ⟨who, .obey command, room⟩).file.image.Holds after ∧
      Closes before writes (left.session.pending? = none) (left.session.Growable before)
        (Session.nextSize left.session.config before.header.mapSize) result after

theorem Fills.settles (fills : start.Fills opening earlier world asked last) {dict : Dictionary}
    (here : world.handle? opening.who = some dict) :
    world.Settles opening.who dict asked last := by
  obtain ⟨contents, opened⟩ := fills.bounds
  obtain ⟨before, bounds⟩ := opened.of_run
    fun turn member => fills.alone turn (List.mem_append_left asked member)
  rw [fills.begins] at bounds
  obtain ⟨left, wrote⟩ := bounds.run_writes
    (fun turn member => fills.alone turn (List.mem_append_right earlier member)) here
    fills.succeeds
  rw [fills.ends] at wrote
  have shelfEq : dict.shelf before = ⟨dict.encoding, before.records⟩ := by
    unfold Dictionary.shelf
    rw [Session.draft_of_idle (fills.idle dict here)]
  have fits := wrote.fits
  rw [wrote.shelf_eq, shelfEq] at fits
  refine ⟨before, _, bounds.holds, rfl, fun stores => fits (Or.inr stores), ?_⟩
  intro room command commits
  have user : last.user? ⟨opening.who, .obey command, room⟩ = some (left.withRoom room) := by
    unfold user?
    rw [wrote.here]
    rfl
  have labelEq : (left.withRoom room).label = dict.label :=
    congrArg Profile.label wrote.profile_eq
  have bounded : (left.withRoom room).session.Bounded before :=
    (wrote.bounds.bounded left wrote.here).withRoom room
  obtain ⟨result, after, resultEq, holds, closes⟩ :=
    Dictionary.obey_closes bounded wrote.bounds.holds commits
  obtain ⟨resulted, stepped⟩ := obey_eq rfl user rfl
  have writtenEq : (left.withRoom room).shelf before =
      written opening.who dict.profile asked ⟨dict.encoding, before.records⟩ := by
    rw [← shelfEq]
    exact wrote.shelf_eq
  rw [writtenEq] at closes
  refine ⟨left.withRoom room, result, after, user, ?_, ?_, closes⟩
  · rw [labelEq] at resultEq
    exact resulted.trans (congrArg some resultEq)
  · rw [stepped]
    exact holds

end Handles

/-- A writer that commits or closes after successes publishes what it has written, if there is room
for it. This holds of sessions in bulk mode and of bulk handles. -/
theorem closing_settles :
    (∀ {start world last : Sessions} {opening : Sessions.Request}
        {earlier asked : List Sessions.Request},
      start.Fills opening earlier world asked last → world.Settles opening.who asked last) ∧
    (∀ {start world last : Handles} {opening : Handles.Turn} {earlier asked : List Handles.Turn}
        {dict : Dictionary},
      start.Fills opening earlier world asked last → world.handle? opening.who = some dict →
        world.Settles opening.who dict asked last) :=
  ⟨fun fills => fills.settles, fun fills here => fills.settles here⟩

/-! ### Closing after something was stored -/

namespace Sessions

def opensInBulk : Request :=
  ⟨0, .open "x.mdb" { create := true } true, 65536⟩

/-- The writer removes one of the two records that it has put, and another session looks. -/
def putTwice : List Request :=
  [⟨0, .put [107] [118] false, 65536⟩, ⟨1, .open "x.mdb" { readOnly := true } false, 65536⟩,
    ⟨0, .put [108] [119] true, 65536⟩, ⟨1, .seek .first, 65536⟩, ⟨0, .delete [107], 65536⟩]

def begun : Sessions :=
  (small Image.empty).step opensInBulk

def filled : Sessions :=
  run putTwice begun

def writer : Session :=
  (filled.session 0).withRoom 65536

set_option maxRecDepth 20000 in
theorem fills_putTwice :
    (small Image.empty).Fills opensInBulk [] begun putTwice filled where
  usable := Or.inl rfl
  valid := ⟨by decide, by decide, by decide⟩
  opens := ⟨_, _, rfl, rfl⟩
  opened := by decide +kernel
  alone := by
    intro request member
    simp only [putTwice, List.nil_append, List.mem_cons, List.not_mem_nil, or_false] at member
    rcases member with rfl | rfl | rfl | rfl | rfl
    · exact ⟨fun _ opens => opens, fun other => absurd rfl other⟩
    · exact ⟨fun same => absurd same (by decide), fun _ => rfl⟩
    · exact ⟨fun _ opens => opens, fun other => absurd rfl other⟩
    · exact ⟨fun same => absurd same (by decide), fun _ => trivial⟩
    · exact ⟨fun _ opens => opens, fun other => absurd rfl other⟩
  begins := rfl
  idle := rfl
  succeeds := by
    have replied : ∀ {reply reply' : Session.Reply}, reply = reply' →
        (∀ failure, reply' ≠ .failed failure) → ¬ reply.Failed := by
      rintro _ _ rfl other ⟨failure, failed⟩
      exact other failure failed
    have put₁ : begun.reply ⟨0, .put [107] [118] false, 65536⟩ = .done := by decide +kernel
    have put₂ : (run (putTwice.take 2) begun).reply ⟨0, .put [108] [119] true, 65536⟩ = .done := by
      decide +kernel
    have deleted : (run (putTwice.take 4) begun).reply ⟨0, .delete [107], 65536⟩ =
        .found true := by
      decide +kernel
    exact ⟨fun _ => ⟨nofun, replied put₁ nofun⟩, fun same => absurd same (by decide),
      fun _ => ⟨nofun, replied put₂ nofun⟩, fun same => absurd same (by decide),
      fun _ => ⟨nofun, replied deleted nofun⟩, trivial⟩
  ends := rfl

def largeCommitted : List Request :=
  [opensInBulk, ⟨0, .put [107] (List.replicate 3000 118) false, 65536⟩, ⟨0, .commit, 65536⟩]

end Sessions

namespace Handles

def storedOnce : List Turn :=
  [updates 3 "a" [49], looksUp 3 "a"]

def closes (who : Descriptor) : Turn :=
  ⟨who, .obey .close, 65536⟩

def begun : Handles :=
  untouched.step (opens 3 .create { bulk := true })

def filled : Handles :=
  run storedOnce begun

theorem fills_storedOnce :
    untouched.Fills (opens 3 .create { bulk := true }) [] begun storedOnce filled where
  usable := Or.inl rfl
  opens := ⟨_, rfl, rfl, rfl, _, _, Dictionary.eq_ok_get _ (by decide +kernel)⟩
  alone := by
    intro turn member
    simp only [storedOnce, List.nil_append, List.mem_cons, List.not_mem_nil, or_false] at member
    rcases member with rfl | rfl
    · exact ⟨fun _ opens => opens, fun other => absurd rfl other⟩
    · exact ⟨fun _ opens => opens, fun other => absurd rfl other⟩
  begins := List.foldl_nil
  idle := fun dict here => eq_of_map_eq here (·.session.pending?) (by decide +kernel)
  succeeds := ⟨fun _ => ⟨.answered (.ok (.updated .stored)), by decide +kernel, trivial⟩,
    fun _ => ⟨.answered (.ok (.value (some [49]))), by decide +kernel, trivial⟩, trivial⟩
  ends := rfl

def largeStored : List Turn :=
  [opens 3 .create { bulk := true }, updates 3 "a" (List.replicate 3000 118), commits 3]

end Handles

set_option maxRecDepth 20000 in
/-- Both writers publish what they have stored and not removed. -/
theorem closing_settles_storedOnce :
    (∀ publish ∈ [Session.commit, Session.close],
      (publish Sessions.writer Sessions.filled.file).1 = .ok () ∧
        (publish Sessions.writer Sessions.filled.file).2.2.committed =
          .ok (Records.empty.insert [108] [119])) ∧
    Handles.filled.result? (Handles.closes 3) = some (.committed (.ok ())) ∧
      (Handles.filled.step (Handles.closes 3)).file.image.committed =
        .ok (Records.empty.insert [97] [49]) := by
  constructor
  · obtain ⟨before, holds, fits, settles⟩ := closing_settles.1 Sessions.fills_putTwice
    have empty : Sessions.begun.file.committed = .ok Records.empty := by decide +kernel
    rw [holds.committed_eq] at empty
    have written : Sessions.written 0 Sessions.putTwice before.records =
        Records.empty.insert [108] [119] := by
      rw [Except.ok.inj empty]
      decide +kernel
    have room := fits ⟨_, List.mem_cons_self, rfl, trivial⟩
    intro publish finishes
    obtain ⟨after, holds', closes⟩ := settles 65536 Sessions.writer rfl publish finishes
    obtain ⟨done, recordsEq, _⟩ := closes.published_of_fits room
    exact ⟨done, holds'.committed_eq.trans (congrArg Except.ok (recordsEq.trans written))⟩
  · obtain ⟨dict, here⟩ := Option.isSome_iff_exists.mp
      (show (Handles.begun.handle? 3).isSome = true by decide +kernel)
    obtain ⟨before, writes, holds, writesEq, fits, settles⟩ :=
      closing_settles.2 Handles.fills_storedOnce here
    have empty : Handles.begun.file.image.committed = .ok Records.empty := by decide +kernel
    rw [holds.committed_eq] at empty
    have written : writes = Records.empty.insert [97] [49] := by
      rw [writesEq, Except.ok.inj empty]
      exact Handles.eq_of_map_eq here (fun dict => (Handles.written 3 dict.profile
        Handles.storedOnce ⟨dict.encoding, Records.empty⟩).records) (by decide +kernel)
    have stored : Handles.begun.result? (Handles.updates 3 "a" [49]) =
        some (.answered (.ok (.updated .stored))) := by
      decide +kernel
    have room := fits (Or.inl ⟨rfl, stored⟩)
    obtain ⟨left, result, after, _, resulted, holds', closes⟩ := settles 65536 .close trivial
    obtain ⟨rfl, recordsEq, _⟩ := closes.published_of_fits room
    exact ⟨resulted, holds'.committed_eq.trans (congrArg Except.ok (recordsEq.trans written))⟩

set_option maxRecDepth 20000 in
/-- A writer that has only read since its last commit cannot close if there is no room for the
records beside themselves. -/
theorem largeCommitted_and_largeStored_outgrown :
    ((Sessions.run Sessions.largeCommitted (Sessions.small Image.empty)).reply
        ⟨0, .get [107], 65536⟩ = .value (some (List.replicate 3000 118)) ∧
      ((Sessions.run Sessions.largeCommitted (Sessions.small Image.empty)).step
        ⟨0, .get [107], 65536⟩).reply ⟨0, .commit, 65536⟩ = .failed .retry) ∧
    (Handles.run Handles.largeStored Handles.untouched).result? (Handles.looksUp 3 "a") =
        some (.answered (.ok (.value (some (List.replicate 3000 118))))) ∧
      ((Handles.run Handles.largeStored Handles.untouched).step
        (Handles.looksUp 3 "a")).result? (Handles.closes 3) =
          some (.committed (.error (.retry "mapstore:t"))) := by
  refine ⟨⟨?_, ?_⟩, ?_, ?_⟩
  · decide +kernel
  · decide +kernel
  · decide +kernel
  · decide +kernel

end RecordFile
