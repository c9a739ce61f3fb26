/-
What a command to one of several handles leaves behind.

A handle asks its session once for each form that it tries. Every call of the session spares
the records that it is not for, and so does the command. This holds in bulk mode and outside
it, for handles that have settled on a form and for others.
-/

import RecordFile.Proofs.Dictionary.BulkHandle
import RecordFile.Proofs.Session.Writers

namespace RecordFile

namespace Dictionary

open Session (Call Reply)

inductive Command where
  | perform (operation : Operation)
  | scan (move : CursorMove)
  | commit
  | close
  /-- Give it up. Nothing is published. -/
  | drop

inductive Result where
  | answered (result : Except DictionaryError Answer)
  | scanned (result : Except DictionaryError (Option Record))
  | committed (result : Except DictionaryError Unit)
  | dropped
  deriving DecidableEq

def obey (dict : Dictionary) (command : Command) (file : SharedFile) :
    Result × Dictionary × SharedFile :=
  match command with
  | .perform operation =>
      let outcome := dict.perform operation file
      (.answered outcome.1, outcome.2)
  | .scan move =>
      let outcome := dict.sequence move file
      (.scanned outcome.1, outcome.2)
  | .commit =>
      let outcome := dict.commit file
      (.committed outcome.1, outcome.2)
  | .close =>
      let outcome := dict.close file
      (.committed outcome.1, outcome.2)
  | .drop => (.dropped, dict, file)

def Command.next? (dict : Dictionary) : Command → Option Dictionary
  | .close => none
  | .drop => none
  | _ => some dict

def Command.Commits : Command → Prop
  | .commit => True
  | .close => True
  | _ => False

def keyIn (dict : Dictionary) (form : Form) (name : String) : Bytes :=
  form.encode (Bytes.ofText (dict.fold name))

/-- The command may store or delete the record with this key. -/
def Command.Means (dict : Dictionary) (key : Bytes) : Command → Prop
  | .perform (.update name _) => key = dict.keyIn (dict.encoding.formToWrite dict.defaultForm) name
  | .perform (.delete name) => ∃ form ∈ dict.encoding.candidates, key = dict.keyIn form name
  | _ => False

def PublishesDraft (dict : Dictionary) (command : Command) (result : Result) : Prop :=
  dict.session.bulk = true ∧ command.Commits ∧ result = .committed (.ok ())

/-- The command restarts a bulk transaction over a map smaller than the one in the header. -/
def CutsBack (dict : Dictionary) (command : Command) (image : Image) : Prop :=
  match command with
  | .perform (.update name value) =>
      let form := dict.encoding.formToWrite dict.defaultForm
      dict.session.CutsBack
        (.put (dict.keyIn form name) (form.encode value) (!dict.policy.overwrites)) image
  | .commit => dict.session.CutsBack .commit image
  | .close => dict.session.CutsBack .commit image
  | _ => False

structure Wrote (dict : Dictionary) (image : Image) (contents : Contents) (age : Nat)
    (means : Bytes → Prop) (publishes : Prop) (bumps : Nat) (dict' : Dictionary)
    (image' : Image) (after : Contents) : Prop where
  advances : Advances bumps image contents image' after
  writer : dict'.session.Writer after (age + bumps)
  bulk_eq : dict'.session.bulk = dict.session.bulk
  profile_eq : dict'.profile = dict.profile
  stays : ∀ form, dict.encoding = .settled form → dict'.encoding = .settled form
  spares : ∀ key value, ¬ means key → contents.records.find? key = some value →
    dict.session.Spares contents publishes dict'.session after key value

variable {dict dict' dict'' : Dictionary} {file file' : SharedFile} {contents after last : Contents}
  {image image' image'' : Image} {age bumps bumps' : Nat} {means means' : Bytes → Prop}
  {publishes : Prop} {key value : Bytes}

theorem Wrote.refl (holds : image.Holds contents) (writer : dict.session.Writer contents age) :
    dict.Wrote image contents age means False 0 dict image contents where
  advances := .refl holds
  writer := writer
  bulk_eq := rfl
  profile_eq := rfl
  stays := fun _ settled => settled
  spares := fun _ _ _ stored => ⟨fun _ => stored, id⟩

theorem Wrote.trans (first : dict.Wrote image contents age means False bumps dict' image' after)
    (second : dict'.Wrote image' after (age + bumps) means' publishes bumps' dict'' image'' last) :
    dict.Wrote image contents age (fun key => means key ∨ means' key) publishes (bumps + bumps')
      dict'' image'' last where
  advances := first.advances.trans second.advances
  writer := by
    rw [← Nat.add_assoc]
    exact second.writer
  bulk_eq := second.bulk_eq.trans first.bulk_eq
  profile_eq := second.profile_eq.trans first.profile_eq
  stays := fun form settled => second.stays form (first.stays form settled)
  spares := by
    intro key value spared stored
    have here := first.spares key value (fun meant => spared (Or.inl meant)) stored
    exact here.trans (second.spares key value (fun meant => spared (Or.inr meant))
      (here.committed False.elim))

theorem Wrote.weaken
    (wrote : dict.Wrote image contents age means publishes bumps dict' image' after)
    (more : ∀ key, means key → means' key) {publishes' : Prop} (still : publishes → publishes') :
    dict.Wrote image contents age means' publishes' bumps dict' image' after where
  advances := wrote.advances
  writer := wrote.writer
  bulk_eq := wrote.bulk_eq
  profile_eq := wrote.profile_eq
  stays := wrote.stays
  spares := by
    intro key value spared stored
    have spares := wrote.spares key value (fun meant => spared (more key meant)) stored
    exact ⟨fun drafted => spares.committed fun published => drafted (still published),
      spares.draft⟩

/-- The log and what there is to add to it may be others, and so may the encoding if a settled
one is kept. -/
theorem Wrote.relabel
    (wrote : dict.Wrote image contents age means publishes bumps dict' image' after)
    {notifications : List Notification}
    (sessionEq : dict''.session = { dict'.session with notifications := notifications })
    (profileEq : dict''.profile = dict'.profile)
    (stays : ∀ form, dict'.encoding = .settled form → dict''.encoding = .settled form) :
    dict.Wrote image contents age means publishes bumps dict'' image' after where
  advances := wrote.advances
  writer := sessionEq ▸ wrote.writer.withNotifications notifications
  bulk_eq := sessionEq ▸ wrote.bulk_eq
  profile_eq := profileEq.trans wrote.profile_eq
  stays := fun form settled => stays form (wrote.stays form settled)
  spares := by
    intro key value spared stored
    rw [sessionEq]
    have spares := wrote.spares key value spared stored
    exact ⟨spares.committed, spares.draft⟩

/-! ### The engine -/

/-- Every use of the engine is a call of the session. -/
theorem engine_wrote {α : Type} (holds : file.image.Holds contents)
    (writer : dict.session.Writer contents age) (recent : age < UInt64.size) (name : EngineCall)
    (run : Session → Image → Except EngineError α × Session × Image) (call : Call)
    (answer : α → Reply) (other : ∀ path flags bulk, call ≠ .open path flags bulk)
    (acts : ∀ session image, session.act call 0 image =
      (Reply.of answer (run session image).1, (run session image).2))
    (safe : ¬ dict.session.CutsBack call file.image) :
    ∃ result dict' file' bumps after, dict.engine name run file = (result, dict', file') ∧
      dict'.encoding = dict.encoding ∧ bumps ≤ 1 ∧
      dict.Wrote file.image contents age (fun key => call.Touches key)
        (call = .commit ∧ Reply.of answer result = .done) bumps dict' file'.image after ∧
      ∃ session', dict.session.act call 0 file.image =
        (Reply.of answer result, session', file'.image) := by
  obtain ⟨bumps, after, wrote⟩ := Session.act_wrote holds writer recent 0 other safe
  rw [acts] at wrote ⊢
  rcases ran : run dict.session file.image with ⟨result, session', image'⟩
  rw [ran] at wrote
  obtain ⟨dict', file', engaged, same, sessionEq, imageEq⟩ := dict.engine_eq name run file ran
  refine ⟨result, dict', file', bumps, after, engaged, same.encoding_eq, wrote.once, ?_, session',
    by rw [imageEq]⟩
  rw [imageEq]
  constructor
  · exact wrote.advances
  · rw [sessionEq]
    exact wrote.writer.withNotifications []
  · rw [sessionEq]
    exact wrote.bulk_eq
  · exact same.profile_eq
  · intro form settled
    rw [same.encoding_eq]
    exact settled
  · intro key value spared stored
    rw [sessionEq]
    have spares := wrote.spares key value spared stored
    exact ⟨spares.committed, spares.draft⟩

/-! ### One form after another -/

def AttemptWrote {α : Type} (touches : Bytes → Bytes → Prop)
    (attempt : Bytes → Dictionary → SharedFile →
      Except EngineError (Option α) × Dictionary × SharedFile) : Prop :=
  ∀ key dict file contents age, file.image.Holds contents → dict.session.Writer contents age →
    age < UInt64.size → ∃ result dict' file' bumps after,
      attempt key dict file = (result, dict', file') ∧ bumps ≤ 1 ∧
      dict.Wrote file.image contents age (touches key) False bumps dict' file'.image after

theorem fetch_wrote : AttemptWrote (fun _ _ => False) fetch := by
  intro key dict file contents age holds writer recent
  obtain ⟨result, dict', file', bumps, after, ran, _, once, wrote, _⟩ :=
    engine_wrote holds writer recent .get
      (fun session image => ((session.get key image).1, (session.get key image).2, image))
      (.get key) .value (by simp) (fun _ _ => rfl) (fun cuts => cuts.1)
  exact ⟨result, dict', file', bumps, after, ran, once, wrote.weaken (fun _ => id) (by simp)⟩

theorem remove_wrote : AttemptWrote (fun key other => key = other) remove := by
  intro key dict file contents age holds writer recent
  obtain ⟨result, dict', file', bumps, after, ran, _, once, wrote, _⟩ :=
    engine_wrote holds writer recent .delete (removal key) (.delete key)
      (fun hit? => .found hit?.isSome) (by simp) (act_delete key) (fun cuts => cuts.1)
  exact ⟨result, dict', file', bumps, after, ran, once, wrote.weaken (fun _ => id) (by simp)⟩

theorem tryForms_wrote {α : Type} (action : EngineAction) {touches : Bytes → Bytes → Prop}
    {attempt : Bytes → Dictionary → SharedFile →
      Except EngineError (Option α) × Dictionary × SharedFile}
    (attempts : AttemptWrote touches attempt) (key : Bytes) (forms : List Form)
    (holds : file.image.Holds contents) (writer : dict.session.Writer contents age)
    (recent : age + forms.length ≤ UInt64.size) :
    ∃ result dict' file' bumps after,
      tryForms key action attempt forms dict file = (result, dict', file') ∧
      bumps ≤ forms.length ∧
      dict.Wrote file.image contents age
        (fun other => ∃ form ∈ forms, touches (form.encode key) other)
        False bumps dict' file'.image after := by
  induction forms generalizing dict file contents age with
  | nil => exact ⟨_, dict, file, 0, contents, rfl, Nat.le_refl 0, .refl holds writer⟩
  | cons form rest ih =>
      rw [List.length_cons] at recent ⊢
      obtain ⟨result, dict', file', bumps, after, tried, once, wrote⟩ :=
        attempts (form.encode key) dict file contents age holds writer (by omega)
      have here : ∀ other, touches (form.encode key) other →
          ∃ found ∈ form :: rest, touches (found.encode key) other :=
        fun other touched => ⟨form, List.mem_cons_self, touched⟩
      unfold tryForms
      rw [tried]
      cases result with
      | error failure =>
          exact ⟨_, dict', file', bumps, after, rfl, by omega, wrote.weaken here id⟩
      | ok hit? =>
          cases hit? with
          | none =>
              obtain ⟨result, dict'', file'', bumps', last, ran, few, later⟩ :=
                ih wrote.advances.holds wrote.writer (by omega)
              refine ⟨result, dict'', file'', bumps + bumps', last, ran, by omega,
                (wrote.trans later).weaken ?_ id⟩
              rintro other (touched | ⟨found, member, touched⟩)
              · exact here other touched
              · exact ⟨found, List.mem_cons_of_mem form member, touched⟩
          | some hit =>
              refine ⟨_, _, file', bumps, after, rfl, by omega,
                (wrote.weaken here id).relabel rfl rfl ?_⟩
              intro settled same
              dsimp only
              rw [same]
              rfl

/-! ### Commands -/

theorem length_candidates (encoding : Encoding) : encoding.candidates.length ≤ 2 := by
  cases encoding with
  | undecided => exact Nat.le_refl 2
  | settled form => exact Nat.le_succ 1

theorem lookup_wrote (holds : file.image.Holds contents)
    (writer : dict.session.Writer contents age) (recent : age + 2 ≤ UInt64.size) (name : String) :
    ∃ result dict' file' bumps after, dict.lookup name file = (result, dict', file') ∧ bumps ≤ 2 ∧
      dict.Wrote file.image contents age (fun _ => False) False bumps dict' file'.image after := by
  have few := length_candidates dict.encoding
  rw [← image_lock dict .shared file] at holds
  obtain ⟨found, dict', file', bumps, after, ran, counted, wrote⟩ :=
    tryForms_wrote .reading fetch_wrote (Bytes.ofText (dict.fold name)) dict.encoding.candidates
      holds writer (by omega)
  unfold lookup locked
  dsimp only
  rw [ran]
  rw [image_lock] at wrote
  cases found with
  | error failure =>
      refine ⟨_, dict', _, bumps, after, rfl, by omega, ?_⟩
      rw [image_unlock]
      exact wrote.weaken (by simp) id
  | ok value? =>
      refine ⟨_, dict', _, bumps, after, rfl, by omega, ?_⟩
      rw [image_unlock]
      exact wrote.weaken (by simp) id

theorem delete_wrote (holds : file.image.Holds contents)
    (writer : dict.session.Writer contents age) (recent : age + 2 ≤ UInt64.size) (name : String) :
    ∃ result dict' file' bumps after, dict.delete name file = (result, dict', file') ∧ bumps ≤ 2 ∧
      dict.Wrote file.image contents age
        (fun key => ∃ form ∈ dict.encoding.candidates, key = dict.keyIn form name) False bumps dict'
        file'.image after := by
  have few := length_candidates dict.encoding
  rw [← image_lock dict .exclusive file] at holds
  obtain ⟨found, dict', file', bumps, after, ran, counted, wrote⟩ :=
    tryForms_wrote .deletingFrom remove_wrote (Bytes.ofText (dict.fold name))
      dict.encoding.candidates holds writer (by omega)
  have means : ∀ key, (∃ form ∈ dict.encoding.candidates,
      form.encode (Bytes.ofText (dict.fold name)) = key) →
        ∃ form ∈ dict.encoding.candidates, key = dict.keyIn form name :=
    fun key ⟨form, member, same⟩ => ⟨form, member, same.symm⟩
  unfold delete locked
  dsimp only
  rw [ran]
  rw [image_lock] at wrote
  cases found with
  | error failure =>
      refine ⟨_, dict', _, bumps, after, rfl, by omega, ?_⟩
      rw [image_unlock]
      exact wrote.weaken means id
  | ok hit? =>
      refine ⟨_, dict', _, bumps, after, rfl, by omega, ?_⟩
      rw [image_unlock]
      exact wrote.weaken means id

theorem sequence_wrote (holds : file.image.Holds contents)
    (writer : dict.session.Writer contents age) (recent : age < UInt64.size) (move : CursorMove) :
    ∃ result dict' file' bumps after, dict.sequence move file = (result, dict', file') ∧
      bumps ≤ 1 ∧
      dict.Wrote file.image contents age (fun _ => False) False bumps dict' file'.image after := by
  rw [← image_lock dict .shared file] at holds
  obtain ⟨found, dict', file', bumps, after, ran, _, once, wrote, _⟩ :=
    engine_wrote holds writer recent .seek
      (fun session image => ((session.seek move image).1, (session.seek move image).2, image))
      (.seek move) .record (by simp) (fun _ _ => rfl) (fun cuts => cuts.1)
  unfold sequence locked engineRead
  dsimp only
  rw [ran]
  rw [image_lock] at wrote
  cases found with
  | error failure =>
      refine ⟨_, dict', _, bumps, after, rfl, once, ?_⟩
      rw [image_unlock]
      exact wrote.weaken (fun _ => id) (by simp)
  | ok record? =>
      refine ⟨_, dict', _, bumps, after, rfl, once, ?_⟩
      rw [image_unlock]
      exact wrote.weaken (fun _ => id) (by simp)

theorem updateResult_same (dict : Dictionary) (key : String) (stored : Except EngineError Unit) :
    ∃ result dict', dict.updateResult key stored = (result, dict') ∧ dict.Same dict' ∧
      dict'.session = dict.session ∧ (result = .ok .stored → stored = .ok ()) := by
  unfold updateResult
  split
  · exact ⟨_, dict, rfl, .refl dict, rfl, fun _ => rfl⟩
  · cases dict.policy with
    | ignore => exact ⟨_, dict, rfl, .refl dict, rfl, nofun⟩
    | warn => exact ⟨_, _, rfl, ⟨rfl, rfl⟩, rfl, nofun⟩
    | fatal => exact ⟨_, dict, rfl, .refl dict, rfl, nofun⟩
    | replace => exact ⟨_, dict, rfl, .refl dict, rfl, nofun⟩
  · exact ⟨_, dict, rfl, .refl dict, rfl, nofun⟩

theorem session_updateResult (dict : Dictionary) (key : String)
    (stored : Except EngineError Unit) :
    (dict.updateResult key stored).2.session = dict.session := by
  obtain ⟨_, _, resulted, _, same, _⟩ := dict.updateResult_same key stored
  rw [resulted]
  exact same

theorem forWrite_of_settled {encoding : Encoding} {form : Form} (settled : encoding = .settled form)
    (default : Form) : encoding.forWrite default = .settled form := by
  rw [settled]
  rfl

/-- Outside bulk mode an update that is stored is committed. -/
theorem update_wrote (holds : file.image.Holds contents)
    (writer : dict.session.Writer contents age) (recent : age < UInt64.size) (name : String)
    (value : Bytes) (safe : ¬ dict.CutsBack (.perform (.update name value)) file.image) :
    ∃ result dict' file' bumps after, dict.update name value file = (result, dict', file') ∧
      bumps ≤ 1 ∧
      dict.Wrote file.image contents age
        (fun key => key = dict.keyIn (dict.encoding.formToWrite dict.defaultForm) name) False bumps
        dict' file'.image after ∧
      (dict.session.bulk = false → result = .ok .stored →
        after.records.find? (dict.keyIn (dict.encoding.formToWrite dict.defaultForm) name) =
          some ((dict.encoding.formToWrite dict.defaultForm).encode value)) := by
  obtain ⟨form, formEq⟩ : ∃ form, form = dict.encoding.formToWrite dict.defaultForm := ⟨_, rfl⟩
  obtain ⟨ready, readyEq⟩ : ∃ ready : Dictionary,
      ready = { dict with encoding := dict.encoding.forWrite dict.defaultForm } := ⟨_, rfl⟩
  obtain ⟨key, keyEq⟩ : ∃ key, key = dict.keyIn form name := ⟨_, rfl⟩
  have sessionEq : ready.session = dict.session := by rw [readyEq]
  have safe' : ¬ ready.session.CutsBack (.put key (form.encode value) (!ready.policy.overwrites))
      file.image := by
    rw [keyEq, formEq, readyEq]
    exact safe
  rw [← formEq, ← keyEq]
  rw [← sessionEq] at writer
  rw [← image_lock ready .exclusive file] at holds safe'
  have other : ∀ path flags bulk,
      Call.put key (form.encode value) (!ready.policy.overwrites) ≠ .open path flags bulk := by
    simp
  obtain ⟨stored, dict', file', bumps, after, ran, _, once, wrote, replied⟩ :=
    engine_wrote holds writer recent .put
      (fun session image => session.put key (form.encode value) (!ready.policy.overwrites) image)
      (.put key (form.encode value) (!ready.policy.overwrites)) (fun _ => .done) other
      (fun _ _ => rfl) safe'
  obtain ⟨result, last, resulted, same, lastSession, onlyStored⟩ :=
    dict'.updateResult_same (dict.fold name) stored
  have updated : dict.update name value file = (result, last, ready.unlock file') := by
    unfold update Dictionary.locked
    dsimp only
    unfold keyIn at keyEq
    rw [← formEq, ← keyEq, ← readyEq, ran]
    dsimp only
    rw [resulted]
  have began : dict.Wrote file.image contents age (fun _ => False) False 0 ready file.image
      contents := by
    rw [image_lock] at holds
    rw [sessionEq] at writer
    refine (Wrote.refl holds writer).relabel sessionEq (by rw [readyEq]; rfl) ?_
    intro form settled
    rw [readyEq]
    exact forWrite_of_settled settled dict.defaultForm
  refine ⟨result, last, _, bumps, after, updated, once, ?_, ?_⟩
  · rw [image_lock] at wrote
    rw [image_unlock]
    have whole := (began.trans wrote).relabel lastSession same.profile_eq fun form settled =>
      same.encoding_eq.trans settled
    rw [Nat.zero_add] at whole
    refine whole.weaken ?_ nofun
    rintro other (never | touched)
    · exact never.elim
    · exact touched.symm
  · intro single done
    rw [onlyStored done] at replied
    obtain ⟨session', acted⟩ := replied
    rw [← sessionEq] at single
    obtain ⟨env, found, _, answered⟩ := writer.answered holds single recent 0 other
    rw [acted] at answered
    have same := answered.holds.unique wrote.advances.holds
    subst same
    exact answered.stored rfl

theorem commit_wrote (holds : file.image.Holds contents)
    (writer : dict.session.Writer contents age) (recent : age < UInt64.size)
    (safe : ¬ dict.CutsBack .commit file.image) :
    ∃ result dict' file' bumps after, dict.commit file = (result, dict', file') ∧ bumps ≤ 1 ∧
      dict.Wrote file.image contents age (fun _ => False)
        (dict.session.bulk = true ∧ result = .ok ()) bumps dict' file'.image after := by
  unfold commit
  split
  · next bulk =>
      have safe' : ¬ dict.session.CutsBack .commit file.image := safe
      rw [← image_lock dict .exclusive file] at holds safe'
      obtain ⟨result, dict', file', bumps, after, ran, _, once, wrote, _⟩ :=
        engine_wrote holds writer recent .commit (fun session image => session.commit image)
          .commit (fun _ => .done) (by simp) (fun _ _ => rfl) safe'
      unfold locked
      dsimp only
      rw [ran]
      rw [image_lock] at wrote
      cases result with
      | error failure =>
          refine ⟨_, dict', _, bumps, after, rfl, once, ?_⟩
          rw [image_unlock]
          exact wrote.weaken (fun _ => id) nofun
      | ok done =>
          refine ⟨_, dict', _, bumps, after, rfl, once, ?_⟩
          rw [image_unlock]
          exact wrote.weaken (fun _ => id) fun _ => ⟨bulk, rfl⟩
  · exact ⟨_, dict, file, 0, contents, rfl, Nat.zero_le 1,
      (Wrote.refl holds writer).weaken (fun _ => id) False.elim⟩

/-- A close publishes what a commit does. -/
theorem close_wrote (holds : file.image.Holds contents)
    (writer : dict.session.Writer contents age) (recent : age < UInt64.size)
    (safe : ¬ dict.CutsBack .close file.image) :
    ∃ result dict' file' bumps after, dict.close file = (result, dict', file') ∧ bumps ≤ 1 ∧
      dict.Wrote file.image contents age (fun _ => False)
        (dict.session.bulk = true ∧ result = .ok ()) bumps dict' file'.image after := by
  obtain ⟨result, dict', file', bumps, after, committed, once, wrote⟩ :=
    commit_wrote holds writer recent safe
  obtain ⟨dict'', last, _, closed, same, sessionEq, imageEq⟩ :=
    close_of_commit writer.orderly committed
  refine ⟨result, dict'', last, bumps, after, closed, once, ?_⟩
  rw [imageEq]
  exact wrote.relabel sessionEq same.profile_eq fun form settled => same.encoding_eq.trans settled

/-- A command spares the records that it is not for, unless it publishes a draft without them. -/
theorem obey_wrote (holds : file.image.Holds contents)
    (writer : dict.session.Writer contents age) (recent : age + 2 ≤ UInt64.size)
    (command : Command) (safe : ¬ dict.CutsBack command file.image) :
    ∃ result dict' file' bumps after, dict.obey command file = (result, dict', file') ∧
      bumps ≤ 2 ∧
      dict.Wrote file.image contents age (fun key => command.Means dict key)
        (dict.PublishesDraft command result) bumps dict' file'.image after := by
  cases command with
  | perform operation =>
      cases operation with
      | lookup name =>
          obtain ⟨result, dict', file', bumps, after, ran, few, wrote⟩ :=
            lookup_wrote holds writer recent name
          unfold obey perform
          dsimp only
          rw [ran]
          exact ⟨_, dict', file', bumps, after, rfl, few, wrote.weaken (fun _ => id) False.elim⟩
      | update name value =>
          obtain ⟨result, dict', file', bumps, after, ran, once, wrote, _⟩ :=
            update_wrote holds writer (by omega) name value safe
          unfold obey perform
          dsimp only
          rw [ran]
          exact ⟨_, dict', file', bumps, after, rfl, by omega,
            wrote.weaken (fun _ => id) False.elim⟩
      | delete name =>
          obtain ⟨result, dict', file', bumps, after, ran, few, wrote⟩ :=
            delete_wrote holds writer recent name
          unfold obey perform
          dsimp only
          rw [ran]
          exact ⟨_, dict', file', bumps, after, rfl, few, wrote.weaken (fun _ => id) False.elim⟩
  | scan move =>
      obtain ⟨result, dict', file', bumps, after, ran, once, wrote⟩ :=
        sequence_wrote holds writer (by omega) move
      unfold obey
      dsimp only
      rw [ran]
      exact ⟨_, dict', file', bumps, after, rfl, by omega, wrote.weaken (fun _ => id) False.elim⟩
  | commit =>
      obtain ⟨result, dict', file', bumps, after, ran, once, wrote⟩ :=
        commit_wrote holds writer (by omega) safe
      unfold obey
      dsimp only
      rw [ran]
      refine ⟨_, dict', file', bumps, after, rfl, by omega, wrote.weaken (fun _ => id) ?_⟩
      rintro ⟨bulk, rfl⟩
      exact ⟨bulk, trivial, rfl⟩
  | close =>
      obtain ⟨result, dict', file', bumps, after, ran, once, wrote⟩ :=
        close_wrote holds writer (by omega) safe
      unfold obey
      dsimp only
      rw [ran]
      refine ⟨_, dict', file', bumps, after, rfl, by omega, wrote.weaken (fun _ => id) ?_⟩
      rintro ⟨bulk, rfl⟩
      exact ⟨bulk, trivial, rfl⟩
  | drop =>
      exact ⟨_, dict, file, 0, contents, rfl, Nat.zero_le 2,
        (Wrote.refl holds writer).weaken (fun _ => False.elim) False.elim⟩

theorem Command.eq_of_next? {command : Command} (left : command.next? dict = some dict') :
    dict' = dict := by
  cases command with
  | perform _ => exact (Option.some.inj left).symm
  | scan _ => exact (Option.some.inj left).symm
  | commit => exact (Option.some.inj left).symm
  | close => cases left
  | drop => cases left

/-! ### Looking up -/

/-- A handle that has settled on a form looks nowhere else. -/
theorem lookup_of_settled {form : Form} (settled : dict.encoding = .settled form) (name : String)
    {result : Except EngineError (Option Bytes)}
    (fetched : fetch (dict.keyIn form name) dict (dict.lock .shared file) = (result, dict', file'))
    (label : dict'.label = dict.label) :
    (dict.lookup name file).1 = match result with
      | .ok value? => .ok (value?.map Bytes.untilZero)
      | .error failure => .error (.ofEngine .reading dict.label failure) := by
  unfold keyIn at fetched
  unfold lookup locked
  dsimp only
  rw [settled]
  unfold Encoding.candidates tryForms
  rw [fetched]
  cases result with
  | error failure =>
      dsimp only
      rw [label]
  | ok value? =>
      cases value? with
      | none => rfl
      | some value => rfl

/-- Outside bulk mode such a handle finds what is committed in that form, unless the map cannot
be mapped. -/
theorem lookup_committed (holds : file.image.Holds contents)
    (writer : dict.session.Writer contents age) (recent : age < UInt64.size)
    (single : dict.session.bulk = false) {form : Form} (settled : dict.encoding = .settled form)
    (name : String) :
    ∃ env, dict.session.env? = some env ∧
      ((dict.lookup name file).1 =
          .ok ((contents.records.find? (dict.keyIn form name)).map Bytes.untilZero) ∨
        (¬ Environment.Mappable env.room contents.header.mapSize ∧ ∃ cause,
          (dict.lookup name file).1 = .error (.engine .reading dict.label (.io cause)))) := by
  obtain ⟨key, keyEq⟩ : ∃ key, key = dict.keyIn form name := ⟨_, rfl⟩
  rw [← keyEq]
  rw [← image_lock dict .shared file] at holds
  have other : ∀ path flags bulk, Call.get key ≠ .open path flags bulk := by simp
  obtain ⟨result, dict', file', _, _, ran, _, _, wrote, session', acted⟩ :=
    engine_wrote holds writer recent .get
      (fun session image => ((session.get key image).1, (session.get key image).2, image))
      (.get key) .value other (fun _ _ => rfl) (fun cuts => cuts.1)
  obtain ⟨env, after, here, answered⟩ := writer.answered holds single recent 0 other
  have got := answered.got (by rw [here]; exact Option.some_ne_none env)
  rw [acted] at got
  have fetched : fetch (dict.keyIn form name) dict (dict.lock .shared file) =
      (result, dict', file') := keyEq ▸ ran
  rw [lookup_of_settled settled name fetched (congrArg Profile.label wrote.profile_eq)]
  refine ⟨env, here, ?_⟩
  cases result with
  | ok value? =>
      rcases got with found | ⟨_, cause, failed⟩
      · cases found
        exact Or.inl rfl
      · cases failed
  | error failure =>
      rcases got with found | ⟨far, cause, failed⟩
      · cases found
      · cases failed
        exact Or.inr ⟨far, cause, rfl⟩

end Dictionary

end RecordFile
