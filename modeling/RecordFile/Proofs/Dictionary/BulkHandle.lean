/-
What an operation of a bulk handle makes of the records.

The records of its shelf are the draft of its session. To the shelf an operation does what it
does to records without any bound, or the session loses the draft and the failure says so.
-/

import RecordFile.Proofs.Dictionary.Shelf
import RecordFile.Proofs.Session.Draft

namespace RecordFile

namespace Dictionary

def perform (dict : Dictionary) (operation : Operation) (file : SharedFile) :
    Except DictionaryError Answer × Dictionary × SharedFile :=
  match operation with
  | .lookup name =>
      let outcome := dict.lookup name file
      (outcome.1.map .value, outcome.2)
  | .update name value =>
      let outcome := dict.update name value file
      (outcome.1.map .updated, outcome.2)
  | .delete name =>
      let outcome := dict.delete name file
      (outcome.1.map .deleted, outcome.2)

def withRoom (dict : Dictionary) (room : Nat) : Dictionary :=
  { dict with session := dict.session.withRoom room }

def profile (dict : Dictionary) : Profile where
  label := dict.label
  flags := dict.flags
  defaultForm := dict.defaultForm

def shelf (dict : Dictionary) (contents : Contents) : Shelf where
  encoding := dict.encoding
  records := dict.session.draft contents.records

/-- A bulk handle that may write, on a file that nobody else has written since the handle last
read it. -/
structure Owns (dict : Dictionary) (image : Image) (contents : Contents) : Prop where
  holds : image.Holds contents
  drafts : dict.session.Drafts contents 0
  mapped : dict.session.Mapped contents

structure Same (dict dict' : Dictionary) : Prop where
  profile_eq : dict'.profile = dict.profile
  encoding_eq : dict'.encoding = dict.encoding

variable {dict dict' : Dictionary} {file file' : SharedFile} {contents after : Contents}
  {image : Image}

theorem Same.refl (dict : Dictionary) : dict.Same dict :=
  ⟨rfl, rfl⟩

theorem Same.label_eq (same : dict.Same dict') : dict'.label = dict.label :=
  congrArg Profile.label same.profile_eq

@[simp]
theorem image_lock (dict : Dictionary) (mode : LockMode) (file : SharedFile) :
    (dict.lock mode file).image = file.image := by
  unfold lock SharedFile.acquire
  split
  · rfl
  · rfl

@[simp]
theorem image_unlock (dict : Dictionary) (file : SharedFile) :
    (dict.unlock file).image = file.image := by
  unfold unlock SharedFile.release
  split
  · rfl
  · rfl

/-- Of the engine a call sees the session and the contents of the file alone. -/
theorem engine_eq {α : Type} (dict : Dictionary) (call : EngineCall)
    (run : Session → Image → α × Session × Image) (file : SharedFile) {result : α}
    {session' : Session} {image' : Image}
    (ran : run dict.session file.image = (result, session', image')) :
    ∃ dict' file', dict.engine call run file = (result, dict', file') ∧ dict.Same dict' ∧
      dict'.session = { session' with notifications := [] } ∧ file'.image = image' := by
  unfold engine
  rw [ran]
  exact ⟨_, _, rfl, ⟨rfl, rfl⟩, rfl, rfl⟩

theorem Owns.of_session {session' : Session} (holds : image.Holds contents)
    (drafts : session'.Drafts contents 0) (mapped : session'.Mapped contents)
    (same : dict.session = { session' with notifications := [] }) : dict.Owns image contents := by
  refine ⟨holds, ?_, ?_⟩
  · rw [same]
    exact drafts.retold _ _
  · rw [same]
    exact mapped

/-! ### The engine of the owner -/

structure Loses (dict' : Dictionary) (image : Image) (contents : Contents) (image' : Image)
    (after : Contents) : Prop where
  advances : Advances 0 image contents image' after
  owns : dict'.Owns image' after
  idle : dict'.session.pending? = none

inductive Engages (session : Session) (image : Image) (contents : Contents) :
    Session.Call → Session.Reply → Dictionary → Image → Prop
  | edited {call : Session.Call} {reply : Session.Reply} {dict' : Dictionary} {seat : Seat}
      (owns : dict'.Owns image contents)
      (edits : Session.Edits (session.draft contents.records) ⟨false, session.cursor?⟩ call reply
        (dict'.session.draft contents.records) seat) :
      Engages session image contents call reply dict' image
  | dropped {call : Session.Call} {failure : EngineError} {dict' : Dictionary} {image' : Image}
      {after : Contents} (drops : failure.Drops) (loses : dict'.Loses image contents image' after) :
      Engages session image contents call (.failed failure) dict' image'
  | published {dict' : Dictionary} {image' : Image} {after : Contents}
      (owns : dict'.Owns image' after)
      (records_eq : after.records = session.draft contents.records)
      (idle : dict'.session.pending? = none) :
      Engages session image contents .commit .done dict' image'

theorem engages_of_drafted {call : Session.Call} {reply : Session.Reply} {session' : Session}
    {image' : Image} (owns : dict.Owns image contents)
    (drafted : dict.session.Drafted image contents 0 call (reply, session', image'))
    (same : dict'.session = { session' with notifications := [] }) :
    Engages dict.session image contents call reply dict' image' := by
  have idle_eq : session'.pending? = none → dict'.session.pending? = none := by
    rw [same]
    exact id
  cases drafted with
  | @edited _ _ _ txn begun edits drafts mapped =>
      have draftEq : dict'.session.draft contents.records = txn.records := by
        rw [same]
        exact Session.draft_of_pending begun contents.records
      rw [← draftEq] at edits
      exact .edited (.of_session owns.holds drafts (mapped owns.mapped) same) edits
  | refused asks idle here far =>
      exact .dropped .io ⟨.refl owns.holds, .of_session owns.holds owns.drafts owns.mapped same,
        idle_eq idle⟩
  | @discarded _ failure _ _ _ fills discards advances drafts idle noCursor =>
      have drops : failure.Drops := by
        cases discards with
        | retry => exact .retry
        | retryLimit full => exact .retryLimit
        | io refused => exact .io
      exact .dropped drops ⟨advances,
        .of_session advances.holds drafts (Session.mapped_of_idle idle) same, idle_eq idle⟩
  | published advances once mapSizeEq recordsEq drafts idle cursorEq =>
      exact .published (.of_session advances.holds drafts (Session.mapped_of_idle idle) same)
        recordsEq (idle_eq idle)

/-- Every use of the engine is a call of the session, whatever form its result has. -/
theorem engine_engages {α : Type} (owns : dict.Owns file.image contents) (name : EngineCall)
    (run : Session → Image → Except EngineError α × Session × Image) (call : Session.Call)
    (answer : α → Session.Reply)
    (other : ∀ path flags bulk, call ≠ .open path flags bulk)
    (acts : ∀ session image, session.act call 0 image =
      (Session.Reply.of answer (run session image).1, (run session image).2)) :
    ∃ result dict' file', dict.engine name run file = (result, dict', file') ∧ dict.Same dict' ∧
      Engages dict.session file.image contents call (Session.Reply.of answer result) dict'
        file'.image := by
  have drafted := Session.act_drafted owns.holds owns.drafts (by decide) 0 other
    (owns.mapped.not_cutsBack owns.holds call)
  rw [acts] at drafted
  rcases ran : run dict.session file.image with ⟨result, session', image'⟩
  rw [ran] at drafted
  obtain ⟨dict', file', engaged, same, sessionEq, rfl⟩ := dict.engine_eq name run file ran
  exact ⟨result, dict', file', engaged, same, engages_of_drafted owns drafted sessionEq⟩

/-! ### One form after another -/

inductive Attempts {α : Type} (dict : Dictionary) (image : Image) (contents : Contents)
    (hit : Bytes → α) (change : Records → Bytes → Records) (key : Bytes) :
    Except EngineError (Option α) → Dictionary → Image → Prop
  | answered {dict' : Dictionary} (owns : dict'.Owns image contents)
      (draft_eq : dict'.session.draft contents.records =
        change (dict.session.draft contents.records) key) :
      Attempts dict image contents hit change key
        (.ok (((dict.session.draft contents.records).find? key).map hit)) dict' image
  | dropped {failure : EngineError} {dict' : Dictionary} {image' : Image} {after : Contents}
      (drops : failure.Drops) (loses : dict'.Loses image contents image' after) :
      Attempts dict image contents hit change key (.error failure) dict' image'

theorem fetch_attempts (owns : dict.Owns file.image contents) (key : Bytes) :
    ∃ result dict' file', fetch key dict file = (result, dict', file') ∧ dict.Same dict' ∧
      dict.Attempts file.image contents id (fun records _ => records) key result dict'
        file'.image := by
  obtain ⟨result, dict', file', ran, same, engages⟩ := engine_engages owns .get
    (fun session image => ((session.get key image).1, (session.get key image).2, image))
    (.get key) .value (by simp) fun _ _ => rfl
  refine ⟨result, dict', file', ran, same, ?_⟩
  generalize file'.image = image' at engages ⊢
  cases result with
  | error failure =>
      cases engages with
      | edited owns' edits =>
          have answer := edits.get_eq.1
          cases answer
      | dropped drops loses => exact .dropped drops loses
  | ok value? =>
      cases engages with
      | edited owns' edits =>
          obtain ⟨answer, draftEq⟩ := edits.get_eq
          have found : value? = ((dict.session.draft contents.records).find? key).map id := by
            cases answer
            rw [Option.map_id_fun]
            rfl
          rw [found]
          exact .answered owns' draftEq

def removal (key : Bytes) (session : Session) (image : Image) :
    Except EngineError (Option Unit) × Session × Image :=
  match session.delete key image with
  | (.error failure, after) => (.error failure, after)
  | (.ok present, after) => (.ok (if present then some () else none), after)

theorem act_delete (key : Bytes) (session : Session) (image : Image) :
    session.act (.delete key) 0 image =
      (Session.Reply.of (fun hit? => .found hit?.isSome) (removal key session image).1,
        (removal key session image).2) := by
  unfold removal
  dsimp only [Session.act]
  rcases session.delete key image with ⟨result, after⟩
  cases result with
  | error failure => rfl
  | ok present => cases present <;> rfl

theorem remove_attempts (owns : dict.Owns file.image contents) (key : Bytes) :
    ∃ result dict' file', remove key dict file = (result, dict', file') ∧ dict.Same dict' ∧
      dict.Attempts file.image contents (fun _ => ()) Records.erase key result dict'
        file'.image := by
  obtain ⟨result, dict', file', ran, same, engages⟩ := engine_engages owns .delete (removal key)
    (.delete key) (fun hit? => .found hit?.isSome) (by simp) (act_delete key)
  refine ⟨result, dict', file', ran, same, ?_⟩
  generalize file'.image = image' at engages ⊢
  cases result with
  | error failure =>
      cases engages with
      | edited owns' edits =>
          have answer := edits.delete_eq.1
          cases answer
      | dropped drops loses => exact .dropped drops loses
  | ok hit? =>
      cases engages with
      | edited owns' edits =>
          obtain ⟨answer, draftEq⟩ := edits.delete_eq
          have hitEq : hit? = ((dict.session.draft contents.records).find? key).map
              fun _ => () := by
            cases hit? <;> cases found : (dict.session.draft contents.records).find? key <;>
              simp_all [Session.Reply.of]
          rw [hitEq]
          exact .answered owns' draftEq

inductive Searches {α : Type} (label : String) (shelf : Shelf) (action : EngineAction)
    (hit : Bytes → α) (change : Records → Bytes → Records) (key : Bytes)
    (hit? : Option (Form × Bytes)) (image : Image) (contents : Contents) :
    Except DictionaryError (Option α) → Dictionary → Image → Prop
  | ended {dict' : Dictionary} (owns : dict'.Owns image contents)
      (shelf_eq : dict'.shelf contents = shelf.searched change key hit?) :
      Searches label shelf action hit change key hit? image contents
        (.ok (hit?.map fun found => hit found.2)) dict' image
  | dropped {failure : EngineError} {dict' : Dictionary} {image' : Image} {after : Contents}
      (drops : failure.Drops) (loses : dict'.Loses image contents image' after)
      (encoding_eq : dict'.encoding = shelf.encoding) :
      Searches label shelf action hit change key hit? image contents
        (.error (.ofEngine action label failure)) dict' image'

theorem tryForms_searches {α : Type} (action : EngineAction)
    {attempt : Bytes → Dictionary → SharedFile →
      Except EngineError (Option α) × Dictionary × SharedFile}
    {hit : Bytes → α} {change : Records → Bytes → Records}
    (attempts : ∀ key dict file, Owns dict file.image contents →
      ∃ result dict' file', attempt key dict file = (result, dict', file') ∧ dict.Same dict' ∧
        dict.Attempts file.image contents hit change key result dict' file'.image)
    (inert : ∀ records key, records.find? key = none → change records key = records)
    (key : Bytes) (forms : List Form) (owns : dict.Owns file.image contents) :
    ∃ result dict' file', tryForms key action attempt forms dict file = (result, dict', file') ∧
      dict'.profile = dict.profile ∧
      Searches dict.label (dict.shelf contents) action hit change key
        (forms.findSome? fun form =>
          ((dict.shelf contents).records.find? (form.encode key)).map fun value => (form, value))
        file.image contents result dict' file'.image := by
  induction forms generalizing dict file with
  | nil => exact ⟨_, dict, file, rfl, rfl, .ended owns rfl⟩
  | cons form rest ih =>
      obtain ⟨result, dict', file', tried, same, attempted⟩ :=
        attempts (form.encode key) dict file owns
      have label := same.label_eq
      unfold tryForms
      rw [tried]
      generalize imageEq : file'.image = image' at attempted
      cases attempted with
      | answered owns' draftEq =>
          rw [List.findSome?_cons]
          cases found : (dict.session.draft contents.records).find? (form.encode key) with
          | none =>
              have shelfEq : dict'.shelf contents = dict.shelf contents := by
                unfold shelf
                rw [same.encoding_eq, draftEq, inert _ _ found]
              have miss : (dict.shelf contents).records.find? (form.encode key) = none := found
              rw [← imageEq] at owns'
              obtain ⟨result', dict'', file'', ran, profileEq, searches⟩ := ih owns'
              rw [shelfEq, label, imageEq] at searches
              rw [miss]
              exact ⟨result', dict'', file'', ran, profileEq.trans same.profile_eq, searches⟩
          | some value =>
              have here : (dict.shelf contents).records.find? (form.encode key) = some value :=
                found
              rw [here]
              refine ⟨_, _, file', rfl, same.profile_eq, ?_⟩
              rw [imageEq]
              refine .ended ⟨owns'.holds, owns'.drafts, owns'.mapped⟩ ?_
              unfold shelf Shelf.searched
              dsimp only [Option.map_some]
              rw [same.encoding_eq, ← draftEq]
      | dropped drops loses =>
          rw [← label]
          refine ⟨_, dict', file', rfl, same.profile_eq, ?_⟩
          rw [imageEq]
          exact .dropped drops loses same.encoding_eq

/-! ### Operations of the owner -/

inductive Performs (dict : Dictionary) (image : Image) (contents : Contents)
    (operation : Operation) : Except DictionaryError Answer → Dictionary → Image → Prop
  | answered {result : Except DictionaryError Answer} {dict' : Dictionary}
      (owns : dict'.Owns image contents)
      (applied : dict.profile.apply (dict.shelf contents) operation =
        (result, dict'.shelf contents)) :
      Performs dict image contents operation result dict' image
  | dropped {failure : DictionaryError} {dict' : Dictionary} {image' : Image} {after : Contents}
      (givesUp : dict.profile.GivesUp failure)
      (loses : dict'.Loses image contents image' after)
      (encoding_eq : dict'.encoding = dict.profile.tried dict.encoding operation) :
      Performs dict image contents operation (.error failure) dict' image'

theorem Owns.lock (owns : dict.Owns file.image contents) (mode : LockMode) :
    dict.Owns (dict.lock mode file).image contents := by
  rw [image_lock]
  exact owns

theorem lookup_performs (owns : dict.Owns file.image contents) (name : String) :
    ∃ result dict' file', dict.perform (.lookup name) file = (result, dict', file') ∧
      dict'.profile = dict.profile ∧
      dict.Performs file.image contents (.lookup name) result dict' file'.image := by
  obtain ⟨found, dict', file', ran, profileEq, searches⟩ :=
    tryForms_searches .reading (fun key _ _ owns => fetch_attempts owns key)
      (fun _ _ _ => rfl) (Bytes.ofText (dict.fold name)) dict.encoding.candidates
      (owns.lock .shared)
  unfold perform lookup locked
  dsimp only
  rw [ran]
  rw [image_lock] at searches
  generalize imageEq : file'.image = image' at searches
  cases searches with
  | ended owns' shelfEq =>
      refine ⟨_, dict', _, rfl, profileEq, ?_⟩
      rw [image_unlock, imageEq]
      refine .answered owns' ?_
      unfold Profile.apply
      rw [shelfEq]
      dsimp only [Except.map]
      rw [Option.map_map]
      rfl
  | dropped drops loses encodingEq =>
      refine ⟨_, dict', _, rfl, profileEq, ?_⟩
      rw [image_unlock, imageEq]
      exact .dropped ⟨_, _, drops, rfl⟩ loses encodingEq

theorem delete_performs (owns : dict.Owns file.image contents) (name : String) :
    ∃ result dict' file', dict.perform (.delete name) file = (result, dict', file') ∧
      dict'.profile = dict.profile ∧
      dict.Performs file.image contents (.delete name) result dict' file'.image := by
  obtain ⟨found, dict', file', ran, profileEq, searches⟩ :=
    tryForms_searches .deletingFrom (fun key _ _ owns => remove_attempts owns key)
      (fun _ _ absent => Records.erase_of_absent absent) (Bytes.ofText (dict.fold name))
      dict.encoding.candidates (owns.lock .exclusive)
  unfold perform delete locked
  dsimp only
  rw [ran]
  rw [image_lock] at searches
  generalize imageEq : file'.image = image' at searches
  cases searches with
  | ended owns' shelfEq =>
      refine ⟨_, dict', _, rfl, profileEq, ?_⟩
      rw [image_unlock, imageEq]
      refine .answered owns' ?_
      unfold Profile.apply
      rw [shelfEq]
      dsimp only [Except.map]
      rw [Option.isSome_map]
      rfl
  | dropped drops loses encodingEq =>
      refine ⟨_, dict', _, rfl, profileEq, ?_⟩
      rw [image_unlock, imageEq]
      exact .dropped ⟨_, _, drops, rfl⟩ loses encodingEq

/-! ### Storing -/

theorem updateResult_of_drops {failure : EngineError} (drops : failure.Drops) (dict : Dictionary)
    (key : String) : dict.updateResult key (.error failure) =
      (.error (.ofEngine .updating dict.label failure), dict) := by
  cases drops with
  | retry => rfl
  | retryLimit => rfl
  | io => rfl

theorem updateResult_keyExists (dict : Dictionary) (key : String) :
    ∃ dict', dict.updateResult key (.error .keyExists) =
        ((match dict.policy with
          | .ignore => .ok .duplicate
          | .warn => .ok .duplicate
          | _ => .error (.duplicate dict.label key)), dict') ∧
      dict.Same dict' ∧ dict'.session = dict.session := by
  unfold updateResult
  dsimp only
  cases dict.policy with
  | replace => exact ⟨dict, rfl, .refl dict, rfl⟩
  | ignore => exact ⟨dict, rfl, .refl dict, rfl⟩
  | warn => exact ⟨_, rfl, ⟨rfl, rfl⟩, rfl⟩
  | fatal => exact ⟨dict, rfl, .refl dict, rfl⟩

inductive Stores (profile : Profile) (shelf : Shelf) (key value : Bytes) (image : Image)
    (contents : Contents) : Except EngineError Unit → Dictionary → Image → Prop
  | stored {dict' : Dictionary} (owns : dict'.Owns image contents)
      (admitted : (putRules shelf.records.find? key value
        (!profile.flags.policy.overwrites)).admits)
      (shelf_eq : dict'.shelf contents =
        ⟨(profile.ready shelf).encoding, shelf.records.insert key value⟩) :
      Stores profile shelf key value image contents (.ok ()) dict' image
  | denied {failure : EngineError} {dict' : Dictionary} (owns : dict'.Owns image contents)
      (denied : (putRules shelf.records.find? key value
        (!profile.flags.policy.overwrites)).denies failure)
      (shelf_eq : dict'.shelf contents = profile.ready shelf) :
      Stores profile shelf key value image contents (.error failure) dict' image
  | dropped {failure : EngineError} {dict' : Dictionary} {image' : Image} {after : Contents}
      (drops : failure.Drops) (loses : dict'.Loses image contents image' after)
      (encoding_eq : dict'.encoding = (profile.ready shelf).encoding) :
      Stores profile shelf key value image contents (.error failure) dict' image'

theorem put_stores {ready : Dictionary} (owns : ready.Owns file.image contents)
    (profileEq : ready.profile = dict.profile)
    (shelfEq : ready.shelf contents = dict.profile.ready (dict.shelf contents))
    (key value : Bytes) :
    ∃ stored dict' file', ready.engine .put (fun session image =>
          session.put key value (!ready.policy.overwrites) image) file = (stored, dict', file') ∧
      dict'.profile = dict.profile ∧
      Stores dict.profile (dict.shelf contents) key value file.image contents stored dict'
        file'.image := by
  obtain ⟨stored, dict', file', ran, same, engages⟩ := engine_engages owns .put
    (fun session image => session.put key value (!ready.policy.overwrites) image)
    (.put key value (!ready.policy.overwrites)) (fun _ => .done) (by simp) fun _ _ => rfl
  have policy : ready.policy = dict.profile.flags.policy :=
    congrArg (fun profile => profile.flags.policy) profileEq
  have encodingEq : dict'.encoding = (dict.profile.ready (dict.shelf contents)).encoding :=
    same.encoding_eq.trans (congrArg Shelf.encoding shelfEq)
  have draftEq : ready.session.draft contents.records = (dict.shelf contents).records :=
    congrArg Shelf.records shelfEq
  have shelved : ∀ {records : Records}, dict'.session.draft contents.records = records →
      dict'.shelf contents =
        ⟨(dict.profile.ready (dict.shelf contents)).encoding, records⟩ := by
    intro records edited
    unfold shelf
    rw [encodingEq, edited]
    rfl
  refine ⟨stored, dict', file', ran, same.profile_eq.trans profileEq, ?_⟩
  generalize file'.image = image' at engages ⊢
  rw [policy] at engages
  cases stored with
  | ok done =>
      cases engages with
      | edited owns' edits =>
          rw [draftEq] at edits
          rcases edits.put_cases with ⟨_, admitted, edited⟩ | ⟨failure, answer, _⟩
          · exact .stored owns' admitted (shelved edited)
          · cases answer
  | error failure =>
      cases engages with
      | edited owns' edits =>
          rw [draftEq] at edits
          rcases edits.put_cases with ⟨answer, _⟩ | ⟨failure, answer, denied, edited⟩
          · cases answer
          · cases answer
            exact .denied owns' denied (shelved edited)
      | dropped drops loses => exact .dropped drops loses encodingEq

theorem update_performs (owns : dict.Owns file.image contents) (name : String) (value : Bytes) :
    ∃ result dict' file', dict.perform (.update name value) file = (result, dict', file') ∧
      dict'.profile = dict.profile ∧
      dict.Performs file.image contents (.update name value) result dict' file'.image := by
  obtain ⟨form, formEq⟩ : ∃ form, form = dict.encoding.formToWrite dict.defaultForm := ⟨_, rfl⟩
  obtain ⟨key, keyEq⟩ : ∃ key, key = form.encode (Bytes.ofText (dict.fold name)) := ⟨_, rfl⟩
  obtain ⟨ready, readyEq⟩ : ∃ ready : Dictionary,
      ready = { dict with encoding := dict.encoding.forWrite dict.defaultForm } := ⟨_, rfl⟩
  have locked : ready.Owns (ready.lock .exclusive file).image contents := by
    rw [image_lock, readyEq]
    exact ⟨owns.holds, owns.drafts, owns.mapped⟩
  have profile : ready.profile = dict.profile := by
    rw [readyEq]
    rfl
  have shelfEq : ready.shelf contents = dict.profile.ready (dict.shelf contents) := by
    rw [readyEq]
    rfl
  obtain ⟨stored, dict', file', ran, profileEq, stores⟩ :=
    put_stores locked profile shelfEq key (form.encode value)
  have updated : dict.perform (.update name value) file =
      (((dict'.updateResult (dict.fold name) stored).1.map .updated),
        (dict'.updateResult (dict.fold name) stored).2, ready.unlock file') := by
    unfold perform update Dictionary.locked
    dsimp only
    rw [← formEq, ← keyEq, ← readyEq, ran]
  have label : dict'.label = dict.profile.label := congrArg Profile.label profileEq
  have policy : dict'.policy = dict.profile.flags.policy :=
    congrArg (fun profile => profile.flags.policy) profileEq
  rw [updated]
  rw [image_lock] at stores
  generalize imageEq : file'.image = image' at stores
  cases stores with
  | stored owns' admitted shelfEq =>
      refine ⟨_, dict', _, rfl, profileEq, ?_⟩
      rw [image_unlock, imageEq]
      refine .answered owns' ?_
      rw [shelfEq]
      exact Profile.store_of_admits formEq keyEq admitted
  | denied owns' denied shelfEq =>
      rcases denied with ⟨large, rfl⟩ | ⟨fits, clashes, rfl⟩
      · refine ⟨_, dict', _, rfl, profileEq, ?_⟩
        rw [image_unlock, imageEq]
        refine .answered owns' ?_
        rw [shelfEq]
        exact (Profile.store_of_large formEq keyEq large).trans (by rw [← label]; rfl)
      · obtain ⟨last, result, same, sessionEq⟩ := dict'.updateResult_keyExists (dict.fold name)
        have kept : last.Owns file.image contents := by
          refine ⟨owns'.holds, ?_, ?_⟩
          · rw [sessionEq]
            exact owns'.drafts
          · rw [sessionEq]
            exact owns'.mapped
        have lastEq : last.shelf contents = dict'.shelf contents := by
          unfold shelf
          rw [same.encoding_eq, sessionEq]
        have refused := Profile.store_of_clashes formEq keyEq fits clashes
        rw [← policy, ← label] at refused
        rw [result]
        refine ⟨_, last, _, rfl, same.profile_eq.trans profileEq, ?_⟩
        rw [image_unlock, imageEq]
        refine .answered kept ?_
        rw [lastEq, shelfEq]
        refine refused.trans ?_
        cases dict'.policy with
        | replace => rfl
        | ignore => rfl
        | warn => rfl
        | fatal => rfl
  | dropped drops loses encodingEq =>
      rw [dict'.updateResult_of_drops drops, label]
      refine ⟨_, dict', _, rfl, profileEq, ?_⟩
      rw [image_unlock, imageEq]
      exact .dropped ⟨_, _, drops, rfl⟩ loses encodingEq

/-- An operation of the owner does to the shelf what it does to records without any bound, or
the draft is lost. -/
theorem perform_performs (owns : dict.Owns file.image contents) (operation : Operation) :
    ∃ result dict' file', dict.perform operation file = (result, dict', file') ∧
      dict'.profile = dict.profile ∧
      dict.Performs file.image contents operation result dict' file'.image := by
  cases operation with
  | lookup name => exact lookup_performs owns name
  | update name value => exact update_performs owns name value
  | delete name => exact delete_performs owns name

/-! ### Committing -/

inductive Commits (dict : Dictionary) (image : Image) (contents : Contents) :
    Except DictionaryError Unit → Dictionary → Image → Prop
  | published {dict' : Dictionary} {image' : Image} {after : Contents}
      (owns : dict'.Owns image' after)
      (records_eq : after.records = (dict.shelf contents).records)
      (shelf_eq : dict'.shelf after = dict.shelf contents)
      (idle : dict'.session.pending? = none) :
      Commits dict image contents (.ok ()) dict' image'
  | dropped {failure : DictionaryError} {dict' : Dictionary} {image' : Image} {after : Contents}
      (givesUp : dict.profile.GivesUp failure)
      (loses : dict'.Loses image contents image' after)
      (encoding_eq : dict'.encoding = dict.encoding) :
      Commits dict image contents (.error failure) dict' image'

theorem commit_commits (owns : dict.Owns file.image contents) :
    ∃ result dict' file', dict.commit file = (result, dict', file') ∧
      dict'.profile = dict.profile ∧
      dict.Commits file.image contents result dict' file'.image := by
  obtain ⟨result, dict', file', ran, same, engages⟩ := engine_engages (owns.lock .exclusive)
    .commit (fun session image => session.commit image) .commit (fun _ => .done) (by simp)
    fun _ _ => rfl
  unfold commit locked
  rw [if_pos owns.drafts.bulk]
  dsimp only
  rw [ran]
  rw [image_lock] at engages
  generalize imageEq : file'.image = image' at engages
  cases result with
  | ok done =>
      refine ⟨_, dict', _, rfl, same.profile_eq, ?_⟩
      rw [image_unlock, imageEq]
      cases engages with
      | edited _ edits => cases edits
      | published owns' recordsEq idle =>
          refine .published owns' recordsEq ?_ idle
          unfold shelf
          rw [same.encoding_eq, Session.draft_of_idle idle, recordsEq]
  | error failure =>
      refine ⟨_, dict', _, rfl, same.profile_eq, ?_⟩
      rw [image_unlock, imageEq]
      cases engages with
      | edited _ edits => cases edits
      | dropped drops loses => exact .dropped ⟨_, _, drops, rfl⟩ loses same.encoding_eq

/-! ### Closing -/

theorem idle_of_commit (orderly : dict.session.bulk = false → dict.session.pending? = none)
    (committed : dict.commit file = (.ok (), dict', file')) : dict'.session.pending? = none := by
  unfold commit at committed
  split at committed
  · rcases ran : dict.session.commit (dict.lock .exclusive file).image with
      ⟨result, session', image'⟩
    obtain ⟨after, last, engaged, _, sessionEq, _⟩ :=
      dict.engine_eq .commit (fun session image => session.commit image) _ ran
    unfold locked at committed
    dsimp only at committed
    rw [engaged] at committed
    cases result with
    | error failure => cases committed
    | ok done =>
        have idle : session'.pending? = none := Session.idle_of_commit ran
        cases committed
        rw [sessionEq]
        exact idle
  · next single =>
      cases committed
      exact orderly (Bool.eq_false_iff.mpr single)

/-- A close comes to what the commit comes to that it begins with. When that succeeds there is
nothing left to publish. -/
theorem close_of_commit (orderly : dict.session.bulk = false → dict.session.pending? = none)
    {result : Except DictionaryError Unit} (committed : dict.commit file = (result, dict', file')) :
    ∃ dict'' last notifications, dict.close file = (result, dict'', last) ∧ dict'.Same dict'' ∧
      dict''.session = { dict'.session with notifications := notifications } ∧
      last.image = file'.image := by
  unfold close
  rw [committed]
  cases result with
  | error failure => exact ⟨dict', file', _, rfl, .refl dict', rfl, rfl⟩
  | ok done =>
      obtain ⟨dict'', last, ran, same, sessionEq, imageEq⟩ :=
        dict'.engine_eq .close (fun session image => session.close image) file'
          (Session.commit_of_idle (idle_of_commit orderly committed) file'.image)
      dsimp only
      rw [ran]
      exact ⟨dict'', last, [], rfl, same, sessionEq, imageEq⟩

end Dictionary

end RecordFile
