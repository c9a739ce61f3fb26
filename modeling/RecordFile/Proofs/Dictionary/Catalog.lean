/-
A handle as a map from names to values.

Outside bulk mode a handle that has settled on a form, and that is alone with its file, answers
as a map from folded names to values does: under the policy for duplicates, and with values cut
at their first zero byte. An operation is declined when the system refuses a map that it needs,
when the map cannot be grown enough, and when a record is too large for any map. Then the map
stays as it is. Records that are not under the names used stay as they are in any case.
-/

import RecordFile.Proofs.Dictionary.Updates
import RecordFile.Proofs.Session.Refreshing

namespace RecordFile

abbrev Catalog := String → Option Bytes

def Operation.action : Operation → EngineAction
  | .lookup _ => .reading
  | .update _ _ => .updating
  | .delete _ => .deletingFrom

namespace Profile

def consult (profile : Profile) (catalog : Catalog) :
    Operation → Except DictionaryError Answer × Catalog
  | .lookup name =>
      (.ok (.value ((catalog (profile.fold name)).map Bytes.untilZero)), catalog)
  | .update name value =>
      let stored := Function.update catalog (profile.fold name) (some value)
      match catalog (profile.fold name), profile.flags.policy with
      | none, _ => (.ok (.updated .stored), stored)
      | some _, .replace => (.ok (.updated .stored), stored)
      | some _, .ignore => (.ok (.updated .duplicate), catalog)
      | some _, .warn => (.ok (.updated .duplicate), catalog)
      | some _, .fatal => (.error (.duplicate profile.label (profile.fold name)), catalog)
  | .delete name =>
      (.ok (.deleted (catalog (profile.fold name)).isSome),
        Function.update catalog (profile.fold name) none)

def keyIn (profile : Profile) (form : Form) (name : String) : Bytes :=
  form.encode (Bytes.ofText (profile.fold name))

def callFor (profile : Profile) (form : Form) : Operation → Session.Call
  | .lookup name => .get (profile.keyIn form name)
  | .update name value =>
      .put (profile.keyIn form name) (form.encode value) (!profile.flags.policy.overwrites)
  | .delete name => .delete (profile.keyIn form name)

inductive Reports (profile : Profile) :
    Operation → Session.Reply → Except DictionaryError Answer → Prop
  | value {name : String} {value? : Option Bytes} :
      Reports profile (.lookup name) (.value value?) (.ok (.value (value?.map Bytes.untilZero)))
  | stored {name : String} {value : Bytes} :
      Reports profile (.update name value) .done (.ok (.updated .stored))
  | kept {name : String} {value : Bytes}
      (policy : profile.flags.policy = .ignore ∨ profile.flags.policy = .warn) :
      Reports profile (.update name value) (.failed .keyExists) (.ok (.updated .duplicate))
  | clashed {name : String} {value : Bytes}
      (policy : profile.flags.policy = .fatal ∨ profile.flags.policy = .replace) :
      Reports profile (.update name value) (.failed .keyExists)
        (.error (.duplicate profile.label (profile.fold name)))
  | deleted {name : String} {present : Bool} :
      Reports profile (.delete name) (.found present) (.ok (.deleted present))
  | failed {operation : Operation} {failure : EngineError}
      (other : ∀ name value, operation = .update name value → failure ≠ .keyExists) :
      Reports profile operation (.failed failure)
        (.error (.ofEngine operation.action profile.label failure))

end Profile

namespace Dictionary

variable {dict : Dictionary} {form : Form} {file : SharedFile}

structure Calls (dict : Dictionary) (form : Form) (operation : Operation) (file : SharedFile)
    (result : Except DictionaryError Answer) (dict' : Dictionary) (file' : SharedFile) :
    Prop where
  same : dict.Same dict'
  session : ∃ reply session', dict.session.act (dict.profile.callFor form operation) 0
      file.image = (reply, session', file'.image) ∧
    dict'.session = { session' with notifications := [] } ∧
    dict.profile.Reports operation reply result

theorem engine_acts {α : Type} (dict : Dictionary) (name : EngineCall)
    (run : Session → Image → Except EngineError α × Session × Image) (call : Session.Call)
    (answer : α → Session.Reply)
    (acts : ∀ session image, session.act call 0 image =
      (Session.Reply.of answer (run session image).1, (run session image).2))
    (mode : LockMode) (file : SharedFile) :
    ∃ result dict' file' session', dict.engine name run (dict.lock mode file) =
        (result, dict', file') ∧ dict.Same dict' ∧
      dict'.session = { session' with notifications := [] } ∧
      dict.session.act call 0 file.image =
        (Session.Reply.of answer result, session', file'.image) := by
  rcases ran : run dict.session (dict.lock mode file).image with ⟨result, session', image'⟩
  obtain ⟨dict', file', engaged, same, sessionEq, imageEq⟩ :=
    dict.engine_eq name run (dict.lock mode file) ran
  refine ⟨result, dict', file', session', engaged, same, sessionEq, ?_⟩
  rw [image_lock] at ran
  rw [acts, ran, imageEq]

/-- With one form left there is one attempt, whose hit settles nothing new. -/
theorem tryForms_settled {α : Type} (key : Bytes) (action : EngineAction)
    (attempt : Bytes → Dictionary → SharedFile →
      Except EngineError (Option α) × Dictionary × SharedFile)
    {result : Except EngineError (Option α)} {dict' : Dictionary} {file' : SharedFile}
    (tried : attempt (form.encode key) dict file = (result, dict', file'))
    (settled : dict'.encoding = .settled form) :
    tryForms key action attempt [form] dict file =
      (result.mapError (.ofEngine action dict'.label), dict', file') := by
  unfold tryForms
  rw [tried]
  cases result with
  | error failure => rfl
  | ok hit? =>
      cases hit? with
      | none => rfl
      | some hit =>
          have same : { dict' with encoding := dict'.encoding.confirm form } = dict' := by
            rw [settled, show (Encoding.settled form).confirm form = .settled form from rfl,
              ← settled]
          dsimp only
          rw [same]
          rfl

theorem lookup_calls (settled : dict.encoding = .settled form) (name : String)
    (file : SharedFile) :
    ∃ result dict' file', dict.perform (.lookup name) file = (result, dict', file') ∧
      dict.Calls form (.lookup name) file result dict' file' := by
  obtain ⟨found, dict', file', session', fetched, same, sessionEq, acted⟩ :=
    dict.engine_acts .get
      (fun session image => ((session.get (dict.keyIn form name) image).1,
        (session.get (dict.keyIn form name) image).2, image))
      (.get (dict.keyIn form name)) .value (fun _ _ => rfl) .shared file
  have tried := tryForms_settled (Bytes.ofText (dict.fold name)) .reading fetch fetched
    (same.encoding_eq.trans settled)
  unfold perform lookup locked
  dsimp only
  rw [settled]
  unfold Encoding.candidates
  dsimp only
  rw [tried, same.label_eq]
  rw [← image_unlock dict file'] at acted
  cases found with
  | error failure =>
      exact ⟨_, dict', _, rfl, same, _, session', acted, sessionEq, .failed nofun⟩
  | ok value? =>
      exact ⟨_, dict', _, rfl, same, _, session', acted, sessionEq, .value⟩

theorem delete_calls (settled : dict.encoding = .settled form) (name : String)
    (file : SharedFile) :
    ∃ result dict' file', dict.perform (.delete name) file = (result, dict', file') ∧
      dict.Calls form (.delete name) file result dict' file' := by
  obtain ⟨found, dict', file', session', removed, same, sessionEq, acted⟩ :=
    dict.engine_acts .delete (removal (dict.keyIn form name)) (.delete (dict.keyIn form name))
      (fun hit? => .found hit?.isSome) (act_delete _) .exclusive file
  have tried := tryForms_settled (Bytes.ofText (dict.fold name)) .deletingFrom remove removed
    (same.encoding_eq.trans settled)
  unfold perform delete locked
  dsimp only
  rw [settled]
  unfold Encoding.candidates
  dsimp only
  rw [tried, same.label_eq]
  rw [← image_unlock dict file'] at acted
  cases found with
  | error failure =>
      exact ⟨_, dict', _, rfl, same, _, session', acted, sessionEq, .failed nofun⟩
  | ok hit? =>
      exact ⟨_, dict', _, rfl, same, _, session', acted, sessionEq, .deleted⟩

theorem updateResult_reports (dict : Dictionary) (name : String) (value : Bytes)
    (stored : Except EngineError Unit) :
    ∃ result dict', dict.updateResult (dict.fold name) stored = (result, dict') ∧
      dict.Same dict' ∧ dict'.session = dict.session ∧
      dict.profile.Reports (.update name value) (Session.Reply.of (fun _ => .done) stored)
        (result.map .updated) := by
  unfold updateResult
  split
  · exact ⟨_, dict, rfl, .refl dict, rfl, .stored⟩
  · cases policy : dict.policy with
    | ignore => exact ⟨_, dict, rfl, .refl dict, rfl, .kept (Or.inl policy)⟩
    | warn => exact ⟨_, _, rfl, ⟨rfl, rfl⟩, rfl, .kept (Or.inr policy)⟩
    | fatal => exact ⟨_, dict, rfl, .refl dict, rfl, .clashed (Or.inl policy)⟩
    | replace => exact ⟨_, dict, rfl, .refl dict, rfl, .clashed (Or.inr policy)⟩
  · next failure other =>
      exact ⟨_, dict, rfl, .refl dict, rfl, .failed fun _ _ _ same => other same⟩

theorem update_calls (settled : dict.encoding = .settled form) (name : String) (value : Bytes)
    (file : SharedFile) :
    ∃ result dict' file', dict.perform (.update name value) file = (result, dict', file') ∧
      dict.Calls form (.update name value) file result dict' file' := by
  have ready : { dict with encoding := dict.encoding.forWrite dict.defaultForm } = dict := by
    rw [forWrite_of_settled settled, ← settled]
  have formEq : dict.encoding.formToWrite dict.defaultForm = form := by
    rw [settled]
    rfl
  obtain ⟨stored, dict', file', session', put, same, sessionEq, acted⟩ :=
    dict.engine_acts .put
      (fun session image => session.put (dict.keyIn form name) (form.encode value)
        (!dict.policy.overwrites) image)
      (.put (dict.keyIn form name) (form.encode value) (!dict.policy.overwrites))
      (fun _ => .done) (fun _ _ => rfl) .exclusive file
  obtain ⟨result, last, resulted, same', lastSession, reports⟩ :=
    dict'.updateResult_reports name value stored
  have fold : dict'.fold name = dict.fold name :=
    congrArg (fun profile => Profile.fold profile name) same.profile_eq
  rw [fold] at resulted
  have updated : dict.perform (.update name value) file =
      (result.map .updated, last, dict.unlock file') := by
    unfold keyIn at put
    unfold perform update locked
    dsimp only
    rw [ready, formEq, put]
    dsimp only
    rw [resulted]
  rw [← image_unlock dict file'] at acted
  rw [same.profile_eq] at reports
  refine ⟨_, last, _, updated, ⟨same'.profile_eq.trans same.profile_eq,
    same'.encoding_eq.trans same.encoding_eq⟩, _, session', acted, ?_, reports⟩
  exact lastSession.trans sessionEq

theorem perform_calls (settled : dict.encoding = .settled form) (operation : Operation)
    (file : SharedFile) :
    ∃ result dict' file', dict.perform operation file = (result, dict', file') ∧
      dict.Calls form operation file result dict' file' := by
  cases operation with
  | lookup name => exact lookup_calls settled name file
  | update name value => exact update_calls settled name value file
  | delete name => exact delete_calls settled name file

end Dictionary

/-! ### Records and catalogs -/

def Lists (form : Form) (catalog : Catalog) (content : Content) : Prop :=
  ∀ name, content (form.encode (Bytes.ofText name)) = catalog name ∨
    content (form.encode (Bytes.ofText name)) = (catalog name).map form.encode

def catalogIn (form : Form) (content : Content) : Catalog :=
  fun name => content (form.encode (Bytes.ofText name))

variable {form : Form} {catalog : Catalog} {content : Content}

theorem lists_catalogIn (form : Form) (content : Content) :
    Lists form (catalogIn form content) content :=
  fun _ => Or.inl rfl

theorem Lists.isSome_eq (lists : Lists form catalog content) (name : String) :
    (content (form.encode (Bytes.ofText name))).isSome = (catalog name).isSome := by
  rcases lists name with same | same
  · rw [same]
  · rw [same, Option.isSome_map]

theorem Lists.untilZero_eq (lists : Lists form catalog content) (name : String) :
    (content (form.encode (Bytes.ofText name))).map Bytes.untilZero =
      (catalog name).map Bytes.untilZero := by
  rcases lists name with same | same
  · rw [same]
  · rw [same, Option.map_map]
    exact congrArg (fun cut => (catalog name).map cut)
      (funext fun value => Bytes.untilZero_encode form value)

theorem Lists.update (lists : Lists form catalog content) (name : String)
    (value? : Option Bytes) :
    Lists form (Function.update catalog name value?)
      (Function.update content (form.encode (Bytes.ofText name)) (value?.map form.encode)) := by
  intro other
  by_cases same : other = name
  · rw [same, Function.update_self, Function.update_self]
    exact Or.inr rfl
  · have different : form.encode (Bytes.ofText other) ≠ form.encode (Bytes.ofText name) :=
      fun equal => same (Bytes.ofText_injective (form.encode_injective equal))
    rw [Function.update_of_ne same, Function.update_of_ne different]
    exact lists other

namespace Session

inductive Declined (session : Session) (contents : Contents) (room : Nat) (call : Call) :
    EngineError → Prop
  | io {cause : SystemError} (refused : session.Strained contents room call) :
      Declined session contents room call (.io cause)
  | retryLimit {cause : EngineError} (full : cause.isMapFull = true)
      (noRoom : session.HasNoRoom contents call) :
      Declined session contents room call (.retryLimit session.apiRetryLimit cause)
  | tooLarge {key value : Bytes} {keepExisting : Bool}
      (stores : call = .put key value keepExisting) (large : ¬ Record.Storable (key, value)) :
      Declined session contents room call (.invalid (.recordTooLarge key.length value.length))

end Session

namespace Profile

open Session (Answers Declined)

variable {profile : Profile} {session : Session} {contents : Contents} {room : Nat}
  {operation : Operation} {reply : Session.Reply} {result : Except DictionaryError Answer}
  {content' : Content} {seat : Seat} {next? : Option Seat}

def Agrees (profile : Profile) (session : Session) (contents : Contents) (room : Nat)
    (form : Form) (operation : Operation) (catalog : Catalog)
    (result : Except DictionaryError Answer) (next : Catalog) : Prop :=
  profile.consult catalog operation = (result, next) ∨
    (next = catalog ∧ ∃ source,
      result = .error (.engine operation.action profile.label source) ∧
      session.Declined contents room (profile.callFor form operation) source)

/-- Neither a clash nor a restart is reported as a failure of the engine. -/
theorem Reports.failed_eq {failure : EngineError}
    (reports : profile.Reports operation (.failed failure) result)
    (noClash : failure ≠ .keyExists) :
    result = .error (.ofEngine operation.action profile.label failure) := by
  cases reports with
  | kept _ => exact absurd rfl noClash
  | clashed _ => exact absurd rfl noClash
  | failed _ => rfl

theorem agrees_of_declines {call : Session.Call}
    (callEq : call = profile.callFor form operation)
    (declines : Session.Declines (session.Strained contents room call)
      (session.HasNoRoom contents call) session.apiRetryLimit content (some seat) call reply
      content' next?)
    (reports : profile.Reports operation reply result) :
    content' = content ∧ profile.Agrees session contents room form operation catalog result
      catalog := by
  have other : ∀ path flags bulk, call ≠ .open path flags bulk := by
    rw [callEq]
    cases operation <;> exact nofun
  refine ⟨declines.content_eq other, Or.inr ⟨rfl, ?_⟩⟩
  rw [← callEq]
  cases declines with
  | io _ refused => exact ⟨_, reports.failed_eq nofun, .io refused⟩
  | unopened _ => exact absurd rfl (other _ _ _)
  | emptied _ _ => exact absurd rfl (other _ _ _)
  | retryLimit _ full noRoom => exact ⟨_, reports.failed_eq nofun, .retryLimit full noRoom⟩

theorem consult_of_free (catalog : Catalog) (name : String) (value : Bytes)
    (free : catalog (profile.fold name) = none ∨ profile.flags.policy = .replace) :
    profile.consult catalog (.update name value) =
      (.ok (.updated .stored), Function.update catalog (profile.fold name) (some value)) := by
  unfold consult
  dsimp only
  rcases free with absent | replaces
  · rw [absent]
  · rw [replaces]
    cases catalog (profile.fold name) with
    | none => rfl
    | some old => rfl

/-- A name that is present, under a policy that keeps its value. -/
theorem consult_of_taken {name : String} {value old : Bytes}
    (taken : catalog (profile.fold name) = some old)
    (reports : profile.Reports (.update name value) (.failed .keyExists) result)
    (keeps : profile.flags.policy ≠ .replace) :
    profile.consult catalog (.update name value) = (result, catalog) := by
  unfold consult
  dsimp only
  rw [taken]
  cases reports with
  | kept policy =>
      rcases policy with policy | policy
      · rw [policy]
      · rw [policy]
  | clashed policy =>
      rcases policy with policy | policy
      · rw [policy]
      · exact absurd policy keeps
  | failed other => exact absurd rfl (other name value rfl)

theorem overwrites_eq_false_iff (policy : DuplicatePolicy) :
    policy.overwrites = false ↔ policy ≠ .replace := by
  cases policy <;> decide

theorem agrees_of_serves {call : Session.Call}
    (callEq : call = profile.callFor form operation)
    (serves : Session.Serves content (some seat) call reply content' next?)
    (writer : seat.readOnly = false) (lists : Lists form catalog content)
    (reports : profile.Reports operation reply result) :
    ∃ next, Lists form next content' ∧
      profile.Agrees session contents room form operation catalog result next := by
  cases operation with
  | lookup name =>
      subst callEq
      cases serves with
      | got =>
          cases reports
          refine ⟨catalog, lists, Or.inl ?_⟩
          unfold consult keyIn
          rw [lists.untilZero_eq]
  | delete name =>
      subst callEq
      cases serves with
      | deleted _ =>
          cases reports
          refine ⟨_, lists.update (profile.fold name) none, Or.inl ?_⟩
          unfold consult keyIn
          rw [lists.isSome_eq]
      | deleteReadOnly reader =>
          rw [writer] at reader
          cases reader
  | update name value =>
      subst callEq
      have present := lists.isSome_eq (profile.fold name)
      cases serves with
      | stored _ admitted =>
          cases reports
          refine ⟨_, lists.update (profile.fold name) (some value), Or.inl ?_⟩
          apply consult_of_free
          cases taken : catalog (profile.fold name) with
          | none => exact Or.inl rfl
          | some old =>
              rw [taken, Option.isSome_some] at present
              right
              by_contra keeps
              refine admitted.2 ⟨?_, Option.isSome_iff_ne_none.mp present⟩
              rw [(overwrites_eq_false_iff _).mpr keeps]
              rfl
      | denied _ denied =>
          rcases denied with ⟨large, rfl⟩ | ⟨_, clashes, rfl⟩
          · exact ⟨catalog, lists, Or.inr ⟨rfl, _, reports.failed_eq nofun,
              .tooLarge rfl large⟩⟩
          · obtain ⟨keeps, taken⟩ := clashes
            rw [← Option.isSome_iff_ne_none, keyIn, present] at taken
            obtain ⟨old, found⟩ := Option.isSome_iff_exists.mp taken
            refine ⟨catalog, lists, Or.inl (consult_of_taken found reports ?_)⟩
            rw [← overwrites_eq_false_iff]
            simpa using keeps
      | putReadOnly reader =>
          rw [writer] at reader
          cases reader

end Profile

namespace Dictionary

variable {dict : Dictionary} {file : SharedFile} {contents : Contents} {age room : Nat}

structure Sole (dict : Dictionary) (form : Form) (image : Image) (contents : Contents)
    (age : Nat) : Prop where
  holds : image.Holds contents
  writer : dict.session.Writer contents age
  single : dict.session.bulk = false
  settled : dict.encoding = .settled form

theorem Sole.withRoom (sole : dict.Sole form file.image contents age) (room : Nat) :
    (dict.withRoom room).Sole form file.image contents age :=
  ⟨sole.holds, sole.writer.withRoom room, sole.single, sole.settled⟩

theorem Sole.perform (sole : dict.Sole form file.image contents age)
    (recent : age < UInt64.size) (older : 1 ≤ age)
    (roomy : ∀ env, dict.session.env? = some env → env.room = room)
    (lists : Lists form catalog contents.records.find?) (operation : Operation) :
    ∃ result dict' file' after next, dict.perform operation file = (result, dict', file') ∧
      dict'.profile = dict.profile ∧ dict'.Sole form file'.image after age ∧
      Lists form next after.records.find? ∧
      dict.profile.Agrees dict.session contents room form operation catalog result next ∧
      ∀ key, key ≠ dict.keyIn form operation.name →
        after.records.find? key = contents.records.find? key := by
  obtain ⟨result, dict', file', performed, calls⟩ :=
    perform_calls sole.settled operation file
  obtain ⟨reply, session', acted, sessionEq, reports⟩ := calls.session
  obtain ⟨call, callEq⟩ : ∃ call, call = dict.profile.callFor form operation := ⟨_, rfl⟩
  rw [← callEq] at acted
  have refreshes : call.Refreshes := by
    rw [callEq]
    cases operation <;> trivial
  have touches : ∀ key, key ≠ dict.keyIn form operation.name → ¬ call.Touches key := by
    rw [callEq]
    intro key different
    cases operation with
    | lookup _ => exact id
    | update _ _ => exact Ne.symm different
    | delete _ => exact Ne.symm different
  obtain ⟨env, after, here, answered, writer'⟩ :=
    sole.writer.steady sole.holds sole.single recent older refreshes 0
  obtain ⟨found, there, mayWrite⟩ := sole.writer.opened
  rw [here] at there
  cases there
  have answers := answered.answers
  have plain' := answered.plain
  have holds' := answered.holds
  rw [acted] at answers plain' holds' writer'
  unfold Session.Answers at answers
  rw [Session.seat?_of_some here, roomy env here] at answers
  have sole' : dict'.Sole form file'.image after age := by
    refine ⟨holds', ?_, ?_, calls.same.encoding_eq.trans sole.settled⟩
    · rw [sessionEq]
      exact writer'.withNotifications []
    · rw [sessionEq]
      exact plain'.single
  rcases answers with serves | declines
  · obtain ⟨next, lists', agrees⟩ :=
      Profile.agrees_of_serves callEq serves mayWrite lists reports
    exact ⟨result, dict', file', after, next, performed, calls.same.profile_eq, sole', lists',
      agrees, fun key different => serves.content_eq refreshes.ne_open (touches key different)⟩
  · obtain ⟨same, agrees⟩ := Profile.agrees_of_declines callEq declines reports
    refine ⟨result, dict', file', after, catalog, performed, calls.same.profile_eq, sole', ?_,
      agrees, fun key _ => congrFun same key⟩
    rw [same]
    exact lists

/-- A record that no payload can hold is refused, unless the map cannot be mapped. -/
theorem Sole.update_tooLarge (sole : dict.Sole form file.image contents age)
    (recent : age < UInt64.size) (older : 1 ≤ age)
    (roomy : ∀ env, dict.session.env? = some env → env.room = room) (name : String)
    {value : Bytes} (large : ¬ Record.Storable (dict.keyIn form name, form.encode value))
    (mapped : Environment.Mappable room contents.header.mapSize) :
    (dict.perform (.update name value) file).1 = .error (.engine .updating dict.label
      (.invalid (.recordTooLarge (dict.keyIn form name).length (form.encode value).length))) := by
  obtain ⟨result, dict', file', performed, calls⟩ := update_calls sole.settled name value file
  obtain ⟨reply, session', acted, _, reports⟩ := calls.session
  have refreshes : (dict.profile.callFor form (.update name value)).Refreshes := trivial
  obtain ⟨env, after, here, answered, _⟩ :=
    sole.writer.steady sole.holds sole.single recent older refreshes 0
  obtain ⟨found, there, mayWrite⟩ := sole.writer.opened
  rw [here] at there
  cases there
  have answers := answered.answers
  rw [acted] at answers
  unfold Session.Answers at answers
  rw [Session.seat?_of_some here, roomy env here] at answers
  rw [performed]
  generalize after.records.find? = content at answers
  generalize dict.session.apiRetryLimit = limit, session'.seat? = next? at answers
  rcases answers with serves | declines
  · cases serves with
    | stored _ admitted => exact absurd admitted.1 large
    | denied _ denied =>
        rcases denied with ⟨_, rfl⟩ | ⟨fits, _, _⟩
        · exact reports.failed_eq nofun
        · exact absurd fits large
    | putReadOnly reader =>
        rw [mayWrite] at reader
        cases reader
  · cases declines with
    | io _ refused =>
        rcases refused with far | ⟨admitted, _⟩
        · exact absurd mapped far
        · exact absurd admitted.1 large
    | retryLimit _ _ noRoom => exact absurd noRoom.1.1 large

end Dictionary

namespace Handles

variable {world : Handles} {who : Descriptor} {dict : Dictionary} {profile : Profile}
  {contents : Contents} {age : Nat}

/-! ### Runs -/

/-- What the handle under a descriptor is asked to do, and the longest mapping that there are
addresses for meanwhile. -/
def asks (who : Descriptor) (ask : Operation × Nat) : Turn :=
  ⟨who, .obey (.perform ask.1), ask.2⟩

inductive Consults (who : Descriptor) (form : Form) (profile : Profile) :
    Handles → List (Operation × Nat) → Catalog → Catalog → Prop
  | nil {world : Handles} {catalog : Catalog} :
      Consults who form profile world [] catalog catalog
  | cons {world : Handles} {ask : Operation × Nat} {rest : List (Operation × Nat)}
      {catalog next last : Catalog} {dict : Dictionary} {contents : Contents}
      {result : Except DictionaryError Answer} (user : world.user? (asks who ask) = some dict)
      (holds : world.file.image.Holds contents)
      (answered : world.result? (asks who ask) = some (.answered result))
      (agrees : profile.Agrees dict.session contents ask.2 form ask.1 catalog result next)
      (later : Consults who form profile (world.step (asks who ask)) rest next last) :
      Consults who form profile world (ask :: rest) catalog last

theorem Consults.of_sole (asked : List (Operation × Nat))
    (here : world.handle? who = some dict)
    (sole : dict.Sole form world.file.image contents age) (recent : age < UInt64.size)
    (older : 1 ≤ age) (lists : Lists form catalog contents.records.find?) :
    ∃ last after, Consults who form dict.profile world asked catalog last ∧
      (run (asked.map (asks who)) world).file.image.Holds after ∧
      Lists form last after.records.find? ∧
      ∀ key, (∀ ask ∈ asked, key ≠ dict.keyIn form ask.1.name) →
        after.records.find? key = contents.records.find? key := by
  induction asked generalizing world dict contents catalog with
  | nil => exact ⟨catalog, contents, .nil, sole.holds, lists, fun _ _ => rfl⟩
  | cons ask rest ih =>
      obtain ⟨operation, room⟩ := ask
      have user : world.user? (asks who (operation, room)) = some (dict.withRoom room) := by
        unfold user? asks
        rw [here]
        rfl
      have roomy : ∀ env, (dict.withRoom room).session.env? = some env → env.room = room := by
        intro env found
        obtain ⟨_, _, rfl⟩ := Option.map_eq_some_iff.mp found
        rfl
      obtain ⟨result, dict', file', after, next, performed, profileEq, sole', lists', agrees,
        spared⟩ := (sole.withRoom room).perform recent older roomy lists operation
      have obeyed : (dict.withRoom room).obey (.perform operation) world.file =
          (.answered result, dict', file') := by
        unfold Dictionary.obey
        dsimp only
        rw [performed]
      obtain ⟨resulted, stepped⟩ := obey_eq rfl user obeyed
      have there : (world.step (asks who (operation, room))).handle? who = some dict' := by
        rw [stepped]
        exact Function.update_self _ _ _
      have keyEq : ∀ name, dict'.keyIn form name = dict.keyIn form name := fun name =>
        congrArg (fun profile => Profile.keyIn profile form name) profileEq
      rw [show file' = (world.step (asks who (operation, room))).file by rw [stepped]] at sole'
      obtain ⟨last, ended, consults, holds', lists'', spared'⟩ := ih there sole' lists'
      rw [profileEq] at consults
      refine ⟨last, ended, .cons user sole.holds resulted agrees consults, holds', lists'', ?_⟩
      intro key others
      rw [spared' key fun later member => ?_]
      · exact spared key (others _ List.mem_cons_self)
      · rw [keyEq]
        exact others later (List.mem_cons_of_mem _ member)

/-- A handle outside bulk mode that has settled on a form, and that nobody else comes between,
is a map from folded names to values that begins with what is stored in the form. At the end
the file holds the map, and under other keys what it held before. -/
theorem run_consults {start : Handles} {history : List Turn} (asked : List (Operation × Nat))
    (usable : start.file.image.Usable) (nobody : ∀ who, start.handle? who = none)
    (recent : 2 * (history.length + 1) ≤ UInt64.size) (sound : Along step Sound history start)
    (ran : run history start = world) (here : world.handle? who = some dict)
    (single : dict.session.bulk = false) (settled : dict.encoding = .settled form) :
    ∃ before last after, world.file.image.Holds before ∧
      Consults who form dict.profile world asked (catalogIn form before.records.find?) last ∧
      (run (asked.map (asks who)) world).file.image.Holds after ∧
      Lists form last after.records.find? ∧
      ∀ key, (∀ ask ∈ asked, key ≠ dict.keyIn form ask.1.name) →
        after.records.find? key = before.records.find? key := by
  have opened := (created_of_usable usable nobody).run (by omega) sound
  rw [ran, Nat.zero_add] at opened
  rcases opened with ⟨_, none⟩ | ⟨before, valid⟩
  · rw [none who] at here
    cases here
  have sole : dict.Sole form world.file.image before (2 * history.length + 1) :=
    ⟨valid.holds, (valid.writers who dict here).mono (Nat.le_succ _), single, settled⟩
  obtain ⟨last, after, ends⟩ := Consults.of_sole asked here sole (by omega) (by omega)
    (lists_catalogIn form before.records.find?)
  exact ⟨before, last, after, valid.holds, ends⟩

def foldingHandle : List Turn :=
  [opens 3 .create { foldCase := true, duplicateIgnore := true }]

def foldedNames : List (Operation × Nat) :=
  [(.update "A\x00b" [49, 0, 50], 65536), (.update "a\x00B" [51], 65536),
    (.lookup "A\x00B", 65536), (.update "c" [52], 65536), (.delete "C", 65536)]

def folded : Handles :=
  run (foldedNames.map (asks 3)) (run foldingHandle untouched)

set_option maxRecDepth 20000 in
theorem run_consults_foldedNames :
    (results (foldedNames.map (asks 3)) (run foldingHandle untouched)).map (·.1) =
        [some (.answered (.ok (.updated .stored))),
          some (.answered (.ok (.updated .duplicate))),
          some (.answered (.ok (.value (some [49])))),
          some (.answered (.ok (.updated .stored))), some (.answered (.ok (.deleted true)))] ∧
      ∃ profile last, Consults 3 .bare profile (run foldingHandle untouched) foldedNames
          (fun _ => none) last ∧
        last "a\x00b" = some [49, 0, 50] ∧ last "c" = none := by
  have answers : (results (foldedNames.map (asks 3)) (run foldingHandle untouched)).map (·.1) =
      [some (.answered (.ok (.updated .stored))), some (.answered (.ok (.updated .duplicate))),
        some (.answered (.ok (.value (some [49])))),
        some (.answered (.ok (.updated .stored))), some (.answered (.ok (.deleted true)))] := by
    decide +kernel
  have begun : (run foldingHandle untouched).file.image.committed = .ok Records.empty := by
    decide +kernel
  have ended : folded.file.image.committed =
      .ok (Records.empty.insert [97, 0, 98] [49, 0, 50]) := by
    decide +kernel
  have sound : Along step Sound foldingHandle untouched := ⟨rfl, trivial⟩
  obtain ⟨dict, here⟩ := Option.isSome_iff_exists.mp
    (show ((run foldingHandle untouched).handle? 3).isSome = true by decide +kernel)
  have single : dict.session.bulk = false :=
    eq_of_map_eq here (·.session.bulk) (by decide +kernel)
  have settled : dict.encoding = .settled .bare :=
    eq_of_map_eq here (·.encoding) (by decide +kernel)
  obtain ⟨before, last, after, holds, consults, holds', lists, _⟩ :=
    run_consults foldedNames (Or.inl rfl) (fun _ => rfl) (by decide) sound rfl here single settled
  rw [holds.committed_eq] at begun
  have empty : catalogIn .bare before.records.find? = fun _ => none := by
    rw [Except.ok.inj begun]
    exact funext fun name => Records.find?_empty _
  rw [empty] at consults
  have final := holds'.committed_eq
  rw [show (run (foldedNames.map (asks 3)) (run foldingHandle untouched)).file.image.committed =
    _ from ended] at final
  have listed : ∀ name, last name =
      (Records.empty.insert [97, 0, 98] [49, 0, 50]).find? (Bytes.ofText name) := by
    intro name
    rw [← Except.ok.inj final] at lists
    rcases lists name with same | same
    · exact same.symm
    · refine Eq.trans ?_ same.symm
      cases last name <;> rfl
  refine ⟨answers, dict.profile, last, consults, ?_, ?_⟩
  · rw [listed]
    decide +kernel
  · rw [listed]
    decide +kernel

/-! ### What is declined -/

def storedOne : List Turn :=
  [opens 3 .create {}, updates 3 "a" [49]]

def storedAndFar : List Turn :=
  storedOne ++ [⟨4, .open ⟨"t", .readWrite, { tryBare := true }, { mapSize := 140737488355328 },
    Owner.ofUser 0, none, 0⟩, 65536⟩]

set_option maxRecDepth 20000 in
theorem storedOne_tooLarge {value : Bytes} (long : value.length = 4294967296) :
    (run storedOne untouched).result? (updates 3 "b" value) =
      some (.answered (.error (.engine .updating "mapstore:t"
        (.invalid (.recordTooLarge 1 4294967296))))) := by
  have sound : Along step Sound storedOne untouched :=
    ⟨rfl, sound_of_mapped 4096 rfl (by decide +kernel) (by decide +kernel), trivial⟩
  obtain ⟨dict, here⟩ := Option.isSome_iff_exists.mp
    (show ((run storedOne untouched).user? (looksUp 3 "b")).isSome = true by decide +kernel)
  have single : dict.session.bulk = false :=
    eq_of_map_eq here (·.session.bulk) (by decide +kernel)
  have settled : dict.encoding = .settled .bare :=
    eq_of_map_eq here (·.encoding) (by decide +kernel)
  have key : dict.keyIn .bare "b" = [98] :=
    eq_of_map_eq here (·.keyIn .bare "b") (by decide +kernel)
  have label : dict.label = "mapstore:t" := eq_of_map_eq here (·.label) (by decide +kernel)
  have read : (Environment.readHeader (run storedOne untouched).file.image).map (·.mapSize) =
      .ok 4096 := by
    decide +kernel
  have user : (run storedOne untouched).user? (updates 3 "b" value) = some dict := here
  rcases (created_of_usable (Or.inl rfl) fun _ => rfl).run (by decide) sound with
    ⟨_, none⟩ | ⟨contents, valid⟩
  · unfold user? at here
    rw [none] at here
    cases here
  rw [valid.holds.readable] at read
  have sole : dict.Sole .bare (run storedOne untouched).file.image contents
      (0 + 2 * storedOne.length) :=
    ⟨valid.holds, valid.user here, single, settled⟩
  have roomy : ∀ env, dict.session.env? = some env → env.room = 65536 := by
    obtain ⟨found, _, rfl⟩ := Option.map_eq_some_iff.mp here
    intro env there
    obtain ⟨_, _, rfl⟩ := Option.map_eq_some_iff.mp there
    rfl
  have large : ¬ Record.Storable (dict.keyIn .bare "b", Form.bare.encode value) := by
    rintro ⟨_, short⟩
    change value.length < 4294967296 at short
    omega
  have mapped : Environment.Mappable 65536 contents.header.mapSize := by
    rw [show contents.header.mapSize = 4096 from Except.ok.inj read]
    exact ⟨by decide, by decide⟩
  have refused := sole.update_tooLarge (by decide) (by decide) roomy "b" large mapped
  rw [key, label] at refused
  change _ = Except.error (DictionaryError.engine .updating "mapstore:t"
    (.invalid (.recordTooLarge 1 value.length))) at refused
  unfold result?
  rw [user]
  change some (Dictionary.Result.answered (dict.perform (.update "b" value) _).1) = _
  rw [refused, long]

set_option maxRecDepth 20000 in
/-- A record is there, and nobody else has the file open, but it cannot be looked up because the
map has a size that cannot be mapped. And a new record is not stored when its value is too long
for any map. -/
theorem storedAndFar_declines_and_tooLarge :
    ((run storedAndFar untouched).file.image.committed =
        .ok (Records.empty.insert [97] [49]) ∧
      ((run storedAndFar untouched).handle? 4) = none ∧
      (run storedAndFar untouched).result? (looksUp 3 "a") =
        some (.answered (.error (.engine .reading "mapstore:t" (.io .outOfAddresses))))) ∧
    (run storedOne untouched).result? (updates 3 "b" (List.replicate 4294967296 0)) =
      some (.answered (.error (.engine .updating "mapstore:t"
        (.invalid (.recordTooLarge 1 4294967296))))) := by
  refine ⟨⟨?_, ?_, ?_⟩, ?_⟩
  · decide +kernel
  · decide +kernel
  · decide +kernel
  · exact storedOne_tooLarge List.length_replicate

end Handles

end RecordFile
