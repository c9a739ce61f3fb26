/-
The one form of a handle.

A handle settles once, when it updates or when it finds a record in one of the forms that it still
looks for, and the form that it settles on is the one of all that it stores and of all that it
deletes. This is so whatever the file holds at each use, whatever others do to it in between and
whatever the uses come to.
-/

import Mathlib.Data.List.Forall2
import RecordFile.Proofs.Dictionary.Forms

namespace RecordFile

/-! ### Calls and their replies -/

namespace Session

structure Exchange where
  call : Call
  reply : Reply

/-- Calls of a session one after the other, each with the reply it got. What the session has to
report is taken from it after each call. -/
inductive Exchanges : Session → Image → List Exchange → Session → Image → Prop
  | nil {session : Session} {image : Image} : Exchanges session image [] session image
  | cons {session middle last : Session} {image image' image'' : Image} {call : Call}
      {reply : Reply} {rest : List Exchange}
      (acted : session.act call 0 image = (reply, middle, image'))
      (later : Exchanges middle.silenced image' rest last image'') :
      Exchanges session image (⟨call, reply⟩ :: rest) last image''

theorem Exchanges.append {session middle last : Session} {image image' image'' : Image}
    {first second : List Exchange} (before : Exchanges session image first middle image')
    (after : Exchanges middle image' second last image'') :
    Exchanges session image (first ++ second) last image'' := by
  induction before with
  | nil => exact after
  | cons acted _ ih => exact .cons acted (ih after)

end Session

namespace Dictionary

open Session (Call Reply Exchange Exchanges)

variable {α : Type} {dict dict' dict'' : Dictionary} {file file' file'' : SharedFile}
  {first second exchanges : List Exchange} {form : Form} {command : Command}

def Names : EngineCall → Call → Prop
  | .get, .get _ => True
  | .put, .put _ _ _ => True
  | .delete, .delete _ => True
  | .seek, .seek _ => True
  | .commit, .commit => True
  | .close, .commit => True
  | _, _ => False

structure Conducts (dict : Dictionary) (file : SharedFile) (exchanges : List Exchange)
    (dict' : Dictionary) (file' : SharedFile) : Prop where
  made : Exchanges dict.session file.image exchanges dict'.session file'.image
  noted : ∃ accesses, file'.accesses = accesses ++ file.accesses ∧
    List.Forall₂ (fun (access : Access) (exchange : Exchange) =>
      Names access.call exchange.call) accesses.reverse exchanges

theorem Conducts.refl (dict : Dictionary) (file : SharedFile) : dict.Conducts file [] dict file :=
  ⟨.nil, [], rfl, .nil⟩

theorem Conducts.trans (before : dict.Conducts file first dict' file')
    (after : dict'.Conducts file' second dict'' file'') :
    dict.Conducts file (first ++ second) dict'' file'' where
  made := before.made.append after.made
  noted := by
    obtain ⟨earlier, noted, named⟩ := before.noted
    obtain ⟨later, noted', named'⟩ := after.noted
    refine ⟨later ++ earlier, by rw [noted', noted, List.append_assoc], ?_⟩
    rw [List.reverse_append]
    exact List.rel_append named named'

theorem Conducts.relabel (conducts : dict.Conducts file exchanges dict' file')
    (same : dict''.session = dict'.session) : dict.Conducts file exchanges dict'' file' :=
  ⟨same ▸ conducts.made, conducts.noted⟩

theorem accesses_lock (dict : Dictionary) (mode : LockMode) (file : SharedFile) :
    (dict.lock mode file).accesses = file.accesses := by
  unfold lock SharedFile.acquire
  split
  · rfl
  · rfl

theorem accesses_unlock (dict : Dictionary) (file : SharedFile) :
    (dict.unlock file).accesses = file.accesses := by
  unfold unlock SharedFile.release
  split
  · rfl
  · rfl

/-- Locks are not among the calls. -/
theorem Conducts.locked {mode : LockMode} {other : Dictionary}
    (conducts : dict.Conducts (other.lock mode file) exchanges dict' file') :
    dict.Conducts file exchanges dict' (other.unlock file') where
  made := by
    have made := conducts.made
    rw [image_lock] at made
    rw [image_unlock]
    exact made
  noted := by
    have noted := conducts.noted
    rw [accesses_lock] at noted
    rw [accesses_unlock]
    exact noted

theorem engine_conducts (dict : Dictionary) (name : EngineCall)
    (run : Session → Image → Except EngineError α × Session × Image) (call : Call)
    (named : Names name call) (answer : α → Reply)
    (acts : ∀ session image, session.act call 0 image =
      (Reply.of answer (run session image).1, (run session image).2))
    (file : SharedFile) {result : Except EngineError α}
    (engaged : dict.engine name run file = (result, dict', file')) :
    dict.Conducts file [⟨call, Reply.of answer result⟩] dict' file' ∧
      dict'.encoding = dict.encoding := by
  have acted := acts dict.session file.image
  rcases ran : run dict.session file.image with ⟨found, session', image'⟩
  rw [ran] at acted
  unfold engine at engaged
  rw [ran] at engaged
  cases engaged
  exact ⟨⟨.cons acted .nil, [⟨dict.descriptor, name, file.locks.held? dict.descriptor⟩], rfl,
    .cons named .nil⟩, rfl⟩

/-! ### Forms tried in order -/

inductive Tries (ask : Bytes → Call) (answer : Option α → Reply) (key : Bytes)
    (encoding : Encoding) :
    List Form → Except DictionaryError (Option α) → List Exchange → Encoding → Prop
  | nothing : Tries ask answer key encoding [] (.ok none) [] encoding
  | failed {form : Form} {rest : List Form} {failure : EngineError} {error : DictionaryError} :
      Tries ask answer key encoding (form :: rest) (.error error)
        [⟨ask (form.encode key), .failed failure⟩] encoding
  | missed {form : Form} {rest : List Form} {result : Except DictionaryError (Option α)}
      {exchanges : List Exchange} {encoding' : Encoding}
      (later : Tries ask answer key encoding rest result exchanges encoding') :
      Tries ask answer key encoding (form :: rest) result
        (⟨ask (form.encode key), answer .none⟩ :: exchanges) encoding'
  | hit {form : Form} {rest : List Form} {hit : α} :
      Tries ask answer key encoding (form :: rest) (.ok (some hit))
        [⟨ask (form.encode key), answer (some hit)⟩] (encoding.confirm form)

theorem tryForms_conducts (ask : Bytes → Call) (answer : Option α → Reply) (key : Bytes)
    (action : EngineAction)
    (attempt : Bytes → Dictionary → SharedFile →
      Except EngineError (Option α) × Dictionary × SharedFile)
    (attempts : ∀ key dict file result dict' file', attempt key dict file = (result, dict', file') →
      Conducts dict file [⟨ask key, Reply.of answer result⟩] dict' file' ∧
        dict'.encoding = dict.encoding)
    (forms : List Form) (dict : Dictionary) (file : SharedFile) :
    ∃ exchanges, Conducts dict file exchanges (tryForms key action attempt forms dict file).2.1
        (tryForms key action attempt forms dict file).2.2 ∧
      Tries ask answer key dict.encoding forms (tryForms key action attempt forms dict file).1
        exchanges (tryForms key action attempt forms dict file).2.1.encoding := by
  induction forms generalizing dict file with
  | nil => exact ⟨[], .refl dict file, .nothing⟩
  | cons form rest ih =>
      unfold tryForms
      split
      · next failed =>
          obtain ⟨conducts, same⟩ := attempts _ _ _ _ _ _ failed
          exact ⟨_, conducts, same ▸ .failed⟩
      · next dict' file' missed =>
          obtain ⟨conducts, same⟩ := attempts _ _ _ _ _ _ missed
          obtain ⟨exchanges, later, tries⟩ := ih dict' file'
          rw [same] at tries
          exact ⟨_, conducts.trans later, .missed tries⟩
      · next hit =>
          obtain ⟨conducts, same⟩ := attempts _ _ _ _ _ _ hit
          refine ⟨_, conducts.relabel rfl, ?_⟩
          dsimp only
          rw [same]
          exact .hit

/-- Either nothing was hit and nothing settled, or the form of the only hit was settled on. -/
theorem Tries.cases {ask : Bytes → Call} {answer : Option α → Reply} {key : Bytes}
    {encoding encoding' : Encoding} {forms : List Form}
    {result : Except DictionaryError (Option α)}
    (plain : ∀ failure hit, Reply.failed failure ≠ answer (some hit))
    (distinct : ∀ hit, answer none ≠ answer (some hit))
    (tries : Tries ask answer key encoding forms result exchanges encoding') :
    (encoding' = encoding ∧
      ∀ exchange ∈ exchanges, ∀ hit, exchange.reply ≠ answer (some hit)) ∨
    ∃ form ∈ forms, ∃ hit, encoding' = encoding.confirm form ∧ result = .ok (some hit) ∧
      ⟨ask (form.encode key), answer (some hit)⟩ ∈ exchanges ∧
      ∀ exchange ∈ exchanges, ∀ other, exchange.reply = answer (some other) →
        exchange.call = ask (form.encode key) := by
  induction tries with
  | nothing => exact Or.inl ⟨rfl, nofun⟩
  | failed =>
      refine Or.inl ⟨rfl, ?_⟩
      intro exchange member hit
      cases List.mem_singleton.mp member
      exact plain _ hit
  | @missed form rest result exchanges encoding' later ih =>
      rcases ih with ⟨same, noReply⟩ | ⟨found, member, hit, settled, hits, made, only⟩
      · refine Or.inl ⟨same, ?_⟩
        intro exchange member hit
        rcases List.mem_cons.mp member with rfl | later
        · exact distinct hit
        · exact noReply exchange later hit
      · refine Or.inr ⟨found, List.mem_cons_of_mem form member, hit, settled, hits,
          List.mem_cons_of_mem _ made, ?_⟩
        intro exchange member other replied
        rcases List.mem_cons.mp member with rfl | later
        · exact absurd replied (distinct other)
        · exact only exchange later other replied
  | @hit form rest hit =>
      refine Or.inr ⟨form, List.mem_cons_self, hit, rfl, rfl, List.mem_singleton.mpr rfl, ?_⟩
      intro exchange member other _
      cases List.mem_singleton.mp member
      rfl

/-- Every call asks for the key in one of the forms. -/
theorem Tries.asks {ask : Bytes → Call} {answer : Option α → Reply} {key : Bytes}
    {encoding encoding' : Encoding} {forms : List Form}
    {result : Except DictionaryError (Option α)}
    (tries : Tries ask answer key encoding forms result exchanges encoding') :
    ∀ exchange ∈ exchanges, ∃ form ∈ forms, exchange.call = ask (form.encode key) := by
  induction tries with
  | nothing => nofun
  | failed =>
      intro exchange member
      cases List.mem_singleton.mp member
      exact ⟨_, List.mem_cons_self, rfl⟩
  | missed _ ih =>
      intro exchange member
      rcases List.mem_cons.mp member with rfl | later
      · exact ⟨_, List.mem_cons_self, rfl⟩
      · obtain ⟨form, found, asked⟩ := ih exchange later
        exact ⟨form, List.mem_cons_of_mem _ found, asked⟩
  | hit =>
      intro exchange member
      cases List.mem_singleton.mp member
      exact ⟨_, List.mem_cons_self, rfl⟩

/-- A hit in a form that is still looked for leaves the handle settled on it. -/
theorem confirm_of_mem {encoding : Encoding} (candidate : form ∈ encoding.candidates) :
    encoding.confirm form = .settled form ∧ encoding.isPlausible form = true := by
  cases encoding with
  | undecided => exact ⟨rfl, rfl⟩
  | settled other =>
      cases List.mem_singleton.mp candidate
      exact ⟨rfl, beq_self_eq_true form⟩

/-! ### One command -/

def Command.Updates : Command → Prop
  | .perform (.update _ _) => True
  | _ => False

/-- What may settle a handle on a form: an update, or a lookup or deletion that finds a record
under the name in this form. -/
def Decides (form : Form) (dict : Dictionary) (command : Command) (exchanges : List Exchange) :
    Prop :=
  match command with
  | .perform (.update _ _) => True
  | .perform (.lookup name) =>
      ∃ value, ⟨.get (dict.keyIn form name), .value (some value)⟩ ∈ exchanges
  | .perform (.delete name) => ⟨.delete (dict.keyIn form name), .found true⟩ ∈ exchanges
  | _ => False

structure Conforms (form : Form) (dict : Dictionary) (command : Command)
    (exchanges : List Exchange) (result : Result) (encoding : Encoding) : Prop where
  before : dict.encoding.isPlausible form = true
  changes : encoding = dict.encoding ∨
    (dict.encoding = .undecided ∧ encoding = .settled form ∧ Decides form dict command exchanges)
  stays : ¬ command.Updates → ¬ result.Found → encoding = dict.encoding
  stores : ∀ key value keepExisting reply, ⟨.put key value keepExisting, reply⟩ ∈ exchanges →
    ∃ name given, command = .perform (.update name given) ∧ key = dict.keyIn form name ∧
      value = form.encode given
  deletes : ∀ key, ⟨.delete key, .found true⟩ ∈ exchanges →
    ∃ name, command = .perform (.delete name) ∧ key = dict.keyIn form name

theorem isPlausible_settled {encoding : Encoding} {other : Form}
    (settled : encoding = .settled other) (possible : encoding.isPlausible form = true) :
    other = form := by
  rw [settled] at possible
  exact LawfulBEq.eq_of_beq possible

/-- A handle that stays as it is, and neither stores nor deletes. -/
theorem Conforms.idle {result : Result} {encoding : Encoding}
    (possible : dict.encoding.isPlausible form = true) (same : encoding = dict.encoding)
    (stores : ∀ key value keepExisting reply,
      ⟨.put key value keepExisting, reply⟩ ∉ exchanges)
    (deletes : ∀ key, ⟨.delete key, .found true⟩ ∉ exchanges) :
    Conforms form dict command exchanges result encoding where
  before := possible
  changes := Or.inl same
  stays := fun _ _ => same
  stores := fun key value keepExisting reply made =>
    absurd made (stores key value keepExisting reply)
  deletes := fun key made => absurd made (deletes key)

/-- A handle that settles as a record is found. -/
theorem changes_of_confirm {encoding : Encoding} (settled : encoding = dict.encoding.confirm form)
    (decides : Decides form dict command exchanges) :
    encoding = dict.encoding ∨
      (dict.encoding = .undecided ∧ encoding = .settled form ∧
        Decides form dict command exchanges) := by
  cases was : dict.encoding with
  | undecided =>
      rw [was] at settled
      exact Or.inr ⟨rfl, settled, decides⟩
  | settled other =>
      rw [was] at settled
      exact Or.inl settled

theorem Tries.isPlausible_before {ask : Bytes → Call} {answer : Option α → Reply} {key : Bytes}
    {encoding encoding' : Encoding} {result : Except DictionaryError (Option α)}
    (plain : ∀ failure hit, Reply.failed failure ≠ answer (some hit))
    (distinct : ∀ hit, answer none ≠ answer (some hit))
    (tries : Tries ask answer key encoding encoding.candidates result exchanges encoding')
    (possible : encoding'.isPlausible form = true) :
    encoding.isPlausible form = true ∧
      ((encoding' = encoding ∧
          ∀ exchange ∈ exchanges, ∀ hit, exchange.reply ≠ answer (some hit)) ∨
        ∃ hit, encoding' = encoding.confirm form ∧ result = .ok (some hit) ∧
          ⟨ask (form.encode key), answer (some hit)⟩ ∈ exchanges ∧
          ∀ exchange ∈ exchanges, ∀ other, exchange.reply = answer (some other) →
            exchange.call = ask (form.encode key)) := by
  rcases tries.cases plain distinct with ⟨same, missed⟩ |
    ⟨found, member, hit, settled, hits, made, only⟩
  · rw [same] at possible
    exact ⟨possible, Or.inl ⟨same, missed⟩⟩
  · obtain ⟨settles, candidate⟩ := confirm_of_mem member
    have foundEq := isPlausible_settled (settled.trans settles) possible
    subst foundEq
    exact ⟨candidate, Or.inr ⟨hit, settled, hits, made, only⟩⟩

/-- A command that looks for a name in one form after the other. -/
theorem search_conforms (ask : Bytes → Call) (answer : Option α → Reply) (action : EngineAction)
    (mode : LockMode)
    (attempt : Bytes → Dictionary → SharedFile →
      Except EngineError (Option α) × Dictionary × SharedFile)
    (attempts : ∀ key dict file result dict' file', attempt key dict file = (result, dict', file') →
      Conducts dict file [⟨ask key, Reply.of answer result⟩] dict' file' ∧
        dict'.encoding = dict.encoding)
    (plain : ∀ failure hit, Reply.failed failure ≠ answer (some hit))
    (distinct : ∀ hit, answer none ≠ answer (some hit)) (finish : Option α → Answer)
    (finds : ∀ hit, (Result.answered (.ok (finish (some hit)))).Found) (name : String)
    (obeys : ∀ result dict' file',
      tryForms (Bytes.ofText (dict.fold name)) action attempt dict.encoding.candidates dict
        (dict.lock mode file) = (result, dict', file') →
      dict.obey command file = (.answered (result.map finish), dict', dict.unlock file'))
    (decides : ∀ exchanges hit, ⟨ask (dict.keyIn form name), answer (some hit)⟩ ∈ exchanges →
      Decides form dict command exchanges)
    (keeps : ∀ key other value keepExisting, ask key ≠ .put other value keepExisting)
    (erases : ∀ key other, ask key = .delete other →
      command = .perform (.delete name) ∧ key = other ∧ ∃ hit, answer (some hit) = .found true)
    (possible : (dict.obey command file).2.1.encoding.isPlausible form = true) :
    ∃ exchanges,
      dict.Conducts file exchanges (dict.obey command file).2.1 (dict.obey command file).2.2 ∧
      Conforms form dict command exchanges (dict.obey command file).1
        (dict.obey command file).2.1.encoding := by
  obtain ⟨exchanges, conducts, tries⟩ := tryForms_conducts ask answer
    (Bytes.ofText (dict.fold name)) action attempt attempts dict.encoding.candidates dict
    (dict.lock mode file)
  rcases tried : tryForms (Bytes.ofText (dict.fold name)) action attempt dict.encoding.candidates
    dict (dict.lock mode file) with ⟨result, dict', file'⟩
  rw [tried] at conducts tries
  rw [obeys _ _ _ tried] at possible ⊢
  obtain ⟨before, settles⟩ := tries.isPlausible_before plain distinct possible
  refine ⟨exchanges, conducts.locked, ?_⟩
  exact
    { before := before
      changes := by
        rcases settles with ⟨same, _⟩ | ⟨hit, settled, _, made, _⟩
        · exact Or.inl same
        · exact changes_of_confirm settled (decides exchanges hit made)
      stays := by
        intro _ lost
        rcases settles with ⟨same, _⟩ | ⟨hit, _, hits, _⟩
        · exact same
        · dsimp only at hits lost
          rw [hits] at lost
          exact absurd (finds hit) lost
      stores := by
        intro key value keepExisting reply made
        obtain ⟨_, _, asked⟩ := tries.asks _ made
        exact absurd asked.symm (keeps _ key value keepExisting)
      deletes := by
        intro key made
        obtain ⟨_, _, asked⟩ := tries.asks _ made
        obtain ⟨erasing, _, hit, replied⟩ := erases _ key asked.symm
        rcases settles with ⟨_, missed⟩ | ⟨_, _, _, _, only⟩
        · exact absurd replied.symm (missed _ made hit)
        · obtain ⟨_, same, _⟩ := erases _ key (only _ made hit replied.symm).symm
          exact ⟨name, erasing, same.symm⟩ }

theorem lookup_conforms (dict : Dictionary) (name : String) (file : SharedFile)
    (possible :
      (dict.obey (.perform (.lookup name)) file).2.1.encoding.isPlausible form = true) :
    ∃ exchanges, dict.Conducts file exchanges (dict.obey (.perform (.lookup name)) file).2.1
        (dict.obey (.perform (.lookup name)) file).2.2 ∧
      Conforms form dict (.perform (.lookup name)) exchanges
        (dict.obey (.perform (.lookup name)) file).1
        (dict.obey (.perform (.lookup name)) file).2.1.encoding := by
  refine search_conforms .get .value .reading .shared fetch ?_ nofun nofun
    (fun hit? => .value (hit?.map Bytes.untilZero)) (fun _ => trivial) name ?_
    (fun _ hit made => ⟨hit, made⟩) nofun nofun possible
  · intro key dict file result dict' file' fetched
    exact engine_conducts dict .get (Session.reading key) (.get key) trivial .value
      (fun _ _ => rfl) file fetched
  · intro result dict' file' tried
    unfold obey perform lookup locked
    dsimp only
    rw [tried]
    cases result <;> rfl

theorem delete_conforms (dict : Dictionary) (name : String) (file : SharedFile)
    (possible :
      (dict.obey (.perform (.delete name)) file).2.1.encoding.isPlausible form = true) :
    ∃ exchanges, dict.Conducts file exchanges (dict.obey (.perform (.delete name)) file).2.1
        (dict.obey (.perform (.delete name)) file).2.2 ∧
      Conforms form dict (.perform (.delete name)) exchanges
        (dict.obey (.perform (.delete name)) file).1
        (dict.obey (.perform (.delete name)) file).2.1.encoding := by
  refine search_conforms .delete (fun hit? => .found hit?.isSome) .deletingFrom .exclusive remove
    ?_ nofun nofun (fun hit? => .deleted hit?.isSome) (fun _ => trivial) name ?_
    (fun _ _ made => made) nofun ?_ possible
  · intro key dict file result dict' file' removed
    exact engine_conducts dict .delete (removal key) (.delete key) trivial _ (act_delete key) file
      removed
  · intro result dict' file' tried
    unfold obey perform delete locked
    dsimp only
    rw [tried]
    cases result <;> rfl
  · intro key other same
    cases same
    exact ⟨rfl, rfl, (), rfl⟩

theorem update_conforms (dict : Dictionary) (name : String) (given : Bytes) (file : SharedFile)
    (possible :
      (dict.obey (.perform (.update name given)) file).2.1.encoding.isPlausible form = true) :
    ∃ exchanges, dict.Conducts file exchanges (dict.obey (.perform (.update name given)) file).2.1
        (dict.obey (.perform (.update name given)) file).2.2 ∧
      Conforms form dict (.perform (.update name given)) exchanges
        (dict.obey (.perform (.update name given)) file).1
        (dict.obey (.perform (.update name given)) file).2.1.encoding := by
  generalize chosen : dict.encoding.formToWrite dict.defaultForm = found
  rcases engaged : (dict.settledOn found).engine .put
    ((dict.settledOn found).storing found name given)
    ((dict.settledOn found).lock .exclusive file) with ⟨stored, dict', file'⟩
  obtain ⟨conducts, same⟩ := engine_conducts _ .put _
    (.put (dict.keyIn found name) (found.encode given) (!dict.policy.overwrites)) trivial
    (fun _ => .done) (fun _ _ => rfl) _ engaged
  rw [obey_update chosen name given engaged] at possible ⊢
  obtain ⟨result, last, resulted, kept, session, _⟩ :=
    dict'.updateResult_same (dict.fold name) stored
  rw [resulted] at possible ⊢
  have settled : last.encoding = .settled found := kept.encoding_eq.trans same
  have foundEq := isPlausible_settled settled possible
  subst foundEq
  have conducted : dict.Conducts (dict.lock .exclusive file) _ last file' :=
    ⟨session ▸ conducts.made, conducts.noted⟩
  refine ⟨_, conducted.locked, ?_⟩
  exact
    { before := by
        cases was : dict.encoding with
        | undecided => rfl
        | settled other =>
            rw [was] at chosen
            exact beq_iff_eq.mpr chosen
      changes := by
        cases was : dict.encoding with
        | undecided => exact Or.inr ⟨rfl, settled, trivial⟩
        | settled other =>
            rw [was] at chosen
            exact Or.inl (settled.trans (congrArg Encoding.settled chosen.symm))
      stays := fun other => absurd trivial other
      stores := by
        intro key value keepExisting reply made
        cases List.mem_singleton.mp made
        exact ⟨name, given, rfl, rfl, rfl⟩
      deletes := by
        intro key made
        cases List.mem_singleton.mp made }

/-- A handle is committed with one call at most. -/
theorem commit_conducts (dict : Dictionary) (file : SharedFile) :
    ∃ exchanges, dict.Conducts file exchanges (dict.commit file).2.1 (dict.commit file).2.2 ∧
      (dict.commit file).2.1.encoding = dict.encoding ∧
      ∀ exchange ∈ exchanges, exchange.call = .commit := by
  unfold commit
  split
  · rcases engaged : dict.engine .commit (fun session image => session.commit image)
      (dict.lock .exclusive file) with ⟨done, dict', file'⟩
    obtain ⟨conducts, same⟩ := engine_conducts dict .commit _ .commit trivial
      (fun _ => .done) (fun _ _ => rfl) _ engaged
    unfold locked
    dsimp only
    rw [engaged]
    refine ⟨[⟨.commit, Reply.of (fun _ => .done) done⟩], ?_⟩
    cases done with
    | error failure => exact ⟨conducts.locked, same, by simp⟩
    | ok done => exact ⟨conducts.locked, same, by simp⟩
  · exact ⟨[], .refl dict file, rfl, nofun⟩

theorem close_conducts (dict : Dictionary) (file : SharedFile) :
    ∃ exchanges, dict.Conducts file exchanges (dict.close file).2.1 (dict.close file).2.2 ∧
      (dict.close file).2.1.encoding = dict.encoding ∧
      ∀ exchange ∈ exchanges, exchange.call = .commit := by
  obtain ⟨exchanges, conducts, same, commits⟩ := dict.commit_conducts file
  unfold close
  rcases committed : dict.commit file with ⟨done, dict', file'⟩
  rw [committed] at conducts same
  cases done with
  | error failure => exact ⟨exchanges, conducts, same, commits⟩
  | ok done =>
      rcases engaged : dict'.engine .close (fun session image => session.close image) file' with
        ⟨closed, dict'', file''⟩
      obtain ⟨conducts', same'⟩ := engine_conducts dict' .close _ .commit trivial
        (fun _ => .done) (fun _ _ => rfl) _ engaged
      dsimp only
      rw [engaged]
      refine ⟨exchanges ++ [⟨.commit, Reply.of (fun _ => .done) closed⟩], ?_⟩
      have commits' : ∀ exchange ∈ exchanges ++ [⟨.commit, Reply.of (fun _ => .done) closed⟩],
          exchange.call = .commit := by
        intro exchange member
        rcases List.mem_append.mp member with earlier | last
        · exact commits exchange earlier
        · cases List.mem_singleton.mp last
          rfl
      cases closed with
      | error failure => exact ⟨conducts.trans conducts', same'.trans same, commits'⟩
      | ok closed => exact ⟨conducts.trans conducts', same'.trans same, commits'⟩

theorem sequence_conducts (dict : Dictionary) (move : CursorMove) (file : SharedFile) :
    ∃ reply, dict.Conducts file [⟨.seek move, reply⟩] (dict.sequence move file).2.1
        (dict.sequence move file).2.2 ∧
      (dict.sequence move file).2.1.encoding = dict.encoding := by
  rcases engaged : dict.engineRead .seek (fun session image => session.seek move image)
    (dict.lock .shared file) with ⟨sought, dict', file'⟩
  obtain ⟨conducts, same⟩ := engine_conducts dict .seek _ (.seek move) trivial
    .record (fun _ _ => rfl) _ engaged
  refine ⟨Reply.of .record sought, ?_⟩
  unfold sequence locked
  dsimp only
  rw [engaged]
  cases sought with
  | error failure => exact ⟨conducts.locked, same⟩
  | ok record? => exact ⟨conducts.locked, same⟩

/-- The form that a handle may still turn out to have was one that it could have before. -/
theorem obey_conforms (dict : Dictionary) (command : Command) (file : SharedFile)
    (possible : (dict.obey command file).2.1.encoding.isPlausible form = true) :
    ∃ exchanges,
      dict.Conducts file exchanges (dict.obey command file).2.1 (dict.obey command file).2.2 ∧
      Conforms form dict command exchanges (dict.obey command file).1
        (dict.obey command file).2.1.encoding := by
  cases command with
  | perform operation =>
      cases operation with
      | lookup name => exact lookup_conforms dict name file possible
      | update name value => exact update_conforms dict name value file possible
      | delete name => exact delete_conforms dict name file possible
  | scan move =>
      obtain ⟨reply, conducts, same⟩ := dict.sequence_conducts move file
      change (dict.sequence move file).2.1.encoding.isPlausible form = true at possible
      rw [same] at possible
      exact ⟨_, conducts, .idle possible same (by simp) (by simp)⟩
  | commit =>
      obtain ⟨exchanges, conducts, same, commits⟩ := dict.commit_conducts file
      change (dict.commit file).2.1.encoding.isPlausible form = true at possible
      rw [same] at possible
      exact ⟨exchanges, conducts, .idle possible same
        (fun _ _ _ _ made => nomatch commits _ made) (fun _ made => nomatch commits _ made)⟩
  | close =>
      obtain ⟨exchanges, conducts, same, commits⟩ := dict.close_conducts file
      change (dict.close file).2.1.encoding.isPlausible form = true at possible
      rw [same] at possible
      exact ⟨exchanges, conducts, .idle possible same
        (fun _ _ _ _ made => nomatch commits _ made) (fun _ made => nomatch commits _ made)⟩
  | drop => exact ⟨[], .refl dict file, .idle possible rfl (by simp) (by simp)⟩

/-! ### The life of a handle -/

structure Use where
  command : Command
  room : Nat
  file : SharedFile

def used (dict : Dictionary) (use : Use) : Result × Dictionary × SharedFile :=
  (dict.withRoom use.room).obey use.command use.file

inductive Lives (form : Form) : Dictionary → List Use → Prop
  | nil {dict : Dictionary} : Lives form dict []
  | cons {dict : Dictionary} {use : Use} {rest : List Use} {exchanges : List Exchange}
      (conducts : (dict.withRoom use.room).Conducts use.file exchanges (dict.used use).2.1
        (dict.used use).2.2)
      (conforms : Conforms form (dict.withRoom use.room) use.command exchanges (dict.used use).1
        (dict.used use).2.1.encoding)
      (later : Lives form (dict.used use).2.1 rest) : Lives form dict (use :: rest)

def after (dict : Dictionary) (uses : List Use) : Dictionary :=
  uses.foldl (fun dict use => (dict.used use).2.1) dict

/-- The form is read off the handle at the end, and holds for it from the start. -/
theorem lives_of_isPlausible (uses : List Use) (dict : Dictionary)
    (possible : (dict.after uses).encoding.isPlausible form = true) :
    dict.encoding.isPlausible form = true ∧ Lives form dict uses := by
  induction uses generalizing dict with
  | nil => exact ⟨possible, .nil⟩
  | cons use rest ih =>
      obtain ⟨next, later⟩ := ih (dict.used use).2.1 possible
      obtain ⟨exchanges, conducts, conforms⟩ :=
        (dict.withRoom use.room).obey_conforms use.command use.file next
      exact ⟨conforms.before, .cons conducts conforms later⟩

/-- A handle never mixes forms. In every use its encoding stays, or it changes from undecided to
the one form in an update, or in a lookup or a deletion that finds a record under the name in
this form. Everything that it stores, key and value, is in this form, and so is the key of
everything that it deletes, which is the key of the name asked for. -/
theorem never_mixes_forms (dict : Dictionary) (uses : List Use) : ∃ form, Lives form dict uses := by
  cases ended : (dict.after uses).encoding with
  | undecided =>
      have possible : (dict.after uses).encoding.isPlausible .bare = true := by
        rw [ended]
        rfl
      exact ⟨.bare, (lives_of_isPlausible uses dict possible).2⟩
  | settled form =>
      have possible : (dict.after uses).encoding.isPlausible form = true := by
        rw [ended]
        exact beq_self_eq_true form
      exact ⟨form, (lives_of_isPlausible uses dict possible).2⟩

end Dictionary

end RecordFile
