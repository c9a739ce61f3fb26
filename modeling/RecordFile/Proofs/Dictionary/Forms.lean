/-
Commands to a handle that has not settled on a form yet.

A key in one form, of a name without zero bytes, is not a key in the other form of any such name:
a terminated key ends in a zero byte, and a bare one has none. On a file with keys of one form a
handle that tries both therefore finds what a handle finds that has settled on this form at its
open, and is left in the same state but for the form.
-/

import RecordFile.Proofs.Dictionary.Updates
import RecordFile.Proofs.Session.Searching

namespace RecordFile

namespace Bytes

/-! ### Zero bytes in texts -/

theorem mod_eq_zero_of_ofNat {n : Nat} (zero : 0 = UInt8.ofNat n) : n % 256 = 0 := by
  have same := congrArg UInt8.toNat zero
  rw [UInt8.toNat_ofNat'] at same
  exact same.symm

/-- In UTF-8 a zero byte stands for the character zero alone. -/
theorem eq_of_zero_mem_utf8EncodeChar {c : Char} (zero : 0 ∈ String.utf8EncodeChar c) :
    c = '\x00' := by
  have small : c.val.toNat = 0 := by
    unfold String.utf8EncodeChar at zero
    dsimp only at zero
    split at zero
    · rw [List.mem_singleton] at zero
      have := mod_eq_zero_of_ofNat zero
      omega
    · exfalso
      split at zero
      · simp only [List.mem_cons, List.not_mem_nil, or_false] at zero
        rcases zero with zero | zero
        all_goals
          have := mod_eq_zero_of_ofNat zero
          omega
      · split at zero
        · simp only [List.mem_cons, List.not_mem_nil, or_false] at zero
          rcases zero with zero | zero | zero
          all_goals
            have := mod_eq_zero_of_ofNat zero
            omega
        · simp only [List.mem_cons, List.not_mem_nil, or_false] at zero
          rcases zero with zero | zero | zero | zero
          all_goals
            have := mod_eq_zero_of_ofNat zero
            omega
  exact Char.ext (UInt32.toNat_inj.mp small)

theorem zero_mem_ofText_iff (text : String) : 0 ∈ ofText text ↔ '\x00' ∈ text.toList := by
  have encoded : ofText text = text.toList.flatMap String.utf8EncodeChar := by
    unfold ofText
    rw [← String.utf8Encode_toList, List.utf8Encode, List.data_toByteArray]
  rw [encoded, List.mem_flatMap]
  constructor
  · rintro ⟨c, member, zero⟩
    rwa [eq_of_zero_mem_utf8EncodeChar zero] at member
  · intro member
    exact ⟨_, member, by decide⟩

theorem zero_not_mem_toLower {text : String} (free : 0 ∉ ofText text) :
    0 ∉ ofText (text.map Char.toLower) := by
  rw [zero_mem_ofText_iff] at free ⊢
  rw [String.toList_map, List.mem_map]
  rintro ⟨c, member, same⟩
  unfold Char.toLower at same
  split at same
  · next upper =>
      have letter : c.val.toNat ≤ 90 := upper.2
      have zero := congrArg (·.val.toNat) same
      change (c.val.toNat + 32) % 4294967296 = 0 at zero
      omega
  · subst same
    exact free member

end Bytes

namespace Form

def other : Form → Form
  | terminated => bare
  | bare => terminated

def Encodes (form : Form) (key : Bytes) : Prop :=
  ∃ data, key = form.encode data ∧ 0 ∉ data

theorem not_encodes_other (form : Form) {data : Bytes} (free : 0 ∉ data) :
    ¬ form.Encodes (form.other.encode data) := by
  rintro ⟨found, same, free'⟩
  cases form with
  | terminated =>
      change data = found ++ [0] at same
      rw [same] at free
      exact free (List.mem_append_right found List.mem_cons_self)
  | bare =>
      change data ++ [0] = found at same
      rw [← same] at free'
      exact free' (List.mem_append_right data List.mem_cons_self)

end Form

/-- A file without bytes, or a database with all keys in this form for names without zero bytes. -/
def Image.InForm (form : Form) (image : Image) : Prop :=
  image.size = 0 ∨
    ∃ contents, image.Holds contents ∧
      ∀ key, contents.records.find? key ≠ none → form.Encodes key

namespace SharedFile

structure Matches (file file' : SharedFile) : Prop where
  image_eq : file'.image = file.image
  modified_eq : file'.modified = file.modified
  locks_eq : file'.locks = file.locks

variable {file file' file'' : SharedFile}

theorem Matches.refl (file : SharedFile) : file.Matches file :=
  ⟨rfl, rfl, rfl⟩

theorem Matches.trans (first : file.Matches file') (second : file'.Matches file'') :
    file.Matches file'' :=
  ⟨second.image_eq.trans first.image_eq, second.modified_eq.trans first.modified_eq,
    second.locks_eq.trans first.locks_eq⟩

end SharedFile

namespace Dictionary

open Session (Search Lawabiding)

variable {dict dict' : Dictionary} {form : Form} {file file' : SharedFile} {α : Type}

def pinned (dict : Dictionary) (form : Form) : Dictionary :=
  { dict with
    encoding := .settled form
    flags := (Encoding.settled form).showIn dict.flags }

/-- The handle has settled on the form, or it is undecided and all keys are in the form. -/
def Awaits (dict : Dictionary) (form : Form) (image : Image) : Prop :=
  dict.encoding = .settled form ∨
    (dict.encoding = .undecided ∧
      ∃ contents, dict.session.Lawful form.Encodes image contents)

structure Mirrors (form : Form) (outcome outcome' : α × Dictionary × SharedFile) : Prop where
  result_eq : outcome'.1 = outcome.1
  dict_eq : outcome'.2.1 = outcome.2.1.pinned form
  file : outcome.2.2.Matches outcome'.2.2

structure Continues (dict : Dictionary) (form : Form) (dict' : Dictionary) (image : Image) :
    Prop where
  awaits : dict'.Awaits form image
  stays : dict.encoding = .settled form → dict'.encoding = .settled form
  default_eq : dict'.defaultForm = dict.defaultForm

theorem Awaits.withRoom (awaits : dict.Awaits form file.image) (room : Nat) :
    (dict.withRoom room).Awaits form file.image :=
  awaits.imp_right fun ⟨undecided, contents, lawful⟩ =>
    ⟨undecided, contents, lawful.withRoom room⟩

theorem Awaits.formToWrite_eq (awaits : dict.Awaits form file.image)
    (chosen : dict.defaultForm = form ∨ dict.encoding = .settled form) :
    dict.encoding.formToWrite dict.defaultForm = form := by
  rcases awaits with settled | ⟨undecided, _⟩
  · rw [settled]
    rfl
  · rcases chosen with default | settled
    · rw [undecided]
      exact default
    · rw [settled]
      rfl

/-! ### The engine -/

def heard (dict : Dictionary) (session : Session) : Dictionary :=
  { dict with
    session := session.silenced
    log := dict.log ++ session.notifications.map (notificationLine dict.label) }

theorem heard_told (dict : Dictionary) (session session' : Session) :
    dict.heard (session'.told session.notifications) = (dict.heard session).heard session' := by
  unfold heard Session.told Session.silenced label
  dsimp only
  rw [List.map_append, List.append_assoc]

theorem engine_heard (dict : Dictionary) (call : EngineCall)
    (run : Session → Image → α × Session × Image) (file : SharedFile) {result : α}
    {session' : Session} {image' : Image}
    (ran : run dict.session file.image = (result, session', image')) :
    ∃ file', dict.engine call run file = (result, dict.heard session', file') ∧
      file'.image = image' ∧ file'.modified = file.modified ∧ file'.locks = file.locks := by
  unfold engine
  rw [ran]
  exact ⟨_, rfl, rfl, rfl, rfl⟩

def probe (call : EngineCall) (search : Search α) (key : Bytes) (dict : Dictionary)
    (file : SharedFile) : Except EngineError (Option α) × Dictionary × SharedFile :=
  dict.engine call (search key) file

theorem fetch_eq_probe : fetch = probe .get Session.reading := rfl

theorem remove_eq_probe : remove = probe .delete Session.removing := rfl

theorem defaultForm_of_open {session : Session} {path : String} {mode : OpenMode}
    {flags : DictionaryFlags} {config : DictionaryConfig} {descriptor : Descriptor}
    {owner : Owner} {room : Nat} {source? : Option Nat} {now : Nat}
    (opened : Dictionary.open session path mode flags config descriptor owner room source? now
      file = (.ok dict, file')) : dict.defaultForm = config.defaultForm := by
  unfold Dictionary.open at opened
  split at opened
  · cases opened
  · cases opened
    rfl

/-! ### One form or two -/

def tried (dict : Dictionary) (action : EngineAction) (form : Form) :
    Except EngineError (Option α) → Except DictionaryError (Option α) × Dictionary
  | .error failure => (.error (.ofEngine action dict.label failure), dict)
  | .ok none => (.ok none, dict)
  | .ok (some hit) => (.ok (some hit), { dict with encoding := dict.encoding.confirm form })

theorem tryForms_last {key : Bytes} {action : EngineAction}
    {attempt : Bytes → Dictionary → SharedFile →
      Except EngineError (Option α) × Dictionary × SharedFile} {forms : List Form}
    {found : Except EngineError (Option α)}
    (ran : attempt (form.encode key) dict file = (found, dict', file'))
    (last : found = .ok none → forms = []) :
    tryForms key action attempt (form :: forms) dict file =
      ((dict'.tried action form found).1, (dict'.tried action form found).2, file') := by
  unfold tryForms tried
  rw [ran]
  rcases found with failure | hit?
  · rfl
  · cases hit? with
    | none =>
        rw [last rfl]
        rfl
    | some hit => rfl

theorem tryForms_next {key : Bytes} {action : EngineAction}
    {attempt : Bytes → Dictionary → SharedFile →
      Except EngineError (Option α) × Dictionary × SharedFile} {forms : List Form}
    (ran : attempt (form.encode key) dict file = (.ok none, dict', file')) :
    tryForms key action attempt (form :: forms) dict file =
      tryForms key action attempt forms dict' file' := by
  rw [tryForms, ran]

theorem heard_silenced (dict : Dictionary) (session : Session) :
    (dict.heard session).heard session.silenced = dict.heard session := by
  rw [← heard_told, Session.silenced_told]

/-- Looking in both forms comes to the same as looking in the one that the keys are in. -/
theorem tryForms_narrows {search : Search α} (abides : Lawabiding search form.Encodes)
    (call : EngineCall) (action : EngineAction) {contents : Contents}
    (lawful : dict.session.Lawful form.Encodes file.image contents) {key : Bytes}
    (free : 0 ∉ key) :
    ∃ result dict' file₁ file₂,
      tryForms key action (probe call search) Encoding.undecided.candidates dict file =
        (result, dict', file₁) ∧
      tryForms key action (probe call search) [form] dict file = (result, dict', file₂) ∧
      file₁.Matches file₂ := by
  cases abides.searches lawful with
  | fails failure session' same =>
      obtain ⟨file₁, ran₁, image₁, modified₁, locks₁⟩ :=
        dict.engine_heard call (search (Form.terminated.encode key)) file (same _)
      obtain ⟨file₂, ran₂, image₂, modified₂, locks₂⟩ :=
        dict.engine_heard call (search (form.encode key)) file (same _)
      have one : tryForms key action (probe call search) [form] dict file = _ :=
        tryForms_last ran₂ nofun
      exact ⟨_, _, file₁, file₂, tryForms_last ran₁ nofun, one,
        image₂.trans image₁.symm, modified₂.trans modified₁.symm, locks₂.trans locks₁.symm⟩
  | looks session' misses missed again =>
      have absent := misses _ (form.not_encodes_other free)
      cases form with
      | terminated =>
          rcases found : search (Form.terminated.encode key) dict.session file.image with
            ⟨result, found', image'⟩
          obtain ⟨file₁, ran, image₁, modified₁, locks₁⟩ :=
            dict.engine_heard call (search (Form.terminated.encode key)) file found
          by_cases nothing : result = .ok none
          · subst nothing
            obtain ⟨rfl, rfl⟩ := missed _ _ _ found
            have twice := Session.missed_again absent (again _)
            rw [← image₁] at twice
            obtain ⟨file₂, ran', image₂, modified₂, locks₂⟩ :=
              (dict.heard found').engine_heard call (search (Form.bare.encode key)) file₁ twice
            rw [heard_silenced] at ran'
            have one : tryForms key action (probe call search) [.terminated] dict file = _ :=
              tryForms_last ran fun _ => rfl
            exact ⟨_, _, file₂, file₁, (tryForms_next ran).trans (tryForms_last ran' fun _ => rfl),
              one, image₂.symm, modified₂.symm, locks₂.symm⟩
          · exact ⟨_, _, file₁, file₁, tryForms_last ran fun none => absurd none nothing,
              tryForms_last ran fun _ => rfl, .refl file₁⟩
      | bare =>
          obtain ⟨file₁, ran, image₁, modified₁, locks₁⟩ :=
            dict.engine_heard call (search (Form.terminated.encode key)) file absent
          rcases found : search (Form.bare.encode key) session'.silenced file.image with
            ⟨result, found', image'⟩
          have direct := again (Form.bare.encode key)
          rw [found] at direct
          rw [← image₁] at found
          obtain ⟨file₂, ran', image₂, modified₂, locks₂⟩ :=
            (dict.heard session').engine_heard call (search (Form.bare.encode key)) file₁ found
          obtain ⟨file₃, ran'', image₃, modified₃, locks₃⟩ :=
            dict.engine_heard call (search (Form.bare.encode key)) file direct
          rw [heard_told] at ran''
          exact ⟨_, _, file₂, file₃, (tryForms_next ran).trans (tryForms_last ran' fun _ => rfl),
            tryForms_last ran'' fun _ => rfl, image₃.trans image₂.symm,
            modified₃.trans (modified₁.symm.trans modified₂.symm),
            locks₃.trans (locks₁.symm.trans locks₂.symm)⟩

theorem Awaits.narrows (awaits : dict.Awaits form file.image) {search : Search α}
    (abides : Lawabiding search form.Encodes) (call : EngineCall) (action : EngineAction)
    {key : Bytes} (free : 0 ∉ key) :
    ∃ result dict' file₁ file₂,
      tryForms key action (probe call search) dict.encoding.candidates dict file =
        (result, dict', file₁) ∧
      tryForms key action (probe call search) [form] dict file = (result, dict', file₂) ∧
      file₁.Matches file₂ := by
  rcases awaits with settled | ⟨undecided, _, lawful⟩
  · rw [settled]
    exact ⟨_, _, _, _, rfl, rfl, .refl _⟩
  · rw [undecided]
    exact tryForms_narrows abides call action lawful free

theorem tried_pinned (dict : Dictionary) (action : EngineAction) (form : Form)
    (found : Except EngineError (Option α)) :
    (dict.pinned form).tried action form found =
      ((dict.tried action form found).1, (dict.tried action form found).2.pinned form) := by
  rcases found with failure | hit?
  · rfl
  · cases hit? with
    | none => rfl
    | some hit => rfl

theorem Awaits.confirm (awaits : dict.Awaits form file.image) :
    dict.encoding.confirm form = .settled form := by
  rcases awaits with settled | ⟨undecided, _⟩
  · rw [settled]
    rfl
  · rw [undecided]
    rfl

/-- A search that finds nothing leaves an undecided handle with keys of the same form. -/
theorem Awaits.heard (awaits : dict.Awaits form file.image) {session' : Session} {image' : Image}
    (kept : ∀ contents, dict.session.Lawful form.Encodes file.image contents →
      ∃ after, session'.Lawful form.Encodes image' after) :
    dict.Continues form (dict.heard session') image' where
  awaits := by
    rcases awaits with settled | ⟨undecided, contents, lawful⟩
    · exact Or.inl settled
    · obtain ⟨after, lawful'⟩ := kept contents lawful
      exact Or.inr ⟨undecided, after, lawful'.silenced⟩
  stays := id
  default_eq := rfl

theorem Awaits.tried (awaits : dict.Awaits form file.image) {search : Search α}
    (abides : Lawabiding search form.Encodes) {key : Bytes} (action : EngineAction)
    {found : Except EngineError (Option α)} {session' : Session} {image' : Image}
    (ran : search key dict.session file.image = (found, session', image')) :
    dict.Continues form ((dict.heard session').tried action form found).2 image' ∧
      ∀ hit, found = .ok (some hit) →
        ((dict.heard session').tried action form found).2.encoding = .settled form := by
  rcases found with failure | hit?
  · exact ⟨awaits.heard fun _ lawful => abides.keeps lawful ran nofun, nofun⟩
  · cases hit? with
    | none => exact ⟨awaits.heard fun _ lawful => abides.keeps lawful ran nofun, nofun⟩
    | some hit =>
        have settles := awaits.confirm
        exact ⟨⟨Or.inl settles, fun _ => settles, rfl⟩, fun _ _ => settles⟩

/-- Finding a name in the forms that are left, and in the form that was settled at the open. -/
theorem Awaits.tryForms_mirrors (awaits : dict.Awaits form file.image) {search : Search α}
    (abides : Lawabiding search form.Encodes) (call : EngineCall) (action : EngineAction)
    {key : Bytes} (free : 0 ∉ key) (same : file.Matches file') :
    ∃ result dict' file₁ file₂,
      tryForms key action (probe call search) dict.encoding.candidates dict file =
        (result, dict', file₁) ∧
      tryForms key action (probe call search) (dict.pinned form).encoding.candidates
        (dict.pinned form) file' = (result, dict'.pinned form, file₂) ∧
      file₁.Matches file₂ ∧ dict.Continues form dict' file₁.image ∧
      ∀ hit, result = .ok (some hit) → dict'.encoding = .settled form := by
  obtain ⟨result, dict', file₁, file₂, both, one, narrowed⟩ :=
    awaits.narrows abides call action free
  rcases ran : search (form.encode key) dict.session file.image with ⟨found, session', image'⟩
  have ran' : search (form.encode key) (dict.pinned form).session file'.image =
      (found, session', image') := by
    rw [same.image_eq]
    exact ran
  obtain ⟨last, engaged, image₂, modified₂, locks₂⟩ :=
    dict.engine_heard call (search (form.encode key)) file ran
  obtain ⟨last', engaged', image₃, modified₃, locks₃⟩ :=
    (dict.pinned form).engine_heard call (search (form.encode key)) file' ran'
  have here : tryForms key action (probe call search) [form] dict file = _ :=
    tryForms_last engaged fun _ => rfl
  have there : tryForms key action (probe call search) [form] (dict.pinned form) file' = _ :=
    tryForms_last engaged' fun _ => rfl
  obtain ⟨continues, settles⟩ := awaits.tried abides action ran
  rw [show (dict.pinned form).heard session' = (dict.heard session').pinned form from rfl,
    tried_pinned] at there
  rw [one, Prod.mk.injEq, Prod.mk.injEq] at here
  obtain ⟨resultEq, dictEq, rfl⟩ := here
  rw [← resultEq, ← dictEq] at there
  rw [← dictEq] at continues settles
  refine ⟨result, dict', file₁, last', both, there, ?_, ?_, ?_⟩
  · exact narrowed.trans ⟨image₃.trans image₂.symm,
      modified₃.trans (same.modified_eq.trans modified₂.symm),
      locks₃.trans (same.locks_eq.trans locks₂.symm)⟩
  · rw [← narrowed.image_eq, image₂]
    exact continues
  · intro hit hits
    apply settles hit
    rw [resultEq] at hits
    rcases found with failure | hit?
    · cases hits
    · cases hit? with
      | none => cases hits
      | some found =>
          cases hits
          rfl

/-! ### Commands -/

def Result.Found : Result → Prop
  | .answered (.ok (.value (some _))) => True
  | .answered (.ok (.deleted true)) => True
  | _ => False

/-- A name without zero bytes is looked up, updated or deleted, or the records are scanned. -/
def Command.ZeroFree : Command → Prop
  | .perform operation => 0 ∉ Bytes.ofText operation.name
  | .scan _ => True
  | _ => False

structure Accords (dict : Dictionary) (form : Form)
    (outcome outcome' : Result × Dictionary × SharedFile) : Prop where
  mirrors : Mirrors form outcome outcome'
  continues : dict.Continues form outcome.2.1 outcome.2.2.image
  settles : outcome.1.Found → outcome.2.1.encoding = .settled form

theorem lock_matches (same : file.Matches file') (dict : Dictionary) (mode : LockMode) :
    (dict.lock mode file).Matches (dict.lock mode file') := by
  unfold lock
  split
  · exact ⟨same.image_eq, same.modified_eq,
      congrArg (fun locks => locks.acquire dict.descriptor mode) same.locks_eq⟩
  · exact same

theorem unlock_matches (same : file.Matches file') (dict : Dictionary) :
    (dict.unlock file).Matches (dict.unlock file') := by
  unfold unlock
  split
  · exact ⟨same.image_eq, same.modified_eq,
      congrArg (fun locks => locks.release dict.descriptor) same.locks_eq⟩
  · exact same

theorem zero_not_mem_fold (dict : Dictionary) {name : String} (free : 0 ∉ Bytes.ofText name) :
    0 ∉ Bytes.ofText (dict.fold name) := by
  unfold fold
  split
  · exact Bytes.zero_not_mem_toLower free
  · exact free

theorem Awaits.search_accords (awaits : dict.Awaits form file.image) (same : file.Matches file')
    {search : Search α} (abides : Lawabiding search form.Encodes) (call : EngineCall)
    (action : EngineAction) (mode : LockMode) (finish : Option α → Answer) {name : String}
    (free : 0 ∉ Bytes.ofText name) {command : Command}
    (obeys : ∀ dict file outcome,
      tryForms (Bytes.ofText (fold dict name)) action (probe call search)
        dict.encoding.candidates dict (dict.lock mode file) = outcome →
      dict.obey command file =
        (.answered (outcome.1.map finish), outcome.2.1, dict.unlock outcome.2.2))
    (finds : ∀ hit?, (Result.answered (.ok (finish hit?))).Found → ∃ hit, hit? = some hit) :
    dict.Accords form (dict.obey command file) ((dict.pinned form).obey command file') := by
  rw [← image_lock dict mode] at awaits
  obtain ⟨result, dict', file₁, file₂, both, one, same', continues, settles⟩ :=
    awaits.tryForms_mirrors abides call action (dict.zero_not_mem_fold free)
      (lock_matches same dict mode)
  rw [obeys dict file _ both, obeys (dict.pinned form) file' _ one]
  refine ⟨⟨rfl, rfl, unlock_matches same' dict⟩, ?_, ?_⟩
  · rw [image_unlock]
    exact continues
  · intro found
    cases result with
    | error failure => exact found.elim
    | ok hit? =>
        obtain ⟨hit, rfl⟩ := finds hit? found
        exact settles hit rfl

theorem Awaits.lookup_accords (awaits : dict.Awaits form file.image) (same : file.Matches file')
    {name : String} (free : 0 ∉ Bytes.ofText name) :
    dict.Accords form (dict.obey (.perform (.lookup name)) file)
      ((dict.pinned form).obey (.perform (.lookup name)) file') := by
  refine awaits.search_accords same (Session.lawabiding_reading form.Encodes) .get .reading
    .shared (fun hit? => .value (hit?.map Bytes.untilZero)) free ?_ ?_
  · rintro dict file ⟨result, dict', last⟩ tried
    unfold obey perform lookup locked
    dsimp only
    rw [fetch_eq_probe, tried]
    cases result with
    | error failure => rfl
    | ok hit? => rfl
  · intro hit? found
    cases hit? with
    | none => exact found.elim
    | some hit => exact ⟨hit, rfl⟩

theorem Awaits.delete_accords (awaits : dict.Awaits form file.image) (same : file.Matches file')
    {name : String} (free : 0 ∉ Bytes.ofText name) :
    dict.Accords form (dict.obey (.perform (.delete name)) file)
      ((dict.pinned form).obey (.perform (.delete name)) file') := by
  refine awaits.search_accords same (Session.lawabiding_removing form.Encodes) .delete
    .deletingFrom .exclusive (fun hit? => .deleted hit?.isSome) free ?_ ?_
  · rintro dict file ⟨result, dict', last⟩ tried
    unfold obey perform delete locked
    dsimp only
    rw [remove_eq_probe, tried]
    cases result with
    | error failure => rfl
    | ok hit? => rfl
  · intro hit? found
    cases hit? with
    | none => exact found.elim
    | some hit => exact ⟨hit, rfl⟩

theorem engine_mirrors (dict : Dictionary) (form : Form) (same : file.Matches file')
    (call : EngineCall) (run : Session → Image → α × Session × Image) :
    ∃ result session' file₁ file₂, run dict.session file.image = (result, session', file₁.image) ∧
      dict.engine call run file = (result, dict.heard session', file₁) ∧
      (dict.pinned form).engine call run file' =
        (result, (dict.heard session').pinned form, file₂) ∧ file₁.Matches file₂ := by
  rcases ran : run dict.session file.image with ⟨result, session', image'⟩
  have ran' : run (dict.pinned form).session file'.image = (result, session', image') := by
    rw [same.image_eq]
    exact ran
  obtain ⟨file₁, engaged, image₁, modified₁, locks₁⟩ := dict.engine_heard call run file ran
  obtain ⟨file₂, engaged', image₂, modified₂, locks₂⟩ :=
    (dict.pinned form).engine_heard call run file' ran'
  exact ⟨result, session', file₁, file₂, by rw [image₁], engaged, engaged',
    image₂.trans image₁.symm, modified₂.trans (same.modified_eq.trans modified₁.symm),
    locks₂.trans (same.locks_eq.trans locks₁.symm)⟩

theorem updateResult_pinned (dict : Dictionary) (form : Form) (key : String)
    (stored : Except EngineError Unit) :
    (dict.pinned form).updateResult key stored =
      ((dict.updateResult key stored).1, (dict.updateResult key stored).2.pinned form) := by
  unfold updateResult
  rw [show (dict.pinned form).policy = dict.policy from rfl]
  split
  · rfl
  · cases dict.policy <;> rfl
  · rfl

def settledOn (dict : Dictionary) (form : Form) : Dictionary :=
  { dict with encoding := .settled form }

def storing (dict : Dictionary) (form : Form) (name : String) (value : Bytes)
    (session : Session) (image : Image) : Except EngineError Unit × Session × Image :=
  session.put (form.encode (Bytes.ofText (dict.fold name))) (form.encode value)
    (!dict.policy.overwrites) image

theorem obey_update (chosen : dict.encoding.formToWrite dict.defaultForm = form) (name : String)
    (value : Bytes) {stored : Except EngineError Unit}
    (engaged : (dict.settledOn form).engine .put ((dict.settledOn form).storing form name value)
      ((dict.settledOn form).lock .exclusive file) = (stored, dict', file')) :
    dict.obey (.perform (.update name value)) file =
      (.answered ((dict'.updateResult (dict.fold name) stored).1.map .updated),
        (dict'.updateResult (dict.fold name) stored).2, dict.unlock file') := by
  unfold storing settledOn at engaged
  unfold obey perform update locked Encoding.forWrite
  dsimp only
  rw [chosen]
  change engine _ _ (fun session image => session.put (form.encode (Bytes.ofText (dict.fold name)))
    _ _ image) _ = _ at engaged
  rw [engaged]
  rfl

/-- An update settles the handle, on its default form if it is still undecided. -/
theorem update_accords (same : file.Matches file')
    (chosen : dict.encoding.formToWrite dict.defaultForm = form) (name : String)
    (value : Bytes) :
    dict.Accords form (dict.obey (.perform (.update name value)) file)
      ((dict.pinned form).obey (.perform (.update name value)) file') := by
  obtain ⟨stored, session', file₁, file₂, _, engaged, engaged', same'⟩ :=
    engine_mirrors (dict.settledOn form) form (lock_matches same (dict.settledOn form) .exclusive)
      .put ((dict.settledOn form).storing form name value)
  have here := obey_update chosen name value engaged
  have there := obey_update (show (dict.pinned form).encoding.formToWrite _ = form from rfl)
    name value engaged'
  generalize settledEq : (dict.settledOn form).heard session' = dict' at here there
  rw [updateResult_pinned, show (dict.pinned form).fold name = dict.fold name from rfl] at there
  obtain ⟨result, last, resulted, kept, _⟩ := dict'.updateResult_same (dict.fold name) stored
  rw [resulted] at here there
  have settled : last.encoding = .settled form := by
    rw [kept.encoding_eq, ← settledEq]
    rfl
  have default : last.defaultForm = dict.defaultForm := by
    rw [show last.defaultForm = dict'.defaultForm from congrArg Profile.defaultForm kept.profile_eq,
      ← settledEq]
    rfl
  rw [here, there]
  refine ⟨⟨rfl, rfl, unlock_matches same' dict⟩, ⟨Or.inl settled, fun _ => settled, default⟩,
    fun found => ?_⟩
  cases result with
  | error failure => exact found.elim
  | ok outcome => exact found.elim

theorem Awaits.scan_accords (awaits : dict.Awaits form file.image) (same : file.Matches file')
    (move : CursorMove) :
    dict.Accords form (dict.obey (.scan move) file)
      ((dict.pinned form).obey (.scan move) file') := by
  have awaits' := awaits
  rw [← image_lock dict .shared] at awaits'
  obtain ⟨found, session', file₁, file₂, ran, engaged, engaged', same'⟩ :=
    engine_mirrors dict form (lock_matches same dict .shared) .seek
      (fun session image => ((session.seek move image).1, (session.seek move image).2, image))
  have continues : dict.Continues form (dict.heard session') file₁.image := by
    refine awaits'.heard fun contents lawful => ⟨contents, ?_⟩
    have sought := lawful.seek move
    rw [Prod.mk.injEq, Prod.mk.injEq] at ran
    rw [← ran.2.1, ← ran.2.2]
    exact sought
  have here : dict.obey (.scan move) file =
      (.scanned ((found.map fun record? => record?.map fun record =>
        (Bytes.untilZero record.1, Bytes.untilZero record.2)).mapError
          (.ofEngine .seeking dict.label)),
        dict.heard session', dict.unlock file₁) := by
    unfold obey sequence locked engineRead
    dsimp only
    rw [engaged]
    cases found with
    | error failure => rfl
    | ok record? => rfl
  have there : (dict.pinned form).obey (.scan move) file' =
      (.scanned ((found.map fun record? => record?.map fun record =>
        (Bytes.untilZero record.1, Bytes.untilZero record.2)).mapError
          (.ofEngine .seeking dict.label)),
        (dict.heard session').pinned form, dict.unlock file₂) := by
    unfold obey sequence locked engineRead
    dsimp only
    rw [show (dict.pinned form).lock .shared file' = dict.lock .shared file' from rfl, engaged']
    cases found with
    | error failure => rfl
    | ok record? => rfl
  rw [here, there]
  refine ⟨⟨rfl, rfl, unlock_matches same' dict⟩, ?_, fun found => found.elim⟩
  rw [image_unlock]
  exact continues

/-- What is published is the same in both cases, in bulk mode too. -/
theorem commit_mirrors (dict : Dictionary) (form : Form) (same : file.Matches file') :
    Mirrors form (dict.commit file) ((dict.pinned form).commit file') := by
  obtain ⟨done, session', file₁, file₂, _, engaged, engaged', same'⟩ :=
    engine_mirrors dict form (lock_matches same dict .exclusive) .commit
      (fun session image => session.commit image)
  unfold commit locked
  rw [show (dict.pinned form).session.bulk = dict.session.bulk from rfl,
    show (dict.pinned form).lock .exclusive file' = dict.lock .exclusive file' from rfl]
  split
  · dsimp only
    rw [engaged, engaged']
    cases done with
    | error failure => exact ⟨rfl, rfl, unlock_matches same' dict⟩
    | ok done => exact ⟨rfl, rfl, unlock_matches same' dict⟩
  · exact ⟨rfl, rfl, same⟩

theorem close_mirrors (dict : Dictionary) (form : Form) (same : file.Matches file') :
    Mirrors form (dict.close file) ((dict.pinned form).close file') := by
  obtain ⟨resultEq, dictEq, same'⟩ := dict.commit_mirrors form same
  unfold close
  generalize dict.commit file = outcome at resultEq dictEq same' ⊢
  generalize (dict.pinned form).commit file' = outcome' at resultEq dictEq same' ⊢
  obtain ⟨done, dict', file₁⟩ := outcome
  obtain ⟨done', last, file₂⟩ := outcome'
  change done' = done at resultEq
  change last = dict'.pinned form at dictEq
  rw [resultEq, dictEq]
  cases done with
  | error failure => exact ⟨rfl, rfl, same'⟩
  | ok done =>
      obtain ⟨closed, session', file₃, file₄, _, engaged, engaged', same''⟩ :=
        engine_mirrors dict' form same' .close (fun session image => session.close image)
      dsimp only
      rw [engaged, engaged']
      cases closed with
      | error failure => exact ⟨rfl, rfl, same''⟩
      | ok closed => exact ⟨rfl, rfl, same''⟩

theorem obey_mirrors (dict : Dictionary) (form : Form) (same : file.Matches file')
    {command : Command} (commits : command.Commits) :
    Mirrors form (dict.obey command file) ((dict.pinned form).obey command file') := by
  cases command with
  | perform operation => exact commits.elim
  | scan move => exact commits.elim
  | drop => exact commits.elim
  | commit =>
      obtain ⟨resultEq, dictEq, same'⟩ := dict.commit_mirrors form same
      exact ⟨congrArg Result.committed resultEq, dictEq, same'⟩
  | close =>
      obtain ⟨resultEq, dictEq, same'⟩ := dict.close_mirrors form same
      exact ⟨congrArg Result.committed resultEq, dictEq, same'⟩

theorem Awaits.obey_accords (awaits : dict.Awaits form file.image) (same : file.Matches file')
    {command : Command} (free : command.ZeroFree)
    (chosen : ∀ name value, command = .perform (.update name value) →
      dict.encoding.formToWrite dict.defaultForm = form) :
    dict.Accords form (dict.obey command file) ((dict.pinned form).obey command file') := by
  cases command with
  | perform operation =>
      cases operation with
      | lookup name => exact awaits.lookup_accords same free
      | update name value => exact update_accords same (chosen name value rfl) name value
      | delete name => exact awaits.delete_accords same free
  | scan move => exact awaits.scan_accords same move
  | commit => exact free.elim
  | close => exact free.elim
  | drop => exact free.elim

end Dictionary

end RecordFile
