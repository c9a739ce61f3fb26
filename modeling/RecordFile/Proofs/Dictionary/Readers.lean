/-
Handles on one file, whether they write or read alone.

Every command is at most two calls of the session of its handle, none of which opens. So all
handles follow what the file holds, whoever opens it and however, as long as no command cuts the
map back.
-/

import RecordFile.Proofs.Dictionary.Sharing
import RecordFile.Proofs.Session.Readers

namespace RecordFile

namespace Dictionary

open Session (Acts Call Reply)

variable {dict dict' : Dictionary} {file file' : SharedFile} {count : Nat} {command : Command}

/-! ### Commands as calls -/

def Calling {α : Type} (count : Nat) (dict : Dictionary) (file : SharedFile)
    (outcome : α × Dictionary × SharedFile) : Prop :=
  Acts count dict.session file.image outcome.2.1.session outcome.2.2.image

theorem engine_calling {α : Type} (name : EngineCall)
    (run : Session → Image → Except EngineError α × Session × Image) (call : Call)
    (answer : α → Reply)
    (acts : ∀ session image, session.act call 0 image =
      (Reply.of answer (run session image).1, (run session image).2))
    (stays : ¬ call.Opens) (safe : ¬ dict.session.CutsBack call file.image) :
    Calling 1 dict file (dict.engine name run file) := by
  have acted := acts dict.session file.image
  rcases ran : run dict.session file.image with ⟨result, session', image'⟩
  rw [ran] at acted
  unfold Calling engine
  rw [ran]
  exact .once stays safe acted

theorem fetch_calling (key : Bytes) (dict : Dictionary) (file : SharedFile) :
    Calling 1 dict file (fetch key dict file) :=
  engine_calling .get _ (.get key) .value (fun _ _ => rfl) id fun cuts => cuts.1

theorem remove_calling (key : Bytes) (dict : Dictionary) (file : SharedFile) :
    Calling 1 dict file (remove key dict file) :=
  engine_calling .delete (removal key) (.delete key) (fun hit? => .found hit?.isSome)
    (act_delete key) id fun cuts => cuts.1

theorem tryForms_calling {α : Type} (key : Bytes) (action : EngineAction)
    {attempt : Bytes → Dictionary → SharedFile →
      Except EngineError (Option α) × Dictionary × SharedFile}
    (attempts : ∀ key dict file, Calling 1 dict file (attempt key dict file))
    (forms : List Form) (dict : Dictionary) (file : SharedFile) :
    ∃ count, count ≤ forms.length ∧
      Calling count dict file (tryForms key action attempt forms dict file) := by
  induction forms generalizing dict file with
  | nil => exact ⟨0, Nat.le_refl 0, .nil⟩
  | cons form rest ih =>
      have tried := attempts (form.encode key) dict file
      have some : 1 ≤ (form :: rest).length := Nat.succ_pos _
      unfold tryForms
      split
      · next failed =>
          rw [failed] at tried
          exact ⟨1, some, tried⟩
      · next dict' file' missed =>
          rw [missed] at tried
          obtain ⟨count, few, later⟩ := ih dict' file'
          refine ⟨1 + count, ?_, tried.trans later⟩
          rw [List.length_cons]
          omega
      · next hit =>
          rw [hit] at tried
          exact ⟨1, some, tried⟩

theorem Calling.locked {α : Type} {mode : LockMode}
    {operation : Dictionary → SharedFile → α × Dictionary × SharedFile}
    (calling : Calling count dict (dict.lock mode file) (operation dict (dict.lock mode file))) :
    Calling count dict file (dict.locked mode operation file) := by
  unfold Calling at calling ⊢
  unfold Dictionary.locked
  rw [image_lock] at calling
  dsimp only
  rw [image_unlock]
  exact calling

theorem lookup_calling (dict : Dictionary) (name : String) (file : SharedFile) :
    ∃ count, count ≤ 2 ∧ Calling count dict file (dict.lookup name file) := by
  obtain ⟨count, few, calling⟩ := tryForms_calling (Bytes.ofText (dict.fold name)) .reading
    fetch_calling dict.encoding.candidates dict (dict.lock .shared file)
  refine ⟨count, Nat.le_trans few (length_candidates _), .locked ?_⟩
  split
  · next failed => rw [failed] at calling; exact calling
  · next found => rw [found] at calling; exact calling

theorem delete_calling (dict : Dictionary) (name : String) (file : SharedFile) :
    ∃ count, count ≤ 2 ∧ Calling count dict file (dict.delete name file) := by
  obtain ⟨count, few, calling⟩ := tryForms_calling (Bytes.ofText (dict.fold name)) .deletingFrom
    remove_calling dict.encoding.candidates dict (dict.lock .exclusive file)
  refine ⟨count, Nat.le_trans few (length_candidates _), .locked ?_⟩
  split
  · next failed => rw [failed] at calling; exact calling
  · next found => rw [found] at calling; exact calling

theorem sequence_calling (dict : Dictionary) (move : CursorMove) (file : SharedFile) :
    Calling 1 dict file (dict.sequence move file) := by
  have calling : Calling 1 dict (dict.lock .shared file) (dict.engineRead .seek _ _) :=
    engine_calling .seek
      (fun session image => ((session.seek move image).1, (session.seek move image).2, image))
      (.seek move) .record (fun _ _ => rfl) id fun cuts => cuts.1
  refine .locked ?_
  split
  · next failed => rw [failed] at calling; exact calling
  · next found => rw [found] at calling; exact calling

theorem update_calling (name : String) (value : Bytes)
    (safe : ¬ dict.CutsBack (.perform (.update name value)) file.image) :
    Calling 1 dict file (dict.update name value file) := by
  obtain ⟨form, formEq⟩ : ∃ form, form = dict.encoding.formToWrite dict.defaultForm := ⟨_, rfl⟩
  obtain ⟨ready, readyEq⟩ : ∃ ready : Dictionary,
      ready = { dict with encoding := dict.encoding.forWrite dict.defaultForm } := ⟨_, rfl⟩
  have safe' : ¬ ready.session.CutsBack
      (.put (dict.keyIn form name) (form.encode value) (!ready.policy.overwrites))
      (ready.lock .exclusive file).image := by
    rw [image_lock, readyEq, formEq]
    exact safe
  have calling : Calling 1 ready file (ready.locked .exclusive
      (fun ready file => ready.engine .put
        (fun session image => session.put (dict.keyIn form name) (form.encode value)
          (!ready.policy.overwrites) image) file) file) :=
    .locked (engine_calling .put _ _ (fun _ => .done) (fun _ _ => rfl) id safe')
  unfold Calling at calling ⊢
  unfold update
  dsimp only
  rw [session_updateResult, ← formEq, ← readyEq]
  rw [show ready.session = dict.session from readyEq ▸ rfl] at calling
  exact calling

theorem commit_calling (safe : ¬ dict.CutsBack .commit file.image) :
    ∃ count, count ≤ 1 ∧ Calling count dict file (dict.commit file) := by
  unfold commit
  split
  · have safe' : ¬ dict.session.CutsBack .commit (dict.lock .exclusive file).image := by
      rw [image_lock]
      exact safe
    have calling : Calling 1 dict (dict.lock .exclusive file)
        (dict.engine .commit (fun session image => session.commit image) _) :=
      engine_calling .commit _ .commit (fun _ => .done) (fun _ _ => rfl) id safe'
    refine ⟨1, Nat.le_refl 1, .locked ?_⟩
    split
    · next failed => rw [failed] at calling; exact calling
    · next done => rw [done] at calling; exact calling
  · exact ⟨0, Nat.zero_le 1, .nil⟩

theorem close_calling (orderly : dict.session.Orderly)
    (safe : ¬ dict.CutsBack .commit file.image) :
    ∃ count, count ≤ 2 ∧ Calling count dict file (dict.close file) := by
  obtain ⟨count, once, calling⟩ := commit_calling safe
  unfold close
  rcases committed : dict.commit file with ⟨failure | done, dict', file'⟩
  · rw [committed] at calling
    exact ⟨count, by omega, calling⟩
  · rw [committed] at calling
    have idle := idle_of_commit orderly committed
    have safe' : ¬ dict'.session.CutsBack .commit file'.image := by
      rintro ⟨⟨txn, _, _, waiting, _⟩, _⟩
      rw [idle] at waiting
      cases waiting
    have closing : Calling 1 dict' file'
        (dict'.engine .close (fun session image => session.close image) file') :=
      engine_calling .close _ .commit (fun _ => .done) (fun _ _ => rfl) id safe'
    refine ⟨count + 1, by omega, ?_⟩
    dsimp only
    split
    · next failed => rw [failed] at closing; exact calling.trans closing
    · next closed => rw [closed] at closing; exact calling.trans closing

/-- Every command that does not cut the map back is at most two calls of the session. -/
theorem obey_calling (orderly : dict.session.Orderly)
    (safe : ¬ dict.CutsBack command file.image) :
    ∃ count, count ≤ 2 ∧ Calling count dict file (dict.obey command file) := by
  cases command with
  | perform operation =>
      cases operation with
      | lookup name => exact lookup_calling dict name file
      | update name value => exact ⟨1, Nat.le_succ 1, update_calling name value safe⟩
      | delete name => exact delete_calling dict name file
  | scan move => exact ⟨1, Nat.le_succ 1, sequence_calling dict move file⟩
  | commit =>
      obtain ⟨count, once, calling⟩ := commit_calling safe
      exact ⟨count, by omega, calling⟩
  | close => exact close_calling orderly safe
  | drop => exact ⟨0, Nat.zero_le 2, .nil⟩

end Dictionary

namespace Handles

open Dictionary (Command)

variable {world : Handles} {contents after : Contents} {age bumps : Nat} {turn : Turn}
  {turns : List Turn} {command : Command} {dict : Dictionary} {file' : SharedFile}

/-! ### What a turn preserves -/

/-- A command does not cut the map back. An open may be for reading alone. -/
def Safe (world : Handles) (turn : Turn) : Prop :=
  ∀ command dict, turn.deed = .obey command → world.user? turn = some dict →
    ¬ dict.CutsBack command world.file.image

theorem safe_of_open {opening : Opening} (asks : turn.deed = .open opening) :
    world.Safe turn := by
  intro command dict obeys
  rw [asks] at obeys
  cases obeys

theorem Sound.safe (sound : world.Sound turn) : world.Safe turn := by
  intro command dict asks here
  unfold Sound at sound
  rw [asks] at sound
  exact sound dict here

structure Live (world : Handles) (contents : Contents) (age : Nat) : Prop where
  holds : world.file.image.Holds contents
  readers : ∀ who dict, world.handle? who = some dict → dict.session.Reader contents age

/-- Nothing has been opened yet and the file has no bytes, or all handles follow the file. -/
def Begun (world : Handles) (age : Nat) : Prop :=
  (world.file.image.size = 0 ∧ ∀ who, world.handle? who = none) ∨
    ∃ contents, world.Live contents age

theorem Live.mono (live : world.Live contents age) {later : Nat} (older : age ≤ later) :
    world.Live contents later :=
  ⟨live.holds, fun who dict here => (live.readers who dict here).mono older⟩

theorem Begun.mono (begun : world.Begun age) {later : Nat} (older : age ≤ later) :
    world.Begun later :=
  begun.imp_right fun ⟨contents, live⟩ => ⟨contents, live.mono older⟩

theorem Valid.live (valid : world.Valid contents age) : world.Live contents age where
  holds := valid.holds
  readers := by
    intro who dict here
    have writer := valid.writers who dict here
    obtain ⟨env, opened, _⟩ := writer.opened
    refine ⟨writer.follows, ?_, writer.orderly⟩
    rw [opened]
    exact Option.some_ne_none env

theorem Created.begun (created : world.Created age) : world.Begun age :=
  created.imp_right fun ⟨contents, valid⟩ => ⟨contents, valid.live⟩

theorem Begun.usable (begun : world.Begun age) : world.file.image.Usable := by
  rcases begun with ⟨nothing, _⟩ | ⟨contents, live⟩
  · exact Or.inl nothing
  · exact Or.inr ⟨contents, live.holds⟩

theorem Live.user (live : world.Live contents age) (here : world.user? turn = some dict) :
    dict.session.Reader contents age := by
  obtain ⟨found, there, rfl⟩ := Option.map_eq_some_iff.mp here
  exact (live.readers turn.who found there).withRoom turn.room

/-- The handles that a turn is not for are older, at most. -/
theorem Live.advance (live : world.Live contents age)
    (advances : Advances bumps world.file.image contents file'.image after) (few : bumps ≤ 2) :
    Live ⟨file', world.handle?⟩ after (age + 2) where
  holds := advances.holds
  readers := fun who dict here =>
    ((live.readers who dict here).advance advances).mono (Nat.add_le_add_left few age)

theorem Live.update (live : world.Live contents age) {who : Descriptor}
    {next? : Option Dictionary} (reader : ∀ dict, next? = some dict →
      dict.session.Reader contents age) :
    Live ⟨world.file, Function.update world.handle? who next?⟩ contents age :=
  ⟨live.holds, forall_update reader live.readers⟩

theorem Live.obey (live : world.Live contents age) (recent : age + 2 ≤ UInt64.size)
    (asks : turn.deed = .obey command) (here : world.user? turn = some dict)
    (safe : world.Safe turn) : ∃ after, (world.step turn).Live after (age + 2) := by
  have reader := live.user here
  obtain ⟨count, few, calling⟩ :=
    Dictionary.obey_calling reader.orderly (safe command dict asks here)
  obtain ⟨bumps, after, fewer, advances, left⟩ := reader.acts live.holds (by omega) calling
  refine ⟨after, ?_⟩
  rw [(obey_eq asks here rfl).2]
  refine (live.advance advances (by omega)).update fun found kept => ?_
  rw [Command.eq_of_next? kept]
  exact left.mono (by omega)

theorem Begun.opens (begun : world.Begun age) {opening : Opening} {room : Nat}
    {result : Except OpenError Dictionary} {who : Descriptor}
    (opened : opening.run who room world.file = (result, file')) :
    Begun ⟨file', world.handle?⟩ (age + 2) ∧
      ∀ dict, result = .ok dict → ∃ after, Live ⟨file', world.handle?⟩ after (age + 2) ∧
        dict.session.Reader after (age + 2) := by
  unfold Opening.run at opened
  rcases made : Dictionary.newSession opening.config with failure | session
  · rw [made] at opened
    cases opened
    refine ⟨begun.mono (Nat.le_add_right age 2), fun dict done => ?_⟩
    cases done
  · rw [made] at opened
    have leaves : Begun ⟨file', world.handle?⟩ (age + 2) := by
      rcases Dictionary.open_leaves made begun.usable opened with
        ⟨nothing, nothing', _⟩ | ⟨after, holds, advances⟩
      · rcases begun with ⟨_, nobody⟩ | ⟨contents, live⟩
        · exact Or.inl ⟨nothing', nobody⟩
        · exact absurd nothing live.holds.size_ne_zero
      · refine Or.inr ⟨after, ?_⟩
        rcases begun with ⟨_, nobody⟩ | ⟨contents, live⟩
        · refine ⟨holds, fun other dict here => ?_⟩
          rw [nobody other] at here
          cases here
        · obtain ⟨bumps, once, advances⟩ := advances contents live.holds
          exact live.advance advances (by omega)
    refine ⟨leaves, fun dict done => ?_⟩
    subst done
    obtain ⟨found, new, _⟩ := Dictionary.open_opened made begun.usable opened
    obtain ⟨env, here, _⟩ := new.right
    rcases leaves with ⟨nothing, _⟩ | ⟨after, live⟩
    · exact absurd nothing new.holds.size_ne_zero
    · cases new.holds.unique live.holds
      exact ⟨found, live, new.follows.mono (Nat.zero_le _), here ▸ Option.some_ne_none env,
        fun _ => new.idle⟩

theorem Begun.step (begun : world.Begun age) (recent : age + 2 ≤ UInt64.size)
    (safe : world.Safe turn) : (world.step turn).Begun (age + 2) := by
  cases asks : turn.deed with
  | «open» opening =>
      unfold Handles.step
      rw [asks]
      dsimp only
      rcases opened : opening.run turn.who turn.room world.file with ⟨failure | dict, file'⟩
      · exact (begun.opens opened).1
      · obtain ⟨after, live, reader⟩ := (begun.opens opened).2 dict rfl
        exact Or.inr ⟨after, live.update fun found new => Option.some.inj new ▸ reader⟩
  | obey command =>
      cases here : world.user? turn with
      | none =>
          rw [step_of_absent asks here]
          exact begun.mono (Nat.le_add_right age 2)
      | some dict =>
          rcases begun with ⟨_, nobody⟩ | ⟨contents, live⟩
          · unfold user? at here
            rw [nobody turn.who] at here
            cases here
          · exact Or.inr (live.obey recent asks here safe)

theorem Begun.run (begun : world.Begun age) (recent : age + 2 * turns.length ≤ UInt64.size)
    (safe : Along Handles.step Safe turns world) :
    (run turns world).Begun (age + 2 * turns.length) := by
  induction turns generalizing world age with
  | nil => exact begun
  | cons turn rest ih =>
      rw [List.length_cons] at recent ⊢
      have ends := ih (begun.step (by omega) safe.1) (by omega) safe.2
      rw [Nat.mul_succ, Nat.add_comm (2 * rest.length), ← Nat.add_assoc]
      exact ends

end Handles

end RecordFile
