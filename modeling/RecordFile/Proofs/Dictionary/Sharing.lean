/-
Any number of handles on one file, in any order of commands.

Under a descriptor a handle is opened and then given commands, until it is closed or dropped.
Every turn leaves a database that all handles may write, if no command cuts the map back. A
record that is committed, and in the drafts of the handles that publish theirs, stays until a
command is for it.
-/

import RecordFile.Proofs.Dictionary.Handles
import RecordFile.Proofs.Dictionary.Opening
import RecordFile.Proofs.Parties

namespace RecordFile

structure Handles where
  file : SharedFile
  handle? : Descriptor → Option Dictionary

namespace Handles

open Dictionary (Command Result)
open Environment (Mappable readHeader)

structure Opening where
  path : String
  mode : OpenMode
  flags : DictionaryFlags
  config : DictionaryConfig
  owner : Owner
  source? : Option Nat
  now : Nat

inductive Deed where
  | «open» (opening : Opening)
  | obey (command : Command)

structure Turn where
  who : Descriptor
  deed : Deed
  room : Nat

def Opening.run (opening : Opening) (descriptor : Descriptor) (room : Nat) (file : SharedFile) :
    Except OpenError Dictionary × SharedFile :=
  match Dictionary.newSession opening.config with
  | .error failure =>
      (.error (.engine (Dictionary.databasePath opening.path) failure), file)
  | .ok session =>
      Dictionary.open session opening.path opening.mode opening.flags opening.config descriptor
        opening.owner room opening.source? opening.now file

def user? (world : Handles) (turn : Turn) : Option Dictionary :=
  (world.handle? turn.who).map (·.withRoom turn.room)

def step (world : Handles) (turn : Turn) : Handles :=
  match turn.deed with
  | .open opening =>
      match opening.run turn.who turn.room world.file with
      | (.error _, file) => { world with file := file }
      | (.ok dict, file) => ⟨file, Function.update world.handle? turn.who (some dict)⟩
  | .obey command =>
      match world.user? turn with
      | none => world
      | some dict =>
          let outcome := dict.obey command world.file
          ⟨outcome.2.2, Function.update world.handle? turn.who (command.next? outcome.2.1)⟩

def result? (world : Handles) (turn : Turn) : Option Result :=
  match turn.deed with
  | .open _ => none
  | .obey command => (world.user? turn).map fun dict => (dict.obey command world.file).1

def run (turns : List Turn) (world : Handles) : Handles :=
  turns.foldl step world

/-! ### Laws of a turn -/

/-- A handle is opened for writing, or a command does not cut the map back. -/
def Sound (world : Handles) (turn : Turn) : Prop :=
  match turn.deed with
  | .open opening => opening.mode.canWrite = true
  | .obey command =>
      ∀ dict, world.user? turn = some dict → ¬ dict.CutsBack command world.file.image

/-- Nothing is opened, and no record with this name is updated or deleted. -/
def Leaves (name : String) (world : Handles) (turn : Turn) : Prop :=
  match turn.deed with
  | .open _ => False
  | .obey (.perform (.update other _)) =>
      ∀ dict, world.user? turn = some dict → dict.fold other ≠ name
  | .obey (.perform (.delete other)) =>
      ∀ dict, world.user? turn = some dict → dict.fold other ≠ name
  | .obey _ => True

/-- A transaction that is pending is committed. -/
def Publishes (world : Handles) (turn : Turn) : Prop :=
  ∃ dict command, world.user? turn = some dict ∧ dict.session.pending? ≠ none ∧
    turn.deed = .obey command ∧ command.Commits ∧
      world.result? turn = some (.committed (.ok ()))

/-- A record with this name is left alone. A pending transaction is committed only if it has the
record, which is then `fresh`. -/
structure Allows (name : String) (fresh : Prop) (world : Handles) (turn : Turn) : Prop where
  sound : world.Sound turn
  leaves : world.Leaves name turn
  publishes : world.Publishes turn → fresh

def Settled (world : Handles) (form : Form) : Prop :=
  ∀ who dict, world.handle? who = some dict → dict.encoding = .settled form

def Idle (world : Handles) : Prop :=
  ∀ who dict, world.handle? who = some dict → dict.session.pending? = none

/-! ### What a turn preserves -/

structure Valid (world : Handles) (contents : Contents) (age : Nat) : Prop where
  holds : world.file.image.Holds contents
  writers : ∀ who dict, world.handle? who = some dict → dict.session.Writer contents age

/-- Nothing has been opened yet and the file has no bytes, or the world is valid. -/
def Created (world : Handles) (age : Nat) : Prop :=
  (world.file.image.size = 0 ∧ ∀ who, world.handle? who = none) ∨
    ∃ contents, world.Valid contents age

/-- A record is committed. When it is `fresh`, the drafts of all handles have it too. -/
structure Keeps (world : Handles) (fresh : Prop) (contents : Contents) (key value : Bytes) :
    Prop where
  committed : contents.records.find? key = some value
  drafts : fresh → ∀ who dict, world.handle? who = some dict →
    (dict.session.draft contents.records).find? key = some value

variable {world : Handles} {contents after : Contents} {age bumps : Nat} {turn : Turn}
  {command : Command} {dict dict' : Dictionary} {file' : SharedFile} {fresh : Prop}
  {key value : Bytes} {form : Form} {name : String}

theorem Valid.mono (valid : world.Valid contents age) {later : Nat} (older : age ≤ later) :
    world.Valid contents later :=
  ⟨valid.holds, fun who dict here => (valid.writers who dict here).mono older⟩

theorem created_of_usable (usable : world.file.image.Usable)
    (nobody : ∀ who, world.handle? who = none) : world.Created 0 := by
  rcases usable with nothing | ⟨contents, holds⟩
  · exact Or.inl ⟨nothing, nobody⟩
  · refine Or.inr ⟨contents, holds, fun who dict here => ?_⟩
    rw [nobody who] at here
    cases here

theorem Created.mono (created : world.Created age) {later : Nat} (older : age ≤ later) :
    world.Created later :=
  created.imp_right fun ⟨contents, valid⟩ => ⟨contents, valid.mono older⟩

/-- The handle that the last turn leaves, and the others, which are older. -/
theorem Valid.advance (valid : world.Valid contents age) {image' : Image}
    (advances : Advances bumps world.file.image contents image' after) (few : bumps ≤ 2)
    (sameImage : file'.image = image') {who : Descriptor} {next? : Option Dictionary}
    (writer : ∀ dict, next? = some dict → dict.session.Writer after (age + 2)) :
    Valid ⟨file', Function.update world.handle? who next?⟩ after (age + 2) where
  holds := sameImage ▸ advances.holds
  writers := by
    refine forall_update writer fun other found here => ?_
    exact ((valid.writers other found here).advance advances).mono (Nat.add_le_add_left few age)

theorem Valid.user (valid : world.Valid contents age) (here : world.user? turn = some dict) :
    dict.session.Writer contents age := by
  obtain ⟨found, there, rfl⟩ := Option.map_eq_some_iff.mp here
  exact (valid.writers turn.who found there).withRoom turn.room

theorem step_of_absent (asks : turn.deed = .obey command) (absent : world.user? turn = none) :
    world.step turn = world := by
  unfold step
  rw [asks]
  dsimp only
  rw [absent]

theorem obey_eq (asks : turn.deed = .obey command) (here : world.user? turn = some dict)
    {result : Result} (obeyed : dict.obey command world.file = (result, dict', file')) :
    world.result? turn = some result ∧
      world.step turn = ⟨file', Function.update world.handle? turn.who (command.next? dict')⟩ := by
  unfold result? step
  rw [asks]
  dsimp only
  rw [here]
  dsimp only [Option.map]
  rw [obeyed]
  exact ⟨rfl, rfl⟩

theorem Valid.obey (valid : world.Valid contents age) (recent : age + 2 ≤ UInt64.size)
    (asks : turn.deed = .obey command) (here : world.user? turn = some dict)
    (sound : world.Sound turn) :
    ∃ result dict' file' bumps after, dict.obey command world.file = (result, dict', file') ∧
      dict.Wrote world.file.image contents age (fun key => command.Means dict key)
        (dict.PublishesDraft command result) bumps dict' file'.image after ∧
      (world.step turn).Valid after (age + 2) := by
  have safe : ¬ dict.CutsBack command world.file.image := by
    unfold Sound at sound
    rw [asks] at sound
    exact sound dict here
  obtain ⟨result, dict', file', bumps, after, obeyed, few, wrote⟩ :=
    Dictionary.obey_wrote valid.holds (valid.user here) recent command safe
  refine ⟨result, dict', file', bumps, after, obeyed, wrote, ?_⟩
  rw [(obey_eq asks here obeyed).2]
  refine valid.advance wrote.advances few rfl fun found left => ?_
  rw [Command.eq_of_next? left]
  exact wrote.writer.mono (Nat.add_le_add_left few age)

/-- A draft that is not there yet begins with what is committed. -/
theorem draft_find? {session : Session}
    (drafted : (session.draft contents.records).find? key = some value)
    (committed : after.records.find? key = some value) :
    (session.draft after.records).find? key = some value := by
  unfold Session.draft at drafted ⊢
  cases waiting : session.pending? with
  | none => exact committed
  | some txn =>
      rw [waiting] at drafted
      exact drafted

theorem Keeps.obey (keeps : world.Keeps fresh contents key value)
    (asks : turn.deed = .obey command) (here : world.user? turn = some dict) {result : Result}
    (obeyed : dict.obey command world.file = (result, dict', file'))
    (wrote : dict.Wrote world.file.image contents age (fun key => command.Means dict key)
      (dict.PublishesDraft command result) bumps dict' file'.image after)
    (spared : ¬ command.Means dict key) (publishes : world.Publishes turn → fresh) :
    (world.step turn).Keeps fresh after key value := by
  have spares := wrote.spares key value spared keeps.committed
  obtain ⟨resulted, stepped⟩ := obey_eq asks here obeyed
  have drafted : fresh → (dict.session.draft contents.records).find? key = some value := by
    intro isFresh
    obtain ⟨found, there, rfl⟩ := Option.map_eq_some_iff.mp here
    exact keeps.drafts isFresh turn.who found there
  have committed : after.records.find? key = some value := by
    apply spares.committed
    rintro ⟨_, commits, rfl⟩
    by_cases idle : dict.session.pending? = none
    · rw [Session.draft_of_idle idle]
      exact keeps.committed
    · exact drafted (publishes ⟨dict, command, here, idle, asks, commits, resulted⟩)
  refine ⟨committed, fun isFresh => ?_⟩
  rw [stepped]
  refine forall_update (fun found left => ?_) fun other found there => ?_
  · rw [Command.eq_of_next? left]
    exact spares.draft (drafted isFresh)
  · exact draft_find? (keeps.drafts isFresh other found there) committed

/-- A command to a handle that has settled on a form is for the names that it is given. -/
theorem Leaves.not_means (leaves : world.Leaves name turn) (asks : turn.deed = .obey command)
    (here : world.user? turn = some dict) (settled : dict.encoding = .settled form) :
    ¬ command.Means dict (form.encode (Bytes.ofText name)) := by
  have differs : ∀ other, dict.fold other ≠ name →
      form.encode (Bytes.ofText name) ≠ dict.keyIn form other := by
    intro other different same
    exact different (Bytes.ofText_injective (form.encode_injective same)).symm
  unfold Leaves at leaves
  rw [asks] at leaves
  cases command with
  | perform operation =>
      cases operation with
      | lookup _ => exact id
      | update other _ =>
          unfold Command.Means
          rw [settled]
          exact differs other (leaves dict here)
      | delete other =>
          unfold Command.Means
          rw [settled]
          rintro ⟨found, member, same⟩
          cases List.mem_singleton.mp member
          exact differs other (leaves dict here) same
  | scan _ => exact id
  | commit => exact id
  | close => exact id
  | drop => exact id

theorem Settled.user (settled : world.Settled form) (here : world.user? turn = some dict) :
    dict.encoding = .settled form := by
  obtain ⟨found, there, rfl⟩ := Option.map_eq_some_iff.mp here
  exact settled turn.who found there

theorem Settled.obey (settled : world.Settled form) (asks : turn.deed = .obey command)
    (here : world.user? turn = some dict) {result : Result}
    (obeyed : dict.obey command world.file = (result, dict', file')) {means : Bytes → Prop}
    {publishes : Prop}
    (wrote : dict.Wrote world.file.image contents age means publishes bumps dict' file'.image
      after) :
    (world.step turn).Settled form := by
  have own := settled.user here
  rw [(obey_eq asks here obeyed).2]
  exact forall_update (fun found left => Command.eq_of_next? left ▸ wrote.stays form own) settled

/-- What one turn preserves. -/
theorem Valid.step_keeps (valid : world.Valid contents age) (recent : age + 2 ≤ UInt64.size)
    (settled : world.Settled form)
    (keeps : world.Keeps fresh contents (form.encode (Bytes.ofText name)) value)
    (allows : world.Allows name fresh turn) :
    ∃ after, (world.step turn).Valid after (age + 2) ∧ (world.step turn).Settled form ∧
      (world.step turn).Keeps fresh after (form.encode (Bytes.ofText name)) value := by
  cases asks : turn.deed with
  | «open» opening =>
      have leaves := allows.leaves
      unfold Leaves at leaves
      rw [asks] at leaves
      exact leaves.elim
  | obey command =>
      cases here : world.user? turn with
      | none =>
          rw [step_of_absent asks here]
          exact ⟨contents, valid.mono (Nat.le_add_right age 2), settled, keeps⟩
      | some dict =>
          obtain ⟨result, dict', file', bumps, after, obeyed, wrote, valid'⟩ :=
            valid.obey recent asks here allows.sound
          have spared := allows.leaves.not_means asks here (settled.user here)
          exact ⟨after, valid', settled.obey asks here obeyed wrote,
            keeps.obey asks here obeyed wrote spared allows.publishes⟩

theorem Valid.run_keeps {turns : List Turn} (valid : world.Valid contents age)
    (recent : age + 2 * turns.length ≤ UInt64.size) (settled : world.Settled form)
    (keeps : world.Keeps fresh contents (form.encode (Bytes.ofText name)) value)
    (allows : Along Handles.step (Allows name fresh) turns world) :
    ∃ after, (run turns world).Valid after (age + 2 * turns.length) ∧
      (run turns world).Settled form ∧
      (run turns world).Keeps fresh after (form.encode (Bytes.ofText name)) value := by
  induction turns generalizing world contents age with
  | nil => exact ⟨contents, valid, settled, keeps⟩
  | cons turn rest ih =>
      rw [List.length_cons] at recent ⊢
      obtain ⟨after, valid', settled', keeps'⟩ :=
        valid.step_keeps (by omega) settled keeps allows.1
      obtain ⟨last, ends⟩ := ih valid' (by omega) settled' keeps' allows.2
      rw [Nat.mul_succ, Nat.add_comm (2 * rest.length), ← Nat.add_assoc]
      exact ⟨last, ends⟩

/-! ### Opening -/

theorem Created.usable (created : world.Created age) : world.file.image.Usable := by
  rcases created with ⟨nothing, _⟩ | ⟨contents, valid⟩
  · exact Or.inl nothing
  · exact Or.inr ⟨contents, valid.holds⟩

/-- What an open leaves of the file: a database, or no bytes as before. -/
theorem Created.opens (created : world.Created age) {opening : Opening} {session : Session}
    (made : Dictionary.newSession opening.config = .ok session) {room : Nat}
    {result : Except OpenError Dictionary} {who : Descriptor}
    (opened : Dictionary.open session opening.path opening.mode opening.flags opening.config who
      opening.owner room opening.source? opening.now world.file = (result, file')) :
    (file'.image.size = 0 ∧ (∀ other, world.handle? other = none) ∧
      ∃ failure, result = .error failure) ∨
    ∃ after, Valid ⟨file', world.handle?⟩ after (age + 2) := by
  rcases Dictionary.open_leaves made created.usable opened with
    ⟨nothing, nothing', failed⟩ | ⟨after, holds', advances⟩
  · rcases created with ⟨_, nobody⟩ | ⟨contents, valid⟩
    · exact Or.inl ⟨nothing', nobody, failed⟩
    · exact absurd nothing valid.holds.size_ne_zero
  · refine Or.inr ⟨after, holds', fun other dict here => ?_⟩
    rcases created with ⟨_, nobody⟩ | ⟨contents, valid⟩
    · rw [nobody other] at here
      cases here
    · obtain ⟨bumps, once, advances⟩ := advances contents valid.holds
      exact ((valid.writers other dict here).advance advances).mono
        (Nat.add_le_add_left (Nat.le_trans once (Nat.le_succ 1)) age)

theorem Created.step (created : world.Created age) (recent : age + 2 ≤ UInt64.size)
    (sound : world.Sound turn) : (world.step turn).Created (age + 2) := by
  cases asks : turn.deed with
  | «open» opening =>
      have writes : opening.mode.canWrite = true := by
        unfold Sound at sound
        rw [asks] at sound
        exact sound
      unfold Handles.step
      rw [asks]
      dsimp only
      unfold Opening.run
      cases made : Dictionary.newSession opening.config with
      | error failure => exact created.mono (Nat.le_add_right age 2)
      | ok session =>
          dsimp only
          rcases opened : Dictionary.open session opening.path opening.mode opening.flags
            opening.config turn.who opening.owner turn.room opening.source? opening.now
              world.file with ⟨result, file'⟩
          rcases created.opens made opened with
            ⟨nothing, nobody, failure, rfl⟩ | ⟨after, valid⟩
          · exact Or.inl ⟨nothing, nobody⟩
          · cases result with
            | error failure => exact Or.inr ⟨after, valid⟩
            | ok dict =>
                obtain ⟨found, new, _⟩ := Dictionary.open_opened made created.usable opened
                have same := new.holds.unique valid.holds
                subst same
                have writer : dict.session.Writer found (age + 2) :=
                  { follows := new.follows.mono (Nat.zero_le (age + 2))
                    opened := new.writer writes
                    orderly := fun _ => new.idle }
                exact Or.inr ⟨found, valid.holds,
                  forall_update (fun other same => Option.some.inj same ▸ writer) valid.writers⟩
  | obey command =>
      cases here : world.user? turn with
      | none =>
          rw [step_of_absent asks here]
          exact created.mono (Nat.le_add_right age 2)
      | some dict =>
          rcases created with ⟨_, nobody⟩ | ⟨contents, valid⟩
          · unfold user? at here
            rw [nobody turn.who] at here
            cases here
          · obtain ⟨_, _, _, _, after, _, _, valid'⟩ := valid.obey recent asks here sound
            exact Or.inr ⟨after, valid'⟩

theorem Created.run {turns : List Turn} (created : world.Created age)
    (recent : age + 2 * turns.length ≤ UInt64.size) (sound : Along Handles.step Sound turns world) :
    (run turns world).Created (age + 2 * turns.length) := by
  induction turns generalizing world age with
  | nil => exact created
  | cons turn rest ih =>
      rw [List.length_cons] at recent ⊢
      have ends := ih (created.step (by omega) sound.1) (by omega) sound.2
      rw [Nat.mul_succ, Nat.add_comm (2 * rest.length), ← Nat.add_assoc]
      exact ends

/-! ### Handles by descriptor -/

/-- Nothing happens to a handle that no turn is for. -/
theorem handle?_step {who : Descriptor} (other : who ≠ turn.who) :
    (world.step turn).handle? who = world.handle? who := by
  cases asks : turn.deed with
  | «open» opening =>
      unfold step
      rw [asks]
      dsimp only
      rcases opening.run turn.who turn.room world.file with ⟨result, file⟩
      cases result with
      | error failure => rfl
      | ok dict => exact Function.update_of_ne other _ _
  | obey command =>
      cases here : world.user? turn with
      | none => rw [step_of_absent asks here]
      | some dict =>
          rw [(obey_eq asks here rfl).2]
          exact Function.update_of_ne other _ _

theorem handle?_run {turns : List Turn} {who : Descriptor}
    (others : ∀ turn ∈ turns, who ≠ turn.who) :
    (run turns world).handle? who = world.handle? who := by
  induction turns generalizing world with
  | nil => rfl
  | cons turn rest ih =>
      have later : (run rest (world.step turn)).handle? who = (world.step turn).handle? who :=
        ih fun other member => others other (List.mem_cons_of_mem turn member)
      exact later.trans (handle?_step (others turn List.mem_cons_self))

/-- Only under the descriptors of turns there are handles. -/
theorem forall_handle? {turns : List Turn} (nobody : ∀ who, world.handle? who = none)
    {law : Dictionary → Prop}
    (all : ∀ turn ∈ turns, ∀ dict ∈ (run turns world).handle? turn.who, law dict)
    (who : Descriptor) (dict : Dictionary) (here : (run turns world).handle? who = some dict) :
    law dict := by
  by_cases asked : ∃ turn ∈ turns, who = turn.who
  · obtain ⟨turn, member, rfl⟩ := asked
    exact all turn member dict here
  · have others : ∀ turn ∈ turns, who ≠ turn.who :=
      fun turn member same => asked ⟨turn, member, same⟩
    rw [handle?_run others, nobody who] at here
    cases here

/-- A handle that maps all of the map does not cut it back. -/
theorem sound_of_mapped (size : UInt64) (asks : turn.deed = .obey command)
    (read : (readHeader world.file.image).map (·.mapSize) = .ok size)
    (limit : (world.user? turn).map (·.session.limit?) = some (some size)) :
    world.Sound turn := by
  unfold Sound
  rw [asks]
  intro dict here
  rw [here] at limit
  obtain ⟨env, there, mapped⟩ := Option.map_eq_some_iff.mp (Option.some.inj limit)
  have safe : ∀ call, ¬ dict.session.CutsBack call world.file.image := by
    rintro call ⟨_, header, found, falls⟩
    rw [found] at read
    exact Session.not_fallsShort there (mapped.trans (Except.ok.inj read).symm) falls
  cases command with
  | perform operation =>
      cases operation with
      | lookup _ => exact id
      | update _ _ => exact safe _
      | delete _ => exact id
  | scan _ => exact id
  | commit => exact safe _
  | close => exact safe _
  | drop => exact id

end Handles

end RecordFile
