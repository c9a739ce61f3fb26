/-
Updates beside a bulk handle.

A bulk handle copies the records when its transaction begins, holds a lock for one command at a
time, and publishes the whole copy when it commits. What other handles store in between is not
in the copy and is lost with the commit. What is stored before the transaction begins stays until
a command is for it.
-/

import RecordFile.Proofs.Dictionary.Sharing

namespace RecordFile.Handles

open Dictionary (Command Result)
open Environment (Mappable readHeader)

variable {world : Handles} {contents : Contents} {age : Nat} {turn : Turn} {dict : Dictionary}
  {value : Bytes} {form : Form} {name : String}

theorem Valid.update (valid : world.Valid contents age) (recent : age + 2 ≤ UInt64.size)
    (asks : turn.deed = .obey (.perform (.update name value)))
    (here : world.user? turn = some dict) (single : dict.session.bulk = false)
    (settled : world.Settled form) (sound : world.Sound turn)
    (stored : world.result? turn = some (.answered (.ok (.updated .stored)))) :
    ∃ after, (world.step turn).Valid after (age + 2) ∧ (world.step turn).Settled form ∧
      after.records.find? (dict.keyIn form name) = some (form.encode value) := by
  obtain ⟨result, dict', file', bumps, after, obeyed, wrote, valid'⟩ :=
    valid.obey recent asks here sound
  have safe : ¬ dict.CutsBack (.perform (.update name value)) world.file.image := by
    unfold Sound at sound
    rw [asks] at sound
    exact sound dict here
  obtain ⟨outcome, dict'', file'', _, landed, updated, _, wrote', committed⟩ :=
    Dictionary.update_wrote valid.holds (valid.user here) (by omega) name value safe
  have same := obeyed
  unfold Dictionary.obey Dictionary.perform at same
  dsimp only at same
  rw [updated] at same
  cases same
  have landedEq := wrote'.advances.holds.unique wrote.advances.holds
  subst landedEq
  rw [(obey_eq asks here obeyed).1] at stored
  have done : outcome = .ok .stored := by
    cases outcome with
    | error failure => cases stored
    | ok outcome =>
        cases stored
        rfl
  have found := committed single done
  rw [settled.user here] at found
  exact ⟨landed, valid', settled.obey asks here obeyed wrote, found⟩

theorem Valid.lookup (valid : world.Valid contents age) (recent : age < UInt64.size)
    (asks : turn.deed = .obey (.perform (.lookup name))) (here : world.user? turn = some dict)
    (single : dict.session.bulk = false) (settled : world.Settled form) :
    world.result? turn = some (.answered (.ok
        (.value ((contents.records.find? (dict.keyIn form name)).map Bytes.untilZero)))) ∨
      (¬ Mappable turn.room contents.header.mapSize ∧ ∃ cause, world.result? turn =
        some (.answered (.error (.engine .reading dict.label (.io cause))))) := by
  obtain ⟨env, there, answered⟩ := Dictionary.lookup_committed valid.holds (valid.user here) recent
    single (settled.user here) name
  have roomEq : env.room = turn.room := by
    obtain ⟨found, _, rfl⟩ := Option.map_eq_some_iff.mp here
    obtain ⟨_, _, rfl⟩ := Option.map_eq_some_iff.mp there
    rfl
  have resulted : world.result? turn =
      some (.answered ((dict.lookup name world.file).1.map .value)) := by
    unfold result?
    rw [asks]
    dsimp only
    rw [here]
    rfl
  rw [resulted, ← roomEq]
  rcases answered with found | ⟨far, cause, failed⟩
  · rw [found]
    exact Or.inl rfl
  · rw [failed]
    exact Or.inr ⟨far, cause, rfl⟩

/-- An update that a handle outside bulk mode has stored is found by all handles outside bulk
mode, as long as nobody updates or deletes the name. While a transaction is pending that began
before the update, it must not be committed. The value is cut at its first zero byte, and the
lookup fails where the map cannot be mapped. -/
theorem run_keepsUpdate {start world updated middle last : Handles}
    {history waiting later : List Turn} {update : Turn} {writer reader : Dictionary}
    {name other : String} {value : Bytes} {who : Descriptor} (room : Nat)
    (usable : start.file.image.Usable) (nobody : ∀ who, start.handle? who = none)
    (recent : 2 * (history.length + waiting.length + later.length + 2) ≤ UInt64.size)
    (begins : Along step Sound history start) (ran : run history start = world)
    (settled : world.Settled form) (asks : update.deed = .obey (.perform (.update name value)))
    (writes : world.handle? update.who = some writer) (single : writer.session.bulk = false)
    (sound : world.Sound update)
    (stored : world.result? update = some (.answered (.ok (.updated .stored))))
    (stepped : world.step update = updated)
    (waits : Along step (Allows (writer.fold name) False) waiting updated)
    (waited : run waiting updated = middle) (idle : middle.Idle)
    (goesOn : Along step (Allows (writer.fold name) True) later middle)
    (ended : run later middle = last) (reads : last.handle? who = some reader)
    (plain : reader.session.bulk = false) (same : reader.fold other = writer.fold name) :
    last.result? ⟨who, .obey (.perform (.lookup other)), room⟩ =
        some (.answered (.ok (.value (some (Bytes.untilZero value))))) ∨
      ∃ contents, last.file.image.Holds contents ∧ ¬ Mappable room contents.header.mapSize ∧
        ∃ cause, last.result? ⟨who, .obey (.perform (.lookup other)), room⟩ =
          some (.answered (.error (.engine .reading reader.label (.io cause)))) := by
  have created : start.Created 0 := by
    rcases usable with nothing | ⟨contents, holds⟩
    · exact Or.inl ⟨nothing, nobody⟩
    · refine Or.inr ⟨contents, holds, fun who dict here => ?_⟩
      rw [nobody who] at here
      cases here
  have opened := created.run (by omega) begins
  rw [ran, Nat.zero_add] at opened
  have user : world.user? update = some (writer.withRoom update.room) := by
    unfold user?
    rw [writes]
    rfl
  rcases opened with ⟨_, none⟩ | ⟨contents, valid⟩
  · rw [none update.who] at writes
    cases writes
  obtain ⟨after, valid, settled, found⟩ :=
    valid.update (by omega) asks user single settled sound stored
  rw [stepped] at valid settled
  have keeps : updated.Keeps False after (form.encode (Bytes.ofText (writer.fold name)))
      (form.encode value) :=
    ⟨found, False.elim⟩
  obtain ⟨after, valid, settled, keeps⟩ := valid.run_keeps (by omega) settled keeps waits
  rw [waited] at valid settled keeps
  -- With nothing pending, the drafts of all handles are what is committed.
  have keeps : middle.Keeps True after (form.encode (Bytes.ofText (writer.fold name)))
      (form.encode value) := by
    refine ⟨keeps.committed, fun _ who dict here => ?_⟩
    rw [Session.draft_of_idle (idle who dict here)]
    exact keeps.committed
  obtain ⟨after, valid, settled, keeps⟩ := valid.run_keeps (by omega) settled keeps goesOn
  rw [ended] at valid settled keeps
  have user : last.user? ⟨who, .obey (.perform (.lookup other)), room⟩ =
      some (reader.withRoom room) := by
    unfold user?
    rw [reads]
    rfl
  have keyEq : (reader.withRoom room).keyIn form other =
      form.encode (Bytes.ofText (writer.fold name)) :=
    congrArg (fun text => form.encode (Bytes.ofText text)) same
  have looked := valid.lookup (by omega) rfl user plain settled
  rw [keyEq, keeps.committed, Option.map_some, Bytes.untilZero_encode] at looked
  rcases looked with hit | ⟨far, cause, failed⟩
  · exact Or.inl hit
  · exact Or.inr ⟨after, valid.holds, far, cause, failed⟩

/-! ### An update before the transaction -/

def untouched : Handles where
  file := SharedFile.empty 0
  handle? _ := none

def opens (who : Descriptor) (mode : OpenMode) (flags : DictionaryFlags) : Turn :=
  ⟨who, .open ⟨"t", mode, { flags with tryBare := true, lock := true }, { mapSize := 4096 },
    Owner.ofUser 0, none, 0⟩, 65536⟩

def updates (who : Descriptor) (name : String) (value : Bytes) : Turn :=
  ⟨who, .obey (.perform (.update name value)), 65536⟩

def looksUp (who : Descriptor) (name : String) : Turn :=
  ⟨who, .obey (.perform (.lookup name)), 65536⟩

def commits (who : Descriptor) : Turn :=
  ⟨who, .obey .commit, 65536⟩

def bulkAndOther : List Turn :=
  [opens 3 .create { bulk := true }, commits 3, opens 4 .readWrite {}]

def bulkUpdate : List Turn :=
  [updates 3 "a" [49], commits 3]

def otherStored : Handles :=
  (run bulkAndOther untouched).step (updates 4 "b" [50])

theorem eq_of_map_eq {α β : Type} {found? : Option α} {found : α} (here : found? = some found)
    (shows : α → β) {shown : β} (same : found?.map shows = some shown) : shows found = shown := by
  subst here
  exact Option.some.inj same

set_option maxRecDepth 20000 in
/-- The other handle still finds its record when the bulk handle has published. -/
theorem run_keepsUpdate_beforeTransaction :
    (run bulkUpdate otherStored).result? (looksUp 4 "b") =
      some (.answered (.ok (.value (some [50])))) := by
  have begins : Along step Sound bulkAndOther untouched :=
    ⟨rfl, sound_of_mapped 4096 rfl (by decide +kernel) (by decide +kernel), rfl, trivial⟩
  have settled : (run bulkAndOther untouched).Settled .bare :=
    forall_handle? (fun _ => rfl) (by decide +kernel)
  obtain ⟨writer, writes⟩ := Option.isSome_iff_exists.mp
    (show ((run bulkAndOther untouched).handle? 4).isSome = true by decide +kernel)
  have single : writer.session.bulk = false :=
    eq_of_map_eq writes (·.session.bulk) (by decide +kernel)
  have fold : writer.fold "b" = "b" := eq_of_map_eq writes (·.fold "b") (by decide +kernel)
  have sound : (run bulkAndOther untouched).Sound (updates 4 "b" [50]) :=
    sound_of_mapped 4096 rfl (by decide +kernel) (by decide +kernel)
  have stored : (run bulkAndOther untouched).result? (updates 4 "b" [50]) =
      some (.answered (.ok (.updated .stored))) := by
    decide +kernel
  have waits : Along step (Allows (writer.fold "b") False) [] otherStored := trivial
  have waited : run [] otherStored = otherStored := rfl
  have idle : otherStored.Idle := by
    have idle : (run (bulkAndOther ++ [updates 4 "b" [50]]) untouched).Idle :=
      forall_handle? (fun _ => rfl) (by decide +kernel)
    exact idle
  have goesOn : Along step (Allows (writer.fold "b") True) bulkUpdate otherStored := by
    rw [fold]
    refine ⟨⟨sound_of_mapped 4096 rfl (by decide +kernel) (by decide +kernel), ?_,
      fun _ => trivial⟩, ⟨sound_of_mapped 4096 rfl (by decide +kernel) (by decide +kernel), trivial,
        fun _ => trivial⟩, trivial⟩
    intro dict here
    have other : dict.fold "a" = "a" := eq_of_map_eq here (·.fold "a") (by decide +kernel)
    rw [other]
    decide
  obtain ⟨reader, reads⟩ := Option.isSome_iff_exists.mp
    (show ((run bulkUpdate otherStored).handle? 4).isSome = true by decide +kernel)
  have plain : reader.session.bulk = false :=
    eq_of_map_eq reads (·.session.bulk) (by decide +kernel)
  have fold' : reader.fold "b" = "b" := eq_of_map_eq reads (·.fold "b") (by decide +kernel)
  have size : (readHeader (run bulkUpdate otherStored).file.image).map (·.mapSize) = .ok 4096 := by
    decide +kernel
  have kept := run_keepsUpdate 65536 (Or.inl rfl) (fun _ => rfl) (by decide) begins rfl settled rfl
    writes single sound stored rfl waits waited idle goesOn rfl reads plain
    (fold'.trans fold.symm)
  rcases kept with found | ⟨contents, holds, far, _⟩
  · exact found
  · rw [holds.readable] at size
    rw [show contents.header.mapSize = 4096 from Except.ok.inj size] at far
    exact absurd ⟨by decide, by decide⟩ far

/-! ### Updates that are lost -/

def lockFor? (dict : Dictionary) : Command → Option LockMode
  | .perform (.lookup _) => some .shared
  | .scan _ => some .shared
  | .perform _ => some .exclusive
  | .commit => if dict.session.bulk then some .exclusive else none
  | .close => if dict.session.bulk then some .exclusive else none
  | .drop => none

/-- Others hold a lock that a turn has to wait for. -/
def waits (world : Handles) (turn : Turn) : Bool :=
  match turn.deed with
  | .open opening => opening.flags.bulk && !world.file.locks.grantable turn.who .exclusive
  | .obey command =>
      (world.user? turn).any fun dict =>
        dict.flags.lock && (lockFor? dict command).any fun mode =>
          !world.file.locks.grantable turn.who mode

def results : List Turn → Handles → List (Option Result × Bool)
  | [], _ => []
  | turn :: rest, world => (world.result? turn, world.waits turn) :: results rest (world.step turn)

def storedMeanwhile : List Turn :=
  [opens 3 .create { bulk := true }, opens 4 .readWrite {}, updates 3 "a" [49],
    updates 4 "b" [50], commits 3, looksUp 4 "b"]

def storedFolded : List Turn :=
  bulkAndOther ++ [opens 5 .readWrite { foldCase := true }, updates 5 "B" [50], commits 3,
    looksUp 4 "B"]

def storedFar : List Turn :=
  bulkAndOther ++ [⟨5, .open ⟨"t", .readWrite, { tryBare := true, lock := true },
    { mapSize := 70368744177664 }, Owner.ofUser 0, none, 0⟩, 94374748045312⟩,
    ⟨5, .obey (.perform (.update "b" [50])), 94374748045312⟩, commits 3, looksUp 4 "b"]

set_option maxRecDepth 20000 in
/-- A commit discards what another handle has stored since the transaction began, although no
lock had to be waited for. Handles that fold differently do not find each other's names, and
those that cannot map the file find nothing. -/
theorem storedMeanwhile_lost_and_others :
    results storedMeanwhile untouched =
        [(none, false), (none, false), (some (.answered (.ok (.updated .stored))), false),
          (some (.answered (.ok (.updated .stored))), false), (some (.committed (.ok ())), false),
          (some (.answered (.ok (.value none))), false)] ∧
      results storedFolded untouched =
        [(none, false), (some (.committed (.ok ())), false), (none, false), (none, false),
          (some (.answered (.ok (.updated .stored))), false), (some (.committed (.ok ())), false),
          (some (.answered (.ok (.value none))), false)] ∧
      results storedFar untouched =
        [(none, false), (some (.committed (.ok ())), false), (none, false), (none, false),
          (some (.answered (.ok (.updated .stored))), false), (some (.committed (.ok ())), false),
          (some (.answered (.error (.engine .reading "mapstore:t" (.io .outOfAddresses)))),
            false)] := by
  refine ⟨?_, ?_, ?_⟩
  · decide +kernel
  · decide +kernel
  · decide +kernel

end RecordFile.Handles
