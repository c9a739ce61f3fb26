/-
Opening a dictionary.

The session of a handle that has just been opened has the flags that were asked for and nothing
pending. A bulk handle that may write owns the file from then on, as long as nobody else writes
it.
-/

import RecordFile.Dictionary.Open
import RecordFile.Proofs.Dictionary.BulkHandle
import RecordFile.Proofs.Session.Opening

namespace RecordFile

namespace Dictionary

variable {dict dict' : Dictionary} {file file' : SharedFile} {contents after : Contents}
  {image : Image} {session : Session} {path : String} {mode : OpenMode}
  {flags : DictionaryFlags} {config : DictionaryConfig} {descriptor : Descriptor}
  {owner : Owner} {room : Nat} {source? : Option Nat} {now : Nat}

theorem tune_eq (config : DictionaryConfig) (session : Session) :
    ∃ listening, tune config session = { session with
      apiRetryLimit := apiRetryLimit
      bulkRetryLimit := bulkRetryLimit
      listening := listening } := by
  unfold tune
  dsimp only
  split
  · exact ⟨true, rfl⟩
  · exact ⟨session.listening, rfl⟩

theorem image_replace (file : SharedFile) (image : Image) (now : Nat) :
    (file.replace image now).image = image := by
  unfold SharedFile.replace SharedFile.touch
  split
  · rfl
  · rfl

theorem image_handshake (flags : DictionaryFlags) (descriptor : Descriptor)
    (file : SharedFile) : (handshake flags descriptor file).image = file.image := by
  unfold handshake
  split
  · rfl
  · rfl

/-- What is left of the file is what the session leaves of it. -/
theorem image_open (session : Session) (path : String) (mode : OpenMode)
    (flags : DictionaryFlags) (config : DictionaryConfig) (descriptor : Descriptor)
    (owner : Owner) (room : Nat) (source? : Option Nat) (now : Nat) (file : SharedFile) :
    (Dictionary.open session path mode flags config descriptor owner room source? now
      file).2.image =
        (session.open (databasePath path) (openFlags mode flags) flags.bulk room
          file.image).2.2 := by
  unfold Dictionary.open
  rcases session.open (databasePath path) (openFlags mode flags) flags.bulk room file.image with
    ⟨result, session', image'⟩
  cases result with
  | error failure => exact image_replace file image' now
  | ok done =>
      dsimp only
      rw [image_handshake, image_replace]

/-- An open leaves a database, or fails and leaves a file without bytes as it was. -/
theorem open_leaves {result : Except OpenError Dictionary} (made : newSession config = .ok session)
    (usable : file.image.Usable)
    (opened : Dictionary.open session path mode flags config descriptor owner room source? now
      file = (result, file')) :
    (file.image.size = 0 ∧ file'.image.size = 0 ∧ ∃ failure, result = .error failure) ∨
    ∃ after, file'.image.Holds after ∧ ∀ contents, file.image.Holds contents →
      ∃ bumps, bumps ≤ 1 ∧ Advances bumps file.image contents file'.image after := by
  obtain ⟨configValid, configEq, noEnv, idle, _⟩ := Session.init_eq_ok made
  have closed : session.Closed := ⟨configEq ▸ configValid, noEnv, idle⟩
  have imageEq := image_open session path mode flags config descriptor owner room source? now file
  rw [opened] at imageEq
  dsimp only at imageEq
  rcases usable with nothing | ⟨contents, holds⟩
  · rcases Session.open_of_nothing closed nothing (databasePath path) (openFlags mode flags)
        flags.bulk room with
      ⟨failure, refused⟩ | ⟨after, holds⟩
    · unfold Dictionary.open at opened
      rw [refused] at opened imageEq
      exact Or.inl ⟨nothing, imageEq ▸ nothing, _, (congrArg Prod.fst opened).symm⟩
    · exact Or.inr ⟨after, imageEq ▸ holds,
        fun contents holds => absurd nothing holds.size_ne_zero⟩
  · obtain ⟨bumps, after, once, advances⟩ := Session.open_advances closed holds
      (databasePath path) (openFlags mode flags) flags.bulk room
    rw [← imageEq] at advances
    refine Or.inr ⟨after, advances.holds, fun found holds' => ?_⟩
    cases holds.unique holds'
    exact ⟨bumps, once, advances⟩

structure Opened (dict : Dictionary) (mode : OpenMode) (flags : DictionaryFlags) (image : Image)
    (contents : Contents) : Prop where
  holds : image.Holds contents
  follows : dict.session.Follows contents 0
  right : ∃ env, dict.session.env? = some env ∧ env.flags = openFlags mode flags
  bulk_eq : dict.session.bulk = flags.bulk
  idle : dict.session.pending? = none
  encoding_eq : dict.encoding = Encoding.ofFlags flags

theorem open_opened (made : newSession config = .ok session) (usable : file.image.Usable)
    (opened : Dictionary.open session path mode flags config descriptor owner room source? now
      file = (.ok dict, file')) :
    ∃ contents, dict.Opened mode flags file'.image contents ∧
      file.image.OpensWith contents.records := by
  obtain ⟨valid, configEq, _⟩ := Session.init_eq_ok made
  unfold Dictionary.open at opened
  rcases ran : session.open (databasePath path) (openFlags mode flags) flags.bulk room
      file.image with ⟨result, session', image'⟩
  rw [ran] at opened
  cases result with
  | error failure => cases opened
  | ok done =>
      cases opened
      obtain ⟨contents, env, holds, follows, here, attached, bulkEq, idle, left⟩ :=
        Session.open_follows (configEq ▸ valid) usable ran
      obtain ⟨listening, tuned⟩ := tune_eq config session'
      rw [tuned]
      refine ⟨contents, ⟨?_, ?_, ⟨env, here, attached.flags_eq⟩, bulkEq, idle, rfl⟩, left⟩
      · rw [image_handshake, image_replace]
        exact holds
      · exact ⟨follows.valid, follows.tracks, follows.sound, follows.writer⟩

theorem Opened.writer (opened : dict.Opened mode flags image contents)
    (writes : mode.canWrite = true) :
    ∃ env, dict.session.env? = some env ∧ env.flags.readOnly = false := by
  obtain ⟨env, here, flagsEq⟩ := opened.right
  refine ⟨env, here, ?_⟩
  rw [flagsEq]
  cases mode with
  | readOnly => cases writes
  | readWrite => rfl
  | create => rfl
  | truncate => rfl

/-- A bulk handle that was opened for writing owns the file, and nothing is pending. -/
theorem open_owns (made : newSession config = .ok session) (bulk : flags.bulk = true)
    (writes : mode.canWrite = true) (usable : file.image.Usable)
    (opened : Dictionary.open session path mode flags config descriptor owner room source? now
      file = (.ok dict, file')) :
    ∃ contents, dict.Owns file'.image contents ∧
      dict.shelf contents = ⟨Encoding.ofFlags flags, contents.records⟩ := by
  obtain ⟨contents, opened, _⟩ := open_opened made usable opened
  refine ⟨contents, ⟨opened.holds, ⟨opened.bulk_eq.trans bulk, opened.follows,
    opened.writer writes⟩, Session.mapped_of_idle opened.idle⟩, ?_⟩
  unfold shelf
  rw [opened.encoding_eq, Session.draft_of_idle opened.idle]

end Dictionary

end RecordFile
