/-
Opening a session.

The session follows what the file holds then: the records that were there, or none. An open that
fails leaves a database, or a file without bytes as it was.
-/

import RecordFile.Proofs.Session.Bulk

namespace RecordFile

def Image.Usable (image : Image) : Prop :=
  image.size = 0 ∨ ∃ contents, image.Holds contents

def Image.OpensWith (image : Image) (records : Records) : Prop :=
  records = Records.empty ∨ ∃ contents, image.Holds contents ∧ records = contents.records

namespace Session

variable {session session' : Session} {image image' : Image} {path : String} {flags : OpenFlags}
  {bulk : Bool} {room : Nat}

/-- A session that has been opened follows what the file holds. These are the records that were
there, or none. -/
theorem open_follows (valid : session.config.Valid) (usable : image.Usable)
    (opened : session.open path flags bulk room image = (.ok (), session', image')) :
    ∃ contents env, image'.Holds contents ∧ session'.Follows contents 0 ∧
      session'.env? = some env ∧ env.Attached flags contents ∧ session'.bulk = bulk ∧
      session'.pending? = none ∧ image.OpensWith contents.records := by
  have acted : session.act (.open path flags bulk) room image = (.done, session', image') := by
    unfold act
    dsimp only
    rw [opened]
    rfl
  have finish : ∀ {fresh : Image} {contents : Contents}, image.OpensWith contents.records →
      Environment.Opening flags session.config.initialMapSize room fresh contents
        (Environment.open path flags session.config.initialMapSize room image) →
      ∃ contents env, image'.Holds contents ∧ session'.Follows contents 0 ∧
        session'.env? = some env ∧ env.Attached flags contents ∧ session'.bulk = bulk ∧
        session'.pending? = none ∧ image.OpensWith contents.records := by
    intro fresh contents left opening
    rcases open_cases session path flags bulk room opening with
      ⟨bumps, after, env, file', done, prepared, attached⟩ |
      ⟨cause, bumps, after, file', refused, _⟩ | ⟨refused, _⟩
    · rw [acted] at done
      cases done
      refine ⟨after, env, prepared.advances.holds,
        follows_of_idle valid (tracks_of_env rfl attached.tracks) rfl, rfl, attached, rfl, rfl, ?_⟩
      rw [prepared.records_eq]
      split
      · exact Or.inl rfl
      · exact left
    · rw [acted] at refused
      cases refused
    · rw [acted] at refused
      cases refused
  rcases usable with nothing | ⟨contents, holds⟩
  · rcases Environment.open_of_nothing nothing path flags session.config.initialMapSize room with
      ⟨failure, refused, _⟩ | ⟨_, _, fresh, _, _, opening⟩
    · unfold Session.open at opened
      rw [refused] at opened
      cases opened
    · exact finish (Or.inl rfl) opening
  · exact finish (Or.inr ⟨contents, holds, rfl⟩)
      (Environment.open_opening holds path flags session.config.initialMapSize room)

/-- An open fails and leaves a file without bytes as it is, or makes a database of it. -/
theorem open_of_nothing (closed : session.Closed) (nothing : image.size = 0) (path : String)
    (flags : OpenFlags) (bulk : Bool) (room : Nat) :
    (∃ failure, session.open path flags bulk room image = (.error failure, session, image)) ∨
      ∃ after, (session.open path flags bulk room image).2.2.Holds after := by
  rcases Environment.open_of_nothing nothing path flags session.config.initialMapSize room with
    ⟨failure, refused, _⟩ | ⟨_, _, fresh, _, holds, opening⟩
  · refine Or.inl ⟨failure, ?_⟩
    unfold Session.open
    rw [refused]
  · obtain ⟨_, after, lands⟩ := open_lands holds (closed.follows _ 0) opening bulk
    exact Or.inr ⟨after, lands.advances.holds⟩

theorem open_advances {contents : Contents} (closed : session.Closed)
    (holds : image.Holds contents) (path : String) (flags : OpenFlags) (bulk : Bool)
    (room : Nat) :
    ∃ bumps after, bumps ≤ 1 ∧
      Advances bumps image contents (session.open path flags bulk room image).2.2 after := by
  obtain ⟨bumps, after, lands⟩ := open_lands holds (closed.follows contents 0)
    (Environment.open_opening holds path flags session.config.initialMapSize room) bulk
  exact ⟨bumps, after, lands.once, lands.advances⟩

end Session

end RecordFile
