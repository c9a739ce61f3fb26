/-
Deleting takes one growth step at most.

A deletion writes what is left of the payload beside the live one, and a map of twice the size has
room for that. So a session whose map may be doubled deletes after one growth step at most, if the
system maps the size that this leads to. A handle asks its session for one form of the name after
another. The forms that are not found leave the file as it is, and the first one that is found is
deleted, so this takes one step for all of them.
-/

import RecordFile.Proofs.Dictionary.Settings
import RecordFile.Proofs.Session.Fitting

namespace RecordFile

open Environment (Mappable)
open Session (nextSize)

namespace Dictionary

variable {dict dict' : Dictionary} {file file' : SharedFile} {contents : Contents}
  {age room : Nat} {key : Bytes} {forms : List Form}

/-- What a deletion of the first form of a key that is found comes to, and what is left of the
file. A growth step leads to `larger`. -/
inductive Deletes (label : String) (image : Image) (contents : Contents) (larger : UInt64)
    (room : Nat) (key : Bytes) (forms : List Form) :
    Except DictionaryError Bool → Image → Prop
  | absent (absent : ∀ form ∈ forms, contents.records.find? (form.encode key) = none) :
      Deletes label image contents larger room key forms (.ok false) image
  | removed {earlier later : List Form} {form : Form} {image' : Image} {after : Contents}
      (forms_eq : forms = earlier ++ form :: later)
      (absent : ∀ form ∈ earlier, contents.records.find? (form.encode key) = none)
      (present : contents.records.find? (form.encode key) ≠ none)
      (advances : Advances 1 image contents image' after)
      (records_eq : after.records = contents.records.erase (form.encode key))
      (mapSize_eq : after.header.mapSize =
        if (contents.records.erase (form.encode key)).encodedLength ≤ contents.capacity then
          contents.header.mapSize
        else larger) :
      Deletes label image contents larger room key forms (.ok true) image'
  | refused {cause : SystemError} {image' : Image} {after : Contents}
      (far : ¬ Mappable room contents.header.mapSize ∨ ¬ Mappable room larger)
      (advances : Advances 0 image contents image' after) :
      Deletes label image contents larger room key forms
        (.error (.engine .deletingFrom label (.io cause))) image'

structure Deleter (dict : Dictionary) (image : Image) (contents : Contents) (age room : Nat) :
    Prop where
  holds : image.Holds contents
  writer : dict.session.Writer contents age
  single : dict.session.bulk = false
  retries : 1 ≤ dict.session.apiRetryLimit
  half : 2 * contents.header.mapSize.toNat ≤ dict.session.config.maxMapSize.toNat
  roomy : ∀ env, dict.session.env? = some env → env.room = room

theorem Deleter.deletes (deleter : dict.Deleter file.image contents age room)
    (recent : age < UInt64.size) (key : Bytes) :
    dict.session.Deletes file.image contents room key (dict.session.delete key file.image) := by
  obtain ⟨env, here, mayWrite⟩ := deleter.writer.opened
  rw [← deleter.roomy env here]
  exact deleter.writer.follows.deletes deleter.holds recent here mayWrite deleter.single
    deleter.retries deleter.half key

/-- A form that is not found leaves the file as it is, and the handle ready for the next form. -/
theorem Deleter.missed (deleter : dict.Deleter file.image contents age room)
    (recent : age < UInt64.size) {session' : Session}
    (reports : dict.session.Reports session' [])
    (deleted : dict.session.delete key file.image = (.ok false, session', file.image)) :
    ∃ dict' file', remove key dict file = (.ok none, dict', file') ∧
      dict'.Deleter file.image contents (age + 1) room ∧ file'.image = file.image ∧
      dict'.label = dict.label ∧ dict'.session.config = dict.session.config := by
  have ran : removal key dict.session file.image = (.ok none, session', file.image) := by
    unfold removal
    rw [deleted]
    rfl
  obtain ⟨dict', file', removed, same, sessionEq, imageEq⟩ :=
    dict.engine_eq .delete (removal key) file ran
  obtain ⟨_, _, _, bumps, after, removed', once, wrote⟩ :=
    remove_wrote key dict file contents age deleter.holds deleter.writer recent
  have removing : remove key dict file = (.ok none, dict', file') := removed
  rw [removing] at removed'
  cases removed'
  have kept : after = contents := by
    have still := wrote.advances.holds
    rw [imageEq] at still
    exact still.unique deleter.holds
  subst kept
  have configEq : dict'.session.config = dict.session.config := by
    rw [sessionEq]
    exact reports.alike.config_eq
  refine ⟨dict', file', removing, ?_, imageEq, congrArg Profile.label wrote.profile_eq, configEq⟩
  constructor
  · exact deleter.holds
  · exact wrote.writer.mono (Nat.add_le_add_left once age)
  · exact wrote.bulk_eq.trans deleter.single
  · rw [sessionEq]
    exact reports.alike.apiRetryLimit_eq ▸ deleter.retries
  · rw [configEq]
    exact deleter.half
  · intro env here
    obtain ⟨before, found, _⟩ := deleter.writer.opened
    obtain ⟨env', there, kin⟩ := reports.alike.env before found
    rw [sessionEq] at here
    rw [show session'.env? = some env from here] at there
    cases there
    exact kin.room_eq.trans (deleter.roomy before found)

/-- What the engine reports when a form is found, or when it cannot be looked for. -/
theorem remove_eq {answer : Except EngineError Bool} {session' : Session} {image' : Image}
    (deleted : dict.session.delete key file.image = (answer, session', image')) :
    ∃ dict' file', remove key dict file =
        (answer.map fun present => if present then some () else none, dict', file') ∧
      dict'.label = dict.label ∧ file'.image = image' := by
  have ran : removal key dict.session file.image =
      (answer.map fun present => if present then some () else none, session', image') := by
    unfold removal
    rw [deleted]
    cases answer with
    | error failure => rfl
    | ok present => rfl
  obtain ⟨dict', file', removed, same, -, imageEq⟩ :=
    dict.engine_eq .delete (removal key) file ran
  exact ⟨dict', file', removed, congrArg Profile.label same.profile_eq, imageEq⟩

theorem Deletes.missed {label : String} {larger : UInt64} {form : Form}
    {result : Except DictionaryError Bool} {image image' : Image}
    (deletes : Deletes label image contents larger room key forms result image')
    (absent : contents.records.find? (form.encode key) = none) :
    Deletes label image contents larger room key (form :: forms) result image' := by
  cases deletes with
  | absent others => exact .absent (List.forall_mem_cons.mpr ⟨absent, others⟩)
  | removed formsEq others present advances recordsEq mapSizeEq =>
      exact .removed (congrArg (form :: ·) formsEq) (List.forall_mem_cons.mpr ⟨absent, others⟩)
        present advances recordsEq mapSizeEq
  | refused far advances => exact .refused far advances

theorem tryForms_deletes (forms : List Form)
    (deleter : dict.Deleter file.image contents age room)
    (recent : age + forms.length ≤ UInt64.size) (key : Bytes) :
    Deletes dict.label file.image contents
      (nextSize dict.session.config contents.header.mapSize) room key forms
      ((tryForms key .deletingFrom remove forms dict file).1.map Option.isSome)
      (tryForms key .deletingFrom remove forms dict file).2.2.image := by
  induction forms generalizing dict file age with
  | nil => exact .absent fun _ none => absurd none List.not_mem_nil
  | cons form rest ih =>
      rw [List.length_cons] at recent
      have young : age < UInt64.size := by omega
      have deletes := deleter.deletes young (form.encode key)
      rcases deleted : dict.session.delete (form.encode key) file.image with
        ⟨answer, session', image'⟩
      obtain ⟨dict', file', removed, label, imageEq⟩ := remove_eq deleted
      rw [deleted] at deletes
      unfold tryForms
      cases deletes with
      | absent absent reports limit =>
          obtain ⟨dict', file', missed, deleter', imageEq, label, configEq⟩ :=
            deleter.missed young reports deleted
          rw [missed]
          dsimp only
          rw [← imageEq] at deleter' ⊢
          rw [← label, ← configEq]
          exact (ih deleter' (by omega)).missed absent
      | removed present fits advances recordsEq mapSizeEq reports =>
          have hit : remove (form.encode key) dict file = (.ok (some ()), dict', file') := removed
          rw [hit]
          subst imageEq
          refine .removed (List.nil_append _).symm (fun _ none => absurd none List.not_mem_nil)
            present advances recordsEq ?_
          rw [if_pos fits]
          exact mapSizeEq
      | grown present cramped advances recordsEq mapSizeEq reports =>
          have hit : remove (form.encode key) dict file = (.ok (some ()), dict', file') := removed
          rw [hit]
          subst imageEq
          refine .removed (List.nil_append _).symm (fun _ none => absurd none List.not_mem_nil)
            present advances recordsEq ?_
          rw [if_neg (Nat.not_le.mpr cramped)]
          exact mapSizeEq
      | refused present cramped far advances reports =>
          rw [removed]
          dsimp only [Except.map]
          rw [imageEq, label]
          exact .refused (.inr far) advances
      | unmapped unmapped =>
          obtain ⟨far, cause, last, failed⟩ := unmapped
          cases failed
          rw [removed]
          dsimp only [Except.map]
          rw [imageEq, label]
          exact .refused (.inl far) (Advances.refl deleter.holds)

theorem delete_deletes (deleter : dict.Deleter file.image contents age room)
    (recent : age + 2 ≤ UInt64.size) (name : String) :
    Deletes dict.label file.image contents (nextSize dict.session.config contents.header.mapSize)
      room (Bytes.ofText (dict.fold name)) dict.encoding.candidates (dict.delete name file).1
      (dict.delete name file).2.2.image := by
  have few := length_candidates dict.encoding
  rw [← image_lock dict .exclusive file] at deleter ⊢
  have searched := tryForms_deletes dict.encoding.candidates deleter (by omega)
    (Bytes.ofText (dict.fold name))
  unfold delete locked
  dsimp only
  rw [image_unlock]
  split
  · next failed => rw [failed] at searched; exact searched
  · next found => rw [found] at searched; exact searched

end Dictionary

namespace Handles

open Dictionary (Deleter)

variable {start world : Handles} {history : List Turn} {who : Descriptor} {dict : Dictionary}

def deletes (who : Descriptor) (name : String) (room : Nat) : Turn :=
  ⟨who, .obey (.perform (.delete name)), room⟩

theorem Reaches.deletes (reaches : start.Reaches history world who dict)
    (single : dict.session.bulk = false) (name : String) (room : Nat) :
    ∃ contents, world.file.image.Holds contents ∧
      (2 * contents.header.mapSize.toNat ≤ Dictionary.largestMapSize.toNat →
        ∃ doubled result, doubled.toNat = 2 * contents.header.mapSize.toNat ∧
          world.result? (deletes who name room) = some (.answered (result.map .deleted)) ∧
            Dictionary.Deletes dict.label world.file.image contents doubled room
              (Bytes.ofText (dict.fold name)) dict.encoding.candidates result
              (world.step (deletes who name room)).file.image) := by
  obtain ⟨contents, valid⟩ := reaches.valid
  refine ⟨contents, valid.holds, fun half => ?_⟩
  have recent := reaches.recent
  have user : world.user? (Handles.deletes who name room) = some (dict.withRoom room) := by
    unfold user? Handles.deletes
    rw [reaches.here]
    rfl
  have tuned := reaches.tuned room
  have deleter : (dict.withRoom room).Deleter world.file.image contents (2 * history.length)
      room := by
    constructor
    · exact valid.holds
    · exact valid.user user
    · exact single
    · rw [tuned.apiRetryLimit_eq]
      decide
    · rw [tuned.maxMapSize_eq]
      exact half
    · intro env here
      obtain ⟨_, _, rfl⟩ := Option.map_eq_some_iff.mp here
      rfl
  obtain ⟨resulted, stepped⟩ := obey_eq rfl user rfl
  rw [resulted, stepped]
  refine ⟨_, _, tuned.nextSize_of_half half, rfl, ?_⟩
  exact Dictionary.delete_deletes deleter (by omega) name

end Handles

/-- When the map may be doubled, a deletion removes the record after one growth step at most, and
a full map is never what it fails for. This holds of sessions that may retry, and of handles. -/
theorem deleting_growsOnce :
    (∀ {start world : Sessions} {history : List Sessions.Request} {who room : Nat}
        {session : Session},
      start.Reaches history world who → session = (world.session who).withRoom room →
        1 ≤ session.apiRetryLimit → ∀ key, ∃ contents, world.file.Holds contents ∧
          (2 * contents.header.mapSize.toNat ≤ session.config.maxMapSize.toNat →
            session.Deletes world.file contents room key (session.delete key world.file))) ∧
    (∀ {start world : Handles} {history : List Handles.Turn} {who : Descriptor}
        {dict : Dictionary},
      start.Reaches history world who dict → dict.session.bulk = false → ∀ name room,
        ∃ contents, world.file.image.Holds contents ∧
          (2 * contents.header.mapSize.toNat ≤ Dictionary.largestMapSize.toNat →
            ∃ doubled result, doubled.toNat = 2 * contents.header.mapSize.toNat ∧
              world.result? (Handles.deletes who name room) =
                some (.answered (result.map .deleted)) ∧
              Dictionary.Deletes dict.label world.file.image contents doubled room
                (Bytes.ofText (dict.fold name)) dict.encoding.candidates result
                (world.step (Handles.deletes who name room)).file.image)) :=
  ⟨fun reaches caller retries key => reaches.deletes caller retries key,
    fun reaches single name room => reaches.deletes single name room⟩

namespace Sessions

def putsSmallAndLarge : List Request :=
  [opensPlainly, ⟨0, .put [97] [49] false, 65536⟩,
    ⟨0, .put [98] (List.replicate 2100 118) false, 65536⟩]

def crowded : Sessions :=
  run putsSmallAndLarge listened

def deletesSmall : Except EngineError Bool × Session × Image :=
  ((crowded.session 0).withRoom 65536).delete [97] crowded.file

set_option maxRecDepth 20000 in
theorem reaches_putsSmallAndLarge : listened.Reaches putsSmallAndLarge crowded 0 where
  usable := .inl rfl
  fresh := fresh_listened
  safe := by
    have idle : ((listened.step opensPlainly).session 0).Plain := ⟨by decide +kernel, rfl⟩
    have still : ((run (putsSmallAndLarge.take 2) listened).session 0).Plain :=
      ⟨by decide +kernel, by decide +kernel⟩
    exact ⟨Session.Call.Opens.not_cutsBack trivial,
      Session.Plain.not_cutsBack ⟨idle.single, idle.idle⟩ _ _,
      Session.Plain.not_cutsBack ⟨still.single, still.idle⟩ _ _, trivial⟩
  recent := by decide
  ends := rfl
  single := by decide +kernel
  opened := Option.map_eq_some_iff.mp (show ((crowded.session 0).env?.map (·.flags.readOnly)) =
    some false by decide +kernel)

end Sessions

namespace Handles

def storesSmallAndLarge : List Turn :=
  [opens 3 .create {}, updates 3 "a" [49], updates 3 "b" (List.replicate 2100 118)]

def crowded : Handles :=
  run storesSmallAndLarge untouched

set_option maxRecDepth 20000 in
theorem reaches_storesSmallAndLarge {dict : Dictionary}
    (here : crowded.handle? 3 = some dict) :
    untouched.Reaches storesSmallAndLarge crowded 3 dict where
  usable := .inl rfl
  nobody _ := rfl
  sound := ⟨rfl, sound_of_mapped 4096 rfl (by decide +kernel) (by decide +kernel),
    sound_of_mapped 4096 rfl (by decide +kernel) (by decide +kernel), trivial⟩
  recent := by decide
  ends := rfl
  here := here

end Handles

set_option maxRecDepth 20000 in
/-- What is left has no room beside the live payload. The map is doubled, and the record removed. -/
theorem deleting_growsOnce_crowded :
    ((∃ contents, Sessions.crowded.file.Holds contents ∧
        contents.header.mapSize = 4096 ∧
        ((Sessions.crowded.session 0).withRoom 65536).Deletes Sessions.crowded.file contents 65536
          [97] Sessions.deletesSmall) ∧
      Sessions.deletesSmall.1.toOption = some true ∧
      Sessions.deletesSmall.2.1.growths = [8192]) ∧
    (∃ contents, Handles.crowded.file.image.Holds contents ∧
        contents.header.mapSize = 4096 ∧
        ∃ doubled result, doubled.toNat = 8192 ∧
          Dictionary.Deletes "mapstore:t" Handles.crowded.file.image contents doubled 65536 [97]
            [.bare] result
            (Handles.crowded.step (Handles.deletes 3 "a" 65536)).file.image) ∧
      Handles.crowded.result? (Handles.deletes 3 "a" 65536) =
        some (.answered (.ok (.deleted true))) := by
  refine ⟨⟨?_, ?_, ?_⟩, ?_, ?_⟩
  · obtain ⟨contents, holds, deletes⟩ :=
      deleting_growsOnce.1 Sessions.reaches_putsSmallAndLarge
        (rfl : (Sessions.crowded.session 0).withRoom 65536 = _) (by decide +kernel) [97]
    have read : (Environment.readHeader Sessions.crowded.file).map (·.mapSize) = .ok 4096 := by
      decide +kernel
    rw [holds.readable] at read
    have size : contents.header.mapSize = 4096 := Except.ok.inj read
    refine ⟨contents, holds, size, deletes ?_⟩
    rw [size]
    decide +kernel
  · decide +kernel
  · decide +kernel
  · obtain ⟨dict, here⟩ := Option.isSome_iff_exists.mp
      (show (Handles.crowded.handle? 3).isSome = true by decide +kernel)
    have single : dict.session.bulk = false :=
      Handles.eq_of_map_eq here (·.session.bulk) (by decide +kernel)
    obtain ⟨contents, holds, deletes⟩ :=
      deleting_growsOnce.2 (Handles.reaches_storesSmallAndLarge here) single "a" 65536
    have read : (Environment.readHeader Handles.crowded.file.image).map (·.mapSize) =
        .ok 4096 := by
      decide +kernel
    rw [holds.readable] at read
    have size : contents.header.mapSize = 4096 := Except.ok.inj read
    rw [size] at deletes
    obtain ⟨doubled, result, doubles, _, deletes⟩ := deletes (by decide)
    have label : dict.label = "mapstore:t" :=
      Handles.eq_of_map_eq here (·.label) (by decide +kernel)
    have key : Bytes.ofText (dict.fold "a") = [97] :=
      Handles.eq_of_map_eq here (fun dict => Bytes.ofText (dict.fold "a")) (by decide +kernel)
    have forms : dict.encoding.candidates = [.bare] :=
      Handles.eq_of_map_eq here (·.encoding.candidates) (by decide +kernel)
    rw [label, key, forms] at deletes
    exact ⟨contents, holds, size, doubled, result, doubles, deletes⟩
  · decide +kernel

set_option maxRecDepth 20000 in
/-- The map may be doubled many times over, and a growth step leads to a size that the system
refuses. -/
theorem greedyDelete_half_and_fails :
    (Environment.readHeader
        (Sessions.run Sessions.putsSmallAndLarge Sessions.greedy).file).map (·.mapSize) =
      .ok 4096 ∧
    2 * 4096 ≤ ((Sessions.run Sessions.putsSmallAndLarge Sessions.greedy).session
      0).config.maxMapSize.toNat ∧
    ((Sessions.run Sessions.putsSmallAndLarge Sessions.greedy).session 0).apiRetryLimit = 2 ∧
    (Sessions.run Sessions.putsSmallAndLarge Sessions.greedy).reply ⟨0, .delete [97], 65536⟩ =
      .failed (.io .outOfAddresses) := by
  refine ⟨?_, ?_, ?_, ?_⟩
  · decide +kernel
  · decide +kernel
  · decide +kernel
  · decide +kernel

end RecordFile
