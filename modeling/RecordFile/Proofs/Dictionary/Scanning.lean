/-
Scans and lookups of one handle.

On records that stand in one form, for names and values without zero bytes, a scan returns the
names in their own order, each with its value, and a lookup returns the value that a scan returns
with the name. Lookups between the steps do not move the scan, and what they leave in the buffers
of the handle does not show.
-/

import Mathlib.Data.List.Forall2
import RecordFile.Dictionary.Scratch
import RecordFile.Proofs.Dictionary.Forms
import RecordFile.Proofs.Dictionary.Readers
import RecordFile.Proofs.Records.SortedMap

namespace RecordFile

/-! ### Records in a form -/

theorem Bytes.untilZero_of_free {data : Bytes} (free : 0 ∉ data) : untilZero data = data := by
  unfold untilZero
  induction data with
  | nil => rfl
  | cons byte rest ih =>
      have nonzero : byte ≠ 0 := fun zero => free (zero ▸ List.mem_cons_self)
      have later : 0 ∉ rest := fun member => free (List.mem_cons_of_mem byte member)
      simp [nonzero, ih later]

/-- A record as a scan returns it, with key and value up to their first zero bytes. -/
def Record.cut (record : Record) : Record :=
  (Bytes.untilZero record.1, Bytes.untilZero record.2)

namespace Form

variable {form : Form} {entries records : Records} {left right name value : Bytes}

theorem encode_lt (form : Form) (before : left < right) : form.encode left < form.encode right := by
  cases form with
  | bare => exact before
  | terminated =>
      unfold encode
      induction left generalizing right with
      | nil =>
          cases right with
          | nil => exact absurd before (Bytes.lt_irrefl [])
          | cons byte rest =>
              have more : [] < rest ++ [0] := by cases rest <;> exact List.nil_lt_cons _ _
              by_cases zero : byte = 0
              · exact List.cons_lt_cons_iff.mpr (Or.inr ⟨zero.symm, more⟩)
              · exact List.cons_lt_cons_iff.mpr (Or.inl (UInt8.pos_iff_ne_zero.mpr zero))
      | cons byte rest ih =>
          cases right with
          | nil => exact absurd before (List.not_lt_nil _)
          | cons other later =>
              rcases List.cons_lt_cons_iff.mp before with less | ⟨rfl, less⟩
              · exact List.cons_lt_cons_iff.mpr (Or.inl less)
              · exact List.cons_lt_cons_iff.mpr (Or.inr ⟨rfl, ih less⟩)

theorem encode_lt_iff (form : Form) : form.encode left < form.encode right ↔ left < right := by
  refine ⟨fun before => ?_, form.encode_lt⟩
  by_cases same : left = right
  · subst same
    exact absurd before (Bytes.lt_irrefl _)
  · apply Classical.byContradiction
    intro notBefore
    exact Bytes.lt_asymm before (form.encode_lt (Bytes.lt_of_not_lt_of_ne notBefore same))

def encodeRecord (form : Form) (entry : Record) : Record :=
  (form.encode entry.1, form.encode entry.2)

/-- The records are those of the entries in this form. No entry has a zero byte. -/
structure Lists (form : Form) (entries records : Records) : Prop where
  toList_eq : records.toList = entries.toList.map form.encodeRecord
  free : ∀ entry ∈ entries.toList, 0 ∉ entry.1 ∧ 0 ∉ entry.2

theorem exists_lists (stored : ∀ key value, records.find? key = some value →
      form.Encodes key ∧ form.Encodes value) : ∃ entries, form.Lists entries records := by
  have decodes : ∀ record ∈ records.toList, form.encodeRecord record.cut = record ∧
      0 ∉ record.cut.1 ∧ 0 ∉ record.cut.2 := by
    intro record member
    obtain ⟨⟨name, key, free⟩, data, value, free'⟩ :=
      stored record.1 record.2 ((Records.find?_eq_some_iff _ _ _).mpr member)
    have cut : record.cut = (name, data) := by
      unfold Record.cut
      rw [key, value, Bytes.untilZero_encode, Bytes.untilZero_encode,
        Bytes.untilZero_of_free free, Bytes.untilZero_of_free free']
    rw [cut]
    exact ⟨Prod.ext key.symm value.symm, free, free'⟩
  refine ⟨⟨records.toList.map Record.cut, ?_⟩, ?_, ?_⟩
  · apply List.pairwise_map.mpr
    refine records.ascending.imp_of_mem fun {first second} member member' before => ?_
    rw [← (decodes first member).1, ← (decodes second member').1] at before
    exact form.encode_lt_iff.mp before
  · rw [List.map_map]
    refine Eq.symm ((List.map_congr_left fun record member => ?_).trans (List.map_id _))
    exact (decodes record member).1
  · intro entry member
    obtain ⟨record, among, rfl⟩ := List.mem_map.mp member
    exact (decodes record among).2

/-- No name without zero bytes has a key in the other form. -/
theorem absent_other (stored : ∀ key value, records.find? key = some value →
      form.Encodes key ∧ form.Encodes value) (free : 0 ∉ name) :
    records.find? (form.other.encode name) = none := by
  apply Option.eq_none_iff_forall_not_mem.mpr
  intro value found
  exact form.not_encodes_other free (stored _ value found).1

/-- A handle that is settled on the form looks for the name in no other, and one that is undecided
does not find it in the other. -/
def Finds (form : Form) (encoding : Encoding) (records : Records) (name : Bytes) : Prop :=
  encoding = .settled form ∨
    (encoding = .undecided ∧ records.find? (form.other.encode name) = none)

namespace Lists

theorem mem_iff (lists : form.Lists entries records) :
    (form.encode name, value) ∈ records.toList ↔
      ∃ data, (name, data) ∈ entries.toList ∧ form.encode data = value := by
  rw [lists.toList_eq, List.mem_map]
  constructor
  · rintro ⟨⟨found, data⟩, member, same⟩
    obtain ⟨sameName, sameValue⟩ := Prod.mk.inj same
    cases form.encode_injective sameName
    exact ⟨data, member, sameValue⟩
  · rintro ⟨data, member, rfl⟩
    exact ⟨(name, data), member, rfl⟩

theorem find?_encode (lists : form.Lists entries records) (name : Bytes) :
    records.find? (form.encode name) = (entries.find? name).map form.encode := by
  apply Option.ext
  intro value
  rw [Records.find?_eq_some_iff, lists.mem_iff, Option.map_eq_some_iff]
  simp only [Records.find?_eq_some_iff]

theorem untilZero_find? (lists : form.Lists entries records) (name : Bytes) :
    (records.find? (form.encode name)).map Bytes.untilZero = entries.find? name := by
  rw [lists.find?_encode, Option.map_map]
  cases found : entries.find? name with
  | none => rfl
  | some value =>
      have free := lists.free _ ((Records.find?_eq_some_iff _ _ _).mp found)
      simp [Bytes.untilZero_encode, Bytes.untilZero_of_free free.2]

theorem find?_iff (lists : form.Lists entries records) (name value : Bytes) :
    entries.find? name = some value ↔
      records.find? (form.encode name) = some (form.encode value) := by
  rw [lists.find?_encode, Option.map_eq_some_iff]
  constructor
  · intro found
    exact ⟨value, found, rfl⟩
  · rintro ⟨data, found, same⟩
    rwa [← form.encode_injective same]

theorem cut_getElem? (lists : form.Lists entries records) (n : Nat) :
    (records.toList[n]?).map Record.cut = entries.toList[n]? := by
  rw [lists.toList_eq, List.getElem?_map, Option.map_map]
  cases found : entries.toList[n]? with
  | none => rfl
  | some entry =>
      obtain ⟨name, value⟩ := lists.free entry (List.mem_of_getElem? found)
      simp [Record.cut, encodeRecord, Bytes.untilZero_encode, Bytes.untilZero_of_free name,
        Bytes.untilZero_of_free value]

end Lists

theorem Finds.findSome?_candidates {encoding : Encoding}
    (finds : form.Finds encoding records name) :
    (encoding.candidates.findSome? fun other => records.find? (other.encode name)) =
      records.find? (form.encode name) := by
  rcases finds with rfl | ⟨rfl, absent⟩
  · unfold Encoding.candidates
    rw [List.findSome?_singleton]
  · unfold Encoding.candidates
    rw [List.findSome?_cons, List.findSome?_singleton]
    cases form with
    | terminated =>
        rw [show records.find? (bare.encode name) = none from absent]
        cases records.find? (terminated.encode name) <;> rfl
    | bare => rw [show records.find? (terminated.encode name) = none from absent]

theorem Finds.confirm_eq {encoding : Encoding} {hit : Form}
    (finds : form.Finds encoding records name)
    (found : (encoding.candidates.find? fun other =>
      (records.find? (other.encode name)).isSome) = some hit) :
    encoding.confirm hit = .settled form := by
  rcases finds with rfl | ⟨rfl, absent⟩
  · rfl
  · have present := List.find?_some found
    have same : hit = form := by
      cases form <;> cases hit <;>
        first | rfl | exact absurd absent (Option.isSome_iff_ne_none.mp present)
    rw [same]
    rfl

end Form

namespace Session.Outlook

variable {outlook : Outlook} {n : Nat} {record : Record}

def Points (outlook : Outlook) (n : Nat) : Prop :=
  destination outlook.cursor? .next outlook.records = outlook.records.toList[n]?

theorem points_of_some (found : outlook.records.toList[n]? = some record) :
    (outlook.moved (some record)).Points (n + 1) :=
  Records.after?_eq_getElem? found

theorem points_first (outlook : Outlook) :
    destination outlook.cursor? .first outlook.records = outlook.records.toList[0]? ∧
      (outlook.moved outlook.records.toList[0]?).Points 1 := by
  refine ⟨List.head?_eq_getElem?, ?_⟩
  cases found : outlook.records.toList[0]? with
  | some record => exact points_of_some found
  | none =>
      have none : outlook.records.toList = [] :=
        List.length_eq_zero_iff.mp (Nat.le_zero.mp (List.getElem?_eq_none_iff.mp found))
      unfold Points destination Records.first? Records.after? moved
      dsimp only
      rw [none]
      cases outlook.cursor? <;> rfl

/-- At the end the scan stays there. -/
theorem Points.next (points : outlook.Points n) :
    (outlook.moved outlook.records.toList[n]?).Points (n + 1) := by
  cases found : outlook.records.toList[n]? with
  | some record => exact points_of_some found
  | none =>
      have beyond := List.getElem?_eq_none_iff.mp found
      unfold Points at points ⊢
      rw [found] at points
      rw [show outlook.moved none = outlook from rfl, points]
      exact (List.getElem?_eq_none_iff.mpr (Nat.le_succ_of_le beyond)).symm

end Session.Outlook

namespace Dictionary

open Environment (Mappable)
open Session (Outlook Reading Sighted)

variable {dict dict' : Dictionary} {form : Form} {file file' : SharedFile} {entries : Records}
  {contents : Contents} {age room n : Nat} {outlook : Outlook} {session' : Session}
  {failure : EngineError} {name : Bytes} {forms : List Form}

/-! ### Lookups -/

theorem engineRead_heard {α : Type} (dict : Dictionary) (call : EngineCall)
    (run : Session → Image → α × Session) (file : SharedFile) {result : α}
    (ran : run dict.session file.image = (result, session')) :
    ∃ file', dict.engineRead call run file = (result, dict.heard session', file') ∧
      file'.image = file.image := by
  obtain ⟨file', engaged, same, _⟩ := dict.engine_heard call
    (fun session image => ((run session image).1, (run session image).2, image)) file
    (show _ = (_, session', file.image) by rw [ran])
  exact ⟨file', engaged, same⟩

theorem ofEngine_of_declines {unmapped : Prop} (declines : outlook.Declines unmapped failure)
    (action : EngineAction) (label : String) :
    DictionaryError.ofEngine action label failure = .engine action label failure := by
  cases declines with
  | barred _ _ => rfl
  | unread _ => rfl

theorem fetch_sighted
    (sighted : dict.session.Sighted file.image contents age outlook session') (key : Bytes) :
    ∃ file', fetch key dict file =
        (.ok (outlook.records.find? key), dict.heard session', file') ∧
      file'.image = file.image := by
  apply engineRead_heard
  unfold Session.get
  rw [sighted.viewed]

theorem fetch_unsighted (refused : dict.session.view file.image = (.error failure, dict.session))
    (key : Bytes) :
    ∃ file', fetch key dict file = (.error failure, dict.heard dict.session, file') ∧
      file'.image = file.image := by
  apply engineRead_heard
  unfold Session.get
  rw [refused]

structure Reads (dict : Dictionary) (contents : Contents) (age : Nat) (outlook : Outlook)
    (dict' : Dictionary) (image : Image) : Prop where
  reading : dict'.session.Reading image contents age outlook
  profile_eq : dict'.profile = dict.profile

/-- All forms of a name are looked for in the same records. -/
theorem tryForms_sighted
    (sighted : dict.session.Sighted file.image contents age outlook session')
    (reading : dict.session.Reading file.image contents age outlook) (name : Bytes)
    (forms : List Form) :
    ∃ dict' file', tryForms name .reading fetch forms dict file =
        (.ok (forms.findSome? fun form => outlook.records.find? (form.encode name)), dict',
          file') ∧
      dict.Reads contents age outlook dict' file'.image ∧
      dict'.encoding =
        match forms.find? fun form => (outlook.records.find? (form.encode name)).isSome with
        | none => dict.encoding
        | some form => dict.encoding.confirm form := by
  induction forms generalizing dict file session' with
  | nil => exact ⟨dict, file, rfl, ⟨reading, rfl⟩, rfl⟩
  | cons form rest ih =>
      obtain ⟨file', fetched, same⟩ := fetch_sighted sighted (form.encode name)
      have again : (dict.heard session').session.Sighted file'.image contents age outlook
          (dict.heard session').session := by
        rw [same]
        exact sighted.again
      have reading' : (dict.heard session').session.Reading file'.image contents age outlook := by
        rw [same]
        exact sighted.reading.silenced
      unfold tryForms
      rw [fetched]
      cases found : outlook.records.find? (form.encode name) with
      | none =>
          -- A key that is missed does not change what the session looks at next.
          obtain ⟨dict', last, tried, reads, settled⟩ := ih again reading'
          refine ⟨dict', last, ?_, ⟨reads.reading, reads.profile_eq⟩, ?_⟩
          · rw [List.findSome?_cons, found]
            exact tried
          · rw [List.find?_cons, found]
            exact settled
      | some value =>
          refine ⟨{ dict.heard session' with encoding := dict.encoding.confirm form }, file', ?_,
            ⟨reading', rfl⟩, ?_⟩
          · rw [List.findSome?_cons, found]
            rfl
          · rw [List.find?_cons, found]
            rfl

/-- A name stands for its value, unless the records cannot be read. -/
theorem lookup_reads (reading : dict.session.Reading file.image contents age outlook)
    (recent : age < UInt64.size)
    (roomy : ∀ env, dict.session.env? = some env → env.room = room)
    (lists : form.Lists entries outlook.records) (plain : dict.flags.foldCase = false)
    {name : String} (finds : form.Finds dict.encoding outlook.records (Bytes.ofText name)) :
    ∃ result dict' file', dict.lookup name file = (result, dict', file') ∧
      dict.Reads contents age outlook dict' file'.image ∧
      (dict'.encoding = dict.encoding ∨ dict'.encoding = .settled form) ∧
      (result = .ok (entries.find? (Bytes.ofText name)) ∨
        ∃ failure, outlook.Declines (¬ Mappable room contents.header.mapSize) failure ∧
          result = .error (.engine .reading dict.label failure)) := by
  have folded : dict.fold name = name := by
    unfold fold
    rw [plain]
    rfl
  rw [← image_lock dict .shared] at reading
  unfold lookup locked
  dsimp only
  rw [folded]
  rcases reading.view recent roomy with ⟨session', sighted⟩ | ⟨failure, refused, declines⟩
  · obtain ⟨dict', file', tried, reads, settled⟩ :=
      tryForms_sighted sighted reading (Bytes.ofText name) dict.encoding.candidates
    rw [finds.findSome?_candidates] at tried
    rw [tried]
    refine ⟨_, dict', dict.unlock file', rfl, ?_, ?_, Or.inl ?_⟩
    · rw [image_unlock]
      exact reads
    · rw [settled]
      split
      · exact Or.inl rfl
      · next hit found => exact Or.inr (finds.confirm_eq found)
    · exact congrArg Except.ok (lists.untilZero_find? _)
  · obtain ⟨first, rest, forms⟩ : ∃ first rest, dict.encoding.candidates = first :: rest := by
      cases dict.encoding <;> exact ⟨_, _, rfl⟩
    obtain ⟨file', fetched, same⟩ := fetch_unsighted refused (first.encode (Bytes.ofText name))
    rw [forms, tryForms_last fetched nofun]
    refine ⟨_, dict.heard dict.session, dict.unlock file', rfl, ⟨?_, rfl⟩, Or.inl rfl,
      Or.inr ⟨failure, declines, ?_⟩⟩
    · rw [image_unlock, same]
      exact reading.silenced
    · exact congrArg Except.error (ofEngine_of_declines declines _ _)

/-! ### Steps of a scan -/

theorem sequence_reads (reading : dict.session.Reading file.image contents age outlook)
    (recent : age < UInt64.size)
    (roomy : ∀ env, dict.session.env? = some env → env.room = room) (move : CursorMove) :
    ∃ result dict' file' outlook', dict.sequence move file = (result, dict', file') ∧
      dict.Reads contents age outlook' dict' file'.image ∧ dict'.encoding = dict.encoding ∧
      ((result = .ok ((Session.destination outlook.cursor? move outlook.records).map
          Record.cut) ∧
        outlook' = outlook.moved (Session.destination outlook.cursor? move outlook.records)) ∨
      (∃ failure, outlook.Declines (¬ Mappable room contents.header.mapSize) failure ∧
        result = .error (.engine .seeking dict.label failure) ∧ outlook' = outlook)) := by
  rw [← image_lock dict .shared] at reading
  unfold sequence locked
  dsimp only
  rcases reading.view recent roomy with ⟨session', sighted⟩ | ⟨failure, refused, declines⟩
  · obtain ⟨last, sought, reading'⟩ := sighted.seek move
    obtain ⟨file', engaged, same⟩ := dict.engineRead_heard .seek
      (fun session image => session.seek move image) (dict.lock .shared file) sought
    rw [engaged]
    refine ⟨_, _, _, _, rfl, ⟨?_, rfl⟩, rfl, Or.inl ⟨rfl, rfl⟩⟩
    rw [image_unlock, same]
    exact reading'.silenced
  · have sought : dict.session.seek move (dict.lock .shared file).image =
        (.error failure, dict.session) := by
      unfold Session.seek
      rw [refused]
    obtain ⟨file', engaged, same⟩ := dict.engineRead_heard .seek
      (fun session image => session.seek move image) (dict.lock .shared file) sought
    rw [engaged]
    refine ⟨_, _, _, outlook, rfl, ⟨?_, rfl⟩, rfl, Or.inr ⟨failure, declines, ?_, rfl⟩⟩
    · rw [image_unlock, same]
      exact reading.silenced
    · exact congrArg Except.error (ofEngine_of_declines declines _ _)

/-! ### Queries one after another -/

inductive Query where
  | lookup (name : String)
  | scan (move : CursorMove)
  deriving DecidableEq

def ask (dict : Dictionary) (query : Query) (scratch : Scratch) (file : SharedFile) :
    (Result × Scratch) × Dictionary × SharedFile :=
  match query with
  | .lookup name =>
      let outcome := dict.lookupInto name scratch file
      ((.answered (outcome.1.1.map .value), outcome.1.2), outcome.2)
  | .scan move =>
      let outcome := dict.sequenceInto move scratch file
      ((.scanned outcome.1.1, outcome.1.2), outcome.2)

/-- The results of queries, each with the longest mapping that there are addresses for meanwhile.
All of them use the same buffers. -/
def answers : List (Query × Nat) → Dictionary → Scratch → SharedFile → List Result
  | [], _, _, _ => []
  | (query, room) :: rest, dict, scratch, file =>
      let outcome := (dict.withRoom room).ask query scratch file
      outcome.1.1 :: answers rest outcome.2.1 outcome.1.2 outcome.2.2

/-- What a step of a scan returned, if it did not fail. -/
def Result.step? : Result → Option (Option Record)
  | .scanned (.ok record?) => some record?
  | _ => none

/-- What the steps of a scan returned, in order. Those that failed are left out. -/
def steps (results : List Result) : List (Option Record) :=
  results.filterMap Result.step?

/-- A lookup returns the value of the entry with the name, and a scan some record or the end,
unless the records cannot be read. -/
inductive Tells (entries : Records) (outlook : Outlook) (mapSize : UInt64) (label : String) :
    Query × Nat → Result → Prop
  | found {name : String} {room : Nat} :
      Tells entries outlook mapSize label (.lookup name, room)
        (.answered (.ok (.value (entries.find? (Bytes.ofText name)))))
  | unread {name : String} {room : Nat} {failure : EngineError}
      (declines : outlook.Declines (¬ Mappable room mapSize) failure) :
      Tells entries outlook mapSize label (.lookup name, room)
        (.answered (.error (.engine .reading label failure)))
  | stepped {move : CursorMove} {room : Nat} {record? : Option Record} :
      Tells entries outlook mapSize label (.scan move, room) (.scanned (.ok record?))
  | unmoved {move : CursorMove} {room : Nat} {failure : EngineError}
      (declines : outlook.Declines (¬ Mappable room mapSize) failure) :
      Tells entries outlook mapSize label (.scan move, room)
        (.scanned (.error (.engine .seeking label failure)))

structure Attends (dict : Dictionary) (image : Image) (contents : Contents) (age : Nat)
    (form : Form) (entries : Records) (outlook : Outlook) : Prop where
  reading : dict.session.Reading image contents age outlook
  lists : form.Lists entries outlook.records
  plain : dict.flags.foldCase = false
  encoding : dict.encoding = .undecided ∨ dict.encoding = .settled form

theorem Tells.of_moved {mapSize : UInt64} {label : String} {record? : Option Record}
    {query : Query × Nat} {result : Result}
    (tells : Tells entries (outlook.moved record?) mapSize label query result) :
    Tells entries outlook mapSize label query result := by
  cases tells with
  | found => exact .found
  | unread declines => exact .unread declines.of_moved
  | stepped => exact .stepped
  | unmoved declines => exact .unmoved declines.of_moved

theorem Attends.withRoom {image : Image}
    (attends : dict.Attends image contents age form entries outlook) (room : Nat) :
    (dict.withRoom room).Attends image contents age form entries outlook :=
  ⟨attends.reading.withRoom room, attends.lists, attends.plain, attends.encoding⟩

theorem Reads.attends {mapped : Outlook} {image image' : Image}
    (reads : dict.Reads contents age mapped dict' image')
    (attends : dict.Attends image contents age form entries outlook)
    (same : mapped.records = outlook.records)
    (encoding : dict'.encoding = dict.encoding ∨ dict'.encoding = .settled form) :
    dict'.Attends image' contents age form entries mapped where
  reading := reads.reading
  lists := same ▸ attends.lists
  plain := (congrArg (·.flags.foldCase) reads.profile_eq).trans attends.plain
  encoding := by
    rcases encoding with kept | settled
    · rw [kept]
      exact attends.encoding
    · exact Or.inr settled

inductive Asked (entries : Records) (outlook : Outlook) (mapSize : UInt64) (label : String) :
    Query × Nat → Result → Outlook → Prop
  | looked {name : String} {room : Nat} {result : Result}
      (tells : Tells entries outlook mapSize label (.lookup name, room) result) :
      Asked entries outlook mapSize label (.lookup name, room) result outlook
  | stepped {move : CursorMove} {room : Nat} {record? : Option Record}
      (goes : Session.destination outlook.cursor? move outlook.records = record?) :
      Asked entries outlook mapSize label (.scan move, room)
        (.scanned (.ok (record?.map Record.cut))) (outlook.moved record?)
  | unmoved {move : CursorMove} {room : Nat} {failure : EngineError}
      (declines : outlook.Declines (¬ Mappable room mapSize) failure) :
      Asked entries outlook mapSize label (.scan move, room)
        (.scanned (.error (.engine .seeking label failure))) outlook

theorem Asked.tells {mapSize : UInt64} {label : String} {query : Query × Nat} {result : Result}
    {outlook' : Outlook} (asked : Asked entries outlook mapSize label query result outlook') :
    Tells entries outlook mapSize label query result ∧
      ∃ record?, outlook' = outlook.moved record? := by
  cases asked with
  | looked tells => exact ⟨tells, none, rfl⟩
  | stepped _ => exact ⟨.stepped, _, rfl⟩
  | unmoved declines => exact ⟨.unmoved declines, none, rfl⟩

theorem Attends.ask (attends : dict.Attends file.image contents age form entries outlook)
    (recent : age < UInt64.size) {query : Query} (room : Nat) (scratch : Scratch)
    (finds : ∀ name, query = .lookup name →
      form.Finds dict.encoding outlook.records (Bytes.ofText name)) :
    ∃ result scratch' dict' file' outlook',
      (dict.withRoom room).ask query scratch file = ((result, scratch'), dict', file') ∧
      dict'.Attends file'.image contents age form entries outlook' ∧
      dict'.label = dict.label ∧
      (dict'.encoding = dict.encoding ∨ dict'.encoding = .settled form) ∧
      Asked entries outlook contents.header.mapSize dict.label (query, room) result outlook' := by
  have attends' := attends.withRoom room
  have roomy : ∀ env, (dict.withRoom room).session.env? = some env → env.room = room := by
    intro env here
    obtain ⟨_, _, rfl⟩ := Option.map_eq_some_iff.mp here
    rfl
  unfold Dictionary.ask
  cases query with
  | lookup name =>
      obtain ⟨result, dict', file', looked, reads, encoding, replied⟩ :=
        lookup_reads attends'.reading recent roomy attends.lists attends.plain (finds name rfl)
      obtain ⟨scratch', into⟩ := (dict.withRoom room).lookupInto_eq name scratch file
      dsimp only
      rw [into, looked]
      refine ⟨_, scratch', dict', file', outlook, rfl, reads.attends attends' rfl encoding,
        congrArg Profile.label reads.profile_eq, encoding, .looked ?_⟩
      rcases replied with rfl | ⟨failure, declines, rfl⟩
      · exact .found
      · exact .unread declines
  | scan move =>
      obtain ⟨result, dict', file', outlook', sought, reads, encoding, replied⟩ :=
        sequence_reads attends'.reading recent roomy move
      obtain ⟨scratch', into⟩ := (dict.withRoom room).sequenceInto_eq move scratch file
      dsimp only
      rw [into, sought]
      refine ⟨_, scratch', dict', file', outlook', rfl, ?_,
        congrArg Profile.label reads.profile_eq, Or.inl encoding, ?_⟩
      · refine reads.attends attends' ?_ (Or.inl encoding)
        rcases replied with ⟨_, rfl⟩ | ⟨_, _, _, rfl⟩
        · rfl
        · rfl
      · rcases replied with ⟨rfl, rfl⟩ | ⟨failure, declines, rfl, rfl⟩
        · exact .stepped rfl
        · exact .unmoved declines

/-- As long as the handle is undecided, no name asked for has a key in the other form. -/
def Spells (form : Form) (records : Records) :
    List (Query × Nat) → Dictionary → Scratch → SharedFile → Prop
  | [], _, _, _ => True
  | (query, room) :: rest, dict, scratch, file =>
      dict.encoding = .undecided →
        (∀ name, query = .lookup name →
          records.find? (form.other.encode (Bytes.ofText name)) = none) ∧
        let outcome := (dict.withRoom room).ask query scratch file
        Spells form records rest outcome.2.1 outcome.1.2 outcome.2.2

theorem spells_of_settled {records : Records} (settled : dict.encoding = .settled form)
    (asks : List (Query × Nat)) (scratch : Scratch) (file : SharedFile) :
    Spells form records asks dict scratch file := by
  cases asks with
  | nil => trivial
  | cons ask rest =>
      intro undecided
      rw [settled] at undecided
      cases undecided

theorem spells_of_free {records : Records} {asks : List (Query × Nat)}
    (stored : ∀ key value, records.find? key = some value →
      form.Encodes key ∧ form.Encodes value)
    (free : ∀ name room, (.lookup name, room) ∈ asks → 0 ∉ Bytes.ofText name)
    (dict : Dictionary) (scratch : Scratch) (file : SharedFile) :
    Spells form records asks dict scratch file := by
  induction asks generalizing dict scratch file with
  | nil => trivial
  | cons ask rest ih =>
      intro _
      constructor
      · rintro name asked
        rw [← Prod.eta ask, asked] at free
        exact Form.absent_other stored (free name ask.2 List.mem_cons_self)
      · exact ih (fun name room member => free name room (List.mem_cons_of_mem ask member)) _ _ _

theorem Attends.answers (attends : dict.Attends file.image contents age form entries outlook)
    (recent : age < UInt64.size) {query : Query} {rest : List (Query × Nat)} {scratch : Scratch}
    (spells : Spells form outlook.records ((query, room) :: rest) dict scratch file) :
    ∃ result scratch' dict' file' outlook',
      dict.answers ((query, room) :: rest) scratch file =
        result :: dict'.answers rest scratch' file' ∧
      dict'.Attends file'.image contents age form entries outlook' ∧ dict'.label = dict.label ∧
      Asked entries outlook contents.header.mapSize dict.label (query, room) result outlook' ∧
      Spells form outlook.records rest dict' scratch' file' := by
  have finds : ∀ name, query = .lookup name →
      form.Finds dict.encoding outlook.records (Bytes.ofText name) := by
    rintro name asked
    rcases attends.encoding with undecided | settled
    · exact Or.inr ⟨undecided, (spells undecided).1 name asked⟩
    · exact Or.inl settled
  obtain ⟨result, scratch', dict', file', outlook', ran, attends', label, kept, asked⟩ :=
    attends.ask recent room scratch finds
  refine ⟨result, scratch', dict', file', outlook', ?_, attends', label, asked, ?_⟩
  · rw [Dictionary.answers, ran]
  · rcases attends.encoding with undecided | settled
    · have later := (spells undecided).2
      rw [ran] at later
      exact later
    · exact spells_of_settled (kept.elim (·.trans settled) id) rest scratch' file'

/-- Every query is told what the entries say. -/
theorem Attends.tells (attends : dict.Attends file.image contents age form entries outlook)
    (recent : age < UInt64.size) {asks : List (Query × Nat)} {scratch : Scratch}
    (spells : Spells form outlook.records asks dict scratch file) :
    List.Forall₂ (Tells entries outlook contents.header.mapSize dict.label) asks
      (dict.answers asks scratch file) := by
  induction asks generalizing dict file outlook scratch with
  | nil => exact .nil
  | cons ask rest ih =>
      obtain ⟨result, scratch', dict', file', outlook', ran, attends', label, asked, spells'⟩ :=
        attends.answers recent spells
      obtain ⟨tells, record?, rfl⟩ := asked.tells
      have later := ih attends' spells'
      rw [label] at later
      rw [ran]
      exact .cons tells (later.imp fun _ _ => Tells.of_moved)

/-- The steps of a scan return the entries from its place on. -/
theorem Attends.steps (attends : dict.Attends file.image contents age form entries outlook)
    (recent : age < UInt64.size) (points : outlook.Points n) {asks : List (Query × Nat)}
    {scratch : Scratch} (spells : Spells form outlook.records asks dict scratch file)
    (goesOn : ∀ ask ∈ asks, ask.1 ≠ .scan .first) {i : Nat} {record? : Option Record}
    (step : (Dictionary.steps (dict.answers asks scratch file))[i]? = some record?) :
    record? = entries.toList[n + i]? := by
  induction asks generalizing dict file outlook scratch n i with
  | nil => cases step
  | cons ask rest ih =>
      obtain ⟨query, room⟩ := ask
      obtain ⟨result, scratch', dict', file', outlook', ran, attends', _, asked, spells'⟩ :=
        attends.answers recent spells
      have goesOn' : ∀ ask ∈ rest, ask.1 ≠ .scan .first := fun ask member =>
        goesOn ask (List.mem_cons_of_mem _ member)
      rw [ran] at step
      cases asked with
      | looked tells =>
          cases tells with
          | found => exact ih attends' points spells' goesOn' step
          | unread _ => exact ih attends' points spells' goesOn' step
      -- A step that fails is left out, and the scan is where it was.
      | unmoved _ => exact ih attends' points spells' goesOn' step
      | @stepped move _ found goes =>
          cases move with
          | first => exact absurd rfl (goesOn _ List.mem_cons_self)
          | next =>
              have here : found = outlook.records.toList[n]? := goes.symm.trans points
              subst here
              cases i with
              | zero =>
                  cases step
                  exact attends.lists.cut_getElem? n
              | succ i =>
                  rw [← Nat.succ_add_eq_add_succ]
                  exact ih attends' points.next spells' goesOn' step

/-- What a handle returns that begins a scan and goes on with it, with lookups in between. -/
structure Recites (entries : Records) (outlook : Outlook) (mapSize : UInt64) (label : String)
    (asks : List (Query × Nat)) (results : List Result) : Prop where
  tells : List.Forall₂ (Tells entries outlook mapSize label) asks results
  /-- If the scan begins, its steps return the entries one after another, and then the end. -/
  steps : ∀ first later, results = .scanned (.ok first) :: later →
    ∀ (n : Nat) (record? : Option Record), (Dictionary.steps results)[n]? = some record? →
      record? = entries.toList[n]?

theorem Attends.recites (attends : dict.Attends file.image contents age form entries outlook)
    (recent : age < UInt64.size) {rest : List (Query × Nat)} {scratch : Scratch}
    (spells : Spells form outlook.records ((.scan .first, room) :: rest) dict scratch file)
    (goesOn : ∀ ask ∈ rest, ask.1 ≠ .scan .first) :
    Recites entries outlook contents.header.mapSize dict.label ((.scan .first, room) :: rest)
      (dict.answers ((.scan .first, room) :: rest) scratch file) where
  tells := attends.tells recent spells
  steps := by
    intro first later began n record? step
    obtain ⟨result, scratch', dict', file', outlook', ran, attends', _, asked, spells'⟩ :=
      attends.answers recent spells
    obtain ⟨start, points⟩ := outlook.points_first
    rw [ran] at began step
    cases asked with
    | unmoved _ => cases began
    | stepped goes =>
        rw [goes] at start
        subst start
        cases n with
        | zero =>
            cases step
            exact attends.lists.cut_getElem? 0
        | succ n =>
            rw [Nat.add_comm]
            exact attends'.steps recent points spells' goesOn step

end Dictionary

namespace Handles

open Dictionary (Query Spells Recites)
open Environment (readHeader)

variable {start : Handles} {history : List Turn} {who : Descriptor} {dict : Dictionary}
  {contents : Contents} {form : Form}

/-- What a handle of any kind reads stands in one form, for names and values without zero bytes.
If the handle is settled on this form, or undecided, then a scan returns the names in order, each
once and with the value that a lookup of the name returns. It does so whatever is looked up
between its steps, and whatever the buffers hold. Only a handle that is undecided must not look
up a name that has a key in the other form, since it would settle on that one. -/
theorem run_recites (usable : start.file.image.Usable) (nobody : ∀ who, start.handle? who = none)
    (safe : Along step Safe history start) (recent : 2 * history.length < UInt64.size)
    (here : (run history start).handle? who = some dict)
    (holds : (run history start).file.image.Holds contents)
    (stored : ∀ key value, (dict.session.draft contents.records).find? key = some value →
      form.Encodes key ∧ form.Encodes value)
    (plain : dict.flags.foldCase = false)
    (encoding : dict.encoding = .undecided ∨ dict.encoding = .settled form)
    {rest : List (Query × Nat)} {room : Nat} {scratch : Scratch}
    (spells : Spells form (dict.session.draft contents.records) ((.scan .first, room) :: rest) dict
      scratch (run history start).file)
    (goesOn : ∀ ask ∈ rest, ask.1 ≠ .scan .first) :
    ∃ outlook entries, dict.session.outlook? contents.records = some outlook ∧
      (∀ name value, entries.find? name = some value ↔
        (dict.session.draft contents.records).find? (form.encode name) =
          some (form.encode value)) ∧
      Recites entries outlook contents.header.mapSize dict.label ((.scan .first, room) :: rest)
        (dict.answers ((.scan .first, room) :: rest) scratch (run history start).file) := by
  have begun := (created_of_usable usable nobody).begun.run (by omega) safe
  rw [Nat.zero_add] at begun
  rcases begun with ⟨_, none⟩ | ⟨found, live⟩
  · rw [none who] at here
    cases here
  · cases live.holds.unique holds
    obtain ⟨outlook, reading, drafted⟩ := (live.readers who dict here).reading holds
    obtain ⟨entries, lists⟩ := Form.exists_lists stored
    have attends : dict.Attends (run history start).file.image contents (2 * history.length) form
        entries outlook :=
      ⟨reading, drafted ▸ lists, plain, encoding⟩
    exact ⟨outlook, entries, reading.outlook?_eq, lists.find?_iff,
      attends.recites recent (drafted ▸ spells) goesOn⟩

def opensAs (who : Descriptor) (mode : OpenMode) (flags : DictionaryFlags) : Turn :=
  ⟨who, .open ⟨"t", mode, flags, { mapSize := 4096 }, Owner.ofUser 0, none, 0⟩, 65536⟩

def prefixesStored : List Turn :=
  [opensAs 3 .create { tryTerminated := true }, updates 3 "ab" [50], updates 3 "" [51],
    updates 3 "a" [49, 49], opensAs 4 .readOnly {}]

def storedNames : List Record :=
  [([], [51]), ([97], [49, 49]), ([97, 98], [50])]

def lookingUp : List (Query × Nat) :=
  [(.lookup "ab", 65536), (.scan .next, 65536), (.lookup "b", 65536), (.scan .next, 65536),
    (.lookup "", 65536), (.scan .next, 65536), (.lookup "a", 65536)]

def answers? (who : Descriptor) (asks : List (Query × Nat)) (world : Handles) :
    Option (List Dictionary.Result) :=
  (world.handle? who).map fun dict => dict.answers asks ⟨[120], [0]⟩ world.file

set_option maxRecDepth 20000 in
theorem run_recites_prefixes :
    (run prefixesStored untouched).answers? 4 ((.scan .first, 65536) :: lookingUp) =
        some [.scanned (.ok (some ([], [51]))), .answered (.ok (.value (some [50]))),
          .scanned (.ok (some ([97], [49, 49]))), .answered (.ok (.value none)),
          .scanned (.ok (some ([97, 98], [50]))), .answered (.ok (.value (some [51]))),
          .scanned (.ok none), .answered (.ok (.value (some [49, 49])))] ∧
    ∃ dict outlook entries, (run prefixesStored untouched).handle? 4 = some dict ∧
      Recites entries outlook 4096 dict.label ((.scan .first, 65536) :: lookingUp)
        (dict.answers ((.scan .first, 65536) :: lookingUp) ⟨[120], [0]⟩
          (run prefixesStored untouched).file) := by
  have safe : Along step Safe prefixesStored untouched :=
    ⟨safe_of_open rfl, (sound_of_mapped 4096 rfl (by decide +kernel) (by decide +kernel)).safe,
      (sound_of_mapped 4096 rfl (by decide +kernel) (by decide +kernel)).safe,
      (sound_of_mapped 4096 rfl (by decide +kernel) (by decide +kernel)).safe, safe_of_open rfl,
      trivial⟩
  obtain ⟨dict, here⟩ := Option.isSome_iff_exists.mp
    (show ((run prefixesStored untouched).handle? 4).isSome = true by decide +kernel)
  obtain ⟨contents, holds⟩ : ∃ contents,
      (run prefixesStored untouched).file.image.Holds contents := by
    rcases ((created_of_usable (Or.inl rfl) fun _ => rfl).begun.run (by decide) safe).usable with
      nothing | holds
    · exact absurd nothing (by decide +kernel)
    · exact holds
  have idle : dict.session.pending? = none :=
    Option.map_eq_none_iff.mp (eq_of_map_eq here (·.session.pending?.map fun _ => ())
      (by decide +kernel))
  have listed : contents.records.toList = storedNames.map Form.terminated.encodeRecord := by
    have same : (run prefixesStored untouched).file.image.committed.map (·.toList) =
        .ok (storedNames.map Form.terminated.encodeRecord) := by
      decide +kernel
    rw [holds.committed_eq] at same
    exact Except.ok.inj same
  have stored : ∀ key value, (dict.session.draft contents.records).find? key = some value →
      Form.terminated.Encodes key ∧ Form.terminated.Encodes value := by
    intro key value found
    rw [Session.draft_of_idle idle, Records.find?_eq_some_iff, listed] at found
    obtain ⟨entry, among, same⟩ := List.mem_map.mp found
    cases same
    have free : ∀ entry ∈ storedNames, 0 ∉ entry.1 ∧ 0 ∉ entry.2 := by decide
    exact ⟨⟨entry.1, rfl, (free entry among).1⟩, ⟨entry.2, rfl, (free entry among).2⟩⟩
  have plain : dict.flags.foldCase = false := eq_of_map_eq here (·.flags.foldCase)
    (by decide +kernel)
  have undecided : dict.encoding = .undecided := eq_of_map_eq here (·.encoding)
    (by decide +kernel)
  have free : ∀ name room, (.lookup name, room) ∈ (.scan .first, 65536) :: lookingUp →
      0 ∉ Bytes.ofText name := by
    have letters : ∀ name ∈ ["ab", "b", "", "a"], 0 ∉ Bytes.ofText name := by decide +kernel
    intro name room member
    refine letters name ?_
    simp only [lookingUp, List.mem_cons, Prod.mk.injEq, Query.lookup.injEq] at member
    simp only [List.mem_cons]
    tauto
  have goesOn : ∀ ask ∈ lookingUp, ask.1 ≠ .scan .first := by decide
  refine ⟨by decide +kernel, dict, ?_⟩
  obtain ⟨outlook, entries, _, _, recites⟩ := run_recites (Or.inl rfl) (fun _ => rfl) safe
    (by decide) here holds stored plain (Or.inl undecided)
    (Dictionary.spells_of_free stored free dict ⟨[120], [0]⟩ _) goesOn
  have size : contents.header.mapSize = 4096 := by
    have same : (readHeader (run prefixesStored untouched).file.image).map (·.mapSize) =
        .ok 4096 := by
      decide +kernel
    rw [holds.readable] at same
    exact Except.ok.inj same
  rw [size] at recites
  exact ⟨outlook, entries, here, recites⟩

/-! ### Scans that do not agree with lookups -/

def storedThenOpened (mode : OpenMode) (flags : DictionaryFlags) : List Turn :=
  [opensAs 3 .create { tryTerminated := true }, updates 3 "a" [49], opensAs 4 mode flags]

/-- A third handle asks for a map that there is room for once, and needs it. -/
def storedFarther : List Turn :=
  storedThenOpened .readWrite {} ++ [⟨5, .open ⟨"t", .readWrite, { tryTerminated := true },
    { mapSize := 70368744177664 }, Owner.ofUser 0, none, 0⟩, 94374748045312⟩,
    ⟨5, .obey (.perform (.update "b" [50])), 94374748045312⟩]

set_option maxRecDepth 20000 in
/-- A bulk handle that reads alone is refused both. The key of a name is also the other form of
another name, and a handle that finds it there settles on that form. A map may have become too
large for the system. -/
theorem bulkReader_and_zeroInName_and_far :
    (run (storedThenOpened .readOnly { tryTerminated := true, bulk := true })
        untouched).answers? 4 [(.scan .first, 65536), (.lookup "a", 65536)] =
      some [.scanned (.error (.engine .seeking "mapstore:t" .readOnly)),
        .answered (.error (.engine .reading "mapstore:t" .readOnly))] ∧
    (run (storedThenOpened .readOnly {}) untouched).answers? 4
        [(.scan .first, 65536), (.lookup "a\x00", 65536), (.lookup "a", 65536),
          (.scan .next, 65536)] =
      some [.scanned (.ok (some ([97], [49]))), .answered (.ok (.value (some [49]))),
        .answered (.ok (.value none)), .scanned (.ok none)] ∧
    (run storedFarther untouched).answers? 4 [(.scan .first, 65536), (.lookup "a", 65536)] =
      some [.scanned (.error (.engine .seeking "mapstore:t" (.io .outOfAddresses))),
        .answered (.error (.engine .reading "mapstore:t" (.io .outOfAddresses)))] := by
  refine ⟨?_, ?_, ?_⟩
  · decide +kernel
  · decide +kernel
  · decide +kernel

end Handles

end RecordFile
