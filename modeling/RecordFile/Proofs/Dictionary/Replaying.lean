/-
How often a bulk load is replayed.

A routine that makes a list of updates and deletions is stopped where a payload has no room beside
the committed one: after an update, or when what it wrote is committed. Then the map is doubled, and
the routine starts from the same records again. So a load that comes to its end is replayed as
often as the map has to be doubled for the longest of these payloads. It does not come to its end
when the system refuses a map of that size, or when a record is too large for any map.
-/

import Mathlib.Algebra.Ring.Nat
import RecordFile.Proofs.Dictionary.Catalog
import RecordFile.Proofs.Dictionary.Load
import RecordFile.Proofs.Dictionary.Settings
import RecordFile.Proofs.Session.Restarting

namespace RecordFile

open Environment (Mappable)

/-- A routine that makes a list of operations and ends with the first failure. -/
def Script.each {σ : Type} (state : σ) : List Operation → Script σ
  | [] => .finish state
  | operation :: rest => .ask operation (fun _ => state) (fun _ => each state rest)

structure Contents.Doubles (contents : Contents) (length steps : Nat) : Prop where
  fits : length ≤ Placement.capacity (contents.header.mapSize.toNat * 2 ^ steps)
    contents.header.dataOffset.toNat contents.header.dataLength.toNat
  least : ∀ fewer < steps, Placement.capacity (contents.header.mapSize.toNat * 2 ^ fewer)
    contents.header.dataOffset.toNat contents.header.dataLength.toNat < length

namespace Contents

variable {contents after : Contents} {length steps : Nat}

theorem Doubles.eq_zero (doubles : contents.Doubles length steps)
    (fits : length ≤ contents.capacity) : steps = 0 := by
  by_contra more
  have short := doubles.least 0 (Nat.pos_of_ne_zero more)
  rw [Nat.pow_zero, Nat.mul_one] at short
  exact Nat.not_le_of_lt short fits

theorem Doubles.pos (doubles : contents.Doubles length steps)
    (full : contents.capacity < length) : 0 < steps := by
  apply Nat.pos_of_ne_zero
  rintro rfl
  have fits := doubles.fits
  rw [Nat.pow_zero, Nat.mul_one] at fits
  exact Nat.not_le_of_lt full fits

/-- A doubled map has to be doubled once less. -/
theorem Doubles.doubled (doubles : contents.Doubles length (steps + 1))
    (headerEq : after.header = contents.header.withMapSize after.header.mapSize)
    (twice : after.header.mapSize.toNat = 2 * contents.header.mapSize.toNat) :
    after.Doubles length steps := by
  have offsetEq : after.header.dataOffset = contents.header.dataOffset := by
    rw [headerEq]
    rfl
  have lengthEq : after.header.dataLength = contents.header.dataLength := by
    rw [headerEq]
    rfl
  have sizeEq : ∀ count, after.header.mapSize.toNat * 2 ^ count =
      contents.header.mapSize.toNat * 2 ^ (count + 1) := by
    intro count
    rw [twice, Nat.pow_succ', Nat.mul_comm 2, Nat.mul_assoc]
  constructor
  · rw [sizeEq, offsetEq, lengthEq]
    exact doubles.fits
  · intro fewer less
    rw [sizeEq, offsetEq, lengthEq]
    exact doubles.least (fewer + 1) (Nat.succ_lt_succ less)

end Contents

namespace Profile

variable {profile : Profile} {form : Form} {operation : Operation} {operations : List Operation}
  {reply : Session.Reply} {result : Except DictionaryError Answer}

/-- What an operation makes of the records when there is room for any payload. -/
def change (profile : Profile) (form : Form) (records : Records) : Operation → Records
  | .lookup _ => records
  | .update name value => records.insert (profile.keyIn form name) (form.encode value)
  | .delete name => records.erase (profile.keyIn form name)

def written (profile : Profile) (form : Form) (operations : List Operation)
    (records : Records) : Records :=
  operations.foldl (profile.change form) records

/-- The longest payload there is after an update and at the end. -/
def peak (profile : Profile) (form : Form) : List Operation → Records → Nat
  | [], records => records.encodedLength
  | .update name value :: rest, records =>
      max (profile.change form records (.update name value)).encodedLength
        (peak profile form rest (profile.change form records (.update name value)))
  | operation :: rest, records => peak profile form rest (profile.change form records operation)

theorem peak_rest_le (form : Form) (operation : Operation) (rest : List Operation)
    (records : Records) :
    profile.peak form rest (profile.change form records operation) ≤
      profile.peak form (operation :: rest) records := by
  cases operation with
  | lookup name => exact Nat.le_refl _
  | update name value => exact Nat.le_max_right _ _
  | delete name => exact Nat.le_refl _

theorem written_length_le_peak (form : Form) (operations : List Operation) (records : Records) :
    (profile.written form operations records).encodedLength ≤
      profile.peak form operations records := by
  induction operations generalizing records with
  | nil => exact Nat.le_refl _
  | cons operation rest ih =>
      exact Nat.le_trans (ih _) (peak_rest_le form operation rest records)

theorem change_callFor (records : Records) (operation : Operation) :
    (profile.callFor form operation).change records = profile.change form records operation := by
  cases operation with
  | lookup name => rfl
  | update name value => rfl
  | delete name => rfl

theorem callFor_overwrites (replaces : profile.flags.policy = .replace)
    (writes : ¬ operation.Reads) : (profile.callFor form operation).Overwrites := by
  cases operation with
  | lookup name => exact absurd trivial writes
  | update name value =>
      change (!profile.flags.policy.overwrites) = false
      rw [replaces]
      rfl
  | delete name => trivial

theorem Reports.ok_of_succeeds (reports : profile.Reports operation reply result)
    (succeeds : ¬ reply.Failed) : ∃ answer, result = .ok answer := by
  cases reports with
  | value => exact ⟨_, rfl⟩
  | stored => exact ⟨_, rfl⟩
  | kept _ => exact absurd ⟨_, rfl⟩ succeeds
  | clashed _ => exact absurd ⟨_, rfl⟩ succeeds
  | deleted => exact ⟨_, rfl⟩
  | failed _ => exact absurd ⟨_, rfl⟩ succeeds

end Profile

namespace Dictionary

variable {dict dict' : Dictionary} {profile : Profile} {form : Form} {image image' : Image}
  {file file' : SharedFile} {contents after : Contents} {room restarts need : Nat}
  {operation : Operation} {operations : List Operation} {session' : Session}

structure Filler (dict : Dictionary) (profile : Profile) (form : Form) (image : Image)
    (contents : Contents) (room restarts : Nat) : Prop where
  profile_eq : dict.profile = profile
  settled : dict.encoding = .settled form
  holds : image.Holds contents
  filling : dict.session.Filling contents room restarts
  tuned : Tuned dict.session

theorem Filler.follow (filler : dict.Filler profile form image contents room restarts)
    (same : dict.Same dict') (sessionEq : dict'.session = { session' with notifications := [] })
    (retains : dict.session.Retains session') (holds : image'.Holds after) {count : Nat}
    (filling : session'.Filling after room count) :
    dict'.Filler profile form image' after room count := by
  constructor
  · exact same.profile_eq.trans filler.profile_eq
  · exact same.encoding_eq.trans filler.settled
  · exact holds
  · rw [sessionEq]
    exact filling.retold []
  · rw [sessionEq]
    exact (filler.tuned.of_retains retains).of_retains ⟨rfl, rfl, rfl, rfl, rfl⟩

inductive Halts (profile : Profile) (form : Form) (operations : List Operation) (image : Image)
    (contents : Contents) (room restarts need : Nat) :
    DictionaryError → Dictionary → Image → Prop
  | replay {dict' : Dictionary} {image' : Image} {after : Contents}
      (full : contents.capacity < need) (advances : Advances 0 image contents image' after)
      (twice : after.header.mapSize.toNat = 2 * contents.header.mapSize.toNat)
      (filler : dict'.Filler profile form image' after room (restarts + 1))
      (idle : dict'.session.pending? = none) :
      Halts profile form operations image contents room restarts need (.retry profile.label)
        dict' image'
  | refused {action : EngineAction} {cause : SystemError} {dict' : Dictionary} {image' : Image}
      {after : Contents} {size : UInt64} (advances : Advances 0 image contents image' after)
      (asked : size = contents.header.mapSize ∨
        contents.capacity < need ∧ size.toNat = 2 * contents.header.mapSize.toNat)
      (far : ¬ Mappable room size) :
      Halts profile form operations image contents room restarts need
        (.engine action profile.label (.io cause)) dict' image'
  | tooLarge {name : String} {value : Bytes} {dict' : Dictionary}
      (member : .update name value ∈ operations)
      (large : ¬ Record.Storable (profile.keyIn form name, form.encode value)) :
      Halts profile form operations image contents room restarts need
        (.engine .updating profile.label (.invalid (.recordTooLarge
          (profile.keyIn form name).length (form.encode value).length))) dict' image

/-- The map may be doubled if a payload of this length has no room. -/
def Able (contents : Contents) (restarts need : Nat) : Prop :=
  contents.capacity < need → restarts < bulkRetryLimit ∧
    2 * contents.header.mapSize.toNat ≤ largestMapSize.toNat

theorem Filler.halts_of_restarts
    (filler : dict.Filler profile form image contents room restarts)
    (able : Able contents restarts need) (full : contents.capacity < need)
    (same : dict.Same dict') (sessionEq : dict'.session = { session' with notifications := [] })
    (retains : dict.session.Retains session') {failure : EngineError}
    (came : Session.Restarts dict.session.config dict.session.bulkRetryLimit image contents room
      restarts failure session' image') (action : EngineAction) :
    Halts profile form operations image contents room restarts need
      (.ofEngine action profile.label failure) dict' image' := by
  obtain ⟨spare, half⟩ := able full
  have twice := filler.tuned.nextSize_of_half half
  cases came with
  | replay advances mapSizeEq filling idle =>
      refine .replay full advances ?_
        (filler.follow same sessionEq retains advances.holds filling) ?_
      · rw [mapSizeEq]
        exact twice
      · rw [sessionEq]
        exact idle
  | refused advances far => exact .refused advances (.inr ⟨full, twice⟩) far
  -- There are restarts left, and the map is not the largest one.
  | spent spent =>
      rw [filler.tuned.bulkRetryLimit_eq, filler.tuned.maxMapSize_eq] at spent
      have least := UInt64.le_iff_toNat_le.mp filler.holds.fits.mapSize_ge
      change 4096 ≤ contents.header.mapSize.toNat at least
      rcases spent with spent | largest
      · omega
      · have largest := UInt64.le_iff_toNat_le.mp largest
        omega

/-- An operation of a load is one call of the session, for which there is room or not. -/
theorem Filler.perform_fills
    (filler : dict.Filler profile form file.image contents room restarts)
    (replaces : profile.flags.policy = .replace) (writes : ¬ operation.Reads) :
    ∃ result dict' file' reply session', dict.perform operation file = (result, dict', file') ∧
      dict.Same dict' ∧ dict'.session = { session' with notifications := [] } ∧
      dict.session.Retains session' ∧ profile.Reports operation reply result ∧
      dict.session.Fills file.image contents room restarts (profile.callFor form operation) reply
        session' file'.image := by
  obtain ⟨result, dict', file', performed, calls⟩ :=
    perform_calls filler.settled operation file
  obtain ⟨reply, session', acted, sessionEq, reports⟩ := calls.session
  rw [filler.profile_eq] at acted reports
  have overwrites : (profile.callFor form operation).Overwrites :=
    Profile.callFor_overwrites replaces writes
  obtain ⟨_, _, _, again, fills⟩ := filler.filling.act_fills filler.holds overwrites
  rw [acted] at again
  cases again
  have other : ∀ path flags bulk, profile.callFor form operation ≠ .open path flags bulk := by
    intro path flags bulk same
    rw [same] at overwrites
    exact overwrites
  have retains := Session.retains_act dict.session file.image other 0
  rw [acted] at retains
  exact ⟨result, dict', file', reply, session', performed, calls.same, sessionEq, retains,
    reports, fills⟩

inductive Proceeds (dict : Dictionary) (profile : Profile) (form : Form)
    (operations : List Operation) (image : Image) (contents : Contents)
    (room restarts need : Nat) (operation : Operation) :
    Except DictionaryError Answer → Dictionary → Image → Prop
  | done {answer : Answer} {dict' : Dictionary}
      (filler : dict'.Filler profile form image contents room restarts)
      (begun : dict'.session.pending? ≠ none)
      (draft_eq : dict'.session.draft contents.records =
        profile.change form (dict.session.draft contents.records) operation)
      (fits : ∀ name value, operation = .update name value →
        (dict'.session.draft contents.records).encodedLength ≤ contents.capacity) :
      Proceeds dict profile form operations image contents room restarts need operation
        (.ok answer) dict' image
  | halted {failure : DictionaryError} {dict' : Dictionary} {image' : Image}
      (halts : Halts profile form operations image contents room restarts need failure dict'
        image') :
      Proceeds dict profile form operations image contents room restarts need operation
        (.error failure) dict' image'

theorem Filler.perform (filler : dict.Filler profile form file.image contents room restarts)
    (replaces : profile.flags.policy = .replace) (writes : ¬ operation.Reads)
    (member : operation ∈ operations) (able : Able contents restarts need)
    (within : ∀ name value, operation = .update name value →
      (profile.change form (dict.session.draft contents.records) operation).encodedLength ≤
        need) :
    ∃ result dict' file', dict.perform operation file = (result, dict', file') ∧
      dict.Proceeds profile form operations file.image contents room restarts need operation
        result dict' file'.image := by
  obtain ⟨result, dict', file', reply, session', performed, same, sessionEq, retains, reports,
    fills⟩ := filler.perform_fills replaces writes
  refine ⟨result, dict', file', performed, ?_⟩
  generalize file'.image = image' at fills
  cases fills with
  | edited storable succeeds filling begun draftEq fits =>
      obtain ⟨answer, rfl⟩ := reports.ok_of_succeeds succeeds
      rw [Profile.change_callFor] at draftEq fits
      have drafted : dict'.session.draft contents.records =
          profile.change form (dict.session.draft contents.records) operation := by
        rw [sessionEq]
        exact draftEq
      refine .done (filler.follow same sessionEq retains filler.holds filling) ?_ drafted ?_
      · rw [sessionEq]
        exact begun
      · rintro name value rfl
        rw [drafted]
        exact fits trivial
  | tooLarge callEq large =>
      have failed := reports.failed_eq nofun
      cases operation with
      | lookup name => cases callEq
      | update name value =>
          cases callEq
          rw [failed]
          exact .halted (.tooLarge member large)
      | delete name => cases callEq
  | unmapped far =>
      rw [reports.failed_eq nofun]
      exact .halted (.refused (.refl filler.holds) (.inl rfl) far)
  | full storable stores full came =>
      rw [Profile.change_callFor] at full
      cases operation with
      | lookup name => cases stores
      | update name value =>
          have exceeds := Nat.lt_of_lt_of_le full (within name value rfl)
          rw [reports.failed_eq came.ne_keyExists]
          exact .halted (filler.halts_of_restarts able exceeds same sessionEq retains came _)
      | delete name => cases stores

/-! ### A run of the routine -/

/-- What a run of the routine comes to. When all of it was done, only the last payload may be
longer than there is room for. -/
inductive Ends (dict : Dictionary) (profile : Profile) (form : Form)
    (operations todo : List Operation) (image : Image) (contents : Contents)
    (room restarts need : Nat) : Except DictionaryError Unit → Dictionary → Image → Prop
  | done {dict' : Dictionary} (filler : dict'.Filler profile form image contents room restarts)
      (begun : todo ≠ [] ∨ dict.session.pending? ≠ none → dict'.session.pending? ≠ none)
      (draft_eq : dict'.session.draft contents.records =
        profile.written form todo (dict.session.draft contents.records))
      (peak_le : profile.peak form todo (dict.session.draft contents.records) ≤
        max contents.capacity (dict'.session.draft contents.records).encodedLength) :
      Ends dict profile form operations todo image contents room restarts need (.ok ()) dict'
        image
  | halted {failure : DictionaryError} {dict' : Dictionary} {image' : Image}
      (halts : Halts profile form operations image contents room restarts need failure dict'
        image') :
      Ends dict profile form operations todo image contents room restarts need (.error failure)
        dict' image'

theorem Filler.run {σ : Type} (filler : dict.Filler profile form file.image contents room restarts)
    (replaces : profile.flags.policy = .replace)
    (writes : ∀ operation ∈ operations, ¬ operation.Reads) (able : Able contents restarts need)
    (state : σ) (todo : List Operation) (among : ∀ operation ∈ todo, operation ∈ operations)
    (within : profile.peak form todo (dict.session.draft contents.records) ≤ need) :
    ∃ result dict' file', (Script.each state todo).run dict file = (result, state, dict', file') ∧
      dict.Ends profile form operations todo file.image contents room restarts need result dict'
        file'.image := by
  induction todo generalizing dict file with
  | nil =>
      refine ⟨_, dict, file, rfl, .done filler (fun begun => ?_) rfl (Nat.le_max_right _ _)⟩
      exact begun.resolve_left fun none => none rfl
  | cons operation rest ih =>
      have member := among operation List.mem_cons_self
      have longest := profile.peak_rest_le form operation rest
        (dict.session.draft contents.records)
      obtain ⟨result, dict', file', performed, proceeds⟩ :=
        filler.perform replaces (writes operation member) member able (by
          rintro name value rfl
          exact Nat.le_trans (Nat.le_max_left _ _) within)
      unfold Script.each Script.run
      rw [performed]
      generalize imageEq : file'.image = image' at proceeds
      cases proceeds with
      | halted halts =>
          rw [← imageEq] at halts
          exact ⟨_, dict', file', rfl, .halted halts⟩
      | @done answer _ filler' begun draftEq fits =>
          dsimp only
          rw [← imageEq] at filler'
          rw [← draftEq] at longest
          obtain ⟨result', last, file'', ran, ends⟩ := ih filler'
            (fun later there => among later (List.mem_cons_of_mem _ there))
            (Nat.le_trans longest within)
          rw [imageEq] at ends
          refine ⟨result', last, file'', ran, ?_⟩
          generalize file''.image = image'' at ends
          cases ends with
          | halted halts => exact .halted halts
          | done filler'' goesOn draftEq' peakLe =>
              refine .done filler'' (fun _ => goesOn (.inr begun)) ?_ ?_
              · rw [draftEq', draftEq]
                rfl
              -- An update that was done has found room, and a deletion asks for none.
              · rw [draftEq] at peakLe fits
                cases operation with
                | lookup name => exact peakLe
                | update name value =>
                    apply Nat.max_le.mpr
                    constructor
                    · exact Nat.le_trans (fits name value rfl) (Nat.le_max_left _ _)
                    · exact peakLe
                | delete name => exact peakLe

inductive Passes (profile : Profile) (form : Form) (operations : List Operation) (image : Image)
    (contents : Contents) (room restarts : Nat) :
    Except DictionaryError Unit → Dictionary → Image → Prop
  | committed {dict' : Dictionary} {image' : Image} {after : Contents}
      (fits : profile.peak form operations contents.records ≤ contents.capacity)
      (holds : image'.Holds after)
      (records_eq : after.records = profile.written form operations contents.records)
      (mapSize_eq : after.header.mapSize = contents.header.mapSize)
      (limit_eq : dict'.mapLimit = contents.header.mapSize) :
      Passes profile form operations image contents room restarts (.ok ()) dict' image'
  | halted {failure : DictionaryError} {dict' : Dictionary} {image' : Image}
      (halts : Halts profile form operations image contents room restarts
        (profile.peak form operations contents.records) failure dict' image') :
      Passes profile form operations image contents room restarts (.error failure) dict' image'

theorem Filler.commit (filler : dict.Filler profile form file.image contents room restarts)
    (begun : dict.session.pending? ≠ none)
    (draftEq : dict.session.draft contents.records =
      profile.written form operations contents.records)
    (able : Able contents restarts (profile.peak form operations contents.records))
    (peakLe : profile.peak form operations contents.records ≤
      max contents.capacity (dict.session.draft contents.records).encodedLength) :
    ∃ result dict' file', dict.commit file = (result, dict', file') ∧
      Passes profile form operations file.image contents room restarts result dict'
        file'.image := by
  obtain ⟨result, session', image', committed, finishes⟩ :=
    filler.filling.commit_finishes filler.holds begun
  have retains := Session.retains_commit dict.session file.image
  rw [committed] at retains
  rw [← image_lock dict .exclusive file] at committed
  obtain ⟨dict', file', engaged, same, sessionEq, rfl⟩ :=
    dict.engine_eq .commit (fun session image => session.commit image)
      (dict.lock .exclusive file) committed
  have bulk : dict.session.bulk = true := by
    obtain ⟨age, _, drafts⟩ := filler.filling.drafts
    exact drafts.bulk
  unfold Dictionary.commit locked
  rw [if_pos bulk]
  dsimp only
  rw [engaged]
  cases finishes with
  | published fits holds recordsEq mapSizeEq limitEq =>
      refine ⟨_, dict', _, rfl, ?_⟩
      rw [image_unlock]
      refine .committed ?_ holds (recordsEq.trans draftEq) mapSizeEq ?_
      · exact Nat.le_trans peakLe (Nat.max_le.mpr ⟨Nat.le_refl _, fits⟩)
      · unfold mapLimit
        rw [sessionEq]
        exact congrArg (·.getD 0) limitEq
  | full full came =>
      have longest := profile.written_length_le_peak form operations contents.records
      rw [← draftEq] at longest
      have exceeds := Nat.lt_of_lt_of_le full longest
      refine ⟨_, dict', _, rfl, ?_⟩
      rw [image_unlock, show dict.label = profile.label from
        congrArg Profile.label filler.profile_eq]
      exact .halted (filler.halts_of_restarts able exceeds same sessionEq retains came _)

theorem Filler.pass {σ : Type} (filler : dict.Filler profile form file.image contents room restarts)
    (idle : dict.session.pending? = none) (replaces : profile.flags.policy = .replace)
    (nonempty : operations ≠ []) (writes : ∀ operation ∈ operations, ¬ operation.Reads)
    (able : Able contents restarts (profile.peak form operations contents.records)) (state : σ)
    (fill : Routine σ) (before : σ) (fillEq : fill before = (Script.each state operations).run) :
    ∃ result dict' file', fillAndCommit fill before dict file = (result, state, dict', file') ∧
      Passes profile form operations file.image contents room restarts result dict'
        file'.image := by
  have still := Session.draft_of_idle idle contents.records
  have within : profile.peak form operations (dict.session.draft contents.records) ≤
      profile.peak form operations contents.records :=
    Nat.le_of_eq (congrArg _ still)
  obtain ⟨result, dict', file', ran, ends⟩ :=
    filler.run replaces writes able state operations (fun _ member => member) within
  unfold fillAndCommit
  rw [fillEq, ran]
  generalize imageEq : file'.image = image' at ends
  cases ends with
  | halted halts =>
      rw [← imageEq] at halts
      exact ⟨_, dict', file', rfl, .halted halts⟩
  | done filler' begun draftEq peakLe =>
      rw [still] at draftEq peakLe
      rw [← imageEq] at filler'
      obtain ⟨result', last, file'', committed, passes⟩ :=
        filler'.commit (begun (.inl nonempty)) draftEq able peakLe
      dsimp only
      rw [committed]
      rw [imageEq] at passes
      exact ⟨result', last, file'', rfl, passes⟩

/-! ### All runs -/

inductive Concludes (profile : Profile) (form : Form) (operations : List Operation)
    (before : Records) (room : Nat) (top : UInt64) (replays runs : Nat) :
    Except DictionaryError Nat → Nat → Dictionary → Image → Prop
  | loaded {dict' : Dictionary} {image' : Image} {after : Contents} (holds : image'.Holds after)
      (records_eq : after.records = profile.written form operations before)
      (mapSize_eq : after.header.mapSize = top) (limit_eq : dict'.mapLimit = top) :
      Concludes profile form operations before room top replays runs (.ok replays) runs dict'
        image'
  | refused {action : EngineAction} {cause : SystemError} {runs' : Nat} {dict' : Dictionary}
      {image' : Image} {after : Contents} (holds : image'.Holds after)
      (records_eq : after.records = before) (far : ¬ Mappable room top) :
      Concludes profile form operations before room top replays runs
        (.error (.engine action profile.label (.io cause))) runs' dict' image'
  | tooLarge {name : String} {value : Bytes} {runs' : Nat} {dict' : Dictionary}
      {image' : Image} {after : Contents} (holds : image'.Holds after)
      (records_eq : after.records = before) (member : .update name value ∈ operations)
      (large : ¬ Record.Storable (profile.keyIn form name, form.encode value)) :
      Concludes profile form operations before room top replays runs
        (.error (.engine .updating profile.label (.invalid (.recordTooLarge
          (profile.keyIn form name).length (form.encode value).length)))) runs' dict' image'

def counting (operations : List Operation) : Routine Nat :=
  fun runs => (Script.each (runs + 1) operations).run

structure Loader (dict : Dictionary) (profile : Profile) (form : Form)
    (operations : List Operation) (image : Image) (contents : Contents) (room restarts : Nat)
    (top : UInt64) (steps : Nat) : Prop where
  filler : dict.Filler profile form image contents room restarts
  idle : dict.session.pending? = none
  doubles : contents.Doubles (profile.peak form operations contents.records) steps
  top_eq : top.toNat = contents.header.mapSize.toNat * 2 ^ steps
  top_le : top.toNat ≤ largestMapSize.toNat
  spare : restarts + steps ≤ bulkRetryLimit

variable {top : UInt64} {steps budget : Nat}

theorem Loader.twice_le_top
    (loader : dict.Loader profile form operations image contents room restarts top steps)
    (full : contents.capacity < profile.peak form operations contents.records) :
    2 * contents.header.mapSize.toNat ≤ top.toNat := by
  have two : 2 ^ 1 ≤ 2 ^ steps :=
    Nat.pow_le_pow_right (by decide) (loader.doubles.pos full)
  rw [loader.top_eq, Nat.mul_comm 2]
  exact Nat.mul_le_mul_left _ two

theorem Loader.able
    (loader : dict.Loader profile form operations image contents room restarts top steps) :
    Able contents restarts (profile.peak form operations contents.records) := by
  intro full
  have steps := loader.doubles.pos full
  have spare := loader.spare
  exact ⟨by omega, Nat.le_trans (loader.twice_le_top full) loader.top_le⟩

theorem Loader.far
    (loader : dict.Loader profile form operations image contents room restarts top steps)
    {size : UInt64} (asked : size = contents.header.mapSize ∨
      contents.capacity < profile.peak form operations contents.records ∧
        size.toNat = 2 * contents.header.mapSize.toNat)
    (far : ¬ Mappable room size) : ¬ Mappable room top := by
  refine fun mappable => far (mappable.mono (UInt64.le_iff_toNat_le.mpr ?_))
  rcases asked with rfl | ⟨full, twice⟩
  · rw [loader.top_eq]
    exact Nat.le_mul_of_pos_right _ (Nat.two_pow_pos steps)
  · rw [twice]
    exact loader.twice_le_top full

/-- After a doubling the next run begins, with one doubling less to come. -/
theorem Loader.next
    (loader : dict.Loader profile form operations image contents room restarts top (steps + 1))
    (advances : Advances 0 image contents image' after)
    (twice : after.header.mapSize.toNat = 2 * contents.header.mapSize.toNat)
    (filler : dict'.Filler profile form image' after room (restarts + 1))
    (idle : dict'.session.pending? = none) :
    dict'.Loader profile form operations image' after room (restarts + 1) top steps := by
  have spare := loader.spare
  constructor
  · exact filler
  · exact idle
  · rw [advances.records_eq rfl]
    exact loader.doubles.doubled (advances.header_eq rfl) twice
  · rw [loader.top_eq, twice, Nat.pow_succ, Nat.mul_comm (2 ^ steps), ← Nat.mul_assoc,
      Nat.mul_comm _ 2]
  · exact loader.top_le
  · omega

/-- A run settles the load, or it is replayed. -/
theorem Loader.loadFrom_cases
    (loader : dict.Loader profile form operations file.image contents room restarts top steps)
    (replaces : profile.flags.policy = .replace) (nonempty : operations ≠ [])
    (writes : ∀ operation ∈ operations, ¬ operation.Reads) (replays runs : Nat)
    (enough : steps ≤ budget) :
    (∃ result runs' dict' file', loadFrom (counting operations) replays budget runs dict file =
        (result, runs', dict', file') ∧
      Concludes profile form operations contents.records room top (replays + steps)
        (runs + steps + 1) result runs' dict' file'.image) ∨
    (∃ fewer left dict' file' after, steps = fewer + 1 ∧ budget = left + 1 ∧
      loadFrom (counting operations) replays budget runs dict file =
        loadFrom (counting operations) (replays + 1) left (runs + 1) dict' file' ∧
      after.records = contents.records ∧
      dict'.Loader profile form operations file'.image after room (restarts + 1) top fewer) := by
  obtain ⟨result, dict', file', filled, passes⟩ :=
    loader.filler.pass loader.idle replaces nonempty writes loader.able (runs + 1)
      (counting operations) runs rfl
  generalize imageEq : file'.image = image' at passes
  cases passes with
  | committed fits holds recordsEq mapSizeEq limitEq =>
      have none := loader.doubles.eq_zero fits
      subst none
      have topEq : top = contents.header.mapSize := by
        apply UInt64.toNat_inj.mp
        rw [loader.top_eq, Nat.pow_zero, Nat.mul_one]
      refine .inl ⟨_, _, dict', file', loadFrom_of_ok filled, ?_⟩
      rw [imageEq, topEq]
      exact .loaded holds recordsEq mapSizeEq limitEq
  | halted halts =>
      cases halts with
      | replay full advances twice filler idle =>
          have pos := loader.doubles.pos full
          obtain ⟨fewer, rfl⟩ := Nat.exists_eq_succ_of_ne_zero (Nat.ne_of_gt pos)
          obtain ⟨left, rfl⟩ :=
            Nat.exists_eq_succ_of_ne_zero (Nat.ne_of_gt (Nat.lt_of_lt_of_le pos enough))
          refine .inr ⟨fewer, left, dict', file', _, rfl, rfl, loadFrom_of_retry filled rfl,
            advances.records_eq rfl, ?_⟩
          rw [imageEq]
          exact loader.next advances twice filler idle
      | refused advances asked far =>
          refine .inl ⟨_, _, dict', file', loadFrom_of_failed filled rfl, ?_⟩
          rw [imageEq]
          exact .refused advances.holds (advances.records_eq rfl) (loader.far asked far)
      | tooLarge member large =>
          refine .inl ⟨_, _, dict', file', loadFrom_of_failed filled rfl, ?_⟩
          rw [imageEq]
          exact .tooLarge loader.filler.holds rfl member large

/-- Doubled more often the map would be longer than any. -/
theorem steps_le (holds : image.Holds contents)
    (below : contents.header.mapSize.toNat * 2 ^ steps ≤ largestMapSize.toNat) :
    steps ≤ bulkRetryLimit := by
  by_contra more
  have many : 2 ^ 128 ≤ 2 ^ steps :=
    Nat.pow_le_pow_right (by decide) (Nat.le_of_lt (Nat.lt_of_not_le more))
  have least := UInt64.le_iff_toNat_le.mp holds.fits.mapSize_ge
  change 4096 ≤ contents.header.mapSize.toNat at least
  have long := Nat.mul_le_mul least many
  have short : largestMapSize.toNat < 4096 * 2 ^ 128 := by decide
  omega

theorem Loader.loadFrom_concludes
    (loader : dict.Loader profile form operations file.image contents room restarts top steps)
    (replaces : profile.flags.policy = .replace) (nonempty : operations ≠ [])
    (writes : ∀ operation ∈ operations, ¬ operation.Reads) (replays runs : Nat)
    (enough : steps ≤ budget) :
    ∃ result runs' dict' file', loadFrom (counting operations) replays budget runs dict file =
        (result, runs', dict', file') ∧
      Concludes profile form operations contents.records room top (replays + steps)
        (runs + steps + 1) result runs' dict' file'.image := by
  induction steps generalizing dict file contents restarts replays runs budget with
  | zero =>
      rcases loader.loadFrom_cases replaces nonempty writes replays runs enough with
        settled | ⟨fewer, _, _, _, _, more, _⟩
      · exact settled
      · cases more
  | succ steps ih =>
      rcases loader.loadFrom_cases replaces nonempty writes replays runs enough with
        settled | ⟨fewer, left, dict', file', after, same, rfl, replayed, recordsEq, loader'⟩
      · exact settled
      · cases same
        have settled := ih loader' (replays + 1) (runs + 1) (Nat.le_of_succ_le_succ enough)
        rw [recordsEq, Nat.add_right_comm replays, Nat.add_right_comm runs] at settled
        rw [replayed]
        exact settled

/-- A load that begins with a record that no payload can hold ends there, unless the map cannot be
mapped. -/
theorem Filler.load_tooLarge
    (filler : dict.Filler profile form file.image contents room restarts)
    (replaces : profile.flags.policy = .replace)
    (mappable : Mappable room contents.header.mapSize) {name : String} {value : Bytes}
    (large : ¬ Record.Storable (profile.keyIn form name, form.encode value))
    (rest : List Operation) (runs : Nat) :
    (dict.load (counting (.update name value :: rest)) runs file).1 =
      .error (.engine .updating profile.label (.invalid (.recordTooLarge
        (profile.keyIn form name).length (form.encode value).length))) := by
  obtain ⟨result, dict', file', reply, session', performed, _, _, _, reports, fills⟩ :=
    filler.perform_fills replaces (show ¬ (Operation.update name value).Reads from id)
  have failed : result = .error (.engine .updating profile.label (.invalid (.recordTooLarge
      (profile.keyIn form name).length (form.encode value).length))) := by
    generalize file'.image = image' at fills
    cases fills with
    | edited storable _ _ _ _ _ => exact absurd storable large
    | tooLarge callEq _ =>
        cases callEq
        exact reports.failed_eq nofun
    | unmapped far => exact absurd mappable far
    | full storable _ _ _ => exact absurd storable large
  have filled : fillAndCommit (counting (.update name value :: rest)) runs dict file =
      (result.map fun _ => (), runs + 1, dict', file') := by
    unfold fillAndCommit counting Script.each Script.run
    rw [performed, failed]
    rfl
  rw [failed] at filled
  exact congrArg Prod.fst (loadFrom_of_failed filled rfl)

end Dictionary

namespace Handles

open Dictionary (counting largestMapSize Concludes)

variable {start world : Handles} {history : List Turn} {who : Descriptor} {dict : Dictionary}
  {form : Form} {operations : List Operation}

structure Replaces (dict : Dictionary) (form : Form) : Prop where
  bulk : dict.session.bulk = true
  policy_eq : dict.policy = .replace
  settled : dict.encoding = .settled form
  idle : dict.session.pending? = none
  anew : dict.session.bulkRetries = 0

theorem Reaches.filler (reaches : start.Reaches history world who dict)
    (replaces : Replaces dict form) (room : Nat) :
    ∃ contents,
      (dict.withRoom room).Filler dict.profile form world.file.image contents room 0 := by
  obtain ⟨contents, valid⟩ := reaches.valid
  have recent := reaches.recent
  have writer := valid.writers who dict reaches.here
  have idle : (dict.withRoom room).session.pending? = none := replaces.idle
  refine ⟨contents, rfl, replaces.settled, valid.holds, ?_, reaches.tuned room⟩
  refine ⟨⟨2 * history.length, by omega, ?_⟩, fun begun => absurd idle begun, replaces.anew, ?_⟩
  · have drafts : dict.session.Drafts contents (2 * history.length) :=
      ⟨replaces.bulk, writer.follows, writer.opened⟩
    exact drafts.withRoom room
  · intro env here
    obtain ⟨_, _, rfl⟩ := Option.map_eq_some_iff.mp here
    rfl

/-- A load of updates and deletions that replaces duplicates is replayed as often as the map has to
be doubled for the longest payload, and then the file holds what the list makes of the records.
Otherwise the system refuses the map, or a record is too large for any map, and the records stay as
they are. -/
theorem load_replaysLeast (reaches : start.Reaches history world who dict)
    (replaces : Replaces dict form) (nonempty : operations ≠ [])
    (writes : ∀ operation ∈ operations, ¬ operation.Reads) (room : Nat) :
    ∃ contents, world.file.image.Holds contents ∧
      ∀ steps, contents.Doubles (dict.profile.peak form operations contents.records) steps →
        contents.header.mapSize.toNat * 2 ^ steps ≤ largestMapSize.toNat →
          ∃ top result runs dict' file',
            top.toNat = contents.header.mapSize.toNat * 2 ^ steps ∧
            (dict.withRoom room).load (counting operations) 0 world.file =
              (result, runs, dict', file') ∧
            Concludes dict.profile form operations contents.records room top steps (steps + 1)
              result runs dict' file'.image := by
  obtain ⟨contents, filler⟩ := reaches.filler replaces room
  refine ⟨contents, filler.holds, fun steps doubles below => ?_⟩
  -- The budgets of the load and of the session are larger than any number of doublings.
  have few : steps ≤ Dictionary.replayLimit :=
    Dictionary.steps_le filler.holds below
  have topEq : (UInt64.ofNat (contents.header.mapSize.toNat * 2 ^ steps)).toNat =
      contents.header.mapSize.toNat * 2 ^ steps := by
    apply UInt64.toNat_ofNat_of_lt'
    exact Nat.lt_of_le_of_lt below (UInt64.toNat_lt _)
  have loader : (dict.withRoom room).Loader dict.profile form operations world.file.image
      contents room 0 (UInt64.ofNat (contents.header.mapSize.toNat * 2 ^ steps)) steps := by
    constructor
    · exact filler
    · exact replaces.idle
    · exact doubles
    · exact topEq
    · rw [topEq]
      exact below
    · rw [Nat.zero_add]
      exact few
  obtain ⟨result, runs, dict', file', loaded, settles⟩ :=
    loader.loadFrom_concludes replaces.policy_eq nonempty writes 0 0 few
  rw [Nat.zero_add] at settles
  exact ⟨_, result, runs, dict', file', topEq, loaded, settles⟩

def opensReplacing : Turn :=
  ⟨3, .open ⟨"t", .create, { tryBare := true, bulk := true, duplicateReplace := true }, {},
    Owner.ofUser 0, none, 0⟩, 65536⟩

def threeStored : List Operation :=
  [.update "a" (List.replicate 6000 118), .update "b" (List.replicate 6000 118),
    .update "c" (List.replicate 6000 118), .delete "a"]

def loads (who : Descriptor) (operations : List Operation) (room : Nat) (world : Handles) :
    Option (Except DictionaryError Nat × Nat × Dictionary × SharedFile) :=
  (world.handle? who).map fun dict =>
    (dict.withRoom room).load (counting operations) 0 world.file

def replacing : Handles :=
  run [opensReplacing] untouched

theorem empty_of_read {file : Image} {contents : Contents} {size : UInt64}
    (holds : file.Holds contents)
    (read : Environment.readHeader file = .ok (Header.empty size))
    (committed : file.committed = .ok Records.empty) :
    contents.header = Header.empty size ∧ contents.records = Records.empty := by
  rw [holds.readable] at read
  rw [holds.committed_eq] at committed
  exact ⟨Except.ok.inj read, Except.ok.inj committed⟩

set_option maxRecDepth 20000 in
theorem reaches_replacing (here : replacing.handle? 3 = some dict) :
    untouched.Reaches [opensReplacing] replacing 3 dict where
  usable := .inl rfl
  nobody _ := rfl
  sound := ⟨rfl, trivial⟩
  recent := by decide
  ends := rfl
  here := here

theorem replaces_replacing (here : replacing.handle? 3 = some dict) : Replaces dict .bare where
  bulk := eq_of_map_eq here (·.session.bulk) (by decide +kernel)
  policy_eq := eq_of_map_eq here (·.policy) (by decide +kernel)
  settled := eq_of_map_eq here (·.encoding) (by decide +kernel)
  idle := eq_of_map_eq here (·.session.pending?) (by decide +kernel)
  anew := eq_of_map_eq here (·.session.bulkRetries) (by decide +kernel)

set_option maxRecDepth 20000 in
/-- The map is doubled for the second record, and again for the third one. -/
theorem load_replaysLeast_threeStored :
    (replacing.loads 3 threeStored 65536).map
        (fun outcome => (outcome.1.toOption, outcome.2.1, outcome.2.2.1.mapLimit)) =
      some (some 2, 3, 32768) ∧
    ∃ profile top outcome, top.toNat = 8192 * 2 ^ 2 ∧
      profile.peak .bare threeStored Records.empty = 18027 ∧
      replacing.loads 3 threeStored 65536 = some outcome ∧
      Concludes profile .bare threeStored Records.empty 65536 top 2 3 outcome.1 outcome.2.1
        outcome.2.2.1 outcome.2.2.2.image := by
  obtain ⟨dict, here⟩ := Option.isSome_iff_exists.mp
    (show (replacing.handle? 3).isSome = true by decide +kernel)
  have peak : dict.profile.peak .bare threeStored Records.empty = 18027 :=
    eq_of_map_eq here (·.profile.peak .bare threeStored Records.empty) (by decide +kernel)
  have writes : ∀ operation ∈ threeStored, ¬ operation.Reads := by
    simp [threeStored, Operation.Reads]
  obtain ⟨contents, holds, settles⟩ :=
    load_replaysLeast (reaches_replacing here) (replaces_replacing here) (List.cons_ne_nil _ _)
      writes 65536
  obtain ⟨headerEq, recordsEq⟩ : contents.header = Header.empty 8192 ∧
      contents.records = Records.empty :=
    empty_of_read holds (by decide +kernel) (by decide +kernel)
  have doubles : contents.Doubles (dict.profile.peak .bare threeStored contents.records) 2 := by
    rw [recordsEq, peak]
    constructor
    · rw [headerEq]
      decide
    · rw [headerEq]
      decide
  obtain ⟨top, result, runs, dict', file', topEq, loaded, settles⟩ :=
    settles 2 doubles (by rw [headerEq]; decide)
  rw [headerEq] at topEq
  rw [recordsEq] at settles
  refine ⟨by decide +kernel, dict.profile, top, (result, runs, dict', file'), topEq, peak, ?_,
    settles⟩
  unfold loads
  rw [here]
  exact congrArg some loaded

def askedFar : List Turn :=
  [opensReplacing, ⟨4, .open ⟨"t", .readWrite, { tryBare := true },
    { mapSize := 140737488355328 }, Owner.ofUser 0, none, 0⟩, 65536⟩]

def replacingFar : Handles :=
  run askedFar untouched

/-- What a load fails for that has room for its longest payload after so many doublings. -/
def Misses (world : Handles) (operations : List Operation) (steps : Nat)
    (failure : DictionaryError) : Prop :=
  ∃ dict contents, world.handle? 3 = some dict ∧ Replaces dict .bare ∧
    world.file.image.Holds contents ∧
    contents.Doubles (dict.profile.peak .bare operations contents.records) steps ∧
    contents.header.mapSize.toNat * 2 ^ steps ≤ largestMapSize.toNat ∧
    (world.loads 3 operations 65536).map (·.1) = some (.error failure)

set_option maxRecDepth 20000 in
theorem replacingFar_misses :
    replacingFar.Misses [.update "a" [49]] 0
      (.engine .updating "mapstore:t" (.io .outOfAddresses)) := by
  have same : replacingFar.handle? 3 = replacing.handle? 3 := by decide +kernel
  obtain ⟨dict, here⟩ := Option.isSome_iff_exists.mp
    (show (replacing.handle? 3).isSome = true by decide +kernel)
  have reaches : untouched.Reaches askedFar replacingFar 3 dict :=
    ⟨.inl rfl, fun _ => rfl, ⟨rfl, rfl, trivial⟩, by decide, rfl, same.trans here⟩
  obtain ⟨contents, valid⟩ := reaches.valid
  obtain ⟨headerEq, recordsEq⟩ : contents.header = Header.empty 140737488355328 ∧
      contents.records = Records.empty :=
    empty_of_read valid.holds (by decide +kernel) (by decide +kernel)
  have peak : dict.profile.peak .bare [.update "a" [49]] Records.empty = 10 :=
    eq_of_map_eq here (·.profile.peak .bare [.update "a" [49]] Records.empty) (by decide +kernel)
  refine ⟨dict, contents, same.trans here, replaces_replacing here, valid.holds, ?_, ?_, ?_⟩
  · rw [recordsEq, peak]
    constructor
    · rw [headerEq]
      decide
    · nofun
  · rw [headerEq]
    decide
  · decide +kernel

theorem replacing_misses_tooLarge {value : Bytes} (long : value.length = 4294967296) :
    replacing.Misses [.update "a" value] 20
      (.engine .updating "mapstore:t" (.invalid (.recordTooLarge 1 4294967296))) := by
  obtain ⟨dict, here⟩ := Option.isSome_iff_exists.mp
    (show (replacing.handle? 3).isSome = true by decide +kernel)
  have replaces := replaces_replacing here
  obtain ⟨contents, filler⟩ := (reaches_replacing here).filler replaces 65536
  obtain ⟨headerEq, recordsEq⟩ : contents.header = Header.empty 8192 ∧
      contents.records = Records.empty :=
    empty_of_read filler.holds (by decide +kernel) (by decide +kernel)
  have key : dict.profile.keyIn .bare "a" = [97] :=
    eq_of_map_eq here (·.profile.keyIn .bare "a") (by decide +kernel)
  have label : dict.profile.label = "mapstore:t" :=
    eq_of_map_eq here (·.profile.label) (by decide +kernel)
  have peak : dict.profile.peak .bare [.update "a" value] Records.empty = 4294967305 := by
    have total := Records.encodedLength_insert Records.empty [97] value
    rw [Records.lengthAt_of_none (Records.find?_empty _)] at total
    change max (Records.empty.insert (dict.profile.keyIn .bare "a") value).encodedLength
      (Records.empty.insert (dict.profile.keyIn .bare "a") value).encodedLength = _
    rw [key, Nat.max_self]
    change _ = 0 + (8 + 1 + value.length) at total
    omega
  have mappable : Environment.Mappable 65536 contents.header.mapSize := by
    rw [headerEq]
    exact ⟨by decide, by decide⟩
  have large : ¬ Record.Storable (dict.profile.keyIn .bare "a", Form.bare.encode value) := by
    rintro ⟨_, short⟩
    change value.length < 4294967296 at short
    omega
  have failed := filler.load_tooLarge replaces.policy_eq mappable large [] 0
  rw [key, label] at failed
  refine ⟨dict, contents, here, replaces, filler.holds, ?_, ?_, ?_⟩
  · rw [recordsEq, peak]
    constructor
    · rw [headerEq]
      decide
    · rw [headerEq]
      decide
  · rw [headerEq]
    decide
  · unfold loads
    rw [here]
    rw [← long]
    exact congrArg some failed

/-- Nobody else writes and there is room for the longest payload in a map that is not too large. The
load fails because the map has a size that cannot be mapped, or because a value is too long for any
map. -/
theorem load_misses_far_and_tooLarge :
    (replacingFar.handle? 4 = none ∧
      replacingFar.Misses [.update "a" [49]] 0
        (.engine .updating "mapstore:t" (.io .outOfAddresses))) ∧
    replacing.Misses [.update "a" (List.replicate 4294967296 0)] 20
      (.engine .updating "mapstore:t" (.invalid (.recordTooLarge 1 4294967296))) :=
  ⟨⟨by decide +kernel, replacingFar_misses⟩, replacing_misses_tooLarge List.length_replicate⟩

end Handles

end RecordFile
