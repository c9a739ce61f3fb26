/-
Operations on records without any bound.

A dictionary works on a shelf, which is the encoding it has settled on and the records. Here
an operation never lacks room: it is refused for the size of a record or for a key that is
present, and for nothing else.
-/

import RecordFile.Dictionary.Basic
import RecordFile.Proofs.Environment.Writing

namespace RecordFile

instance decidableEqExcept {ε α : Type} [DecidableEq ε] [DecidableEq α] :
    DecidableEq (Except ε α)
  | .ok left, .ok right =>
      decidable_of_iff (left = right) ⟨congrArg Except.ok, Except.ok.inj⟩
  | .error left, .error right =>
      decidable_of_iff (left = right) ⟨congrArg Except.error, Except.error.inj⟩
  | .ok _, .error _ => isFalse nofun
  | .error _, .ok _ => isFalse nofun

inductive EngineError.Drops : EngineError → Prop
  | retry : Drops .retry
  | retryLimit {limit : Nat} {cause : EngineError} : Drops (.retryLimit limit cause)
  | io {cause : SystemError} : Drops (.io cause)

inductive Operation where
  | lookup (name : String)
  | update (name : String) (value : Bytes)
  | delete (name : String)

def Operation.name : Operation → String
  | .lookup name => name
  | .update name _ => name
  | .delete name => name

def Operation.Reads : Operation → Prop
  | .lookup _ => True
  | _ => False

inductive Answer where
  | value (value? : Option Bytes)
  | updated (outcome : UpdateOutcome)
  | deleted (present : Bool)
  deriving DecidableEq

structure Shelf where
  encoding : Encoding
  records : Records

structure Profile where
  label : String
  flags : DictionaryFlags
  defaultForm : Form

namespace Shelf

def find? (shelf : Shelf) (key : Bytes) : Option (Form × Bytes) :=
  shelf.encoding.candidates.findSome? fun form =>
    (shelf.records.find? (form.encode key)).map fun value => (form, value)

/-- The shelf after a search, in which a hit settles the encoding and changes the records. -/
def searched (shelf : Shelf) (change : Records → Bytes → Records) (key : Bytes) :
    Option (Form × Bytes) → Shelf
  | none => shelf
  | some (form, _) =>
      ⟨shelf.encoding.confirm form, change shelf.records (form.encode key)⟩

end Shelf

namespace Profile

def fold (profile : Profile) (name : String) : String :=
  if profile.flags.foldCase then name.map Char.toLower else name

def ready (profile : Profile) (shelf : Shelf) : Shelf :=
  { shelf with encoding := shelf.encoding.forWrite profile.defaultForm }

/-- Store a value in the form to write, if it can be stored and the policy allows for it. -/
def store (profile : Profile) (name : String) (value : Bytes) (shelf : Shelf) :
    Except DictionaryError Answer × Shelf :=
  let form := shelf.encoding.formToWrite profile.defaultForm
  let key := form.encode (Bytes.ofText (profile.fold name))
  let stored : Shelf :=
    { profile.ready shelf with records := shelf.records.insert key (form.encode value) }
  if !Transaction.isStorable key (form.encode value) then
    (.error (.engine .updating profile.label
      (.invalid (.recordTooLarge key.length (form.encode value).length))), profile.ready shelf)
  else
    match shelf.records.find? key, profile.flags.policy with
    | none, _ => (.ok (.updated .stored), stored)
    | some _, .replace => (.ok (.updated .stored), stored)
    | some _, .ignore => (.ok (.updated .duplicate), profile.ready shelf)
    | some _, .warn => (.ok (.updated .duplicate), profile.ready shelf)
    | some _, .fatal =>
        (.error (.duplicate profile.label (profile.fold name)), profile.ready shelf)

/-- An operation on records without any bound. -/
def apply (profile : Profile) (shelf : Shelf) :
    Operation → Except DictionaryError Answer × Shelf
  | .lookup name =>
      let key := Bytes.ofText (profile.fold name)
      let hit? := shelf.find? key
      (.ok (.value (hit?.map fun hit => Bytes.untilZero hit.2)),
        shelf.searched (fun records _ => records) key hit?)
  | .update name value => profile.store name value shelf
  | .delete name =>
      let key := Bytes.ofText (profile.fold name)
      let hit? := shelf.find? key
      (.ok (.deleted hit?.isSome), shelf.searched Records.erase key hit?)

def tried (profile : Profile) (encoding : Encoding) : Operation → Encoding
  | .update _ _ => encoding.forWrite profile.defaultForm
  | _ => encoding

/-- The failure reports that the draft is lost. -/
def GivesUp (profile : Profile) (failure : DictionaryError) : Prop :=
  ∃ action source, EngineError.Drops source ∧ failure = .ofEngine action profile.label source

variable {profile : Profile} {shelf : Shelf} {name : String} {value : Bytes} {form : Form}
  {key : Bytes}

theorem store_of_admits
    (formEq : form = shelf.encoding.formToWrite profile.defaultForm)
    (keyEq : key = form.encode (Bytes.ofText (profile.fold name)))
    (admitted : (putRules shelf.records.find? key (form.encode value)
      (!profile.flags.policy.overwrites)).admits) :
    profile.store name value shelf = (.ok (.updated .stored),
      ⟨(profile.ready shelf).encoding, shelf.records.insert key (form.encode value)⟩) := by
  subst formEq keyEq
  obtain ⟨fits, free⟩ := admitted
  unfold store
  dsimp only
  rw [if_neg (by rw [(Transaction.isStorable_iff _ _).mpr fits]; simp)]
  split
  · rfl
  · rfl
  · next here policy => exact absurd ⟨by rw [policy]; rfl, by rw [here]; simp⟩ free
  · next here policy => exact absurd ⟨by rw [policy]; rfl, by rw [here]; simp⟩ free
  · next here policy => exact absurd ⟨by rw [policy]; rfl, by rw [here]; simp⟩ free

theorem store_of_large
    (formEq : form = shelf.encoding.formToWrite profile.defaultForm)
    (keyEq : key = form.encode (Bytes.ofText (profile.fold name)))
    (large : ¬ Record.Storable (key, form.encode value)) :
    profile.store name value shelf = (.error (.engine .updating profile.label
      (.invalid (.recordTooLarge key.length (form.encode value).length))),
        profile.ready shelf) := by
  subst formEq keyEq
  unfold store
  dsimp only
  rw [if_pos]
  rw [← Transaction.isStorable_iff] at large
  simpa using large

theorem store_of_clashes
    (formEq : form = shelf.encoding.formToWrite profile.defaultForm)
    (keyEq : key = form.encode (Bytes.ofText (profile.fold name)))
    (fits : Record.Storable (key, form.encode value))
    (clashes : Transaction.Clashes shelf.records.find? key (!profile.flags.policy.overwrites)) :
    profile.store name value shelf =
      (match profile.flags.policy with
        | .ignore => .ok (.updated .duplicate)
        | .warn => .ok (.updated .duplicate)
        | _ => .error (.duplicate profile.label (profile.fold name)),
        profile.ready shelf) := by
  subst formEq keyEq
  obtain ⟨keeps, present⟩ := clashes
  unfold store
  dsimp only
  rw [if_neg (by rw [(Transaction.isStorable_iff _ _).mpr fits]; simp)]
  split
  · next absent => exact absurd absent present
  · next policy =>
      rw [policy] at keeps
      cases keeps
  · next policy => rw [policy]
  · next policy => rw [policy]
  · next policy => rw [policy]

theorem records_of_reads {operation : Operation} (reads : operation.Reads) {shelf' : Shelf}
    {result : Except DictionaryError Answer}
    (applied : profile.apply shelf operation = (result, shelf')) :
    shelf'.records = shelf.records := by
  cases operation with
  | lookup name =>
      cases applied
      unfold Shelf.searched
      split
      · rfl
      · rfl
  | update _ _ => exact reads.elim
  | delete _ => exact reads.elim

end Profile

end RecordFile
