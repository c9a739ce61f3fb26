/-
The buffers of a handle.

A handle has one buffer for a key and one for a value. A lookup puts one form of the name after
another into the first, and copies the value that it finds into the second. A scan copies what it
returns into both, and the results of both are read off the buffers. What the buffers held before
plays no part in any of this.
-/

import RecordFile.Dictionary.Basic

namespace RecordFile

structure Scratch where
  key : Bytes
  value : Bytes

def Form.encodeInto (form : Form) (data buffer : Bytes) : Bytes :=
  let filled := buffer.take 0 ++ data
  match form with
  | terminated => filled ++ [0]
  | bare => filled

/-- Empty a buffer and copy data into it up to the first zero byte, with one zero byte after it. -/
def Bytes.copyInto (data buffer : Bytes) : Bytes :=
  buffer.take 0 ++ data.take (data.findIdx (· == 0)) ++ [0]

@[simp]
theorem Form.encodeInto_eq (form : Form) (data buffer : Bytes) :
    form.encodeInto data buffer = form.encode data := by
  cases form <;> simp [encodeInto, encode]

@[simp]
theorem Bytes.copyInto_eq (data buffer : Bytes) : copyInto data buffer = copyTerminated data := by
  have same : data.take (data.findIdx (· == 0)) = untilZero data := by
    unfold untilZero
    induction data with
    | nil => rfl
    | cons byte rest ih =>
        by_cases zero : byte = 0
        · simp [List.findIdx_cons, zero]
        · have other : (byte == 0) = false := beq_false_of_ne zero
          simp [List.findIdx_cons, other, zero, ih]
  simp [copyInto, copyTerminated, same]

namespace Dictionary

/-- Look for a name in one form after another, and copy the value of the first that is found. -/
def fetchInto (name : Bytes) : List Form → Scratch → Dictionary → SharedFile →
    (Except DictionaryError Bool × Scratch) × Dictionary × SharedFile
  | [], scratch, dict, file => ((.ok false, scratch), dict, file)
  | form :: rest, scratch, dict, file =>
      let scratch := { scratch with key := form.encodeInto name scratch.key }
      match fetch scratch.key dict file with
      | (.error failure, dict, file) =>
          ((.error (.ofEngine .reading dict.label failure), scratch), dict, file)
      | (.ok none, dict, file) => fetchInto name rest scratch dict file
      | (.ok (some value), dict, file) =>
          ((.ok true, { scratch with value := Bytes.copyInto value scratch.value }),
            { dict with encoding := dict.encoding.confirm form }, file)

def lookupInto (dict : Dictionary) (name : String) (scratch : Scratch) (file : SharedFile) :
    (Except DictionaryError (Option Bytes) × Scratch) × Dictionary × SharedFile :=
  dict.locked .shared
    (fun dict file =>
      match fetchInto (Bytes.ofText (dict.fold name)) dict.encoding.candidates scratch dict
          file with
      | ((.error failure, scratch), after) => ((.error failure, scratch), after)
      | ((.ok false, scratch), after) => ((.ok none, scratch), after)
      | ((.ok true, scratch), after) =>
          ((.ok (some (Bytes.terminatedContents scratch.value)), scratch), after))
    file

def sequenceInto (dict : Dictionary) (move : CursorMove) (scratch : Scratch)
    (file : SharedFile) :
    (Except DictionaryError (Option Record) × Scratch) × Dictionary × SharedFile :=
  dict.locked .shared
    (fun dict file =>
      match dict.engineRead .seek (fun session image => session.seek move image) file with
      | (.error failure, after) =>
          ((.error (.ofEngine .seeking dict.label failure), scratch), after)
      | (.ok none, after) => ((.ok none, scratch), after)
      | (.ok (some (key, value)), after) =>
          let scratch : Scratch :=
            ⟨Bytes.copyInto key scratch.key, Bytes.copyInto value scratch.value⟩
          ((.ok (some (Bytes.terminatedContents scratch.key,
            Bytes.terminatedContents scratch.value)), scratch), after))
    file

/-! ### Without the buffers -/

variable {dict : Dictionary} {file : SharedFile}

theorem fetchInto_eq (name : Bytes) (forms : List Form) (scratch : Scratch) (dict : Dictionary)
    (file : SharedFile) :
    ∃ scratch', fetchInto name forms scratch dict file =
        (((tryForms name .reading fetch forms dict file).1.map Option.isSome, scratch'),
          (tryForms name .reading fetch forms dict file).2) ∧
      ∀ value, (tryForms name .reading fetch forms dict file).1 = .ok (some value) →
        scratch'.value = Bytes.copyTerminated value := by
  induction forms generalizing scratch dict file with
  | nil => exact ⟨scratch, rfl, nofun⟩
  | cons form rest ih =>
      unfold fetchInto tryForms
      dsimp only
      rw [Form.encodeInto_eq]
      rcases fetch (form.encode name) dict file with ⟨failure | value?, dict', file'⟩
      · exact ⟨_, rfl, nofun⟩
      · cases value? with
        | none => exact ih _ dict' file'
        | some value =>
            refine ⟨_, rfl, ?_⟩
            intro found same
            cases same
            exact Bytes.copyInto_eq _ _

theorem lookupInto_eq (dict : Dictionary) (name : String) (scratch : Scratch)
    (file : SharedFile) :
    ∃ scratch', dict.lookupInto name scratch file =
      (((dict.lookup name file).1, scratch'), (dict.lookup name file).2) := by
  obtain ⟨scratch', fetched, copied⟩ := fetchInto_eq (Bytes.ofText (dict.fold name))
    dict.encoding.candidates scratch dict (dict.lock .shared file)
  refine ⟨scratch', ?_⟩
  unfold lookupInto lookup locked
  dsimp only
  rw [fetched]
  rcases tried : tryForms (Bytes.ofText (dict.fold name)) .reading fetch
    dict.encoding.candidates dict (dict.lock .shared file) with ⟨failure | value?, after⟩
  · rfl
  · rw [tried] at copied
    cases value? with
    | none => rfl
    | some value => simp [Except.map, copied value rfl]

theorem sequenceInto_eq (dict : Dictionary) (move : CursorMove) (scratch : Scratch)
    (file : SharedFile) :
    ∃ scratch', dict.sequenceInto move scratch file =
      (((dict.sequence move file).1, scratch'), (dict.sequence move file).2) := by
  unfold sequenceInto sequence locked
  dsimp only
  rcases dict.engineRead .seek (fun session image => session.seek move image)
    (dict.lock .shared file) with ⟨failure | record?, after⟩
  · exact ⟨_, rfl⟩
  · cases record? with
    | none => exact ⟨_, rfl⟩
    | some record =>
        obtain ⟨key, value⟩ := record
        dsimp only
        rw [Bytes.copyInto_eq, Bytes.copyInto_eq, Bytes.terminatedContents_copyTerminated,
          Bytes.terminatedContents_copyTerminated]
        exact ⟨_, rfl⟩

end Dictionary

end RecordFile
