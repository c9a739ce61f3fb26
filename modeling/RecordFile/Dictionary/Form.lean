/-
The two physical forms of keys and values, and the end of a value at a zero byte.

A terminated string is stored with one zero byte after it, a bare one as given. A value is
read up to its first zero byte in either form.
-/

import RecordFile.Bytes

namespace RecordFile

inductive Form where
  /-- One zero byte follows every key and value. -/
  | terminated
  /-- Keys and values are stored as given. -/
  | bare
  deriving DecidableEq, Repr

namespace Form

def name : Form → String
  | terminated => "terminated"
  | bare => "bare"

def ofName? : String → Option Form
  | "terminated" => some terminated
  | "bare" => some bare
  | _ => none

def encode (form : Form) (data : Bytes) : Bytes :=
  match form with
  | terminated => data ++ [0]
  | bare => data

theorem encode_injective (form : Form) {left right : Bytes}
    (same : form.encode left = form.encode right) : left = right := by
  cases form with
  | terminated => exact List.append_cancel_right same
  | bare => exact same

end Form

namespace Bytes

def untilZero (data : Bytes) : Bytes :=
  data.takeWhile (· != 0)

/-- A value is read as it was given, whatever form it was stored in. -/
theorem untilZero_encode (form : Form) (data : Bytes) :
    untilZero (form.encode data) = untilZero data := by
  cases form with
  | bare => rfl
  | terminated =>
      unfold untilZero
      induction data with
      | nil => rfl
      | cons byte rest ih =>
          change List.takeWhile (· != 0) (byte :: Form.terminated.encode rest) = _
          rw [List.takeWhile_cons, List.takeWhile_cons, ih]

def copyTerminated (data : Bytes) : Bytes :=
  untilZero data ++ [0]

def terminatedContents (copy : Bytes) : Bytes :=
  copy.dropLast

@[simp]
theorem terminatedContents_copyTerminated (data : Bytes) :
    terminatedContents (copyTerminated data) = untilZero data := by
  simp [terminatedContents, copyTerminated]

end Bytes

end RecordFile
