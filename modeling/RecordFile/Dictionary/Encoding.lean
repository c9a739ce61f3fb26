/-
Which forms a handle still takes into account.

A handle is undecided or settled on one form. It settles once, on the form of the first
record it finds or, when it writes first, on its default form.
-/

import RecordFile.Dictionary.Flags
import RecordFile.Dictionary.Form

namespace RecordFile

inductive Encoding where
  | undecided
  | settled (form : Form)
  deriving DecidableEq, Repr

namespace Encoding

def name : Encoding → String
  | undecided => "undecided"
  | settled form => form.name

/-- The state at open. One of the two switches alone settles the form. -/
def ofFlags (flags : DictionaryFlags) : Encoding :=
  match flags.tryTerminated, flags.tryBare with
  | true, false => settled .terminated
  | false, true => settled .bare
  | _, _ => undecided

def candidates : Encoding → List Form
  | undecided => [.terminated, .bare]
  | settled form => [form]

def isPlausible (encoding : Encoding) (form : Form) : Bool :=
  match encoding with
  | undecided => true
  | settled other => other == form

def confirm (encoding : Encoding) (form : Form) : Encoding :=
  match encoding with
  | undecided => settled form
  | settled other => settled other

def formToWrite (encoding : Encoding) (default : Form) : Form :=
  match encoding with
  | undecided => default
  | settled form => form

def forWrite (encoding : Encoding) (default : Form) : Encoding :=
  settled (encoding.formToWrite default)

def form? : Encoding → Option Form
  | undecided => none
  | settled form => some form

def showIn (encoding : Encoding) (flags : DictionaryFlags) : DictionaryFlags :=
  { flags with
    tryTerminated := encoding.isPlausible .terminated
    tryBare := encoding.isPlausible .bare }

end Encoding

end RecordFile
